import EntityMapping.Source.Grammar.Basic

/-! Attributes, and the items in the lists of those that speak to the mapping. -/

namespace EntityMapping.Source

/-- What an attribute holds after its name. -/
inductive AttributeContent where
  | list (tokens : List Token)
  | nothing
  | value
deriving DecidableEq, Repr

structure Attribute where
  /-- The name, with colons in it when it is a path. -/
  name : String
  content : AttributeContent
deriving DecidableEq, Repr

/-- What follows the name of an item. -/
inductive ItemContent where
  | nothing
  | text (value : String)
  /-- Something else than a string after an equals sign. -/
  | other
deriving DecidableEq, Repr

/-- An item of an attribute list. -/
structure Item where
  name : String
  content : ItemContent
deriving DecidableEq, Repr

namespace Reader

/-- A path of plain names, each accepted by a test, as it is shown: with blanks between names and colons. -/
def namePath (isName : List Token → Bool) : Reader String := do
  let rooted ← allowSymbols "::"
  let first ← taking isName
  let others ← many do
    if ← allowSymbols "::" then pure (some (" :: " ++ (← taking isName).source)) else pure none
  pure ((if rooted then ":: " else "") ++ first.source ++ String.join others)

/-- A name or one of the keywords for a place in the tree of modules. -/
def atModuleName (tokens : List Token) : Bool := atName tokens || ["super", "self", "Self", "crate"].any (atWord · tokens)

def modulePath : Reader String := namePath atModuleName

def item : Reader Item := do
  let name ← namePath atAnyWord
  if ← allowSymbols "=" then
    match ← next List.head? with
    | some (.literal (.text value) _) =>
      let _ ← one
      pure ⟨name, .text value⟩
    | _ => pure ⟨name, .other⟩
  else pure ⟨name, .nothing⟩

section

variable (g : Grammar)

def attributeContent : Reader AttributeContent := do
  if ← next fun ts => atOpening '(' ts || atOpening '[' ts || atOpening '{' ts then pure (.list (← group))
  else if ← next fun ts => atSymbols "=" ts && !atSymbols "==" ts && !atSymbols "=>" ts then
    symbols "="
    if ← next fun ts => atSymbols "#" ts && thenAt (atOpening '[') ts then fail
    else
      g.expression true
      pure .value
  else pure .nothing

def attributeBody : Reader Attribute := inside '[' do
  let name ← if ← next (atWord "unsafe") then anyWord else modulePath
  pure ⟨name, ← attributeContent g⟩

/-- The attributes in front of something. -/
def attributes : Reader (List Attribute) := many do
  if ← allowSymbols "#" then pure (some (← attributeBody g)) else pure none

/-- The attributes in front of something, of which only the source counts. -/
def skipAttributes : Reader Unit := do let _ ← attributes g

/-- The attributes at the start of a block, which speak of the block itself. -/
def innerAttributes : Reader Unit := whileAt (fun ts => atSymbols "#" ts && thenAt (atSymbols "!") ts) do
  symbols "#"
  symbols "!"
  let _ ← attributeBody g

/-- A block that may start with attributes. -/
def innerBlock : Reader Unit := inside '{' do
  innerAttributes g
  g.statements

end

end Reader

namespace Item

/-- The items of a list, read from left to right. At the first place where no item, or no comma after one, can be read the list
ends, and what was read before it stays. -/
def readAll (tokens : List Token) : List Item :=
  match Reader.item tokens with
  | none => []
  | some ⟨item, _, .symbol ',' _ :: rest⟩ => if rest.length < tokens.length then item :: readAll rest else [item]
  | some ⟨item, _, _⟩ => [item]
termination_by tokens.length

end Item

end EntityMapping.Source
