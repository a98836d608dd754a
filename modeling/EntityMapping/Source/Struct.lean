import EntityMapping.Source.Grammar.Path

/-! Structs as they are written in source text, with what a mapping needs of them: the attributes, and the names and types of
the fields. Visibilities, generic parameters and their bounds are read and left out. -/

namespace EntityMapping.Source

structure WrittenField where
  attributes : List Attribute
  /-- The name, which the fields of a tuple do not have. -/
  name : Option String
  type : WrittenType
deriving DecidableEq, Repr

structure WrittenStruct where
  attributes : List Attribute
  fields : List WrittenField
deriving DecidableEq, Repr

namespace Reader

/-- Whether parentheses hold the place that a visibility is restricted to. Other parentheses are those of a tuple. -/
def atRestriction : List Token → Bool
  | .opening '(' :: .word w :: rest =>
    w == "in" || (["crate", "self", "super"].contains w && match rest with
      | .closing ')' :: _ => true
      | _ => false)
  | _ => false

/-- A visibility, which may be missing. Tells whether there is one. -/
def visibility : Reader Bool := whenAt (atWord "pub") do
  word "pub"
  let _ ← whenAt atRestriction <| inside '(' do
    if ← allowWord "in" then
      let _ ← modulePath
    else
      let _ ← anyWord

section

variable (g : Grammar)

/-- A struct inside a field without a name, of which only the source counts. -/
def nestedFields : Reader WrittenType := do
  let (_, source) ← captured <| verbatim do
    let _ ← anyWord
    g.namedFields
  write source
  pure (.other source)

def namedField : Reader WrittenField := do
  let attributes ← attributes g
  let _ ← visibility
  let name ← if ← next (atWord "_") then anyWord else name
  symbols ":"
  let isNested ← next fun ts => name == "_" && (atWord "struct" ts || atWord "union" ts && thenAt (atOpening '{') ts)
  pure ⟨attributes, some name, ← if isNested then nestedFields g else g.writtenType⟩

def tupleField : Reader WrittenField := do
  let attributes ← attributes g
  let _ ← visibility
  pure ⟨attributes, none, ← g.writtenType⟩

def namedFields : Reader (List WrittenField) := list '{' (namedField g)

def tupleFields : Reader (List WrittenField) := list '(' (tupleField g)

/-- The fields between braces, or those of a tuple, or none before a semicolon. -/
def fields : Reader (List WrittenField) := do
  if ← next (atOpening '(') then
    let list ← tupleFields g
    let _ ← whereClause g
    symbols ";"
    pure list
  else
    let _ ← whereClause g
    if ← allowSymbols ";" then pure [] else namedFields g

/-- A struct from its keyword on. -/
def structBody : Reader (List WrittenField) := do
  word "struct"
  let _ ← name
  let _ ← generics g
  fields g

def struct : Reader WrittenStruct := do
  let attributes ← attributes g
  let _ ← visibility
  pure ⟨attributes, ← structBody g⟩

end

end Reader

end EntityMapping.Source
