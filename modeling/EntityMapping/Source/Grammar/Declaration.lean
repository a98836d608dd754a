import EntityMapping.Source.Grammar.Pattern
import EntityMapping.Source.Grammar.Type
import EntityMapping.Source.Struct

/-! The grammar of declarations, which may stand among the statements of a block. A reader here that answers does so to tell
whether the declaration has a form that is kept as it stands. -/

namespace EntityMapping.Source.Reader

variable (g : Grammar)

/-- What follows a word that may be missing. -/
def past (s : String) (tokens : List Token) : List Token := if atWord s tokens then later tokens else tokens

/-- What follows a calling convention that may be missing. -/
def pastConvention (tokens : List Token) : List Token :=
  if atWord "extern" tokens then
    let rest := later tokens
    if atText rest then later rest else rest
  else tokens

/-- Whether a function comes next; with `safes` it may be marked as safe. -/
def atFunction (safes : Bool) (tokens : List Token) : Bool :=
  let marked := past "async" (past "const" tokens)
  let unmarked := if safes && atWord "safe" marked then later marked else past "unsafe" marked
  atWord "fn" (pastConvention unmarked)

/-- The value that a function belongs to. -/
def receiver : Reader Unit := do
  let isReference ← allowSymbols "&"
  let _ ← whenAt (fun ts => isReference && atLifetime ts) lifetime
  let _ ← allowWord "mut"
  word "self"
  let _ ← whenAt (fun ts => !isReference && atSymbols ":" ts) do
    symbols ":"
    g.type true

/-- The dots for any number of parameters, after which only a comma may follow. -/
def variadicEnd : Reader (Option Bool) := do
  symbols "..."
  let _ ← whenAt (fun ts => !atEnd ts) (symbols ",")
  pure none

/-- Goes on after a parameter, if others follow. -/
def afterParameter : Reader (Option Bool) := do
  if ← next atEnd then pure none
  else do
    symbols ","
    pure (some false)

/-- Parameters up to the closing bracket. The first one may stand for the value that the function belongs to. A type with
arguments may do without a name, for which a blank is written. -/
def functionParameters : Reader Unit := do
  let _ ← iterate (fun (isFirst : Bool) => do
    if ← next atEnd then pure none
    else
      skipAttributes g
      if ← next (atSymbols "...") then variadicEnd
      else if (← attempt (receiver g)).isSome then
        if isFirst then afterParameter else fail
      else if ← next fun ts => atName ts && thenAt (atSymbols "<") ts then
        write "_:"
        g.type true
        afterParameter
      else
        g.pattern false
        symbols ":"
        if ← next (atSymbols "...") then variadicEnd
        else
          g.type true
          afterParameter) true

/-- A function up to its body. Tells whether it is marked as safe. -/
def signature (safes : Bool) : Reader Bool := do
  let _ ← allowWord "const"
  let _ ← allowWord "async"
  let isUnsafe ← allowWord "unsafe"
  let isSafe ← whenAt (fun ts => safes && !isUnsafe && atWord "safe" ts) (word "safe")
  convention
  word "fn"
  let _ ← name
  let _ ← generics g
  inside '(' (functionParameters g)
  let _ ← whenAt (atSymbols "->") do
    symbols "->"
    g.type true
  let _ ← whereClause g
  pure isSafe

/-- A function with or without a body. Tells whether it has none. -/
def function : Reader Bool := do
  let _ ← signature g false
  if ← allowSymbols ";" then pure true
  else
    innerBlock g
    pure false

/-- The value of something, which may be missing. Tells whether it is there. -/
def value : Reader Bool := whenAt (atSymbols "=") do
  symbols "="
  g.expression true

/-- A constant. Tells whether it has parameters or a clause, and whether it has no value. -/
def constantItem : Reader (Bool × Bool) := do
  word "const"
  if ← next (atWord "_") then word "_"
  else
    let _ ← name
  let isGeneric ← generics g
  symbols ":"
  g.type true
  let hasValue ← value g
  let hasClause ← whereClause g
  symbols ";"
  pure (isGeneric || hasClause, !hasValue)

/-- A place for a value, whose type or value may be missing. -/
def staticItem : Reader Bool := do
  word "static"
  let _ ← allowWord "mut"
  let _ ← name
  if ← next (atSymbols "=") then
    let _ ← value g
    symbols ";"
    pure true
  else
    symbols ":"
    g.type true
    if ← allowSymbols ";" then pure true
    else
      symbols "="
      g.expression true
      symbols ";"
      pure false

/-- Bounds, of which there may be none, up to something else. -/
def boundsUntil (stop : List Token → Bool) : Reader Unit := separated stop "+" (parameterBound g)

/-- A name for a type, from its keyword on. A where clause may stand before the type, or after it, or at either place. Tells
whether it has bounds and whether it has a type. -/
def typeItem (before after : Bool) : Reader (Bool × Bool) := do
  word "type"
  let _ ← name
  let _ ← generics g
  let (hasBounds, bounds) ← captured <| whenAt (atSymbols ":") do
    symbols ":"
    boundsUntil g fun ts => atWord "where" ts || atSymbols "=" ts || atSymbols ";" ts
  write (if bounds == ":" then "" else bounds)
  let clausesBefore ← if before then whereClause g else pure false
  let hasType ← whenAt (atSymbols "=") do
    symbols "="
    g.type true
  let _ ← if after && !clausesBefore then whereClause g else pure false
  symbols ";"
  pure (hasBounds, hasType)

/-- One form of an enumeration. Its visibility is not written. -/
def variant : Reader Unit := do
  skipAttributes g
  let _ ← unwritten visibility
  let _ ← name
  if ← next (atOpening '{') then
    let _ ← namedFields g
  else
    let _ ← whenAt (atOpening '(') do
      let _ ← tupleFields g
  let _ ← value g

def enumeration : Reader Unit := do
  word "enum"
  let _ ← name
  let _ ← generics g
  let _ ← whereClause g
  let _ ← list '{' (variant g)

def union : Reader Unit := do
  word "union"
  let _ ← name
  let _ ← generics g
  let _ ← whereClause g
  let _ ← namedFields g

/-- A new name for something that is used, which may be a blank. -/
def otherName : Reader Unit := do
  let _ ← whenAt (atWord "as") do
    word "as"
    if ← next (atWord "_") then word "_"
    else
      let _ ← name

/-- What a declaration of used names lists. -/
def usedNames (root : Bool) : Reader Unit := do
  if ← next (atOpening '{') then
    let _ ← list '{' do
      let rooted ← whenAt (fun ts => root && atSymbols "::" ts) (symbols "::")
      g.usedNames (root && !rooted)
  else if ← next (atSymbols "*") then symbols "*"
  else if ← next fun ts => atName ts || ["self", "super", "crate", "try"].any (atWord · ts) then
    let _ ← anyWord
    if ← allowSymbols "::" then g.usedNames false else otherName
  else fail

def useItem : Reader Unit := do
  word "use"
  let rooted ← allowSymbols "::"
  usedNames g (!rooted)
  symbols ";"

def externalCrate : Reader Unit := do
  word "extern"
  word "crate"
  if ← next (atWord "self") then word "self"
  else
    let _ ← name
  otherName
  symbols ";"

/-- A macro with a name for what it makes, which may be missing where names are allowed. Only braces need no semicolon. -/
def macroItem (names : Bool) : Reader Unit := do
  let _ ← modulePath
  symbols "!"
  let _ ← whenAt (fun ts => names && (atName ts || atWord "try" ts)) do
    let _ ← anyWord
  let braces ← next (atOpening '{')
  let _ ← group
  if !braces then symbols ";"

/-- A macro that is declared by a keyword. -/
def macroDeclaration : Reader Unit := do
  word "macro"
  let _ ← name
  let _ ← whenAt (atOpening '(') do
    let _ ← group
  if ← next (atOpening '{') then
    let _ ← group
  else fail

def atMacroItem (tokens : List Token) : Bool :=
  atName tokens || ["self", "super", "crate"].any (atWord · tokens) || atSymbols "::" tokens

/-- A block of declarations. -/
def declarations (r : Reader Unit) : Reader Unit := inside '{' do
  innerAttributes g
  untilEnd r

/-- A place for a value elsewhere. -/
def foreignStatic : Reader Bool := do
  let isUnsafe ← allowWord "unsafe"
  let isSafe ← whenAt (fun ts => !isUnsafe && atWord "safe" ts) (word "safe")
  word "static"
  let _ ← allowWord "mut"
  let _ ← name
  symbols ":"
  g.type true
  let hasValue ← value g
  symbols ";"
  pure (isUnsafe || isSafe || hasValue)

def foreignFunction : Reader Bool := do
  let isSafe ← signature g true
  if ← allowSymbols ";" then pure isSafe
  else
    innerBlock g
    pure true

/-- A declaration of something elsewhere. -/
def foreignItem : Reader Unit := do
  let _ ← verbatimIf id do
    skipAttributes g
    let isVisible ← visibility
    if ← next (atFunction true) then foreignFunction g
    else if ← next fun ts =>
        atWord "static" ts || (atWord "unsafe" ts || atWord "safe" ts) && thenAt (atWord "static") ts then foreignStatic g
    else if ← next (atWord "type") then
      let (hasBounds, hasType) ← typeItem g true true
      pure (hasBounds || hasType)
    else if isVisible then fail
    else
      macroItem false
      pure false

def foreignItems : Reader Unit := do
  let _ ← allowWord "unsafe"
  word "extern"
  let _ ← whenAt atText literalToken
  declarations g (foreignItem g)

/-- A part of a trait. -/
def traitItem : Reader Unit := do
  let _ ← verbatimIf id do
    skipAttributes g
    let isVisible ← visibility
    let isDefault ← allowWord "default"
    if ← next (atFunction false) then
      let _ ← function g
      pure (isVisible || isDefault)
    else if ← next (atWord "const") then
      let (isGeneric, _) ← constantItem g
      pure (isVisible || isDefault || isGeneric)
    else if ← next (atWord "type") then
      let _ ← typeItem g false true
      pure (isVisible || isDefault)
    else if isVisible || isDefault then fail
    else
      macroItem false
      pure false

/-- A trait, or another name for several of them. -/
def traitDeclaration (aliases : Bool) : Reader Unit := do
  word "trait"
  let _ ← name
  let _ ← generics g
  if ← next fun ts => aliases && atSymbols "=" ts then
    symbols "="
    boundsUntil g fun ts => atWord "where" ts || atSymbols ";" ts
    let _ ← whereClause g
    symbols ";"
  else
    colonThen (boundsUntil g fun ts => atWord "where" ts || atOpening '{' ts)
    let _ ← whereClause g
    declarations g (traitItem g)

/-- A part of an implementation. -/
def implementationItem : Reader Unit := do
  let _ ← verbatimIf id do
    skipAttributes g
    let isVisible ← visibility
    let isDefault ← whenAt (fun ts => atWord "default" ts && !thenAt (atSymbols "!") ts) (word "default")
    if ← next (atFunction false) then function g
    else if ← next (atWord "const") then
      let (isGeneric, lacksValue) ← constantItem g
      pure (isGeneric || lacksValue)
    else if ← next (atWord "type") then
      let (hasBounds, hasType) ← typeItem g false true
      pure (hasBounds || !hasType)
    else if isVisible || isDefault then fail
    else
      macroItem false
      pure false

/-- An implementation, for a type or of a trait for it. Without a trait it cannot be denied. -/
def implementation : Reader Bool := do
  let _ ← allowWord "default"
  let _ ← allowWord "unsafe"
  word "impl"
  let _ ← if ← next atGenerics then generics g else pure false
  let isConstant ← whenAt (fun ts => atWord "const" ts || atSymbols "?" ts && thenAt (atWord "const") ts) do
    let _ ← allowSymbols "?"
    word "const"
  let isDenied ← whenAt (fun ts => atSymbols "!" ts && !thenAt (atOpening '{') ts) (symbols "!")
  let trait ← g.writtenType
  let isForType ← whenAt (atWord "for") do
    word "for"
    g.type true
  if isDenied && !isForType then fail
  else
    let _ ← whereClause g
    declarations g (implementationItem g)
    pure (isConstant || isForType && !trait.path?.any (!·.qualified))

def moduleDeclaration : Reader Unit := do
  let _ ← allowWord "unsafe"
  word "mod"
  if ← next (atWord "try") then word "try"
  else
    let _ ← name
  if ← allowSymbols ";" then pure () else declarations g g.declaration

/-- Whether one of two words comes next, the other one after it. -/
def atWords (first second : String) (tokens : List Token) : Bool := atWord first tokens && thenAt (atWord second) tokens

def atTrait (tokens : List Token) : Bool := atWord "trait" tokens || atWords "auto" "trait" tokens

/-- A declaration after its visibility. -/
def declarationBody (isVisible : Bool) : Reader Bool := do
  if ← next (atFunction false) then function g
  else if ← next (atWords "extern" "crate") then
    externalCrate
    pure false
  else if ← next fun ts => atWord "extern" ts || atWords "unsafe" "extern" ts then
    if isVisible then fail
    else
      foreignItems g
      pure false
  else if ← next (atWord "use") then
    useItem g
    pure false
  else if ← next (atWord "static") then staticItem g
  else if ← next (atWord "const") then
    let (isGeneric, lacksValue) ← constantItem g
    pure (isGeneric || lacksValue)
  else if ← next fun ts => atWord "mod" ts || atWords "unsafe" "mod" ts then
    moduleDeclaration g
    pure false
  else if ← next (atWord "type") then
    let (hasBounds, hasType) ← typeItem g true false
    pure (hasBounds || !hasType)
  else if ← next (atWord "struct") then
    let _ ← structBody g
    pure false
  else if ← next (atWord "enum") then
    enumeration g
    pure false
  else if ← next fun ts => atWord "union" ts && thenAt atName ts then
    union g
    pure false
  else if ← next (atWord "trait") then
    traitDeclaration g true
    pure false
  else if ← next (atTrait <| past "unsafe" ·) then
    let _ ← allowWord "unsafe"
    let _ ← allowWord "auto"
    traitDeclaration g false
    pure false
  else if ← next fun ts => atWord "impl" ts || atWords "unsafe" "impl" ts
      || atWord "default" ts && !thenAt (atSymbols "!") ts then
    pure ((← implementation g) || isVisible)
  else if ← next (atWord "macro") then
    macroDeclaration
    pure true
  else if isVisible then fail
  else if ← next atMacroItem then
    macroItem true
    pure false
  else fail

/-- A declaration with the attributes and the visibility in front of it. -/
def declaration : Reader Unit := do
  let _ ← verbatimIf id do
    skipAttributes g
    let isVisible ← visibility
    declarationBody g isVisible

end EntityMapping.Source.Reader
