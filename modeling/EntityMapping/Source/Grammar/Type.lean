import EntityMapping.Source.Grammar.Path

/-! The grammar of types. -/

namespace EntityMapping.Source.Reader

variable (g : Grammar)

def atPointer (tokens : List Token) : Bool := ["fn", "unsafe", "extern"].any (atWord · tokens)

/-- The name of a calling convention, which may be missing. -/
def convention : Reader Unit := do
  if ← allowWord "extern" then
    let _ ← whenAt atText literalToken

/-- A name or a blank before a colon. -/
def atLabel (afterColon : List Token → Bool) (tokens : List Token) : Bool :=
  (atName tokens || atWord "_" tokens)
    && thenAt (fun ts => atColon ts && thenAt afterColon ts) tokens

def atVariadic (tokens : List Token) : Bool := atSymbols "..." tokens || atLabel (atSymbols "...") tokens

/-- A parameter, which may have a label. The first one may stand for the value that the function belongs to. Tells whether it is
one that may change. -/
def pointerParameter (isFirst : Bool) : Reader Bool := do
  let changes ← whenAt (fun ts => isFirst && atWord "mut" ts && thenAt (atWord "self") ts) (word "mut")
  let label ← if ← next fun ts =>
        atLabel (fun _ => true) ts || isFirst && atWord "self" ts && thenAt atColon ts then
      let label ← anyWord
      symbols ":"
      pure (some label)
    else pure none
  if ← next fun ts => isFirst && label != some "self" && atWord "mut" ts && thenAt (atWord "self") ts then
    word "mut"
    word "self"
    pure true
  else if changes && label.isNone then
    word "self"
    pure true
  else
    g.type true
    pure changes

/-- Parameters up to the closing bracket. The last one may stand for any number of others. -/
def pointerParameters : Reader Unit := do
  let _ ← iterate (fun isFirst => do
    if ← next atEnd then pure none
    else
      skipAttributes g
      if ← next atVariadic then
        let _ ← whenAt (fun ts => !atSymbols "..." ts) do
          let _ ← anyWord
          symbols ":"
        symbols "..."
        let _ ← allowSymbols ","
        pure none
      else
        let _ ← verbatimIf id (pointerParameter g isFirst)
        if ← next atEnd then pure none
        else do
          symbols ","
          pure (some false)) true

def functionPointer : Reader Unit := do
  let _ ← allowWord "unsafe"
  convention
  word "fn"
  inside '(' (pointerParameters g)
  result g

/-- What stands in parentheses. -/
inductive Parenthesized where
  /-- A tuple, or several bounds. -/
  | closed
  /-- A bound that may not hold. -/
  | maybe (core : String)
  /-- A single type; one that is a bound may be the first of several. -/
  | type (core : Option String)

/-- The source of a type that may be the first of several bounds. -/
def boundCore? : TypeShape → Option String
  | .path p => if p.path.qualified then none else some p.path.source
  | .bound core => some core
  | .other => none

def insideParentheses : Reader Parenthesized := do
  if ← next atEnd then pure .closed
  else if ← next atLifetime then
    bounds g true false false
    pure .closed
  else if ← next (atSymbols "?") then
    let (_, core) ← captured (traitBound g false)
    write core
    pure (.maybe core)
  else
    let (shape, source) ← captured (g.typeShape true)
    write source
    if ← allowSymbols "," then
      separated atEnd "," (g.type true)
      pure .closed
    else pure (.type (boundCore? shape))

/-- Bounds, each after a `+`. -/
def addedBounds : Reader Unit := whileAt (atSymbols "+") do
  symbols "+"
  let _ ← bound g false false

def parenthesized (plus : Bool) : Reader TypeShape := do
  let (content, source) ← captured (inside '(' (insideParentheses g))
  let goesOn ← next (atSymbols "+")
  match content with
  | .maybe core =>
    write source
    addedBounds g
    pure (if goesOn then .other else .bound core)
  | .type (some core) =>
    if plus && goesOn then
      write ("(" ++ core ++ ")")
      addedBounds g
    else write source
    pure .other
  | _ =>
    write source
    pure .other

/-- An array or a slice. -/
def sequence : Reader Unit := inside '[' do
  g.type true
  let _ ← whenAt (atSymbols ";") do
    symbols ";"
    g.expression true

def pointer : Reader Unit := do
  symbols "*"
  if ← next (atWord "mut") then word "mut" else word "const"
  g.type false

def reference : Reader Unit := do
  symbols "&"
  let _ ← allowLifetime
  let _ ← allowWord "mut"
  g.type false

/-- An object of traits. With a star it is kept as it stands. -/
def traitObject (plus : Bool) : Reader Unit := do
  let _ ← verbatimIf id do
    word "dyn"
    let star ← allowSymbols "*"
    bounds g plus false false
    pure star

/-- A type that starts with a path, given the parameters that it is open in. They make it a bound, and so do other bounds. -/
def pathType (plus opens : Bool) (binder : String) : Reader TypeShape := do
  let (p, _) ← captured (anyPath g true)
  if p.path.qualified then
    write p.path.source
    pure (.path p)
  else if ← next (atMacro p) then
    write p.path.source
    let _ ← macroCall
    pure .other
  else
    write (binder ++ p.path.source)
    let goesOn ← next fun ts => plus && atSymbols "+" ts
    let _ ← if plus then moreBounds g false false else pure []
    pure (if goesOn then .other else if opens then .bound (binder ++ p.path.source) else .path p)

def atTypePath (tokens : List Token) : Bool :=
  atModuleName tokens || atSymbols "::" tokens || atSymbols "<" tokens

/-- A type without a path at its start. -/
def builtType (plus : Bool) : Reader Unit := do
  if ← next (atWord "dyn") then traitObject g plus
  else if ← next (atOpening '[') then sequence g
  else if ← next (atSymbols "*") then pointer g
  else if ← next (atSymbols "&") then reference g
  else if ← next (atSymbols "!") then symbols "!"
  else if ← next (atWord "_") then word "_"
  else if ← next atLifetime then bounds g true false false
  else
    word "impl"
    bounds g plus true true

/-- A type; with `plus` it may go on with bounds after a `+`. -/
def type (plus : Bool) : Reader TypeShape := do
  let (opens, binder) ← captured (whenAt (atWord "for") (binder g))
  if ← next fun ts => opens && !(atName ts || atPointer ts) then fail
  else if ← next (atOpening '(') then parenthesized g plus
  else if ← next atPointer then
    write binder
    functionPointer g
    pure .other
  else if ← next atTypePath then pathType g plus opens binder
  else
    builtType g plus
    pure .other

end EntityMapping.Source.Reader
