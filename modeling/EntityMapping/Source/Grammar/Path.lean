import EntityMapping.Source.Attribute

/-! Paths with their arguments, and what arguments and parameters are made of: bounds, constants and where clauses. In a list
that mixes lifetimes with others the lifetimes are written first. -/

namespace EntityMapping.Source

/-- An argument between angle brackets. -/
inductive Argument where
  | lifetime
  | type (t : WrittenType)
  | other

namespace Argument

def isLifetime : Argument → Bool
  | lifetime => true
  | _ => false

def type? : Argument → Option WrittenType
  | type t => some t
  | _ => none

end Argument

/-- One name of a path. -/
structure Segment where
  name : String
  /-- The arguments, if there are angle brackets. -/
  arguments : Option (List Argument)
  /-- The source of the arguments. -/
  source : String

namespace ReadPath

/-- A path of no names. -/
def start (rooted qualified : Bool) (source : String) : ReadPath :=
  ⟨⟨[], rooted, qualified, false, source⟩, none, source, true⟩

/-- Adds a name to a path. -/
def add (p : ReadPath) (colons : String) (s : Segment) : ReadPath :=
  let stem := p.path.source ++ colons ++ s.name
  let path := { p.path with
    names := p.path.names ++ [s.name], applied := p.path.applied || s.arguments.isSome, source := stem ++ s.source }
  ⟨path, (s.arguments.bind List.head?).bind Argument.type?, stem, (s.arguments.getD []).isEmpty⟩

end ReadPath

/-- What a bound is. -/
inductive BoundKind where
  | lifetime
  /-- The list of what a type captures. -/
  | capture
  | trait
deriving DecidableEq, Repr

namespace Reader

variable (g : Grammar)

/-- The type of a result, which has no bounds after a `+`. -/
def result : Reader Unit := do
  let _ ← whenAt (atSymbols "->") do
    symbols "->"
    g.type false

def atConstant (tokens : List Token) : Bool := atLiteral tokens || atOpening '{' tokens

/-- A literal, a block or a name that stands for a number. -/
def constant : Reader Unit := do
  if ← next atLiteral then literalToken
  else if ← next atName then
    let _ ← name
  else innerBlock g

/-- The keywords that stand for a place in the tree of modules, and one more that may stand where a name does. -/
def atPlace (tokens : List Token) : Bool := ["super", "self", "crate", "try"].any (atWord · tokens)

/-- Two colons and then something. -/
def atColonsThen (test : List Token → Bool) (tokens : List Token) : Bool :=
  atSymbols "::" tokens && test (tokens.drop 2)

def argument : Reader Argument := do
  if ← next fun ts => atLifetime ts && !thenAt (atSymbols "+") ts then
    lifetime
    pure .lifetime
  else if ← next atConstant then
    constant g
    pure .other
  else
    let t ← g.writtenType
    if !t.path?.any WrittenPath.isSingle then pure (.type t)
    else if ← allowSymbols "=" then
      if ← next atConstant then constant g else g.type true
      pure .other
    else if ← allowSymbols ":" then
      separated (fun ts => atSymbols "," ts || atSymbols ">" ts) "+" g.bound
      pure .other
    else pure (.type t)

/-- Arguments between angle brackets, which may have colons in front. -/
def arguments : Reader (List Argument) := do
  let _ ← allowSymbols "::"
  symbols "<"
  let list ← parts (atSymbols ">") (argument g)
  writeParts Argument.isLifetime list
  symbols ">"
  pure (list.map (·.value))

/-- One name of a path. Only in types its arguments need no colons in front. -/
def segment (inTypes : Bool) : Reader Segment := do
  if ← next atPlace then pure ⟨← anyWord, none, ""⟩
  else
    let word ← if ← next (atWord "Self") then anyWord else name
    if ← next fun ts => inTypes && atSymbols "<" ts && !atSymbols "<=" ts || atColonsThen (atSymbols "<") ts then
      let (list, source) ← captured (arguments g)
      write source
      pure ⟨word, some list, source⟩
    else pure ⟨word, none, ""⟩

/-- A path up to the parameters of a function, which may have colons in front. -/
def path (inTypes : Bool) : Reader ReadPath := do
  let rooted ← allowSymbols "::"
  let first ← segment g inTypes
  iterate (fun p => do
    if ← next fun ts => atSymbols "::" ts && !atColonsThen (atOpening '(') ts then
      symbols "::"
      pure (some (p.add "::" (← segment g inTypes)))
    else pure none) ((ReadPath.start rooted false (if rooted then "::" else "")).add "" first)

/-- A path inside a type, which may be seen as one of a trait. -/
def qualifiedPath (inTypes : Bool) : Reader ReadPath := do
  let (names, opened) ← captured do
    symbols "<"
    g.type true
    let trait ← if ← allowWord "as" then
        let trait ← path g true
        pure trait.path.names
      else pure []
    symbols ">"
    symbols "::"
    pure trait
  write opened
  let start := ReadPath.start false true opened
  let first := ({ start with path := { start.path with names } }).add "" (← segment g inTypes)
  iterate (fun p => do
    if ← allowSymbols "::" then pure (some (p.add "::" (← segment g inTypes))) else pure none) first

/-- A path of its own or inside a type. -/
def anyPath (inTypes : Bool) : Reader ReadPath := do
  if ← next (atSymbols "<") then qualifiedPath g inTypes else path g inTypes

/-- Whether the brackets of a macro follow a path. -/
def atMacro (p : ReadPath) (tokens : List Token) : Bool :=
  p.path.isPlain && atSymbols "!" tokens && !atSymbols "!=" tokens

/-- The mark and the brackets of a macro; tells whether they are braces. -/
def macroCall : Reader Bool := do
  symbols "!"
  let braces ← next (atOpening '{')
  let _ ← group
  pure braces

/-- A colon and what follows it, which are left out when nothing follows. -/
def colonThen (r : Reader Unit) : Reader Unit := do
  if ← next (atSymbols ":") then
    unwritten (symbols ":")
    let (_, source) ← captured r
    write (if source.isEmpty then "" else ":" ++ source)

def atParameterEnd (tokens : List Token) : Bool := atEnd tokens || atSymbols "," tokens || atSymbols ">" tokens

/-- A parameter: a lifetime, a constant or a type, or a blank where that is allowed. Tells whether it is a lifetime. -/
def parameter (allowsBlank : Bool) : Reader Bool := do
  skipAttributes g
  if ← next atLifetime then
    lifetime
    colonThen (joined atParameterEnd "+" lifetime)
    pure true
  else
    if ← allowWord "const" then
      let _ ← name
      symbols ":"
      g.type true
      let _ ← whenAt (atSymbols "=") do
        symbols "="
        constant g
    else if ← next (fun ts => allowsBlank && atWord "_" ts) then word "_"
    else
      let _ ← name
      colonThen (joined (fun ts => atParameterEnd ts || atSymbols "=" ts) "+" g.bound)
      let _ ← whenAt (atSymbols "=") do
        symbols "="
        g.type true
    pure false

/-- The parameters that a type or a bound is open in. -/
def binder : Reader Unit := do
  word "for"
  symbols "<"
  separated (atSymbols ">") "," do
    let _ ← parameter g false
  symbols ">"

/-- Parameters between angle brackets, which may be missing. Brackets without parameters are not written. Tells whether there
are brackets. -/
def generics : Reader Bool := whenAt (atSymbols "<") do
  unwritten (symbols "<")
  let list ← parts (atSymbols ">") (parameter g true)
  unwritten (symbols ">")
  if !list.isEmpty then
    write "<"
    writeParts id list
    write ">"

/-- What a type captures, by name. -/
def capture : Reader Unit := do
  word "use"
  symbols "<"
  let list ← parts (atSymbols ">") do
    if ← next atLifetime then
      lifetime
      pure true
    else
      let _ ← if ← next (atWord "Self") then anyWord else name
      pure false
  writeParts id list
  symbols ">"

/-- A bound that is a trait, whose last name may have the parameters and the result of a function. Tells whether it is
constant. -/
def traitBound (constants : Bool) : Reader Bool := do
  let opensFirst ← whenAt (atWord "for") (binder g)
  let isConstant ← if ← next (atOpening '[') then
      inside '[' (word "const")
      pure true
    else allowWord "const"
  let maybe ← allowSymbols "?"
  let opens ← if opensFirst || !maybe then pure opensFirst else whenAt (atWord "for") (binder g)
  let (p, _) ← captured (path g true)
  if ← next fun ts => p.isOpen && (atOpening '(' ts || atColonsThen (atOpening '(') ts) then
    write p.stem
    let _ ← unwritten (allowSymbols "::")
    let _ ← list '(' (g.type true)
    result g
  else write p.path.source
  if isConstant && !constants || opens && maybe then fail else pure isConstant

/-- A bound. Where captures or constant traits are not allowed they are refused. -/
def bound (captures constants : Bool) : Reader BoundKind := do
  if ← next atLifetime then
    lifetime
    pure .lifetime
  else if ← next (atWord "use") then
    capture
    if captures then pure .capture else fail
  else
    let _ ← verbatimIf id do
      if ← next (atOpening '(') then inside '(' (traitBound g constants) else traitBound g constants
    pure .trait

/-- A bound of a parameter, whatever it is. -/
def parameterBound : Reader Unit := do let _ ← bound g false true

def atBound (constants : Bool) (tokens : List Token) : Bool :=
  atAnyWord tokens || atSymbols "::" tokens || atSymbols "?" tokens || atLifetime tokens || atOpening '(' tokens
    || constants && atOpening '[' tokens

/-- The bounds after a `+`, which may be missing after the last one. -/
def moreBounds (captures constants : Bool) : Reader (List BoundKind) := many do
  if ← allowSymbols "+" then
    if ← next (atBound constants) then pure (some (← bound g captures constants)) else pure none
  else pure none

/-- Bounds of which one at least is a trait. -/
def bounds (plus captures constants : Bool) : Reader Unit := do
  let first ← bound g captures constants
  let others ← if plus then moreBounds g captures constants else pure []
  if (first :: others).contains .trait then pure () else fail

def atClauseEnd (tokens : List Token) : Bool :=
  atEnd tokens || atOpening '{' tokens || atSymbols "," tokens || atSymbols ";" tokens || atColon tokens
    || atSymbols "=" tokens

/-- Whether an angle bracket opens parameters and not the type that a path is inside of. -/
def atGenerics (tokens : List Token) : Bool :=
  let closes := fun ts => atSymbols ">" ts || atSymbols "," ts || atColon ts || atSymbols "=" ts
  atSymbols "<" tokens && thenAt (fun ts =>
    atSymbols ">" ts || atSymbols "#" ts || atWord "const" ts || (atLifetime ts || atName ts) && thenAt closes ts) tokens

/-- What a where clause asks of a lifetime or of a type. -/
def predicate : Reader Unit := do
  if ← next fun ts => atLifetime ts && thenAt (atSymbols ":") ts then
    lifetime
    symbols ":"
    joined (fun ts => atClauseEnd ts || atSymbols ":" ts) "+" lifetime
  else
    let _ ← whenAt (atWord "for") (binder g)
    g.type true
    symbols ":"
    joined atClauseEnd "+" (parameterBound g)

/-- A where clause, which may be missing. One that asks for nothing is not written. Tells whether there is one. -/
def whereClause : Reader Bool := whenAt (atWord "where") do
  unwritten (word "where")
  if ← next atGenerics then fail
  else
    let (_, source) ← captured (joined atClauseEnd "," (predicate g))
    write (if source.isEmpty then "" else "where" ++ source)

end Reader

end EntityMapping.Source
