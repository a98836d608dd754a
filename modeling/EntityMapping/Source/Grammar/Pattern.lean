import EntityMapping.Source.Grammar.Path

/-! The grammar of patterns. -/

namespace EntityMapping.Source.Reader

variable (g : Grammar)

/-- The number of a part of a tuple, which is written in decimal. -/
def position : Reader Unit := do
  match ← unwritten (taking atNumber) with
  | .literal .integer written => match Lexeme.position? written with
    | some n => write (toString n)
    | none => fail
  | _ => fail

/-- The name or the number of a part. Tells whether it is a name. -/
def member : Reader Bool := do
  if ← next atName then
    let _ ← name
    pure true
  else
    position
    pure false

def atExpressionPath (tokens : List Token) : Bool :=
  atModuleName tokens || atSymbols "::" tokens || atSymbols "<" tokens

/-- An end of a range, which may be missing. Tells whether it is there. -/
def rangeBound : Reader Bool := do
  if ← next fun ts => atEnd ts || atSymbols "|" ts || atSymbols "=" ts || atColon ts || atSymbols "," ts
      || atSymbols ";" ts || atWord "if" ts then pure false
  else
    if ← next atLiteral then literalToken
    else if ← next atExpressionPath then
      let _ ← anyPath g false
    else
      word "const"
      innerBlock g
    pure true

/-- The dots of a range and what follows them. A range that includes its end has one; its old form with three dots is written
like the other. -/
def rangeAfter : Reader PatternKind := do
  let closed ← next fun ts => atSymbols "..=" ts || atSymbols "..." ts
  if ← next (atSymbols "...") then
    unwritten (symbols "...")
    write "..="
  else if closed then symbols "..="
  else symbols ".."
  if ← rangeBound g then pure .other
  else if closed then fail
  else pure .openRange

/-- A range without a start, or two dots for what is left out. -/
def rangeFromStart : Reader PatternKind := do
  let closed ← allowSymbols "..="
  if !closed then symbols ".."
  if ← rangeBound g then pure .openRange
  else if closed then fail
  else pure .rest

/-- A part of a struct pattern. -/
def fieldPattern : Reader Unit := do
  let isBoxed ← allowWord "box"
  let isReference ← allowWord "ref"
  let isMutable ← allowWord "mut"
  if isBoxed || isReference || isMutable then
    let _ ← name
  else
    let isNamed ← member
    if ← next fun ts => !isNamed || atSymbols ":" ts then
      symbols ":"
      g.pattern true

/-- The parts of a struct pattern, after which two dots may stand for the others. -/
def fieldPatterns : Reader Unit := inside '{' <| repeated do
  if ← next atEnd then pure false
  else
    skipAttributes g
    if ← allowSymbols ".." then pure false
    else
      fieldPattern g
      if ← next atEnd then pure false
      else
        symbols ","
        pure true

/-- A part of a slice, in which a range needs both ends. -/
def slicePart : Reader Unit := do
  if (← g.patternKind true) = .openRange then fail else pure ()

/-- A pattern that starts with a path. -/
def pathPattern : Reader PatternKind := do
  let p ← anyPath g false
  if ← next (atMacro p) then
    let _ ← macroCall
    pure .other
  else if ← next (atOpening '{') then
    fieldPatterns g
    pure .other
  else if ← next (atOpening '(') then
    let _ ← list '(' (g.pattern true)
    pure .other
  else if ← next (atSymbols "..") then rangeAfter g
  else pure .other

/-- A name for what a pattern matches. -/
def namePattern : Reader Unit := do
  let _ ← allowWord "ref"
  let _ ← allowWord "mut"
  if ← next (atWord "self") then word "self"
  else
    let _ ← name
  let _ ← whenAt (atSymbols "@") do
    symbols "@"
    g.pattern false

def atPathPattern (tokens : List Token) : Bool :=
  let goesOn := fun ts => atSymbols "::" ts || atSymbols "!" ts || atOpening '{' ts || atOpening '(' ts || atSymbols ".." ts
  atName tokens && thenAt goesOn tokens || atWord "self" tokens && thenAt (atSymbols "::") tokens
    || atSymbols "::" tokens || atSymbols "<" tokens || ["Self", "super", "crate"].any (atWord · tokens)

/-- A pattern without alternatives. -/
def singlePattern : Reader PatternKind := do
  if ← next atPathPattern then pathPattern g
  else if ← next fun ts => atSymbols "-" ts || atLiteral ts || atWord "const" ts then
    let _ ← rangeBound g
    if ← next (atSymbols "..") then rangeAfter g else pure .other
  else if ← next (atSymbols "..") then rangeFromStart g
  else
    if ← next (atWord "_") then word "_"
    else if ← next (atWord "box") then verbatim do
      word "box"
      g.pattern false
    else if ← next fun ts => atWord "ref" ts || atWord "mut" ts || atWord "self" ts || atName ts then namePattern g
    else if ← next (atSymbols "&") then
      symbols "&"
      let _ ← allowWord "mut"
      g.pattern false
    else if ← next (atOpening '(') then
      let _ ← list '(' (g.pattern true)
    else
      let _ ← list '[' (slicePart g)
    pure .other

def atAlternative (tokens : List Token) : Bool :=
  atSymbols "|" tokens && !atSymbols "||" tokens && !atSymbols "|=" tokens

/-- A pattern; with `alternatives` it may be one of several. -/
def pattern (alternatives : Bool) : Reader PatternKind := do
  let leads ← whenAt (fun ts => alternatives && atSymbols "|" ts) (symbols "|")
  let first ← singlePattern g
  let several ← next fun ts => leads || alternatives && atAlternative ts
  whileAt (fun ts => alternatives && atAlternative ts) do
    symbols "|"
    let _ ← singlePattern g
  pure (if several then .other else first)

end EntityMapping.Source.Reader
