import EntityMapping.Source.Grammar.Operator
import EntityMapping.Source.Grammar.Pattern
import EntityMapping.Text.Pieces

/-! The grammar of expressions. An expression may end with a block and so be a statement on its own; where the braces of a block
follow, an expression may not end with a path and the braces of a struct. -/

namespace EntityMapping.Source.Reader

variable (g : Grammar)

/-- What stands before a block: an expression that does not end with the braces of a struct. -/
def condition : Reader Unit := g.expression false

/-- A choice between blocks, with others after `else`. -/
def choice : Reader Unit := repeated do
  word "if"
  condition g
  g.block
  if ← allowWord "else" then
    if ← next (atWord "if") then pure true
    else
      g.block
      pure false
  else pure false

/-- One case of a match, after which a comma stands unless it is a block or the last one. -/
def matchArm : Reader Unit := do
  skipAttributes g
  g.pattern true
  let _ ← whenAt (atWord "if") do
    word "if"
    g.expression true
  symbols "=>"
  let kind ← g.body
  if ← next fun ts => kind = .block || atEnd ts then
    let _ ← allowSymbols ","
  else symbols ","

def matchCases : Reader Unit := do
  word "match"
  condition g
  inside '{' do
    innerAttributes g
    untilEnd (matchArm g)

/-- A loop, or a block. -/
def loop : Reader Unit := do
  if ← allowWord "while" then
    condition g
    innerBlock g
  else if ← allowWord "for" then
    g.pattern true
    word "in"
    condition g
    innerBlock g
  else
    let _ ← allowWord "loop"
    innerBlock g

/-- A loop or a block with a label in front. -/
def labelled : Reader Unit := do
  lifetime
  symbols ":"
  loop g

/-- Whether a loop and not a function that is open in parameters comes next. -/
def atFor (tokens : List Token) : Bool := atWord "for" tokens && !thenAt atGenerics tokens

def atWordBlock (s : String) (tokens : List Token) : Bool := atWord s tokens && thenAt (atOpening '{') tokens

/-- What ends with a block. -/
def atBlockLike (tokens : List Token) : Bool :=
  ["if", "while", "loop", "match", "unsafe"].any (atWord · tokens) || atFor tokens || atWordBlock "try" tokens
    || atWordBlock "const" tokens || atOpening '{' tokens || atLifetime tokens

def blockLike : Reader ExpressionKind := do
  if ← next (atWord "if") then choice g
  else if ← next (atWord "match") then matchCases g
  else if ← allowWord "try" then g.block
  else if ← next fun ts => atWord "unsafe" ts || atWord "const" ts then
    let _ ← one
    innerBlock g
  else if ← next atLifetime then labelled g
  else loop g
  pure .block

/-- A parameter of a function without a name. -/
def closureParameter : Reader Unit := do
  skipAttributes g
  g.pattern false
  let _ ← whenAt (atSymbols ":") do
    symbols ":"
    g.type true

/-- A function without a name. With a result type its body is a block. -/
def closure (structs : Bool) : Reader Unit := do
  let _ ← whenAt (atWord "for") (binder g)
  let _ ← allowWord "const"
  let _ ← allowWord "static"
  let _ ← allowWord "async"
  let _ ← allowWord "move"
  symbols "|"
  separated (atSymbols "|") "," (closureParameter g)
  symbols "|"
  if ← allowSymbols "->" then
    g.type true
    g.block
  else g.expression structs

def atClosure (tokens : List Token) : Bool :=
  atSymbols "|" tokens || atWord "move" tokens || atWord "for" tokens && thenAt atGenerics tokens
    || atWord "const" tokens && !thenAt (atOpening '{') tokens || atWord "static" tokens
    || atWord "async" tokens && thenAt (fun ts => atSymbols "|" ts || atWord "move" ts) tokens

/-- A block that is run later. -/
def atDeferred (tokens : List Token) : Bool :=
  atWord "async" tokens && thenAt (fun ts => atOpening '{' ts || atWordBlock "move" ts) tokens

def deferred : Reader Unit := do
  word "async"
  let _ ← allowWord "move"
  g.block

/-- A part of a struct with its value, which a name may stand for. -/
def fieldValue : Reader Unit := do
  skipAttributes g
  let isNamed ← member
  if ← next fun ts => !isNamed || atSymbols ":" ts then
    symbols ":"
    g.expression true

/-- The parts of a struct, after which another struct may give the others. -/
def fieldValues : Reader Unit := inside '{' <| repeated do
  if ← next atEnd then pure false
  else if ← allowSymbols ".." then
    let _ ← whenAt (fun ts => !atEnd ts) (g.expression true)
    pure false
  else
    fieldValue g
    if ← next atEnd then pure false
    else
      symbols ","
      pure true

/-- A path, a macro or a struct. -/
def pathExpression (structs : Bool) : Reader ExpressionKind := do
  let p ← anyPath g false
  if ← next (atMacro p) then pure (.macroCall (← macroCall))
  else
    let _ ← whenAt (fun ts => structs && atOpening '{' ts) (fieldValues g)
    pure .other

/-- Elements, or one element and how often it is repeated. -/
def array : Reader Unit := inside '[' do
  if !(← next atEnd) then
    g.expression true
    if ← allowSymbols ";" then g.expression true
    else
      let _ ← whenAt (fun ts => !atEnd ts) do
        symbols ","
        separated atEnd "," (g.expression true)

/-- What an expression may start with. -/
def atExpression (tokens : List Token) : Bool :=
  let symbol := fun (s : String) (others : List String) => atSymbols s tokens && !others.any (atSymbols · tokens)
  atAnyWord tokens || atOpening '(' tokens || atOpening '[' tokens || atOpening '{' tokens || atLiteral tokens
    || symbol "!" ["!="] || symbol "-" ["-=", "->"] || symbol "*" ["*="] || symbol "|" ["|="] || symbol "&" ["&="]
    || atSymbols ".." tokens || symbol "<" ["<=", "<<="] || atSymbols "::" tokens || atLifetime tokens || atSymbols "#" tokens

/-- A jump to a label, which may be missing, with a value. A label with a colon would open a loop, which needs parentheses. -/
def breakJump (structs : Bool) : Reader Unit := do
  word "break"
  if ← next fun ts => atLifetime ts && thenAt (atSymbols ":") ts then fail
  else
    let _ ← allowLifetime
    let _ ← whenAt (fun ts => atExpression ts && (structs || !atOpening '{' ts)) (g.expression structs)

/-- A condition that matches a pattern. -/
def letCondition (structs : Bool) : Reader Unit := do
  word "let"
  g.pattern true
  symbols "="
  let kind ← g.unary structs
  let _ ← g.operations structs Level.compare kind

/-- An operation of the language itself. -/
def builtinCall : Reader Unit := do
  word "builtin"
  symbols "#"
  let _ ← name
  if ← next (atOpening '(') then
    let _ ← group
  else fail

def atPathExpression (tokens : List Token) : Bool :=
  atExpressionPath tokens || atWord "try" tokens && thenAt (fun ts => atSymbols "!" ts || atSymbols "::" ts) tokens

/-- An operand that starts with a keyword or a bracket. -/
def plainAtom (structs : Bool) : Reader Unit := do
  if ← next atLiteral then literalToken
  else if ← next atDeferred then deferred g
  else if ← next atClosure then closure g structs
  else if ← next fun ts => atWord "builtin" ts && thenAt (atSymbols "#") ts then verbatim builtinCall
  else if ← next (atOpening '(') then
    let _ ← list '(' (g.expression true)
  else if ← next (atWord "break") then breakJump g structs
  else if ← allowWord "continue" then
    let _ ← allowLifetime
  else if ← allowWord "return" then
    let _ ← whenAt atExpression (g.expression structs)
  else if ← next (atWord "become") then verbatim do
    word "become"
    g.expression true
  else if ← next (atOpening '[') then array g
  else if ← next (atWord "let") then letCondition g structs
  else if ← allowWord "yield" then
    let _ ← whenAt atExpression (g.expression true)
  else word "_"

/-- An operand without what may follow it. -/
def atom (structs : Bool) : Reader ExpressionKind := do
  if ← next fun ts => atPathExpression ts && !(atWord "builtin" ts && thenAt (atSymbols "#") ts) then pathExpression g structs
  else if ← next fun ts => !atClosure ts && atBlockLike ts then blockLike g
  else if ← next (atSymbols "..") then
    rangeToEnd g structs
    pure .range
  else
    plainAtom g structs
    pure .other

/-- The positions in nested tuples that a number with a point stands for. Tells whether another part has to follow. -/
def positions : Reader Bool := do
  match ← unwritten (taking atNumber) with
  | .literal .decimal written =>
    let pieces := Text.splitWhere (· == '.') written.toList
    let goesOn := pieces.getLast? == some []
    match (if goesOn then pieces.dropLast else pieces).mapM (fun piece => Lexeme.position? (String.ofList piece)) with
    | some numbers =>
      write (".".intercalate (numbers.map toString) ++ if goesOn then "." else "")
      pure goesOn
    | none => fail
  | _ => fail

def atDecimal : List Token → Bool
  | .literal .decimal _ :: _ => true
  | _ => false

/-- A part of a value or a call of one of its functions, the point having been read. -/
def part : Reader Unit := do
  let goesOn ← if ← next atDecimal then positions else pure true
  if goesOn then
    if ← next (atWord "await") then word "await"
    else
      let isNamed ← member
      let hasArguments ← whenAt (fun ts => isNamed && atSymbols "::" ts) do
        let _ ← arguments g
      if ← next fun ts => isNamed && (hasArguments || atOpening '(' ts) then
        let _ ← list '(' (g.expression true)

/-- What follows an operand: calls, parts, indices and marks. -/
def trailers (kind : ExpressionKind) : Reader ExpressionKind := iterate (fun (kind : ExpressionKind) => do
  if ← next (atOpening '(') then
    let _ ← list '(' (g.expression true)
    pure (some .other)
  else if ← next (atOpening '[') then
    inside '[' (g.expression true)
    pure (some .other)
  else if ← next fun ts => atDot ts && kind ≠ .range then
    symbols "."
    part g
    pure (some .other)
  else if ← next fun ts => atSymbols "?" ts && kind ≠ .range then
    symbols "?"
    pure (some .other)
  else pure none) kind

/-- A reference to a value or to its place. -/
def borrow (structs : Bool) : Reader Unit := do
  symbols "&"
  let isRaw ← whenAt (fun ts => atWord "raw" ts && thenAt (fun ts => atWord "mut" ts || atWord "const" ts) ts) (word "raw")
  let isMutable ← allowWord "mut"
  if isRaw && !isMutable then word "const"
  let _ ← g.unary structs

/-- An operand with the operators in front of it. Attributes may not stand in front of a range. -/
def unary (structs : Bool) : Reader ExpressionKind := do
  let marks ← attributes g
  if ← next (atSymbols "&") then
    borrow g structs
    pure .other
  else if ← next fun ts => atSymbols "*" ts || atSymbols "!" ts || atSymbols "-" ts then
    let _ ← one
    let _ ← g.unary structs
    pure .other
  else
    let kind ← trailers g (← atom g structs)
    if !marks.isEmpty && kind = .range then fail else pure kind

/-- An expression that ends where a statement may end: after a block only a point or a mark lets it go on. -/
def body : Reader ExpressionKind := do
  skipAttributes g
  if ← next atBlockLike then
    let kind ← blockLike g
    if ← next fun ts => atDot ts || atSymbols "?" ts then operations g true Level.lowest (← trailers g kind) else pure kind
  else operations g true Level.lowest (← unary g true)

end EntityMapping.Source.Reader
