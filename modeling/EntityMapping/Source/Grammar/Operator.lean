import EntityMapping.Source.Grammar.Basic

/-! Binary operators and what stands for one between two operands. -/

namespace EntityMapping.Source.Reader

/-- The operators with the levels that they bind at. An operator stands before those that it starts with. -/
def operators : List (String × Nat) := [
  ("+=", Level.assign), ("-=", Level.assign), ("*=", Level.assign), ("/=", Level.assign), ("%=", Level.assign),
  ("^=", Level.assign), ("&=", Level.assign), ("|=", Level.assign), ("<<=", Level.assign), (">>=", Level.assign),
  ("&&", Level.and), ("||", Level.or), ("<<", Level.shift), (">>", Level.shift), ("==", Level.compare),
  ("<=", Level.compare), ("!=", Level.compare), (">=", Level.compare), ("+", Level.sum), ("-", Level.sum),
  ("*", Level.product), ("/", Level.product), ("%", Level.product), ("^", Level.bitXor), ("&", Level.bitAnd),
  ("|", Level.bitOr), ("<", Level.compare), (">", Level.compare)]

def operator? (tokens : List Token) : Option (String × Nat) := operators.find? fun (text, _) => atSymbols text tokens

/-- The equals sign of an assignment. -/
def atAssign (tokens : List Token) : Bool := atSymbols "=" tokens && !atSymbols "=>" tokens

/-- The level of what comes next after an operand. -/
def nextLevel (tokens : List Token) : Nat :=
  match operator? tokens with
  | some (_, level) => level
  | none =>
    if atAssign tokens then Level.assign
    else if atSymbols ".." tokens then Level.range
    else if atWord "as" tokens then Level.cast
    else Level.lowest

/-- Where a range without an end stops. -/
def atRangeStop (structs : Bool) (tokens : List Token) : Bool :=
  atEnd tokens || atDot tokens || !structs && atOpening '{' tokens || atWord "as" tokens
    || [",", ";", "?", "=>", "=", "+", "/", "%", "^", ">", "<=", "!=", "-=", "*=", "&=", "|=", "<<="].any (atSymbols · tokens)

/-- What no operand of a cast may be followed by. -/
def atTrailer (tokens : List Token) : Bool :=
  atDot tokens || atSymbols "?" tokens || atOpening '[' tokens || atOpening '(' tokens

section

variable (g : Grammar)

/-- The right side of an operator of a level: an operand with what binds tighter. -/
def rightSide (structs : Bool) (level : Nat) : Reader Unit := do
  let first ← g.unary structs
  let _ ← iterate (fun left => do
    let other ← next nextLevel
    if other > level || other == level && level == Level.assign then pure (some (← g.operations structs other left))
    else pure none) first

/-- The dots of a range and its end, which may be missing when the range does not include it. -/
def rangeToEnd (structs : Bool) : Reader Unit := do
  if ← allowSymbols "..=" then rightSide g structs Level.range
  else if ← next (atSymbols "...") then fail
  else
    symbols ".."
    if ← next (atRangeStop structs) then pure () else rightSide g structs Level.range

/-- One operator after an operand with its right side, if it binds at least as tightly as a level. Nothing follows a range, and
comparisons do not follow one another. -/
def operation (structs : Bool) (level : Nat) (left : ExpressionKind) : Reader (Option ExpressionKind) := do
  if left = .range then pure none
  else match ← next operator? with
    | some (text, own) =>
      if own < level then pure none
      else if own == Level.compare && left = .comparison then fail
      else
        symbols text
        rightSide g structs own
        pure (some (if own == Level.compare then .comparison else .other))
    | none =>
      if ← next fun ts => level ≤ Level.assign && atAssign ts then
        symbols "="
        rightSide g structs Level.assign
        pure (some .other)
      else if ← next fun ts => level ≤ Level.range && atSymbols ".." ts then
        rangeToEnd g structs
        pure (some .range)
      else if ← next fun ts => level ≤ Level.cast && atWord "as" ts then
        word "as"
        g.type false
        if ← next atTrailer then fail else pure (some .other)
      else pure none

/-- The operators after an operand. -/
def operations (structs : Bool) (level : Nat) (left : ExpressionKind) : Reader ExpressionKind :=
  iterate (operation g structs level) left

end

end EntityMapping.Source.Reader
