import EntityMapping.Template.Expression

/-! The parser of template expressions. Operands are joined by binary operators in one loop, which stops before an operator that
binds less tightly than asked for; above it is the conditional, below it are the unary operators. Every function returns the
tokens it leaves, with a proof that they are fewer. A word is an operator, a literal or a name by its position. -/

namespace EntityMapping.Template

def Token.binaryOp? : Token → Option BinaryOp
  | .symbol s => BinaryOp.ofText? s.text
  | .word s => BinaryOp.ofText? s
  | _ => none

def lowerWord (s : String) : String := String.ofList (s.toList.map Char.toLower)

def Token.unaryOp? : Token → Option UnaryOp
  | .symbol .bang => some .not
  | .symbol .minus => some .negative
  | .word s => if lowerWord s == "not" then some .not else none
  | _ => none

/-- What a word stands for where an operand is expected, when it is not a name. -/
def literalWord? (s : String) : Option Value :=
  match lowerWord s with
  | "true" => some (.boolean (some true))
  | "false" => some (.boolean (some false))
  | "null" => some .null
  | _ => none

namespace Parser

/-- A result and the tokens after it, fewer than there were. -/
abbrev Shorter (α : Type) (tokens : List Token) := α × { rest : List Token // rest.length < tokens.length }

/-- A result and the tokens after it, which may be all there were. -/
abbrev Within (α : Type) (tokens : List Token) := α × { rest : List Token // rest.length ≤ tokens.length }

/-- The names that continue a path, each after a point. -/
def pathFrom (path : String) : (tokens : List Token) → Except GrammarError (Within String tokens)
  | .symbol .point :: .word name :: rest =>
    (pathFrom (path ++ "." ++ name) rest).map fun (path, ⟨rest, le⟩) =>
      (path, ⟨rest, by simp only [List.length_cons]; omega⟩)
  | .symbol .point :: _ => .error (.missingName path)
  | rest => .ok (path, ⟨rest, Nat.le_refl _⟩)

mutual

def expression (tokens : List Token) : Except GrammarError (Shorter Expression tokens) :=
  match binary 0 tokens with
  | .error e => .error e
  | .ok (condition, ⟨.symbol .question :: afterCondition, lt⟩) =>
    have first : afterCondition.length < tokens.length := Nat.lt_of_succ_lt lt
    match expression afterCondition with
    | .error e => .error e
    | .ok (yes, ⟨.symbol .colon :: afterYes, lt⟩) =>
      have second : afterYes.length < tokens.length := Nat.lt_trans (Nat.lt_of_succ_lt lt) first
      match expression afterYes with
      | .error e => .error e
      | .ok (no, ⟨rest, lt⟩) => .ok (.conditional condition yes no, ⟨rest, Nat.lt_trans lt second⟩)
    | .ok _ => .error .missingColon
  | .ok result => .ok result
termination_by (tokens.length, 3)

/-- Operands joined by operators that are at least of the given level. -/
def binary (least : Nat) (tokens : List Token) : Except GrammarError (Shorter Expression tokens) :=
  match unary tokens with
  | .error e => .error e
  | .ok (lhs, ⟨rest, lt⟩) => match operations least lhs rest with
    | .error e => .error e
    | .ok (e, ⟨rest', le⟩) => .ok (e, ⟨rest', by omega⟩)
termination_by (tokens.length, 2)

/-- Goes on from `lhs` as long as the next token is an operator of the given level or above. Right operands are joined by tighter
operators only, so operators of one level group to the left. -/
def operations (least : Nat) (lhs : Expression) (tokens : List Token) : Except GrammarError (Within Expression tokens) :=
  match tokens with
  | [] => .ok (lhs, ⟨[], Nat.le_refl _⟩)
  | t :: rest => match t.binaryOp? with
    | none => .ok (lhs, ⟨t :: rest, Nat.le_refl _⟩)
    | some op =>
      if op.level < least then .ok (lhs, ⟨t :: rest, Nat.le_refl _⟩)
      else match binary (op.level + 1) rest with
        | .error e => .error e
        | .ok (rhs, ⟨rest', lt⟩) => match operations least (.binary op lhs rhs) rest' with
          | .error e => .error e
          | .ok (e, ⟨rest'', le⟩) => .ok (e, ⟨rest'', by simp only [List.length_cons]; omega⟩)
termination_by (tokens.length, 0)

def unary (tokens : List Token) : Except GrammarError (Shorter Expression tokens) :=
  match tokens with
  | [] => .error .missingOperand
  | t :: rest => match t.unaryOp? with
    | some op => match unary rest with
      | .error e => .error e
      | .ok (operand, ⟨rest', lt⟩) => .ok (.unary op operand, ⟨rest', by simp only [List.length_cons]; omega⟩)
    | none => primary t rest
termination_by (tokens.length, 1)

def primary (t : Token) (rest : List Token) : Except GrammarError (Shorter Expression (t :: rest)) :=
  match t with
  | .symbol .hash => match rest with
    | .word name :: rest' => (pathFrom name rest').map fun (path, ⟨rest'', le⟩) =>
      (.binding path, ⟨rest'', by simp only [List.length_cons]; omega⟩)
    | rest' => .error (.missingBinding rest'.head?)
  | .symbol .openParen => match expression rest with
    | .error e => .error e
    | .ok (e, ⟨.symbol .closeParen :: rest', lt⟩) =>
      .ok (e, ⟨rest', by simp only [List.length_cons] at lt ⊢; omega⟩)
    | .ok _ => .error .missingParenthesis
  | .text s => .ok (.literal (.varchar (some s)), ⟨rest, Nat.lt_succ_self _⟩)
  | .integer n => .ok (.literal (.int64 (some n)), ⟨rest, Nat.lt_succ_self _⟩)
  | .decimal x => .ok (.literal (.float64 (some x)), ⟨rest, Nat.lt_succ_self _⟩)
  | .word name => match literalWord? name with
    | some v => .ok (.literal v, ⟨rest, Nat.lt_succ_self _⟩)
    | none => (pathFrom name rest).map fun (path, ⟨rest', le⟩) =>
      (.property path, ⟨rest', by simp only [List.length_cons]; omega⟩)
  | t => .error (.unexpected t)
termination_by (rest.length + 1, 0)

end

end Parser

namespace Expression

/-- The expression that a list of tokens makes up as a whole. -/
def ofTokens (tokens : List Token) : Except GrammarError Expression :=
  if tokens.isEmpty then .error .empty
  else match Parser.expression tokens with
    | .error e => .error e
    | .ok (e, ⟨[], _⟩) => .ok e
    | .ok (_, ⟨t :: _, _⟩) => .error (.trailing t)

def parse (cs : List Char) : Except ExpressionError Expression :=
  match Token.scan cs with
  | .error e => .error (.lexical e (String.ofList cs))
  | .ok tokens => match ofTokens tokens with
    | .error e => .error (.grammar e)
    | .ok e => .ok e

end Expression

end EntityMapping.Template
