import EntityMapping.Value.Conversion

/-! The operators of template expressions and how tightly they bind. -/

namespace EntityMapping.Template

inductive ArithmeticOp where
  | multiply
  | divide
  | remainder
  | add
  | subtract
deriving DecidableEq, Repr

inductive ComparisonOp where
  | equal
  | notEqual
  | less
  | greater
  | lessEqual
  | greaterEqual
deriving DecidableEq, Repr

inductive LogicalOp where
  | and
  | or
deriving DecidableEq, Repr

inductive BinaryOp where
  | arithmetic (op : ArithmeticOp)
  | comparison (op : ComparisonOp)
  | logical (op : LogicalOp)
deriving DecidableEq, Repr

inductive UnaryOp where
  | negative
  | not
deriving DecidableEq, Repr

namespace BinaryOp

/-- The operator that a symbol or a word spells; words may be written in any case. -/
def ofText? (s : String) : Option BinaryOp :=
  match s with
  | "*" => some (arithmetic .multiply)
  | "/" => some (arithmetic .divide)
  | "%" => some (arithmetic .remainder)
  | "+" => some (arithmetic .add)
  | "-" => some (arithmetic .subtract)
  | "==" => some (comparison .equal)
  | "!=" => some (comparison .notEqual)
  | "<" => some (comparison .less)
  | ">" => some (comparison .greater)
  | "<=" => some (comparison .lessEqual)
  | ">=" => some (comparison .greaterEqual)
  | "&&" => some (logical .and)
  | "||" => some (logical .or)
  | _ => match String.ofList (s.toList.map Char.toLower) with
    | "eq" => some (comparison .equal)
    | "ne" => some (comparison .notEqual)
    | "lt" => some (comparison .less)
    | "gt" => some (comparison .greater)
    | "le" => some (comparison .lessEqual)
    | "ge" => some (comparison .greaterEqual)
    | "and" => some (logical .and)
    | "or" => some (logical .or)
    | _ => none

def text : BinaryOp → String
  | arithmetic .multiply => "*"
  | arithmetic .divide => "/"
  | arithmetic .remainder => "%"
  | arithmetic .add => "+"
  | arithmetic .subtract => "-"
  | comparison .equal => "=="
  | comparison .notEqual => "!="
  | comparison .less => "<"
  | comparison .greater => ">"
  | comparison .lessEqual => "<="
  | comparison .greaterEqual => ">="
  | logical .and => "and"
  | logical .or => "or"

/-- The level of an operator in the grammar: operators of a higher level bind tighter. -/
def level : BinaryOp → Nat
  | logical .or => 1
  | logical .and => 2
  | comparison _ => 3
  | arithmetic .add | arithmetic .subtract => 4
  | arithmetic .multiply | arithmetic .divide | arithmetic .remainder => 5

def isLogical : BinaryOp → Bool
  | logical _ => true
  | _ => false

end BinaryOp

end EntityMapping.Template
