import EntityMapping.Template.Expression

/-! Evaluation of template expressions. Arithmetic on integers is exact or fails, `+` joins texts, and `and` and `or` leave
their right operand alone when the left one decides. -/

namespace EntityMapping.Template

/-- A number of either kind, integers of both widths being taken as one. -/
inductive Numeric where
  | integer (n : Int64)
  | float (x : Float)

namespace Numeric

def ofValue? : Value → Option Numeric
  | .int32 (some n) => some (integer n.toInt64)
  | .int64 (some n) => some (integer n)
  | .float32 (some x) => some (float x.toFloat)
  | .float64 (some x) => some (float x)
  | _ => none

def toFloat : Numeric → Float
  | integer n => n.toFloat
  | float x => x

end Numeric

/-- The truth value that a value holds. -/
def truth? : Value → Option Bool
  | .boolean b => b
  | _ => none

namespace ArithmeticOp

private def exactly (op : ArithmeticOp) (z : Int) : Except EvaluationError Int64 :=
  match Scalar.int64? z with
  | some n => .ok n
  | none => .error (.overflow op)

/-- Division truncates toward zero and the remainder has the sign of the dividend. A remainder is refused when the quotient
that belongs to it has no place in the range. -/
def onIntegers (op : ArithmeticOp) (a b : Int64) : Except EvaluationError Int64 :=
  match op with
  | add => exactly op (a.toInt + b.toInt)
  | subtract => exactly op (a.toInt - b.toInt)
  | multiply => exactly op (a.toInt * b.toInt)
  | divide => if b == 0 then .error .divisionByZero else exactly op (a.toInt.tdiv b.toInt)
  | remainder =>
    if b == 0 then .error .divisionByZero
    else (exactly op (a.toInt.tdiv b.toInt)).bind fun _ => exactly op (a.toInt.tmod b.toInt)

def onFloats (op : ArithmeticOp) (x y : Float) : Float :=
  match op with
  | add => x + y
  | subtract => x - y
  | multiply => x * y
  | divide => x / y
  | remainder => Decimal.floatRemainder x y

def onNumbers (op : ArithmeticOp) (lhs rhs : Value) : Except EvaluationError Value :=
  match Numeric.ofValue? lhs, Numeric.ofValue? rhs with
  | some (.integer a), some (.integer b) => (op.onIntegers a b).map fun n => .int64 (some n)
  | some a, some b => .ok (.float64 (some (op.onFloats a.toFloat b.toFloat)))
  | _, _ => .error (.notNumbers op lhs rhs)

def isText : Value → Bool
  | .varchar (some _) => true
  | _ => false

/-- With a text on either side `+` joins the texts of both. -/
def apply (op : ArithmeticOp) (lhs rhs : Value) : Except EvaluationError Value :=
  if op = add && (isText lhs || isText rhs) then .ok (.varchar (some (lhs.text ++ rhs.text))) else op.onNumbers lhs rhs

end ArithmeticOp

namespace ComparisonOp

/-- All nulls are equal to each other and to nothing else; numbers are compared by number. -/
def equals (lhs rhs : Value) : Bool :=
  if lhs.isNull || rhs.isNull then lhs.isNull && rhs.isNull
  else match Numeric.ofValue? lhs, Numeric.ofValue? rhs with
    | some (.integer a), some (.integer b) => a == b
    | some a, some b => a.toFloat == b.toFloat
    | _, _ => lhs == rhs

def orderFloats? (x y : Float) : Option Ordering :=
  if x < y then some .lt else if x == y then some .eq else if x > y then some .gt else none

/-- Numbers, texts, dates and timestamps have an order, each among themselves. -/
def order? (lhs rhs : Value) : Option Ordering :=
  match Numeric.ofValue? lhs, Numeric.ofValue? rhs with
  | some (.integer a), some (.integer b) => some (compare a.toInt b.toInt)
  | some a, some b => orderFloats? a.toFloat b.toFloat
  | _, _ => match lhs, rhs with
    | .varchar (some a), .varchar (some b) => some (compare a b)
    | .date (some a), .date (some b) => some (compare a b)
    | .timestamp (some a), .timestamp (some b) => some (compare a b)
    | _, _ => none

def ordered (lhs rhs : Value) (holds : Ordering → Bool) : Except EvaluationError Value :=
  match order? lhs rhs with
  | some o => .ok (.boolean (some (holds o)))
  | none => .error (.notComparable lhs rhs)

def apply (op : ComparisonOp) (lhs rhs : Value) : Except EvaluationError Value :=
  match op with
  | equal => .ok (.boolean (some (equals lhs rhs)))
  | notEqual => .ok (.boolean (some (!equals lhs rhs)))
  | less => ordered lhs rhs (·.isLT)
  | greater => ordered lhs rhs (·.isGT)
  | lessEqual => ordered lhs rhs (·.isLE)
  | greaterEqual => ordered lhs rhs (·.isGE)

end ComparisonOp

namespace LogicalOp

def apply (op : LogicalOp) (lhs rhs : Value) : Except EvaluationError Value :=
  match truth? lhs, truth? rhs with
  | some a, some b => .ok (.boolean (some (match op with
    | and => a && b
    | or => a || b)))
  | _, _ => .error (.notBooleans op lhs rhs)

/-- Whether the left operand alone decides the result. -/
def isDecidedBy (op : LogicalOp) (lhs : Value) : Bool :=
  match op, truth? lhs with
  | and, some false => true
  | or, some true => true
  | _, _ => false

end LogicalOp

def BinaryOp.apply (op : BinaryOp) (lhs rhs : Value) : Except EvaluationError Value :=
  match op with
  | arithmetic op => op.apply lhs rhs
  | comparison op => op.apply lhs rhs
  | logical op => op.apply lhs rhs

def UnaryOp.apply (op : UnaryOp) (v : Value) : Except EvaluationError Value :=
  match op with
  | not => match truth? v with
    | some b => .ok (.boolean (some !b))
    | none => .error (.notBoolean v)
  | negative => match Numeric.ofValue? v with
    | some (.integer n) => match Scalar.int64? (-n.toInt) with
      | some n => .ok (.int64 (some n))
      | none => .error .negationOverflow
    | some (.float x) => .ok (.float64 (some (-x)))
    | none => .error (.notNumber v)

/-- The named values that a filter object offers. -/
abbrev Properties := String → Option Value

/-- What the names in an expression mean: the columns of an entity, and the properties of a filter object if there is one. -/
structure Scope where
  entity : String
  column? : String → Option String
  object : Option Properties

namespace Scope

def binding (scope : Scope) (path : String) : Except EvaluationError Value :=
  match scope.column? path with
  | some column => .ok (.varchar (some column))
  | none => .error (.unknownField path scope.entity)

/-- The null of every kind is read as the null of unknown kind. -/
def property (scope : Scope) (path : String) : Except EvaluationError Value :=
  match scope.object with
  | none => .error (.noObject path)
  | some properties => match properties path with
    | none => .error (.unknownProperty path)
    | some v => .ok (if v.isNull then .null else v)

end Scope

def Expression.evaluate (scope : Scope) : Expression → Except EvaluationError Value
  | literal v => .ok v
  | binding path => scope.binding path
  | property path => scope.property path
  | unary op operand => do op.apply (← operand.evaluate scope)
  | binary (.logical op) lhs rhs => do
    let l ← lhs.evaluate scope
    if op.isDecidedBy l then pure l else op.apply l (← rhs.evaluate scope)
  | binary op lhs rhs => do
    let l ← lhs.evaluate scope
    let r ← rhs.evaluate scope
    op.apply l r
  | conditional condition yes no => do
    let c ← condition.evaluate scope
    match truth? c with
    | some true => yes.evaluate scope
    | some false => no.evaluate scope
    | none => .error (.notCondition c)

end EntityMapping.Template
