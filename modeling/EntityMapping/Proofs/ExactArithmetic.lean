import EntityMapping.Template.Evaluation
import Mathlib

/-! Arithmetic of templates on integers is exact or refused. A tree of integers evaluates to what the same tree gives over all
integers, as long as every part of it, and the quotient behind every remainder, has a place in 64 bits. -/

namespace EntityMapping.Proofs.ExactArithmetic
open Template

/-- The integer that a value holds in either width. -/
def integer? : Value → Option Int
  | .int32 (some n) => some n.toInt
  | .int64 (some n) => some n.toInt
  | _ => none

/-- The range of 64 bits. -/
def Fits (z : Int) : Prop := -2 ^ 63 ≤ z ∧ z ≤ 2 ^ 63 - 1

instance (z : Int) : Decidable (Fits z) := inferInstanceAs (Decidable (_ ∧ _))

/-- A property of the filter object that holds an integer. -/
def heldInteger? (scope : Scope) (path : String) : Option Int := do
  let properties ← scope.object
  let v ← properties path
  integer? v

/-- Trees of arithmetic, whose leaves are integers. -/
inductive Arithmetic (scope : Scope) : Expression → Prop where
  | literal (n : Int64) : Arithmetic scope (.literal (.int64 (some n)))
  | property {path : String} (held : (heldInteger? scope path).isSome) : Arithmetic scope (.property path)
  | negative {operand : Expression} : Arithmetic scope operand → Arithmetic scope (.unary .negative operand)
  | binary (op : ArithmeticOp) {lhs rhs : Expression} :
    Arithmetic scope lhs → Arithmetic scope rhs → Arithmetic scope (.binary (.arithmetic op) lhs rhs)

/-- An operator over all integers. Division truncates toward zero, and there is none by zero. -/
def unbounded? : ArithmeticOp → Int → Int → Option Int
  | .add, x, y => some (x + y)
  | .subtract, x, y => some (x - y)
  | .multiply, x, y => some (x * y)
  | .divide, x, y => if y = 0 then none else some (x.tdiv y)
  | .remainder, x, y => if y = 0 then none else some (x.tmod y)

/-- The value of a tree over all integers, if nothing in it is divided by zero. -/
def exactValue? (scope : Scope) : Expression → Option Int
  | .literal v => integer? v
  | .property path => heldInteger? scope path
  | .unary .negative operand => (exactValue? scope operand).map (-·)
  | .binary (.arithmetic op) lhs rhs => do
    let x ← exactValue? scope lhs
    let y ← exactValue? scope rhs
    unbounded? op x y
  | _ => none

def subterms : Expression → List Expression
  | .literal v => [.literal v]
  | .binding path => [.binding path]
  | .property path => [.property path]
  | .unary op operand => .unary op operand :: subterms operand
  | .binary op lhs rhs => .binary op lhs rhs :: (subterms lhs ++ subterms rhs)
  | .conditional condition yes no => .conditional condition yes no :: (subterms condition ++ subterms yes ++ subterms no)

def HasPlace (scope : Scope) (e : Expression) : Prop := ∃ z, exactValue? scope e = some z ∧ Fits z

/-- Nothing is divided by zero, and every subterm and the quotient of every remainder are in the range. -/
def InRange (scope : Scope) (e : Expression) : Prop :=
  ∀ s ∈ subterms e, HasPlace scope s ∧
    ∀ lhs rhs, s = .binary (.arithmetic .remainder) lhs rhs → HasPlace scope (.binary (.arithmetic .divide) lhs rhs)

theorem fits_toInt (n : Int64) : Fits n.toInt := by
  have lower := n.le_toInt
  have upper := n.toInt_lt
  constructor <;> omega

/-- The check of a result, whatever it is refused with. -/
theorem int64?_eq (z : Int) : Scalar.int64? z = if Fits z then some (Int64.ofInt z) else none := rfl

theorem toInt_ofInt {z : Int} (fits : Fits z) : (Int64.ofInt z).toInt = z := by
  obtain ⟨lower, upper⟩ := fits
  exact Int64.toInt_ofInt_of_le (by omega) (by omega)

theorem ofValue?_integer {v : Value} {z : Int} (held : integer? v = some z) :
    ∃ n : Int64, Numeric.ofValue? v = some (.integer n) ∧ n.toInt = z := by
  fun_cases integer? v with
  | case1 n => exact ⟨n.toInt64, rfl, n.toInt_toInt64.trans (Option.some.inj held)⟩
  | case2 n => exact ⟨n, rfl, Option.some.inj held⟩
  | case3 => simp_all [integer?]

theorem isNull_of_number {v : Value} {x : Numeric} (number : Numeric.ofValue? v = some x) : v.isNull = false := by
  unfold Numeric.ofValue? at number
  split at number
  iterate 4 next => rfl
  next => cases number

/-- The exact result of an operator, which has a place together with the quotient of a remainder. -/
def Placed (op : ArithmeticOp) (x y z : Int) : Prop :=
  (unbounded? op x y = some z ∧ Fits z) ∧ (op = .remainder → ∃ q, unbounded? .divide x y = some q ∧ Fits q)

/-- A checked result, with what it is refused with otherwise. -/
def checked (refusal : EvaluationError) (z : Int) : Except EvaluationError Int64 :=
  if Fits z then .ok (Int64.ofInt z) else .error refusal

theorem checked_eq (refusal : EvaluationError) (z : Int) :
    (match Scalar.int64? z with
      | some n => Except.ok n
      | none => .error refusal) = checked refusal z := by
  rw [int64?_eq, checked]
  by_cases fits : Fits z
  · rw [if_pos fits, if_pos fits]
  · rw [if_neg fits, if_neg fits]

theorem onIntegers_eq (op : ArithmeticOp) (a b : Int64) :
    op.onIntegers a b = match op with
      | .add => checked (.overflow .add) (a.toInt + b.toInt)
      | .subtract => checked (.overflow .subtract) (a.toInt - b.toInt)
      | .multiply => checked (.overflow .multiply) (a.toInt * b.toInt)
      | .divide => if b == 0 then .error .divisionByZero else checked (.overflow .divide) (a.toInt.tdiv b.toInt)
      | .remainder =>
        if b == 0 then .error .divisionByZero
        else (checked (.overflow .remainder) (a.toInt.tdiv b.toInt)).bind fun _ =>
          checked (.overflow .remainder) (a.toInt.tmod b.toInt) := by
  simp only [← checked_eq]
  cases op <;> rfl

/-- What an operator may give for two integers: an exact result, or an error where there is none. -/
def Exact (op : ArithmeticOp) (x y : Int) : Except EvaluationError Int64 → Prop
  | .ok n => Placed op x y n.toInt
  | .error _ => ∀ z, ¬Placed op x y z

theorem exact_undefined (op : ArithmeticOp) {x y : Int} (undefined : unbounded? op x y = none) (e : EvaluationError) :
    Exact op x y (.error e) := by
  intro z ⟨⟨value, _⟩, _⟩
  rw [undefined] at value
  cases value

theorem exact_checked (op : ArithmeticOp) {x y z : Int} (value : unbounded? op x y = some z)
    (quotient : op = .remainder → ∃ q, unbounded? .divide x y = some q ∧ Fits q) (refusal : EvaluationError) :
    Exact op x y (checked refusal z) := by
  unfold checked
  split
  · next fits => exact ⟨by rw [toInt_ofInt fits]; exact ⟨value, fits⟩, quotient⟩
  · next unfit =>
    intro w ⟨⟨same, fits⟩, _⟩
    rw [value] at same
    exact unfit (Option.some.inj same ▸ fits)

theorem onIntegers_exact (op : ArithmeticOp) (a b : Int64) : Exact op a.toInt b.toInt (op.onIntegers a b) := by
  have zero : b == 0 ↔ b.toInt = 0 := by rw [beq_iff_eq, ← Int64.toInt_inj]; rfl
  rw [onIntegers_eq]
  cases op with
  | add => exact exact_checked .add rfl (fun other => by cases other) _
  | subtract => exact exact_checked .subtract rfl (fun other => by cases other) _
  | multiply => exact exact_checked .multiply rfl (fun other => by cases other) _
  | divide =>
    dsimp only
    split
    · next nothing => exact exact_undefined .divide (if_pos (zero.mp nothing)) _
    · next something => exact exact_checked .divide (if_neg (mt zero.mpr something)) (fun other => by cases other) _
  | remainder =>
    dsimp only
    split
    · next nothing => exact exact_undefined .remainder (if_pos (zero.mp nothing)) _
    · next something =>
      have quotient : unbounded? .divide a.toInt b.toInt = some (a.toInt.tdiv b.toInt) := if_neg (mt zero.mpr something)
      rw [checked]
      split
      · next fits => exact exact_checked .remainder (if_neg (mt zero.mpr something)) (fun _ => ⟨_, quotient, fits⟩) _
      · next unfit =>
        intro z ⟨_, divided⟩
        obtain ⟨q, same, fits⟩ := divided rfl
        rw [quotient] at same
        exact unfit (Option.some.inj same ▸ fits)

theorem inRange_leaf {scope : Scope} {e : Expression} (leaf : subterms e = [e])
    (simple : ∀ lhs rhs, e ≠ .binary (.arithmetic .remainder) lhs rhs) : InRange scope e ↔ HasPlace scope e := by
  rw [InRange, leaf, List.forall_mem_singleton]
  exact and_iff_left fun lhs rhs same => (simple lhs rhs same).elim

theorem inRange_negative (scope : Scope) (operand : Expression) :
    InRange scope (.unary .negative operand) ↔ HasPlace scope (.unary .negative operand) ∧ InRange scope operand := by
  rw [InRange, subterms, List.forall_mem_cons]
  exact and_congr_left' (and_iff_left nofun)

theorem inRange_binary (scope : Scope) (op : ArithmeticOp) (lhs rhs : Expression) :
    InRange scope (.binary (.arithmetic op) lhs rhs) ↔
      (HasPlace scope (.binary (.arithmetic op) lhs rhs) ∧
        (op = .remainder → HasPlace scope (.binary (.arithmetic .divide) lhs rhs))) ∧
      InRange scope lhs ∧ InRange scope rhs := by
  rw [InRange, subterms, List.forall_mem_cons, List.forall_mem_append]
  refine and_congr_left' (and_congr_right' ⟨?_, ?_⟩)
  · rintro quotient rfl
    exact quotient lhs rhs rfl
  · rintro quotient _ _ same
    cases same
    exact quotient rfl

/-- What evaluation of a tree may end with: its exact value, or an error where something has no place. -/
def Settled (scope : Scope) (e : Expression) : Except EvaluationError Value → Prop
  | .ok v => InRange scope e ∧ ∃ z, exactValue? scope e = some z ∧ integer? v = some z
  | .error _ => ¬InRange scope e

variable {scope : Scope}

theorem settled_integer {e : Expression} {v : Value} {z : Int} (leaf : subterms e = [e])
    (simple : ∀ lhs rhs, e ≠ .binary (.arithmetic .remainder) lhs rhs) (value : exactValue? scope e = some z)
    (held : integer? v = some z) : Settled scope e (.ok v) := by
  obtain ⟨n, _, rfl⟩ := ofValue?_integer held
  exact ⟨(inRange_leaf leaf simple).mpr ⟨_, value, fits_toInt n⟩, _, value, held⟩

/-- What holds an integer is not null, so it is read as it is held. -/
theorem property_integer {path : String} {z : Int} (held : heldInteger? scope path = some z) :
    ∃ v, scope.property path = .ok v ∧ integer? v = some z := by
  obtain ⟨entity, column?, object⟩ := scope
  simp only [heldInteger?, bind, Option.bind_eq_some_iff] at held
  obtain ⟨properties, rfl, v, found, integer⟩ := held
  obtain ⟨n, number, _⟩ := ofValue?_integer integer
  refine ⟨v, ?_, integer⟩
  simp only [Scope.property, found, isNull_of_number number]
  rfl

theorem settled_negative {operand : Expression} (ih : Settled scope operand (operand.evaluate scope)) :
    Settled scope (.unary .negative operand) ((Expression.unary .negative operand).evaluate scope) := by
  rw [Expression.evaluate]
  cases evaluated : operand.evaluate scope with
  | error e =>
    rw [evaluated] at ih
    exact fun range => ih ((inRange_negative scope operand).mp range).2
  | ok v =>
    rw [evaluated] at ih
    obtain ⟨range, z, value, held⟩ := ih
    obtain ⟨n, number, rfl⟩ := ofValue?_integer held
    have value : exactValue? scope (.unary .negative operand) = some (-n.toInt) := by rw [exactValue?, value]; rfl
    have negated : UnaryOp.negative.apply v = (checked .negationOverflow (-n.toInt)).map fun n => .int64 (some n) := by
      simp only [UnaryOp.apply, number, ← checked_eq]
      cases Scalar.int64? (-n.toInt) <;> rfl
    change Settled scope _ (UnaryOp.negative.apply v)
    rw [negated, checked]
    split
    · next fits =>
      exact ⟨(inRange_negative scope operand).mpr ⟨⟨_, value, fits⟩, range⟩, _, value, congrArg some (toInt_ofInt fits)⟩
    · next unfit =>
      intro outside
      obtain ⟨⟨z, same, fits⟩, _⟩ := (inRange_negative scope operand).mp outside
      rw [value] at same
      exact unfit (Option.some.inj same ▸ fits)

theorem apply_integers (op : ArithmeticOp) {l r : Value} {a b : Int64} (left : Numeric.ofValue? l = some (.integer a))
    (right : Numeric.ofValue? r = some (.integer b)) : op.apply l r = (op.onIntegers a b).map fun n => .int64 (some n) := by
  have plain {v : Value} {n : Int64} (number : Numeric.ofValue? v = some (.integer n)) : ArithmeticOp.isText v = false := by
    cases v with
    | varchar o => cases number
    | _ => rfl
  rw [ArithmeticOp.apply, plain left, plain right, if_neg (by simp), ArithmeticOp.onNumbers, left, right]

theorem placed_iff (op : ArithmeticOp) {lhs rhs : Expression} {x y : Int} (left : exactValue? scope lhs = some x)
    (right : exactValue? scope rhs = some y) :
    (HasPlace scope (.binary (.arithmetic op) lhs rhs) ∧
        (op = .remainder → HasPlace scope (.binary (.arithmetic .divide) lhs rhs))) ↔ ∃ z, Placed op x y z := by
  have value (op : ArithmeticOp) : exactValue? scope (.binary (.arithmetic op) lhs rhs) = unbounded? op x y := by
    rw [exactValue?, left, right]
    rfl
  simp only [HasPlace, value, Placed, exists_and_right]

theorem settled_binary (op : ArithmeticOp) {lhs rhs : Expression} (left : Settled scope lhs (lhs.evaluate scope))
    (right : Settled scope rhs (rhs.evaluate scope)) :
    Settled scope (.binary (.arithmetic op) lhs rhs) ((Expression.binary (.arithmetic op) lhs rhs).evaluate scope) := by
  change Settled scope _ (lhs.evaluate scope >>= fun l => rhs.evaluate scope >>= fun r => op.apply l r)
  cases first : lhs.evaluate scope with
  | error e =>
    rw [first] at left
    exact fun range => left ((inRange_binary scope op lhs rhs).mp range).2.1
  | ok l =>
    cases second : rhs.evaluate scope with
    | error e =>
      rw [second] at right
      exact fun range => right ((inRange_binary scope op lhs rhs).mp range).2.2
    | ok r =>
      rw [first] at left
      rw [second] at right
      obtain ⟨leftRange, x, leftValue, leftHeld⟩ := left
      obtain ⟨rightRange, y, rightValue, rightHeld⟩ := right
      obtain ⟨a, leftNumber, rfl⟩ := ofValue?_integer leftHeld
      obtain ⟨b, rightNumber, rfl⟩ := ofValue?_integer rightHeld
      change Settled scope _ (op.apply l r)
      rw [apply_integers op leftNumber rightNumber]
      have exact := onIntegers_exact op a b
      cases result : op.onIntegers a b with
      | ok n =>
        rw [result] at exact
        have range := (placed_iff op leftValue rightValue).mpr ⟨_, exact⟩
        refine ⟨(inRange_binary scope op lhs rhs).mpr ⟨range, leftRange, rightRange⟩, n.toInt, ?_, rfl⟩
        rw [exactValue?, leftValue, rightValue]
        exact exact.1.1
      | error e =>
        rw [result] at exact
        intro range
        obtain ⟨z, placed⟩ := (placed_iff op leftValue rightValue).mp ((inRange_binary scope op lhs rhs).mp range).1
        exact exact z placed

theorem evaluate_settled {e : Expression} (tree : Arithmetic scope e) : Settled scope e (e.evaluate scope) := by
  induction tree with
  | literal n => exact settled_integer rfl nofun rfl rfl
  | property held =>
    obtain ⟨z, value⟩ := Option.isSome_iff_exists.mp held
    obtain ⟨v, read, integer⟩ := property_integer value
    rw [Expression.evaluate, read]
    exact settled_integer rfl nofun value integer
  | negative _ ih => exact settled_negative ih
  | binary op _ _ left right => exact settled_binary op left right

/-- A tree of integers has its exact value where everything in it has a place, and an error everywhere else. -/
theorem evaluate_exact {e : Expression} (tree : Arithmetic scope e) :
    (∀ z, (∃ v, e.evaluate scope = .ok v ∧ integer? v = some z) ↔ InRange scope e ∧ exactValue? scope e = some z) ∧
      (¬InRange scope e → ∃ error, e.evaluate scope = .error error) := by
  have settled := evaluate_settled tree
  cases evaluated : e.evaluate scope with
  | ok v =>
    rw [evaluated] at settled
    obtain ⟨range, z, value, held⟩ := settled
    refine ⟨fun w => ⟨?_, ?_⟩, fun outside => (outside range).elim⟩
    · rintro ⟨_, done, same⟩
      cases done
      exact ⟨range, value.trans (held.symm.trans same)⟩
    · rintro ⟨_, same⟩
      exact ⟨v, rfl, held.trans (value.symm.trans same)⟩
  | error error =>
    rw [evaluated] at settled
    refine ⟨fun w => ⟨?_, fun ⟨range, _⟩ => (settled range).elim⟩, fun _ => ⟨error, rfl⟩⟩
    rintro ⟨_, done, _⟩
    cases done

/-- The least integer of 64 bits, and a small one of 32 bits. -/
def edges : Scope :=
  ⟨"Item", fun _ => none, some fun path => [("least", .int64 (some .minValue)), ("size", .int32 (some 7))].lookup path⟩

/-- The remainder by minus one, whose quotient changes the sign. -/
def byMinusOne (dividend : Expression) : Expression :=
  .binary (.arithmetic .remainder) dividend (.unary .negative (.literal (.int64 (some 1))))

def aboveLeast : Expression := .binary (.arithmetic .add) (.property "least") (.property "size")

/-- The remainder is the same for both dividends, but the quotient of the least integer has no place. -/
theorem evaluate_exact_edges :
    Arithmetic edges (byMinusOne aboveLeast) ∧ InRange edges (byMinusOne aboveLeast) ∧
      (∃ v, (byMinusOne aboveLeast).evaluate edges = .ok v ∧ integer? v = some 0) ∧
      exactValue? edges (byMinusOne (.property "least")) = some 0 ∧ ¬InRange edges (byMinusOne (.property "least")) ∧
      ∃ error, (byMinusOne (.property "least")).evaluate edges = .error error := by
  have least : Arithmetic edges (.property "least") := .property (by decide)
  have divided {dividend : Expression} (tree : Arithmetic edges dividend) : Arithmetic edges (byMinusOne dividend) :=
    .binary .remainder tree (.negative (.literal 1))
  have tree : Arithmetic edges (byMinusOne aboveLeast) := divided (.binary .add least (.property (by decide)))
  have done : ∃ v, (byMinusOne aboveLeast).evaluate edges = .ok v ∧ integer? v = some 0 := ⟨_, rfl, rfl⟩
  have outside : ¬InRange edges (byMinusOne (.property "least")) := by
    intro range
    obtain ⟨q, value, fits⟩ := (range _ (.head _)).2 _ _ rfl
    cases value
    exact absurd fits (by decide)
  exact ⟨tree, ((evaluate_exact tree).1 0 |>.mp done).1, done, rfl, outside, (evaluate_exact (divided least)).2 outside⟩

end EntityMapping.Proofs.ExactArithmetic
