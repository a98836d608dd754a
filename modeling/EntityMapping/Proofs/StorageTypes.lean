import EntityMapping.Proofs.TemplateConcatenation
import EntityMapping.Proofs.TemplatePrinting
import Mathlib

/-! Templates do not see how a null or an integer is stored. Every operator takes an integer of 32 bits as the same integer of 64
bits, and a property that is null is read as the null of unknown kind, so filter objects that differ in these alone cannot be told
apart by any template. Zeros of different sign can, although they are equal. -/

namespace EntityMapping.Proofs.StorageTypes
open Template TemplateConcatenation TemplatePrinting

/-- The value that the operators take a value for. -/
def widened : Value → Value
  | .int32 (some n) => .int64 (some n.toInt64)
  | v => v

theorem isNull_widened (v : Value) : (widened v).isNull = v.isNull := by
  fun_cases widened v <;> rfl

theorem text_widened (v : Value) : (widened v).text = v.text := by
  fun_cases widened v with
  | case1 n => exact congrArg toString n.toInt_toInt64
  | case2 => rfl

theorem truth?_widened (v : Value) : truth? (widened v) = truth? v := by
  fun_cases widened v <;> rfl

theorem ofValue?_widened (v : Value) : Numeric.ofValue? (widened v) = Numeric.ofValue? v := by
  fun_cases widened v <;> rfl

theorem isText_widened (v : Value) : ArithmeticOp.isText (widened v) = ArithmeticOp.isText v := by
  fun_cases widened v <;> rfl

theorem widened_of_none {v : Value} (other : Numeric.ofValue? v = none) : widened v = v := by
  fun_cases widened v with
  | case1 n => cases other
  | case2 => rfl

/-- A number is equal to nothing that is none. -/
theorem beq_of_number {v w : Value} {x : Numeric} (number : Numeric.ofValue? v = some x) (other : Numeric.ofValue? w = none) :
    (v == w) = false ∧ (w == v) = false := by
  cases v with
  | int32 o | int64 o | float32 o | float64 o =>
    cases o with
    | none => cases number
    | some n =>
      cases w with
      | int32 p | int64 p | float32 p | float64 p =>
        cases p with
        | none => exact ⟨rfl, rfl⟩
        | some m => cases other
      | _ => exact ⟨rfl, rfl⟩
  | _ => cases number

theorem beq_widened {v w : Value} (apart : Numeric.ofValue? v = none ∨ Numeric.ofValue? w = none) :
    (widened v == widened w) = (v == w) := by
  cases first : Numeric.ofValue? v with
  | none =>
    rw [widened_of_none first]
    cases second : Numeric.ofValue? w with
    | none => rw [widened_of_none second]
    | some x => rw [(beq_of_number second first).2, (beq_of_number (by rw [ofValue?_widened, second]) first).2]
  | some x =>
    have second : Numeric.ofValue? w = none := apart.resolve_left (by simp [first])
    rw [widened_of_none second, (beq_of_number first second).1, (beq_of_number (by rw [ofValue?_widened, first]) second).1]

theorem equals_widened (v w : Value) : ComparisonOp.equals (widened v) (widened w) = ComparisonOp.equals v w := by
  unfold ComparisonOp.equals
  rw [isNull_widened, isNull_widened, ofValue?_widened, ofValue?_widened]
  split
  · rfl
  · split
    · rfl
    · rfl
    · next other =>
      apply beq_widened
      cases first : Numeric.ofValue? v with
      | none => exact .inl rfl
      | some a =>
        cases second : Numeric.ofValue? w with
        | none => exact .inr rfl
        | some b => exact (other a b first second).elim

theorem order?_widened (v w : Value) : ComparisonOp.order? (widened v) (widened w) = ComparisonOp.order? v w := by
  unfold ComparisonOp.order?
  rw [ofValue?_widened, ofValue?_widened]
  split
  · rfl
  · rfl
  · fun_cases widened v with
    | case1 n => rfl
    | case2 =>
      fun_cases widened w with
      | case1 n =>
        cases v with
        | varchar o | date o | timestamp o => cases o <;> rfl
        | _ => rfl
      | case2 => rfl

theorem arithmetic_widened (op : ArithmeticOp) (v w : Value) :
    (op.apply (widened v) (widened w)).toOption = (op.apply v w).toOption := by
  unfold ArithmeticOp.apply
  rw [isText_widened, isText_widened, text_widened, text_widened]
  split
  · rfl
  · unfold ArithmeticOp.onNumbers
    rw [ofValue?_widened, ofValue?_widened]
    split <;> rfl

theorem comparison_widened (op : ComparisonOp) (v w : Value) :
    (op.apply (widened v) (widened w)).toOption = (op.apply v w).toOption := by
  have ordered : ∀ holds, (ComparisonOp.ordered (widened v) (widened w) holds).toOption =
      (ComparisonOp.ordered v w holds).toOption := by
    intro holds
    unfold ComparisonOp.ordered
    rw [order?_widened]
    split <;> rfl
  cases op with
  | equal | notEqual => simp only [ComparisonOp.apply, equals_widened]
  | less | greater | lessEqual | greaterEqual => exact ordered _

theorem logical_widened (op : LogicalOp) (v w : Value) :
    (op.apply (widened v) (widened w)).toOption = (op.apply v w).toOption := by
  unfold LogicalOp.apply
  rw [truth?_widened, truth?_widened]
  split <;> rfl

theorem isDecidedBy_widened (op : LogicalOp) (v : Value) : op.isDecidedBy (widened v) = op.isDecidedBy v := by
  unfold LogicalOp.isDecidedBy
  rw [truth?_widened]

theorem unary_widened (op : UnaryOp) (v : Value) : (op.apply (widened v)).toOption = (op.apply v).toOption := by
  cases op with
  | not =>
    unfold UnaryOp.apply
    rw [truth?_widened]
    dsimp only
    split <;> rfl
  | negative =>
    unfold UnaryOp.apply
    rw [ofValue?_widened]
    dsimp only
    split
    · split <;> rfl
    · rfl
    · rfl

/-- What a template can tell of a result. -/
def seen (r : Except EvaluationError Value) : Option Value := r.toOption.map widened

theorem seen_bind {x y : Except EvaluationError Value} {f g : Value → Except EvaluationError Value} (first : seen x = seen y)
    (rest : ∀ v w, widened v = widened w → seen (f v) = seen (g w)) : seen (x >>= f) = seen (y >>= g) := by
  cases x with
  | error e =>
    cases y with
    | error e' => rfl
    | ok w => cases first
  | ok v =>
    cases y with
    | error e => cases first
    | ok w => exact rest v w (Option.some.inj first)

theorem seen_unary (op : UnaryOp) {v w : Value} (same : widened v = widened w) : seen (op.apply v) = seen (op.apply w) := by
  rw [seen, seen, ← unary_widened op v, ← unary_widened op w, same]

/-- An operator that takes both operands for what they are when widened. -/
theorem seen_binary {apply : Value → Value → Except EvaluationError Value}
    (wide : ∀ v w, (apply (widened v) (widened w)).toOption = (apply v w).toOption) {l l' r r' : Value}
    (left : widened l = widened l') (right : widened r = widened r') : seen (apply l r) = seen (apply l' r') := by
  rw [seen, seen, ← wide l r, ← wide l' r', left, right]

/-- The properties that occur in an expression. -/
def properties : Expression → List String
  | .literal _ | .binding _ => []
  | .property path => [path]
  | .unary _ operand => properties operand
  | .binary _ lhs rhs => properties lhs ++ properties rhs
  | .conditional condition yes no => properties condition ++ properties yes ++ properties no

theorem seen_evaluate {first second : Scope} (columns : first.binding = second.binding) {e : Expression}
    (read : ∀ path ∈ properties e, seen (first.property path) = seen (second.property path)) :
    seen (e.evaluate first) = seen (e.evaluate second) := by
  induction e with
  | literal v => rfl
  | binding path => exact congrArg (fun binding => seen (binding path)) columns
  | property path => exact read path (.head _)
  | unary op operand ih => exact seen_bind (ih read) fun v w same => seen_unary op same
  | binary op lhs rhs left right =>
    simp only [properties, List.forall_mem_append] at read
    have left := left read.1
    have right := right read.2
    cases op with
    | arithmetic op =>
      exact seen_bind left fun l l' same => seen_bind right fun r r' same' => seen_binary (arithmetic_widened op) same same'
    | comparison op =>
      exact seen_bind left fun l l' same => seen_bind right fun r r' same' => seen_binary (comparison_widened op) same same'
    | logical op =>
      refine seen_bind left fun l l' same => ?_
      rw [← isDecidedBy_widened op l, ← isDecidedBy_widened op l', same]
      split
      · exact congrArg some same
      · exact seen_bind right fun r r' same' => seen_binary (logical_widened op) same same'
  | conditional condition yes no ih ihYes ihNo =>
    simp only [properties, List.forall_mem_append] at read
    refine seen_bind (ih read.1.1) fun c c' same => ?_
    rw [← truth?_widened c, ← truth?_widened c', same]
    split
    · exact ihYes read.1.2
    · exact ihNo read.2
    · rfl

def segmentProperties : Segment → List String
  | .text _ => []
  | .expression cs => match Expression.parse cs with
    | .ok e => properties e
    | .error _ => []

/-- The properties that occur in the expressions of a template. -/
def templateProperties (template : String) : List String :=
  ((Segment.split? template.toList).getD []).flatMap segmentProperties

theorem resolve_expression (scope : Scope) {cs : List Char} {e : Expression} (parsed : Expression.parse cs = .ok e) :
    ((Segment.expression cs).resolve scope).toOption = (seen (e.evaluate scope)).map fun v => v.text.toList := by
  rw [Segment.resolve, parsed]
  dsimp only [bind, Except.bind]
  cases e.evaluate scope with
  | error e => rfl
  | ok v => exact congrArg (fun text => some text.toList) (text_widened v).symm

theorem templateProperties_single {template : String} {cs : List Char} {e : Expression}
    (span : template.toList = '{' :: cs ++ ['}']) (parsed : Expression.parse cs = .ok e) :
    templateProperties template = properties e := by
  rw [templateProperties, span, split?_single parsed, Option.getD_some, List.flatMap_singleton, segmentProperties, parsed]

theorem resolve_segment {first second : Scope} (columns : first.binding = second.binding) {segment : Segment}
    (read : ∀ path ∈ segmentProperties segment, seen (first.property path) = seen (second.property path)) :
    (segment.resolve first).toOption = (segment.resolve second).toOption := by
  cases segment with
  | text cs => rfl
  | expression cs =>
    cases parsed : Expression.parse cs with
    | error e =>
      rw [Segment.resolve, Segment.resolve, parsed]
      rfl
    | ok e =>
      simp only [segmentProperties, parsed] at read
      rw [resolve_expression first parsed, resolve_expression second parsed, seen_evaluate columns read]

private theorem toOption_map {ε α β : Type} (f : α → β) (x : Except ε α) : (x.map f).toOption = x.toOption.map f := by
  cases x <;> rfl

theorem rendered_toOption (scope : Scope) (segment : Segment) (segments : List Segment) :
    (rendered scope (segment :: segments)).toOption =
      (segment.resolve scope).toOption.bind fun text => (rendered scope segments).toOption.map (text ++ ·) := by
  rw [rendered_cons]
  cases segment.resolve scope with
  | error e => rfl
  | ok text => cases rendered scope segments <;> rfl

theorem resolve_seen {first second : Scope} (columns : first.binding = second.binding) {template : String}
    (read : ∀ path ∈ templateProperties template, seen (first.property path) = seen (second.property path)) :
    (resolve first template).toOption = (resolve second template).toOption := by
  rw [resolve, resolve, toOption_map, toOption_map]
  congr 1
  unfold templateProperties at read
  cases found : Segment.split? template.toList with
  | none => simp [resolveChars, found]
  | some segments =>
    rw [found, Option.getD_some] at read
    rw [resolveChars_eq found, resolveChars_eq found]
    clear found
    induction segments with
    | nil => rfl
    | cons segment segments ih =>
      simp only [List.flatMap_cons, List.forall_mem_append] at read
      rw [rendered_toOption, rendered_toOption, resolve_segment columns read.1, ih read.2]

/-- The integer that a value of either width holds. -/
def integer? : Value → Option Int
  | .int32 (some n) => some n.toInt
  | .int64 (some n) => some n.toInt
  | _ => none

/-- Both values are equal, or both are null, or they are one integer. -/
def Equivalent (v w : Value) : Prop :=
  (v == w) = true ∨ (v.isNull = true ∧ w.isNull = true) ∨ ∃ z, integer? v = some z ∧ integer? w = some z

/-- Zero is equal to its negative, but has another text. -/
def OppositeZeros : Value → Value → Prop
  | .float32 (some x), .float32 (some y) => x = 0 ∧ y = -0 ∨ x = -0 ∧ y = 0
  | .float64 (some x), .float64 (some y) => x = 0 ∧ y = -0 ∨ x = -0 ∧ y = 0
  | _, _ => False

def Alike (v w : Value) : Prop := v = w ∨ Equivalent v w ∧ ¬OppositeZeros v w

theorem eq_of_equal {v w : Value} (equal : (v == w) = true) (signs : ¬OppositeZeros v w) : v = w := by
  cases v <;> cases w <;> try cases equal
  case null.null.refl => rfl
  case float32.float32 a b =>
    cases a with
    | none => cases b with
      | none => rfl
      | some y => cases equal
    | some x => cases b with
      | none => cases equal
      | some y =>
        obtain ⟨_, _, rfl | opposite⟩ := Float32.beq_iff_ne_nan_and_eq.mp (show (x == y) = true from equal)
        · rfl
        · exact absurd opposite signs
  case float64.float64 a b =>
    cases a with
    | none => cases b with
      | none => rfl
      | some y => cases equal
    | some x => cases b with
      | none => cases equal
      | some y =>
        obtain ⟨_, _, rfl | opposite⟩ := Float.beq_iff_ne_nan_and_eq.mp (show (x == y) = true from equal)
        · rfl
        · exact absurd opposite signs
  all_goals next a b => rw [eq_of_beq (a := a) (b := b) equal]

theorem widened_integer {v : Value} {z : Int} (held : integer? v = some z) :
    v.isNull = false ∧ widened v = .int64 (some (Int64.ofInt z)) := by
  unfold integer? at held
  split at held
  · next n =>
    cases held
    exact ⟨rfl, by rw [widened, Int64.ofInt_int32ToInt]⟩
  · next n =>
    cases held
    exact ⟨rfl, by rw [Int64.ofInt_toInt]; rfl⟩
  · cases held

theorem widened_read {v w : Value} (alike : Alike v w) :
    widened (if v.isNull then .null else v) = widened (if w.isNull then .null else w) := by
  obtain rfl | ⟨equal | ⟨left, right⟩ | ⟨z, left, right⟩, signs⟩ := alike
  · rfl
  · rw [eq_of_equal equal signs]
  · rw [if_pos left, if_pos right]
  · obtain ⟨present, left⟩ := widened_integer left
    obtain ⟨present', right⟩ := widened_integer right
    rw [present, present']
    exact left.trans right.symm

/-- Filter objects whose properties are alike wherever a template names one give it the same text, or both give it none. -/
theorem resolve_alike (m : Metadata) (template : String) {first second : Properties}
    (alike : ∀ path ∈ templateProperties template, Option.Rel Alike (first path) (second path)) :
    (resolve (m.scope (some first)) template).toOption = (resolve (m.scope (some second)) template).toOption := by
  apply resolve_seen
  · rfl
  · intro path member
    have related := alike path member
    simp only [Metadata.scope, Scope.property]
    generalize first path = p at related
    generalize second path = q at related
    cases related with
    | none => rfl
    | some alike => exact congrArg some (widened_read alike)

def narrow (path : String) : Option Value := [("size", .int32 (some 5)), ("owner", .varchar none)].lookup path

def wide (path : String) : Option Value := [("size", .int64 (some 5)), ("owner", .null)].lookup path

/-- One more than the size where nobody owns the item. -/
def freeSize : Expression :=
  .conditional (.binary (.comparison .equal) (.property "owner") (.literal .null))
    (.binary (.arithmetic .add) (.property "size") (.literal (.int64 (some 1)))) (.literal (.int64 (some 0)))

def freeSizeTemplate : String := "\x7bowner == null ? size + 1 : 0\x7d"

theorem parse_freeSize : Expression.parse (print freeSize) = .ok freeSize := by
  have owner : Canonical (.property "owner") :=
    @Canonical.property "owner" [] (by simpa using isName_of_ascii (s := "owner") (by decide) (by decide)) (by decide)
  have size : Canonical (.property "size") :=
    @Canonical.property "size" [] (by simpa using isName_of_ascii (s := "size") (by decide) (by decide)) (by decide)
  have canonical : Canonical freeSize :=
    .conditional (.binary _ owner .null) (.binary _ size (.integer (by decide))) (.integer (by decide))
  exact canonical.parse_print

theorem resolve_alike_widths :
    (∀ path ∈ templateProperties freeSizeTemplate, Option.Rel Alike (narrow path) (wide path)) ∧
      (resolve (itemData.scope (some narrow)) freeSizeTemplate).toOption = some "6" ∧
      (resolve (itemData.scope (some wide)) freeSizeTemplate).toOption = some "6" := by
  have span : freeSizeTemplate.toList = '{' :: print freeSize ++ ['}'] := by decide
  have size : Alike (.int32 (some 5)) (.int64 (some 5)) := .inr ⟨.inr (.inr ⟨5, rfl, rfl⟩), id⟩
  have owner : Alike (.varchar none) .null := .inr ⟨.inr (.inl ⟨rfl, rfl⟩), id⟩
  have alike : ∀ path ∈ templateProperties freeSizeTemplate, Option.Rel Alike (narrow path) (wide path) := by
    rw [templateProperties_single span parse_freeSize]
    simp only [freeSize, properties, List.append_nil, List.singleton_append, List.forall_mem_cons]
    exact ⟨.some owner, .some size, by simp⟩
  have shown : (resolve (itemData.scope (some narrow)) freeSizeTemplate).toOption = some "6" := by
    rw [resolve_single _ span parse_freeSize]
    rfl
  refine ⟨alike, shown, ?_⟩
  rw [← resolve_alike itemData _ alike, shown]

def zeroRate (_ : String) : Option Value := some (.float64 (some 0))

def negativeZeroRate (_ : String) : Option Value := some (.float64 (some (-0)))

/-- The sign of a zero is written, so equal values do not always have one text. -/
theorem zeros_told_apart :
    (∀ path ∈ templateProperties "\x7brate\x7d", Option.Rel Equivalent (zeroRate path) (negativeZeroRate path)) ∧
      resolve (itemData.scope (some zeroRate)) "\x7brate\x7d" = .ok "0" ∧
      resolve (itemData.scope (some negativeZeroRate)) "\x7brate\x7d" = .ok "-0" := by
  have canonical : Canonical (.property "rate") :=
    @Canonical.property "rate" [] (by simpa using isName_of_ascii (s := "rate") (by decide) (by decide)) (by decide)
  have span : "\x7brate\x7d".toList = '{' :: print (.property "rate") ++ ['}'] := by decide
  refine ⟨?_, ?_, ?_⟩
  · intro path _
    exact .some (.inl (by decide +kernel))
  · rw [resolve_single _ span canonical.parse_print]
    exact congrArg Except.ok (by decide +kernel)
  · rw [resolve_single _ span canonical.parse_print]
    exact congrArg Except.ok (by decide +kernel)

end EntityMapping.Proofs.StorageTypes
