import EntityMapping.Proofs.ExactArithmetic
import EntityMapping.Proofs.StorageTypes
import Mathlib

/-! Comparisons in templates are one order. Equality joins the values that comparisons take for the same, however they are stored.
Integers, texts, dates and timestamps are ordered among themselves, and wherever two values have an order the four orderings and
equality agree on it. Floats are left aside: a NaN is equal to nothing, and an integer beyond 53 bits meets a float rounded. -/

namespace EntityMapping.Proofs.ComparisonOrder
open Template ExactArithmetic
open StorageTypes (widened isNull_widened ofValue?_widened widened_of_none equals_widened order?_widened OppositeZeros eq_of_equal)

instance : Std.TransOrd Calendar.Date :=
  inferInstanceAs (Std.TransCmp (compareLex (compareOn Calendar.Date.year)
    (compareLex (compareOn Calendar.Date.month) (compareOn Calendar.Date.day))))

instance : Std.LawfulEqOrd Calendar.Date where
  eq_of_compare {d e} same := by
    obtain ⟨years, months, days⟩ := (Ordering.then_eq_eq.trans (and_congr_right' Ordering.then_eq_eq)).mp same
    cases d
    cases e
    simp only [Std.compare_eq_iff_eq] at years months days
    subst years months days
    rfl

instance : Std.TransOrd Calendar.Time :=
  inferInstanceAs (Std.TransCmp (compareLex (compareOn Calendar.Time.hour) (compareLex (compareOn Calendar.Time.minute)
    (compareLex (compareOn Calendar.Time.second) (compareOn Calendar.Time.nanosecond)))))

instance : Std.LawfulEqOrd Calendar.Time where
  eq_of_compare {t u} same := by
    obtain ⟨hours, rest⟩ := Ordering.then_eq_eq.mp same
    obtain ⟨minutes, rest⟩ := Ordering.then_eq_eq.mp rest
    obtain ⟨seconds, nanoseconds⟩ := Ordering.then_eq_eq.mp rest
    cases t
    cases u
    simp only [Std.compare_eq_iff_eq] at hours minutes seconds nanoseconds
    subst hours minutes seconds nanoseconds
    rfl

instance : Std.TransOrd Calendar.Timestamp :=
  inferInstanceAs (Std.TransCmp (compareLex (compareOn Calendar.Timestamp.date) (compareOn Calendar.Timestamp.time)))

instance : Std.LawfulEqOrd Calendar.Timestamp where
  eq_of_compare {t u} same := by
    obtain ⟨dates, times⟩ := Ordering.then_eq_eq.mp same
    cases t
    cases u
    simp only [Std.compare_eq_iff_eq] at dates times
    subst dates times
    rfl

/-- A floating-point number; the nulls of the two kinds are none. -/
def IsFloat : Value → Prop
  | .float32 (some _) | .float64 (some _) => True
  | _ => False

/-- All nulls are taken for one, and so are the integers of both widths. -/
def taken (v : Value) : Value := if v.isNull then .null else widened v

theorem isNull_taken (v : Value) : (taken v).isNull = v.isNull := by
  unfold taken
  split
  next absent => exact absent.symm
  next => exact isNull_widened v

theorem taken_eq_null_iff {v : Value} : taken v = .null ↔ v.isNull = true := by
  constructor
  · intro same
    rw [← isNull_taken, same]
    rfl
  · exact fun absent => if_pos absent

theorem taken_present {v : Value} (present : v.isNull = false) : taken v = widened v := by
  rw [taken, present]
  rfl

theorem equals_taken (v w : Value) : ComparisonOp.equals (taken v) (taken w) = ComparisonOp.equals v w := by
  cases absent : v.isNull with
  | true => simp [ComparisonOp.equals, isNull_taken, absent]
  | false =>
    cases absent' : w.isNull with
    | true => simp [ComparisonOp.equals, isNull_taken, absent, absent']
    | false => rw [taken_present absent, taken_present absent', equals_widened]

theorem isNull_of_order? {v w : Value} {o : Ordering} (found : ComparisonOp.order? v w = some o) :
    v.isNull = false ∧ w.isNull = false := by
  unfold ComparisonOp.order? at found
  split at found
  next left right => exact ⟨isNull_of_number left, isNull_of_number right⟩
  next left right => exact ⟨isNull_of_number left, isNull_of_number right⟩
  next =>
    split at found
    iterate 3 next => exact ⟨rfl, rfl⟩
    next => cases found

theorem order?_null {v w : Value} (absent : ¬(v.isNull = false ∧ w.isNull = false)) : ComparisonOp.order? v w = none :=
  Option.eq_none_iff_forall_ne_some.mpr fun _ found => absent (isNull_of_order? found)

theorem order?_taken (v w : Value) : ComparisonOp.order? (taken v) (taken w) = ComparisonOp.order? v w := by
  by_cases present : v.isNull = false ∧ w.isNull = false
  · rw [taken_present present.1, taken_present present.2, order?_widened]
  · rw [order?_null present, order?_null (by rwa [isNull_taken, isNull_taken])]

theorem number_of_plain {v : Value} {x : Numeric} (plain : ¬IsFloat v) (number : Numeric.ofValue? v = some x) :
    ∃ n, x = .integer n ∧ integer? v = some n.toInt := by
  unfold Numeric.ofValue? at number
  split at number
  next n =>
    cases number
    exact ⟨_, rfl, congrArg some n.toInt_toInt64.symm⟩
  next n =>
    cases number
    exact ⟨n, rfl, rfl⟩
  iterate 2 next => exact absurd trivial plain
  next => cases number

theorem taken_integer {v : Value} {n : Int64} (number : Numeric.ofValue? v = some (.integer n)) : taken v = .int64 (some n) := by
  unfold Numeric.ofValue? at number
  split at number
  iterate 2 next => cases number; rfl
  iterate 3 next => cases number

theorem beq_self_of_plain {v : Value} (plain : ¬IsFloat v) : (v == v) = true := by
  cases v with
  | null => rfl
  | float32 o | float64 o =>
    cases o with
    | none => rfl
    | some x => exact absurd trivial plain
  | _ o => exact beq_self_eq_true o

theorem plain_signs {v w : Value} (plain : ¬IsFloat v) : ¬OppositeZeros v w := by
  intro opposite
  unfold OppositeZeros at opposite
  split at opposite
  iterate 2 next => exact plain trivial
  next => exact opposite

theorem beq_iff_of_plain {v w : Value} (plain : ¬IsFloat v) : (v == w) = true ↔ v = w := by
  constructor
  · exact fun equal => eq_of_equal equal (plain_signs plain)
  · rintro rfl
    exact beq_self_of_plain plain

/-- Values that are no two numbers are compared as they are. -/
theorem beq_iff_taken {v w : Value} (plain : ¬IsFloat v) (present : v.isNull = false) (present' : w.isNull = false)
    (apart : ∀ x y, Numeric.ofValue? v = some x → Numeric.ofValue? w = some y → False) : (v == w) = true ↔ taken v = taken w := by
  rw [beq_iff_of_plain plain]
  constructor
  · exact congrArg taken
  · intro same
    rw [taken_present present, taken_present present'] at same
    have numbers : Numeric.ofValue? v = Numeric.ofValue? w := by rw [← ofValue?_widened v, same, ofValue?_widened]
    cases number : Numeric.ofValue? v with
    | none => rwa [widened_of_none number, widened_of_none (numbers ▸ number)] at same
    | some x => exact (apart x x number (numbers ▸ number)).elim

/-- Values are equal when they are taken for the same. -/
theorem equals_iff {v w : Value} (plainV : ¬IsFloat v) (plainW : ¬IsFloat w) :
    ComparisonOp.equals v w = true ↔ taken v = taken w := by
  cases absent : v.isNull with
  | true =>
    rw [taken_eq_null_iff.mpr absent, @eq_comm _ Value.null, taken_eq_null_iff]
    simp [ComparisonOp.equals, absent]
  | false =>
    cases absent' : w.isNull with
    | true =>
      rw [taken_eq_null_iff.mpr absent', taken_eq_null_iff]
      simp [ComparisonOp.equals, absent, absent']
    | false =>
      unfold ComparisonOp.equals
      rw [absent, absent', Bool.or_false, if_neg Bool.false_ne_true]
      split
      next left right => simp [taken_integer left, taken_integer right]
      next other left right =>
        obtain ⟨m, rfl, _⟩ := number_of_plain plainV left
        obtain ⟨n, rfl, _⟩ := number_of_plain plainW right
        exact (other m n rfl rfl).elim
      next apart => exact beq_iff_taken plainV absent absent' apart

/-- Two values of a kind that has an order, integers of both widths being one kind, and how they are ordered. -/
inductive Ordered : Value → Value → Ordering → Prop
  | integers {v w : Value} {x y : Int} {o : Ordering} (left : integer? v = some x) (right : integer? w = some y)
      (compared : compare x y = o) : Ordered v w o
  | texts {s t : String} {o : Ordering} (compared : compare s t = o) : Ordered (.varchar (some s)) (.varchar (some t)) o
  | dates {d e : Calendar.Date} {o : Ordering} (compared : compare d e = o) : Ordered (.date (some d)) (.date (some e)) o
  | timestamps {t u : Calendar.Timestamp} {o : Ordering} (compared : compare t u = o) :
      Ordered (.timestamp (some t)) (.timestamp (some u)) o

variable {u v w : Value} {o : Ordering}

theorem ordered_of_order? (plainV : ¬IsFloat v) (plainW : ¬IsFloat w) (found : ComparisonOp.order? v w = some o) :
    Ordered v w o := by
  unfold ComparisonOp.order? at found
  split at found
  next left right =>
    obtain ⟨m, same, left⟩ := number_of_plain plainV left
    obtain ⟨n, same', right⟩ := number_of_plain plainW right
    cases same
    cases same'
    exact .integers left right (Option.some.inj found)
  next other left right =>
    obtain ⟨m, rfl, _⟩ := number_of_plain plainV left
    obtain ⟨n, rfl, _⟩ := number_of_plain plainW right
    exact (other m n rfl rfl).elim
  next =>
    split at found
    next => exact .texts (Option.some.inj found)
    next => exact .dates (Option.some.inj found)
    next => exact .timestamps (Option.some.inj found)
    next => cases found

theorem Ordered.order?_eq (ordered : Ordered v w o) : ComparisonOp.order? v w = some o := by
  cases ordered with
  | integers left right compared =>
    obtain ⟨m, number, rfl⟩ := ofValue?_integer left
    obtain ⟨n, number', rfl⟩ := ofValue?_integer right
    simp only [ComparisonOp.order?, number, number', compared]
  | texts compared | dates compared | timestamps compared => exact congrArg some compared

theorem Ordered.swap (ordered : Ordered v w o) : Ordered w v o.swap := by
  cases ordered with
  | integers left right compared => exact .integers right left (Std.OrientedCmp.eq_swap.trans (congrArg Ordering.swap compared))
  | texts compared => exact .texts (Std.OrientedCmp.eq_swap.trans (congrArg Ordering.swap compared))
  | dates compared => exact .dates (Std.OrientedCmp.eq_swap.trans (congrArg Ordering.swap compared))
  | timestamps compared => exact .timestamps (Std.OrientedCmp.eq_swap.trans (congrArg Ordering.swap compared))

theorem Ordered.eq_iff (ordered : Ordered v w o) : o = .eq ↔ taken v = taken w := by
  cases ordered with
  | integers left right compared =>
    obtain ⟨m, number, rfl⟩ := ofValue?_integer left
    obtain ⟨n, number', rfl⟩ := ofValue?_integer right
    rw [← compared, Std.compare_eq_iff_eq, Int64.toInt_inj, taken_integer number, taken_integer number']
    simp
  | texts compared | dates compared | timestamps compared =>
    rw [← compared, Std.compare_eq_iff_eq]
    simp [taken, widened, Value.isNull]

theorem Ordered.trans (first : Ordered u v .lt) (second : Ordered v w .lt) : Ordered u w .lt := by
  cases first with
  | integers left middle compared =>
    cases second with
    | integers middle' right compared' =>
      cases middle.symm.trans middle'
      exact .integers left right (Std.TransCmp.lt_trans compared compared')
    | texts | dates | timestamps => cases middle
  | texts compared =>
    cases second with
    | integers middle => cases middle
    | texts compared' => exact .texts (Std.TransCmp.lt_trans compared compared')
  | dates compared =>
    cases second with
    | integers middle => cases middle
    | dates compared' => exact .dates (Std.TransCmp.lt_trans compared compared')
  | timestamps compared =>
    cases second with
    | integers middle => cases middle
    | timestamps compared' => exact .timestamps (Std.TransCmp.lt_trans compared compared')

/-- A comparison gives a truth value or an error; here it gives one without an error. -/
def Evaluates (op : ComparisonOp) (v w : Value) : Prop := ∃ result, (BinaryOp.comparison op).apply v w = .ok result

/-- A comparison is true. -/
def Holds (op : ComparisonOp) (v w : Value) : Prop := (BinaryOp.comparison op).apply v w = .ok (.boolean (some true))

/-- The operators that need an order of their operands. -/
def orderings : List ComparisonOp := [.less, .lessEqual, .greater, .greaterEqual]

theorem ordered_evaluates {test : Ordering → Bool} :
    (∃ result, ComparisonOp.ordered v w test = .ok result) ↔ ∃ o, ComparisonOp.order? v w = some o := by
  unfold ComparisonOp.ordered
  cases ComparisonOp.order? v w <;> simp

theorem evaluates_iff {op : ComparisonOp} (member : op ∈ orderings) :
    Evaluates op v w ↔ ∃ o, ComparisonOp.order? v w = some o := by
  cases op with
  | equal | notEqual => simp [orderings] at member
  | less | lessEqual | greater | greaterEqual => exact ordered_evaluates

theorem ordered_true {test : Ordering → Bool} (found : ComparisonOp.order? v w = some o) :
    ComparisonOp.ordered v w test = .ok (.boolean (some true)) ↔ test o = true := by
  simp [ComparisonOp.ordered, found]

theorem holds_equal_iff : Holds .equal v w ↔ ComparisonOp.equals v w = true := by
  simp [Holds, BinaryOp.apply, ComparisonOp.apply]

/-- What the comparisons tell of two values that have an order. -/
structure Compared (v w : Value) (o : Ordering) : Prop where
  less : Holds .less v w ↔ o = .lt
  lessEqual : Holds .lessEqual v w ↔ o ≠ .gt
  equal : Holds .equal v w ↔ o = .eq
  greaterEqual : Holds .greaterEqual v w ↔ o ≠ .lt
  greater : Holds .greater v w ↔ o = .gt

theorem Ordered.compared (plainV : ¬IsFloat v) (plainW : ¬IsFloat w) (ordered : Ordered v w o) : Compared v w o where
  less := (ordered_true ordered.order?_eq).trans (by cases o <;> simp [Ordering.isLT])
  lessEqual := (ordered_true ordered.order?_eq).trans (by cases o <;> simp [Ordering.isLE])
  equal := holds_equal_iff.trans ((equals_iff plainV plainW).trans ordered.eq_iff.symm)
  greaterEqual := (ordered_true ordered.order?_eq).trans (by cases o <;> simp [Ordering.isGE])
  greater := (ordered_true ordered.order?_eq).trans (by cases o <;> simp [Ordering.isGT])

/-- Values that are taken for the same have the same comparisons with all others. The texts of errors name the values. -/
theorem replaced (op : ComparisonOp) (same : taken v = taken w) (u : Value) :
    ((BinaryOp.comparison op).apply v u).toOption = ((BinaryOp.comparison op).apply w u).toOption ∧
      ((BinaryOp.comparison op).apply u v).toOption = ((BinaryOp.comparison op).apply u w).toOption := by
  have congr : ∀ {a b c d : Value}, taken a = taken c → taken b = taken d →
      ((BinaryOp.comparison op).apply a b).toOption = ((BinaryOp.comparison op).apply c d).toOption := by
    intro a b c d left right
    have equal : ComparisonOp.equals a b = ComparisonOp.equals c d := by
      rw [← equals_taken a b, left, right, equals_taken]
    have order : ComparisonOp.order? a b = ComparisonOp.order? c d := by
      rw [← order?_taken a b, left, right, order?_taken]
    cases op with
    | equal | notEqual => simp only [BinaryOp.apply, ComparisonOp.apply, equal]
    | less | lessEqual | greater | greaterEqual =>
      simp only [BinaryOp.apply, ComparisonOp.apply, ComparisonOp.ordered, order]
      split <;> rfl
  exact ⟨congr same rfl, congr rfl same⟩

/-- Equality is decided for all values. It joins nulls with nulls and integers of either width that are one number. -/
structure EqualityLaws (a b c : Value) : Prop where
  decided : ∃ equal, (BinaryOp.comparison .equal).apply a b = .ok (.boolean (some equal)) ∧
    (BinaryOp.comparison .notEqual).apply a b = .ok (.boolean (some !equal))
  refl : Holds .equal a a
  symm : Holds .equal a b → Holds .equal b a
  trans : Holds .equal a b → Holds .equal b c → Holds .equal a c
  nulls : a.isNull = true → (Holds .equal a b ↔ b.isNull = true)
  integers : ∀ x y, integer? a = some x → integer? b = some y → (Holds .equal a b ↔ x = y)

/-- The orderings are defined together, and they agree with each other and with equality. -/
structure OrderLaws (a b c : Value) : Prop where
  together : Evaluates .less a b → ∀ op ∈ orderings, Evaluates op a b ∧ Evaluates op b a
  one : Evaluates .less a b → (Holds .less a b ∨ Holds .equal a b ∨ Holds .less b a) ∧
    ¬(Holds .less a b ∧ Holds .equal a b) ∧ ¬(Holds .equal a b ∧ Holds .less b a) ∧ ¬(Holds .less a b ∧ Holds .less b a)
  lessEqual : Evaluates .less a b → (Holds .lessEqual a b ↔ Holds .less a b ∨ Holds .equal a b)
  greater : ((BinaryOp.comparison .greater).apply a b).toOption = ((BinaryOp.comparison .less).apply b a).toOption
  integers : ∀ x y, integer? a = some x → integer? b = some y → Evaluates .less a b ∧ (Holds .less a b ↔ x < y)
  replaced : Holds .equal a b → ∀ op other,
    ((BinaryOp.comparison op).apply a other).toOption = ((BinaryOp.comparison op).apply b other).toOption ∧
      ((BinaryOp.comparison op).apply other a).toOption = ((BinaryOp.comparison op).apply other b).toOption
  trans : Holds .less a b → Holds .less b c → Evaluates .less a c ∧ Holds .less a c

theorem ordered_of_evaluates (plainV : ¬IsFloat v) (plainW : ¬IsFloat w) (evaluates : Evaluates .less v w) :
    ∃ o, Ordered v w o := by
  obtain ⟨o, found⟩ := (evaluates_iff (.head _)).mp evaluates
  exact ⟨o, ordered_of_order? plainV plainW found⟩

theorem holds_less_iff (plainV : ¬IsFloat v) (plainW : ¬IsFloat w) : Holds .less v w ↔ Ordered v w .lt := by
  constructor
  · intro less
    obtain ⟨o, ordered⟩ := ordered_of_evaluates plainV plainW ⟨_, less⟩
    exact (ordered.compared plainV plainW).less.mp less ▸ ordered
  · exact fun ordered => (ordered.compared plainV plainW).less.mpr rfl

theorem order?_swap (plainV : ¬IsFloat v) (plainW : ¬IsFloat w) :
    ComparisonOp.order? w v = (ComparisonOp.order? v w).map Ordering.swap := by
  cases found : ComparisonOp.order? v w with
  | some o => exact (ordered_of_order? plainV plainW found).swap.order?_eq
  | none =>
    apply Option.eq_none_iff_forall_ne_some.mpr
    intro o backwards
    rw [(ordered_of_order? plainW plainV backwards).swap.order?_eq] at found
    cases found

theorem equality_laws {a b c : Value} (plainA : ¬IsFloat a) (plainB : ¬IsFloat b) (plainC : ¬IsFloat c) : EqualityLaws a b c where
  decided := ⟨_, rfl, rfl⟩
  refl := holds_equal_iff.mpr ((equals_iff plainA plainA).mpr rfl)
  symm := by
    simp only [holds_equal_iff, equals_iff plainA plainB, equals_iff plainB plainA]
    exact Eq.symm
  trans := by
    simp only [holds_equal_iff, equals_iff plainA plainB, equals_iff plainB plainC, equals_iff plainA plainC]
    exact Eq.trans
  nulls := by
    intro absent
    rw [holds_equal_iff, equals_iff plainA plainB, taken_eq_null_iff.mpr absent, eq_comm, taken_eq_null_iff]
  integers := by
    intro x y left right
    rw [((Ordered.integers left right rfl).compared plainA plainB).equal, Std.compare_eq_iff_eq]

theorem order_laws {a b c : Value} (plainA : ¬IsFloat a) (plainB : ¬IsFloat b) (plainC : ¬IsFloat c) : OrderLaws a b c where
  together := by
    intro evaluates op member
    obtain ⟨o, ordered⟩ := ordered_of_evaluates plainA plainB evaluates
    exact ⟨(evaluates_iff member).mpr ⟨o, ordered.order?_eq⟩, (evaluates_iff member).mpr ⟨_, ordered.swap.order?_eq⟩⟩
  one := by
    intro evaluates
    obtain ⟨o, ordered⟩ := ordered_of_evaluates plainA plainB evaluates
    have forwards := ordered.compared plainA plainB
    have backwards := ordered.swap.compared plainB plainA
    rw [forwards.less, forwards.equal, backwards.less]
    cases o <;> simp
  lessEqual := by
    intro evaluates
    obtain ⟨o, ordered⟩ := ordered_of_evaluates plainA plainB evaluates
    have forwards := ordered.compared plainA plainB
    rw [forwards.less, forwards.equal, forwards.lessEqual]
    cases o <;> simp
  greater := by
    simp only [BinaryOp.apply, ComparisonOp.apply, ComparisonOp.ordered, order?_swap plainA plainB]
    cases ComparisonOp.order? a b with
    | none => rfl
    | some o => cases o <;> rfl
  integers := by
    intro x y left right
    have ordered := Ordered.integers left right rfl
    refine ⟨(evaluates_iff (.head _)).mpr ⟨_, ordered.order?_eq⟩, ?_⟩
    rw [(ordered.compared plainA plainB).less, compare_lt_iff_lt]
  replaced := by
    intro equal op other
    exact replaced op ((equals_iff plainA plainB).mp (holds_equal_iff.mp equal)) other
  trans := by
    simp only [holds_less_iff plainA plainB, holds_less_iff plainB plainC, holds_less_iff plainA plainC]
    intro first second
    have ordered := first.trans second
    exact ⟨(evaluates_iff (.head _)).mpr ⟨_, ordered.order?_eq⟩, ordered⟩

/-- Among values that are no floats, equality and the orderings are one order. -/
theorem comparisons_consistent {a b c : Value} (plainA : ¬IsFloat a) (plainB : ¬IsFloat b) (plainC : ¬IsFloat c) :
    EqualityLaws a b c ∧ OrderLaws a b c :=
  ⟨equality_laws plainA plainB plainC, order_laws plainA plainB plainC⟩

/-- An integer of 32 bits below one of 64 bits, which is below the largest. -/
theorem comparisons_consistent_widths :
    ∃ a b c : Value, (¬IsFloat a ∧ ¬IsFloat b ∧ ¬IsFloat c) ∧ a = .int32 (some (-7)) ∧ b = .int64 (some 5) ∧
      c = .int64 (some .maxValue) ∧ EqualityLaws a b c ∧ OrderLaws a b c ∧ Holds .less a b ∧ Holds .less b c ∧ Holds .less a c := by
  have laws := @comparisons_consistent (.int32 (some (-7))) (.int64 (some 5)) (.int64 (some .maxValue)) id id id
  have first : Holds .less (.int32 (some (-7))) (.int64 (some 5)) := rfl
  have second : Holds .less (.int64 (some 5)) (.int64 (some .maxValue)) := rfl
  exact ⟨_, _, _, ⟨id, id, id⟩, rfl, rfl, rfl, laws.1, laws.2, first, second, (laws.2.trans first second).2⟩

end EntityMapping.Proofs.ComparisonOrder
