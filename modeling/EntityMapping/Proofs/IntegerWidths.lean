import EntityMapping.Proofs.SpelledValues
import EntityMapping.Proofs.StorageTypes

/-! Integers of two widths under conversion. A number converts alike from either width to every type but those that hold a truth
value: a number of 32 bits is one, a number of 64 bits is refused. -/

namespace EntityMapping.Proofs.IntegerWidths

/-- Both conversions fail, or both give the same result. -/
def Agree (x y : Except ConversionError Value) : Prop :=
  (∃ v, x = .ok v ∧ y = .ok v) ∨ ∃ e e', x = .error e ∧ y = .error e'

/-- A value that is no null is converted as the type wants it that is held under all that wraps it. -/
theorem convert_present (t : Target) {v : Value} (present : v.isNull = false) : t.convert v = t.innermost.convert v := by
  induction t with
  | scalar s => rfl
  | optional t ih => rw [Target.convert, if_neg (by simp [present])]; exact ih
  | boxed t ih => exact ih

/-- A truth value is made of a number of 32 bits but not of one of 64 bits. -/
theorem convert_bool_differs (n : Int32) (m : Int64) :
    ¬ Agree (Scalar.bool.convert (.int32 (some n))) (Scalar.bool.convert (.int64 (some m))) := by
  have narrow : Scalar.bool.convert (.int32 (some n)) = .ok (.boolean (some (n != 0))) := rfl
  have wide : Scalar.bool.convert (.int64 (some m)) = .error (.incompatible (.int64 (some m)) .bool) := rfl
  rw [narrow, wide]
  rintro (⟨v, -, given⟩ | ⟨e, -, failed, -⟩)
  · cases given
  · cases failed

theorem convert_alike (target : Scalar) (other : target ≠ .bool) (n : Int32) :
    Agree (target.convert (.int32 (some n))) (target.convert (.int64 (some n.toInt64))) := by
  have same : n.toInt64.toInt = n.toInt := n.toInt_toInt64
  cases target with
  | bool => exact absurd rfl other
  | int32 => exact .inl ⟨.int32 (some n), rfl, by simp only [Scalar.convert, same, SpelledValues.int32?_toInt]⟩
  | int64 => exact .inl ⟨_, rfl, rfl⟩
  | float32 => exact .inl ⟨.float32 (some (.ofInt n.toInt)), rfl, by simp only [Scalar.convert, same]⟩
  | float64 => exact .inl ⟨.float64 (some (.ofInt n.toInt)), rfl, by simp only [Scalar.convert, same]⟩
  | text =>
    have text : (Value.int64 (some n.toInt64)).text = (Value.int32 (some n)).text := StorageTypes.text_widened (.int32 (some n))
    exact .inl ⟨.varchar (some (Value.int32 (some n)).text), rfl, by rw [← text]; rfl⟩
  | date | timestamp | uuid => exact .inr ⟨_, _, rfl, rfl⟩

/-- A number converts alike from both widths exactly when no truth value is wanted. -/
theorem convert_widths_iff (t : Target) (n : Int32) :
    Agree (t.convert (.int32 (some n))) (t.convert (.int64 (some n.toInt64))) ↔ t.innermost ≠ .bool := by
  rw [convert_present t rfl, convert_present t rfl]
  constructor
  · intro agree wanted
    rw [wanted] at agree
    exact convert_bool_differs n n.toInt64 agree
  · intro other
    exact convert_alike t.innermost other n

/-- The number one is true in 32 bits and refused in 64 bits. -/
theorem wide_flag_refused :
    ¬ Agree ((Target.scalar .bool).convert (.int32 (some 1))) ((Target.scalar .bool).convert (.int64 (some (1 : Int32).toInt64))) :=
  convert_bool_differs 1 _

end EntityMapping.Proofs.IntegerWidths
