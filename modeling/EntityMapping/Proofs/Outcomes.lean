import Mathlib.Data.List.Forall2

/-! What the parts of a computation that may fail have given, read off its outcome. -/

namespace EntityMapping.Proofs.Outcomes

variable {ε α β : Type}

theorem bind_eq_ok {x : Except ε α} {f : α → Except ε β} {b : β} : x >>= f = .ok b ↔ ∃ a, x = .ok a ∧ f a = .ok b := by
  cases x <;> simp [bind, Except.bind]

theorem bind_eq_error {x : Except ε α} {f : α → Except ε β} {e : ε} :
    x >>= f = .error e ↔ x = .error e ∨ ∃ a, x = .ok a ∧ f a = .error e := by
  cases x <;> simp [bind, Except.bind]

theorem map_eq_ok {f : α → β} {result : Except ε α} {b : β} (ok : result.map f = .ok b) : ∃ a, result = .ok a ∧ f a = b := by
  cases result with
  | error e => cases ok
  | ok a => cases ok; exact ⟨a, rfl, rfl⟩

theorem mapM_eq_ok {f : α → Except ε β} {as : List α} {bs : List β} :
    as.mapM f = .ok bs ↔ List.Forall₂ (fun a b => f a = .ok b) as bs := by
  induction as generalizing bs with
  | nil => cases bs <;> simp [pure, Except.pure]
  | cons a as ih =>
    simp only [List.mapM_cons, bind_eq_ok, ih]
    constructor
    · rintro ⟨b, first, bs, rest, done⟩
      cases done
      exact .cons first rest
    · rintro (_ | ⟨first, rest⟩)
      exact ⟨_, first, _, rest, rfl⟩

theorem mem_mapM_ok {f : α → Except ε β} {as : List α} {bs : List β} (done : as.mapM f = .ok bs) {a : α} (member : a ∈ as) :
    ∃ b, f a = .ok b := by
  induction mapM_eq_ok.mp done with
  | nil => cases member
  | cons first rest ih =>
    rcases List.mem_cons.mp member with rfl | member
    · exact ⟨_, first⟩
    · exact ih (mapM_eq_ok.mpr rest) member

theorem mapM_eq_error {f : α → Except ε β} {as : List α} {e : ε} (failed : as.mapM f = .error e) :
    ∃ a ∈ as, f a = .error e := by
  induction as with
  | nil => cases failed
  | cons a as ih =>
    rw [List.mapM_cons, bind_eq_error] at failed
    obtain first | ⟨b, _, failed⟩ := failed
    · exact ⟨a, .head _, first⟩
    · rw [bind_eq_error] at failed
      obtain rest | ⟨bs, _, failed⟩ := failed
      · obtain ⟨a', member, failed⟩ := ih rest
        exact ⟨a', .tail _ member, failed⟩
      · cases failed

end EntityMapping.Proofs.Outcomes
