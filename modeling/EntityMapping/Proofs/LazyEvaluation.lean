import EntityMapping.Template.Evaluation

/-! Leaving the right operand of `and` and `or` alone only makes evaluation succeed more often. Where both operands can be
evaluated and combined, the result is the same, for the left operand that decides is the boolean that combining would give. -/

namespace EntityMapping.Proofs.LazyEvaluation
open Template

/-- Evaluation of both operands of every operator. -/
def evaluateStrictly (scope : Scope) : Expression → Except EvaluationError Value
  | .literal v => .ok v
  | .binding path => scope.binding path
  | .property path => scope.property path
  | .unary op operand => do op.apply (← evaluateStrictly scope operand)
  | .binary op lhs rhs => do
    let l ← evaluateStrictly scope lhs
    let r ← evaluateStrictly scope rhs
    op.apply l r
  | .conditional condition yes no => do
    let c ← evaluateStrictly scope condition
    match truth? c with
    | some true => evaluateStrictly scope yes
    | some false => evaluateStrictly scope no
    | none => .error (.notCondition c)

/-- The second computation succeeds where the first does, with the same result. -/
def Refined {ε α : Type} (x y : Except ε α) : Prop := ∀ a, x = .ok a → y = .ok a

theorem Refined.refl {ε α : Type} (x : Except ε α) : Refined x x := fun _ done => done

theorem Refined.bind {ε α β : Type} {x y : Except ε α} {f g : α → Except ε β} (first : Refined x y)
    (rest : ∀ a, Refined (f a) (g a)) : Refined (x >>= f) (y >>= g) := by
  intro b done
  cases x with
  | error e => cases done
  | ok a =>
    rw [first a rfl]
    exact rest a b done

theorem eq_boolean_of_truth? {v : Value} {b : Bool} (held : truth? v = some b) : v = .boolean (some b) := by
  cases v <;> first | cases held; rfl | cases held

theorem apply_of_decided {op : LogicalOp} {l r v : Value} (decided : op.isDecidedBy l = true)
    (done : op.apply l r = .ok v) : v = l := by
  unfold LogicalOp.apply at done
  split at done
  · next a b held _ =>
    cases eq_boolean_of_truth? held
    cases done
    cases op <;> cases a <;> first | rfl | cases decided
  · cases done

theorem evaluate_refined (scope : Scope) (e : Expression) : Refined (evaluateStrictly scope e) (e.evaluate scope) := by
  induction e with
  | literal v => exact .refl _
  | binding path => exact .refl _
  | property path => exact .refl _
  | unary op operand ih => exact ih.bind fun v => .refl _
  | binary op lhs rhs left right =>
    cases op with
    | arithmetic op => exact left.bind fun l => right.bind fun r => .refl _
    | comparison op => exact left.bind fun l => right.bind fun r => .refl _
    | logical op =>
      refine left.bind fun l => ?_
      by_cases decided : op.isDecidedBy l = true
      · rw [if_pos decided]
        intro v done
        cases evaluated : evaluateStrictly scope rhs with
        | error e => rw [evaluated] at done; cases done
        | ok r =>
          rw [evaluated] at done
          rw [apply_of_decided decided done]
          rfl
      · rw [if_neg decided]
        exact right.bind fun r => .refl _
  | conditional condition yes no ih ihYes ihNo =>
    refine ih.bind fun c => ?_
    cases truth? c with
    | none => exact .refl _
    | some b =>
      cases b with
      | true => exact ihYes
      | false => exact ihNo

/-- Evaluation gives what strict evaluation gives, and the latter never gives another value, though it may fail. -/
theorem evaluate_refines_strict (scope : Scope) (e : Expression) :
    (∀ v, evaluateStrictly scope e = .ok v → e.evaluate scope = .ok v) ∧
      ∀ v, e.evaluate scope = .ok v → evaluateStrictly scope e = .ok v ∨ ∃ error, evaluateStrictly scope e = .error error := by
  have refined := evaluate_refined scope e
  refine ⟨refined, fun v done => ?_⟩
  cases strict : evaluateStrictly scope e with
  | error e => exact .inr ⟨e, rfl⟩
  | ok w =>
    have same := (refined w strict).symm.trans done
    cases same
    exact .inl rfl

def bare : Scope := ⟨"Item", fun _ => none, none⟩

/-- Its right operand cannot be evaluated in a scope without an object. -/
def decided : Expression := .binary (.logical .and) (.literal (.boolean (some false))) (.property "size")

def undecided : Expression :=
  .binary (.logical .and) (.unary .not (.literal (.boolean (some false)))) (.literal (.boolean (some true)))

theorem evaluate_refines_strict_decided :
    decided.evaluate bare = .ok (.boolean (some false)) ∧ (∃ error, evaluateStrictly bare decided = .error error) ∧
      evaluateStrictly bare undecided = .ok (.boolean (some true)) ∧ undecided.evaluate bare = .ok (.boolean (some true)) := by
  have done : decided.evaluate bare = .ok (.boolean (some false)) := rfl
  refine ⟨done, ?_, rfl, (evaluate_refines_strict bare undecided).1 _ rfl⟩
  obtain strict | failed := (evaluate_refines_strict bare decided).2 _ done
  · cases strict
  · exact failed

end EntityMapping.Proofs.LazyEvaluation
