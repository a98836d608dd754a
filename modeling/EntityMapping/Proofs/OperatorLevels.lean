import EntityMapping.Proofs.Outcomes
import EntityMapping.Template.Parser

/-! The binary operators as five levels, each a chain of operands of the next one that groups to the left. The loop of the parser
reads the same trees and leaves the same tokens as the levels do, and fails where they fail. -/

namespace EntityMapping.Proofs.OperatorLevels
open Template Parser Outcomes

mutual

/-- A chain of the operators of one level; beyond the last level are the unary operators. -/
def level (n : Nat) (tokens : List Token) : Except GrammarError (Shorter Expression tokens) :=
  if n > 5 then unary tokens
  else match level (n + 1) tokens with
    | .error e => .error e
    | .ok (lhs, ⟨rest, lt⟩) => match chain n lhs rest with
      | .error e => .error e
      | .ok (e, ⟨rest', le⟩) => .ok (e, ⟨rest', by omega⟩)
termination_by (tokens.length, 2 + (6 - n))

/-- Extends `lhs` by the operators of one level and their right operands. -/
def chain (n : Nat) (lhs : Expression) (tokens : List Token) : Except GrammarError (Within Expression tokens) :=
  match tokens with
  | [] => .ok (lhs, ⟨[], Nat.le_refl _⟩)
  | t :: rest => match t.binaryOp? with
    | none => .ok (lhs, ⟨t :: rest, Nat.le_refl _⟩)
    | some op =>
      if op.level = n then match level (n + 1) rest with
        | .error e => .error e
        | .ok (rhs, ⟨rest', lt⟩) => match chain n (.binary op lhs rhs) rest' with
          | .error e => .error e
          | .ok (e, ⟨rest'', le⟩) => .ok (e, ⟨rest'', by simp only [List.length_cons]; omega⟩)
      else .ok (lhs, ⟨t :: rest, Nat.le_refl _⟩)
termination_by (tokens.length, 0)

end

theorem level_bounds (op : BinaryOp) : 1 ≤ op.level ∧ op.level ≤ 5 := by
  rcases op with op | op | op <;> cases op <;> decide

/-- No operator of level `n` or above comes next. -/
def Ended (n : Nat) (tokens : List Token) : Prop := ∀ t ∈ tokens.head?, ∀ op, t.binaryOp? = some op → op.level < n

theorem Ended.mono {n m : Nat} {tokens : List Token} (ended : Ended n tokens) (le : n ≤ m) : Ended m tokens :=
  fun t first op spelled => Nat.lt_of_lt_of_le (ended t first op spelled) le

theorem exists_of_not_ended {n : Nat} {tokens : List Token} (going : ¬ Ended n tokens) :
    ∃ t rest op, tokens = t :: rest ∧ t.binaryOp? = some op ∧ n ≤ op.level := by
  simp only [Ended, not_forall, Nat.not_lt] at going
  obtain ⟨t, first, op, spelled, least⟩ := going
  obtain ⟨rest, rfl⟩ := List.head?_eq_some_iff.mp first
  exact ⟨t, rest, op, rfl, spelled, least⟩

theorem ended_beyond (n : Nat) (beyond : 5 < n) (tokens : List Token) : Ended n tokens :=
  fun _ _ op _ => Nat.lt_of_le_of_lt (level_bounds op).2 beyond

theorem operations_ended {n : Nat} {tokens : List Token} (ended : Ended n tokens) (lhs : Expression) :
    operations n lhs tokens = .ok (lhs, ⟨tokens, Nat.le_refl _⟩) := by
  cases tokens with
  | nil => rw [operations]
  | cons t rest =>
    rw [operations]
    split
    · rfl
    · next op spelled => rw [if_pos (ended t rfl op spelled)]

theorem chain_ended {n : Nat} {tokens : List Token} (other : ∀ t ∈ tokens.head?, ∀ op, t.binaryOp? = some op → op.level ≠ n)
    (lhs : Expression) : chain n lhs tokens = .ok (lhs, ⟨tokens, Nat.le_refl _⟩) := by
  cases tokens with
  | nil => rw [chain]
  | cons t rest =>
    rw [chain]
    split
    · rfl
    · next op spelled => rw [if_neg (other t rfl op spelled)]

section
variable {α : Type} {p : List Token → Prop}

/-- What a reader gives, without the proof about the tokens that it leaves. -/
def plain (result : Except GrammarError (α × { rest : List Token // p rest })) : Except GrammarError (α × List Token) :=
  result.map fun (a, rest) => (a, rest.val)

theorem plain_injective {first second : Except GrammarError (α × { rest : List Token // p rest })}
    (same : plain first = plain second) : first = second := by
  match first, second, same with
  | .error _, .error _, same => exact congrArg Except.error (Except.error.inj same)
  | .ok (a, ⟨rest, _⟩), .ok (b, ⟨rest', _⟩), same =>
    obtain ⟨rfl, rfl⟩ := Prod.mk.inj (Except.ok.inj same)
    rfl

theorem plain_eq_ok {result : Except GrammarError (α × { rest : List Token // p rest })} {a : α} {rest : List Token}
    (read : plain result = .ok (a, rest)) : p rest := by
  obtain ⟨⟨_, rest, left⟩, -, same⟩ := map_eq_ok read
  cases same
  exact left

theorem plain_bind_congr {β : Type} {first : Except GrammarError (α × { rest : List Token // p rest })}
    {next next' : α × List Token → Except GrammarError β}
    (same : ∀ a rest, plain first = .ok (a, rest) → p rest → next (a, rest) = next' (a, rest)) :
    plain first >>= next = plain first >>= next' := by
  cases first with
  | error e => rfl
  | ok result => exact same result.1 result.2.val rfl result.2.property

end

theorem plain_binary (n : Nat) (tokens : List Token) :
    plain (binary n tokens) = plain (unary tokens) >>= fun (lhs, rest) => plain (operations n lhs rest) := by
  rw [binary]
  cases unary tokens with
  | error e => rfl
  | ok result =>
    obtain ⟨lhs, rest, lt⟩ := result
    change _ = plain (operations n lhs rest)
    dsimp only
    cases operations n lhs rest <;> rfl

theorem plain_level {n : Nat} (operators : n ≤ 5) (tokens : List Token) :
    plain (level n tokens) = plain (level (n + 1) tokens) >>= fun (lhs, rest) => plain (chain n lhs rest) := by
  rw [level, if_neg (by omega)]
  cases level (n + 1) tokens with
  | error e => rfl
  | ok result =>
    obtain ⟨lhs, rest, lt⟩ := result
    change _ = plain (chain n lhs rest)
    dsimp only
    cases chain n lhs rest <;> rfl

section
variable {n : Nat} {t : Token} {op : BinaryOp} (spelled : t.binaryOp? = some op)
include spelled

theorem plain_operations (least : n ≤ op.level) (lhs : Expression) (rest : List Token) :
    plain (operations n lhs (t :: rest)) =
      plain (binary (op.level + 1) rest) >>= fun (rhs, rest) => plain (operations n (.binary op lhs rhs) rest) := by
  rw [operations]
  simp only [spelled, Nat.not_lt.mpr least, if_false]
  cases binary (op.level + 1) rest with
  | error e => rfl
  | ok result =>
    obtain ⟨rhs, rest, lt⟩ := result
    change _ = plain (operations n (.binary op lhs rhs) rest)
    dsimp only
    cases operations n (.binary op lhs rhs) rest <;> rfl

theorem plain_chain (same : op.level = n) (lhs : Expression) (rest : List Token) :
    plain (chain n lhs (t :: rest)) =
      plain (level (n + 1) rest) >>= fun (rhs, rest) => plain (chain n (.binary op lhs rhs) rest) := by
  rw [chain]
  simp only [spelled, same, if_true]
  cases level (n + 1) rest with
  | error e => rfl
  | ok result =>
    obtain ⟨rhs, rest, lt⟩ := result
    change _ = plain (chain n (.binary op lhs rhs) rest)
    dsimp only
    cases chain n (.binary op lhs rhs) rest <;> rfl

end

theorem operations_leaves {n : Nat} {tokens rest : List Token} {lhs e : Expression}
    (read : plain (operations n lhs tokens) = .ok (e, rest)) : Ended n rest := by
  by_cases ended : Ended n tokens
  · rw [operations_ended ended] at read
    cases read
    exact ended
  · obtain ⟨t, more, op, rfl, spelled, least⟩ := exists_of_not_ended ended
    rw [plain_operations spelled least] at read
    obtain ⟨⟨rhs, after⟩, operand, read⟩ := bind_eq_ok.mp read
    have shorter := plain_eq_ok operand
    exact operations_leaves read
termination_by tokens.length
decreasing_by
  subst_vars
  exact Nat.lt_succ_of_lt shorter

theorem binary_leaves {n : Nat} {tokens rest : List Token} {e : Expression}
    (read : plain (binary n tokens) = .ok (e, rest)) : Ended n rest := by
  rw [plain_binary] at read
  obtain ⟨_, -, joined⟩ := bind_eq_ok.mp read
  exact operations_leaves joined

/-- A loop from level `n` on is a loop from the next level on, whose result is then the first operand of a chain of level `n`. -/
theorem operations_split {n : Nat} {tokens : List Token}
    (agree : ∀ shorter, shorter.length < tokens.length → binary (n + 1) shorter = level (n + 1) shorter) (lhs : Expression) :
    plain (operations n lhs tokens) =
      plain (operations (n + 1) lhs tokens) >>= fun (lhs, rest) => plain (chain n lhs rest) := by
  by_cases ended : Ended n tokens
  · have other : ∀ t ∈ tokens.head?, ∀ op, t.binaryOp? = some op → op.level ≠ n :=
      fun t first op spelled => Nat.ne_of_lt (ended t first op spelled)
    rw [operations_ended ended, operations_ended (ended.mono (Nat.le_succ n))]
    change _ = plain (chain n lhs tokens)
    rw [chain_ended other]
  · obtain ⟨t, more, op, rfl, spelled, least⟩ := exists_of_not_ended ended
    have rest_agree : ∀ after : List Token, after.length < more.length → ∀ shorter : List Token,
        shorter.length < after.length → binary (n + 1) shorter = level (n + 1) shorter := by
      intro after fewer shorter lt
      exact agree shorter (by simp only [List.length_cons]; omega)
    obtain same | tighter := Nat.eq_or_lt_of_le least
    · have stops : Ended (n + 1) (t :: more) := by
        rintro _ ⟨⟩ other again
        cases spelled.symm.trans again
        omega
      calc plain (operations n lhs (t :: more))
        _ = plain (binary (n + 1) more) >>= fun (rhs, rest) => plain (operations n (.binary op lhs rhs) rest) := by
          rw [plain_operations spelled least, ← same]
        _ = plain (binary (n + 1) more) >>= fun (rhs, rest) => plain (chain n (.binary op lhs rhs) rest) := by
          apply plain_bind_congr
          intro rhs rest read fewer
          dsimp only
          rw [operations_split (rest_agree rest fewer), operations_ended (binary_leaves read)]
          rfl
        _ = plain (chain n lhs (t :: more)) := by
          rw [plain_chain spelled same.symm, agree more (Nat.lt_succ_self _)]
        _ = _ := by
          rw [operations_ended stops]
          rfl
    · calc plain (operations n lhs (t :: more))
        _ = plain (binary (op.level + 1) more) >>= fun (rhs, rest) => plain (operations n (.binary op lhs rhs) rest) :=
          plain_operations spelled least lhs more
        _ = plain (binary (op.level + 1) more) >>= fun (rhs, rest) =>
            plain (operations (n + 1) (.binary op lhs rhs) rest) >>= fun (lhs, rest) => plain (chain n lhs rest) := by
          apply plain_bind_congr
          intro rhs rest _ fewer
          exact operations_split (rest_agree rest fewer) _
        _ = _ := by
          rw [plain_operations spelled tighter, bind_assoc]
termination_by tokens.length
decreasing_by
  all_goals
    subst_vars
    exact Nat.lt_succ_of_lt fewer

/-- The loop of the parser reads the chains of the levels. -/
theorem binary_eq_level (n : Nat) (tokens : List Token) : binary n tokens = level n tokens := by
  apply plain_injective
  by_cases operators : n ≤ 5
  · calc plain (binary n tokens)
      _ = plain (unary tokens) >>= fun (lhs, rest) => plain (operations n lhs rest) := plain_binary n tokens
      _ = plain (unary tokens) >>= fun (lhs, rest) =>
          plain (operations (n + 1) lhs rest) >>= fun (lhs, rest) => plain (chain n lhs rest) := by
        apply plain_bind_congr
        intro lhs rest _ fewer
        exact operations_split (fun shorter lt => binary_eq_level (n + 1) shorter) lhs
      _ = plain (level (n + 1) tokens) >>= fun (lhs, rest) => plain (chain n lhs rest) := by
        rw [← binary_eq_level (n + 1) tokens, plain_binary, bind_assoc]
      _ = plain (level n tokens) := (plain_level operators tokens).symm
  · rw [plain_binary, level, if_pos (Nat.lt_of_not_le operators)]
    conv_rhs => rw [← bind_pure (plain (unary tokens))]
    apply plain_bind_congr
    intro lhs rest _ _
    dsimp only
    rw [operations_ended (ended_beyond n (Nat.lt_of_not_le operators) rest)]
    rfl
termination_by (tokens.length, 6 - n)

/-- The least level that is asked for at the start is below all levels. -/
theorem binary_start (tokens : List Token) : binary 0 tokens = level 1 tokens := by
  apply plain_injective
  rw [binary_eq_level, plain_level (Nat.zero_le 5)]
  conv_rhs => rw [← bind_pure (plain (level 1 tokens))]
  apply plain_bind_congr
  intro lhs rest _ _
  dsimp only
  rw [chain_ended fun t _ op _ => Nat.ne_of_gt (level_bounds op).1]
  rfl

end EntityMapping.Proofs.OperatorLevels
