import EntityMapping.Proofs.WrittenForms
import Mathlib

/-! Comparisons of comparisons. In the documented grammar a comparison has one operator, and a text that goes on with another one
is no expression. The parser takes such chains and groups them to the left. -/

namespace EntityMapping.Proofs.ComparisonChains
open Template TemplateGrammar WrittenForms

/-- A comparison that no parentheses enclose. -/
def isComparison : Written → Bool
  | .binary (.comparison _) _ _ => true
  | _ => false

/-- Whether `allowed` holds of the two operands of every comparison, at any depth. -/
def everyComparison (allowed : Written → Written → Bool) : Written → Bool
  | .atom _ => true
  | .group inner => everyComparison allowed inner
  | .unary _ operand => everyComparison allowed operand
  | .binary op lhs rhs =>
    (!isComparison (.binary op lhs rhs) || allowed lhs rhs) && everyComparison allowed lhs && everyComparison allowed rhs
  | .conditional condition yes no =>
    everyComparison allowed condition && everyComparison allowed yes && everyComparison allowed no

/-- No comparison is an operand of another one without parentheses around it. -/
def unchained : Written → Bool := everyComparison fun lhs rhs => !isComparison lhs && !isComparison rhs

/-- Only the left operand of a comparison may be a comparison without parentheses around it. -/
def chainedLeftward : Written → Bool := everyComparison fun _ rhs => !isComparison rhs

/-- The grammar as it is documented: comparisons, the operators of the third level, do not make up chains. -/
def documented (n : Nat) : Bool := n != 3

section
variable {chains : Nat → Bool} {phrase : Phrase} {ts us : List Token} {w l r : Written}

theorem isComparison_binary {n : Nat} {op : BinaryOp} (member : op ∈ operatorsOf n) (l r : Written) :
    isComparison (.binary op l r) = (n == 3) := by
  have level := (level_eq_iff op n).mpr member
  rcases op with op | op | op <;> cases op <;> subst level <;> rfl

/-- The phrases that bind tighter than a comparison. -/
def Tight : Phrase → Prop
  | .expression => False
  | .level n => 3 < n
  | .unary | .primary => True

theorem not_comparison (writes : Writes chains phrase ts w) (tight : Tight phrase) : isComparison w = false := by
  induction writes with
  | plain | conditional => exact tight.elim
  | last _ ih => exact ih trivial
  | tighter _ ih => exact ih (Nat.lt_succ_of_lt tight)
  | binary _ _ member _ _ _ =>
    rw [isComparison_binary member]
    simp only [Tight] at tight
    simp only [beq_eq_false_iff_ne]
    omega
  | primary _ ih => exact ih trivial
  | bang | not | minus | atom | group => rfl

theorem not_comparison_of_next (writes : Writes chains (.level 4) ts w) : isComparison w = false :=
  not_comparison writes (Nat.lt_succ_self 3)

theorem next_of_not_comparison (writes : Writes chains (.level 3) ts w) (other : isComparison w = false) :
    Writes chains (.level 4) ts w := by
  cases writes with
  | tighter inner => exact inner
  | binary _ _ member _ => rw [isComparison_binary member] at other; cases other

/-- What holds of the operands of a comparison by the levels they are written on holds of every comparison. -/
theorem everyComparison_of_operands {allowed : Written → Written → Bool}
    (operands : ∀ {ts us l r}, Writes chains (.level (if chains 3 then 3 else 4)) ts l → Writes chains (.level 4) us r →
      allowed l r)
    (writes : Writes chains phrase ts w) : everyComparison allowed w := by
  induction writes with
  | plain _ ih | last _ ih | tighter _ ih | primary _ ih => exact ih
  | bang _ ih | not _ _ ih | minus _ ih | group _ ih => exact ih
  | atom => rfl
  | conditional _ _ _ first second third =>
    simp only [everyComparison, Bool.and_eq_true]
    exact ⟨⟨first, second⟩, third⟩
  | @binary n _ _ _ op l r left _ member right left' right' =>
    have between : (!isComparison (.binary op l r) || allowed l r) = true := by
      rw [isComparison_binary member]
      by_cases third : n = 3
      · subst third
        simp [operands left right]
      · simp [third]
    simp only [everyComparison, Bool.and_eq_true]
    exact ⟨⟨between, left'⟩, right'⟩

/-- The right operand of a comparison is written on the next level, in any grammar. -/
theorem chainedLeftward_of_writes (writes : Writes chains phrase ts w) : chainedLeftward w :=
  everyComparison_of_operands (fun _ right => by simp [not_comparison_of_next right]) writes

/-- In the documented grammar the left operand is written there too. -/
theorem unchained_of_documented (writes : Writes documented phrase ts w) : unchained w :=
  everyComparison_of_operands (fun left right => by simp [not_comparison_of_next left, not_comparison_of_next right]) writes

/-- Where no comparison is an operand of another one, the documented grammar writes the same. -/
theorem documented_of_unchained (writes : Writes everyLevel phrase ts w) (alone : unchained w) : Writes documented phrase ts w := by
  induction writes with
  | plain _ ih => exact .plain (ih alone)
  | last _ ih => exact .last (ih alone)
  | tighter _ ih => exact .tighter (ih alone)
  | primary _ ih => exact .primary (ih alone)
  | bang _ ih => exact .bang (ih alone)
  | not negation _ ih => exact .not negation (ih alone)
  | minus _ ih => exact .minus (ih alone)
  | group _ ih => exact .group (ih alone)
  | atom derived other => exact .atom derived other
  | conditional _ _ _ first second third =>
    simp only [unchained, everyComparison, Bool.and_eq_true] at alone
    exact .conditional (first alone.1.1) (second alone.1.2) (third alone.2)
  | @binary n _ _ _ op l r _ spells member _ left right =>
    simp only [unchained, everyComparison, Bool.and_eq_true] at alone
    obtain ⟨⟨operands, leftward⟩, rightward⟩ := alone
    have left := left leftward
    refine .binary ?_ spells member (right rightward)
    by_cases third : n = 3
    · subst third
      simp only [isComparison_binary member, beq_self_eq_true, Bool.not_true, Bool.false_or, Bool.and_eq_true,
        Bool.not_eq_true'] at operands
      exact next_of_not_comparison left operands.1
    · simpa [documented, everyLevel, third] using left

/-- A text has a form in the documented grammar when no comparison of its one written form is an operand of another. -/
theorem unchained_iff_documented {cs : List Char} (written : WrittenAs everyLevel cs w) :
    unchained w ↔ ∃ w', WrittenAs documented cs w' := by
  constructor
  · intro alone
    obtain ⟨tokens, scanned, writes⟩ := written
    exact ⟨w, tokens, scanned, documented_of_unchained writes alone⟩
  · rintro ⟨w', tokens, scanned, writes⟩
    cases written.unique ⟨tokens, scanned, writes.relax⟩
    exact unchained_of_documented writes

theorem on_level {n : Nat} (le : n ≤ 6) (writes : Writes chains .primary ts w) : Writes chains (.level n) ts w := by
  obtain ⟨k, same⟩ := Nat.exists_eq_add_of_le le
  induction k generalizing n with
  | zero => cases same; exact .last (.primary writes)
  | succ k ih => exact .tighter (ih (by omega) (by omega))

theorem writes_name (name : String) (free : lowerWord name ∉ reserved) :
    Writes chains .primary [.word name] (.atom (.property name)) :=
  .atom (@Derives.property name [] free) (by simp)

theorem spells_symbol (op : BinaryOp) : Spells (.symbol (symbolOf op)) op := ⟨_, rfl, .inl rfl⟩

/-- A comparison goes on with another operator and one more operand. -/
theorem writes_comparison (op : ComparisonOp) (left : Writes everyLevel (.level 3) ts l) (right : Writes everyLevel .primary us r) :
    Writes everyLevel (.level 3) (ts ++ .symbol (symbolOf (.comparison op)) :: us) (.binary (.comparison op) l r) :=
  .binary left (spells_symbol _) ((level_eq_iff _ 3).mp rfl) (on_level (by decide) right)

theorem writes_whole (writes : Writes everyLevel (.level 3) ts w) : Writes everyLevel .expression ts w :=
  .plain (.tighter (.tighter writes))

end

/-- The parser takes every text that is written with chains on all levels, and such a text is written in one way. A comparison may
be the left operand of another one there, with no parentheses around it, and never the right operand. The texts in which it is
neither are those of the documented grammar: what the parser takes beyond it are the chains of comparisons. -/
theorem comparisons_chain_leftward (cs : List Char) :
    (∀ e, Expression.parse cs = .ok e ↔ ∃ w, WrittenAs everyLevel cs w ∧ w.tree = e) ∧
    {w | WrittenAs everyLevel cs w}.Subsingleton ∧
    ∀ w, WrittenAs everyLevel cs w → chainedLeftward w ∧ (unchained w ↔ ∃ w', WrittenAs documented cs w') := by
  refine ⟨parse_eq_ok_iff_writtenAs cs, fun w written w' written' => written.unique written', fun w written => ?_⟩
  obtain ⟨tokens, -, writes⟩ := id written
  exact ⟨chainedLeftward_of_writes writes, unchained_iff_documented written⟩

/-- Parentheses make a comparison an operand of the documented grammar; the chain behind it has no form there. -/
theorem comparisons_chain_leftward_sample :
    let text := ['(', 'a', '=', '=', 'b', ')', '<', 'c', '!', '=', 'd']
    let name (s : String) : Written := .atom (.property s)
    let grouped : Written := .group (.binary (.comparison .equal) (name "a") (name "b"))
    let w : Written := .binary (.comparison .notEqual) (.binary (.comparison .less) grouped (name "c")) (name "d")
    WrittenAs everyLevel text w ∧ Expression.parse text = .ok w.tree ∧ chainedLeftward w ∧
      ¬ ∃ w', WrittenAs documented text w' := by
  intro text name grouped w
  have inner := writes_comparison .equal (on_level (by decide) (writes_name "a" (by decide)))
    (writes_name "b" (by decide))
  have first := writes_comparison .less (on_level (by decide) (.group (writes_whole inner)))
    (writes_name "c" (by decide))
  have whole := writes_comparison .notEqual first (writes_name "d" (by decide))
  have written : WrittenAs everyLevel text w := ⟨_, by cbv, writes_whole whole⟩
  obtain ⟨parsed, -, shape⟩ := comparisons_chain_leftward text
  obtain ⟨leftward, alone⟩ := shape w written
  refine ⟨written, (parsed w.tree).mpr ⟨w, written, rfl⟩, leftward, fun again => ?_⟩
  exact absurd (alone.mpr again) (by decide)

/-- A comparison of a comparison is taken without any parentheses. -/
theorem chained_comparison_taken :
    let text := ['a', '=', '=', 'b', '=', '=', 'c']
    let name (s : String) : Written := .atom (.property s)
    let w : Written := .binary (.comparison .equal) (.binary (.comparison .equal) (name "a") (name "b")) (name "c")
    Expression.parse text = .ok w.tree ∧ WrittenAs everyLevel text w ∧ unchained w = false ∧
      ¬ ∃ w', WrittenAs documented text w' := by
  intro text name w
  have first := writes_comparison .equal (on_level (by decide) (writes_name "a" (by decide)))
    (writes_name "b" (by decide))
  have whole := writes_comparison .equal first (writes_name "c" (by decide))
  have written : WrittenAs everyLevel text w := ⟨_, by cbv, writes_whole whole⟩
  refine ⟨(parse_eq_ok_iff_writtenAs text w.tree).mpr ⟨w, written, rfl⟩, written, rfl, fun again => ?_⟩
  exact absurd ((unchained_iff_documented written).mpr again) (by decide)

end EntityMapping.Proofs.ComparisonChains
