import EntityMapping.Proofs.TemplateGrammar

/-! Expressions as they are written, with their parentheses, and the grammar that tells which tokens write them. A list of tokens
derives a tree when it writes an expression that has the tree, and it writes no more than one expression. -/

namespace EntityMapping.Proofs.WrittenForms
open Template TemplateGrammar

/-- Expressions as they are written. Atoms are the literals, bindings and properties. -/
inductive Written where
  | atom (e : Expression)
  | group (inner : Written)
  | unary (op : UnaryOp) (operand : Written)
  | binary (op : BinaryOp) (lhs rhs : Written)
  | conditional (condition yes no : Written)

namespace Written

/-- The tree that is left without the parentheses. -/
def tree : Written → Expression
  | atom e => e
  | group inner => inner.tree
  | unary op operand => .unary op operand.tree
  | binary op lhs rhs => .binary op lhs.tree rhs.tree
  | conditional condition yes no => .conditional condition.tree yes.tree no.tree

end Written

/-- The tokens of written expressions, in a grammar whose operators make up chains on the levels that `chains` accepts. On the
other levels there is one operator at most. -/
inductive Writes (chains : Nat → Bool) : Phrase → List Token → Written → Prop where
  | plain {ts w} : Writes chains (.level 1) ts w → Writes chains .expression ts w
  | conditional {ts us vs c y n} : Writes chains (.level 1) ts c → Writes chains .expression us y →
      Writes chains .expression vs n →
      Writes chains .expression (ts ++ .symbol .question :: us ++ .symbol .colon :: vs) (.conditional c y n)
  | last {ts w} : Writes chains .unary ts w → Writes chains (.level 6) ts w
  | tighter {n ts w} : Writes chains (.level (n + 1)) ts w → Writes chains (.level n) ts w
  | binary {n ts us t op l r} : Writes chains (.level (if chains n then n else n + 1)) ts l → Spells t op →
      op ∈ operatorsOf n → Writes chains (.level (n + 1)) us r → Writes chains (.level n) (ts ++ t :: us) (.binary op l r)
  | bang {ts w} : Writes chains .unary ts w → Writes chains .unary (.symbol .bang :: ts) (.unary .not w)
  | not {s ts w} : lowerWord s = "not" → Writes chains .unary ts w → Writes chains .unary (.word s :: ts) (.unary .not w)
  | minus {ts w} : Writes chains .unary ts w → Writes chains .unary (.symbol .minus :: ts) (.unary .negative w)
  | primary {ts w} : Writes chains .primary ts w → Writes chains .unary ts w
  | atom {ts e} : Derives .primary ts e → ts.head? ≠ some (.symbol .openParen) → Writes chains .primary ts (.atom e)
  | group {ts w} : Writes chains .expression ts w →
      Writes chains .primary (.symbol .openParen :: ts ++ [.symbol .closeParen]) (.group w)

/-- Every level is a chain. -/
def everyLevel (_ : Nat) : Bool := true

/-- What is written with one operator at most on some levels is written with chains on all of them. -/
theorem Writes.relax {chains : Nat → Bool} {phrase : Phrase} {ts : List Token} {w : Written}
    (writes : Writes chains phrase ts w) : Writes everyLevel phrase ts w := by
  induction writes with
  | plain _ ih => exact .plain ih
  | conditional _ _ _ first second third => exact .conditional first second third
  | last _ ih => exact .last ih
  | tighter _ ih => exact .tighter ih
  | @binary n ts _ _ _ l _ _ spells member _ left right =>
    have left : Writes everyLevel (.level n) ts l := by
      split at left
      · exact left
      · exact .tighter left
    exact .binary left spells member right
  | bang _ ih => exact .bang ih
  | not negation _ ih => exact .not negation ih
  | minus _ ih => exact .minus ih
  | primary _ ih => exact .primary ih
  | atom derived other => exact .atom derived other
  | group _ ih => exact .group ih

theorem Writes.derives {phrase : Phrase} {ts : List Token} {w : Written} (writes : Writes everyLevel phrase ts w) :
    Derives phrase ts w.tree := by
  induction writes with
  | plain _ ih => exact .plain ih
  | conditional _ _ _ first second third => exact .conditional first second third
  | last _ ih => exact .operand ih
  | tighter _ ih => exact .tighter ih
  | binary _ spells member _ left right => exact .binary left spells member right
  | bang _ ih => exact .bang ih
  | not negation _ ih => exact .not negation ih
  | minus _ ih => exact .minus ih
  | primary _ ih => exact .primary ih
  | atom derived _ => exact derived
  | group _ ih => exact .group ih

theorem written_of_derives {phrase : Phrase} {ts : List Token} {e : Expression} (derived : Derives phrase ts e) :
    ∃ w, Writes everyLevel phrase ts w ∧ w.tree = e := by
  induction derived with
  | plain _ ih => obtain ⟨w, writes, rfl⟩ := ih; exact ⟨w, .plain writes, rfl⟩
  | conditional _ _ _ first second third =>
    obtain ⟨c, first, rfl⟩ := first
    obtain ⟨y, second, rfl⟩ := second
    obtain ⟨n, third, rfl⟩ := third
    exact ⟨_, .conditional first second third, rfl⟩
  | operand _ ih => obtain ⟨w, writes, rfl⟩ := ih; exact ⟨w, .last writes, rfl⟩
  | tighter _ ih => obtain ⟨w, writes, rfl⟩ := ih; exact ⟨w, .tighter writes, rfl⟩
  | binary _ spells member _ left right =>
    obtain ⟨l, left, rfl⟩ := left
    obtain ⟨r, right, rfl⟩ := right
    exact ⟨_, .binary left spells member right, rfl⟩
  | bang _ ih => obtain ⟨w, writes, rfl⟩ := ih; exact ⟨_, .bang writes, rfl⟩
  | not negation _ ih => obtain ⟨w, writes, rfl⟩ := ih; exact ⟨_, .not negation writes, rfl⟩
  | minus _ ih => obtain ⟨w, writes, rfl⟩ := ih; exact ⟨_, .minus writes, rfl⟩
  | primary _ ih => obtain ⟨w, writes, rfl⟩ := ih; exact ⟨w, .primary writes, rfl⟩
  | group _ ih => obtain ⟨w, writes, rfl⟩ := ih; exact ⟨_, .group writes, rfl⟩
  | binding => exact ⟨_, .atom .binding (by simp), rfl⟩
  | property free => exact ⟨_, .atom (.property free) (by simp [pathTokens]), rfl⟩
  | text => exact ⟨_, .atom .text (by simp), rfl⟩
  | integer => exact ⟨_, .atom .integer (by simp), rfl⟩
  | decimal => exact ⟨_, .atom .decimal (by simp), rfl⟩
  | true same => exact ⟨_, .atom (.true same) (by simp), rfl⟩
  | false same => exact ⟨_, .atom (.false same) (by simp), rfl⟩
  | null same => exact ⟨_, .atom (.null same) (by simp), rfl⟩

/-- A phrase of a level ends where no operator of the level or of a tighter one follows. -/
theorem level_ends {n : Nat} {ts ts' rest rest' : List Token} {e e' : Expression} (derived : Derives (.level (n + 1)) ts e)
    (derived' : Derives (.level (n + 1)) ts' e') (bounded : Bounded n rest) (bounded' : Bounded n rest')
    (same : ts ++ rest = ts' ++ rest') : ts = ts' ∧ rest = rest' := by
  have read := derived.reads rest e rest (bounded.mono (Nat.le_succ n)) (bounded.chain_end (Nat.lt_succ_self n) e)
  have read' := derived'.reads rest' e' rest' (bounded'.mono (Nat.le_succ n)) (bounded'.chain_end (Nat.lt_succ_self n) e')
  rw [← same] at read'
  obtain ⟨-, rfl⟩ := read.unique read'
  exact ⟨List.append_cancel_right same, rfl⟩

theorem expression_ends {ts ts' rest rest' : List Token} {e e' : Expression} (derived : Derives .expression ts e)
    (derived' : Derives .expression ts' e') (same : ts ++ .symbol .colon :: rest = ts' ++ .symbol .colon :: rest') :
    ts = ts' ∧ rest = rest' := by
  have read := derived.reads (.symbol .colon :: rest) (bounded_separator (by simp) rfl _) (by simp)
  have read' := derived'.reads (.symbol .colon :: rest') (bounded_separator (by simp) rfl _) (by simp)
  rw [← same] at read'
  obtain ⟨-, rest⟩ := read.unique read'
  cases rest
  exact ⟨List.append_cancel_right same, rfl⟩

/-- What the operators of one level and their right operands make of the operand before them. -/
inductive Chained (n : Nat) : Written → List Token → Written → Prop where
  | done {l} : Chained n l [] l
  | next {l t op us r ts w} : Spells t op → op ∈ operatorsOf n → Writes everyLevel (.level (n + 1)) us r →
      Chained n (.binary op l r) ts w → Chained n l (t :: us ++ ts) w

theorem Chained.bounded {n : Nat} {l w : Written} {ts : List Token} (chained : Chained n l ts w) : Bounded n ts := by
  cases chained with
  | done => simp [Bounded]
  | @next _ t op _ _ _ _ spells member _ _ =>
    have level := (level_eq_iff op n).mpr member
    exact level ▸ bounded_operator ((binaryOp?_eq_some_iff t op).mpr spells) _

theorem Chained.first {n : Nat} {l w : Written} {ts : List Token} (chained : Chained n l ts w) :
    (ts = [] ∧ w = l) ∨ ∃ t op us r vs, ts = t :: (us ++ vs) ∧ t.binaryOp? = some op ∧
      Writes everyLevel (.level (n + 1)) us r ∧ Chained n (.binary op l r) vs w := by
  cases chained with
  | done => exact .inl ⟨rfl, rfl⟩
  | next spells _ right later => exact .inr ⟨_, _, _, _, _, rfl, (binaryOp?_eq_some_iff ..).mpr spells, right, later⟩

theorem Chained.extend {n : Nat} {l w r : Written} {ts us : List Token} {t : Token} {op : BinaryOp}
    (chained : Chained n l ts w) (spells : Spells t op) (member : op ∈ operatorsOf n)
    (right : Writes everyLevel (.level (n + 1)) us r) : Chained n l (ts ++ t :: us) (.binary op w r) := by
  induction chained with
  | done => simpa using Chained.next spells member right .done
  | next spells' member' right' _ ih => simpa using Chained.next spells' member' right' ih

theorem Writes.chain {n : Nat} (operators : n ≤ 5) {ts : List Token} {w : Written} (writes : Writes everyLevel (.level n) ts w) :
    ∃ us vs l, ts = us ++ vs ∧ Writes everyLevel (.level (n + 1)) us l ∧ Chained n l vs w := by
  generalize shape : Phrase.level n = phrase at writes
  induction writes with
  | last => cases shape; omega
  | @tighter m ts w inner => cases shape; exact ⟨ts, [], w, by simp, inner, .done⟩
  | @binary m ts us t op l r _ spells member right left _ =>
    cases shape
    obtain ⟨first, rest, start, rfl, operand, chained⟩ := left rfl
    exact ⟨first, rest ++ t :: us, start, by simp, operand, chained.extend spells member right⟩
  | _ => cases shape

/-- An expression is a condition alone or is followed by two branches. -/
theorem Writes.condition {ts : List Token} {w : Written} (writes : Writes everyLevel .expression ts w) :
    Writes everyLevel (.level 1) ts w ∨ ∃ cs ys ns c y n, ts = cs ++ .symbol .question :: (ys ++ .symbol .colon :: ns) ∧
      w = .conditional c y n ∧ Writes everyLevel (.level 1) cs c ∧ Writes everyLevel .expression ys y ∧
      Writes everyLevel .expression ns n := by
  cases writes with
  | plain first => exact .inl first
  | conditional first second third => exact .inr ⟨_, _, _, _, _, _, by simp, rfl, first, second, third⟩

theorem Writes.level_le {n : Nat} {ts : List Token} {w : Written}
    (writes : Writes everyLevel (.level n) ts w) : n ≤ 6 := by
  generalize shape : Phrase.level n = phrase at writes
  induction writes generalizing n with
  | last => cases shape; exact Nat.le_refl 6
  | tighter _ ih => cases shape; exact Nat.le_of_succ_le (ih rfl)
  | binary _ _ _ _ _ ih => cases shape; exact Nat.le_of_succ_le (ih rfl)
  | _ => cases shape

theorem Writes.of_last {ts : List Token} {w : Written} (writes : Writes everyLevel (.level 6) ts w) :
    Writes everyLevel .unary ts w := by
  cases writes with
  | last inner => exact inner
  | tighter inner => exact absurd inner.level_le (by decide)
  | binary _ _ member _ => cases member

theorem Writes.operation {ts : List Token} {w : Written} (writes : Writes everyLevel .unary ts w) :
    (∃ t op us u, ts = t :: us ∧ w = .unary op u ∧ t.unaryOp? = some op ∧ Writes everyLevel .unary us u) ∨
      Writes everyLevel .primary ts w := by
  cases writes with
  | bang inner => exact .inl ⟨_, _, _, _, rfl, rfl, rfl, inner⟩
  | not negation inner => exact .inl ⟨_, _, _, _, rfl, rfl, by simp [Token.unaryOp?, negation], inner⟩
  | minus inner => exact .inl ⟨_, _, _, _, rfl, rfl, rfl, inner⟩
  | primary inner => exact .inr inner

theorem Writes.enclosed {ts : List Token} {w : Written} (writes : Writes everyLevel .primary ts w) :
    (∃ e, w = .atom e ∧ Derives .primary ts e ∧ ts.head? ≠ some (.symbol .openParen)) ∨
      ∃ us u, ts = .symbol .openParen :: us ++ [.symbol .closeParen] ∧ w = .group u ∧ Writes everyLevel .expression us u := by
  cases writes with
  | atom derived other => exact .inl ⟨_, rfl, derived, other⟩
  | group inner => exact .inr ⟨_, _, rfl, rfl, inner⟩

/-- What is written as an operand does not start like a unary operation. -/
theorem Writes.head {ts : List Token} {w : Written} (writes : Writes everyLevel .primary ts w) :
    ∃ t more, ts = t :: more ∧ t.unaryOp? = none := by
  obtain ⟨t, more, shape, plain, -⟩ := writes.derives.reads
  exact ⟨t, more, shape, plain⟩

theorem primary_unique {ts : List Token} {e e' : Expression} (derived : Derives .primary ts e) (derived' : Derives .primary ts e') :
    e = e' := by
  obtain ⟨t, more, shape, -, read⟩ := derived.reads
  obtain ⟨_, _, shape', -, read'⟩ := derived'.reads
  cases shape.symm.trans shape'
  exact ((read [] (by simp [Bounded])).unique (read' [] (by simp [Bounded]))).1

mutual

/-- Each operand has fewer tokens than the phrase it is part of. Where the tokens stay the same, an expression goes on to the first
level, a level to the next one, and the last to a unary phrase; the chain behind the first operand of a level comes last. -/
theorem expression_unique {ts : List Token} {w w' : Written} (writes : Writes everyLevel .expression ts w)
    (writes' : Writes everyLevel .expression ts w') : w = w' := by
  have asked : ∀ more, Bounded 0 (.symbol .question :: more) := bounded_separator (by simp) rfl
  have nothing : Bounded 0 ([] : List Token) := by simp [Bounded]
  rcases writes.condition with first | ⟨cs, ys, ns, c, y, n, shape, rfl, first, second, third⟩ <;>
    rcases writes'.condition with first' | ⟨cs', ys', ns', c', y', n', shape', rfl, first', second', third'⟩
  · exact level_unique first first'
  · obtain ⟨-, ended⟩ := level_ends first.derives first'.derives nothing (asked _) (by simpa using shape')
    cases ended
  · obtain ⟨-, ended⟩ := level_ends first'.derives first.derives nothing (asked _) (by simpa using shape)
    cases ended
  · have same := shape.symm.trans shape'
    obtain ⟨rfl, after⟩ := level_ends first.derives first'.derives (asked _) (asked _) same
    obtain ⟨rfl, rfl⟩ := expression_ends second.derives second'.derives (List.cons.inj after).2
    have longer := congrArg List.length shape
    simp only [List.length_append, List.length_cons] at longer
    rw [level_unique first first', expression_unique second second', expression_unique third third']
termination_by (ts.length, 9)

theorem level_unique {n : Nat} {ts : List Token} {w w' : Written} (writes : Writes everyLevel (.level n) ts w)
    (writes' : Writes everyLevel (.level n) ts w') : w = w' := by
  by_cases operators : n ≤ 5
  · obtain ⟨us, vs, l, shape, operand, chained⟩ := writes.chain operators
    obtain ⟨us', vs', l', shape', operand', chained'⟩ := writes'.chain operators
    obtain ⟨rfl, rfl⟩ := level_ends operand.derives operand'.derives chained.bounded chained'.bounded (shape.symm.trans shape')
    have shorter : us.length ≤ ts.length ∧ vs.length ≤ ts.length := by simp [shape]
    cases level_unique operand operand'
    exact chained_unique chained chained'
  · have last := writes.level_le
    have same : n = 6 := by omega
    subst same
    exact unary_unique writes.of_last writes'.of_last
termination_by (ts.length, 2 + (6 - n))
decreasing_by all_goals (simp only [Prod.lex_def, true_and]; omega)

theorem chained_unique {n : Nat} {ts : List Token} {l w w' : Written} (chained : Chained n l ts w) (chained' : Chained n l ts w') :
    w = w' := by
  rcases chained.first with ⟨empty, rfl⟩ | ⟨t, op, us, r, vs, shape, spells, right, later⟩ <;>
    rcases chained'.first with ⟨empty', rfl⟩ | ⟨t', op', us', r', vs', shape', spells', right', later'⟩
  · rfl
  · rw [empty] at shape'; cases shape'
  · rw [empty'] at shape; cases shape
  · obtain ⟨rfl, same⟩ := List.cons.inj (shape.symm.trans shape')
    obtain ⟨rfl, rfl⟩ := level_ends right.derives right'.derives later.bounded later'.bounded same
    have longer := congrArg List.length shape
    simp only [List.length_append, List.length_cons] at longer
    cases spells.symm.trans spells'
    cases level_unique right right'
    exact chained_unique later later'
termination_by (ts.length, 0)

theorem unary_unique {ts : List Token} {w w' : Written} (writes : Writes everyLevel .unary ts w)
    (writes' : Writes everyLevel .unary ts w') : w = w' := by
  rcases writes.operation with ⟨t, op, us, u, rfl, rfl, spelled, inner⟩ | plain <;>
    rcases writes'.operation with ⟨t', op', us', u', shape, rfl, spelled', inner'⟩ | plain'
  · cases shape
    cases spelled.symm.trans spelled'
    rw [unary_unique inner inner']
  · obtain ⟨_, _, shape, other⟩ := plain'.head
    cases shape
    cases spelled.symm.trans other
  · obtain ⟨_, _, shape', other⟩ := plain.head
    cases shape.symm.trans shape'
    cases spelled'.symm.trans other
  · rcases plain.enclosed with ⟨e, rfl, derived, other⟩ | ⟨us, u, shape, rfl, inner⟩ <;>
      rcases plain'.enclosed with ⟨e', rfl, derived', other'⟩ | ⟨us', u', shape', rfl, inner'⟩
    · rw [primary_unique derived derived']
    · exact absurd (congrArg List.head? shape') other
    · exact absurd (congrArg List.head? shape) other'
    · obtain ⟨-, same⟩ := List.cons.inj (shape.symm.trans shape')
      cases List.append_cancel_right same
      have longer := congrArg List.length shape
      simp only [List.length_append, List.length_cons, List.length_nil] at longer
      rw [expression_unique inner inner']
termination_by (ts.length, 1)

end

/-- A text is written as an expression when its tokens are. -/
def WrittenAs (chains : Nat → Bool) (cs : List Char) (w : Written) : Prop :=
  ∃ tokens, Token.scan cs = .ok tokens ∧ Writes chains .expression tokens w

theorem WrittenAs.unique {cs : List Char} {w w' : Written} (written : WrittenAs everyLevel cs w)
    (written' : WrittenAs everyLevel cs w') : w = w' := by
  obtain ⟨tokens, scanned, writes⟩ := written
  obtain ⟨_, scanned', writes'⟩ := written'
  cases scanned.symm.trans scanned'
  exact expression_unique writes writes'

theorem parse_eq_ok_iff_writtenAs (cs : List Char) (e : Expression) :
    Expression.parse cs = .ok e ↔ ∃ w, WrittenAs everyLevel cs w ∧ w.tree = e := by
  unfold Expression.parse
  constructor
  · intro parsed
    split at parsed
    · cases parsed
    · next tokens scanned =>
      split at parsed
      · cases parsed
      · next whole =>
        cases parsed
        obtain ⟨w, writes, same⟩ := written_of_derives (derives_of_ofTokens whole)
        exact ⟨w, ⟨tokens, scanned, writes⟩, same⟩
  · rintro ⟨w, ⟨tokens, scanned, writes⟩, rfl⟩
    simp only [scanned, writes.derives.ofTokens]

end EntityMapping.Proofs.WrittenForms
