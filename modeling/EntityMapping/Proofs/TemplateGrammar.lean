import EntityMapping.Proofs.OperatorLevels
import Mathlib.Data.Set.Subsingleton

/-! The grammar of template expressions as derivations, and the parser against it: a list of tokens is accepted exactly when
it derives a tree, and it derives at most one. The grammar spells its operators and levels out by itself. -/

namespace EntityMapping.Proofs.TemplateGrammar
open Template OperatorLevels

/-- The symbol of every operator. -/
def symbolOf : BinaryOp → Symbol
  | .logical .or => .either
  | .logical .and => .both
  | .comparison .equal => .equal
  | .comparison .notEqual => .notEqual
  | .comparison .less => .less
  | .comparison .greater => .greater
  | .comparison .lessEqual => .lessEqual
  | .comparison .greaterEqual => .greaterEqual
  | .arithmetic .add => .plus
  | .arithmetic .subtract => .minus
  | .arithmetic .multiply => .star
  | .arithmetic .divide => .slash
  | .arithmetic .remainder => .percent

/-- The keyword of the operators that have one. -/
def keywordOf? : BinaryOp → Option String
  | .logical .or => some "or"
  | .logical .and => some "and"
  | .comparison .equal => some "eq"
  | .comparison .notEqual => some "ne"
  | .comparison .less => some "lt"
  | .comparison .greater => some "gt"
  | .comparison .lessEqual => some "le"
  | .comparison .greaterEqual => some "ge"
  | .arithmetic _ => none

/-- The text of a token that may stand for an operator. -/
def written? : Token → Option String
  | .symbol s => some s.text
  | .word s => some s
  | _ => none

/-- A token spells an operator by its symbol or, in any case, by its keyword. -/
def Spells (t : Token) (op : BinaryOp) : Prop :=
  ∃ s, written? t = some s ∧ (s = (symbolOf op).text ∨ keywordOf? op = some (lowerWord s))

/-- The operators of each level. -/
def operatorsOf : Nat → List BinaryOp
  | 1 => [.logical .or]
  | 2 => [.logical .and]
  | 3 => [.comparison .equal, .comparison .notEqual, .comparison .less, .comparison .greater, .comparison .lessEqual,
      .comparison .greaterEqual]
  | 4 => [.arithmetic .add, .arithmetic .subtract]
  | 5 => [.arithmetic .multiply, .arithmetic .divide, .arithmetic .remainder]
  | _ => []

/-- Where an operand is expected these words, in any case, are no names. -/
def reserved : List String := ["not", "true", "false", "null"]

def pathTokens (first : String) (others : List String) : List Token :=
  .word first :: others.flatMap fun name => [.symbol .point, .word name]

def pathText (first : String) (others : List String) : String :=
  others.foldl (fun path name => path ++ "." ++ name) first

/-- The nonterminals. The operands of the last level, the fifth, are unary. -/
inductive Phrase where
  | expression
  | level (n : Nat)
  | unary
  | primary

inductive Derives : Phrase → List Token → Expression → Prop where
  | plain {ts e} : Derives (.level 1) ts e → Derives .expression ts e
  | conditional {ts us vs c y n} : Derives (.level 1) ts c → Derives .expression us y → Derives .expression vs n →
      Derives .expression (ts ++ .symbol .question :: us ++ .symbol .colon :: vs) (.conditional c y n)
  | operand {ts e} : Derives .unary ts e → Derives (.level 6) ts e
  | tighter {n ts e} : Derives (.level (n + 1)) ts e → Derives (.level n) ts e
  | binary {n ts us t op l r} : Derives (.level n) ts l → Spells t op → op ∈ operatorsOf n →
      Derives (.level (n + 1)) us r → Derives (.level n) (ts ++ t :: us) (.binary op l r)
  | bang {ts e} : Derives .unary ts e → Derives .unary (.symbol .bang :: ts) (.unary .not e)
  | not {s ts e} : lowerWord s = "not" → Derives .unary ts e → Derives .unary (.word s :: ts) (.unary .not e)
  | minus {ts e} : Derives .unary ts e → Derives .unary (.symbol .minus :: ts) (.unary .negative e)
  | primary {ts e} : Derives .primary ts e → Derives .unary ts e
  | binding {first others} : Derives .primary (.symbol .hash :: pathTokens first others) (.binding (pathText first others))
  | property {first others} : lowerWord first ∉ reserved →
      Derives .primary (pathTokens first others) (.property (pathText first others))
  | text {s} : Derives .primary [.text s] (.literal (.varchar (some s)))
  | integer {n} : Derives .primary [.integer n] (.literal (.int64 (some n)))
  | decimal {x} : Derives .primary [.decimal x] (.literal (.float64 (some x)))
  | true {s} : lowerWord s = "true" → Derives .primary [.word s] (.literal (.boolean (some true)))
  | false {s} : lowerWord s = "false" → Derives .primary [.word s] (.literal (.boolean (some false)))
  | null {s} : lowerWord s = "null" → Derives .primary [.word s] (.literal .null)
  | group {ts e} : Derives .expression ts e → Derives .primary (.symbol .openParen :: ts ++ [.symbol .closeParen]) e

theorem level_eq_iff (op : BinaryOp) (n : Nat) : op.level = n ↔ op ∈ operatorsOf n := by
  constructor
  · rintro rfl
    rcases op with op | op | op <;> cases op <;> decide
  · unfold operatorsOf
    split <;> simp only [List.mem_cons, List.not_mem_nil, or_false, false_imp_iff] <;> rintro (rfl | rfl | rfl | rfl | rfl | rfl) <;> rfl

theorem ofText?_eq_some_iff (s : String) (op : BinaryOp) :
    BinaryOp.ofText? s = some op ↔ s = (symbolOf op).text ∨ keywordOf? op = some (lowerWord s) := by
  constructor
  · intro found
    unfold BinaryOp.ofText? at found
    split at found
    case h_14 =>
      right
      split at found
      case h_9 => cases found
      all_goals
        next same =>
          cases found
          exact congrArg some same.symm
    all_goals
      cases found
      exact .inl rfl
  · rintro (rfl | keyword)
    · rcases op with op | op | op <;> cases op <;> rfl
    · generalize lowered : lowerWord s = word at keyword
      unfold BinaryOp.ofText?
      split
      case h_14 =>
        rw [lowerWord] at lowered
        rw [lowered]
        rcases op with op | op | op <;> cases op <;> cases keyword <;> rfl
      all_goals
        subst lowered
        rcases op with op | op | op <;> cases op <;> revert keyword <;> decide

theorem binaryOp?_eq_some_iff (t : Token) (op : BinaryOp) : t.binaryOp? = some op ↔ Spells t op := by
  have spelled : ∀ s, written? t = some s → (t.binaryOp? = some op ↔ Spells t op) := by
    intro s text
    have same : t.binaryOp? = BinaryOp.ofText? s := by
      cases t <;> cases text <;> rfl
    simp only [same, ofText?_eq_some_iff, Spells, text, Option.some.injEq, exists_eq_left']
  cases t with
  | symbol s => exact spelled _ rfl
  | word s => exact spelled _ rfl
  | text s | integer n | decimal x => simp [Token.binaryOp?, Spells, written?]

/-- A reader succeeds with a result and leaves the tokens `rest`. -/
def Gives {α : Type} {p : List Token → Prop} (result : Except GrammarError (α × { rest : List Token // p rest })) (a : α)
    (rest : List Token) : Prop := ∃ h, result = .ok (a, ⟨rest, h⟩)

theorem Gives.unique {α : Type} {p : List Token → Prop} {result : Except GrammarError (α × { rest : List Token // p rest })}
    {a b : α} {rest rest' : List Token} (first : Gives result a rest) (second : Gives result b rest') :
    a = b ∧ rest = rest' := by
  obtain ⟨_, first⟩ := first
  obtain ⟨_, second⟩ := second
  cases first.symm.trans second
  exact ⟨rfl, rfl⟩

theorem gives_expression (tokens : List Token) (e : Expression) (rest : List Token) :
    Gives (Parser.expression tokens) e rest ↔ ∃ c after, Gives (level 1 tokens) c after ∧
      ((e = c ∧ rest = after ∧ after.head? ≠ some (.symbol .question)) ∨
        ∃ more y next n, after = .symbol .question :: more ∧ Gives (Parser.expression more) y (.symbol .colon :: next) ∧
          Gives (Parser.expression next) n rest ∧ e = .conditional c y n) := by
  rw [Parser.expression, binary_start]
  constructor
  · rintro ⟨lt, found⟩
    split at found
    · cases found
    · next c more _ condition =>
      refine ⟨c, _, ⟨_, condition⟩, .inr ?_⟩
      dsimp only at found
      split at found
      · cases found
      · next y next _ yes =>
        split at found
        · cases found
        · next n after _ no =>
          cases found
          exact ⟨more, y, next, n, rfl, ⟨_, yes⟩, ⟨_, no⟩, rfl⟩
      · cases found
    · next result other condition =>
      cases found
      refine ⟨e, rest, ⟨_, condition⟩, .inl ⟨rfl, rfl, ?_⟩⟩
      intro asked
      obtain ⟨more, rfl⟩ := List.head?_eq_some_iff.mp asked
      exact other _ _ _ rfl
  · rintro ⟨c, after, ⟨_, condition⟩, ⟨rfl, rfl, other⟩ | ⟨more, y, next, n, rfl, ⟨_, yes⟩, ⟨_, no⟩, rfl⟩⟩
    · refine ⟨by assumption, ?_⟩
      rw [condition]
      split
      · next same => cases same
      · next same => cases same; exact absurd rfl other
      · next same => cases same; rfl
    · simp only [condition, yes, no]
      exact ⟨_, rfl⟩

theorem gives_level {n : Nat} (operators : n ≤ 5) (tokens : List Token) (e : Expression) (rest : List Token) :
    Gives (level n tokens) e rest ↔
      ∃ l after, Gives (level (n + 1) tokens) l after ∧ Gives (chain n l after) e rest := by
  rw [level, if_neg (by omega)]
  constructor
  · rintro ⟨lt, found⟩
    split at found
    · cases found
    · next l after _ first =>
      split at found
      · cases found
      · next chained =>
        cases found
        exact ⟨l, after, ⟨_, first⟩, ⟨_, chained⟩⟩
  · rintro ⟨l, after, ⟨_, first⟩, ⟨_, chained⟩⟩
    simp only [first, chained]
    exact ⟨_, rfl⟩

theorem gives_operand {n : Nat} (last : 5 < n) (tokens : List Token) (e : Expression) (rest : List Token) :
    Gives (level n tokens) e rest ↔ Gives (Parser.unary tokens) e rest := by
  rw [level, if_pos last]

/-- Whether a chain of level `n` goes on with a token. -/
def Extends (n : Nat) (t : Token) : Prop := ∃ op, t.binaryOp? = some op ∧ op.level = n

theorem gives_chain_end {n : Nat} {tokens : List Token} (ended : ∀ t ∈ tokens.head?, ¬ Extends n t) (l e : Expression)
    (rest : List Token) : Gives (chain n l tokens) e rest ↔ e = l ∧ rest = tokens := by
  have stays : Gives (chain n l tokens) l tokens :=
    ⟨_, chain_ended (fun t first op spelled same => ended t first ⟨op, spelled, same⟩) l⟩
  constructor
  · intro found
    exact found.unique stays
  · rintro ⟨rfl, rfl⟩
    exact stays

theorem gives_chain_next {n : Nat} {t : Token} {op : BinaryOp} (found : t.binaryOp? = some op) (same : op.level = n)
    (more : List Token) (l e : Expression) (rest : List Token) : Gives (chain n l (t :: more)) e rest ↔
      ∃ r after, Gives (level (n + 1) more) r after ∧ Gives (chain n (.binary op l r) after) e rest := by
  rw [chain]
  simp only [found, same, if_true]
  constructor
  · rintro ⟨lt, found⟩
    split at found
    · cases found
    · next r after _ operand =>
      split at found
      · cases found
      · next chained =>
        cases found
        exact ⟨r, after, ⟨_, operand⟩, ⟨_, chained⟩⟩
  · rintro ⟨r, after, ⟨_, operand⟩, ⟨_, chained⟩⟩
    simp only [operand, chained]
    exact ⟨_, rfl⟩

theorem gives_unary (t : Token) (more : List Token) (e : Expression) (rest : List Token) :
    Gives (Parser.unary (t :: more)) e rest ↔
      (∃ op operand, t.unaryOp? = some op ∧ Gives (Parser.unary more) operand rest ∧ e = .unary op operand) ∨
        (t.unaryOp? = none ∧ Gives (Parser.primary t more) e rest) := by
  rw [Parser.unary]
  cases spelled : t.unaryOp? with
  | none => simp
  | some op =>
    simp only [Option.some.injEq, reduceCtorEq, false_and, or_false]
    constructor
    · rintro ⟨lt, found⟩
      split at found
      · cases found
      · next operand _ _ read =>
        cases found
        exact ⟨op, operand, rfl, ⟨_, read⟩, rfl⟩
    · rintro ⟨_, operand, rfl, ⟨_, read⟩, rfl⟩
      simp only [read]
      exact ⟨_, rfl⟩

theorem gives_group (more : List Token) (e : Expression) (rest : List Token) :
    Gives (Parser.primary (.symbol .openParen) more) e rest ↔
      Gives (Parser.expression more) e (.symbol .closeParen :: rest) := by
  rw [Parser.primary]
  constructor
  · rintro ⟨lt, found⟩
    split at found
    · cases found
    · next inner =>
      cases found
      exact ⟨_, inner⟩
    · cases found
  · rintro ⟨_, inner⟩
    simp only [inner]
    exact ⟨_, rfl⟩

theorem gives_path (first : String) (tokens : List Token) (path : String) (rest : List Token) :
    Gives (Parser.pathFrom first tokens) path rest ↔ ∃ others : List String,
      tokens = others.flatMap (fun name => [.symbol .point, .word name]) ++ rest ∧ path = pathText first others ∧
        rest.head? ≠ some (.symbol .point) := by
  constructor
  · fun_induction Parser.pathFrom first tokens with
    | case1 first name more ih =>
      rintro ⟨lt, found⟩
      simp only [Except.map] at found
      split at found
      · cases found
      · next inner =>
        cases found
        obtain ⟨others, shape, text, ended⟩ := ih ⟨_, inner⟩
        exact ⟨name :: others, congrArg (Token.symbol .point :: Token.word name :: ·) shape, text, ended⟩
    | case2 => rintro ⟨lt, found⟩; cases found
    | case3 first tokens _ other =>
      rintro ⟨lt, found⟩
      cases found
      refine ⟨[], rfl, rfl, ?_⟩
      intro asked
      obtain ⟨more, rfl⟩ := List.head?_eq_some_iff.mp asked
      exact other more rfl
  · rintro ⟨others, shape, rfl, ended⟩
    induction others generalizing first tokens with
    | nil =>
      simp only [List.flatMap_nil, List.nil_append] at shape
      subst shape
      refine ⟨Nat.le_refl _, ?_⟩
      unfold Parser.pathFrom
      split
      · simp at ended
      · simp at ended
      · rfl
    | cons name others ih =>
      simp only [List.flatMap_cons, List.cons_append, List.nil_append] at shape
      subst shape
      obtain ⟨le, inner⟩ := ih (first ++ "." ++ name) _ rfl
      simp only [Parser.pathFrom, inner]
      exact ⟨_, rfl⟩

theorem gives_binding (more : List Token) (e : Expression) (rest : List Token) :
    Gives (Parser.primary (.symbol .hash) more) e rest ↔
      ∃ name next path, more = .word name :: next ∧ Gives (Parser.pathFrom name next) path rest ∧ e = .binding path := by
  rw [Parser.primary.eq_def]
  dsimp only
  constructor
  · rintro ⟨lt, found⟩
    split at found
    · next name next =>
      simp only [Except.map] at found
      split at found
      · cases found
      · next inner =>
        cases found
        exact ⟨name, next, _, rfl, ⟨_, inner⟩, rfl⟩
    · cases found
  · rintro ⟨name, next, path, rfl, ⟨_, inner⟩, rfl⟩
    simp only [inner]
    exact ⟨_, rfl⟩

theorem gives_word (name : String) (more : List Token) (e : Expression) (rest : List Token) :
    Gives (Parser.primary (.word name) more) e rest ↔
      (∃ v, literalWord? name = some v ∧ e = .literal v ∧ rest = more) ∨
        (literalWord? name = none ∧ ∃ path, Gives (Parser.pathFrom name more) path rest ∧ e = .property path) := by
  rw [Parser.primary.eq_def]
  dsimp only
  cases found : literalWord? name with
  | some v =>
    simp only [Option.some.injEq, reduceCtorEq, false_and, or_false, exists_eq_left']
    constructor
    · rintro ⟨lt, same⟩
      cases same
      exact ⟨rfl, rfl⟩
    · rintro ⟨rfl, rfl⟩
      exact ⟨_, rfl⟩
  | none =>
    simp only [reduceCtorEq, false_and, exists_false, false_or, true_and]
    constructor
    · rintro ⟨lt, found⟩
      simp only [Except.map] at found
      split at found
      · cases found
      · next inner =>
        cases found
        exact ⟨_, ⟨_, inner⟩, rfl⟩
    · rintro ⟨path, ⟨_, inner⟩, rfl⟩
      simp only [inner]
      exact ⟨_, rfl⟩

theorem Derives.prefixed {t : Token} {op : UnaryOp} (spelled : t.unaryOp? = some op) {ts : List Token} {e : Expression}
    (operand : Derives .unary ts e) : Derives .unary (t :: ts) (.unary op e) := by
  unfold Token.unaryOp? at spelled
  split at spelled
  · cases spelled
    exact .bang operand
  · cases spelled
    exact .minus operand
  · next s =>
    split at spelled
    · next negation =>
      cases spelled
      exact .not (by simpa using negation) operand
    · cases spelled
  · cases spelled

theorem Derives.named {name : String} {v : Value} (found : literalWord? name = some v) :
    Derives .primary [.word name] (.literal v) := by
  unfold literalWord? at found
  split at found
  · next same => cases found; exact .true same
  · next same => cases found; exact .false same
  · next same => cases found; exact .null same
  · cases found

theorem not_reserved_iff (name : String) :
    lowerWord name ∉ reserved ↔ (Token.word name).unaryOp? = none ∧ literalWord? name = none := by
  simp only [Token.unaryOp?, literalWord?, reserved, List.mem_cons, List.not_mem_nil, or_false, not_or]
  split
  · simp_all
  · split <;> simp_all

mutual

theorem expression_sound {tokens rest : List Token} {e : Expression} (given : Gives (Parser.expression tokens) e rest) :
    ∃ ts, tokens = ts ++ rest ∧ Derives .expression ts e := by
  obtain ⟨c, after, condition, ⟨rfl, rfl, -⟩ | ⟨more, y, next, n, rfl, yes, no, rfl⟩⟩ := (gives_expression ..).mp given
  · obtain ⟨ts, shape, derived⟩ := level_sound (Nat.le_refl 1) (by omega) condition
    exact ⟨ts, shape, .plain derived⟩
  · obtain ⟨ts, rfl, first⟩ := level_sound (Nat.le_refl 1) (by omega) condition
    obtain ⟨us, rfl, second⟩ := expression_sound yes
    obtain ⟨vs, rfl, third⟩ := expression_sound no
    exact ⟨_, by simp, .conditional first second third⟩
termination_by (tokens.length, 9)

theorem level_sound {n : Nat} (least : 1 ≤ n) (greatest : n ≤ 6) {tokens rest : List Token} {e : Expression}
    (given : Gives (level n tokens) e rest) : ∃ ts, tokens = ts ++ rest ∧ Derives (.level n) ts e := by
  by_cases operators : n ≤ 5
  · obtain ⟨l, after, first, chained⟩ := (gives_level operators ..).mp given
    have shorter := first.1
    obtain ⟨ts, rfl, left⟩ := level_sound (by omega) (by omega) first
    obtain ⟨us, rfl, derived⟩ := chain_sound operators (.tighter left) chained
    exact ⟨ts ++ us, by simp, derived⟩
  · have last : n = 6 := by omega
    subst last
    obtain ⟨ts, shape, derived⟩ := unary_sound ((gives_operand (by omega) ..).mp given)
    exact ⟨ts, shape, .operand derived⟩
termination_by (tokens.length, 2 + (6 - n))

theorem chain_sound {n : Nat} (operators : n ≤ 5) {ls tokens rest : List Token} {l e : Expression}
    (left : Derives (.level n) ls l) (given : Gives (chain n l tokens) e rest) :
    ∃ ts, tokens = ts ++ rest ∧ Derives (.level n) (ls ++ ts) e := by
  by_cases ended : ∀ t ∈ tokens.head?, ¬ Extends n t
  · obtain ⟨rfl, rfl⟩ := (gives_chain_end ended ..).mp given
    exact ⟨[], rfl, by simpa using left⟩
  · push Not at ended
    obtain ⟨t, first, op, spelled, same⟩ := ended
    obtain ⟨more, rfl⟩ := List.head?_eq_some_iff.mp first
    obtain ⟨r, after, operand, chained⟩ := (gives_chain_next spelled same ..).mp given
    have shorter := operand.1
    obtain ⟨us, shape, right⟩ := level_sound (by omega) (by omega) operand
    have longer := Derives.binary left ((binaryOp?_eq_some_iff t op).mp spelled) ((level_eq_iff op n).mp same) right
    obtain ⟨vs, rfl, derived⟩ := chain_sound operators longer chained
    exact ⟨t :: us ++ vs, by simp [shape], by simpa using derived⟩
termination_by (tokens.length, 0)

theorem unary_sound {tokens rest : List Token} {e : Expression} (given : Gives (Parser.unary tokens) e rest) :
    ∃ ts, tokens = ts ++ rest ∧ Derives .unary ts e := by
  cases tokens with
  | nil =>
    obtain ⟨_, given⟩ := given
    rw [Parser.unary] at given
    cases given
  | cons t more =>
    obtain ⟨op, operand, spelled, inner, rfl⟩ | ⟨plain, inner⟩ := (gives_unary ..).mp given
    · obtain ⟨ts, rfl, derived⟩ := unary_sound inner
      exact ⟨t :: ts, rfl, derived.prefixed spelled⟩
    · obtain ⟨ts, shape, derived⟩ := primary_sound plain inner
      exact ⟨ts, shape, .primary derived⟩
termination_by (tokens.length, 1)

theorem primary_sound {t : Token} (plain : t.unaryOp? = none) {more rest : List Token} {e : Expression}
    (given : Gives (Parser.primary t more) e rest) : ∃ ts, t :: more = ts ++ rest ∧ Derives .primary ts e := by
  cases t with
  | text s => obtain ⟨_, given⟩ := given; rw [Parser.primary] at given; cases given; exact ⟨_, rfl, .text⟩
  | integer n => obtain ⟨_, given⟩ := given; rw [Parser.primary] at given; cases given; exact ⟨_, rfl, .integer⟩
  | decimal x => obtain ⟨_, given⟩ := given; rw [Parser.primary] at given; cases given; exact ⟨_, rfl, .decimal⟩
  | word name =>
    obtain ⟨v, found, rfl, rfl⟩ | ⟨found, path, named, rfl⟩ := (gives_word ..).mp given
    · exact ⟨[.word name], rfl, .named found⟩
    · obtain ⟨others, rfl, rfl, -⟩ := (gives_path ..).mp named
      exact ⟨pathTokens name others, rfl, .property ((not_reserved_iff name).mpr ⟨plain, found⟩)⟩
  | symbol s =>
    cases s
    case hash =>
      obtain ⟨name, next, path, rfl, named, rfl⟩ := (gives_binding ..).mp given
      obtain ⟨others, rfl, rfl, -⟩ := (gives_path ..).mp named
      exact ⟨.symbol .hash :: pathTokens name others, rfl, .binding⟩
    case openParen =>
      obtain ⟨ts, rfl, derived⟩ := expression_sound ((gives_group ..).mp given)
      exact ⟨_, by simp, .group derived⟩
    all_goals
      obtain ⟨_, given⟩ := given
      rw [Parser.primary.eq_def] at given
      cases given
termination_by (more.length, 10)

end

/-- What follows a phrase of level `n` must not be taken for a part of it: no point, and no operator that binds tighter. -/
def Bounded (n : Nat) (rest : List Token) : Prop :=
  ∀ t ∈ rest.head?, t ≠ .symbol .point ∧ ∀ op, t.binaryOp? = some op → op.level ≤ n

theorem Bounded.mono {n m : Nat} {rest : List Token} (bounded : Bounded n rest) (le : n ≤ m) : Bounded m rest :=
  fun t first => ⟨(bounded t first).1, fun op spelled => Nat.le_trans ((bounded t first).2 op spelled) le⟩

theorem Bounded.not_point {n : Nat} {rest : List Token} (bounded : Bounded n rest) : rest.head? ≠ some (.symbol .point) :=
  fun first => (bounded _ first).1 rfl

theorem bounded_operator {t : Token} {op : BinaryOp} (spelled : t.binaryOp? = some op) (rest : List Token) :
    Bounded op.level (t :: rest) := by
  rintro _ ⟨⟩
  refine ⟨?_, fun other again => ?_⟩
  · rintro rfl
    cases spelled
  · cases spelled.symm.trans again
    exact Nat.le_refl _

theorem bounded_separator {t : Token} (other : t ≠ .symbol .point) (plain : t.binaryOp? = none) (rest : List Token) :
    Bounded 0 (t :: rest) := by
  rintro _ ⟨⟩
  exact ⟨other, by simp [plain]⟩

theorem Bounded.chain_end {n m : Nat} {rest : List Token} (bounded : Bounded n rest) (lt : n < m) (e : Expression) :
    Gives (chain m e rest) e rest := by
  refine (gives_chain_end ?_ ..).mpr ⟨rfl, rfl⟩
  rintro t first ⟨op, spelled, same⟩
  have := (bounded t first).2 op spelled
  omega

/-- The reader of a phrase takes all tokens of a derivation and stops before what follows. A level is read by its chain of
operators, so for a level what follows may go on with the chain. -/
def Reads : Phrase → List Token → Expression → Prop
  | .expression, ts, e => ∀ rest, Bounded 0 rest → rest.head? ≠ some (.symbol .question) →
      Gives (Parser.expression (ts ++ rest)) e rest
  | .level n, ts, e => ∀ rest e' rest', Bounded n rest → Gives (chain n e rest) e' rest' →
      Gives (level n (ts ++ rest)) e' rest'
  | .unary, ts, e => ∀ rest, Bounded 5 rest → Gives (Parser.unary (ts ++ rest)) e rest
  | .primary, ts, e => ∃ t more, ts = t :: more ∧ t.unaryOp? = none ∧
      ∀ rest, Bounded 5 rest → Gives (Parser.primary t (more ++ rest)) e rest

private theorem reads_tighter {n : Nat} {ts : List Token} {e : Expression} (inner : Reads (.level (n + 1)) ts e) :
    Reads (.level n) ts e := by
  intro rest e' rest' bounded chained
  have read := inner rest e rest (bounded.mono (Nat.le_succ n)) (bounded.chain_end (Nat.lt_succ_self n) e)
  by_cases operators : n ≤ 5
  · exact (gives_level operators ..).mpr ⟨e, rest, read, chained⟩
  · have ended : ∀ t ∈ rest.head?, ¬ Extends n t := by
      rintro t - ⟨op, -, same⟩
      have := level_bounds op
      omega
    obtain ⟨rfl, rfl⟩ := (gives_chain_end ended ..).mp chained
    exact (gives_operand (by omega) ..).mpr ((gives_operand (by omega) ..).mp read)

private theorem reads_binary {n : Nat} {ts us : List Token} {t : Token} {op : BinaryOp} {l r : Expression}
    (spelled : t.binaryOp? = some op) (same : op.level = n) (left : Reads (.level n) ts l)
    (right : Reads (.level (n + 1)) us r) : Reads (.level n) (ts ++ t :: us) (.binary op l r) := by
  intro rest e' rest' bounded chained
  have operand := right rest r rest (bounded.mono (Nat.le_succ n)) (bounded.chain_end (Nat.lt_succ_self n) r)
  have next := (gives_chain_next spelled same (us ++ rest) l e' rest').mpr ⟨r, rest, operand, chained⟩
  rw [show ts ++ t :: us ++ rest = ts ++ t :: (us ++ rest) by simp]
  exact left (t :: (us ++ rest)) e' rest' (same ▸ bounded_operator spelled _) next

theorem Derives.reads {phrase : Phrase} {ts : List Token} {e : Expression} (derived : Derives phrase ts e) :
    Reads phrase ts e := by
  induction derived with
  | @plain ts e _ ih =>
    intro rest bounded other
    exact (gives_expression ..).mpr
      ⟨e, rest, ih rest e rest (bounded.mono (Nat.zero_le 1)) (bounded.chain_end Nat.one_pos e), .inl ⟨rfl, rfl, other⟩⟩
  | @conditional ts us vs c y n _ _ _ first second third =>
    intro rest bounded other
    have asked : Bounded 0 (.symbol .question :: (us ++ .symbol .colon :: (vs ++ rest))) :=
      bounded_separator (by simp) rfl _
    have condition := first _ c _ (asked.mono (Nat.zero_le 1)) (asked.chain_end Nat.one_pos c)
    have yes := second (.symbol .colon :: (vs ++ rest)) (bounded_separator (by simp) rfl _) (by simp)
    rw [show ts ++ .symbol .question :: us ++ .symbol .colon :: vs ++ rest =
      ts ++ .symbol .question :: (us ++ .symbol .colon :: (vs ++ rest)) by simp]
    exact (gives_expression ..).mpr ⟨c, _, condition, .inr ⟨_, y, _, n, rfl, yes, third rest bounded other, rfl⟩⟩
  | @operand ts e _ ih =>
    intro rest e' rest' bounded chained
    have ended : ∀ t ∈ rest.head?, ¬ Extends 6 t := by
      rintro t - ⟨op, -, same⟩
      have := level_bounds op
      omega
    obtain ⟨rfl, rfl⟩ := (gives_chain_end ended ..).mp chained
    refine (gives_operand (by omega) ..).mpr (ih _ ?_)
    exact fun t first => ⟨(bounded t first).1, fun op _ => (level_bounds op).2⟩
  | tighter _ ih => exact reads_tighter ih
  | binary _ spelled member _ left right =>
    exact reads_binary ((binaryOp?_eq_some_iff ..).mpr spelled) ((level_eq_iff ..).mpr member) left right
  | bang _ ih => exact fun rest bounded => (gives_unary ..).mpr (.inl ⟨.not, _, rfl, ih rest bounded, rfl⟩)
  | not negation _ ih =>
    exact fun rest bounded => (gives_unary ..).mpr (.inl ⟨.not, _, by simp [Token.unaryOp?, negation], ih rest bounded, rfl⟩)
  | minus _ ih => exact fun rest bounded => (gives_unary ..).mpr (.inl ⟨.negative, _, rfl, ih rest bounded, rfl⟩)
  | primary _ ih =>
    obtain ⟨t, more, rfl, plain, reads⟩ := ih
    exact fun rest bounded => (gives_unary ..).mpr (.inr ⟨plain, reads rest bounded⟩)
  | @binding first others =>
    refine ⟨.symbol .hash, pathTokens first others, rfl, rfl, fun rest bounded => ?_⟩
    exact (gives_binding ..).mpr
      ⟨first, _, _, rfl, (gives_path ..).mpr ⟨others, rfl, rfl, bounded.not_point⟩, rfl⟩
  | @property first others free =>
    obtain ⟨plain, name⟩ := (not_reserved_iff first).mp free
    refine ⟨.word first, _, rfl, plain, fun rest bounded => ?_⟩
    exact (gives_word ..).mpr
      (.inr ⟨name, _, (gives_path ..).mpr ⟨others, rfl, rfl, bounded.not_point⟩, rfl⟩)
  | text | integer | decimal =>
    exact ⟨_, [], rfl, rfl, fun rest _ => ⟨_, by rw [Parser.primary]; rfl⟩⟩
  | true same | false same | null same =>
    refine ⟨_, [], rfl, by simp [Token.unaryOp?, same], fun rest _ => ?_⟩
    exact (gives_word ..).mpr (.inl ⟨_, by simp [literalWord?, same], rfl, rfl⟩)
  | @group ts e _ ih =>
    refine ⟨.symbol .openParen, ts ++ [.symbol .closeParen], rfl, rfl, fun rest _ => ?_⟩
    rw [show ts ++ [.symbol .closeParen] ++ rest = ts ++ .symbol .closeParen :: rest by simp]
    exact (gives_group ..).mpr (ih _ (bounded_separator (by simp) rfl _) (by simp))

theorem derives_of_ofTokens {tokens : List Token} {e : Expression} (parsed : Expression.ofTokens tokens = .ok e) :
    Derives .expression tokens e := by
  unfold Expression.ofTokens at parsed
  split at parsed
  · cases parsed
  · split at parsed
    · cases parsed
    · next whole =>
      cases parsed
      obtain ⟨ts, rfl, derived⟩ := expression_sound ⟨_, whole⟩
      simpa using derived
    · cases parsed

theorem Derives.gives {tokens : List Token} {e : Expression} (derived : Derives .expression tokens e) :
    Gives (Parser.expression tokens) e [] := by
  have read := derived.reads [] (by simp [Bounded]) (by simp)
  rwa [List.append_nil] at read

theorem Derives.ofTokens {tokens : List Token} {e : Expression} (derived : Derives .expression tokens e) :
    Expression.ofTokens tokens = .ok e := by
  obtain ⟨shorter, whole⟩ := derived.gives
  have nonempty : tokens ≠ [] := List.ne_nil_of_length_pos (Nat.lt_of_le_of_lt (Nat.zero_le _) shorter)
  simp [Expression.ofTokens, nonempty, whole]

/-- The parser accepts a list of tokens as a tree exactly when the list derives it, and a list derives at most one tree. -/
theorem ofTokens_eq_ok_iff_derives (tokens : List Token) :
    (∀ e, Expression.ofTokens tokens = .ok e ↔ Derives .expression tokens e) ∧
      { e | Derives .expression tokens e }.Subsingleton := by
  refine ⟨fun e => ⟨derives_of_ofTokens, Derives.ofTokens⟩, ?_⟩
  intro e derived e' derived'
  exact (derived.gives.unique derived'.gives).1

end EntityMapping.Proofs.TemplateGrammar
