import EntityMapping.Source.Reader
import Mathlib.Data.Option.Basic

/-! What readers make of tokens, put together the way the readers are, and how many tokens they leave. -/

namespace EntityMapping.Proofs.SourceReaders
open Source Reader

section
variable {α β σ : Type} {s s' : String} {tokens rest rest' : List Token} {a : α} {b : β} {r : Reader α}

/-- What a reader makes of tokens, with the source that it gives and the tokens that it leaves. -/
def Reads (r : Reader α) (tokens : List Token) (a : α) (source : String) (rest : List Token) : Prop :=
  r tokens = some ⟨a, source, rest⟩

theorem reads_pure (a : α) (tokens : List Token) : Reads (pure a) tokens a "" tokens := rfl

theorem reads_write (s : String) (tokens : List Token) : Reads (write s) tokens () s tokens := rfl

theorem reads_next (look : List Token → α) (tokens : List Token) : Reads (next look) tokens (look tokens) "" tokens := rfl

theorem Reads.bind {f : α → Reader β} (first : Reads r tokens a s rest) (second : Reads (f a) rest b s' rest') :
    Reads (r >>= f) tokens b (s ++ s') rest' :=
  Option.bind_eq_some_iff.mpr ⟨_, first, Option.map_eq_some_iff.mpr ⟨_, second, rfl⟩⟩

theorem Reads.before {f : α → Reader β} (first : Reads r tokens a "" rest) (second : Reads (f a) rest b s rest') :
    Reads (r >>= f) tokens b s rest' := by
  simpa using first.bind second

theorem Reads.after {f : α → Reader β} (first : Reads r tokens a s rest) (second : Reads (f a) rest b "" rest') :
    Reads (r >>= f) tokens b s rest' := by
  simpa using first.bind second

theorem Reads.map (read : Reads r tokens a s rest) (f : α → β) : Reads (do pure (f (← r))) tokens (f a) s rest :=
  read.after (reads_pure (f a) rest)

theorem Reads.captured (read : Reads r tokens a s rest) : Reads (captured r) tokens (a, s) "" rest :=
  Option.map_eq_some_iff.mpr ⟨_, read, rfl⟩

theorem Reads.thenBranch {test : List Token → Bool} {r' : Reader α} (holds : test tokens = true)
    (read : Reads r tokens a s rest) : Reads (do if ← next test then r else r') tokens a s rest := by
  refine Reads.before (reads_next test tokens) ?_
  rwa [holds, if_pos rfl]

theorem Reads.elseBranch {test : List Token → Bool} {r' : Reader α} (fails : test tokens = false)
    (read : Reads r tokens a s rest) : Reads (do if ← next test then r' else r) tokens a s rest := by
  refine Reads.before (reads_next test tokens) ?_
  rwa [fails, if_neg Bool.false_ne_true]

theorem reads_whenAt_false {test : List Token → Bool} (fails : test tokens = false) (r : Reader Unit) :
    Reads (whenAt test r) tokens false "" tokens :=
  Reads.elseBranch fails (reads_pure false tokens)

theorem reads_taking {test : List Token → Bool} {t : Token} (holds : test (t :: rest) = true) :
    Reads (taking test) (t :: rest) t t.source rest :=
  Reads.thenBranch holds rfl

theorem reads_iterate_last {step : σ → Reader (Option σ)} {state : σ} (last : Reads (step state) tokens none s rest) :
    Reads (iterate step state) tokens state s rest := by
  change iterate step state tokens = _
  rw [iterate, show step state tokens = _ from last]

theorem reads_iterate_next {step : σ → Reader (Option σ)} {state state' final : σ}
    (next : Reads (step state) tokens (some state') s rest) (shorter : rest.length < tokens.length)
    (others : Reads (iterate step state') rest final s' rest') : Reads (iterate step state) tokens final (s ++ s') rest' := by
  change iterate step state tokens = _
  rw [iterate, show step state tokens = _ from next]
  simp only [if_pos shorter]
  rw [show iterate step state' rest = _ from others]
  rfl

theorem reads_many_nil {r : Reader (Option α)} (last : Reads r tokens none "" tokens) : Reads (many r) tokens [] "" tokens :=
  reads_iterate_last (last.map _)

theorem reads_many_single {r : Reader (Option α)} (only : Reads r tokens (some a) s rest) (shorter : rest.length < tokens.length)
    (last : Reads r rest none "" rest) : Reads (many r) tokens [a] s rest := by
  have whole : Reads (many r) tokens [a] (s ++ "") rest :=
    reads_iterate_next (only.map (Option.map ([] ++ [·]))) shorter (reads_iterate_last (last.map (Option.map ([a] ++ [·]))))
  rwa [String.append_empty] at whole

theorem reads_parts_single {stop : List Token → Bool} (read : Reads r tokens a s rest) (shorter : rest.length < tokens.length)
    (starts : stop tokens = false) (stops : stop rest = true) : Reads (parts stop r) tokens [⟨a, s, false⟩] "" rest := by
  refine reads_many_single (Reads.elseBranch starts (read.captured.before ?_)) shorter ?_
  · exact Reads.thenBranch stops (reads_pure _ rest)
  · exact Reads.thenBranch stops (reads_pure none rest)

theorem reads_writeParts_single {goesFirst : α → Bool} (behind : goesFirst a = false) (s : String) (tokens : List Token) :
    Reads (writeParts goesFirst [⟨a, s, false⟩]) tokens () s tokens := by
  have written : Reads (writeParts goesFirst [⟨a, s, false⟩]) tokens () _ tokens := reads_write _ tokens
  simpa [behind] using written

/-- A reader that leaves at most as many tokens as it was given. -/
def Narrows (r : Reader α) : Prop := ∀ ⦃tokens a s rest⦄, Reads r tokens a s rest → rest.length ≤ tokens.length

/-- A reader that takes at least one token. -/
def Takes (r : Reader α) : Prop := ∀ ⦃tokens a s rest⦄, Reads r tokens a s rest → rest.length < tokens.length

theorem reads_of_bind {f : α → Reader β} (read : Reads (r >>= f) tokens b s rest) :
    ∃ a first middle second, Reads r tokens a first middle ∧ Reads (f a) middle b second rest := by
  obtain ⟨⟨a, first, middle⟩, taken, read⟩ := Option.bind_eq_some_iff.mp read
  obtain ⟨⟨b, second, rest⟩, more, same⟩ := Option.map_eq_some_iff.mp read
  cases same
  exact ⟨a, first, middle, second, taken, more⟩

theorem narrows_pure (a : α) : Narrows (pure a : Reader α) := by
  rintro tokens _ _ _ ⟨⟩
  exact Nat.le_refl _

theorem narrows_next (look : List Token → α) : Narrows (next look) := by
  rintro tokens _ _ _ ⟨⟩
  exact Nat.le_refl _

theorem Narrows.bind {f : α → Reader β} (first : Narrows r) (second : ∀ a, Narrows (f a)) : Narrows (r >>= f) := by
  intro tokens b s rest read
  obtain ⟨a, _, middle, _, taken, more⟩ := reads_of_bind read
  exact Nat.le_trans (second a more) (first taken)

theorem Takes.bind {f : α → Reader β} (first : Takes r) (second : ∀ a, Narrows (f a)) : Takes (r >>= f) := by
  intro tokens b s rest read
  obtain ⟨a, _, middle, _, taken, more⟩ := reads_of_bind read
  exact Nat.lt_of_le_of_lt (second a more) (first taken)

theorem Narrows.then {f : α → Reader β} (first : Narrows r) (second : ∀ a, Takes (f a)) : Takes (r >>= f) := by
  intro tokens b s rest read
  obtain ⟨a, _, middle, _, taken, more⟩ := reads_of_bind read
  exact Nat.lt_of_lt_of_le (second a more) (first taken)

theorem Takes.narrows (takes : Takes r) : Narrows r := fun _ _ _ _ read => Nat.le_of_lt (takes read)

theorem takes_one : Takes one := by
  intro tokens a s rest read
  cases tokens with
  | nil => cases read
  | cons t rest => cases read; exact Nat.lt_succ_self _

theorem takes_taking (test : List Token → Bool) : Takes (taking test) :=
  (narrows_next test).then fun holds => by
    cases holds with
    | true => exact takes_one
    | false => exact nofun

theorem narrows_symbols (symbol : String) : Narrows (symbols symbol) := by
  intro tokens a s rest read
  unfold Reads symbols at read
  split at read
  · cases read; exact (List.drop_sublist _ _).length_le
  · cases read

theorem narrows_whenAt {r : Reader Unit} (narrows : Narrows r) (test : List Token → Bool) : Narrows (whenAt test r) :=
  (narrows_next test).bind fun holds => by
    cases holds with
    | true => exact narrows.bind fun _ => narrows_pure _
    | false => exact narrows_pure _

theorem narrows_allowSymbols (symbol : String) : Narrows (allowSymbols symbol) := narrows_whenAt (narrows_symbols symbol) _

theorem narrows_iterate {step : σ → Reader (Option σ)} (narrows : ∀ state, Narrows (step state)) (state : σ) :
    Narrows (iterate step state) := by
  intro tokens final s rest read
  unfold Reads at read
  fun_induction iterate step state tokens generalizing s with
  | case1 => cases read
  | case2 state tokens source rest last => cases read; exact narrows _ last
  | case3 state tokens next source middle step shorter ih =>
    obtain ⟨⟨final, more, rest⟩, later, same⟩ := Option.map_eq_some_iff.mp read
    cases same
    exact Nat.le_trans (ih later) (Nat.le_of_lt shorter)
  | case4 state tokens next source rest step _ => cases read; exact narrows _ step

theorem narrows_many {r : Reader (Option α)} (narrows : Narrows r) : Narrows (many r) :=
  narrows_iterate (fun _ => narrows.bind fun _ => narrows_pure _) _

end

end EntityMapping.Proofs.SourceReaders
