import EntityMapping.Proofs.TemplateScanning
import EntityMapping.Template.Segment
import Mathlib.Data.List.Chain
import Mathlib.Data.List.TakeWhile

/-! Templates taken apart and put together again. The scanner of spans keeps the number of open braces and the quote of an open
string; over a text made of tokens it comes back to where it was, because both scanners see the same strings. -/

namespace EntityMapping.Proofs.TemplateSegments
open Template Segment TemplateScanning
open Token hiding text

/-- The braces open inside the span and the quote of the string that is open. -/
abbrev Nesting := Nat × Option Char

/-- What a character does to the nesting; `none` when it closes the span. -/
def step : Nesting → Char → Option Nesting
  | (depth, some q), c => some (depth, if c == q then none else some q)
  | (depth, none), c =>
    if c == '\'' || c == '"' then some (depth, some c)
    else if c == '{' then some (depth + 1, none)
    else if c == '}' then match depth with
      | 0 => none
      | depth + 1 => some (depth, none)
    else some (depth, none)

def pass (nesting : Nesting) (cs : List Char) : Option Nesting := cs.foldlM step nesting

@[simp] theorem pass_nil (nesting : Nesting) : pass nesting [] = some nesting := rfl

theorem pass_cons (nesting : Nesting) (c : Char) (cs : List Char) :
    pass nesting (c :: cs) = (step nesting c).bind fun next => pass next cs := rfl

theorem pass_append (nesting : Nesting) (cs ds : List Char) :
    pass nesting (cs ++ ds) = (pass nesting cs).bind fun next => pass next ds := List.foldlM_append

private theorem closing?_cons (nesting : Nesting) (c : Char) (cs : List Char) :
    closing? nesting.1 nesting.2 (c :: cs) = match step nesting c with
      | none => some ([], cs)
      | some next => (closing? next.1 next.2 cs).map fun (body, rest) => (c :: body, rest) := by
  obtain ⟨depth, quote⟩ := nesting
  cases quote with
  | some q => simp only [closing?, step]
  | none =>
    conv => lhs; unfold closing?
    unfold step
    dsimp only
    split
    · rfl
    · split
      · rfl
      · split
        · cases depth <;> rfl
        · rfl

private theorem step_eq_none {nesting : Nesting} {c : Char} (closes : step nesting c = none) : nesting = (0, none) ∧ c = '}' := by
  unfold step at closes
  split at closes
  · cases closes
  · split at closes
    · cases closes
    · split at closes
      · cases closes
      · split at closes
        · next brace =>
          split at closes
          · exact ⟨rfl, by simpa using brace⟩
          · cases closes
        · cases closes

theorem closing?_pass {nesting next : Nesting} {cs : List Char} (passes : pass nesting cs = some next) (rest : List Char) :
    closing? nesting.1 nesting.2 (cs ++ rest) = (closing? next.1 next.2 rest).map fun (body, after) => (cs ++ body, after) := by
  induction cs generalizing nesting with
  | nil =>
    cases passes
    simp
  | cons c cs ih =>
    rw [pass_cons] at passes
    obtain ⟨between, stepped, passes⟩ := Option.bind_eq_some_iff.mp passes
    rw [List.cons_append, closing?_cons, stepped]
    simp only [ih passes, Option.map_map]
    rfl

/-- A span ends at the first closing brace that nothing inside it accounts for. -/
theorem closing?_eq_some_iff {nesting : Nesting} {cs body rest : List Char} :
    closing? nesting.1 nesting.2 cs = some (body, rest) ↔ cs = body ++ '}' :: rest ∧ pass nesting body = some (0, none) := by
  induction cs generalizing nesting body with
  | nil => simp [closing?]
  | cons c cs ih =>
    rw [closing?_cons]
    cases next : step nesting c with
    | none =>
      obtain ⟨rfl, rfl⟩ := step_eq_none next
      constructor
      · intro found
        cases found
        exact ⟨rfl, rfl⟩
      · rintro ⟨shape, passes⟩
        cases body with
        | nil => cases shape; rfl
        | cons d body =>
          cases shape
          rw [pass_cons, next] at passes
          cases passes
    | some next' =>
      simp only [Option.map_eq_some_iff, Prod.exists, Prod.mk.injEq]
      constructor
      · rintro ⟨inner, rest', found, rfl, rfl⟩
        obtain ⟨rfl, passes⟩ := ih.mp found
        exact ⟨rfl, by rw [pass_cons, next]; exact passes⟩
      · rintro ⟨shape, passes⟩
        cases body with
        | nil =>
          cases shape
          cases passes
          cases next
        | cons d body =>
          cases shape
          rw [pass_cons, next] at passes
          exact ⟨body, rest, ih.mpr ⟨rfl, passes⟩, rfl, rfl⟩

/-- A span that has just been opened is closed by a brace after a text that opens as much as it closes. -/
theorem closing?_opened_iff {cs body rest : List Char} :
    closing? 0 none cs = some (body, rest) ↔ cs = body ++ '}' :: rest ∧ pass (0, none) body = some (0, none) :=
  @closing?_eq_some_iff (0, none) cs body rest

/-- The text leaves neither a brace nor a string open, and closes none that was open before it. -/
def Balanced (cs : List Char) : Prop := pass (0, none) cs = some (0, none)

theorem Balanced.append {cs ds : List Char} (first : Balanced cs) (second : Balanced ds) : Balanced (cs ++ ds) := by
  rw [Balanced, pass_append, first]
  exact second

theorem balanced_of_unmarked {cs : List Char} (unmarked : ∀ c ∈ cs, c ∉ ['\'', '"', '{', '}']) : Balanced cs := by
  induction cs with
  | nil => rfl
  | cons c cs ih =>
    have here : step (0, none) c = some (0, none) := by
      have plain := unmarked c List.mem_cons_self
      simp only [List.mem_cons, List.not_mem_nil, or_false, not_or] at plain
      simp [step, plain]
    rw [Balanced, pass_cons, here]
    exact ih fun d member => unmarked d (List.mem_cons_of_mem _ member)

/-- Both scanners end a string at the same quote: a quote written twice closes and opens it again. -/
theorem pass_textBody? {quote : Char} (isQuote : quote = '\'' ∨ quote = '"') {cs body after : List Char}
    (found : textBody? quote cs = some (body, after)) :
    ∃ used, cs = used ++ after ∧ ∀ depth, pass (depth, some quote) used = some (depth, none) := by
  have opens : ∀ depth, step (depth, none) quote = some (depth, some quote) := by
    intro depth
    rcases isQuote with rfl | rfl <;> rfl
  have closes : ∀ depth, step (depth, some quote) quote = some (depth, none) := by simp [step]
  fun_induction textBody? quote cs generalizing body with
  | case1 => cases found
  | case2 c cs other ih =>
    simp only [Option.map_eq_some_iff, Prod.exists, Prod.mk.injEq] at found
    obtain ⟨inner, rest, read, -, rfl⟩ := found
    obtain ⟨used, rfl, passes⟩ := ih read
    have stays : ∀ depth, step (depth, some quote) c = some (depth, some quote) := by simpa [step] using other
    refine ⟨c :: used, rfl, fun depth => ?_⟩
    rw [pass_cons, stays]
    exact passes depth
  | case3 c same =>
    cases found
    obtain rfl : c = quote := by simpa using same
    exact ⟨[c], rfl, fun depth => by rw [pass_cons, closes]; rfl⟩
  | case4 c same d cs again ih =>
    simp only [Option.map_eq_some_iff, Prod.exists, Prod.mk.injEq] at found
    obtain ⟨inner, rest, read, -, rfl⟩ := found
    obtain ⟨used, rfl, passes⟩ := ih read
    obtain rfl : c = quote := by simpa using same
    obtain rfl : d = c := by simpa using again
    refine ⟨d :: d :: used, rfl, fun depth => ?_⟩
    rw [pass_cons, closes, Option.bind_some, pass_cons, opens]
    exact passes depth
  | case5 c same d cs =>
    cases found
    obtain rfl : c = quote := by simpa using same
    exact ⟨[c], rfl, fun depth => by rw [pass_cons, closes]; rfl⟩

theorem read?_source {cs after : List Char} {s : Symbol} (found : Symbol.read? cs = some (s, after)) :
    cs = s.text.toList ++ after := by
  unfold Symbol.read? at found
  split at found <;> cases found <;> rfl

/-- Characters of a kind that takes in no quote and no brace. -/
private theorem balanced_of_all {p : Char → Bool} {used : List Char} (all : used.all p)
    (apart : ['\'', '"', '{', '}'].all fun c => !p c) : Balanced used := by
  apply balanced_of_unmarked
  intro c member marked
  have inside := List.all_eq_true.mp all c member
  have outside := List.all_eq_true.mp apart c marked
  rw [inside] at outside
  cases outside

private theorem symbol_unmarked (s : Symbol) : s.text.toList.all fun c => !(['\'', '"', '{', '}'].contains c) := by
  cases s <;> decide

theorem balanced_readOne {c : Char} {cs after : List Char} {t : Token} (found : readOne c cs = .ok (t, after)) :
    ∃ used, c :: cs = used ++ after ∧ Balanced used := by
  unfold readOne at found
  split at found
  · cases found
    exact ⟨_, List.takeWhile_append_dropWhile.symm, balanced_of_all List.all_takeWhile (by decide)⟩
  · split at found
    · obtain ⟨⟨used, shape, parts⟩, -⟩ := readNumber_spec found
      have numeric : used.all fun c => c.isDigit || c == '.' := by simpa using parts
      exact ⟨used, shape, balanced_of_all numeric (by decide)⟩
    · split at found
      · next quote =>
        split at found
        · next body =>
          cases found
          have isQuote : c = '\'' ∨ c = '"' := by simpa using quote
          obtain ⟨used, rfl, passes⟩ := pass_textBody? isQuote body
          refine ⟨c :: used, rfl, ?_⟩
          rw [Balanced, pass_cons, show step (0, none) c = some (0, some c) by simp [step, isQuote]]
          exact passes 0
        · cases found
      · split at found
        · next symbol =>
          cases found
          exact ⟨_, read?_source symbol, balanced_of_all (symbol_unmarked _) (by decide)⟩
        · cases found

theorem balanced_of_scan {cs : List Char} {ts : List Token} (found : scan cs = .ok ts) : Balanced cs := by
  induction length : cs.length using Nat.strongRecOn generalizing cs ts with
  | ind n ih =>
    have blanks : Balanced (cs.takeWhile Text.isBlank) := balanced_of_all List.all_takeWhile (by decide)
    rw [← List.takeWhile_append_dropWhile (p := Text.isBlank) (l := cs)]
    apply blanks.append
    have trimmed := (List.dropWhile_sublist (p := Text.isBlank) (l := cs)).length_le
    rw [scan_step, Text.trimStart] at found
    split at found
    · next start =>
      rw [start]
      rfl
    · next c rest start =>
      rw [start] at trimmed ⊢
      split at found
      · cases found
      · next t after read =>
        cases later : scan after with
        | error e => simp [later, Except.map] at found
        | ok more =>
          obtain ⟨used, shape, balanced⟩ := balanced_readOne read
          have shorter := readOne_length read
          rw [List.length_cons] at trimmed
          rw [shape]
          exact balanced.append (ih after.length (by omega) later rfl)

def isText : Segment → Bool
  | text _ => true
  | expression _ => false

/-- Texts are not empty and hold no opening brace, and none stands next to another. -/
structure Separated (segments : List Segment) : Prop where
  texts : ∀ cs, text cs ∈ segments → cs ≠ [] ∧ '{' ∉ cs
  apart : segments.IsChain fun first second => ¬(isText first ∧ isText second)

/-- The text before an expression is a segment unless it is empty. -/
def lead (cs : List Char) (segments : List Segment) : List Segment := if cs.isEmpty then segments else text cs :: segments

theorem sources_lead (cs : List Char) (segments : List Segment) :
    (lead cs segments).flatMap source = cs ++ segments.flatMap source := by
  cases cs <;> rfl

theorem Separated.tail {segment : Segment} {segments : List Segment} (separated : Separated (segment :: segments)) :
    Separated segments :=
  ⟨fun cs member => separated.texts cs (List.mem_cons_of_mem _ member), separated.apart.tail⟩

theorem Separated.span {cs : List Char} (plain : '{' ∉ cs) (body : List Char) {segments : List Segment}
    (separated : Separated segments) : Separated (lead cs (expression body :: segments)) := by
  have spanned : Separated (expression body :: segments) := by
    constructor
    · intro ds member
      exact separated.texts ds (by simpa using member)
    · exact separated.apart.cons fun next _ both => by cases both.1
  unfold lead
  split
  · exact spanned
  · next nonempty =>
    constructor
    · intro ds member
      rcases List.mem_cons.mp member with same | member
      · cases same
        exact ⟨by simpa using nonempty, plain⟩
      · exact spanned.texts ds member
    · apply spanned.apart.cons
      intro next first both
      cases first
      cases both.2

private theorem braceless {cs : List Char} (plain : '{' ∉ cs) : ∀ c ∈ cs, (c != '{') = true := by
  intro c member
  rw [bne_iff_ne]
  intro same
  exact plain (same ▸ member)

theorem split?_text {cs : List Char} (plain : '{' ∉ cs) : split? cs = some (lead cs []) := by
  have before : cs.takeWhile (· != '{') = cs := List.takeWhile_eq_self_iff.mpr (braceless plain)
  have after : cs.dropWhile (· != '{') = [] := List.dropWhile_eq_nil_iff.mpr (braceless plain)
  rw [split?]
  split
  · rw [before]
    rfl
  · next opened =>
    rw [after] at opened
    cases opened

theorem split?_brace {cs : List Char} (plain : '{' ∉ cs) (rest : List Char) :
    split? (cs ++ '{' :: rest) = (closing? 0 none rest).bind fun (body, after) =>
      (split? after).map fun segments => lead cs (expression body :: segments) := by
  have before : (cs ++ '{' :: rest).takeWhile (· != '{') = cs := by
    rw [List.takeWhile_append_of_pos (braceless plain)]
    simp
  have opens : (cs ++ '{' :: rest).dropWhile (· != '{') = '{' :: rest := by
    rw [List.dropWhile_append_of_pos (braceless plain)]
    simp
  rw [split?]
  split
  · next opened =>
    rw [opens] at opened
    cases opened
  · next opened =>
    rw [opens] at opened
    cases opened
    split
    · next closed =>
      rw [closed]
      rfl
    · next closed =>
      simp only [closed, before]
      rfl

theorem split?_span {cs body : List Char} (plain : '{' ∉ cs) (balanced : Balanced body) (more : List Char) :
    split? (cs ++ ('{' :: body ++ ['}']) ++ more) = (split? more).map fun segments => lead cs (expression body :: segments) := by
  have closed : closing? 0 none (body ++ '}' :: more) = some (body, more) :=
    closing?_opened_iff.mpr ⟨rfl, balanced⟩
  have shape : cs ++ ('{' :: body ++ ['}']) ++ more = cs ++ '{' :: (body ++ '}' :: more) := by simp
  rw [shape, split?_brace plain, closed]
  rfl

/-- A template without braces is a text; any other is cut at its first span. -/
theorem split?_cases {cs : List Char} {segments : List Segment} (found : split? cs = some segments) :
    ('{' ∉ cs ∧ segments = lead cs []) ∨
    ∃ before body after inner, '{' ∉ before ∧ Balanced body ∧ cs = before ++ ('{' :: body ++ ['}']) ++ after ∧
      split? after = some inner ∧ segments = lead before (expression body :: inner) := by
  by_cases brace : '{' ∈ cs
  · right
    obtain ⟨before, rest, rfl, plain⟩ := List.eq_append_cons_of_mem brace
    rw [split?_brace plain] at found
    obtain ⟨⟨body, after⟩, closed, found⟩ := Option.bind_eq_some_iff.mp found
    obtain ⟨inner, split, rfl⟩ := Option.map_eq_some_iff.mp found
    obtain ⟨rfl, balanced⟩ := closing?_opened_iff.mp closed
    exact ⟨before, body, after, inner, plain, balanced, by simp, split, rfl⟩
  · left
    rw [split?_text brace] at found
    cases found
    exact ⟨brace, rfl⟩

theorem split?_of_separated : ∀ {segments : List Segment}, Separated segments →
    (∀ cs, expression cs ∈ segments → Balanced cs) → split? (segments.flatMap source) = some segments
  | [], _, _ => split?_text List.not_mem_nil
  | [text cs], separated, _ => by
    obtain ⟨nonempty, plain⟩ := separated.texts cs (by simp)
    rw [show [text cs].flatMap source = cs by simp [source], split?_text plain]
    simp [lead, nonempty]
  | text cs :: expression body :: segments, separated, balanced => by
    obtain ⟨nonempty, plain⟩ := separated.texts cs (by simp)
    have inner := split?_of_separated separated.tail.tail fun ds member => balanced ds (by simp [member])
    have whole := split?_span plain (balanced body (by simp)) (segments.flatMap source)
    rw [inner] at whole
    rw [List.flatMap_cons, List.flatMap_cons, ← List.append_assoc]
    exact whole.trans (by simp [lead, nonempty])
  | text cs :: text ds :: segments, separated, _ => by
    have apart := (List.isChain_cons_cons.mp separated.apart).1
    exact absurd ⟨rfl, rfl⟩ apart
  | expression body :: segments, separated, balanced => by
    have inner := split?_of_separated separated.tail fun ds member => balanced ds (by simp [member])
    have whole := split?_span List.not_mem_nil (balanced body (by simp)) (segments.flatMap source)
    rw [inner] at whole
    exact whole

theorem separated_of_split? {cs : List Char} {segments : List Segment} (found : split? cs = some segments) :
    segments.flatMap source = cs ∧ Separated segments := by
  induction length : cs.length using Nat.strongRecOn generalizing cs segments with
  | ind n ih =>
    rcases split?_cases found with ⟨plain, rfl⟩ | ⟨before, body, after, inner, plain, -, rfl, split, rfl⟩
    · rw [sources_lead]
      refine ⟨by simp, ?_⟩
      unfold lead
      split
      · exact ⟨by simp, .nil⟩
      · next nonempty => exact ⟨by simpa using ⟨by simpa using nonempty, plain⟩, .singleton _⟩
    · have shorter : after.length < n := by
        simp only [List.length_append, List.length_cons] at length
        omega
      obtain ⟨sources, separated⟩ := ih after.length shorter split rfl
      refine ⟨?_, separated.span plain body⟩
      rw [sources_lead, List.flatMap_cons, sources, List.append_assoc]
      rfl

/-- Segments whose expressions are made of tokens are found again in the template that they make up, and every template is made
up of its segments; the scanner of spans leaves a string where the scanner of tokens leaves it. -/
theorem split?_sources :
    (∀ segments, Separated segments → (∀ cs, expression cs ∈ segments → ∃ ts, Token.scan cs = .ok ts) →
      split? (segments.flatMap source) = some segments) ∧
    (∀ template segments, split? template = some segments → segments.flatMap source = template ∧ Separated segments) ∧
    ∀ quote cs body after, quote = '\'' ∨ quote = '"' → Token.textBody? quote cs = some (body, after) →
      ∃ used, cs = used ++ after ∧ ∀ depth, closing? depth (some quote) cs =
        (closing? depth none after).map fun (inner, rest) => (used ++ inner, rest) := by
  refine ⟨?_, fun template segments => separated_of_split?, ?_⟩
  · intro segments separated scanned
    apply split?_of_separated separated
    intro cs member
    obtain ⟨ts, found⟩ := scanned cs member
    exact balanced_of_scan found
  · intro quote cs body after isQuote found
    obtain ⟨used, rfl, passes⟩ := pass_textBody? isQuote found
    exact ⟨used, rfl, fun depth => @closing?_pass (depth, some quote) _ _ (passes depth) after⟩

/-- The braces and the doubled quote of a string stay inside its expression. -/
theorem split?_sources_string :
    Token.scan "'\x7d''\x7b' + b".toList = .ok [.text "\x7d'\x7b", .symbol .plus, .word "b"] ∧
    split? ([text "a ".toList, expression "'\x7d''\x7b' + b".toList, text "\x7d".toList].flatMap source) =
      some [text "a ".toList, expression "'\x7d''\x7b' + b".toList, text "\x7d".toList] ∧
    split? "x\x7by\x7d".toList = some [text "x".toList, expression "y".toList] ∧
    [text "x".toList, expression "y".toList].flatMap source = "x\x7by\x7d".toList ∧
    Token.textBody? '\'' "it''s' \x7d".toList = some ("it's".toList, " \x7d".toList) ∧
    ∃ used, "it''s' \x7d".toList = used ++ " \x7d".toList := by
  obtain ⟨together, apart, strings⟩ := split?_sources
  have scanned : Token.scan "'\x7d''\x7b' + b".toList = .ok [.text "\x7d'\x7b", .symbol .plus, .word "b"] := by cbv
  have split : split? "x\x7by\x7d".toList = some [text "x".toList, expression "y".toList] := by cbv
  have body : Token.textBody? '\'' "it''s' \x7d".toList = some ("it's".toList, " \x7d".toList) := by cbv
  obtain ⟨used, shape, -⟩ := strings '\'' _ _ _ (.inl rfl) body
  refine ⟨scanned, together _ ⟨?_, ?_⟩ ?_, split, (apart _ _ split).1, body, used, shape⟩
  · intro cs member
    simp only [List.mem_cons, Segment.text.injEq, reduceCtorEq, List.not_mem_nil, false_or, or_false] at member
    rcases member with rfl | rfl <;> decide
  · simp [isText]
  · intro cs member
    simp only [List.mem_cons, expression.injEq, reduceCtorEq, List.not_mem_nil, false_or, or_false] at member
    rw [member]
    exact ⟨_, scanned⟩

end EntityMapping.Proofs.TemplateSegments
