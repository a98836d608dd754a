import EntityMapping.Proofs.TemplateScanning

/-! Tokens end before blanks. Nothing that a reader looks at lies behind the blank after its token, so texts that are joined
with blanks between them have the tokens of the one followed by those of the other, and tokens written with blanks between
them are read back one by one. -/

namespace EntityMapping.Proofs.TokenLocality
open Template Token TemplateScanning

/-- A text that is empty or starts with a blank. -/
def Fenced (rest : List Char) : Prop := ∀ c ∈ rest.head?, Text.isBlank c

/-- A text of blanks that keeps apart what stands on its two sides. -/
structure Gap (w : List Char) : Prop where
  nonempty : w ≠ []
  blank : ∀ c ∈ w, Text.isBlank c

theorem Gap.fenced {w : List Char} (gap : Gap w) (rest : List Char) : Fenced (w ++ rest) := by
  obtain ⟨c, w, rfl⟩ := List.exists_cons_of_ne_nil gap.nonempty
  rintro _ ⟨⟩
  exact gap.blank c List.mem_cons_self

def blankCodes : List Nat :=
  [0x09, 0x0a, 0x0b, 0x0c, 0x0d, 0x20, 0x85, 0xa0, 0x1680, 0x2000, 0x2001, 0x2002, 0x2003, 0x2004, 0x2005, 0x2006, 0x2007, 0x2008,
    0x2009, 0x200a, 0x2028, 0x2029, 0x202f, 0x205f, 0x3000]

theorem mem_blankCodes {c : Char} (blank : Text.isBlank c) : c.toNat ∈ blankCodes := by
  simp only [Text.isBlank, Bool.or_eq_true, Bool.and_eq_true, decide_eq_true_eq, beq_iff_eq] at blank
  simp only [blankCodes, List.mem_cons, List.not_mem_nil, or_false]
  omega

/-- The characters that a reader looks for behind the first character of a token, letters and digits aside. -/
def lookedFor : List Char := ['.', '\'', '"', '=', '&', '|']

private theorem blankCodes_unused : ∀ n ∈ blankCodes,
    continuesWord (Char.ofNat n) = false ∧ (Char.ofNat n).isDigit = false ∧ Char.ofNat n ∉ lookedFor := by
  decide +kernel

theorem blank_unused {c : Char} (blank : Text.isBlank c) :
    continuesWord c = false ∧ c.isDigit = false ∧ c ∉ lookedFor := by
  have unused := blankCodes_unused c.toNat (mem_blankCodes blank)
  rwa [Char.ofNat_toNat] at unused

theorem Fenced.not_word {rest : List Char} (fenced : Fenced rest) : ∀ c ∈ rest.head?, continuesWord c = false :=
  fun c first => (blank_unused (fenced c first)).1

theorem Fenced.not_digit {rest : List Char} (fenced : Fenced rest) : ∀ c ∈ rest.head?, c.isDigit = false :=
  fun c first => (blank_unused (fenced c first)).2.1

theorem Fenced.not_lookedFor {rest : List Char} (fenced : Fenced rest) {c : Char} (looked : c ∈ lookedFor) :
    rest.head? ≠ some c :=
  fun first => (blank_unused (fenced c first)).2.2 looked

theorem takeWhile_fenced {p : Char → Bool} (cs : List Char) {rest : List Char} (ended : ∀ c ∈ rest.head?, p c = false) :
    Text.takeWhile p (cs ++ rest) = (cs.takeWhile p, cs.dropWhile p ++ rest) := by
  have stops : ∀ c ∈ (cs.dropWhile p ++ rest).head?, p c = false := by
    cases left : cs.dropWhile p with
    | nil => exact ended
    | cons d ds =>
      rintro _ ⟨⟩
      have failed := List.head?_dropWhile_not p cs
      simpa [left] using failed
  have split := takeWhile_append (List.all_eq_true.mp (List.all_takeWhile (l := cs))) stops
  rwa [← List.append_assoc, List.takeWhile_append_dropWhile] at split

theorem textBody?_fenced {quote : Char} {cs body after more : List Char} (apart : more.head? ≠ some quote)
    (found : textBody? quote cs = some (body, after)) : textBody? quote (cs ++ more) = some (body, after ++ more) := by
  fun_induction textBody? quote cs generalizing body with
  | case1 => cases found
  | case2 c cs other ih =>
    simp only [Option.map_eq_some_iff, Prod.exists, Prod.mk.injEq] at found
    obtain ⟨inner, rest, read, rfl, rfl⟩ := found
    rw [List.cons_append, textBody?.eq_def]
    simp [other, ih read]
  | case3 c closing =>
    cases found
    cases more with
    | nil => simp [textBody?, closing]
    | cons d more =>
      have other : d ≠ quote := by simpa using apart
      simp [textBody?, closing, other]
  | case4 c closing d cs doubled ih =>
    simp only [Option.map_eq_some_iff, Prod.exists, Prod.mk.injEq] at found
    obtain ⟨inner, rest, read, rfl, rfl⟩ := found
    simp [textBody?, closing, doubled, ih read]
  | case5 c closing d cs single =>
    cases found
    simp [textBody?, closing, single]

/-- A symbol is read where its text stands, unless an equals sign behind it makes it longer. -/
theorem read?_eq_some_iff {cs after : List Char} {s : Symbol} : Symbol.read? cs = some (s, after) ↔
    cs = s.text.toList ++ after ∧ (s ∈ extensible → after.head? ≠ some '=') := by
  constructor
  · intro found
    unfold Symbol.read? at found
    split at found <;> cases found
    all_goals
      refine ⟨rfl, ?_⟩
      intro longer first
      obtain ⟨rest, rfl⟩ := List.head?_eq_some_iff.mp first
      first
        | exact absurd longer (by decide)
        | simp_all
  · rintro ⟨rfl, apart⟩
    exact read?_text s apart

theorem read?_fenced {cs after more : List Char} {s : Symbol} (fenced : Fenced more)
    (found : Symbol.read? cs = some (s, after)) : Symbol.read? (cs ++ more) = some (s, after ++ more) := by
  obtain ⟨rfl, apart⟩ := read?_eq_some_iff.mp found
  refine read?_eq_some_iff.mpr ⟨List.append_assoc .., fun longer => ?_⟩
  cases after with
  | nil => exact fenced.not_lookedFor (by decide)
  | cons c after => exact apart longer

/-- What digits without decimals are read as, with what is left behind them. -/
def readDigits (value : Option Int64) (refused : LexicalError) (rest : List Char) : Except LexicalError (Token × List Char) :=
  match value with
  | some n => .ok (.integer n, rest)
  | none => .error refused

theorem readDigits_append {value : Option Int64} {refused : LexicalError} {rest after : List Char} {t : Token} (more : List Char)
    (found : readDigits value refused rest = .ok (t, after)) : readDigits value refused (rest ++ more) = .ok (t, after ++ more) := by
  cases value <;> cases found
  rfl

theorem readNumber_fenced {cs after more : List Char} {t : Token} (fenced : Fenced more)
    (found : readNumber cs = .ok (t, after)) : readNumber (cs ++ more) = .ok (t, after ++ more) := by
  simp only [readNumber, takeWhile_fenced _ fenced.not_digit]
  simp only [readNumber, Text.takeWhile] at found
  split at found
  · next d later shape =>
    simp only [shape, List.cons_append]
    split at found
    · next digit =>
      rw [if_pos digit, ← List.cons_append, takeWhile_fenced _ fenced.not_digit]
      split at found
      · next read => cases found; simp only [read]
      · cases found
    · next other =>
      rw [if_neg other]
      have read := readDigits_append more found
      rw [shape] at read
      exact read
  · next other =>
    split
    · next d later shape =>
      have visible : d.isDigit = false := by
        cases left : cs.dropWhile Char.isDigit with
        | nil =>
          rw [left, List.nil_append] at shape
          exact absurd (congrArg List.head? shape) (fenced.not_lookedFor (by decide))
        | cons c ds =>
          rw [left] at shape other
          cases ds with
          | nil => cases shape; exact fenced.not_digit d rfl
          | cons e ds => cases shape; exact absurd rfl (other _ _)
      rw [if_neg (by simp [visible])]
      exact readDigits_append more found
    · exact readDigits_append more found

theorem readOne_fenced {c : Char} {cs after more : List Char} {t : Token} (fenced : Fenced more)
    (found : readOne c cs = .ok (t, after)) : readOne c (cs ++ more) = .ok (t, after ++ more) := by
  unfold readOne at found ⊢
  split at found
  · next starts =>
    rw [if_pos starts, ← List.cons_append, takeWhile_fenced _ fenced.not_word]
    cases found
    rfl
  · next starts =>
    rw [if_neg starts]
    split at found
    · next digit => rw [if_pos digit, ← List.cons_append]; exact readNumber_fenced fenced found
    · next digit =>
      rw [if_neg digit]
      split at found
      · next quote =>
        rw [if_pos quote]
        have apart : more.head? ≠ some c := fenced.not_lookedFor (by
          simp only [Bool.or_eq_true, beq_iff_eq] at quote
          rcases quote with rfl | rfl <;> decide)
        split at found
        · next body => cases found; simp only [textBody?_fenced apart body]
        · cases found
      · next quote =>
        rw [if_neg quote]
        split at found
        · next symbol => cases found; rw [← List.cons_append, read?_fenced fenced symbol]
        · cases found

theorem scan_gap {w : List Char} (blank : ∀ c ∈ w, Text.isBlank c) (rest : List Char) : scan (w ++ rest) = scan rest := by
  induction w with
  | nil => rfl
  | cons c w ih =>
    rw [List.cons_append, scan_blank (blank c List.mem_cons_self), ih fun d member => blank d (List.mem_cons_of_mem _ member)]

/-- The scanner goes on behind a blank with what it has found before it. The induction is on the length of the text before it, of
which a token takes at least the first character. -/
theorem scan_fenced {cs more : List Char} {ts : List Token} (fenced : Fenced more) (scanned : scan cs = .ok ts) :
    scan (cs ++ more) = (scan more).map (ts ++ ·) := by
  induction length : cs.length using Nat.strongRecOn generalizing cs ts with
  | ind n ih =>
    cases start : Text.trimStart cs with
    | nil =>
      have blank : ∀ c ∈ cs, Text.isBlank c := List.dropWhile_eq_nil_iff.mp start
      rw [scan_step, start] at scanned
      cases scanned
      rw [scan_gap blank]
      cases scan more <;> rfl
    | cons c rest =>
      have trimmed : Text.trimStart (cs ++ more) = c :: (rest ++ more) := by
        rw [Text.trimStart] at start ⊢
        simp [List.dropWhile_append, start]
      simp only [scan_step cs, start] at scanned
      cases read : readOne c rest with
      | error e => simp only [read] at scanned; cases scanned
      | ok found =>
        obtain ⟨t, after⟩ := found
        simp only [read] at scanned
        cases later : scan after with
        | error e => rw [later] at scanned; cases scanned
        | ok us =>
          rw [later] at scanned
          cases scanned
          have shorter : after.length < n := by
            have := readOne_length read
            have := (List.dropWhile_sublist Text.isBlank (l := cs)).length_le
            rw [← Text.trimStart, start, List.length_cons] at this
            omega
          simp only [scan_step (cs ++ more), trimmed, readOne_fenced fenced read, ih _ shorter later rfl]
          cases scan more <;> rfl

theorem scan_append {first second w : List Char} {ts us : List Token} (scanned : scan first = .ok ts)
    (scanned' : scan second = .ok us) (gap : Gap w) : scan (first ++ w ++ second) = .ok (ts ++ us) := by
  rw [List.append_assoc, scan_fenced (gap.fenced second) scanned, scan_gap gap.blank, scanned']
  rfl

/-- A text between quotes, the quote itself being doubled. -/
def quotedBy (quote : Char) (s : List Char) : List Char :=
  quote :: s.flatMap (fun c => if c = quote then [quote, quote] else [c]) ++ [quote]

/-- The ways to write a token: a text stands between quotes of either kind. -/
def spellings : Token → List (List Char)
  | .text s => [quotedBy '\'' s.toList, quotedBy '"' s.toList]
  | t => [write t]

/-- Tokens written one after another, with blanks between them. -/
inductive Spaced : List Token → List Char → Prop where
  | none : Spaced [] []
  | last {t cs} : cs ∈ spellings t → Spaced [t] cs
  | next {t u ts cs w ds} : cs ∈ spellings t → Gap w → Spaced (u :: ts) ds → Spaced (t :: u :: ts) (cs ++ w ++ ds)

theorem scan_nil : scan [] = .ok [] := by rw [scan_step]; rfl

theorem scan_quotedBy {quote : Char} (kind : quote = '\'' ∨ quote = '"') (s : String) :
    scan (quotedBy quote s.toList) = .ok [.text s] := by
  have apart : ([] : List Char).head? ≠ some quote := by simp
  have body := textBody?_escaped quote s.toList apart
  have start : Text.isBlank quote = false ∧ startsWord quote = false ∧ quote.isDigit = false ∧
      (quote == '\'' || quote == '"') = true := by
    rcases kind with rfl | rfl <;> decide
  rw [scan_step, quotedBy, List.cons_append, Text.trimStart, List.dropWhile_cons_of_neg (by simp [start.1])]
  simp only [readOne, start, body, Bool.false_eq_true, if_false, if_true, String.ofList_toList, scan_nil]
  rfl

theorem scan_spelling {t : Token} (plain : Plain t) {cs : List Char} (spelling : cs ∈ spellings t) : scan cs = .ok [t] := by
  have alone : Apart t [] → scan (write t) = .ok [t] := by
    intro apart
    have read := scan_write plain apart
    rw [List.append_nil, scan_nil] at read
    exact read
  cases t with
  | text s =>
    simp only [spellings, List.mem_cons, List.not_mem_nil, or_false] at spelling
    rcases spelling with rfl | rfl
    · exact scan_quotedBy (.inl rfl) s
    · exact scan_quotedBy (.inr rfl) s
  | decimal x => exact plain.elim
  | word s | integer n | symbol s =>
    rw [List.mem_singleton.mp spelling]
    exact alone (by simp [Apart])

theorem scan_spaced {ts : List Token} {cs : List Char} (spaced : Spaced ts cs) (plain : ∀ t ∈ ts, Plain t) :
    scan cs = .ok ts := by
  induction spaced with
  | none => exact scan_nil
  | last spelling => exact scan_spelling (plain _ List.mem_cons_self) spelling
  | next spelling gap _ ih =>
    have first := scan_spelling (plain _ List.mem_cons_self) spelling
    exact scan_append first (ih fun t member => plain t (List.mem_cons_of_mem _ member)) gap

/-- Texts that are joined with blanks between them scan as they scan alone, so tokens written with blanks between them are
read back: names of ASCII characters, texts in quotes of either kind, integers that are not negative, and symbols. -/
theorem scan_local :
    (∀ first second w ts us, scan first = .ok ts → scan second = .ok us → Gap w →
      scan (first ++ w ++ second) = .ok (ts ++ us)) ∧
    ∀ ts cs, (∀ t ∈ ts, Plain t) → Spaced ts cs → scan cs = .ok ts :=
  ⟨fun _ _ _ _ _ scanned scanned' gap => scan_append scanned scanned' gap, fun _ _ plain spaced => scan_spaced spaced plain⟩

/-- Tokens that would run together, or be cut otherwise, without the blanks: a point before digits, quotes behind a quote, and
an equals sign behind a symbol. -/
theorem scan_local_edges :
    let first := ['a', ' ', '7', '.']
    let second := ['5', ' ', '<']
    let ts : List Token := [.word "a", .integer 7, .symbol .point]
    let us : List Token := [.integer 5, .symbol .less]
    let quoted : List Token := [.text "it's", .text "\"", .symbol .bang, .symbol .equal, .word "$x"]
    let written := "'it''s' \"\"\"\" ! == $x".toList
    scan first = .ok ts ∧ scan second = .ok us ∧ scan (first ++ ['\t', '\u2003'] ++ second) = .ok (ts ++ us) ∧
      (∀ t ∈ quoted, Plain t) ∧ Spaced quoted written ∧ scan written = .ok quoted := by
  intro first second ts us quoted written
  have scanned : scan first = .ok ts := by cbv
  have scanned' : scan second = .ok us := by cbv
  have gap : Gap ['\t', '\u2003'] := ⟨by simp, List.all_eq_true.mp (by decide)⟩
  have blank : Gap [' '] := ⟨by simp, List.all_eq_true.mp (by decide)⟩
  have plain : ∀ t ∈ quoted, Plain t := by
    have name : IsName "$x" := ⟨by decide, by simp, by simp⟩
    simp [quoted, Plain, name]
  have parts : written = quotedBy '\'' "it's".toList ++ [' '] ++ (quotedBy '"' ['"'] ++ [' '] ++
      (['!'] ++ [' '] ++ (['=', '='] ++ [' '] ++ ['$', 'x']))) := by
    decide +kernel
  have spaced : Spaced quoted written := by
    rw [parts]
    refine .next (.head _) blank (.next (.tail _ ?_) blank (.next (.head _) blank (.next (.head _) blank (.last (.head _)))))
    exact .head _
  exact ⟨scanned, scanned', scan_local.1 first second _ ts us scanned scanned' gap, plain, spaced,
    scan_local.2 quoted written plain spaced⟩

end EntityMapping.Proofs.TokenLocality
