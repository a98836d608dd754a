import EntityMapping.Template.Token
import Mathlib

/-! Tokens as they are written, and the scanner on such texts: a token is read back whole when what follows does not go on
with it, and blanks leave no trace. -/

namespace EntityMapping.Proofs.TemplateScanning
open Template Token

/-- A name of ASCII letters, digits, underscores and dollar signs that does not start with a digit. -/
structure IsName (s : String) : Prop where
  nonempty : s.toList ≠ []
  starts : ∀ c ∈ s.toList.head?, c.isAlpha ∨ c = '_' ∨ c = '$'
  continues : ∀ c ∈ s.toList, c.isAlphanum ∨ c = '_' ∨ c = '$'

/-- A text between single quotes, the quote itself being doubled. -/
def quoteText (s : List Char) : List Char := '\'' :: s.flatMap (fun c => if c = '\'' then ['\'', '\''] else [c]) ++ ['\'']

/-- The tokens that have a written form here: all but names beyond ASCII, negative integers and decimals. -/
def Plain : Token → Prop
  | .word s => IsName s
  | .integer n => 0 ≤ n.toInt
  | .decimal _ => False
  | _ => True

def write : Token → List Char
  | .word s => s.toList
  | .text s => quoteText s.toList
  | .integer n => Nat.toDigits 10 n.toInt.toNat
  | .decimal _ => []
  | .symbol s => s.text.toList

/-- The symbols that an equals sign makes longer. -/
def extensible : List Symbol := [.less, .greater, .bang]

/-- What follows a token does not go on with it. -/
def Apart : Token → List Char → Prop
  | .word _, rest => ∀ c ∈ rest.head?, continuesWord c = false
  | .text _, rest => rest.head? ≠ some '\''
  | .integer _, rest => ∀ c ∈ rest.head?, c.isDigit = false ∧ c ≠ '.'
  | .decimal _, _ => False
  | .symbol s, rest => s ∈ extensible → rest.head? ≠ some '='

theorem takeWhile_append {p : Char → Bool} {cs rest : List Char} (all : ∀ c ∈ cs, p c)
    (ended : ∀ c ∈ rest.head?, p c = false) : Text.takeWhile p (cs ++ rest) = (cs, rest) := by
  have stops : rest.takeWhile p = [] ∧ rest.dropWhile p = rest := by
    cases rest with
    | nil => exact ⟨rfl, rfl⟩
    | cons c rest => simp [ended c rfl]
  rw [Text.takeWhile, List.takeWhile_append_of_pos all, List.dropWhile_append_of_pos all, stops.1, stops.2, List.append_nil]

private theorem digitsValue_append (ds : List Char) (d : Char) :
    Decimal.digitsValue (ds ++ [d]) = 10 * Decimal.digitsValue ds + Decimal.digitValue d := by
  simp [Decimal.digitsValue]

private theorem digitValue_digitChar : ∀ n < 10, Decimal.digitValue (Nat.digitChar n) = n := by decide

theorem digitsValue_toDigits (n : Nat) : Decimal.digitsValue (Nat.toDigits 10 n) = n := by
  induction n using Nat.strongRecOn with
  | ind n ih =>
    by_cases digit : n < 10
    · rw [Nat.toDigits_of_lt_base digit]
      simpa [Decimal.digitsValue] using digitValue_digitChar n digit
    · rw [Nat.toDigits_of_base_le (by decide) (by omega), digitsValue_append, ih _ (by omega),
        digitValue_digitChar _ (Nat.mod_lt _ (by decide))]
      omega

theorem isDigit_toDigits {n : Nat} : ∀ c ∈ Nat.toDigits 10 n, c.isDigit :=
  fun _ member => Nat.isDigit_of_mem_toDigits (by decide) (by decide) member

theorem toList_toString (n : Nat) : (toString n).toList = Nat.toDigits 10 n := by
  change (Nat.repr n).toList = _
  rw [Nat.repr_eq_ofList_toDigits, String.toList_ofList]

theorem readNat?_toDigits (n : Nat) : Decimal.readNat? (Nat.toDigits 10 n) = some n := by
  have digits : (Nat.toDigits 10 n).all Char.isDigit := List.all_eq_true.mpr isDigit_toDigits
  have nonempty : (Nat.toDigits 10 n).isEmpty = false := by
    simp [Nat.toDigits_ne_nil]
  simp [Decimal.readNat?, digits, nonempty, digitsValue_toDigits]

theorem int64?_toInt (n : Int64) : Scalar.int64? n.toInt = some n := by
  have lower := n.minValue_le_toInt
  have upper := n.toInt_le
  rw [Scalar.int64?, if_pos ⟨lower, upper⟩, Int64.ofInt_toInt]

theorem int64?_toNat {n : Int64} (nonneg : 0 ≤ n.toInt) : Scalar.int64? n.toInt.toNat = some n := by
  rw [Int.toNat_of_nonneg nonneg, int64?_toInt]

theorem readNumber_toDigits {n : Int64} (nonneg : 0 ≤ n.toInt) {rest : List Char}
    (apart : ∀ c ∈ rest.head?, c.isDigit = false ∧ c ≠ '.') :
    readNumber (Nat.toDigits 10 n.toInt.toNat ++ rest) = .ok (.integer n, rest) := by
  have whole := takeWhile_append (isDigit_toDigits (n := n.toInt.toNat)) fun c first => (apart c first).1
  simp only [readNumber, whole, readNat?_toDigits, Option.bind_some, int64?_toNat nonneg]
  split
  · exact absurd rfl (apart '.' rfl).2
  · rfl

theorem textBody?_escaped (quote : Char) (s : List Char) {rest : List Char} (apart : rest.head? ≠ some quote) :
    textBody? quote (s.flatMap (fun c => if c = quote then [quote, quote] else [c]) ++ quote :: rest) = some (s, rest) := by
  induction s with
  | nil =>
    cases rest with
    | nil => simp [textBody?]
    | cons d rest =>
      have other : d ≠ quote := by simpa using apart
      simp [textBody?, other]
  | cons c s ih =>
    simp only [List.flatMap_cons, List.append_assoc]
    split
    · next same => subst same; simp [textBody?, ih]
    · next other =>
      rw [List.singleton_append, textBody?.eq_def]
      simp [other, ih]

theorem read?_text (s : Symbol) {rest : List Char} (apart : s ∈ extensible → rest.head? ≠ some '=') :
    Symbol.read? (s.text.toList ++ rest) = some (s, rest) := by
  cases s
  case less | greater | bang =>
    have apart := apart (by decide)
    simp only [Symbol.text, String.reduceToList, List.cons_append, List.nil_append]
    unfold Symbol.read?
    split <;> simp_all
  all_goals rfl

private theorem isAlpha_bounds {c : Char} (alpha : c.isAlpha) : 65 ≤ c.toNat ∧ c.toNat < 0x80 := by
  simp only [Char.isAlpha, Char.isUpper, Char.isLower, Bool.or_eq_true, Bool.and_eq_true, decide_eq_true_eq,
    UInt32.le_iff_toNat_le, ge_iff_le] at alpha
  have : c.toNat = c.val.toNat := rfl
  have : 'A'.val.toNat = 65 := rfl
  have : 'Z'.val.toNat = 90 := rfl
  have : 'a'.val.toNat = 97 := rfl
  have : 'z'.val.toNat = 122 := rfl
  omega

theorem isDigit_bounds {c : Char} (digit : c.isDigit) : 48 ≤ c.toNat ∧ c.toNat < 58 := by
  simp only [Char.isDigit, Bool.and_eq_true, decide_eq_true_eq, UInt32.le_iff_toNat_le, ge_iff_le] at digit
  have : c.toNat = c.val.toNat := rfl
  have : '0'.val.toNat = 48 := rfl
  have : '9'.val.toNat = 57 := rfl
  omega

theorem startsWord_iff {c : Char} (ascii : c.toNat < 0x80) : startsWord c ↔ c.isAlpha ∨ c = '_' ∨ c = '$' := by
  simp [startsWord, Text.isLetter, ascii, or_assoc]

theorem continuesWord_iff {c : Char} (ascii : c.toNat < 0x80) : continuesWord c ↔ c.isAlphanum ∨ c = '_' ∨ c = '$' := by
  simp [continuesWord, Text.isLetterOrNumber, Text.isLetter, Text.isNumber, Char.isAlphanum, ascii, or_assoc]

theorem isBlank_eq_false {c : Char} (lower : 33 ≤ c.toNat) (upper : c.toNat < 0x80) : Text.isBlank c = false := by
  simp only [Text.isBlank, Bool.or_eq_false_iff, Bool.and_eq_false_iff, beq_eq_false_iff_ne, decide_eq_false_iff_not]
  omega

private theorem IsName.start {s : String} (name : IsName s) : ∀ c ∈ s.toList.head?, startsWord c ∧ Text.isBlank c = false := by
  intro c first
  have starts := name.starts c first
  have bounds : 33 ≤ c.toNat ∧ c.toNat < 0x80 := by
    rcases starts with alpha | rfl | rfl
    · have := isAlpha_bounds alpha
      omega
    · decide
    · decide
  exact ⟨(startsWord_iff bounds.2).mpr starts, isBlank_eq_false bounds.1 bounds.2⟩

private theorem IsName.part {s : String} (name : IsName s) : ∀ c ∈ s.toList, continuesWord c := by
  intro c member
  have continues := name.continues c member
  have ascii : c.toNat < 0x80 := by
    rcases continues with alphanum | rfl | rfl
    · simp only [Char.isAlphanum, Bool.or_eq_true] at alphanum
      rcases alphanum with alpha | digit
      · exact (isAlpha_bounds alpha).2
      · have := isDigit_bounds digit
        omega
    · decide
    · decide
  exact (continuesWord_iff ascii).mpr continues

private theorem digit_start {c : Char} (digit : c.isDigit) : startsWord c = false ∧ Text.isBlank c = false := by
  have bounds := isDigit_bounds digit
  refine ⟨?_, isBlank_eq_false (by omega) (by omega)⟩
  rw [Bool.eq_false_iff]
  intro starts
  rcases (startsWord_iff (by omega)).mp starts with alpha | rfl | rfl
  · have := isAlpha_bounds alpha
    omega
  · cases digit
  · cases digit

private theorem symbol_nonempty (s : Symbol) : s.text.toList ≠ [] := by
  cases s <;> decide

private theorem symbol_start (s : Symbol) : ∀ c ∈ s.text.toList.head?,
    Text.isBlank c = false ∧ startsWord c = false ∧ c.isDigit = false ∧ (c == '\'' || c == '"') = false := by
  intro c first
  cases s <;> (cases first; decide)

/-- A written token is read back, whatever stands apart after it. -/
theorem readOne_write {t : Token} (plain : Plain t) {rest : List Char} (apart : Apart t rest) :
    ∃ c cs, write t ++ rest = c :: cs ∧ Text.isBlank c = false ∧ readOne c cs = .ok (t, rest) := by
  cases t with
  | word s =>
    obtain ⟨c, cs, shape⟩ := List.exists_cons_of_ne_nil plain.nonempty
    obtain ⟨starts, visible⟩ := plain.start c (by simp [shape])
    refine ⟨c, cs ++ rest, by simp [write, shape], visible, ?_⟩
    have whole := takeWhile_append plain.part apart
    rw [shape, List.cons_append] at whole
    simp only [readOne, starts, if_true, whole, ← shape, String.ofList_toList]
  | text s =>
    have body := textBody?_escaped '\'' s.toList apart
    refine ⟨'\'', s.toList.flatMap (fun c => if c = '\'' then ['\'', '\''] else [c]) ++ '\'' :: rest,
      by simp [write, quoteText], rfl, ?_⟩
    rw [readOne, if_neg (by decide), if_neg (by decide), if_pos (by decide), body]
    simp only [String.ofList_toList]
  | integer n =>
    obtain ⟨c, cs, shape⟩ := List.exists_cons_of_ne_nil (@Nat.toDigits_ne_nil n.toInt.toNat 10)
    have digit : c.isDigit := isDigit_toDigits c (shape ▸ List.mem_cons_self)
    obtain ⟨other, visible⟩ := digit_start digit
    have read := readNumber_toDigits plain apart
    refine ⟨c, cs ++ rest, by rw [write, shape, List.cons_append], visible, ?_⟩
    rw [shape, List.cons_append] at read
    simp only [readOne, other, digit, if_true, read, Bool.false_eq_true, if_false]
  | decimal x => exact apart.elim
  | symbol s =>
    obtain ⟨c, cs, shape⟩ := List.exists_cons_of_ne_nil (symbol_nonempty s)
    obtain ⟨visible, word, digit, quote⟩ := symbol_start s c (by simp [shape])
    have read := read?_text s apart
    refine ⟨c, cs ++ rest, by rw [write, shape, List.cons_append], visible, ?_⟩
    rw [shape, List.cons_append] at read
    simp only [readOne, word, digit, quote, read, Bool.false_eq_true, if_false]

/-- The scanner skips blanks and reads one token. -/
theorem scan_step (cs : List Char) : scan cs = match Text.trimStart cs with
    | [] => .ok []
    | c :: rest => match readOne c rest with
      | .error e => .error e
      | .ok (t, after) => (scan after).map (t :: ·) := by
  rw [scan]
  split
  · next start => simp only [start]
  · next start =>
    split
    · next read => simp only [start, read]
    · next read => simp only [start, read]

theorem scan_blank {c : Char} (blank : Text.isBlank c) (rest : List Char) : scan (c :: rest) = scan rest := by
  rw [scan_step (c :: rest), Text.trimStart, List.dropWhile_cons_of_pos blank, ← Text.trimStart, ← scan_step]

/-- The scanner takes a written token and goes on with what follows it. -/
theorem scan_write {t : Token} (plain : Plain t) {rest : List Char} (apart : Apart t rest) :
    scan (write t ++ rest) = (scan rest).map (t :: ·) := by
  obtain ⟨c, cs, shape, visible, read⟩ := readOne_write plain apart
  rw [scan_step, shape, Text.trimStart, List.dropWhile_cons_of_neg (by simp [visible])]
  simp only [read]

theorem toInt_of_int64? {n : Nat} {m : Int64} (found : Scalar.int64? n = some m) : m.toInt = n := by
  unfold Scalar.int64? at found
  split at found
  · next range =>
    cases found
    exact Int64.toInt_ofInt_of_le range.1 (by have := range.2; rw [Int64.toInt_maxValue] at this; omega)
  · cases found

theorem textBody?_suffix {quote : Char} {cs body after : List Char} (found : textBody? quote cs = some (body, after)) :
    after <:+ cs := by
  fun_induction textBody? quote cs generalizing body with
  | case1 => cases found
  | case2 c cs _ ih =>
    simp only [Option.map_eq_some_iff, Prod.exists, Prod.mk.injEq] at found
    obtain ⟨inner, rest, read, -, rfl⟩ := found
    exact (ih read).trans (List.suffix_cons _ _)
  | case3 => cases found; exact List.suffix_cons _ _
  | case4 c _ d cs _ ih =>
    simp only [Option.map_eq_some_iff, Prod.exists, Prod.mk.injEq] at found
    obtain ⟨inner, rest, read, -, rfl⟩ := found
    exact (ih read).trans ((List.suffix_cons _ _).trans (List.suffix_cons _ _))
  | case5 => cases found; exact List.suffix_cons _ _

theorem read?_suffix {cs after : List Char} {s : Symbol} (found : Symbol.read? cs = some (s, after)) : after <:+ cs := by
  unfold Symbol.read? at found
  split at found <;> cases found
  all_goals first
    | exact List.suffix_cons _ _
    | exact (List.suffix_cons _ _).trans (List.suffix_cons _ _)

/-- A number takes digits and points from the front and is an integer that is not negative, or a decimal. -/
theorem readNumber_spec {cs after : List Char} {t : Token} (found : readNumber cs = .ok (t, after)) :
    (∃ used, cs = used ++ after ∧ ∀ c ∈ used, c.isDigit ∨ c = '.') ∧
      ((∃ n, t = .integer n ∧ 0 ≤ n.toInt) ∨ ∃ x, t = .decimal x) := by
  have digits : ∀ ds : List Char, ∀ c ∈ ds.takeWhile Char.isDigit, c.isDigit := fun ds => List.all_eq_true.mp List.all_takeWhile
  have integral : ∀ m, ((Decimal.readNat? (cs.takeWhile Char.isDigit)).bind fun n => Scalar.int64? n) = some m →
      (∃ used, cs = used ++ cs.dropWhile Char.isDigit ∧ ∀ c ∈ used, c.isDigit ∨ c = '.') ∧ 0 ≤ m.toInt := by
    intro m whole
    obtain ⟨n, -, range⟩ := Option.bind_eq_some_iff.mp whole
    refine ⟨⟨_, List.takeWhile_append_dropWhile.symm, fun c member => .inl (digits cs c member)⟩, ?_⟩
    rw [toInt_of_int64? range]
    omega
  simp only [readNumber, Text.takeWhile] at found
  split at found
  · next d later shape =>
    split at found
    · split at found
      · cases found
        refine ⟨⟨cs.takeWhile Char.isDigit ++ '.' :: (d :: later).takeWhile Char.isDigit, ?_, ?_⟩, .inr ⟨_, rfl⟩⟩
        · rw [List.append_assoc, List.cons_append, List.takeWhile_append_dropWhile, ← shape, List.takeWhile_append_dropWhile]
        · intro c member
          rcases List.mem_append.mp member with whole | decimals
          · exact .inl (digits cs c whole)
          · rcases List.mem_cons.mp decimals with rfl | decimals
            · exact .inr rfl
            · exact .inl (digits _ c decimals)
      · cases found
    · split at found
      · next m whole =>
        cases found
        obtain ⟨source, positive⟩ := integral m whole
        exact ⟨source, .inl ⟨m, rfl, positive⟩⟩
      · cases found
  · split at found
    · next m whole =>
      cases found
      obtain ⟨source, positive⟩ := integral m whole
      exact ⟨source, .inl ⟨m, rfl, positive⟩⟩
    · cases found

theorem readOne_suffix {c : Char} {cs after : List Char} {t : Token} (found : readOne c cs = .ok (t, after)) :
    after <:+ c :: cs := by
  unfold readOne at found
  split at found
  · cases found
    exact List.dropWhile_suffix _
  · split at found
    · obtain ⟨⟨used, shape, -⟩, -⟩ := readNumber_spec found
      exact ⟨used, shape.symm⟩
    · split at found
      · split at found
        · next body => cases found; exact (textBody?_suffix body).trans (List.suffix_cons _ _)
        · cases found
      · split at found
        · next symbol => cases found; exact read?_suffix symbol
        · cases found

/-- The tokens of an ASCII text have a written form, the decimals aside. -/
theorem readOne_plain {c : Char} {cs after : List Char} {t : Token} (ascii : ∀ d ∈ c :: cs, d.toNat < 0x80)
    (found : readOne c cs = .ok (t, after)) : Plain t ∨ ∃ x, t = .decimal x := by
  unfold readOne at found
  split at found
  · next starts =>
    cases found
    left
    have continues : continuesWord c := by
      simp only [startsWord, continuesWord, Text.isLetterOrNumber, Bool.or_eq_true] at starts ⊢
      rcases starts with (letter | mark) | mark <;> simp [*]
    have parts : ∀ d ∈ (c :: cs).takeWhile continuesWord, continuesWord d := List.all_eq_true.mp List.all_takeWhile
    constructor
    · simp [continues]
    · have first := (startsWord_iff (ascii c List.mem_cons_self)).mp starts
      simpa [Text.takeWhile, continues] using first
    · intro d member
      rw [String.toList_ofList] at member
      exact (continuesWord_iff (ascii d ((List.takeWhile_sublist _).subset member))).mp (parts d member)
  · split at found
    · obtain ⟨-, ⟨n, rfl, nonneg⟩ | decimal⟩ := readNumber_spec found
      · exact .inl nonneg
      · exact .inr decimal
    · split at found
      · split at found
        · cases found; exact .inl trivial
        · cases found
      · split at found
        · cases found; exact .inl trivial
        · cases found

theorem scan_plain {cs : List Char} {ts : List Token} (ascii : ∀ c ∈ cs, c.toNat < 0x80) (found : scan cs = .ok ts) :
    ∀ t ∈ ts, Plain t ∨ ∃ x, t = .decimal x := by
  induction length : cs.length using Nat.strongRecOn generalizing cs ts with
  | ind n ih =>
    rw [scan_step] at found
    split at found
    · cases found
      simp
    · next c rest start =>
      have trimmed : c :: rest <:+ cs := start ▸ List.dropWhile_suffix _
      have ascii' : ∀ d ∈ c :: rest, d.toNat < 0x80 := fun d member => ascii d (trimmed.subset member)
      split at found
      · cases found
      · next t after read =>
        cases later : scan after with
        | error e => simp [later, Except.map] at found
        | ok more =>
          simp only [later, Except.map, Except.ok.injEq] at found
          subst found
          have suffix := readOne_suffix read
          have shorter := readOne_length read
          have longer := trimmed.length_le
          rw [List.length_cons] at longer
          have rest := ih after.length (by omega) (fun d member => ascii' d (suffix.subset member)) later rfl
          simpa using ⟨readOne_plain ascii' read, rest⟩

end EntityMapping.Proofs.TemplateScanning
