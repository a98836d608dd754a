import EntityMapping.Proofs.NamingRoundTrip
import EntityMapping.Proofs.TemplateScanning
import Mathlib

/-! Values are read back from their texts. What a driver reports as text, with blanks at its ends, converts to the value whose text it
is: truth values, integers, dates and identifiers come back as they were. A timestamp comes back without the fraction of its second,
which its text leaves out. -/

namespace EntityMapping.Proofs.SpelledValues
open Text Decimal Calendar TemplateScanning

/-- A text that neither begins nor ends with a blank, and is not empty. -/
structure Solid (cs : List Char) : Prop where
  nonempty : cs ≠ []
  first : ∀ c ∈ cs.head?, isBlank c = false
  last : ∀ c ∈ cs.getLast?, isBlank c = false

theorem solid_of_all {cs : List Char} (nonempty : cs ≠ []) (solid : ∀ c ∈ cs, isBlank c = false) : Solid cs where
  nonempty := nonempty
  first := fun c first => solid c (List.mem_of_head? first)
  last := fun c last => solid c (List.mem_of_getLast? last)

theorem trimStart_blanks {blanks cs : List Char} (blank : ∀ c ∈ blanks, isBlank c = true)
    (first : ∀ c ∈ cs.head?, isBlank c = false) : trimStart (blanks ++ cs) = cs :=
  congrArg Prod.snd (takeWhile_append blank first)

theorem trimEnd_blanks {blanks cs : List Char} (blank : ∀ c ∈ blanks, isBlank c = true)
    (last : ∀ c ∈ cs.getLast?, isBlank c = false) : trimEnd (cs ++ blanks) = cs := by
  have trimmed : trimStart (blanks.reverse ++ cs.reverse) = cs.reverse :=
    trimStart_blanks (by simpa using blank) (by simpa using last)
  rw [trimEnd, List.reverse_append]
  exact (congrArg List.reverse trimmed).trans cs.reverse_reverse

theorem trimBoth_around {before cs after : List Char} (blankBefore : ∀ c ∈ before, isBlank c = true)
    (blankAfter : ∀ c ∈ after, isBlank c = true) (solid : Solid cs) : trimBoth (before ++ cs ++ after) = cs := by
  obtain ⟨c, rest, shape⟩ := List.exists_cons_of_ne_nil solid.nonempty
  have first : ∀ d ∈ (cs ++ after).head?, isBlank d = false := by
    have first := solid.first
    rw [shape] at first ⊢
    exact first
  rw [trimBoth, List.append_assoc, trimStart_blanks blankBefore first, trimEnd_blanks blankAfter solid.last]

theorem trimBoth_solid {cs : List Char} (solid : Solid cs) : trimBoth cs = cs := by
  simpa using @trimBoth_around [] cs [] (by simp) (by simp) solid

theorem isBlank_digit {c : Char} (digit : c.isDigit) : isBlank c = false := by
  have bounds := isDigit_bounds digit
  exact isBlank_eq_false (by omega) (by omega)

/-- A number with its sign: `-` stands before a negative one. -/
def signed (z : Int) (digits : List Char) : List Char := (if z < 0 then ['-'] else []) ++ digits

theorem readSign_signed (z : Int) {cs : List Char} (digit : ∀ c ∈ cs.head?, c.isDigit) :
    readSign (signed z cs) = (decide (z < 0), cs) := by
  unfold signed
  split
  next negative => simp [readSign, negative]
  next positive =>
    rw [decide_eq_false positive, List.nil_append]
    unfold readSign
    split
    next => cases digit '-' rfl
    next => cases digit '+' rfl
    next => rfl

theorem signed_value (z : Int) : (if decide (z < 0) = true then -(z.natAbs : Int) else z.natAbs) = z := by
  simp only [decide_eq_true_eq]
  split <;> omega

theorem integer_text (z : Int) : (toString z).toList = signed z (Nat.toDigits 10 z.natAbs) := by
  cases z with
  | ofNat n => exact toList_toString n
  | negSucc n =>
    change ("-" ++ toString (n + 1)).toList = _
    rw [String.toList_append, toList_toString, signed, if_pos (Int.negSucc_lt_zero n)]
    rfl

theorem readInt?_text (z : Int) : readInt? (toString z).toList = some z := by
  rw [integer_text, readInt?, readSign_signed z fun c first => isDigit_toDigits c (List.mem_of_head? first)]
  simp only [readNat?_toDigits]
  exact congrArg some (signed_value z)

theorem integer_solid (z : Int) : Solid (toString z).toList := by
  rw [integer_text, signed]
  apply solid_of_all
  · simp [Nat.toDigits_ne_nil]
  · intro c member
    rcases List.mem_append.mp member with sign | digit
    · split at sign
      next => exact List.mem_singleton.mp sign ▸ rfl
      next => cases sign
    · exact isBlank_digit (isDigit_toDigits c digit)

section Padded

variable {width n : Nat}

theorem padded_digit : ∀ c ∈ padded width n, c.isDigit := by
  intro c member
  rcases List.mem_append.mp member with zero | digit
  · exact List.eq_of_mem_replicate zero ▸ rfl
  · exact isDigit_toDigits c digit

theorem padded_first {rest : List Char} : ∀ c ∈ (padded width n ++ rest).head?, c.isDigit := by
  intro c first
  have nonempty : padded width n ≠ [] := by simp [padded, Nat.toDigits_ne_nil]
  rw [List.head?_append_of_ne_nil _ nonempty] at first
  exact padded_digit c (List.mem_of_head? first)

theorem length_padded (positive : 0 < width) (fits : n < 10 ^ width) : (padded width n).length = width := by
  have bound := Nat.toDigits_length 10 n width positive fits
  simp only [padded, List.length_append, List.length_replicate]
  omega

theorem digitsValue_padded : digitsValue (padded width n) = n := by
  have zeros : ∀ k, digitsValue (List.replicate k '0' ++ Nat.toDigits 10 n) = n := by
    intro k
    induction k with
    | zero => exact digitsValue_toDigits n
    | succ k ih => exact ih
  exact zeros _

end Padded

theorem takeNumber?_padded (width n : Nat) (positive : 0 < width) (fits : n < 10 ^ width) (rest : List Char) :
    takeNumber? width (padded width n ++ rest) = some (n, rest) := by
  have length := length_padded positive fits
  have digits : (padded width n).all Char.isDigit := List.all_eq_true.mpr padded_digit
  rw [takeNumber?, List.take_left' length, List.drop_left' length, length, beq_self_eq_true, digits, digitsValue_padded]
  rfl

theorem takeTwo {n : Nat} (fits : n < 100) (rest : List Char) : takeNumber? 2 (padded 2 n ++ rest) = some (n, rest) :=
  takeNumber?_padded 2 n (by decide) fits rest

theorem takeTwo_last {n : Nat} (fits : n < 100) : takeNumber? 2 (padded 2 n) = some (n, []) := by
  simpa using takeTwo fits []

theorem date_text (d : Date) :
    d.text = signed d.year (padded 4 d.year.natAbs ++ '-' :: (padded 2 d.month ++ '-' :: padded 2 d.day)) := by
  simp [Date.text, signed]

theorem date_chars (d : Date) : ∀ c ∈ d.text, c = '-' ∨ c.isDigit := by
  intro c member
  have number : ∀ {width n : Nat}, c ∈ padded width n → c.isDigit := fun inside => padded_digit c inside
  simp only [date_text, signed, List.mem_append, List.mem_cons] at member
  rcases member with sign | year | mark | month | mark | day
  · split at sign
    next => exact .inl (List.mem_singleton.mp sign)
    next => cases sign
  · exact .inr (number year)
  · exact .inl mark
  · exact .inr (number month)
  · exact .inl mark
  · exact .inr (number day)

theorem date_solid (d : Date) : Solid d.text := by
  apply solid_of_all
  · simp [date_text, signed]
  · intro c member
    rcases date_chars d c member with mark | digit
    · exact mark ▸ rfl
    · exact isBlank_digit digit

theorem daysIn_le (year : Int) (month : Nat) : daysIn year month ≤ 31 := by
  unfold daysIn
  split
  · split <;> omega
  · split <;> omega

theorem date_read (d : Date) : Date.read? d.text = some d := by
  have yearBounds := d.year_bounds
  have monthBounds := d.month_bounds
  have dayBounds := d.day_bounds
  have lastDay := daysIn_le d.year d.month
  have year := takeNumber?_padded 4 d.year.natAbs (by decide) (by omega)
  have month : d.month < 100 := by omega
  have day : d.day < 100 := by omega
  have whole : Date.of? d.year d.month d.day = some d := dif_pos ⟨d.year_bounds, d.month_bounds, d.day_bounds⟩
  rw [date_text, Date.read?, readSign_signed d.year padded_first]
  simp only [year, takeTwo month, takeTwo_last day, takeChar?, Option.bind_eq_bind, Option.bind_some, beq_self_eq_true,
    if_true, List.isEmpty_nil, signed_value, whole]

theorem clock_text (t : Time) : t.clock = padded 2 t.hour ++ ':' :: (padded 2 t.minute ++ ':' :: padded 2 t.second) := by
  simp [Time.clock]

/-- The time without the fraction of its second. -/
def wholeSecond (t : Time) : Time :=
  ⟨t.hour, t.minute, t.second, 0, t.hour_lt, t.minute_lt, t.second_lt, Nat.zero_lt_of_lt t.nanosecond_lt⟩

/-- The timestamp without the fraction of its second. -/
def toSecond (t : Timestamp) : Timestamp := ⟨t.date, wholeSecond t.time⟩

theorem clock_read (t : Time) : Time.read? t.clock = some (wholeSecond t) := by
  have hour : t.hour < 100 := Nat.lt_trans t.hour_lt (by decide)
  have minute : t.minute < 100 := Nat.lt_trans t.minute_lt (by decide)
  have second : t.second < 100 := Nat.lt_trans t.second_lt (by decide)
  have whole : Time.of? t.hour t.minute t.second 0 = some (wholeSecond t) :=
    dif_pos ⟨t.hour_lt, t.minute_lt, t.second_lt, Nat.zero_lt_of_lt t.nanosecond_lt⟩
  rw [clock_text, Time.read?]
  simp only [takeTwo hour, takeTwo minute, takeTwo_last second, takeChar?, Option.bind_eq_bind, Option.bind_some,
    beq_self_eq_true, if_true, whole]

theorem clock_solid (t : Time) : Solid t.clock := by
  apply solid_of_all
  · simp [clock_text]
  · intro c member
    have number : ∀ {width n : Nat}, c ∈ padded width n → isBlank c = false := fun inside => isBlank_digit (padded_digit c inside)
    simp only [clock_text, List.mem_append, List.mem_cons] at member
    rcases member with hour | rfl | minute | rfl | second
    · exact number hour
    · rfl
    · exact number minute
    · rfl
    · exact number second

theorem Solid.join {cs ds : List Char} (c : Char) (first : Solid cs) (last : Solid ds) : Solid (cs ++ c :: ds) where
  nonempty := by simp
  first := by
    rw [List.head?_append_of_ne_nil _ first.nonempty]
    exact first.first
  last := by
    rw [List.getLast?_append_of_ne_nil _ (List.cons_ne_nil c ds), List.getLast?_cons_of_ne_nil last.nonempty]
    exact last.last

theorem readDate_text (d : Date) : Scalar.readDate (String.ofList d.text) = .ok d := by
  rw [Scalar.readDate, String.toList_ofList, trimBoth_solid (date_solid d), date_read]

theorem readTimestamp_text (t : Timestamp) : Scalar.readTimestamp (String.ofList t.text) = .ok (toSecond t) := by
  have solid : Solid t.text := (date_solid t.date).join ' ' (clock_solid t.time)
  have cut : cutAt? (fun c => c == ' ' || c == 'T') t.text = some (t.date.text, t.time.clock) := by
    apply NamingRoundTrip.cutAt?_append
    · intro c member
      rcases date_chars t.date c member with rfl | digit
      · rfl
      · rw [Bool.or_eq_false_iff, beq_eq_false_iff_ne, beq_eq_false_iff_ne]
        constructor
        · rintro rfl
          cases digit
        · rintro rfl
          cases digit
    · rfl
  rw [Scalar.readTimestamp, String.toList_ofList, trimBoth_solid solid]
  simp only [cut, clock_read, readDate_text]
  rfl

/-- The hexadecimal digits of a number, `width` of them. -/
def places (width n : Nat) : List Nat := (List.range width).map fun i => n / Nat.pow 16 (width - 1 - i) % 16

theorem places_succ (width n : Nat) : places (width + 1) n = places width (n / 16) ++ [n % 16] := by
  rw [places, List.range_succ, List.map_append]
  congr 1
  · apply List.map_congr_left
    intro i member
    have inside := List.mem_range.mp member
    have exponent : width + 1 - 1 - i = width - 1 - i + 1 := by omega
    rw [exponent, Nat.div_div_eq_div_mul]
    change n / 16 ^ (width - 1 - i + 1) % 16 = n / (16 * 16 ^ (width - 1 - i)) % 16
    rw [Nat.pow_succ']
  · simp

/-- The last digit comes off the end, and the others are those of the sixteenth part. -/
theorem value_places (width n : Nat) : (places width n).foldl (fun m v => 16 * m + v) 0 = n % 16 ^ width := by
  induction width generalizing n with
  | zero => simp [places, Nat.mod_one]
  | succ width ih =>
    rw [places_succ, List.foldl_append, ih, Nat.pow_succ', Nat.mod_mul]
    exact Nat.add_comm _ _

theorem places_lt {width n : Nat} : ∀ v ∈ places width n, v < 16 := by
  intro v member
  obtain ⟨i, _, rfl⟩ := List.mem_map.mp member
  exact Nat.mod_lt _ (by decide)

theorem length_places (width n : Nat) : (places width n).length = width := by simp [places]

theorem hexValue?_digitChar : ∀ v < 16, Uuid.hexValue? (Nat.digitChar v) = some v := by decide

theorem hexValues_digits {vs : List Nat} (small : ∀ v ∈ vs, v < 16) : (vs.map Nat.digitChar).mapM Uuid.hexValue? = some vs := by
  induction vs with
  | nil => rfl
  | cons v vs ih =>
    rw [List.map_cons, List.mapM_cons, hexValue?_digitChar v (small v (.head _)), ih fun w member => small w (.tail _ member)]
    rfl

theorem readDigits?_places (u : Uuid) : Uuid.readDigits? ((places 32 u.bits.toNat).map Nat.digitChar) = some u := by
  have value : (places 32 u.bits.toNat).foldl (fun m v => 16 * m + v) 0 = u.bits.toNat := by
    rw [value_places]
    exact Nat.mod_eq_of_lt u.bits.isLt
  rw [Uuid.readDigits?, List.length_map, length_places, beq_self_eq_true, if_pos rfl, hexValues_digits places_lt, Option.map_some,
    value, BitVec.ofNat_toNat, BitVec.setWidth_eq]

theorem readHyphenated?_groups {a b c d e : List Char} (first : a.length = 8) (second : b.length = 4) (third : c.length = 4)
    (fourth : d.length = 4) :
    Uuid.readHyphenated? (a ++ '-' :: b ++ '-' :: c ++ '-' :: d ++ '-' :: e) = Uuid.readDigits? (a ++ b ++ c ++ d ++ e) := by
  rw [Uuid.readHyphenated?, if_pos]
  · congr 1
    simp [List.drop_append, List.drop_of_length_le, first, second, third, fourth]
  · simp [List.getElem?_append, first, second, third, fourth]

theorem regrouped (ds : List Char) :
    ds.take 8 ++ (ds.drop 8).take 4 ++ (ds.drop 12).take 4 ++ (ds.drop 16).take 4 ++ ds.drop 20 = ds := by
  have group : ∀ n, (ds.drop n).take 4 ++ ds.drop (n + 4) = ds.drop n := by
    intro n
    rw [← List.drop_drop, List.take_append_drop]
  simp only [List.append_assoc]
  rw [group 16, group 12, group 8, List.take_append_drop]

/-- The hexadecimal digits of an identifier. -/
def hexText (u : Uuid) : List Char := (places 32 u.bits.toNat).map Nat.digitChar

theorem length_hexText (u : Uuid) : (hexText u).length = 32 := by rw [hexText, List.length_map, length_places]

theorem uuid_text (u : Uuid) : u.text = (hexText u).take 8 ++ '-' :: ((hexText u).drop 8).take 4 ++
    '-' :: ((hexText u).drop 12).take 4 ++ '-' :: ((hexText u).drop 16).take 4 ++ '-' :: (hexText u).drop 20 := by
  rw [hexText, places, List.map_map]
  rfl

theorem uuid_read (u : Uuid) : Uuid.read? u.text = some u := by
  have digits := length_hexText u
  have length : u.text.length = 36 := by simp [uuid_text, digits]
  have grouped : Uuid.readHyphenated? u.text = Uuid.readDigits? (hexText u) := by
    rw [uuid_text, readHyphenated?_groups, regrouped] <;> simp [digits]
  rw [Uuid.read?, length, grouped]
  exact readDigits?_places u

theorem uuid_chars (u : Uuid) : ∀ c ∈ u.text, c = '-' ∨ c ∈ hexText u := by
  intro c member
  simp only [uuid_text, List.mem_append, List.mem_cons] at member
  grind [List.mem_of_mem_take, List.mem_of_mem_drop]

theorem uuid_solid (u : Uuid) : Solid u.text := by
  apply solid_of_all
  · simp [uuid_text]
  · intro c member
    rcases uuid_chars u c member with rfl | digit
    · rfl
    · obtain ⟨v, inside, rfl⟩ := List.mem_map.mp digit
      have bounds : ∀ v < 16, 33 ≤ (Nat.digitChar v).toNat ∧ (Nat.digitChar v).toNat < 0x80 := by decide
      have bounds := bounds v (places_lt v inside)
      exact isBlank_eq_false bounds.1 bounds.2

/-- The values of a kind whose texts say all about them, but for texts and floats. -/
inductive Native : Scalar → Value → Prop
  | bool (b : Bool) : Native .bool (.boolean (some b))
  | int32 (n : Int32) : Native .int32 (.int32 (some n))
  | int64 (n : Int64) : Native .int64 (.int64 (some n))
  | date (d : Date) : Native .date (.date (some d))
  | uuid (u : Uuid) : Native .uuid (.uuid (some u))

variable {target : Scalar} {v : Value}

theorem Native.solid (native : Native target v) : Solid v.text.toList := by
  cases native with
  | bool b => cases b <;> exact ⟨by simp [Value.text], by simp [Value.text, isBlank], by simp [Value.text, isBlank]⟩
  | int32 n | int64 n => exact integer_solid n.toInt
  | date d =>
    rw [Value.text, String.toList_ofList]
    exact date_solid d
  | uuid u =>
    rw [Value.text, String.toList_ofList]
    exact uuid_solid u

theorem int32?_toInt (n : Int32) : Scalar.int32? n.toInt = some n := by
  have lower := n.minValue_le_toInt
  have upper := n.toInt_le
  rw [Scalar.int32?, if_pos ⟨lower, upper⟩, Int32.ofInt_toInt]

theorem Native.read (native : Native target v) {s : String} (trimmed : trimBoth s.toList = v.text.toList) :
    target.read s = .ok v := by
  cases native with
  | bool b => cases b <;> simp [Scalar.read, trimmed, Value.text, Scalar.readBool?]
  | int32 n =>
    simp only [Scalar.read, trimmed, Value.text, readInt?_text, Option.bind_some, int32?_toInt]
    rfl
  | int64 n =>
    simp only [Scalar.read, trimmed, Value.text, readInt?_text, Option.bind_some, int64?_toInt]
    rfl
  | date d =>
    rw [Value.text, String.toList_ofList] at trimmed
    simp only [Scalar.read, Scalar.readDate, trimmed, date_read]
    rfl
  | uuid u =>
    rw [Value.text, String.toList_ofList] at trimmed
    simp [Scalar.read, trimmed, uuid_read]

/-- A value converts to itself, and so does its text with any blanks at its ends. -/
theorem convert_spelled (native : Native target v) {before after : String} (blankBefore : allBlank before = true)
    (blankAfter : allBlank after = true) :
    target.convert (.varchar (some (before ++ v.text ++ after))) = .ok v ∧ target.convert v = .ok v := by
  have trimmed : trimBoth (before ++ v.text ++ after).toList = v.text.toList := by
    rw [String.toList_append, String.toList_append]
    exact trimBoth_around (List.all_eq_true.mp blankBefore) (List.all_eq_true.mp blankAfter) native.solid
  have read := native.read trimmed
  constructor
  · cases native <;> exact read
  · cases native <;> rfl

/-- The least integer, and a date before the year 0. -/
theorem convert_spelled_edges :
    Scalar.int64.convert (.varchar (some "\t -9223372036854775808\n")) = .ok (.int64 (some .minValue)) ∧
      ∃ d : Date, d.year = -44 ∧ Scalar.date.convert (.varchar (some " -0044-03-15")) = .ok (.date (some d)) := by
  have least := @convert_spelled _ _ (.int64 .minValue) "\t " "\n" (by decide) (by decide)
  have early := @convert_spelled _ _ (.date ⟨-44, 3, 15, by decide, by decide, by decide⟩) " " "" (by decide) (by decide)
  have leastText : "\t " ++ (Value.int64 (some .minValue)).text ++ "\n" = "\t -9223372036854775808\n" := by decide
  have earlyText : " " ++ (Value.date (some ⟨-44, 3, 15, by decide, by decide, by decide⟩)).text ++ "" = " -0044-03-15" := by decide
  exact ⟨leastText ▸ least.1, _, rfl, earlyText ▸ early.1⟩

theorem timestamp_read (t : Timestamp) :
    Scalar.timestamp.read (Value.timestamp (some t)).text = .ok (.timestamp (some (toSecond t))) := by
  rw [Scalar.read, Value.text, readTimestamp_text]
  rfl

theorem toSecond_eq_iff {t : Timestamp} : toSecond t = t ↔ t.time.nanosecond = 0 := by
  obtain ⟨d, time⟩ := t
  cases time
  simp [toSecond, wholeSecond, eq_comm]

theorem text_toSecond (t : Timestamp) : (toSecond t).text = t.text := rfl

/-- A timestamp is read back from its text without the fraction of its second, so it survives exactly if it has none, and two
timestamps have one text exactly if they differ in the fraction alone. -/
theorem timestamp_read_back (t : Timestamp) :
    Scalar.timestamp.read (Value.timestamp (some t)).text = .ok (.timestamp (some (toSecond t))) ∧
      (Scalar.timestamp.read (Value.timestamp (some t)).text = .ok (.timestamp (some t)) ↔ t.time.nanosecond = 0) ∧
      ∀ u, (Value.timestamp (some u)).text = (Value.timestamp (some t)).text ↔ toSecond u = toSecond t := by
  refine ⟨timestamp_read t, ?_, ?_⟩
  · rw [timestamp_read, ← toSecond_eq_iff]
    simp
  · intro u
    constructor
    · intro same
      have read := timestamp_read u
      rw [same, timestamp_read] at read
      simpa using read.symm
    · intro same
      rw [Value.text, Value.text, ← text_toSecond u, same, text_toSecond]

/-- Half a second past a full one. -/
def halfPast : Timestamp :=
  ⟨⟨2024, 5, 1, by decide, by decide, by decide⟩, ⟨7, 5, 3, 500000000, by decide, by decide, by decide, by decide⟩⟩

/-- The half is not in the text: it is read back as the full second, whose text is the same. -/
theorem fraction_lost :
    (Value.timestamp (some halfPast)).text = "2024-05-01 07:05:03" ∧
      (Value.timestamp (some (toSecond halfPast))).text = "2024-05-01 07:05:03" ∧
      Scalar.timestamp.read (Value.timestamp (some halfPast)).text = .ok (.timestamp (some (toSecond halfPast))) ∧
      Scalar.timestamp.read (Value.timestamp (some halfPast)).text ≠ .ok (.timestamp (some halfPast)) := by
  have text : (Value.timestamp (some halfPast)).text = "2024-05-01 07:05:03" := by decide
  refine ⟨text, text, timestamp_read halfPast, ?_⟩
  rw [timestamp_read]
  intro same
  have whole : toSecond halfPast = halfPast := by simpa using same
  exact absurd (toSecond_eq_iff.mp whole) (by decide)

end EntityMapping.Proofs.SpelledValues
