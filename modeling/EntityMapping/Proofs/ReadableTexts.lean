import EntityMapping.Proofs.WrittenValues

/-! Hyphens in texts that can be read. No type but text itself reads a text with more than four hyphens: signs and the parts of a
date need three, an identifier has four. -/

namespace EntityMapping.Proofs.ReadableTexts
open Text Decimal Calendar

def hyphens (cs : List Char) : Nat := cs.count '-'

@[simp] theorem hyphens_nil : hyphens [] = 0 := rfl

@[simp] theorem hyphens_append (cs ds : List Char) : hyphens (cs ++ ds) = hyphens cs + hyphens ds := List.count_append ..

theorem hyphens_cons (c : Char) (cs : List Char) : hyphens (c :: cs) = hyphens cs + if c == '-' then 1 else 0 := List.count_cons ..

theorem hyphens_cons_le (c : Char) (cs : List Char) : hyphens (c :: cs) ≤ hyphens cs + 1 := by
  rw [hyphens_cons]
  split <;> omega

theorem hyphens_eq_zero {p : Char → Bool} (other : p '-' = false) {cs : List Char} (all : cs.all p) : hyphens cs = 0 := by
  rw [hyphens, List.count_eq_zero]
  intro member
  have holds := List.all_eq_true.mp all '-' member
  rw [other] at holds
  cases holds

theorem hyphens_dropWhile {p : Char → Bool} (other : p '-' = false) (cs : List Char) : hyphens (cs.dropWhile p) = hyphens cs := by
  have lead : hyphens (cs.takeWhile p) = 0 := hyphens_eq_zero other List.all_takeWhile
  have parts := congrArg hyphens (List.takeWhile_append_dropWhile (p := p) (l := cs))
  rw [hyphens_append] at parts
  omega

theorem hyphens_reverse (cs : List Char) : hyphens cs.reverse = hyphens cs := List.count_reverse ..

theorem hyphens_trimBoth (cs : List Char) : hyphens (trimBoth cs) = hyphens cs := by
  have other : isBlank '-' = false := by decide
  rw [trimBoth, trimEnd, trimStart, hyphens_reverse, hyphens_dropWhile other, hyphens_reverse, hyphens_dropWhile other]

theorem hyphens_cut {isCut : Char → Bool} {cs head rest : List Char} (cut : cutAt? isCut cs = some (head, rest)) :
    hyphens cs ≤ hyphens head + 1 + hyphens rest := by
  induction cs generalizing head with
  | nil => cases cut
  | cons c cs ih =>
    rw [cutAt?] at cut
    split at cut
    · cases cut
      have first := hyphens_cons_le c rest
      rw [hyphens_nil]
      omega
    · obtain ⟨⟨head', rest'⟩, inside, same⟩ := Option.map_eq_some_iff.mp cut
      cases same
      have below := ih inside
      rw [hyphens_cons, hyphens_cons]
      omega

theorem hyphens_digits {cs : List Char} (digits : cs.all Char.isDigit) : hyphens cs = 0 := hyphens_eq_zero (by decide) digits

theorem hyphens_readSign (cs : List Char) : hyphens cs ≤ hyphens (readSign cs).2 + 1 := by
  unfold readSign
  split
  · exact hyphens_cons_le ..
  · exact hyphens_cons_le ..
  · exact Nat.le_succ _

theorem hyphens_readNat? {cs : List Char} {n : Nat} (read : readNat? cs = some n) : hyphens cs = 0 := by
  unfold readNat? at read
  split at read
  · cases read
  · next digits => exact hyphens_digits (by simp_all)

theorem hyphens_readInt? {cs : List Char} {n : Int} (read : readInt? cs = some n) : hyphens cs ≤ 1 := by
  have sign := hyphens_readSign cs
  rw [readInt?] at read
  cases digits : readNat? (readSign cs).2 with
  | none => simp [digits] at read
  | some k =>
    rw [hyphens_readNat? digits] at sign
    exact sign

theorem hyphens_takeWhile (cs : List Char) : hyphens (takeWhile Char.isDigit cs).2 = hyphens cs :=
  hyphens_dropWhile (by decide) cs

/-- After the digits of a number there may be an exponent, which may have a sign. -/
theorem hyphens_exponent {α : Type} {plain written : α} {scaled : Int → α} {rest : List Char}
    (read : (match rest with
      | [] => some plain
      | c :: rest => if c == 'e' || c == 'E' then (readInt? rest).map scaled else none) = some written) : hyphens rest ≤ 1 := by
  split at read
  · exact Nat.zero_le _
  · next c rest =>
    split at read
    · next letter =>
      obtain ⟨e, digits, _⟩ := Option.map_eq_some_iff.mp read
      have other : (c == '-') = false := by
        rw [beq_eq_false_iff_ne]
        rintro rfl
        exact absurd letter (by decide)
      rw [hyphens_cons, other]
      exact hyphens_readInt? digits
    · cases read

theorem hyphens_readWritten? {cs : List Char} {w : Written} (read : readWritten? cs = some w) : hyphens cs ≤ 1 := by
  rw [← hyphens_takeWhile cs]
  unfold readWritten? at read
  dsimp only at read
  split at read
  · next after point =>
    rw [point, hyphens_cons, ← hyphens_takeWhile after]
    split at read
    · cases read
    · exact hyphens_exponent read
  · split at read
    · cases read
    · exact hyphens_exponent read

theorem not_hyphen_of_lower {cs : List Char} {name : String} (named : cs.map Char.toLower = name.toList)
    (plain : '-' ∉ name.toList) : hyphens cs = 0 := by
  rw [hyphens, List.count_eq_zero]
  intro member
  rw [← named] at plain
  exact plain (List.mem_map.mpr ⟨'-', member, by decide⟩)

theorem hyphens_number {f : Format} {cs : List Char} {n : Number} (read : f.read? cs = some n) : hyphens cs ≤ 2 := by
  have sign := hyphens_readSign cs
  have rest : hyphens (readSign cs).2 ≤ 1 := by
    unfold Format.read? at read
    dsimp only at read
    split at read
    · next name => rw [not_hyphen_of_lower (beq_iff_eq.mp name) (by decide)]; exact Nat.zero_le _
    · split at read
      · next name =>
        rcases Bool.or_eq_true_iff.mp name with name | name
        · rw [not_hyphen_of_lower (beq_iff_eq.mp name) (by decide)]; exact Nat.zero_le _
        · rw [not_hyphen_of_lower (beq_iff_eq.mp name) (by decide)]; exact Nat.zero_le _
      · obtain ⟨w, written, _⟩ := Option.map_eq_some_iff.mp read
        exact hyphens_readWritten? written
  omega

theorem hyphens_takeNumber? {width n : Nat} {cs rest : List Char} (read : takeNumber? width cs = some (n, rest)) :
    hyphens cs = hyphens rest := by
  unfold takeNumber? at read
  dsimp only at read
  split at read
  · next digits =>
    cases read
    have parts := congrArg hyphens (List.take_append_drop width cs)
    rw [hyphens_append, hyphens_digits (Bool.and_eq_true_iff.mp digits).2] at parts
    omega
  · cases read

theorem hyphens_takeChar? {c : Char} {cs rest : List Char} (read : takeChar? c cs = some rest) :
    hyphens cs = hyphens rest + if c == '-' then 1 else 0 := by
  unfold takeChar? at read
  split at read
  · next d cs =>
    split at read
    · next same =>
      cases read
      rw [hyphens_cons, beq_iff_eq.mp same]
    · cases read
  · cases read

theorem hyphens_date {cs : List Char} {d : Date} (read : Date.read? cs = some d) : hyphens cs ≤ 3 := by
  have sign := hyphens_readSign cs
  simp only [Date.read?, bind, Option.bind_eq_some_iff] at read
  obtain ⟨⟨year, afterYear⟩, years, beforeMonth, mark, ⟨month, afterMonth⟩, months, beforeDay, mark', ⟨day, rest⟩, days, read⟩ := read
  have ends : rest = [] := by
    split at read
    · next nothing => exact List.isEmpty_iff.mp nothing
    · cases read
  have first := hyphens_takeNumber? years
  have second := hyphens_takeChar? mark
  have third := hyphens_takeNumber? months
  have fourth := hyphens_takeChar? mark'
  have last := hyphens_takeNumber? days
  rw [ends, hyphens_nil] at last
  rw [if_pos (beq_self_eq_true '-')] at second fourth
  dsimp only at second fourth
  omega

theorem hyphens_readFraction? {cs : List Char} {n : Nat} (read : Time.readFraction? cs = some n) : hyphens cs = 0 := by
  unfold Time.readFraction? at read
  split at read
  · cases read
  · next digits => exact hyphens_digits (by simp_all)

theorem hyphens_time {cs : List Char} {t : Time} (read : Time.read? cs = some t) : hyphens cs = 0 := by
  simp only [Time.read?, bind, Option.bind_eq_some_iff] at read
  obtain ⟨⟨hour, afterHour⟩, hours, beforeMinute, mark, ⟨minute, afterMinute⟩, minutes, beforeSecond, mark', ⟨second, rest⟩, seconds, read⟩ := read
  have ends : hyphens rest = 0 := by
    split at read
    · next nothing =>
      rw [show rest = [] from nothing]
      rfl
    · simp only [Option.bind_eq_some_iff] at read
      obtain ⟨after, point, nanos, digits, _⟩ := read
      rw [hyphens_takeChar? point, hyphens_readFraction? digits]
      rfl
  have first := hyphens_takeNumber? hours
  have second := hyphens_takeChar? mark
  have third := hyphens_takeNumber? minutes
  have fourth := hyphens_takeChar? mark'
  have last := hyphens_takeNumber? seconds
  rw [if_neg (by decide)] at second fourth
  dsimp only at second fourth
  omega

theorem hyphens_readDate {s : String} {d : Date} (read : Scalar.readDate s = .ok d) : hyphens s.toList ≤ 3 := by
  unfold Scalar.readDate at read
  split at read
  · next found =>
    rw [← hyphens_trimBoth]
    exact hyphens_date found
  · cases read

theorem hyphens_readTimestamp {s : String} {t : Timestamp} (read : Scalar.readTimestamp s = .ok t) : hyphens s.toList ≤ 4 := by
  rw [← hyphens_trimBoth]
  unfold Scalar.readTimestamp at read
  dsimp only at read
  split at read
  · next whole =>
    cases day : Scalar.readDate (String.ofList (trimBoth s.toList)) with
    | error e => rw [day] at read; cases read
    | ok d =>
      have bound := hyphens_readDate day
      rw [String.toList_ofList] at bound
      omega
  · next day clock cut =>
    have parts := hyphens_cut cut
    split at read
    · cases read
    · next time found =>
      cases date : Scalar.readDate (String.ofList day) with
      | error e => rw [date] at read; cases read
      | ok d =>
        have bound := hyphens_readDate date
        rw [String.toList_ofList] at bound
        have none := hyphens_time found
        omega

theorem isSome_of_mapM {α β : Type} {f : α → Option β} {as : List α} {bs : List β} (mapped : as.mapM f = some bs) :
    ∀ a ∈ as, (f a).isSome := by
  induction as generalizing bs with
  | nil => exact nofun
  | cons a as ih =>
    rw [List.mapM_cons] at mapped
    obtain ⟨b, first, mapped⟩ := Option.bind_eq_some_iff.mp mapped
    obtain ⟨bs, rest, _⟩ := Option.bind_eq_some_iff.mp mapped
    exact List.forall_mem_cons.mpr ⟨by rw [first]; rfl, ih rest⟩

theorem hyphens_readDigits? {ds : List Char} {u : Uuid} (read : Uuid.readDigits? ds = some u) : hyphens ds = 0 := by
  unfold Uuid.readDigits? at read
  split at read
  · obtain ⟨vs, values, _⟩ := Option.map_eq_some_iff.mp read
    exact hyphens_eq_zero (p := fun c => (Uuid.hexValue? c).isSome) (by decide) (List.all_eq_true.mpr (isSome_of_mapM values))
  · cases read

/-- A group and the character after it, which may be a hyphen. -/
theorem hyphens_group (cs : List Char) {i n next : Nat} (after : i + n + 1 = next) :
    hyphens (cs.drop i) ≤ hyphens ((cs.drop i).take n) + 1 + hyphens (cs.drop next) := by
  have parts := congrArg hyphens (List.take_append_drop n (cs.drop i))
  rw [hyphens_append, List.drop_drop] at parts
  have mark : hyphens (cs.drop (i + n)) ≤ hyphens (cs.drop next) + 1 := by
    rw [← after, ← List.tail_drop]
    cases cs.drop (i + n) with
    | nil => exact Nat.zero_le _
    | cons c rest => exact hyphens_cons_le c rest
  omega

theorem hyphens_readHyphenated? {cs : List Char} {u : Uuid} (read : Uuid.readHyphenated? cs = some u) : hyphens cs ≤ 4 := by
  unfold Uuid.readHyphenated? at read
  split at read
  · have digits := hyphens_readDigits? read
    simp only [hyphens_append] at digits
    have first : hyphens cs ≤ hyphens (cs.take 8) + 1 + hyphens (cs.drop 9) := hyphens_group cs (i := 0) rfl
    have second := hyphens_group cs (show 9 + 4 + 1 = 14 from rfl)
    have third := hyphens_group cs (show 14 + 4 + 1 = 19 from rfl)
    have fourth := hyphens_group cs (show 19 + 4 + 1 = 24 from rfl)
    omega
  · cases read

theorem hyphens_uuid {cs : List Char} {u : Uuid} (read : Uuid.read? cs = some u) : hyphens cs ≤ 4 := by
  unfold Uuid.read? at read
  split at read
  · rw [hyphens_readDigits? read]
    exact Nat.zero_le _
  · exact hyphens_readHyphenated? read
  · next length =>
    split at read
    · next braces =>
      obtain ⟨opens, closes⟩ := Bool.and_eq_true_iff.mp braces
      have inside := hyphens_readHyphenated? read
      obtain ⟨start, rfl⟩ := List.getLast?_eq_some_iff.mp (beq_iff_eq.mp closes)
      cases start with
      | nil => cases length
      | cons c digits =>
        have brace : some c = some '\x7b' := beq_iff_eq.mp opens
        cases brace
        have size : digits.length = 36 := by simpa using length
        rw [List.cons_append, List.drop_one, List.tail_cons, ← size, List.take_left] at inside
        rw [List.cons_append, hyphens_cons, hyphens_append]
        exact inside
    · cases read
  · split at read
    · next lead =>
      have lead := not_hyphen_of_lower (beq_iff_eq.mp lead) (by decide)
      have rest := hyphens_readHyphenated? read
      have parts := congrArg hyphens (List.take_append_drop 9 cs)
      rw [hyphens_append] at parts
      omega
    · cases read
  · cases read

theorem hyphens_readBool? {cs : List Char} {b : Bool} (read : Scalar.readBool? cs = some b) : hyphens cs = 0 := by
  unfold Scalar.readBool? at read
  split at read
  · next name => rw [beq_iff_eq.mp name]; rfl
  · split at read
    · next name => rw [beq_iff_eq.mp name]; rfl
    · cases read

theorem few_hyphens {target : Scalar} (other : target ≠ .text) {s : String} {w : Value} (read : target.read s = .ok w) :
    hyphens s.toList ≤ 4 := by
  have trimmed := hyphens_trimBoth s.toList
  unfold Scalar.read at read
  cases target with
  | text => exact absurd rfl other
  | bool =>
    obtain ⟨b, found, _⟩ := Option.map_eq_some_iff.mp (WrittenValues.of_elim read)
    have bound := hyphens_readBool? found
    omega
  | int32 =>
    obtain ⟨n, found, _⟩ := Option.map_eq_some_iff.mp (WrittenValues.of_elim read)
    obtain ⟨k, digits, _⟩ := Option.bind_eq_some_iff.mp found
    have bound := hyphens_readInt? digits
    omega
  | int64 =>
    obtain ⟨n, found, _⟩ := Option.map_eq_some_iff.mp (WrittenValues.of_elim read)
    obtain ⟨k, digits, _⟩ := Option.bind_eq_some_iff.mp found
    have bound := hyphens_readInt? digits
    omega
  | float32 =>
    obtain ⟨x, found, _⟩ := Option.map_eq_some_iff.mp (WrittenValues.of_elim read)
    obtain ⟨n, number, _⟩ := Option.map_eq_some_iff.mp found
    have bound := hyphens_number number
    omega
  | float64 =>
    obtain ⟨x, found, _⟩ := Option.map_eq_some_iff.mp (WrittenValues.of_elim read)
    obtain ⟨n, number, _⟩ := Option.map_eq_some_iff.mp found
    have bound := hyphens_number number
    omega
  | date =>
    obtain ⟨d, date, _⟩ := Outcomes.map_eq_ok read
    have bound := hyphens_readDate date
    omega
  | timestamp =>
    obtain ⟨t, time, _⟩ := Outcomes.map_eq_ok read
    exact hyphens_readTimestamp time
  | uuid =>
    obtain ⟨u, found, _⟩ := Option.map_eq_some_iff.mp (WrittenValues.of_elim read)
    have bound := hyphens_uuid found
    omega

end EntityMapping.Proofs.ReadableTexts
