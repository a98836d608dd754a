import EntityMapping.Rows.Mapper
import Mathlib

/-! From the name of a field to its column and back. The column of a lowerCamel name belongs to no other such name, and a key
under an embedded field is taken apart again where it was put together. -/

namespace EntityMapping.Proofs.NamingRoundTrip
open Text Naming Rows

/-- A small letter and then letters and digits, all of them ASCII. -/
structure IsFieldName (name : String) : Prop where
  starts : name.toList.head?.any Char.isLower
  continues : name.toList.all Char.isAlphanum

instance (name : String) : Decidable (IsFieldName name) :=
  decidable_of_iff (name.toList.head?.any Char.isLower ∧ name.toList.all Char.isAlphanum)
    ⟨fun named => ⟨named.1, named.2⟩, fun named => ⟨named.starts, named.continues⟩⟩

theorem of_code {p : Char → Prop} (holds : ∀ n < 128, p (Char.ofNat n)) {c : Char} (ascii : c.toNat < 128) : p c := by
  have value := holds c.toNat ascii
  rwa [Char.ofNat_toNat] at value

theorem toNat_toUpper {c : Char} (ascii : c.toNat < 128) : c.toUpper.toNat < 128 :=
  of_code (p := fun c => c.toUpper.toNat < 128) (by decide +kernel) ascii

theorem toLower_toUpper {c : Char} (ascii : c.toNat < 128) : c.toUpper.toLower = c.toLower :=
  of_code (p := fun c => c.toUpper.toLower = c.toLower) (by decide +kernel) ascii

private theorem toUpper_toLower {c : Char} (ascii : c.toNat < 128) :
    c.isUpper → c.toLower.toUpper = c ∧ c.toLower.toNat < 128 :=
  of_code (p := fun c => c.isUpper → c.toLower.toUpper = c ∧ c.toLower.toNat < 128) (by decide +kernel) ascii

private theorem toLower_of_not_isUpper {c : Char} (ascii : c.toNat < 128) : c.isUpper = false → c.toLower = c :=
  of_code (p := fun c => c.isUpper = false → c.toLower = c) (by decide +kernel) ascii

theorem toLower_eq_underscore {c : Char} (ascii : c.toNat < 128) : c.toLower = '_' → c = '_' :=
  of_code (p := fun c => c.toLower = '_' → c = '_') (by decide +kernel) ascii

private theorem toUpper_facts {c : Char} (ascii : c.toNat < 128) : c.toUpper.isLower = false ∧ (c.toUpper = '_' → c = '_') :=
  of_code (p := fun c => c.toUpper.isLower = false ∧ (c.toUpper = '_' → c = '_')) (by decide +kernel) ascii

private theorem toUpper_eq_dollar {c : Char} (ascii : c.toNat < 128) : c.toUpper = '$' → c = '$' :=
  of_code (p := fun c => c.toUpper = '$' → c = '$') (by decide +kernel) ascii

theorem ascii_of_isAlphanum {c : Char} (alphanum : c.isAlphanum) : c.toNat < 128 := by
  simp only [Char.isAlphanum, Char.isAlpha, Char.isUpper, Char.isLower, Char.isDigit, Bool.or_eq_true, Bool.and_eq_true,
    decide_eq_true_eq, UInt32.le_iff_toNat_le] at alphanum
  simp only [Char.toNat]
  have digit : '9'.val.toNat = 57 := rfl
  have capital : 'Z'.val.toNat = 90 := rfl
  have small : 'z'.val.toNat = 122 := rfl
  omega

private theorem alphanum_facts {c : Char} (alphanum : c.isAlphanum) : c ≠ '_' ∧ c ≠ '$' ∧ c ≠ '.' ∧ c ≠ '-' := by
  refine ⟨?_, ?_, ?_, ?_⟩ <;> (intro same; subst same; exact absurd alphanum (by decide))

theorem upper_ascii {cs : List Char} (ascii : ∀ c ∈ cs, c.toNat < 128) : upper cs = cs.map Char.toUpper := by
  induction cs with
  | nil => rfl
  | cons c cs ih =>
    rw [upper, List.flatMap_cons, ← upper, ih fun d member => ascii d (.tail _ member), upperChar, if_pos (ascii c (.head _))]
    rfl

private theorem lowerFrom_ascii {cs : List Char} (ascii : ∀ c ∈ cs, c.toNat < 128) (before : List Char) :
    lowerFrom before cs = cs.map Char.toLower := by
  induction cs generalizing before with
  | nil => rfl
  | cons c cs ih =>
    have small := ascii c (.head _)
    have other : (c == 'Σ') = false := by
      rw [beq_eq_false_iff_ne]
      intro same
      subst same
      exact absurd small (by decide)
    rw [lowerFrom, ih fun d member => ascii d (.tail _ member), other, lowerChar, if_pos small]
    rfl

theorem lower_ascii {cs : List Char} (ascii : ∀ c ∈ cs, c.toNat < 128) : lower cs = cs.map Char.toLower :=
  lowerFrom_ascii ascii []

/-- The characters of a column that stand for one of the name, but for the case. -/
def separate (c : Char) : List Char := if c.isUpper then ['_', c] else [c]

/-- Puts the words of a column together. -/
private def joinWords : List (List Char) → List Char
  | [] => []
  | first :: others => first ++ others.flatMap capitalize

/-- What a column in small letters maps to. -/
def camel (cs : List Char) : List Char := joinWords (splitWhere (· == '_') cs)

theorem fieldName_eq (column : String) : fieldName column = String.ofList (camel (lower column.toList)) := by
  unfold fieldName camel joinWords
  split <;> simp_all

theorem splitWhere_cons (p : Char → Bool) (cs : List Char) : ∃ first others, splitWhere p cs = first :: others := by
  cases cs with
  | nil => exact ⟨[], [], rfl⟩
  | cons c cs =>
    rw [splitWhere]
    split
    · exact ⟨_, _, rfl⟩
    · split <;> exact ⟨_, _, rfl⟩

private theorem splitWhere_keep {p : Char → Bool} {c : Char} {cs first : List Char} {others : List (List Char)}
    (keep : p c = false) (rest : splitWhere p cs = first :: others) : splitWhere p (c :: cs) = (c :: first) :: others := by
  rw [splitWhere, keep, rest]
  rfl

theorem camel_cons {c : Char} (other : c ≠ '_') (cs : List Char) : camel (c :: cs) = c :: camel cs := by
  obtain ⟨first, others, words⟩ := splitWhere_cons (· == '_') cs
  rw [camel, camel, splitWhere_keep (p := (· == '_')) (beq_eq_false_iff_ne.mpr other) words, words]
  rfl

theorem camel_word {c : Char} (other : c ≠ '_') (ascii : c.toNat < 128) (cs : List Char) :
    camel ('_' :: c :: cs) = c.toUpper :: camel cs := by
  obtain ⟨first, others, words⟩ := splitWhere_cons (· == '_') cs
  have longer := splitWhere_keep (p := (· == '_')) (beq_eq_false_iff_ne.mpr other) words
  rw [camel, camel, splitWhere, beq_self_eq_true, if_pos rfl, longer, words, joinWords, List.flatMap_cons, capitalize, upperChar,
    if_pos ascii]
  rfl

/-- A letter of a name is itself again, whether it starts a word of the column or not. -/
theorem camel_letter {c : Char} (ascii : c.toNat < 128) (other : c ≠ '_') (cs : List Char) :
    camel (((c :: cs).flatMap separate).map Char.toLower) = c :: camel ((cs.flatMap separate).map Char.toLower) := by
  have kept : c.toLower ≠ '_' := fun same => other (toLower_eq_underscore ascii same)
  cases capital : c.isUpper with
  | true =>
    have back := toUpper_toLower ascii capital
    simp only [List.flatMap_cons, separate, capital, if_true, List.cons_append, List.nil_append, List.map_cons]
    rw [show '_'.toLower = '_' from rfl, camel_word kept back.2, back.1]
  | false =>
    simp only [List.flatMap_cons, separate, capital, Bool.false_eq_true, if_false, List.cons_append, List.nil_append, List.map_cons]
    rw [camel_cons kept, toLower_of_not_isUpper ascii capital]

private theorem camel_separate {cs : List Char} (ascii : ∀ c ∈ cs, c.toNat < 128) (plain : '_' ∉ cs) :
    camel ((cs.flatMap separate).map Char.toLower) = cs := by
  induction cs with
  | nil => rfl
  | cons c cs ih =>
    have other : c ≠ '_' := fun same => plain (same ▸ .head _)
    rw [camel_letter (ascii c (.head _)) other,
      ih (fun d member => ascii d (.tail _ member)) fun member => plain (.tail _ member)]

theorem ascii_separate {cs : List Char} (ascii : ∀ c ∈ cs, c.toNat < 128) :
    ∀ c ∈ cs.flatMap separate, c.toNat < 128 := by
  intro c member
  obtain ⟨d, dMember, member⟩ := List.mem_flatMap.mp member
  unfold separate at member
  split at member
  · cases member with
    | head => decide
    | tail _ member => exact List.mem_singleton.mp member ▸ ascii d dMember
  · exact List.mem_singleton.mp member ▸ ascii d dMember

theorem ascii_words {c : Char} {cs : List Char} (ascii : ∀ d ∈ c :: cs, d.toNat < 128) :
    ∀ d ∈ c :: cs.flatMap separate, d.toNat < 128 :=
  List.forall_mem_cons.mpr ⟨ascii c (.head _), ascii_separate fun d member => ascii d (.tail _ member)⟩

/-- The column of a name that is ASCII and does not start with a dash. -/
theorem columnName_cons {name : String} {c : Char} {cs : List Char} (chars : name.toList = c :: cs)
    (ascii : ∀ d ∈ c :: cs, d.toNat < 128) (start : c ≠ '-') :
    (columnName name).toList = (c :: cs.flatMap separate).map Char.toUpper := by
  have split : separateWords (c :: cs) = c :: cs.flatMap separate := rfl
  have unmarked : dropMark (c :: cs.flatMap separate) = c :: cs.flatMap separate := by
    unfold dropMark
    split
    · next same => exact absurd (List.cons.inj same).1 start
    · rfl
  rw [columnName, chars, String.toList_ofList, split, unmarked, upper_ascii (ascii_words ascii)]

/-- An ASCII text without an underscore that starts neither with a capital nor with a dash. -/
structure IsReversible (name : String) : Prop where
  ascii : ∀ c ∈ name.toList, c.toNat < 128
  plain : '_' ∉ name.toList
  start : ∀ c ∈ name.toList.head?, c ≠ '-' ∧ c.isUpper = false

namespace IsReversible

variable {name : String}

theorem column_chars (reversible : IsReversible name) :
    (columnName name).toList = (name.toList.flatMap separate).map Char.toUpper := by
  obtain ⟨ascii, _, start⟩ := reversible
  cases chars : name.toList with
  | nil =>
    rw [columnName, chars]
    rfl
  | cons c cs =>
    rw [chars] at ascii start
    rw [columnName_cons chars ascii (start c rfl).1, List.flatMap_cons, separate, (start c rfl).2]
    rfl

theorem column_ascii (reversible : IsReversible name) : ∀ c ∈ (columnName name).toList, c.toNat < 128 := by
  rw [reversible.column_chars]
  intro c member
  obtain ⟨d, inside, rfl⟩ := List.mem_map.mp member
  exact toNat_toUpper (ascii_separate reversible.ascii d inside)

theorem fieldName_columnName (reversible : IsReversible name) : fieldName (columnName name) = name := by
  have lowered : lower (columnName name).toList = (name.toList.flatMap separate).map Char.toLower := by
    rw [lower_ascii reversible.column_ascii, reversible.column_chars, List.map_map]
    exact List.map_congr_left fun d member => toLower_toUpper (ascii_separate reversible.ascii d member)
  rw [fieldName_eq, lowered, camel_separate reversible.ascii reversible.plain, String.ofList_toList]

end IsReversible

/-- Each capital brings an underscore, and nothing else does. -/
theorem count_separate {cs : List Char} (ascii : ∀ c ∈ cs, c.toNat < 128) (plain : '_' ∉ cs) :
    ((cs.flatMap separate).map Char.toUpper).count '_' = cs.countP Char.isUpper := by
  induction cs with
  | nil => rfl
  | cons c cs ih =>
    have letter : c.toUpper ≠ '_' := by
      intro same
      exact plain ((toUpper_facts (ascii c (.head _))).2 same ▸ .head _)
    have rest := ih (fun d member => ascii d (.tail _ member)) fun member => plain (.tail _ member)
    rw [List.flatMap_cons, List.map_append, List.count_append, rest, List.countP_cons, separate]
    cases c.isUpper with
    | true => simp [letter, Nat.add_comm]
    | false => simp [letter]

/-- A column gives its name back, so no two such names have one column; it has no small letter, and as many underscores as the
name has capitals. -/
theorem columnName_reversible {name : String} (reversible : IsReversible name) :
    fieldName (columnName name) = name ∧ (∀ other, IsReversible other → columnName other = columnName name → other = name) ∧
      (∀ c ∈ (columnName name).toList, c.toNat < 128 ∧ c.isLower = false) ∧
      (columnName name).toList.count '_' = name.toList.countP Char.isUpper := by
  refine ⟨reversible.fieldName_columnName, ?_, ?_, ?_⟩
  · intro other otherReversible same
    rw [← otherReversible.fieldName_columnName, same, reversible.fieldName_columnName]
  · intro c member
    refine ⟨reversible.column_ascii c member, ?_⟩
    rw [reversible.column_chars] at member
    obtain ⟨d, inside, rfl⟩ := List.mem_map.mp member
    exact (toUpper_facts (ascii_separate reversible.ascii d inside)).1
  · rw [reversible.column_chars, count_separate reversible.ascii reversible.plain]

/-- Marks and digits pass, also where a capital follows them. -/
theorem columnName_reversible_marks :
    IsReversible "addr$City-2B" ∧ columnName "addr$City-2B" = "ADDR$_CITY-2_B" ∧ fieldName "ADDR$_CITY-2_B" = "addr$City-2B" ∧
      (columnName "addr$City-2B").toList.count '_' = 2 := by
  have reversible : IsReversible "addr$City-2B" := ⟨by simp, by simp, by simp⟩
  have column : columnName "addr$City-2B" = "ADDR$_CITY-2_B" := by decide +kernel
  obtain ⟨back, _, _, underscores⟩ := columnName_reversible reversible
  exact ⟨reversible, column, column ▸ back, underscores.trans (by decide)⟩

namespace IsFieldName

variable {name : String}

private theorem chars (named : IsFieldName name) : ∃ c cs, name.toList = c :: cs ∧ c.isLower ∧ ∀ d ∈ c :: cs, d.isAlphanum := by
  obtain ⟨starts, continues⟩ := named
  cases chars : name.toList with
  | nil => rw [chars] at starts; cases starts
  | cons c cs =>
    rw [chars] at starts continues
    exact ⟨c, cs, rfl, starts, List.all_eq_true.mp continues⟩

theorem ascii (named : IsFieldName name) : ∀ c ∈ name.toList, c.toNat < 128 :=
  fun c member => ascii_of_isAlphanum (List.all_eq_true.mp named.continues c member)

theorem nonempty (named : IsFieldName name) : name ≠ "" := by
  intro empty
  have starts := named.starts
  rw [empty] at starts
  cases starts

/-- What cuts labels and paths does not occur in names. -/
theorem uncut (named : IsFieldName name) : '$' ∉ name.toList ∧ '.' ∉ name.toList := by
  have continues := List.all_eq_true.mp named.continues
  exact ⟨fun member => (alphanum_facts (continues _ member)).2.1 rfl, fun member => (alphanum_facts (continues _ member)).2.2.1 rfl⟩

private theorem not_isUpper {c : Char} (alphanum : c.isAlphanum) : c.isLower → c.isUpper = false :=
  of_code (p := fun c => c.isLower → c.isUpper = false) (by decide +kernel) (ascii_of_isAlphanum alphanum)

theorem reversible (named : IsFieldName name) : IsReversible name := by
  obtain ⟨c, cs, chars, small, continues⟩ := named.chars
  have facts := alphanum_facts (continues c (.head _))
  refine ⟨named.ascii, ?_, ?_⟩
  · intro member
    exact (alphanum_facts (continues _ (chars ▸ member))).1 rfl
  · rw [chars]
    rintro _ ⟨⟩
    exact ⟨facts.2.2.2, not_isUpper (continues c (.head _)) small⟩

theorem fieldName_columnName (named : IsFieldName name) : fieldName (columnName name) = name :=
  named.reversible.fieldName_columnName

private theorem column_uncut (named : IsFieldName name) : '$' ∉ (columnName name).toList := by
  rw [named.reversible.column_chars]
  intro member
  obtain ⟨d, inside, same⟩ := List.mem_map.mp member
  have dollar := toUpper_eq_dollar (ascii_separate named.ascii d inside) same
  subst dollar
  obtain ⟨c, cMember, inside⟩ := List.mem_flatMap.mp inside
  unfold separate at inside
  split at inside
  · next capital =>
    cases inside with
    | tail _ inside => exact named.uncut.1 (List.mem_singleton.mp inside ▸ cMember)
  · exact named.uncut.1 (List.mem_singleton.mp inside ▸ cMember)

theorem columnName_ne_empty (named : IsFieldName name) : columnName name ≠ "" := by
  intro empty
  have back := named.fieldName_columnName
  rw [empty] at back
  exact named.nonempty back.symm

/-- The column of a name fits no other name. -/
theorem fits_columnName {other : String} (named : IsFieldName name) (otherNamed : IsFieldName other) :
    fits other (columnName name) = true ↔ other = name := by
  rw [fits, named.fieldName_columnName, Bool.or_eq_true, beq_iff_eq]
  constructor
  · intro either
    cases either with
    | inl same => exact same
    | inr same =>
      have lowered : lower (columnName other).toList = lower (columnName name).toList := by
        rw [lower_ascii otherNamed.reversible.column_ascii, lower_ascii named.reversible.column_ascii]
        exact beq_iff_eq.mp same
      rw [← otherNamed.fieldName_columnName, ← named.fieldName_columnName, fieldName_eq, fieldName_eq, lowered]
  · exact Or.inl

end IsFieldName

private theorem cutAt?_eq_none (isCut : Char → Bool) {cs : List Char} (uncut : ∀ c ∈ cs, isCut c = false) :
    cutAt? isCut cs = none := by
  induction cs with
  | nil => rfl
  | cons c cs ih =>
    rw [cutAt?, uncut c (.head _), ih fun d member => uncut d (.tail _ member)]
    rfl

theorem cutAt?_append (isCut : Char → Bool) {cs : List Char} (uncut : ∀ c ∈ cs, isCut c = false) {c : Char}
    (cut : isCut c) (rest : List Char) : cutAt? isCut (cs ++ c :: rest) = some (cs, rest) := by
  induction cs with
  | nil => rw [List.nil_append, cutAt?, if_pos cut]
  | cons d cs ih =>
    rw [List.cons_append, cutAt?, uncut d (.head _), ih fun e member => uncut e (.tail _ member)]
    rfl

private theorem splitWhere_uncut {isCut : Char → Bool} {cs : List Char} (uncut : ∀ c ∈ cs, isCut c = false) :
    splitWhere isCut cs = [cs] := by
  induction cs with
  | nil => rfl
  | cons c cs ih => exact splitWhere_keep (uncut c (.head _)) (ih fun d member => uncut d (.tail _ member))

private theorem splitWhere_append {isCut : Char → Bool} {cs : List Char} (uncut : ∀ c ∈ cs, isCut c = false) {c : Char}
    (cut : isCut c) (rest : List Char) : splitWhere isCut (cs ++ c :: rest) = cs :: splitWhere isCut rest := by
  induction cs with
  | nil => rw [List.nil_append, splitWhere, if_pos cut]
  | cons d cs ih =>
    exact splitWhere_keep (uncut d (.head _)) (ih fun e member => uncut e (.tail _ member))

private theorem dollar_key (owner name : String) : (owner ++ "$" ++ name).toList = owner.toList ++ '$' :: name.toList := by
  simp [String.toList_append]

theorem reversible_key {owner name : String} (ownerNamed : IsFieldName owner) (named : IsFieldName name) :
    IsReversible (owner ++ "$" ++ name) := by
  refine ⟨?_, ?_, ?_⟩
  · rw [dollar_key]
    exact List.forall_mem_append.mpr ⟨ownerNamed.ascii, List.forall_mem_cons.mpr ⟨by decide, named.ascii⟩⟩
  · simp [ownerNamed.reversible.plain, named.reversible.plain]
  · have nonempty : owner.toList ≠ [] := fun empty => ownerNamed.nonempty (String.toList_eq_nil_iff.mp empty)
    rw [dollar_key, List.head?_append_of_ne_nil _ nonempty]
    exact ownerNamed.reversible.start

theorem columnName_key {owner name : String} (ownerNamed : IsFieldName owner) (named : IsFieldName name) :
    columnName (owner ++ "$" ++ name) = columnName owner ++ "$" ++ columnName name := by
  apply String.toList_inj.mp
  rw [(reversible_key ownerNamed named).column_chars, dollar_key, dollar_key, ownerNamed.reversible.column_chars,
    named.reversible.column_chars, List.flatMap_append, List.map_append]
  rfl

theorem labelParts_column {name : String} (named : IsFieldName name) :
    labelParts (columnName name) = ("", columnName name) := by
  have uncut := cutAt?_eq_none (· == '$') fun c member => beq_eq_false_iff_ne.mpr fun same =>
    named.column_uncut (same ▸ member)
  rw [labelParts, uncut]

theorem labelParts_key {owner name : String} (ownerNamed : IsFieldName owner) (named : IsFieldName name) :
    labelParts (columnName (owner ++ "$" ++ name)) = (columnName owner, columnName name) := by
  have cut := cutAt?_append (· == '$') (fun c member => beq_eq_false_iff_ne.mpr fun same =>
    ownerNamed.column_uncut (same ▸ member)) (beq_self_eq_true '$') (columnName name).toList
  rw [labelParts, columnName_key ownerNamed named, dollar_key, cut]
  simp only [String.ofList_toList]

private theorem uncut_path {name : String} (uncut : '$' ∉ name.toList ∧ '.' ∉ name.toList) :
    ∀ c ∈ name.toList, (c == '.' || c == '$') = false := by
  intro c member
  rw [Bool.or_eq_false_iff, beq_eq_false_iff_ne, beq_eq_false_iff_ne]
  exact ⟨fun same => uncut.2 (same ▸ member), fun same => uncut.1 (same ▸ member)⟩

theorem pathNames_uncut {name : String} (uncut : '$' ∉ name.toList ∧ '.' ∉ name.toList) :
    Entity.pathNames name = [name] := by
  rw [Entity.pathNames, splitWhere_uncut (uncut_path uncut), List.map_cons, String.ofList_toList]
  rfl

theorem pathNames_name {name : String} (named : IsFieldName name) : Entity.pathNames name = [name] :=
  pathNames_uncut named.uncut

theorem pathNames_key {owner name : String} (ownerNamed : IsFieldName owner) (named : IsFieldName name) :
    Entity.pathNames (owner ++ "$" ++ name) = [owner, name] := by
  rw [Entity.pathNames, dollar_key, splitWhere_append (uncut_path ownerNamed.uncut) (by decide),
    splitWhere_uncut (uncut_path named.uncut)]
  simp only [List.map_cons, String.ofList_toList, List.map_nil]

/-- A text put together at a separator that its parts do not hold is put together in this way only. -/
theorem joined_inj {separator : String} {c : Char} (single : separator.toList = [c]) {owner name : String}
    (ownerFree : c ∉ owner.toList) (nameFree : c ∉ name.toList) {first second : String} :
    owner ++ separator ++ name = first ++ separator ++ second ↔ owner = first ∧ name = second := by
  simp only [← String.toList_inj, String.toList_append, single, List.append_assoc, List.singleton_append]
  rw [List.append_cons_inj_of_notMem ownerFree nameFree, eq_self, true_and]

theorem key_inj {owner name : String} (ownerNamed : IsFieldName owner) (named : IsFieldName name) {first second : String}
    (same : first ++ "$" ++ second = owner ++ "$" ++ name) : first = owner ∧ second = name := by
  obtain ⟨sameOwner, sameName⟩ := (joined_inj (by rfl) ownerNamed.uncut.1 named.uncut.1).mp same.symm
  exact ⟨sameOwner.symm, sameName.symm⟩

theorem key_ne_name {name : String} (named : IsFieldName name) (first second : String) : name ≠ first ++ "$" ++ second := by
  intro same
  apply named.uncut.1
  rw [same, dollar_key]
  exact List.mem_append_right _ (.head _)

end EntityMapping.Proofs.NamingRoundTrip
