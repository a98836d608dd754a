import EntityMapping.Proofs.SetterResolution

/-! From the alias of a selected field back to the field, for all styles of names. An alias finds its own field unless a field
before it has the name that the alias maps to. No other field has it when every underscore of the name stands between words. -/

namespace EntityMapping.Proofs.AliasLookup
open Text Naming Entity Rows NamingRoundTrip SetterResolution SetterSearch

/-- Letters, digits and underscores, all of them ASCII, and no digit first. -/
structure IsIdentifier (name : String) : Prop where
  starts : name.toList.head?.any fun c => !c.isDigit
  continues : name.toList.all fun c => c.isAlphanum || c == '_'

instance (name : String) : Decidable (IsIdentifier name) :=
  decidable_of_iff (name.toList.head?.any (fun c => !c.isDigit) ∧ name.toList.all fun c => c.isAlphanum || c == '_')
    ⟨fun named => ⟨named.1, named.2⟩, fun named => ⟨named.starts, named.continues⟩⟩

/-- A small letter follows every underscore. -/
def leadsWords : List Char → Bool
  | '_' :: c :: cs => c.isLower && leadsWords cs
  | ['_'] => false
  | _ :: cs => leadsWords cs
  | [] => true

/-- The name does not start with an underscore, and a small letter follows every other one. -/
def Worded (name : String) : Prop := name.toList.head? ≠ some '_' ∧ leadsWords name.toList

instance : DecidablePred Worded := fun name => inferInstanceAs (Decidable (name.toList.head? ≠ some '_' ∧ leadsWords name.toList))

namespace IsIdentifier

variable {name : String}

theorem chars (named : IsIdentifier name) : ∃ c cs, name.toList = c :: cs ∧ c ≠ '-' ∧ ∀ d ∈ c :: cs, d.toNat < 128 := by
  obtain ⟨starts, continues⟩ := named
  cases chars : name.toList with
  | nil => rw [chars] at starts; cases starts
  | cons c cs =>
    rw [chars] at continues
    have parts := List.all_eq_true.mp continues
    refine ⟨c, cs, rfl, ?_, ?_⟩
    · rintro rfl
      exact absurd (parts _ (.head _)) (by decide)
    · intro d member
      obtain alphanum | underscore := Bool.or_eq_true_iff.mp (parts d member)
      · exact ascii_of_isAlphanum alphanum
      · rw [beq_iff_eq.mp underscore]
        decide

end IsIdentifier

private theorem toUpper_toLower_toUpper {c : Char} (ascii : c.toNat < 128) : c.toUpper.toLower.toUpper = c.toUpper :=
  of_code (p := fun c => c.toUpper.toLower.toUpper = c.toUpper) (by decide +kernel) ascii

/-- Aliases of identifiers are in capitals, so they are equal when they are equal but for the case. -/
theorem eq_of_equalIgnoringCase {name other : String} (named : IsIdentifier name) (otherNamed : IsIdentifier other)
    (equal : equalIgnoringCase (columnName other) (columnName name)) : columnName other = columnName name := by
  have capitals : ∀ {name}, IsIdentifier name →
      ((columnName name).toList.map Char.toLower).map Char.toUpper = (columnName name).toList := by
    intro name named
    obtain ⟨c, cs, chars, start, ascii⟩ := named.chars
    rw [columnName_cons chars ascii start, List.map_map, List.map_map]
    apply List.map_congr_left
    intro d member
    exact toUpper_toLower_toUpper (ascii_words ascii d member)
  have lowered : (columnName other).toList.map Char.toLower = (columnName name).toList.map Char.toLower := beq_iff_eq.mp equal
  apply String.toList_inj.mp
  rw [← capitals otherNamed, lowered, capitals named]

private theorem small_facts {c : Char} (ascii : c.toNat < 128) :
    c.isLower → c.toLower = c ∧ c.isUpper = false ∧ c ≠ '_' ∧ c.toUpper.isUpper ∧ c.toUpper.toUpper = c.toUpper :=
  of_code (p := fun c => c.isLower → c.toLower = c ∧ c.isUpper = false ∧ c ≠ '_' ∧ c.toUpper.isUpper ∧ c.toUpper.toUpper = c.toUpper)
    (by decide +kernel) ascii

private theorem first_facts {c : Char} (ascii : c.toNat < 128) :
    (c.toLower = '-' → c = '-') ∧ c.toLower.toNat < 128 ∧ c.toLower.toUpper = c.toUpper :=
  of_code (p := fun c => (c.toLower = '-' → c = '-') ∧ c.toLower.toNat < 128 ∧ c.toLower.toUpper = c.toUpper)
    (by decide +kernel) ascii

/-- The part of a column after its first character, mapped to a name and back to a column. -/
private theorem camel_separate_again {cs : List Char} (ascii : ∀ c ∈ cs, c.toNat < 128) (words : leadsWords cs) :
    (∀ d ∈ camel ((cs.flatMap separate).map Char.toLower), d.toNat < 128) ∧
      ((camel ((cs.flatMap separate).map Char.toLower)).flatMap separate).map Char.toUpper =
        (cs.flatMap separate).map Char.toUpper := by
  fun_induction leadsWords cs with
  | case1 c cs ih =>
    obtain ⟨small, words⟩ := Bool.and_eq_true_iff.mp words
    have letter := ascii c (.tail _ (.head _))
    obtain ⟨same, notUpper, other, upper, again⟩ := small_facts letter small
    obtain ⟨inside, ih⟩ := ih (fun d member => ascii d (.tail _ (.tail _ member))) words
    have split : ('_' :: c :: cs).flatMap separate = '_' :: c :: cs.flatMap separate := by
      simp only [List.flatMap_cons, separate, notUpper]
      rfl
    rw [split, List.map_cons, List.map_cons, same, show '_'.toLower = '_' from rfl, camel_word other letter]
    refine ⟨List.forall_mem_cons.mpr ⟨toNat_toUpper letter, inside⟩, ?_⟩
    rw [List.flatMap_cons, separate, if_pos upper, List.map_append, ih]
    simp only [List.map_cons, List.map_nil, List.cons_append, List.nil_append, again]
  | case2 => cases words
  | case3 c cs noWord noEnd ih =>
    have other : c ≠ '_' := by
      intro same
      cases cs with
      | nil => exact noEnd same rfl
      | cons d cs => exact noWord d cs same rfl
    have letter := ascii c (.head _)
    obtain ⟨inside, ih⟩ := ih (fun d member => ascii d (.tail _ member)) words
    rw [camel_letter letter other]
    refine ⟨List.forall_mem_cons.mpr ⟨letter, inside⟩, ?_⟩
    rw [List.flatMap_cons, List.flatMap_cons, List.map_append, List.map_append, ih]
  | case4 => exact ⟨List.forall_mem_nil _, rfl⟩

private theorem leadsWords_tail {c : Char} {cs : List Char} (other : c ≠ '_') (words : leadsWords (c :: cs)) : leadsWords cs := by
  unfold leadsWords at words
  split at words
  · next same => exact absurd (List.cons.inj same).1 other
  · next same => exact absurd (List.cons.inj same).1 other
  · next same =>
    cases same
    exact words
  · next same => cases same

/-- The field that the alias of a worded name maps to has the same alias. -/
theorem columnName_fieldName {name : String} (named : IsIdentifier name) (worded : Worded name) :
    columnName (fieldName (columnName name)) = columnName name := by
  obtain ⟨c, cs, chars, start, ascii⟩ := named.chars
  obtain ⟨first, words⟩ := worded
  rw [chars] at first words
  have other : c ≠ '_' := fun same => first (same ▸ rfl)
  have letter := ascii c (.head _)
  obtain ⟨dash, small, capital⟩ := first_facts letter
  obtain ⟨inside, again⟩ := camel_separate_again (fun d member => ascii d (.tail _ member)) (leadsWords_tail other words)
  have column := columnName_cons chars ascii start
  have lowered : lower (columnName name).toList = c.toLower :: (cs.flatMap separate).map Char.toLower := by
    have capitals : ∀ d ∈ (c :: cs.flatMap separate).map Char.toUpper, d.toNat < 128 := by
      intro d member
      obtain ⟨e, inside, rfl⟩ := List.mem_map.mp member
      exact toNat_toUpper (ascii_words ascii e inside)
    rw [column, lower_ascii capitals, List.map_map, ← List.map_cons]
    exact List.map_congr_left fun d member => toLower_toUpper (ascii_words ascii d member)
  have kept : c.toLower ≠ '_' := fun same => other (toLower_eq_underscore letter same)
  have back : (fieldName (columnName name)).toList = c.toLower :: camel ((cs.flatMap separate).map Char.toLower) := by
    rw [fieldName_eq, lowered, camel_cons kept, String.toList_ofList]
  apply String.toList_inj.mp
  rw [columnName_cons back (List.forall_mem_cons.mpr ⟨small, inside⟩) fun same => start (dash same), column, List.map_cons,
    List.map_cons, again, capital]

def ofValues : List ValueField → Fields
  | [] => .nil
  | f :: rest => .value f (ofValues rest)

theorem ownSetter?_first {fs : List ValueField} {label : String} {j : Nat} {g : ValueField} (there : fs[j]? = some g)
    (fit : fits g.name label) (first : ∀ k h, k < j → fs[k]? = some h → fits h.name label = false) (owner : TypeName) (i : Nat) :
    ownSetter? owner label (ofValues fs) i = some ⟨[], owner, i + j, g⟩ := by
  induction fs generalizing i j with
  | nil => cases there
  | cons f rest ih =>
    rw [ofValues, ownSetter?]
    cases j with
    | zero =>
      cases there
      rw [if_pos fit]
      rfl
    | succ j =>
      have skip := first 0 f (Nat.zero_lt_succ j) rfl
      rw [skip, if_neg Bool.false_ne_true, ih there fun k h before => first (k + 1) h (Nat.succ_lt_succ before), Nat.add_assoc,
        Nat.add_comm 1]

variable {d : Definition} {fs : List ValueField} {f : ValueField} {i : Nat}

theorem alias_ne (aliases : (fs.map fun f => columnName f.name).Nodup) (there : fs[i]? = some f) {j : Nat} (before : j < i)
    {g : ValueField} (other : fs[j]? = some g) : columnName g.name ≠ columnName f.name := by
  intro same
  have inside : i < (fs.map fun f => columnName f.name).length := by
    rw [List.length_map]
    exact (List.getElem?_eq_some_iff.mp there).1
  apply List.nodup_iff_getElem?_ne_getElem?.mp aliases j i before inside
  rw [List.getElem?_map, List.getElem?_map, other, there, Option.map_some, Option.map_some, same]

/-- Of the fields before, an alias fits only the one with the name that it maps to. -/
theorem fits_before (identifiers : ∀ f ∈ fs, IsIdentifier f.name) (aliases : (fs.map fun f => columnName f.name).Nodup)
    (there : fs[i]? = some f) {j : Nat} (before : j < i) {g : ValueField} (other : fs[j]? = some g) :
    fits g.name (columnName f.name) = (g.name == fieldName (columnName f.name)) := by
  have unequal : equalIgnoringCase (columnName g.name) (columnName f.name) = false := by
    rw [Bool.eq_false_iff]
    intro equal
    exact alias_ne aliases there before other (eq_of_equalIgnoringCase (identifiers f (List.mem_of_getElem? there))
      (identifiers g (List.mem_of_getElem? other)) equal)
  rw [fits, unequal, Bool.or_false]

theorem resolve_first (plain : d.fields = ofValues fs) {lookups : List (Definition × String × String)}
    (own : ∀ l ∈ lookups, l.1.type.id = d.type.id → l.1 = d) {label : String} (there : fs[i]? = some f)
    (fit : fits f.name label) (first : ∀ j g, j < i → fs[j]? = some g → fits g.name label = false) :
    ((filledBy lookups).resolve d "" label).1 = some ⟨[], d.type, i, f⟩ := by
  rw [(answers_filledBy own).resolve, findSetter?_plain, searched?, plain, ownSetter?_first there fit first, Nat.zero_add,
    Option.some_or]

/-- The alias of a field finds the field, but for one case: it finds a field before it that has the name that the alias maps
to. There is none such when the name is worded. -/
theorem resolve_alias (plain : d.fields = ofValues fs) (identifiers : ∀ f ∈ fs, IsIdentifier f.name)
    (aliases : (fs.map fun f => columnName f.name).Nodup) {lookups : List (Definition × String × String)}
    (own : ∀ l ∈ lookups, l.1.type.id = d.type.id → l.1 = d) (there : fs[i]? = some f) :
    (∀ j g, j < i → fs[j]? = some g → g.name = fieldName (columnName f.name) →
      ((filledBy lookups).resolve d "" (columnName f.name)).1 = some ⟨[], d.type, j, g⟩) ∧
    ((∀ j g, j < i → fs[j]? = some g → g.name ≠ fieldName (columnName f.name)) →
      ((filledBy lookups).resolve d "" (columnName f.name)).1 = some ⟨[], d.type, i, f⟩) ∧
    (Worded f.name → ((filledBy lookups).resolve d "" (columnName f.name)).1 = some ⟨[], d.type, i, f⟩) := by
  have untaken : (∀ j g, j < i → fs[j]? = some g → g.name ≠ fieldName (columnName f.name)) →
      ((filledBy lookups).resolve d "" (columnName f.name)).1 = some ⟨[], d.type, i, f⟩ := by
    intro free
    apply resolve_first plain own there (fits_own f.name)
    intro j g before other
    rw [fits_before identifiers aliases there before other, beq_eq_false_iff_ne]
    exact free j g before other
  refine ⟨?_, untaken, ?_⟩
  · intro j g before other mapped
    apply resolve_first plain own other (by rw [fits, mapped, beq_self_eq_true, Bool.true_or])
    intro k h earlier another
    rw [fits_before identifiers aliases there (earlier.trans before) another, beq_eq_false_iff_ne, ← mapped]
    intro same
    exact alias_ne aliases other earlier another (congrArg columnName same)
  · intro worded
    apply untaken
    intro j g before other mapped
    apply alias_ne aliases there before other
    rw [mapped, columnName_fieldName (identifiers f (List.mem_of_getElem? there)) worded]

/-- Texts of the names given. -/
def texts (names : List String) : List ValueField := names.map (⟨·, none, false, .text, true, true⟩)

def plot (names : List String) : Definition := ⟨⟨0, "Plot"⟩, ⟨none, none, none, none⟩, ofValues (texts names)⟩

theorem resolve_alias_plot :
    columnName "created_at" = "CREATED_AT" ∧ Worded "created_at" ∧
      ((filledBy []).resolve (plot ["a1", "created_at", "createdBy"]) "" "CREATED_AT").1 =
        some ⟨[], ⟨0, "Plot"⟩, 1, ⟨"created_at", none, false, .text, true, true⟩⟩ := by
  have column : columnName "created_at" = "CREATED_AT" := by decide +kernel
  have worded : Worded "created_at" := by decide
  have identifiers : ∀ f ∈ texts ["a1", "created_at", "createdBy"], IsIdentifier f.name := by decide
  have aliases : ((texts ["a1", "created_at", "createdBy"]).map fun f => columnName f.name).Nodup := by decide +kernel
  have own : ∀ l ∈ ([] : List (Definition × String × String)), l.1.type.id = 0 → l.1 = plot ["a1", "created_at", "createdBy"] := by
    simp
  have found := (resolve_alias (d := plot ["a1", "created_at", "createdBy"]) (i := 1) rfl identifiers aliases own rfl).2.2 worded
  rw [column] at found
  exact ⟨column, worded, found⟩

/-- The alias of the second field maps to the name of the first. -/
theorem alias_taken :
    (∀ f ∈ texts ["a1", "a_1"], IsIdentifier f.name) ∧ ["a1", "a_1"].Nodup ∧
      ((texts ["a1", "a_1"]).map fun f => columnName f.name).Nodup ∧
      (SetterCache.empty.resolve (plot ["a1", "a_1"]) "" (columnName "a_1")).1 =
        some ⟨[], ⟨0, "Plot"⟩, 0, ⟨"a1", none, false, .text, true, true⟩⟩ := by
  refine ⟨by decide, by decide, by decide +kernel, ?_⟩
  have column : columnName "a_1" = "A_1" := by decide +kernel
  have empty : SetterCache.empty = filledBy [] := rfl
  rw [empty, (answers_filledBy (by simp)).resolve, column]
  rfl

end EntityMapping.Proofs.AliasLookup
