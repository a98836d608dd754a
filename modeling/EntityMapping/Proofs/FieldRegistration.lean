import EntityMapping.Metadata.Basic
import Mathlib

/-! Registration. The places of the keys always agree with the fields that are registered, and a key belongs to the first entry
of that key that has a column. -/

namespace EntityMapping.Proofs.FieldRegistration
open Entity FieldIndex

/-- A key has the place of the field that is registered under it. -/
def Indexed (index : FieldIndex) : Prop :=
  ∀ (key : String) (i : Nat), index.places[key]? = some i ↔ index.fields[i]?.map Prod.fst = some key

/-- What an entry is registered as. -/
def mappingOf? (scope : Option String) (f : ValueField) : Option FieldMapping :=
  (columnOf? scope f).map fun column => ⟨column, f.readOnly, scope.isSome⟩

def registered? (index : FieldIndex) (key : String) : Option FieldMapping :=
  index.places[key]?.bind fun place => index.fields[place]?.map (·.2)

theorem indexed_empty : Indexed .empty := by
  intro key i
  simp [FieldIndex.empty]

theorem registered?_eq_none {index : FieldIndex} {key : String} (free : index.places[key]? = none) :
    registered? index key = none := by
  rw [registered?, free]
  rfl

theorem Indexed.registered?_isSome {index : FieldIndex} (indexed : Indexed index) {key : String} {i : Nat}
    (placed : index.places[key]? = some i) : (registered? index key).isSome := by
  have there := (indexed key i).mp placed
  obtain ⟨field, there, _⟩ := Option.map_eq_some_iff.mp there
  rw [registered?, placed, Option.bind_some, there]
  rfl

theorem Indexed.register {index : FieldIndex} (indexed : Indexed index) (scope : Option String) (f : ValueField) :
    Indexed (index.register scope f) := by
  unfold FieldIndex.register
  dsimp only
  split
  · exact indexed
  · next free =>
    split
    · exact indexed
    · next column _ =>
      intro key i
      have free : index.places[keyOf scope f]? = none := by simpa using free
      simp only [Std.HashMap.getElem?_insert, Array.getElem?_push]
      by_cases same : keyOf scope f = key
      · subst same
        simp only [beq_self_eq_true, if_true, Option.some.injEq]
        constructor
        · intro last
          rw [if_pos last.symm]
          rfl
        · intro found
          split at found
          · next last => exact last.symm
          · rw [(indexed _ i).mpr found] at free
            cases free
      · rw [if_neg (by simpa using same), indexed key i]
        split
        · next last =>
          subst last
          simp [same]
        · exact Iff.rfl

theorem registered?_register {index : FieldIndex} (indexed : Indexed index) (scope : Option String) (f : ValueField)
    (key : String) :
    registered? (index.register scope f) key =
      (registered? index key).or (if keyOf scope f = key then mappingOf? scope f else none) := by
  unfold FieldIndex.register
  dsimp only
  split
  · next taken =>
    by_cases same : keyOf scope f = key
    · subst same
      rw [Std.HashMap.contains_eq_isSome_getElem?] at taken
      obtain ⟨i, placed⟩ := Option.isSome_iff_exists.mp taken
      obtain ⟨mapping, found⟩ := Option.isSome_iff_exists.mp (indexed.registered?_isSome placed)
      rw [found, Option.some_or]
    · rw [if_neg same, Option.or_none]
  · next free =>
    have free : index.places[keyOf scope f]? = none := by simpa using free
    rw [mappingOf?]
    split
    · next none => rw [none]; simp
    · next column found =>
      rw [found]
      by_cases same : keyOf scope f = key
      · subst same
        rw [registered?_eq_none free, if_pos rfl, registered?]
        simp
      · rw [if_neg same, Option.or_none, registered?, registered?]
        simp only [Std.HashMap.getElem?_insert, if_neg (show ¬(keyOf scope f == key) = true by simpa using same)]
        cases placed : index.places[key]? with
        | none => rfl
        | some place =>
          obtain ⟨field, there, _⟩ := Option.map_eq_some_iff.mp ((indexed key place).mp placed)
          have inside := (Array.getElem?_eq_some_iff.mp there).1
          rw [Option.bind_some, Option.bind_some, Array.getElem?_push, if_neg (by omega)]

/-- A run of registrations keeps the places right and looks up the first entry with a column. -/
theorem registered?_foldl {index : FieldIndex} (indexed : Indexed index) (entries : List (Option String × ValueField)) :
    Indexed (entries.foldl (fun index (scope, f) => index.register scope f) index) ∧
      ∀ key, registered? (entries.foldl (fun index (scope, f) => index.register scope f) index) key =
        (registered? index key).or
          (entries.findSome? fun (scope, f) => if keyOf scope f = key then mappingOf? scope f else none) := by
  induction entries generalizing index with
  | nil => exact ⟨indexed, fun key => (Option.or_none).symm⟩
  | cons entry entries ih =>
    obtain ⟨scope, f⟩ := entry
    obtain ⟨after, looked⟩ := ih (indexed.register scope f)
    refine ⟨after, fun key => ?_⟩
    rw [List.foldl_cons, looked key, registered?_register indexed, List.findSome?_cons, Option.or_assoc]
    congr 1
    dsimp only
    cases (if keyOf scope f = key then mappingOf? scope f else none) <;> rfl

theorem lookup_of_mem {α : Type} {entries : List (String × α)} (distinct : (entries.map (·.1)).Nodup)
    {key : String} {a : α} (member : (key, a) ∈ entries) : entries.lookup key = some a := by
  induction entries with
  | nil => cases member
  | cons entry entries ih =>
    obtain ⟨fresh, distinct⟩ := List.nodup_cons.mp distinct
    cases member with
    | head => simp
    | tail _ member =>
      have other : (key == entry.1) = false := by
        rw [beq_eq_false_iff_ne]
        intro same
        subst same
        exact fresh (List.mem_map_of_mem (f := (·.1)) member)
      rw [List.lookup, other]
      exact ih distinct member

variable {d : Definition} {m : Metadata}

theorem build_index (built : Metadata.build d = .ok m) :
    m.index = d.fields.entries.foldl (fun index (scope, f) => index.register scope f) .empty := by
  unfold Metadata.build at built
  cases tables : Table.ofClauses d.type.name d.clauses with
  | error e => rw [tables] at built; cases built
  | ok tables => rw [tables] at built; cases built; rfl

theorem build_indexed (built : Metadata.build d = .ok m) : Indexed m.index := by
  rw [build_index built]
  exact (registered?_foldl indexed_empty _).1

theorem field?_build (built : Metadata.build d = .ok m) (key : String) :
    m.field? key = d.fields.entries.findSome? fun (scope, f) => if keyOf scope f = key then mappingOf? scope f else none := by
  have looked := (registered?_foldl indexed_empty d.fields.entries).2 key
  have nothing : registered? .empty key = none := registered?_eq_none (by simp [FieldIndex.empty])
  rw [← build_index built, nothing, Option.none_or] at looked
  exact looked

theorem mem_fields_iff (built : Metadata.build d = .ok m) {key : String} {mapping : FieldMapping} :
    (key, mapping) ∈ m.fields ↔ m.field? key = some mapping := by
  have indexed := build_indexed built
  rw [Metadata.fields, Metadata.field?, List.mem_iff_getElem?, Option.bind_eq_some_iff]
  constructor
  · intro member
    obtain ⟨i, there⟩ := member
    rw [Array.getElem?_toList] at there
    exact ⟨i, (indexed key i).mpr (by rw [there]; rfl), by rw [there]; rfl⟩
  · intro found
    obtain ⟨i, placed, found⟩ := found
    obtain ⟨field, there, sameKey⟩ := Option.map_eq_some_iff.mp ((indexed key i).mp placed)
    rw [there] at found
    cases found
    exact ⟨i, by rw [Array.getElem?_toList, there, ← sameKey]⟩

theorem keys_nodup (built : Metadata.build d = .ok m) : (m.fields.map (·.1)).Nodup := by
  have indexed := build_indexed built
  rw [List.nodup_iff_getElem?_ne_getElem?]
  intro i j before inside same
  obtain ⟨key, second⟩ : ∃ key, (m.fields.map (·.1))[j]? = some key := ⟨_, List.getElem?_eq_getElem inside⟩
  have placed : ∀ k, (m.fields.map (·.1))[k]? = some key → m.index.places[key]? = some k := by
    intro k there
    rw [List.getElem?_map, Metadata.fields, Array.getElem?_toList] at there
    exact (indexed key k).mpr there
  have first := placed i (same.trans second)
  rw [placed j second] at first
  cases first
  exact Nat.lt_irrefl _ before

theorem field?_eq_lookup (built : Metadata.build d = .ok m) (key : String) : m.field? key = m.fields.lookup key := by
  apply Option.ext
  intro mapping
  rw [← mem_fields_iff built]
  constructor
  · exact lookup_of_mem (keys_nodup built)
  · intro found
    obtain ⟨before, after, fields, _⟩ := List.lookup_eq_some_iff.mp found
    rw [fields]
    exact List.mem_append_right _ (.head _)

theorem mem_keys_iff (built : Metadata.build d = .ok m) {key : String} : key ∈ m.fields.map (·.1) ↔ (m.field? key).isSome := by
  rw [List.mem_map, Option.isSome_iff_exists]
  constructor
  · intro member
    obtain ⟨⟨_, mapping⟩, there, rfl⟩ := member
    exact ⟨mapping, (mem_fields_iff built).mp there⟩
  · intro found
    obtain ⟨mapping, found⟩ := found
    exact ⟨(key, mapping), (mem_fields_iff built).mpr found, rfl⟩

theorem entry_of_mapping (built : Metadata.build d = .ok m) {key : String} {mapping : FieldMapping}
    (member : (key, mapping) ∈ m.fields) :
    ∃ scope f, (scope, f) ∈ d.fields.entries ∧ keyOf scope f = key ∧ mappingOf? scope f = some mapping := by
  have found := (mem_fields_iff built).mp member
  rw [field?_build built] at found
  obtain ⟨⟨scope, f⟩, entry, found⟩ := List.exists_of_findSome?_eq_some found
  dsimp only at found
  split at found
  · next same => exact ⟨scope, f, entry, same, found⟩
  · cases found

theorem entry_of_key (built : Metadata.build d = .ok m) {key : String} (member : key ∈ m.fields.map (·.1)) :
    ∃ scope f, (scope, f) ∈ d.fields.entries ∧ keyOf scope f = key := by
  obtain ⟨⟨_, mapping⟩, there, rfl⟩ := List.mem_map.mp member
  obtain ⟨scope, f, entry, same, _⟩ := entry_of_mapping built there
  exact ⟨scope, f, entry, same⟩

end EntityMapping.Proofs.FieldRegistration
