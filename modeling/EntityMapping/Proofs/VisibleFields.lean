import EntityMapping.Entity.Access
import EntityMapping.Proofs.FieldRegistration
import EntityMapping.Proofs.SetterResolution

/-! Fields that a name reaches without a path: the values of a type, and then those of its bases. Reading takes the first of the
name, registration the first of the name that has a column. -/

namespace EntityMapping.Proofs.VisibleFields
open Entity Fields FieldIndex FieldRegistration NamingRoundTrip SetterResolution

/-- A name that is not taken for a path. -/
def Uncut (name : String) : Prop := '$' ∉ name.toList ∧ '.' ∉ name.toList

def Distinct (fields : Fields) : Prop := (fieldNames fields).Nodup

def ownFields : Fields → List ValueField
  | .nil => []
  | .value f rest => f :: ownFields rest
  | .nested _ _ rest => ownFields rest
  | .skipped _ rest => ownFields rest

def baseFields : Fields → List ValueField
  | .nil => []
  | .value _ rest => baseFields rest
  | .nested f inner rest => (if f.role == .base then ownFields inner ++ baseFields inner else []) ++ baseFields rest
  | .skipped _ rest => baseFields rest

def visible (fields : Fields) : List ValueField := ownFields fields ++ baseFields fields

/-- The names of the fields differ, and none is taken for a path. -/
def Plain (fields : Fields) : Prop := Distinct fields ∧ ∀ name ∈ fieldNames fields, Uncut name

instance : DecidablePred Uncut := fun name => inferInstanceAs (Decidable ('$' ∉ name.toList ∧ '.' ∉ name.toList))

instance : DecidablePred Distinct := fun fields => inferInstanceAs (Decidable (fieldNames fields).Nodup)

instance : DecidablePred Plain :=
  fun fields => inferInstanceAs (Decidable (Distinct fields ∧ ∀ name ∈ fieldNames fields, Uncut name))

theorem distinct_of_plain {fields : Fields} (plain : EveryType Plain fields) : EveryType Distinct fields :=
  everyType_imp (fun _ plain => plain.1) plain

private def unscoped (entry : Option String × ValueField) : Option ValueField := entry.1.elim (some entry.2) fun _ => none

private theorem ownEntries_unscoped (fields : Fields) : fields.ownEntries.filterMap unscoped = ownFields fields := by
  induction fields with
  | nil => rfl
  | value f rest ih => exact congrArg (f :: ·) ih
  | nested f inner rest _ ih =>
    have hidden : (if f.role == .embedded then inner.leaves.map (some f.name, ·) else []).filterMap unscoped = [] := by
      split
      · simp [unscoped, List.filterMap_map, Function.comp_def]
      · rfl
    rw [Fields.ownEntries, List.filterMap_append, hidden]
    exact ih
  | skipped name rest ih => exact ih

private theorem baseEntries_unscoped (fields : Fields) : fields.baseEntries.filterMap unscoped = baseFields fields := by
  induction fields with
  | nil => rfl
  | value f rest ih => exact ih
  | nested f inner rest ihInner ih =>
    rw [Fields.baseEntries, List.filterMap_append, ih, baseFields]
    congr 1
    split
    · rw [List.filterMap_append, ownEntries_unscoped, ihInner]
    · rfl
  | skipped name rest ih => exact ih

theorem entries_unscoped (fields : Fields) : fields.entries.filterMap unscoped = visible fields := by
  rw [Fields.entries, List.filterMap_append, ownEntries_unscoped, baseEntries_unscoped, visible]

theorem mem_visible_iff {fields : Fields} {f : ValueField} : f ∈ visible fields ↔ (none, f) ∈ fields.entries := by
  rw [← entries_unscoped, List.mem_filterMap]
  constructor
  · intro ⟨(scope, g), member, found⟩
    cases scope with
    | none => cases found; exact member
    | some owner => cases found
  · intro member
    exact ⟨(none, f), member, rfl⟩

theorem uncut_of_visible {fields : Fields} (plain : EveryType Plain fields) {f : ValueField} (member : f ∈ visible fields) :
    Uncut f.name :=
  (entry_name (everyType_imp (fun _ plain => plain.2) plain) (mem_visible_iff.mp member)).1

/-- The field that is registered under a name. -/
def mapped? (fields : Fields) (name : String) : Option ValueField :=
  (visible fields).find? fun f => f.name == name && (columnOf? none f).isSome

variable {d : Definition} {m : Metadata}

theorem keyOf_uncut {scope : Option String} {f : ValueField} (uncut : Uncut (keyOf scope f)) : scope = none := by
  cases scope with
  | none => rfl
  | some owner =>
    apply absurd _ uncut.1
    simp [keyOf, String.toList_append]

theorem field?_uncut (built : Metadata.build d = .ok m) {name : String} (uncut : Uncut name) :
    m.field? name = (mapped? d.fields name).bind (mappingOf? none) := by
  rw [field?_build built, mapped?, ← entries_unscoped]
  induction d.fields.entries with
  | nil => rfl
  | cons entry entries ih =>
    obtain ⟨scope, f⟩ := entry
    rw [List.findSome?_cons, List.filterMap_cons]
    cases scope with
    | none =>
      rw [show unscoped (none, f) = some f from rfl]
      dsimp only
      by_cases same : keyOf none f = name
      · have named : f.name = name := same
        rw [if_pos same, mappingOf?]
        cases column : columnOf? none f with
        | none =>
          rw [List.find?_cons_of_neg (by simp [column])]
          exact ih
        | some column' =>
          rw [List.find?_cons_of_pos (by simp [named, column])]
          simp [mappingOf?, column]
      · have other : f.name ≠ name := same
        rw [if_neg same, List.find?_cons_of_neg (by simp [other])]
        exact ih
    | some owner =>
      have other : keyOf (some owner) f ≠ name := by
        intro same
        have plain := keyOf_uncut (same ▸ uncut)
        cases plain
      rw [show unscoped (some owner, f) = none from rfl]
      dsimp only
      rw [if_neg other]
      exact ih

theorem build_definition (built : Metadata.build d = .ok m) : m.definition = d := by
  unfold Metadata.build at built
  cases tables : Table.ofClauses d.type.name d.clauses with
  | error e => rw [tables] at built; cases built
  | ok tables => rw [tables] at built; cases built; rfl

/-- Keys that are written are names of visible fields. -/
theorem visible_of_written (built : Metadata.build d = .ok m) {key : String} {mapping : FieldMapping}
    (member : (key, mapping) ∈ m.fields) (written : mapping.isWritten) :
    ∃ f ∈ visible d.fields, f.name = key ∧ mappingOf? none f = some mapping := by
  obtain ⟨scope, f, entry, same, found⟩ := entry_of_mapping built member
  obtain ⟨column, isColumn, rfl⟩ := Option.map_eq_some_iff.mp found
  cases scope with
  | none => exact ⟨f, mem_visible_iff.mpr entry, same, found⟩
  | some owner => simp [FieldMapping.isWritten] at written

/-- The values of a type in an object. -/
def ownReadings : Fields → Slots → List (ValueField × Value)
  | .value f rest, .value v slots => (f, v) :: ownReadings rest slots
  | .nested _ _ rest, .present _ _ slots => ownReadings rest slots
  | .nested _ _ rest, .absent slots => ownReadings rest slots
  | .skipped _ rest, .skipped slots => ownReadings rest slots
  | _, _ => []

/-- The values of the bases, which are null where a base is absent. -/
def baseReadings : Fields → Slots → List (ValueField × Value)
  | .value _ rest, .value _ slots => baseReadings rest slots
  | .nested f inner rest, .present _ held slots =>
    (if f.role == .base then ownReadings inner held ++ baseReadings inner held else []) ++ baseReadings rest slots
  | .nested f inner rest, .absent slots =>
    (if f.role == .base then (visible inner).map fun g => (g, g.missing) else []) ++ baseReadings rest slots
  | .skipped _ rest, .skipped slots => baseReadings rest slots
  | _, _ => []

/-- What an object shows without a path. -/
def readings (d : Definition) (o : Object) : List (ValueField × Value) :=
  ownReadings d.fields o.slots ++ baseReadings d.fields o.slots

theorem ownReadings_fields {fields : Fields} {slots : Slots} (fit : fields.Fit slots) :
    (ownReadings fields slots).map (·.1) = ownFields fields := by
  induction fields generalizing slots with
  | nil => cases slots <;> rfl
  | value f rest ih =>
    cases slots with
    | value v slots => exact congrArg (f :: ·) (ih fit.2)
    | _ => cases fit
  | nested f inner rest _ ih =>
    cases slots with
    | present type held slots => exact ih fit.2.2
    | absent slots => exact ih fit.2
    | _ => cases fit
  | skipped name rest ih =>
    cases slots with
    | skipped slots => exact ih fit
    | _ => cases fit

theorem baseReadings_fields {fields : Fields} {slots : Slots} (fit : fields.Fit slots) :
    (baseReadings fields slots).map (·.1) = baseFields fields := by
  induction fields generalizing slots with
  | nil => cases slots <;> rfl
  | value f rest ih =>
    cases slots with
    | value v slots => exact ih fit.2
    | _ => cases fit
  | nested f inner rest ihInner ih =>
    cases slots with
    | present type held slots =>
      rw [baseReadings, List.map_append, ih fit.2.2, baseFields]
      congr 1
      split
      · rw [List.map_append, ownReadings_fields fit.2.1, ihInner fit.2.1]
      · rfl
    | absent slots =>
      rw [baseReadings, List.map_append, ih fit.2, baseFields]
      congr 1
      split
      · rw [List.map_map]
        exact List.map_id _
      · rfl
    | _ => cases fit
  | skipped name rest ih =>
    cases slots with
    | skipped slots => exact ih fit
    | _ => cases fit

theorem readings_fields {o : Object} (of : o.IsOf d) : (readings d o).map (·.1) = visible d.fields := by
  rw [readings, List.map_append, ownReadings_fields of.2, baseReadings_fields of.2, visible]

private theorem getD_or_read {α β : Type} (own : Option α) (base : Option β) (read : α → β) :
    (own.map fun a => some (read a)).getD base = (own.map read).or base := by
  cases own <;> rfl

private theorem ownFields_absent {fields : Fields} {name : String} (fresh : name ∉ fieldNames fields) :
    (ownFields fields).find? (·.name == name) = none := by
  induction fields with
  | nil => rfl
  | value f rest ih =>
    have other : f.name ≠ name := fun same => fresh (same ▸ .head _)
    rw [ownFields, List.find?_cons_of_neg (by simpa using other)]
    exact ih fun member => fresh (.tail _ member)
  | nested f inner rest _ ih => exact ih fun member => fresh (.tail _ member)
  | skipped other rest ih => exact ih fun member => fresh (.tail _ member)

private theorem ownReadings_absent {fields : Fields} {name : String} (fresh : name ∉ fieldNames fields) {slots : Slots}
    (fit : fields.Fit slots) : (ownReadings fields slots).find? (·.1.name == name) = none := by
  have absent := ownFields_absent fresh
  rwa [← ownReadings_fields fit, List.find?_map, Option.map_eq_none_iff] at absent

theorem ownNull_eq {fields : Fields} (distinct : Distinct fields) (name : String) :
    fields.ownNull name [] = ((ownFields fields).find? (·.name == name)).map fun f => some f.missing := by
  induction fields with
  | nil => rfl
  | value f rest ih =>
    obtain ⟨fresh, distinct⟩ := List.nodup_cons.mp distinct
    rw [ownNull, ownFields]
    by_cases same : f.name = name
    · rw [if_pos (by simpa using same), List.find?_cons_of_pos (by simpa using same)]
      rfl
    · rw [if_neg (by simpa using same), List.find?_cons_of_neg (by simpa using same)]
      exact ih distinct
  | nested f inner rest _ ih =>
    obtain ⟨fresh, distinct⟩ := List.nodup_cons.mp distinct
    unfold ownNull
    rw [ownFields]
    by_cases same : f.name = name
    · rw [if_pos (by simpa using same), ownFields_absent (same ▸ fresh)]
      cases f.role <;> rfl
    · rw [if_neg (by simpa using same)]
      exact ih distinct
  | skipped other rest ih =>
    obtain ⟨fresh, distinct⟩ := List.nodup_cons.mp distinct
    rw [ownNull, ownFields]
    by_cases same : other = name
    · rw [if_pos (by simpa using same), ownFields_absent (same ▸ fresh)]
      rfl
    · rw [if_neg (by simpa using same)]
      exact ih distinct

theorem baseNull_eq {fields : Fields} (distinct : InNested Distinct fields) (name : String) :
    fields.baseNull name [] = ((baseFields fields).find? (·.name == name)).map (·.missing) := by
  induction fields with
  | nil => rfl
  | value f rest ih => exact ih distinct
  | nested f inner rest ihInner ih =>
    obtain ⟨⟨own, deeper⟩, distinct⟩ := distinct
    rw [baseNull, baseFields, List.find?_append, Option.map_or, ih distinct]
    cases role : f.role with
    | base =>
      rw [ownNull_eq own, ihInner deeper, getD_or_read, ← Option.map_or, ← List.find?_append]
      rfl
    | embedded => rfl
  | skipped other rest ih => exact ih distinct

theorem nullAt_eq {fields : Fields} (distinct : EveryType Distinct fields) (name : String) :
    fields.nullAt [name] = ((visible fields).find? (·.name == name)).map (·.missing) := by
  rw [nullAt, ownNull_eq distinct.1, baseNull_eq distinct.2, getD_or_read, visible, List.find?_append, Option.map_or]

theorem ownValue_eq {fields : Fields} (distinct : Distinct fields) {slots : Slots} (fit : fields.Fit slots) (name : String) :
    fields.ownValue slots name [] = ((ownReadings fields slots).find? (·.1.name == name)).map fun shown => some shown.2 := by
  induction fields generalizing slots with
  | nil => cases slots <;> rfl
  | value f rest ih =>
    obtain ⟨fresh, distinct⟩ := List.nodup_cons.mp distinct
    cases slots with
    | value v slots =>
      rw [ownValue, ownReadings]
      by_cases same : f.name = name
      · rw [if_pos (by simpa using same), List.find?_cons_of_pos (by simpa using same)]
        rfl
      · rw [if_neg (by simpa using same), List.find?_cons_of_neg (by simpa using same)]
        exact ih distinct fit.2
    | _ => cases fit
  | nested f inner rest _ ih =>
    obtain ⟨fresh, distinct⟩ := List.nodup_cons.mp distinct
    cases slots with
    | present type held slots =>
      unfold ownValue
      rw [ownReadings]
      by_cases same : f.name = name
      · rw [if_pos (by simpa using same), ownReadings_absent (same ▸ fresh) fit.2.2]
        cases f.role <;> rfl
      · rw [if_neg (by simpa using same)]
        exact ih distinct fit.2.2
    | absent slots =>
      rw [ownValue, ownReadings]
      by_cases same : f.name = name
      · rw [if_pos (by simpa using same), ownReadings_absent (same ▸ fresh) fit.2]
        cases f.role <;> rfl
      · rw [if_neg (by simpa using same)]
        exact ih distinct fit.2
    | _ => cases fit
  | skipped other rest ih =>
    obtain ⟨fresh, distinct⟩ := List.nodup_cons.mp distinct
    cases slots with
    | skipped slots =>
      rw [ownValue, ownReadings]
      by_cases same : other = name
      · rw [if_pos (by simpa using same), ownReadings_absent (same ▸ fresh) (show rest.Fit slots from fit)]
        rfl
      · rw [if_neg (by simpa using same)]
        exact ih distinct fit
    | _ => cases fit

theorem baseValue_eq {fields : Fields} (distinct : InNested Distinct fields) {slots : Slots} (fit : fields.Fit slots)
    (name : String) :
    fields.baseValue slots name [] = ((baseReadings fields slots).find? (·.1.name == name)).map (·.2) := by
  induction fields generalizing slots with
  | nil => cases slots <;> rfl
  | value f rest ih =>
    cases slots with
    | value v slots => exact ih distinct fit.2
    | _ => cases fit
  | nested f inner rest ihInner ih =>
    obtain ⟨inside, distinct⟩ := distinct
    cases slots with
    | present type held slots =>
      obtain ⟨rfl, fitHeld, fit⟩ := fit
      rw [baseValue, baseReadings, List.find?_append, Option.map_or, ih distinct fit]
      cases f.role with
      | base =>
        rw [if_pos (beq_self_eq_true _), ownValue_eq inside.1 fitHeld, ihInner inside.2 fitHeld, getD_or_read, ← Option.map_or,
          ← List.find?_append]
        rfl
      | embedded => rfl
    | absent slots =>
      rw [baseValue, baseReadings, List.find?_append, Option.map_or, ih distinct fit.2, nullAt_eq inside]
      cases f.role with
      | base =>
        rw [if_pos (beq_self_eq_true Role.base), List.find?_map, Option.map_map]
        rfl
      | embedded => rfl
    | _ => cases fit
  | skipped other rest ih =>
    cases slots with
    | skipped slots => exact ih distinct fit
    | _ => cases fit

theorem read_uncut (distinct : EveryType Distinct d.fields) {o : Object} (of : o.IsOf d) {name : String} (uncut : Uncut name) :
    d.read o name = ((readings d o).find? (·.1.name == name)).map (·.2) := by
  rw [Definition.read, if_neg (by simp [of.1]), pathNames_uncut uncut]
  dsimp only
  rw [ownValue_eq distinct.1 of.2, baseValue_eq distinct.2 of.2, getD_or_read, readings, List.find?_append, Option.map_or]

/-- Every visible field can be read. -/
theorem read_isSome (distinct : EveryType Distinct d.fields) {o : Object} (of : o.IsOf d) {f : ValueField}
    (member : f ∈ visible d.fields) (uncut : Uncut f.name) : (d.read o f.name).isSome := by
  rw [read_uncut distinct of uncut, Option.isSome_map, List.find?_isSome]
  rw [← readings_fields of, List.mem_map] at member
  obtain ⟨shown, member, rfl⟩ := member
  exact ⟨shown, member, beq_self_eq_true _⟩

theorem read_other {o : Object} (other : o.type ≠ d.type.id) (path : String) : d.read o path = none := by
  rw [Definition.read, if_pos (by simpa using other)]

end EntityMapping.Proofs.VisibleFields
