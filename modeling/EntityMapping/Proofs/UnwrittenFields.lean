import EntityMapping.Proofs.MutationAlignment
import Mathlib.Data.List.Forall2
import Mathlib.Data.List.Nodup

/-! Two objects that differ in nothing that is written, and the mutations of both. They are the same unless a field without a
column hides another one of its name: the key is then registered for the other one, and reading takes the first. -/

namespace EntityMapping.Proofs.UnwrittenFields
open Entity FieldIndex Statement MutationAlignment VisibleFields FieldRegistration SetterResolution

/-- A field that is read only or has no column. -/
def Unwritten (f : ValueField) : Prop := f.readOnly ∨ columnOf? none f = none

instance : DecidablePred Unwritten := fun f => inferInstanceAs (Decidable (f.readOnly ∨ columnOf? none f = none))

/-- Objects that differ in fields that are not written, in skipped fields and in embedded entities only. -/
def SameWritten : Fields → Slots → Slots → Prop
  | .nil, .nil, .nil => True
  | .value f rest, .value v slots, .value v' slots' => (¬Unwritten f → v = v') ∧ SameWritten rest slots slots'
  | .nested f inner rest, .present _ held slots, .present _ held' slots' =>
    (f.role = .base → SameWritten inner held held') ∧ SameWritten rest slots slots'
  | .nested _ _ rest, .absent slots, .absent slots' => SameWritten rest slots slots'
  | .nested f _ rest, .present _ _ slots, .absent slots' => f.role = .embedded ∧ SameWritten rest slots slots'
  | .nested f _ rest, .absent slots, .present _ _ slots' => f.role = .embedded ∧ SameWritten rest slots slots'
  | .skipped _ rest, .skipped slots, .skipped slots' => SameWritten rest slots slots'
  | _, _, _ => False

/-- Reading takes a field that has no column, while registration passes it over and takes one that is written. -/
def Leaks (fields : Fields) (name : String) : Prop :=
  ∃ hidden f, (visible fields).find? (·.name == name) = some hidden ∧ columnOf? none hidden = none ∧
    mapped? fields name = some f ∧ f.readOnly = false

variable {d : Definition} {m : Metadata} {w : Mutation} {o o' : Object}

def Related (shown shown' : ValueField × Value) : Prop := shown.1 = shown'.1 ∧ (¬Unwritten shown.1 → shown.2 = shown'.2)

theorem ownReadings_related {fields : Fields} {slots slots' : Slots} (same : SameWritten fields slots slots') :
    List.Forall₂ Related (ownReadings fields slots) (ownReadings fields slots') := by
  fun_induction SameWritten fields slots slots' with
  | case1 => exact .nil
  | case2 f rest v slots v' slots' ih => exact .cons ⟨rfl, same.1⟩ (ih same.2)
  | case3 f inner rest _ held slots _ held' slots' _ ih => exact ih same.2
  | case4 f inner rest slots slots' ih => exact ih same
  | case5 f inner rest _ _ slots slots' ih => exact ih same.2
  | case6 f inner rest slots _ _ slots' ih => exact ih same.2
  | case7 name rest slots slots' ih => exact ih same
  | case8 => cases same

theorem baseReadings_related {fields : Fields} {slots slots' : Slots} (same : SameWritten fields slots slots') :
    List.Forall₂ Related (baseReadings fields slots) (baseReadings fields slots') := by
  fun_induction SameWritten fields slots slots' with
  | case1 => exact .nil
  | case2 f rest v slots v' slots' ih => exact ih same.2
  | case3 f inner rest _ held slots _ held' slots' ihInner ih =>
    apply List.rel_append _ (ih same.2)
    cases role : f.role with
    | base => exact List.rel_append (ownReadings_related (same.1 role)) (ihInner (same.1 role))
    | embedded => exact .nil
  | case4 f inner rest slots slots' ih =>
    apply List.rel_append _ (ih same)
    exact List.forall₂_same.mpr fun _ _ => ⟨rfl, fun _ => rfl⟩
  | case5 f inner rest _ _ slots slots' ih =>
    rw [baseReadings, baseReadings, same.1]
    exact ih same.2
  | case6 f inner rest slots _ _ slots' ih =>
    rw [baseReadings, baseReadings, same.1]
    exact ih same.2
  | case7 name rest slots slots' ih => exact ih same
  | case8 => cases same

theorem find?_related {shown shown' : List (ValueField × Value)} (related : List.Forall₂ Related shown shown') {name : String}
    {f : ValueField} {v : Value} (found : shown.find? (·.1.name == name) = some (f, v)) :
    ∃ v', shown'.find? (·.1.name == name) = some (f, v') ∧ (¬Unwritten f → v = v') := by
  induction related with
  | nil => cases found
  | @cons first first' rest rest' same _ ih =>
    obtain ⟨g, u⟩ := first
    obtain ⟨g', u'⟩ := first'
    obtain ⟨rfl, equal⟩ := same
    by_cases here : g.name = name
    · rw [List.find?_cons_of_pos (by simpa using here)] at found ⊢
      cases found
      exact ⟨u', rfl, equal⟩
    · rw [List.find?_cons_of_neg (by simpa using here)] at found ⊢
      exact ih found

theorem readings_related (same : SameWritten d.fields o.slots o'.slots) :
    List.Forall₂ Related (readings d o) (readings d o') :=
  List.rel_append (ownReadings_related same) (baseReadings_related same)

/-- The first field of a name is the one that is registered if it has a column. -/
theorem mapped?_first {fields : Fields} {name : String} {f : ValueField}
    (first : (visible fields).find? (·.name == name) = some f) (column : columnOf? none f ≠ none) :
    mapped? fields name = some f := by
  obtain ⟨named, before, after, shape, others⟩ := List.find?_eq_some_iff_append.mp first
  refine List.find?_eq_some_iff_append.mpr ⟨?_, before, after, shape, ?_⟩
  · rw [named, Bool.true_and]
    exact Option.isSome_iff_ne_none.mpr column
  · intro g member
    have other := others g member
    simp_all

/-- The first field of a written key is written, unless the key leaks. -/
theorem written_first (built : Metadata.build d = .ok m) {key : String} {mapping : FieldMapping} (uncut : Uncut key)
    (member : (key, mapping) ∈ m.fields) (written : mapping.isWritten) (sealed : ¬Leaks d.fields key) :
    ∃ f, (visible d.fields).find? (·.name == key) = some f ∧ ¬Unwritten f := by
  have registered := (mem_fields_iff built).mp member
  rw [field?_uncut built uncut] at registered
  obtain ⟨g, taken, isMapping⟩ := Option.bind_eq_some_iff.mp registered
  have writable : g.readOnly = false := by
    obtain ⟨column, _, rfl⟩ := Option.map_eq_some_iff.mp isMapping
    simpa [FieldMapping.isWritten] using written
  have named : g.name == key := by
    have found := List.find?_some taken
    exact (Bool.and_eq_true_iff.mp found).1
  have visibleSome : ((visible d.fields).find? (·.name == key)).isSome :=
    List.find?_isSome.mpr ⟨g, List.mem_of_find?_eq_some taken, named⟩
  obtain ⟨f, first⟩ := Option.isSome_iff_exists.mp visibleSome
  refine ⟨f, first, fun unwritten => ?_⟩
  by_cases column : columnOf? none f = none
  · exact sealed ⟨f, g, first, column, taken, writable⟩
  · rw [mapped?_first first column] at taken
    cases taken
    rcases unwritten with readOnly | missing
    · rw [writable] at readOnly
      cases readOnly
    · exact column missing

theorem read_same (built : Metadata.build d = .ok m) (distinct : EveryType Distinct d.fields) (of : o.IsOf d) (of' : o'.IsOf d)
    (same : SameWritten d.fields o.slots o'.slots) {key : String} {mapping : FieldMapping} (uncut : Uncut key)
    (member : (key, mapping) ∈ m.fields) (written : mapping.isWritten) (sealed : ¬Leaks d.fields key) :
    d.read o key = d.read o' key := by
  obtain ⟨f, first, kept⟩ := written_first built uncut member written sealed
  rw [← readings_fields of, List.find?_map, Option.map_eq_some_iff] at first
  obtain ⟨⟨f, v⟩, first, rfl⟩ := first
  obtain ⟨v', first', equal⟩ := find?_related (readings_related same) first
  have first : (readings d o).find? (·.1.name == key) = some (f, v) := first
  rw [read_uncut distinct of uncut, read_uncut distinct of' uncut, first, first', equal kept]

/-- Names that occur once do not leak. -/
theorem sealed_of_nodup {fields : Fields} (unique : ((visible fields).map (·.name)).Nodup) (name : String) :
    ¬Leaks fields name := by
  intro ⟨hidden, f, first, column, taken, _⟩
  have found := List.find?_some taken
  obtain ⟨named, hasColumn⟩ := Bool.and_eq_true_iff.mp found
  have sameName : f.name = hidden.name := by
    have hiddenNamed := List.find?_some first
    exact (beq_iff_eq.mp named).trans (beq_iff_eq.mp hiddenNamed).symm
  have same := List.inj_on_of_nodup_map unique (List.mem_of_find?_eq_some taken) (List.mem_of_find?_eq_some first) sameName
  rw [same, column] at hasColumn
  cases hasColumn

/-- What is written of both objects reads the same. -/
def ReadSame (m : Metadata) (o o' : Object) (fields : List (String × FieldMapping)) : Prop :=
  ∀ field ∈ fields, field.2.isWritten → m.definition.read o field.1 = m.definition.read o' field.1

theorem insertedColumns_same {fields : List (String × FieldMapping)} (same : ReadSame m o o' fields) :
    Mutation.insertedColumns m o fields = Mutation.insertedColumns m o' fields := by
  induction fields with
  | nil => rfl
  | cons field rest ih =>
    obtain ⟨key, mapping⟩ := field
    unfold Mutation.insertedColumns
    rw [ih fun field member => same field (.tail _ member)]
    split
    · rfl
    · next kept => rw [readField, readField, same (key, mapping) (.head _) (by simpa using kept)]

theorem assignments_same {fields : List (String × FieldMapping)} (same : ReadSame m o o' fields)
    (written : ∀ field ∈ fields, field.2.isWritten) (first : Bool) :
    Mutation.assignments m o first fields = Mutation.assignments m o' first fields := by
  induction fields generalizing first with
  | nil => rfl
  | cons field rest ih =>
    obtain ⟨key, mapping⟩ := field
    have head := same (key, mapping) (.head _) (written _ (.head _))
    have tail := ih (fun field member => same field (.tail _ member)) fun field member => written field (.tail _ member)
    simp only [Mutation.assignments, readField, head, tail]

theorem insert_same (same : ReadSame w.metadata o o' w.metadata.fields) : w.insert o = w.insert o' := by
  rw [Mutation.insert, Mutation.insert, insertedColumns_same same]

theorem update_same (same : ReadSame w.metadata o o' w.metadata.fields) (includes excludes filter : Option String) (q : Query) :
    (w.update o includes excludes filter).run.run q = (w.update o' includes excludes filter).run.run q := by
  rw [Mutation.update, Mutation.update, bind_run, bind_run, lift_run]
  cases selection : selectFields w.metadata includes excludes with
  | error e => rfl
  | ok picked =>
    have registered := (selectFields_spec selection).registered
    dsimp only
    generalize written : List.filter _ picked = fields
    have kept : ∀ field ∈ fields, field ∈ picked ∧ field.2.isWritten := by
      intro field member
      rw [← written] at member
      exact List.mem_filter.mp member
    have assigned : Mutation.assignments w.metadata o true fields = Mutation.assignments w.metadata o' true fields :=
      assignments_same (fun field member => same field (registered field (kept field member).1))
        (fun field member => (kept field member).2) true
    cases fields with
    | nil => rfl
    | cons field rest => simp only [bind_run, text_run, assigned]

/-- Slots that hold a value for every field, with nothing missing. -/
def sample (value : ValueField → Value) : Fields → Slots
  | .nil => .nil
  | .value f rest => .value (value f) (sample value rest)
  | .nested f inner rest => .present f.type.id (sample value inner) (sample value rest)
  | .skipped _ rest => .skipped (sample value rest)

theorem sample_fit {value : ValueField → Value} (kinds : ∀ f, (value f).sameKind f.scalar.null) (fields : Fields) :
    fields.Fit (sample value fields) := by
  induction fields with
  | nil => trivial
  | value f rest ih => exact ⟨kinds f, ih⟩
  | nested f inner rest ihInner ih => exact ⟨rfl, ihInner, ih⟩
  | skipped name rest ih => exact ih

theorem sample_same {value value' : ValueField → Value} (agree : ∀ f, ¬Unwritten f → value f = value' f)
    (fields : Fields) : SameWritten fields (sample value fields) (sample value' fields) := by
  induction fields with
  | nil => trivial
  | value f rest ih => exact ⟨agree f, ih⟩
  | nested f inner rest ihInner ih => exact ⟨fun _ => ihInner, ih⟩
  | skipped name rest ih => exact ih

theorem ownReadings_sample (value : ValueField → Value) (fields : Fields) :
    ownReadings fields (sample value fields) = (ownFields fields).map fun f => (f, value f) := by
  induction fields with
  | nil => rfl
  | value f rest ih => exact congrArg (_ :: ·) ih
  | nested f inner rest _ ih => exact ih
  | skipped name rest ih => exact ih

theorem baseReadings_sample (value : ValueField → Value) (fields : Fields) :
    baseReadings fields (sample value fields) = (baseFields fields).map fun f => (f, value f) := by
  induction fields with
  | nil => rfl
  | value f rest ih => exact ih
  | nested f inner rest ihInner ih =>
    rw [sample, baseReadings, baseFields, List.map_append, ih]
    congr 1
    split
    · rw [List.map_append, ownReadings_sample, ihInner]
    · rfl
  | skipped name rest ih => exact ih

def sampleObject (d : Definition) (value : ValueField → Value) : Object := ⟨d.type.id, sample value d.fields⟩

theorem read_sample (distinct : EveryType Distinct d.fields) {value : ValueField → Value}
    (kinds : ∀ f, (value f).sameKind f.scalar.null) {name : String} (uncut : Uncut name) :
    d.read (sampleObject d value) name = ((visible d.fields).find? (·.name == name)).map value := by
  have shows : readings d (sampleObject d value) = (visible d.fields).map fun f => (f, value f) := by
    rw [readings, sampleObject, ownReadings_sample, baseReadings_sample, visible, List.map_append]
  rw [read_uncut distinct ⟨rfl, sample_fit kinds d.fields⟩ uncut, shows, List.find?_map, Option.map_map]
  rfl

def blank (f : ValueField) : Value := f.scalar.null

/-- A value for the fields that are not written. -/
def marked (f : ValueField) : Value := if Unwritten f then initialValue f.scalar else f.scalar.null

theorem isNull_blank (f : ValueField) : (blank f).isNull := by
  unfold blank
  cases f.scalar <;> rfl

theorem blank_kind (f : ValueField) : (blank f).sameKind f.scalar.null := by
  unfold blank
  cases f.scalar <;> rfl

theorem marked_kind (f : ValueField) : (marked f).sameKind f.scalar.null := by
  unfold marked
  split
  · cases f.scalar <;> rfl
  · exact blank_kind f

theorem isNull_initialValue (s : Scalar) : (initialValue s).isNull = false := by
  cases s <;> rfl

theorem inserted_blank (built : Metadata.build d = .ok m) (distinct : EveryType Distinct d.fields)
    (uncut : ∀ f ∈ visible d.fields, Uncut f.name) : inserted m (sampleObject d blank) = [] := by
  apply List.filterMap_eq_nil_iff.mpr
  intro ⟨key, mapping⟩ member
  unfold inserted?
  split
  · next written =>
    obtain ⟨g, visible, rfl, _⟩ := visible_of_written built member written
    rw [build_definition built, read_sample distinct blank_kind (uncut g visible)]
    cases (VisibleFields.visible d.fields).find? (·.name == g.name) with
    | none => rfl
    | some f => simp [isNull_blank]
  · rfl

theorem inserted_marked (built : Metadata.build d = .ok m) (distinct : EveryType Distinct d.fields)
    (uncut : ∀ f ∈ visible d.fields, Uncut f.name) {name : String} (leaks : Leaks d.fields name) :
    inserted m (sampleObject d marked) ≠ [] := by
  obtain ⟨hidden, f, first, column, taken, writable⟩ := leaks
  have named : hidden.name = name := by simpa using List.find?_some first
  have uncut : Uncut name := named ▸ uncut hidden (List.mem_of_find?_eq_some first)
  have found := List.find?_some taken
  obtain ⟨shown, isColumn⟩ := Option.isSome_iff_exists.mp (Bool.and_eq_true_iff.mp found).2
  have registered : (name, (⟨shown, false, false⟩ : FieldMapping)) ∈ m.fields := by
    rw [mem_fields_iff built, field?_uncut built uncut, taken, Option.bind_some, mappingOf?, isColumn, writable]
    rfl
  have read : m.definition.read (sampleObject d marked) name = some (initialValue hidden.scalar) := by
    rw [build_definition built, read_sample distinct marked_kind uncut, first, Option.map_some, marked,
      if_pos (.inr column)]
  intro nothing
  have passed := List.filterMap_eq_nil_iff.mp nothing _ registered
  simp [inserted?, FieldMapping.isWritten, read, isNull_initialValue] at passed

/-- Two objects that differ in nothing that is written have the same mutations, exactly when no key leaks. -/
theorem mutations_same_iff (built : Metadata.build d = .ok m) (gate : Mutation.of m = .ok w)
    (distinct : EveryType Distinct d.fields) (uncut : ∀ f ∈ visible d.fields, Uncut f.name) :
    (∀ o o', o.IsOf d → o'.IsOf d → SameWritten d.fields o.slots o'.slots → ∀ q,
      (w.insert o).run.run q = (w.insert o').run.run q ∧
      ∀ includes excludes filter,
        (w.update o includes excludes filter).run.run q = (w.update o' includes excludes filter).run.run q) ↔
    ∀ name, ¬Leaks d.fields name := by
  obtain ⟨table, _, rfl⟩ := of_ok gate
  constructor
  · intro agree name leaks
    have ofMarked : (sampleObject d marked).IsOf d := ⟨rfl, sample_fit marked_kind _⟩
    have ofBlank : (sampleObject d blank).IsOf d := ⟨rfl, sample_fit blank_kind _⟩
    have unseen : SameWritten d.fields (sample marked d.fields) (sample blank d.fields) := sample_same (fun f kept => if_neg kept) _
    have results := congrArg (·.1) (agree (sampleObject d marked) (sampleObject d blank) ofMarked ofBlank unseen .empty).1
    rw [insert_run (readable_of built distinct uncut ofMarked), insert_run (readable_of built distinct uncut ofBlank),
      if_neg (inserted_marked built distinct uncut leaks), if_pos (inserted_blank built distinct uncut)] at results
    cases results
  · intro sealed o o' of of' same q
    have reads : ReadSame m o o' m.fields := by
      intro ⟨key, mapping⟩ member written
      obtain ⟨g, visible, rfl, _⟩ := visible_of_written built member written
      rw [build_definition built]
      exact read_same built distinct of of' same (uncut g visible) member written (sealed _)
    exact ⟨by rw [insert_same reads], fun includes excludes filter => update_same reads includes excludes filter q⟩

/-- A field that has no column, and a base with a field of the given name. -/
def holder (inherited : String) : Definition where
  type := ⟨0, "Holder"⟩
  clauses := ⟨some "T_HOLDER", none, none, none⟩
  fields := .value ⟨"id", none, false, .text, true, true⟩ (.value ⟨"secret", some "-", false, .text, true, true⟩
    (.nested ⟨"shared", .base, false, ⟨1, "Shared"⟩⟩ (.value ⟨inherited, none, false, .text, true, true⟩ .nil) .nil))

def holding (secret : Option String) : Object where
  type := 0
  slots := .value (.varchar (some "7")) (.value (.varchar secret) (.present 1 (.value (.varchar none) .nil) .nil))

def holderMetadata (inherited : String) : Metadata := .ofTables (holder inherited) [⟨"T_HOLDER", "T_HOLDER"⟩]

private theorem holding_fit (inherited : String) (secret : Option String) : (holding secret).IsOf (holder inherited) := by
  simp [Object.IsOf, holding, holder, Fields.Fit, Value.sameKind, Value.typeName, Scalar.null]

private theorem holding_same (inherited : String) (secret secret' : Option String) :
    SameWritten (holder inherited).fields (holding secret).slots (holding secret').slots := by
  have unwritten : Unwritten ⟨"secret", some "-", false, .text, true, true⟩ := .inr (by decide +kernel)
  exact ⟨fun _ => rfl, fun kept => absurd unwritten kept, fun _ => ⟨fun _ => rfl, trivial⟩, trivial⟩

theorem mutations_same_holder :
    (Mutation.insert ⟨holderMetadata "note", "T_HOLDER"⟩ (holding (some "hidden"))).run.run .empty =
      (Mutation.insert ⟨holderMetadata "note", "T_HOLDER"⟩ (holding none)).run.run .empty := by
  have unique : ((visible (holder "note").fields).map (·.name)).Nodup := by decide +kernel
  have agree := (mutations_same_iff (w := ⟨holderMetadata "note", "T_HOLDER"⟩) (d := holder "note") rfl rfl
    (by decide +kernel) (by decide +kernel)).mpr (sealed_of_nodup unique)
  exact (agree _ _ (holding_fit _ _) (holding_fit _ _) (holding_same _ _ _) _).1

/-- The content of the field without a column is written to the column of the base. -/
theorem holder_leaks :
    ∃ m w, Metadata.build (holder "secret") = .ok m ∧ Mutation.of m = .ok w ∧
      EveryType Distinct (holder "secret").fields ∧
      (∀ secret, (holding secret).IsOf (holder "secret")) ∧
      SameWritten (holder "secret").fields (holding (some "leaked")).slots (holding none).slots ∧
      (w.insert (holding (some "leaked"))).run.run .empty ≠ (w.insert (holding none)).run.run .empty := by
  refine ⟨holderMetadata "secret", ⟨_, "T_HOLDER"⟩, rfl, rfl, by decide +kernel, holding_fit _, holding_same _ _ _, ?_⟩
  intro same
  have first : ((Mutation.insert ⟨holderMetadata "secret", "T_HOLDER"⟩ (holding (some "leaked"))).run.run .empty).2.sql =
      "insert into T_HOLDER(ID,SECRET) values (?,?)" := by cbv
  have second : ((Mutation.insert ⟨holderMetadata "secret", "T_HOLDER"⟩ (holding none)).run.run .empty).2.sql =
      "insert into T_HOLDER(ID) values (?)" := by cbv
  rw [same, second] at first
  revert first
  decide

end EntityMapping.Proofs.UnwrittenFields
