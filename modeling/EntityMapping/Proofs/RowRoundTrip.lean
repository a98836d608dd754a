import EntityMapping.Proofs.EntityWrites
import EntityMapping.Proofs.FieldRegistration
import EntityMapping.Proofs.PathReading

/-! Rows that carry the values of an entity under the aliases of its keys. Mapped to another entity of the type they make it
read like the first on these keys, and leave it as it was on all others. -/

namespace EntityMapping.Proofs.RowRoundTrip
open Entity Rows Naming EntityPlaces EntityWrites NamingRoundTrip SetterResolution SetterSearch PathReading FieldRegistration

private theorem eq_null {s : Scalar} {v : Value} (kind : v.sameKind s.null) (null : v.isNull) : v = s.null := by
  cases v with
  | null => cases s <;> exact absurd kind (by decide)
  | _ content =>
    cases content with
    | some => cases null
    | none => cases s <;> first | rfl | exact absurd kind (by decide +kernel)

private theorem convert_scalar {s : Scalar} {v : Value} (kind : v.sameKind s.null) (some : v.isNull = false) :
    s.convert v = .ok v := by
  cases v with
  | null => cases some
  | _ content =>
    cases content with
    | none => cases some
    | some => cases s <;> first | rfl | exact absurd kind (by simp [Value.sameKind, Value.typeName, Scalar.null])

theorem store_holds {f : ValueField} {v : Value} (holds : Holds f v) (owner : TypeName) : f.store owner v = .ok v := by
  obtain ⟨kind, nullable⟩ := holds
  have converted : f.target.convert v = .ok v := by
    unfold ValueField.target
    cases null : v.isNull with
    | true =>
      rw [if_pos (nullable null), Target.convert, if_pos null, eq_null kind null]
      rfl
    | false =>
      split
      · rw [Target.convert, if_neg (by simp [null])]
        exact convert_scalar kind null
      · exact convert_scalar kind null
  rw [ValueField.store, converted]

theorem assign_spec {d : Definition} {s : Setter} {scope : Option String} (leads : Leads d.type d.fields scope s)
    (assignable : s.field.settable ∧ s.field.mappable) {v : Value} (holds : Holds s.field v) {o : Object}
    (whole : WholeOf o d) :
    ∃ changed, s.assign o v = .ok changed ∧ WholeOf changed d ∧ valueAt changed.slots s.hops s.position = v ∧
      ∀ hops position, (hops, position) ≠ (s.hops, s.position) → valueAt changed.slots hops position = valueAt o.slots hops position := by
  obtain ⟨last, lands, there⟩ := leads
  obtain ⟨sameType, whole⟩ := whole
  obtain ⟨slots, followed, wholeSlots, self, others⟩ := follow_spec (store_holds holds s.owner) holds there lands whole
  refine ⟨{ o with slots }, ?_, ⟨sameType, wholeSlots⟩, self, others⟩
  have null : ¬(v.isNull && !s.field.nullable) = true := by
    cases isNull : v.isNull with
    | false => simp
    | true => simp [holds.2 isNull]
  rw [Setter.assign, if_neg (by simp [assignable]), if_neg null, sameType, followed]
  rfl

/-- The setter that the alias of a key finds, at the place where the key is read. -/
structure KeySetter (d : Definition) (key : String) (s : Setter) : Prop where
  found : findSetter? d (labelParts (columnName key)).1 (labelParts (columnName key)).2 = some s
  leads : ∃ scope, Leads d.type d.fields scope s ∧ FieldIndex.keyOf scope s.field = key
  reads : ∀ o, WholeOf o d → d.read o key = some (valueAt o.slots s.hops s.position)

variable {d : Definition}

private theorem keySetter_of_value (named : EveryType WellNamed d.fields) {f : ValueField}
    (member : (none, f) ∈ d.fields.entries) : ∃ s, KeySetter d f.name s := by
  have form := (entry_named named member).1
  obtain ⟨s, found⟩ := Option.isSome_iff_exists.mp (findSetter?_of_entry member)
  obtain ⟨scope, leads, fit, plain, _⟩ := findSetter?_spec found
  cases plain rfl
  have same := (form.fits_columnName (leads_named named leads).1).mp fit
  refine ⟨s, ?_, ⟨none, leads, same⟩, fun o whole => ?_⟩
  · rw [labelParts_column form, found]
  · rw [read_name named whole form, found, Option.map_some]

private theorem keySetter_of_embedded (named : EveryType WellNamed d.fields)
    (flat : ∀ entry ∈ embeddings d.fields, OnlyValues entry.2) (distinct : ((embeddings d.fields).map (·.1)).Nodup)
    {owner : String} {f : ValueField} (member : (some owner, f) ∈ d.fields.entries) :
    ∃ s, KeySetter d (owner ++ "$" ++ f.name) s := by
  obtain ⟨form, ownerForm⟩ := entry_named named member
  have ownerForm := ownerForm owner rfl
  obtain ⟨inner, entry, leaf⟩ := embeddings_of_entry member
  have only := flat _ entry
  obtain ⟨⟨hops, type, inner⟩, embedded, rfl⟩ := Option.map_eq_some_iff.mp
    ((embedded?_lookup named ownerForm).trans (lookup_of_mem distinct entry))
  obtain ⟨inside, found⟩ := Option.isSome_iff_exists.mp (setter?_of_leaf (fits_own f.name) leaf type 0)
  have setter : findSetter? d (columnName owner) (columnName f.name) = some { inside with hops := hops ++ inside.hops } := by
    rw [findSetter?_under d ownerForm.columnName_ne_empty, embedded, Option.bind_some]
    simp only [searched?, found, Option.map_some]
  obtain ⟨scope, leads, fit, _, under⟩ := findSetter?_spec setter
  obtain ⟨name, rfl, called⟩ := under ownerForm.columnName_ne_empty
  obtain ⟨fieldForm, scopeForm⟩ := leads_named named leads
  have same := (form.fits_columnName fieldForm).mp fit
  have sameOwner := (ownerForm.fits_columnName (scopeForm name rfl)).mp called
  refine ⟨_, ?_, ⟨some name, leads, ?_⟩, fun o whole => ?_⟩
  · rw [labelParts_key ownerForm form, setter]
  · rw [FieldIndex.keyOf, same, sameOwner]
    rfl
  · rw [read_key named whole ownerForm form embedded only (List.mem_map_of_mem leaf), setter, Option.map_some]

theorem exists_keySetter {m : Metadata} (built : Metadata.build d = .ok m) (named : EveryType WellNamed d.fields)
    (flat : ∀ entry ∈ embeddings d.fields, OnlyValues entry.2) (distinct : ((embeddings d.fields).map (·.1)).Nodup)
    {key : String} (registered : key ∈ m.fields.map (·.1)) : ∃ s, KeySetter d key s := by
  obtain ⟨scope, f, member, rfl⟩ := entry_of_key built registered
  cases scope with
  | none => exact keySetter_of_value named member
  | some owner => exact keySetter_of_embedded named flat distinct member

theorem assignColumn_key {key : String} {s : Setter} (setter : KeySetter d key s)
    (assignable : ∀ f ∈ d.fields.leaves, f.settable ∧ f.mappable) {e o : Object} (source : WholeOf e d)
    (whole : WholeOf o d) {state : MapperState} (answers : Answers state.setters d) :
    ∃ changed setters, assignColumn d o (columnName key) ((d.read e key).getD .null) state = (changed, ⟨setters, state.counts.recordSet⟩) ∧
      WholeOf changed d ∧ Answers setters d ∧ d.read changed key = d.read e key ∧
      ∀ other s', KeySetter d other s' → other ≠ key → d.read changed other = d.read o other := by
  obtain ⟨scope, leads, named⟩ := setter.leads
  obtain ⟨changed, assigned, wholeChanged, self, others⟩ :=
    assign_spec leads (assignable _ leads.mem_leaves) (leads.holds source.2) whole
  have resolved := answers.resolve (labelParts (columnName key)).1 (labelParts (columnName key)).2
  rw [setter.found] at resolved
  refine ⟨changed, (state.setters.resolve d (labelParts (columnName key)).1 (labelParts (columnName key)).2).2, ?_, wholeChanged,
    answers.after (fun _ => rfl) _ _, ?_, ?_⟩
  · simp only [assignColumn, resolved, setter.reads e source, Option.getD_some, Option.elim_some, assigned]
  · rw [setter.reads changed wholeChanged, setter.reads e source, self]
  · intro other s' setter' different
    rw [setter'.reads changed wholeChanged, setter'.reads o whole, others]
    intro same
    obtain ⟨scope', leads', named'⟩ := setter'.leads
    injection same with hops position
    obtain ⟨sameScope, sameField⟩ := leads'.unique leads hops position
    exact different (by rw [← named', ← named, sameScope, sameField])

theorem foldl_keys (assignable : ∀ f ∈ d.fields.leaves, f.settable ∧ f.mappable) {e : Object} (source : WholeOf e d)
    {keys : List String} (settled : ∀ key ∈ keys, ∃ s, KeySetter d key s) {o : Object} (whole : WholeOf o d)
    (state : MapperState) (answers : Answers state.setters d) :
    ∃ changed setters, (keys.map fun key => (columnName key, (d.read e key).getD .null)).foldl
        (fun (o, state) (label, v) => assignColumn d o label v state) (o, state) =
          (changed, ⟨setters, { state.counts with columnsSet := state.counts.columnsSet + keys.length }⟩) ∧
      (∀ key ∈ keys, d.read changed key = d.read e key) ∧
      ∀ other s, KeySetter d other s → other ∉ keys → d.read changed other = d.read o other := by
  induction keys generalizing o state with
  | nil =>
    refine ⟨o, state.setters, rfl, ?_, fun _ _ _ _ => rfl⟩
    intro key member
    cases member
  | cons key keys ih =>
    obtain ⟨s, setter⟩ := settled key (.head _)
    obtain ⟨first, setters, step, wholeFirst, answersFirst, self, others⟩ := assignColumn_key setter assignable source whole answers
    obtain ⟨changed, setters, run, reads, kept⟩ := ih (fun other member => settled other (.tail _ member)) wholeFirst
      ⟨setters, state.counts.recordSet⟩ answersFirst
    refine ⟨changed, setters, ?_, ?_, ?_⟩
    · rw [List.map_cons, List.foldl_cons]
      dsimp only
      rw [step, run]
      simp only [MappingCounts.recordSet, List.length_cons, Nat.add_assoc, Nat.add_comm 1]
    · intro other member
      by_cases again : other ∈ keys
      · exact reads other again
      · cases member with
        | head => rw [kept key s setter again, self]
        | tail _ member => exact absurd member again
    · intro other s' setter' absent
      rw [kept other s' setter' fun member => absent (.tail _ member), others other s' setter' fun same => absent (same ▸ .head _)]

/-- Every list of keys can be selected from one entity and mapped to another: the row of its values under the aliases sets
these keys and no others. -/
theorem mapRowInto_selected {m : Metadata} (built : Metadata.build d = .ok m) (named : EveryType WellNamed d.fields)
    (assignable : ∀ f ∈ d.fields.leaves, f.settable ∧ f.mappable)
    (flat : ∀ entry ∈ embeddings d.fields, OnlyValues entry.2) (distinct : ((embeddings d.fields).map (·.1)).Nodup)
    {e blank : Object} (source : WholeOf e d) (whole : WholeOf blank d) {keys : List String}
    (registered : ∀ key ∈ keys, key ∈ m.fields.map (·.1)) {lookups : List (Definition × String × String)}
    (own : ∀ l ∈ lookups, l.1.type.id = d.type.id → l.1 = d) (counts : MappingCounts) :
    ∃ values changed setters, keys.map (d.read e) = values.map some ∧
      mapRowInto d blank ⟨keys.map columnName, values⟩ ⟨filledBy lookups, counts⟩ =
        (changed, ⟨setters, { counts with rows := counts.rows + 1, columnsSet := counts.columnsSet + keys.length }⟩) ∧
      (∀ key ∈ keys, d.read changed key = d.read e key) ∧
      ∀ key ∈ m.fields.map (·.1), key ∉ keys → d.read changed key = d.read blank key := by
  have settled := fun key member => exists_keySetter built named flat distinct (registered key member)
  obtain ⟨changed, setters, run, reads, kept⟩ := foldl_keys assignable source settled whole
    ⟨filledBy lookups, counts⟩ (answers_filledBy own)
  refine ⟨keys.map fun key => (d.read e key).getD .null, changed, setters, ?_, ?_, reads, ?_⟩
  · rw [List.map_map]
    apply List.map_congr_left
    intro key member
    obtain ⟨s, setter⟩ := settled key member
    rw [Function.comp_apply, setter.reads e source]
    rfl
  · rw [mapRowInto, Row.cells, List.zip_map', run]
    rfl
  · intro key member absent
    obtain ⟨s, setter⟩ := exists_keySetter built named flat distinct member
    exact kept key s setter absent

/-- An own value, an embedded entity, and a base with a value of its own and one that is hidden. -/
def account : Definition where
  type := ⟨0, "Account"⟩
  clauses := ⟨some "T_ACCOUNT", none, none, none⟩
  fields := .value ⟨"age", none, false, .int32, false, true⟩
    (.nested ⟨"addr", .embedded, true, ⟨1, "Address"⟩⟩ (.value ⟨"city", none, false, .text, true, true⟩ .nil)
      (.nested ⟨"audit", .base, false, ⟨2, "Audit"⟩⟩
        (.value ⟨"age", none, false, .text, true, true⟩ (.value ⟨"createdBy", none, true, .text, true, true⟩ .nil)) .nil))

def accountObject (age : Int32) (city hidden createdBy : String) : Object where
  type := 0
  slots := .value (.int32 (some age)) (.present 1 (.value (.varchar (some city)) .nil)
    (.present 2 (.value (.varchar (some hidden)) (.value (.varchar (some createdBy)) .nil)) .nil))

theorem mapRowInto_account :
    ∃ m values changed setters, Metadata.build account = .ok m ∧
    ["createdBy", "addr$city"].map (account.read (accountObject 7 "Rome" "x" "me")) = values.map some ∧
    mapRowInto account (accountObject 0 "" "" "") ⟨["createdBy", "addr$city"].map columnName, values⟩
        ⟨filledBy [(account, "", "AGE")], {}⟩ = (changed, ⟨setters, { rows := 1, columnsSet := 2 }⟩) ∧
    account.read changed "createdBy" = account.read (accountObject 7 "Rome" "x" "me") "createdBy" ∧
    account.read changed "age" = account.read (accountObject 0 "" "" "") "age" := by
  have built : Metadata.build account = .ok (Metadata.ofTables account [⟨"T_ACCOUNT", "T_ACCOUNT"⟩]) := rfl
  have whole : ∀ age city hidden createdBy, WholeOf (accountObject age city hidden createdBy) account := by
    intro age city hidden createdBy
    simp [WholeOf, Whole, Holds, account, accountObject, Value.sameKind, Value.typeName, Scalar.null, Value.isNull]
  have registered : ∀ key ∈ ["createdBy", "addr$city", "age"], key ∈ (Metadata.ofTables account [⟨"T_ACCOUNT", "T_ACCOUNT"⟩]).fields.map (·.1) := by
    intro key member
    rw [mem_keys_iff built, field?_build built]
    revert key
    decide +kernel
  have selected : ∀ key ∈ ["createdBy", "addr$city"], key ∈ ["createdBy", "addr$city", "age"] := by decide
  have own : ∀ l ∈ [(account, "", "AGE")], l.1.type.id = account.type.id → l.1 = account := by simp
  have named : EveryType WellNamed account.fields := by decide +kernel
  have flat : ∀ entry ∈ embeddings account.fields, OnlyValues entry.2 := by simp [embeddings, ownEmbeddings, baseEmbeddings, account, OnlyValues]
  obtain ⟨values, changed, setters, read, mapped, same, kept⟩ := mapRowInto_selected built named (by decide +kernel) flat (by decide +kernel)
    (whole 7 "Rome" "x" "me") (whole 0 "" "" "") (fun key member => registered key (selected key member)) own {}
  exact ⟨_, values, changed, setters, built, read, mapped, same _ (by decide), kept _ (registered _ (by decide)) (by decide)⟩

end EntityMapping.Proofs.RowRoundTrip
