import EntityMapping.Proofs.FieldRegistration
import EntityMapping.Proofs.SetterResolution
import Mathlib.Data.List.Find

/-! Names that come up twice inside an embedded entity. The metadata take the first field of the name in the order of
declaration, nested entities included, while the search for a setter takes the own fields of a type before those nested in it.
The two agree exactly where no nested entity comes first with a name that the type has itself. -/

namespace EntityMapping.Proofs.EmbeddedShadowing
open Entity Rows Naming EntityPlaces NamingRoundTrip SetterResolution SetterSearch FieldRegistration

def under (hops : List Nat) (s : Setter) : Setter := { s with hops := hops ++ s.hops }

def leafSetters (owner : TypeName) : Fields → Nat → List Setter
  | .nil, _ => []
  | .value f rest, i => ⟨[], owner, i, f⟩ :: leafSetters owner rest (i + 1)
  | .nested f inner rest, i => (leafSetters f.type inner 0).map (under [i]) ++ leafSetters owner rest (i + 1)
  | .skipped _ rest, i => leafSetters owner rest (i + 1)

def ownSetters (owner : TypeName) : Fields → Nat → List (Option String × Setter)
  | .nil, _ => []
  | .value f rest, i => (none, ⟨[], owner, i, f⟩) :: ownSetters owner rest (i + 1)
  | .nested f inner rest, i =>
    (if f.role == .embedded then (leafSetters f.type inner 0).map fun s => (some f.name, under [i] s) else []) ++
      ownSetters owner rest (i + 1)
  | .skipped _ rest, i => ownSetters owner rest (i + 1)

def baseSetters : Fields → Nat → List (Option String × Setter)
  | .nil, _ => []
  | .value _ rest, i => baseSetters rest (i + 1)
  | .nested f inner rest, i =>
    (if f.role == .base then
      (ownSetters f.type inner 0 ++ baseSetters inner 0).map fun (scope, s) => (scope, under [i] s)
    else []) ++ baseSetters rest (i + 1)
  | .skipped _ rest, i => baseSetters rest (i + 1)

/-- The entries of a type with the way to each. -/
def entrySetters (d : Definition) : List (Option String × Setter) := ownSetters d.type d.fields 0 ++ baseSetters d.fields 0

/-- The field that is registered under a key. -/
def registeredSetter? (d : Definition) (key : String) : Option Setter :=
  ((entrySetters d).find? fun (scope, s) => FieldIndex.keyOf scope s.field == key).map (·.2)

theorem leafSetters_fields (owner : TypeName) (fields : Fields) (i : Nat) :
    (leafSetters owner fields i).map (·.field) = fields.leaves := by
  induction fields generalizing owner i with
  | nil => rfl
  | value f rest ih => exact congrArg (f :: ·) (ih owner (i + 1))
  | nested f inner rest ihInner ih =>
    rw [leafSetters, List.map_append, List.map_map, ih, Fields.leaves, ← ihInner f.type 0]
    rfl
  | skipped name rest ih => exact ih owner (i + 1)

private theorem ownSetters_entries (owner : TypeName) (fields : Fields) (i : Nat) :
    (ownSetters owner fields i).map (fun (scope, s) => (scope, s.field)) = fields.ownEntries := by
  induction fields generalizing i with
  | nil => rfl
  | value f rest ih => exact congrArg ((none, f) :: ·) (ih (i + 1))
  | nested f inner rest _ ih =>
    rw [ownSetters, List.map_append, ih, Fields.ownEntries, ← leafSetters_fields f.type inner 0]
    congr 1
    split
    · rw [List.map_map, List.map_map]
      rfl
    · rfl
  | skipped name rest ih => exact ih (i + 1)

private theorem baseSetters_entries (fields : Fields) (i : Nat) :
    (baseSetters fields i).map (fun (scope, s) => (scope, s.field)) = fields.baseEntries := by
  induction fields generalizing i with
  | nil => rfl
  | value f rest ih => exact ih (i + 1)
  | nested f inner rest ihInner ih =>
    rw [baseSetters, List.map_append, ih, Fields.baseEntries, ← ownSetters_entries f.type inner 0, ← ihInner 0]
    congr 1
    split
    · rw [List.map_map, ← List.map_append]
      rfl
    · rfl
  | skipped name rest ih => exact ih (i + 1)

theorem entrySetters_entries (d : Definition) :
    (entrySetters d).map (fun (scope, s) => (scope, s.field)) = d.fields.entries := by
  rw [entrySetters, List.map_append, ownSetters_entries, baseSetters_entries, Fields.entries]

def valueNames : Fields → List String
  | .nil => []
  | .value f rest => f.name :: valueNames rest
  | .nested _ _ rest => valueNames rest
  | .skipped _ rest => valueNames rest

/-- The first field of the name in the order of declaration is an own field of its type wherever the type has one of the name. -/
def OwnFirst (name : String) : Fields → Prop
  | .nil => True
  | .value f rest => f.name = name ∨ OwnFirst name rest
  | .nested _ inner rest =>
    if name ∈ inner.leaves.map (·.name) then name ∉ valueNames rest ∧ OwnFirst name inner else OwnFirst name rest
  | .skipped _ rest => OwnFirst name rest

private theorem ownSetter?_isSome {fields : Fields} (named : WellNamed fields) {name : String}
    (nameNamed : IsFieldName name) (owner : TypeName) (i : Nat) :
    (ownSetter? owner (columnName name) fields i).isSome ↔ name ∈ valueNames fields := by
  induction fields generalizing i with
  | nil => simp [ownSetter?, valueNames]
  | value f rest ih =>
    obtain ⟨form, _, named⟩ := named.of_cons rfl
    rw [ownSetter?, valueNames, fits_eq nameNamed form]
    by_cases same : f.name = name
    · simp [same]
    · simp [same, Ne.symm same, ih named]
  | nested f inner rest _ ih => exact ih (named.of_cons rfl).2.2 (i + 1)
  | skipped other rest ih => exact ih (named.of_cons rfl).2.2 (i + 1)

private theorem ownSetter?_hops {owner : TypeName} {label : String} {fields : Fields} {i : Nat} {s : Setter}
    (found : ownSetter? owner label fields i = some s) : s.hops = [] := by
  induction fields generalizing i with
  | nil => cases found
  | value f rest ih =>
    rw [ownSetter?] at found
    split at found
    · cases found; rfl
    · exact ih found
  | nested f inner rest _ ih => exact ih found
  | skipped name rest ih => exact ih found

theorem searched?_eq_none {fields : Fields} (named : EveryType WellNamed fields) {name : String}
    (nameNamed : IsFieldName name) (absent : name ∉ fields.leaves.map (·.name)) (type : TypeName) :
    searched? true type (columnName name) fields = none := by
  cases found : searched? true type (columnName name) fields with
  | none => rfl
  | some s =>
    obtain ⟨scope, leads, _, fit⟩ := searched?_spec found
    have same := (nameNamed.fits_columnName (leads_named named leads).1).mp fit
    exact absurd (List.mem_map.mpr ⟨_, leads.mem_leaves, same⟩) absent

private theorem find?_leafSetters_eq_none {name : String} {fields : Fields} (absent : name ∉ fields.leaves.map (·.name))
    (owner : TypeName) (i : Nat) : (leafSetters owner fields i).find? (·.field.name == name) = none := by
  rw [List.find?_eq_none]
  intro s member same
  apply absent
  rw [← leafSetters_fields owner fields i, List.map_map]
  exact List.mem_map.mpr ⟨s, member, beq_iff_eq.mp same⟩

private theorem find?_leafSetters_isSome {name : String} {fields : Fields} (member : name ∈ fields.leaves.map (·.name))
    (owner : TypeName) (i : Nat) : ((leafSetters owner fields i).find? (·.field.name == name)).isSome := by
  rw [← leafSetters_fields owner fields i, List.map_map] at member
  obtain ⟨s, member, same⟩ := List.mem_map.mp member
  rw [List.find?_isSome]
  exact ⟨s, member, beq_iff_eq.mpr same⟩

private theorem under_inj {hops : List Nat} {s s' : Setter} : under hops s = under hops s' ↔ s = s' := by
  cases s
  cases s'
  simp [under]

private theorem find?_under (hops : List Nat) (setters : List Setter) (name : String) :
    (setters.map (under hops)).find? (·.field.name == name) = (setters.find? (·.field.name == name)).map (under hops) := by
  rw [List.find?_map]
  rfl

theorem find?_leafSetters_iff {fields : Fields} (named : EveryType WellNamed fields) {name : String}
    (nameNamed : IsFieldName name) (member : name ∈ fields.leaves.map (·.name)) (type : TypeName) (i : Nat) :
    (leafSetters type fields i).find? (·.field.name == name) =
      (ownSetter? type (columnName name) fields i).or (nestedSetter? true (columnName name) fields i) ↔ OwnFirst name fields := by
  obtain ⟨named, deeper⟩ := named
  induction fields generalizing type i with
  | nil => cases member
  | value f rest ih =>
    obtain ⟨form, _, named⟩ := named.of_cons rfl
    rw [leafSetters, ownSetter?, nestedSetter?, OwnFirst, fits_eq nameNamed form]
    by_cases same : f.name = name
    · simp [same]
    · have member : name ∈ rest.leaves.map (·.name) := by
        cases member with
        | head => exact absurd rfl same
        | tail _ member => exact member
      rw [List.find?_cons_of_neg (by simpa using same), if_neg (by simpa using same), ih member type (i + 1) named deeper]
      simp [same]
  | nested f inner rest ihInner ih =>
    obtain ⟨form, _, named⟩ := named.of_cons rfl
    obtain ⟨⟨innerNamed, innerDeeper⟩, deeper⟩ := deeper
    rw [leafSetters, ownSetter?, nestedSetter?, OwnFirst, List.find?_append, find?_under, Bool.true_or, if_pos rfl]
    by_cases inside : name ∈ inner.leaves.map (·.name)
    · obtain ⟨first, foundFirst⟩ := Option.isSome_iff_exists.mp (find?_leafSetters_isSome inside f.type 0)
      rw [if_pos inside, foundFirst, Option.map_some, Option.some_or]
      cases own : ownSetter? type (columnName name) rest (i + 1) with
      | some s =>
        have clash : name ∈ valueNames rest := (ownSetter?_isSome named nameNamed type (i + 1)).mp (by rw [own]; rfl)
        rw [Option.some_or]
        refine iff_of_false ?_ fun both => both.1 clash
        intro same
        have hops := ownSetter?_hops own
        rw [← Option.some.inj same] at hops
        cases hops
      | none =>
        have free : name ∉ valueNames rest := by
          intro clash
          have some := (ownSetter?_isSome named nameNamed type (i + 1)).mpr clash
          rw [own] at some
          cases some
        obtain ⟨leaf, leafMember, rfl⟩ := List.mem_map.mp inside
        obtain ⟨s, found⟩ := Option.isSome_iff_exists.mp (setter?_of_leaf (fits_own leaf.name) leafMember f.type 0)
        have agree := ihInner inside f.type 0 innerNamed innerDeeper
        rw [foundFirst, found, Option.some.injEq] at agree
        have same : under [i] first = under [i] s ↔ OwnFirst leaf.name inner := under_inj.trans agree
        rw [Option.none_or, found, Option.map_some, Option.some_or, Option.some.injEq, and_iff_right free, ← same]
        rfl
    · have nothing := searched?_eq_none ⟨innerNamed, innerDeeper⟩ nameNamed inside f.type
      rw [searched?] at nothing
      rw [if_neg inside, find?_leafSetters_eq_none inside, Option.map_none, Option.none_or, nothing, Option.map_none,
        Option.none_or]
      apply ih _ type (i + 1) named deeper
      rw [Fields.leaves, List.map_append] at member
      exact (List.mem_append.mp member).resolve_left inside
  | skipped other rest ih => exact ih member type (i + 1) (named.of_cons rfl).2.2 deeper

private def isKey (owner name : String) : Option String × Setter → Bool :=
  fun (scope, s) => scope == some owner && s.field.name == name

/-- The first field of the name inside an embedded entity. -/
private def firstIn (owner name : String) : Embedded → Option (Option String × Setter) := fun (hops, type, inner) =>
  ((leafSetters type inner 0).find? (·.field.name == name)).map fun s => (some owner, under hops s)

private theorem find?_scoped (owner name scope : String) (hops : List Nat) (setters : List Setter) :
    (setters.map fun s => (some scope, under hops s)).find? (isKey owner name) =
      if scope = owner then (setters.find? (·.field.name == name)).map fun s => (some scope, under hops s) else none := by
  rw [List.find?_map]
  split
  · next same =>
    congr 2
    funext s
    simp [isKey, under, same]
  · next other =>
    rw [Option.map_eq_none_iff, List.find?_eq_none]
    intro s _
    simp [isKey, other]

theorem find?_ownSetters {fields : Fields} (named : WellNamed fields) {owner : String} (ownerNamed : IsFieldName owner)
    (name : String) (type : TypeName) (i : Nat) :
    (ownSetters type fields i).find? (isKey owner name) =
      (ownEmbedded? (columnName owner) fields i).bind (firstIn owner name) := by
  induction fields generalizing i with
  | nil => rfl
  | value f rest ih => exact ih (named.of_cons rfl).2.2 (i + 1)
  | nested f inner rest _ ih =>
    obtain ⟨form, fresh, named⟩ := named.of_cons rfl
    rw [ownSetters, ownEmbedded?, fits_eq ownerNamed form, List.find?_append, ih named]
    cases role : f.role with
    | base => rfl
    | embedded =>
      rw [if_pos (by decide), find?_scoped]
      by_cases same : f.name = owner
      · rw [if_pos same, if_pos (by simp [same]), ownEmbedded?_eq_none named ownerNamed (same ▸ fresh), Option.bind_none,
          Option.or_none, Option.bind_some, firstIn, same]
      · rw [if_neg same, if_neg (by simp [same]), Option.none_or]
  | skipped other rest ih => exact ih (named.of_cons rfl).2.2 (i + 1)

private theorem firstIn_hop (owner name : String) (i : Nat) (embedded : Embedded) :
    firstIn owner name (i :: embedded.1, embedded.2) =
      (firstIn owner name embedded).map fun (scope, s) => (scope, under [i] s) := by
  obtain ⟨hops, type, inner⟩ := embedded
  rw [firstIn, firstIn, Option.map_map]
  rfl

private theorem find?_hop (owner name : String) (i : Nat) (entries : List (Option String × Setter)) :
    (entries.map fun (scope, s) => (scope, under [i] s)).find? (isKey owner name) =
      (entries.find? (isKey owner name)).map fun (scope, s) => (scope, under [i] s) := by
  rw [List.find?_map]
  rfl

private theorem or_bind {α β : Type} {own : Option α} (base : Option α) {read : α → Option β} {other : Option β}
    (inside : ∀ a, own = some a → (read a).isSome) (rest : own = none → other = base.bind read) :
    (own.bind read).or other = (own.or base).bind read := by
  cases own with
  | none => exact rest rfl
  | some a =>
    obtain ⟨b, found⟩ := Option.isSome_iff_exists.mp (inside a rfl)
    rw [Option.bind_some, found, Option.some_or, Option.some_or, Option.bind_some, found]

/-- A base whose embedded entity lacks the field would let that of the next one be registered. -/
theorem find?_baseSetters {fields : Fields} (named : InNested WellNamed fields) {owner : String}
    (ownerNamed : IsFieldName owner) (name : String) (i : Nat)
    (inside : ∀ embedded, baseEmbedded? (columnName owner) fields i = some embedded → (firstIn owner name embedded).isSome) :
    (baseSetters fields i).find? (isKey owner name) =
      (baseEmbedded? (columnName owner) fields i).bind (firstIn owner name) := by
  induction fields generalizing i with
  | nil => rfl
  | value f rest ih => exact ih named (i + 1) inside
  | nested f inner rest ihInner ih =>
    obtain ⟨⟨innerNamed, deeper⟩, named⟩ := named
    rw [baseEmbedded?] at inside
    rw [baseSetters, baseEmbedded?, List.find?_append]
    cases role : f.role with
    | embedded =>
      simp only [role] at inside
      exact ih named (i + 1) inside
    | base =>
      simp only [role, beq_self_eq_true, if_true] at inside ⊢
      have inInner : ∀ embedded, (ownEmbedded? (columnName owner) inner 0).or (baseEmbedded? (columnName owner) inner 0) =
          some embedded → (firstIn owner name embedded).isSome := by
        intro embedded found
        have some := inside (i :: embedded.1, embedded.2) (by rw [found]; rfl)
        rwa [firstIn_hop, Option.isSome_map] at some
      rw [find?_hop, List.find?_append, find?_ownSetters innerNamed ownerNamed,
        or_bind (baseEmbedded? (columnName owner) inner 0)
        (fun embedded found => inInner embedded (by rw [found]; rfl))
        fun none => ihInner deeper 0 fun embedded found => inInner embedded (by rw [none, found]; rfl)]
      cases found : (ownEmbedded? (columnName owner) inner 0).or (baseEmbedded? (columnName owner) inner 0) with
      | none =>
        rw [found] at inside
        exact ih named (i + 1) inside
      | some embedded =>
        obtain ⟨first, isFirst⟩ := Option.isSome_iff_exists.mp (inInner embedded found)
        rw [Option.bind_some, isFirst, Option.map_some, Option.some_or, Option.map_some, Option.some_or, Option.bind_some]
        exact ((firstIn_hop owner name i embedded).trans (by rw [isFirst, Option.map_some])).symm
  | skipped other rest ih => exact ih named (i + 1) inside

variable {d : Definition}

private theorem entrySetter_named (named : EveryType WellNamed d.fields) {scope : Option String} {s : Setter}
    (member : (scope, s) ∈ entrySetters d) : IsFieldName s.field.name ∧ ∀ name, scope = some name → IsFieldName name := by
  apply entry_named named
  rw [← entrySetters_entries]
  exact List.mem_map.mpr ⟨_, member, rfl⟩

private theorem keyOf_eq {scope : Option String} {f : ValueField} {owner name : String}
    (form : IsFieldName f.name ∧ ∀ name, scope = some name → IsFieldName name)
    (same : FieldIndex.keyOf scope f = owner ++ "$" ++ name) : scope = some owner ∧ f.name = name := by
  cases scope with
  | none => exact absurd same (key_ne_name form.1 owner name)
  | some owner' =>
    obtain ⟨rfl, rfl⟩ := key_inj (form.2 owner' rfl) form.1 (Eq.symm same)
    exact ⟨rfl, rfl⟩

private theorem find?_key (named : EveryType WellNamed d.fields) (owner name : String) :
    (entrySetters d).find? (fun (scope, s) => FieldIndex.keyOf scope s.field == owner ++ "$" ++ name) =
      (entrySetters d).find? (isKey owner name) := by
  apply List.find?_congr
  intro (scope, s) member
  rw [Bool.eq_iff_iff, isKey, Bool.and_eq_true, beq_iff_eq, beq_iff_eq, beq_iff_eq]
  constructor
  · exact keyOf_eq (entrySetter_named named member)
  · intro both
    rw [both.1, ← both.2]
    rfl

/-- The field registered for a key is found in the embedded entity that the label of its owner finds, if it is there at all. -/
theorem registeredSetter?_key (named : EveryType WellNamed d.fields) {owner : String} (ownerNamed : IsFieldName owner)
    {hops : List Nat} {type : TypeName} {inner : Fields}
    (found : embedded? (columnName owner) d.fields = some (hops, type, inner)) {name : String}
    (member : name ∈ inner.leaves.map (·.name)) :
    registeredSetter? d (owner ++ "$" ++ name) =
      ((leafSetters type inner 0).find? (·.field.name == name)).map (under hops) := by
  have inside : (firstIn owner name (hops, type, inner)).isSome := by
    rw [firstIn, Option.isSome_map]
    exact find?_leafSetters_isSome member type 0
  have first : (entrySetters d).find? (isKey owner name) = (embedded? (columnName owner) d.fields).bind (firstIn owner name) := by
    rw [entrySetters, List.find?_append, find?_ownSetters named.1 ownerNamed]
    rw [embedded?] at found ⊢
    apply or_bind
    · intro embedded own
      rw [own] at found
      cases found
      exact inside
    · intro none
      apply find?_baseSetters named.2 ownerNamed
      intro embedded base
      rw [none, base] at found
      cases found
      exact inside
  rw [registeredSetter?, find?_key named, first, found, Option.bind_some, firstIn, Option.map_map]
  rfl

private theorem findSome?_guard {α β : Type} {p : α → Bool} {read : α → Option β} {as : List α}
    (total : ∀ a ∈ as, (read a).isSome) :
    as.findSome? (fun a => if p a then read a else none) = (as.find? p).bind read := by
  induction as with
  | nil => rfl
  | cons a as ih =>
    have ih := ih fun b member => total b (.tail _ member)
    rw [List.findSome?_cons, List.find?_cons]
    cases p a with
    | false => simpa using ih
    | true =>
      obtain ⟨b, found⟩ := Option.isSome_iff_exists.mp (total a (.head _))
      simp [found]

theorem columnOf?_isSome {f : ValueField} (included : f.column.map Text.trim ≠ some "-") (scope : Option String) :
    (FieldIndex.columnOf? scope f).isSome := by
  unfold FieldIndex.columnOf?
  dsimp only
  split
  · next excluded =>
    cases column : f.column.map Text.trim with
    | none => rw [column] at excluded; exact absurd excluded (by decide)
    | some text =>
      rw [column] at excluded
      exact absurd (column.trans (congrArg some (beq_iff_eq.mp excluded))) included
  · split <;> rfl

private theorem ownEntries_leaves {scope : Option String} {f : ValueField} {fields : Fields}
    (member : (scope, f) ∈ fields.ownEntries) : f ∈ fields.leaves := by
  induction fields with
  | nil => cases member
  | value g rest ih =>
    cases member with
    | head => exact .head _
    | tail _ member => exact .tail _ (ih member)
  | nested g inner rest _ ih =>
    cases List.mem_append.mp member with
    | inl member =>
      split at member
      · obtain ⟨_, leaf, same⟩ := List.mem_map.mp member
        cases same
        exact List.mem_append_left _ leaf
      · cases member
    | inr member => exact List.mem_append_right _ (ih member)
  | skipped name rest ih => exact ih member

private theorem baseEntries_leaves {scope : Option String} {f : ValueField} {fields : Fields}
    (member : (scope, f) ∈ fields.baseEntries) : f ∈ fields.leaves := by
  induction fields with
  | nil => cases member
  | value g rest ih => exact .tail _ (ih member)
  | nested g inner rest ihInner ih =>
    cases List.mem_append.mp member with
    | inl member =>
      split at member
      · cases List.mem_append.mp member with
        | inl member => exact List.mem_append_left _ (ownEntries_leaves member)
        | inr member => exact List.mem_append_left _ (ihInner member)
      · cases member
    | inr member => exact List.mem_append_right _ (ih member)
  | skipped name rest ih => exact ih member

private theorem entries_leaves {scope : Option String} {f : ValueField} {fields : Fields}
    (member : (scope, f) ∈ fields.entries) : f ∈ fields.leaves := by
  cases List.mem_append.mp member with
  | inl member => exact ownEntries_leaves member
  | inr member => exact baseEntries_leaves member

theorem field?_registered {m : Metadata} (built : Metadata.build d = .ok m)
    (included : ∀ f ∈ d.fields.leaves, f.column.map Text.trim ≠ some "-") (key : String) :
    m.field? key = ((entrySetters d).find? fun (scope, s) => FieldIndex.keyOf scope s.field == key).bind
      fun (scope, s) => mappingOf? scope s.field := by
  have total : ∀ entry ∈ d.fields.entries, (mappingOf? entry.1 entry.2).isSome := by
    intro (scope, f) member
    rw [mappingOf?, Option.isSome_map]
    exact columnOf?_isSome (included f (entries_leaves member)) scope
  have guarded := findSome?_guard (p := fun entry => FieldIndex.keyOf entry.1 entry.2 == key) total
  rw [field?_build built]
  simp only [beq_iff_eq] at guarded
  rw [guarded, ← entrySetters_entries, List.find?_map, Option.bind_map]
  rfl

/-- The mapping of a key under an embedded field and the setter that its alias finds belong to the same field if and only if the
field comes from the embedded entity that is found first, and no nested entity hides an own field of its name there. -/
theorem resolve_registered_iff {m : Metadata} (built : Metadata.build d = .ok m) (named : EveryType WellNamed d.fields)
    (included : ∀ f ∈ d.fields.leaves, f.column.map Text.trim ≠ some "-") {lookups : List (Definition × String × String)}
    (own : ∀ l ∈ lookups, l.1.type.id = d.type.id → l.1 = d) {owner name : String} {mapping : FieldMapping}
    (registered : m.field? (owner ++ "$" ++ name) = some mapping) :
    ∃ s column, registeredSetter? d (owner ++ "$" ++ name) = some s ∧ FieldIndex.columnOf? (some owner) s.field = some column ∧
      mapping = ⟨column, s.field.readOnly, true⟩ ∧
      (((filledBy lookups).resolve d (columnName owner) (columnName name)).1 = some s ↔
        ∃ inner, (embeddings d.fields).lookup owner = some inner ∧ name ∈ inner.leaves.map (·.name) ∧ OwnFirst name inner) := by
  rw [field?_registered built included] at registered
  obtain ⟨⟨scope, s⟩, found, isMapping⟩ := Option.bind_eq_some_iff.mp registered
  have form := entrySetter_named named (List.mem_of_find?_eq_some found)
  have key : FieldIndex.keyOf scope s.field = owner ++ "$" ++ name := by simpa using List.find?_some found
  obtain ⟨rfl, rfl⟩ := keyOf_eq form key
  have ownerNamed := form.2 owner rfl
  obtain ⟨column, isColumn, rfl⟩ := Option.map_eq_some_iff.mp isMapping
  have first : registeredSetter? d (owner ++ "$" ++ s.field.name) = some s := by rw [registeredSetter?, found, Option.map_some]
  refine ⟨s, column, first, isColumn, rfl, ?_⟩
  rw [(answers_filledBy own).resolve, findSetter?_under d ownerNamed.columnName_ne_empty, ← embedded?_lookup named ownerNamed]
  cases embedded : embedded? (columnName owner) d.fields with
  | none => simp
  | some target =>
    obtain ⟨hops, type, inner⟩ := target
    obtain ⟨_, lands, _⟩ := embedded?_spec d.type embedded
    have innerNamed := (landing?_named named lands).1
    by_cases member : s.field.name ∈ inner.leaves.map (·.name)
    · have agree := find?_leafSetters_iff innerNamed form.1 member type 0
      have firstHere := registeredSetter?_key named ownerNamed embedded member
      obtain ⟨leaf, leafMember, sameName⟩ := List.mem_map.mp member
      have fit : fits leaf.name (columnName s.field.name) = true := by rw [← sameName, fits_own]
      obtain ⟨searched, foundSetter⟩ := Option.isSome_iff_exists.mp (setter?_of_leaf fit leafMember type 0)
      obtain ⟨leafFirst, foundLeaf⟩ := Option.isSome_iff_exists.mp (find?_leafSetters_isSome member type 0)
      rw [foundLeaf, foundSetter, Option.some.injEq] at agree
      rw [first, foundLeaf, Option.map_some, Option.some.injEq] at firstHere
      have same : under hops searched = s ↔ OwnFirst s.field.name inner := by
        rw [← agree, firstHere, under_inj]
        exact eq_comm
      simp only [Option.bind_some, searched?, foundSetter, Option.map_some, Option.some.injEq, exists_eq_left', member,
        true_and]
      exact same
    · have nothing := searched?_eq_none innerNamed form.1 member type
      simp only [Option.bind_some, nothing, Option.map_none, Option.map_some, Option.some.injEq, exists_eq_left', member,
        false_and, reduceCtorEq]

/-- An embedded entity whose base has a field of the same name, and comes first. -/
def shadowed : Definition where
  type := ⟨0, "Holder"⟩
  clauses := ⟨some "T_HOLDER", none, none, none⟩
  fields := .nested ⟨"p", .embedded, false, ⟨1, "Part"⟩⟩
    (.nested ⟨"shared", .base, false, ⟨2, "Shared"⟩⟩ (.value ⟨"name", some "BASE_NAME", false, .text, true, true⟩ .nil)
      (.value ⟨"name", some "OWN_NAME", true, .text, true, true⟩ .nil)) .nil

private theorem shadowed_field? {m : Metadata} (built : Metadata.build shadowed = .ok m) :
    m.field? ("p" ++ "$" ++ "name") = some ⟨"BASE_NAME", false, true⟩ := by
  rw [field?_build built]
  decide +kernel

theorem resolve_registered_shadowed :
    ∃ m s column, Metadata.build shadowed = .ok m ∧
    m.field? ("p" ++ "$" ++ "name") = some ⟨column, s.field.readOnly, true⟩ ∧
    registeredSetter? shadowed ("p" ++ "$" ++ "name") = some s ∧
    ((filledBy [(shadowed, "P", "ID")]).resolve shadowed (columnName "p") (columnName "name")).1 ≠ some s := by
  have built : Metadata.build shadowed = .ok (Metadata.ofTables shadowed [⟨"T_HOLDER", "T_HOLDER"⟩]) := rfl
  have own : ∀ l ∈ [(shadowed, "P", "ID")], l.1.type.id = shadowed.type.id → l.1 = shadowed := by simp
  have registered := shadowed_field? built
  obtain ⟨s, column, first, _, rest, agree⟩ :=
    resolve_registered_iff built (by decide +kernel) (by decide +kernel) own registered
  refine ⟨_, s, column, built, rest ▸ registered, first, fun same => ?_⟩
  obtain ⟨inner, found, _, ownFirst⟩ := agree.mp same
  cases found
  exact absurd ownFirst (by simp [OwnFirst, Fields.leaves, valueNames])

/-- The mapping is that of the base, while the alias is assigned to the own field. -/
theorem shadowed_disagrees :
    ∃ m s, Metadata.build shadowed = .ok m ∧ m.field? ("p" ++ "$" ++ "name") = some ⟨"BASE_NAME", false, true⟩ ∧
    (SetterCache.empty.resolve shadowed (columnName "p") (columnName "name")).1 = some s ∧
    s.field.column = some "OWN_NAME" := by
  have built : Metadata.build shadowed = .ok (Metadata.ofTables shadowed [⟨"T_HOLDER", "T_HOLDER"⟩]) := rfl
  have own : ∀ l ∈ ([] : List (Definition × String × String)), l.1.type.id = shadowed.type.id → l.1 = shadowed := by simp
  have resolved := (answers_filledBy own).resolve (columnName "p") (columnName "name")
  have found : (findSetter? shadowed (columnName "p") (columnName "name")).map (·.field.column) = some (some "OWN_NAME") := by
    decide +kernel
  obtain ⟨s, isFound, column⟩ := Option.map_eq_some_iff.mp found
  exact ⟨_, s, built, shadowed_field? built, resolved.trans isFound, column⟩

end EntityMapping.Proofs.EmbeddedShadowing
