import EntityMapping.Metadata.Basic
import EntityMapping.Proofs.EntityPlaces
import EntityMapping.Proofs.NamingRoundTrip
import EntityMapping.Proofs.SetterSearch

/-! Resolution of labels. A setter that is found leads from the type to the field, the label of every field of a type leads to
a setter, and a cache that was filled by lookups answers what a search would find. -/

namespace EntityMapping.Proofs.SetterResolution
open Entity Rows Naming EntityPlaces NamingRoundTrip SetterSearch

def fieldNames : Fields → List String
  | .nil => []
  | .value f rest => f.name :: fieldNames rest
  | .nested f _ rest => f.name :: fieldNames rest
  | .skipped name rest => name :: fieldNames rest

def InNested (p : Fields → Prop) : Fields → Prop
  | .nil => True
  | .value _ rest => InNested p rest
  | .nested _ inner rest => (p inner ∧ InNested p inner) ∧ InNested p rest
  | .skipped _ rest => InNested p rest

def EveryType (p : Fields → Prop) (fields : Fields) : Prop := p fields ∧ InNested p fields

instance decidableInNested (p : Fields → Prop) [DecidablePred p] : DecidablePred (InNested p)
  | .nil => .isTrue trivial
  | .value _ rest => decidableInNested p rest
  | .nested _ inner rest =>
    have := decidableInNested p inner
    have := decidableInNested p rest
    inferInstanceAs (Decidable ((p inner ∧ InNested p inner) ∧ InNested p rest))
  | .skipped _ rest => decidableInNested p rest

instance (p : Fields → Prop) [DecidablePred p] : DecidablePred (EveryType p) :=
  fun fields => inferInstanceAs (Decidable (p fields ∧ InNested p fields))

theorem inNested_imp {p q : Fields → Prop} (weaker : ∀ fields, p fields → q fields) {fields : Fields}
    (holds : InNested p fields) : InNested q fields := by
  induction fields with
  | nil => trivial
  | value f rest ih => exact ih holds
  | nested f inner rest ihInner ih => exact ⟨⟨weaker _ holds.1.1, ihInner holds.1.2⟩, ih holds.2⟩
  | skipped name rest ih => exact ih holds

theorem everyType_imp {p q : Fields → Prop} (weaker : ∀ fields, p fields → q fields) {fields : Fields}
    (holds : EveryType p fields) : EveryType q fields :=
  ⟨weaker _ holds.1, inNested_imp weaker holds.2⟩

/-- Every name of a field satisfies `p`, in the type and in all types nested in it. -/
def EveryName (p : String → Prop) : Fields → Prop := EveryType fun fields => ∀ name ∈ fieldNames fields, p name

instance (p : String → Prop) [DecidablePred p] : DecidablePred (EveryName p) :=
  fun fields => inferInstanceAs (Decidable (EveryType (fun fields => ∀ name ∈ fieldNames fields, p name) fields))

/-- The names of the fields differ and have the usual form. -/
def WellNamed (fields : Fields) : Prop := (fieldNames fields).Nodup ∧ ∀ name ∈ fieldNames fields, IsFieldName name

instance : DecidablePred WellNamed :=
  fun fields => inferInstanceAs (Decidable ((fieldNames fields).Nodup ∧ ∀ name ∈ fieldNames fields, IsFieldName name))

theorem WellNamed.of_cons {fields rest : Fields} {name : String} (named : WellNamed fields)
    (names : fieldNames fields = name :: fieldNames rest) : IsFieldName name ∧ name ∉ fieldNames rest ∧ WellNamed rest := by
  obtain ⟨distinct, form⟩ := named
  rw [names] at distinct form
  obtain ⟨fresh, distinct⟩ := List.nodup_cons.mp distinct
  exact ⟨form _ (.head _), fresh, distinct, fun other member => form other (.tail _ member)⟩

theorem fits_own (name : String) : fits name (columnName name) = true := by
  simp [fits, Text.equalIgnoringCase]

theorem fits_eq {name other : String} (named : IsFieldName name) (otherNamed : IsFieldName other) :
    fits other (columnName name) = (other == name) := by
  rw [Bool.eq_iff_iff, named.fits_columnName otherNamed, beq_iff_eq]

private def MemberNamed : Member → Prop
  | .value f => IsFieldName f.name
  | .nested f inner => IsFieldName f.name ∧ EveryType WellNamed inner
  | .skipped _ => True

private theorem member_named {fields : Fields} (named : EveryType WellNamed fields) {i : Nat} {m : Member}
    (there : (members fields)[i]? = some m) : MemberNamed m := by
  obtain ⟨named, deeper⟩ := named
  induction fields generalizing i with
  | nil => cases there
  | value f rest ih =>
    cases i with
    | zero => cases there; exact (named.of_cons rfl).1
    | succ i => exact ih there (named.of_cons rfl).2.2 deeper
  | nested f inner rest _ ih =>
    cases i with
    | zero => cases there; exact ⟨(named.of_cons rfl).1, deeper.1⟩
    | succ i => exact ih there (named.of_cons rfl).2.2 deeper.2
  | skipped name rest ih =>
    cases i with
    | zero => cases there; trivial
    | succ i => exact ih there (named.of_cons rfl).2.2 deeper

theorem landing?_named {type owner : TypeName} {fields last : Fields} (named : EveryType WellNamed fields)
    {hops : List Nat} {scope : Option String} (lands : landing? type fields hops = some (scope, owner, last)) :
    EveryType WellNamed last ∧ ∀ name, scope = some name → IsFieldName name := by
  induction hops generalizing type fields scope with
  | nil =>
    cases lands
    exact ⟨named, fun name none => by cases none⟩
  | cons hop hops ih =>
    obtain ⟨f, inner, scope', member, below, rfl⟩ := landing?_cons_inv lands
    obtain ⟨form, named⟩ := member_named named member
    obtain ⟨lastNamed, scopeForm⟩ := ih named below
    refine ⟨lastNamed, fun name same => ?_⟩
    split at same
    · cases same; exact form
    · exact scopeForm name same

theorem leads_named {type : TypeName} {fields : Fields} (named : EveryType WellNamed fields) {scope : Option String}
    {s : Setter} (leads : Leads type fields scope s) :
    IsFieldName s.field.name ∧ ∀ name, scope = some name → IsFieldName name := by
  obtain ⟨last, lands, there⟩ := leads
  obtain ⟨lastNamed, scopeForm⟩ := landing?_named named lands
  exact ⟨member_named lastNamed there, scopeForm⟩

theorem leaf_name {p : String → Prop} {fields : Fields} (names : EveryName p fields) {f : ValueField} (leaf : f ∈ fields.leaves) :
    p f.name := by
  obtain ⟨own, deeper⟩ := names
  induction fields with
  | nil => cases leaf
  | value g rest ih =>
    cases leaf with
    | head => exact own _ (.head _)
    | tail _ leaf => exact ih leaf (fun name member => own name (.tail _ member)) deeper
  | nested g inner rest ihInner ih =>
    cases List.mem_append.mp leaf with
    | inl leaf => exact ihInner leaf deeper.1.1 deeper.1.2
    | inr leaf => exact ih leaf (fun name member => own name (.tail _ member)) deeper.2
  | skipped name rest ih => exact ih leaf (fun name member => own name (.tail _ member)) deeper

private theorem ownEntry_name {p : String → Prop} {fields : Fields} (names : EveryName p fields) {scope : Option String}
    {f : ValueField} (member : (scope, f) ∈ fields.ownEntries) : p f.name ∧ ∀ name, scope = some name → p name := by
  obtain ⟨own, deeper⟩ := names
  induction fields with
  | nil => cases member
  | value g rest ih =>
    cases member with
    | head => exact ⟨own _ (.head _), fun name none => by cases none⟩
    | tail _ member => exact ih member (fun name member => own name (.tail _ member)) deeper
  | nested g inner rest _ ih =>
    cases List.mem_append.mp member with
    | inl member =>
      split at member
      · obtain ⟨_, leaf, same⟩ := List.mem_map.mp member
        cases same
        exact ⟨leaf_name deeper.1 leaf, fun name same => by cases same; exact own _ (.head _)⟩
      · cases member
    | inr member => exact ih member (fun name member => own name (.tail _ member)) deeper.2
  | skipped name rest ih => exact ih member (fun name member => own name (.tail _ member)) deeper

private theorem baseEntry_name {p : String → Prop} {fields : Fields}
    (names : InNested (fun fields => ∀ name ∈ fieldNames fields, p name) fields) {scope : Option String} {f : ValueField}
    (member : (scope, f) ∈ fields.baseEntries) : p f.name ∧ ∀ name, scope = some name → p name := by
  induction fields with
  | nil => cases member
  | value g rest ih => exact ih names member
  | nested g inner rest ihInner ih =>
    cases List.mem_append.mp member with
    | inl member =>
      split at member
      · cases List.mem_append.mp member with
        | inl member => exact ownEntry_name names.1 member
        | inr member => exact ihInner names.1.2 member
      · cases member
    | inr member => exact ih names.2 member
  | skipped name rest ih => exact ih names member

theorem entry_name {p : String → Prop} {fields : Fields} (names : EveryName p fields) {scope : Option String} {f : ValueField}
    (member : (scope, f) ∈ fields.entries) : p f.name ∧ ∀ name, scope = some name → p name := by
  cases List.mem_append.mp member with
  | inl member => exact ownEntry_name names member
  | inr member => exact baseEntry_name names.2 member

theorem entry_named {fields : Fields} (named : EveryType WellNamed fields) {scope : Option String} {f : ValueField}
    (member : (scope, f) ∈ fields.entries) : IsFieldName f.name ∧ ∀ name, scope = some name → IsFieldName name :=
  entry_name (everyType_imp (fun _ named => named.2) named) member

theorem ownSetter?_spec {owner : TypeName} {label : String} {fields total : Fields} {i : Nat} {s : Setter}
    (here : (members total).drop i = members fields) (found : ownSetter? owner label fields i = some s) :
    Leads owner total none s ∧ s.hops = [] ∧ fits s.field.name label = true := by
  induction fields generalizing i with
  | nil => cases found
  | value f rest ih =>
    obtain ⟨there, next⟩ := getElem?_of_drop here
    rw [ownSetter?] at found
    split at found
    · next fit =>
      cases found
      exact ⟨⟨total, rfl, there⟩, rfl, fit⟩
    · exact ih next found
  | nested f inner rest _ ih => exact ih (getElem?_of_drop here).2 found
  | skipped name rest ih => exact ih (getElem?_of_drop here).2 found

theorem nestedSetter?_spec {flat : Bool} {type : TypeName} {label : String} {fields total : Fields} {i : Nat} {s : Setter}
    (here : (members total).drop i = members fields) (found : nestedSetter? flat label fields i = some s) :
    ∃ scope, Leads type total scope s ∧ (flat = false → scope = none) ∧ fits s.field.name label = true := by
  induction fields generalizing total type i s with
  | nil => cases found
  | value f rest ih => exact ih (getElem?_of_drop here).2 found
  | nested f inner rest ihInner ih =>
    obtain ⟨there, next⟩ := getElem?_of_drop here
    rw [nestedSetter?, Option.or_eq_some_iff] at found
    obtain found | ⟨_, found⟩ := found
    · split at found
      · next opened =>
        obtain ⟨s', inside, rfl⟩ := Option.map_eq_some_iff.mp found
        obtain ⟨scope, leads, plain, fit⟩ : ∃ scope, Leads f.type inner scope s' ∧ (flat = false → scope = none) ∧
            fits s'.field.name label = true := by
          rw [Option.or_eq_some_iff] at inside
          obtain inside | ⟨_, inside⟩ := inside
          · obtain ⟨leads, _, fit⟩ := ownSetter?_spec (List.drop_zero ..) inside
            exact ⟨none, leads, fun _ => rfl, fit⟩
          · exact ihInner (List.drop_zero ..) inside
        refine ⟨_, leads.hop there, ?_, fit⟩
        intro notFlat
        subst notFlat
        have base : f.role = .base := by simpa using opened
        rw [base, if_neg (by decide)]
        exact plain rfl
      · cases found
    · exact ih next found
  | skipped name rest ih => exact ih (getElem?_of_drop here).2 found

/-- The hops of an embedded entity land in its fields, by way of a field that fits the label. -/
theorem ownEmbedded?_spec {type : TypeName} {label : String} {fields total : Fields} {i : Nat} {hops : List Nat}
    {owner : TypeName} {inner : Fields} (here : (members total).drop i = members fields)
    (found : ownEmbedded? label fields i = some (hops, owner, inner)) :
    ∃ name, landing? type total hops = some (some name, owner, inner) ∧ fits name label = true := by
  induction fields generalizing i with
  | nil => cases found
  | value f rest ih => exact ih (getElem?_of_drop here).2 found
  | nested f inner' rest _ ih =>
    obtain ⟨there, next⟩ := getElem?_of_drop here
    rw [ownEmbedded?] at found
    split at found
    · next opened =>
      cases found
      simp only [Bool.and_eq_true, beq_iff_eq] at opened
      refine ⟨f.name, ?_, opened.2⟩
      rw [landing?_cons there, landing?, Option.map_some]
      dsimp only
      rw [if_pos opened.1]
    · exact ih next found
  | skipped name rest ih => exact ih (getElem?_of_drop here).2 found

theorem baseEmbedded?_spec {type : TypeName} {label : String} {fields total : Fields} {i : Nat} {hops : List Nat}
    {owner : TypeName} {inner : Fields} (here : (members total).drop i = members fields)
    (found : baseEmbedded? label fields i = some (hops, owner, inner)) :
    ∃ name, landing? type total hops = some (some name, owner, inner) ∧ fits name label = true := by
  induction fields generalizing total type i hops owner inner with
  | nil => cases found
  | value f rest ih => exact ih (getElem?_of_drop here).2 found
  | nested f inner' rest ihInner ih =>
    obtain ⟨there, next⟩ := getElem?_of_drop here
    rw [baseEmbedded?, Option.or_eq_some_iff] at found
    obtain found | ⟨_, found⟩ := found
    · split at found
      · next base =>
        obtain ⟨⟨hops', owner', last⟩, inside, same⟩ := Option.map_eq_some_iff.mp found
        cases same
        obtain ⟨name, lands, fit⟩ : ∃ name, landing? f.type inner' hops' = some (some name, owner, inner) ∧
            fits name label = true := by
          rw [Option.or_eq_some_iff] at inside
          obtain inside | ⟨_, inside⟩ := inside
          · exact ownEmbedded?_spec (List.drop_zero ..) inside
          · exact ihInner (List.drop_zero ..) inside
        refine ⟨name, ?_, fit⟩
        have base : f.role = .base := by simpa using base
        rw [landing?_cons there, lands, Option.map_some, base]
        rfl
      · cases found
    · exact ih next found
  | skipped name rest ih => exact ih (getElem?_of_drop here).2 found

theorem searched?_spec {flat : Bool} {type : TypeName} {label : String} {fields : Fields} {s : Setter}
    (found : searched? flat type label fields = some s) :
    ∃ scope, Leads type fields scope s ∧ (flat = false → scope = none) ∧ fits s.field.name label = true := by
  rw [searched?, Option.or_eq_some_iff] at found
  obtain found | ⟨_, found⟩ := found
  · obtain ⟨leads, _, fit⟩ := ownSetter?_spec (List.drop_zero ..) found
    exact ⟨none, leads, fun _ => rfl, fit⟩
  · exact nestedSetter?_spec (List.drop_zero ..) found

theorem embedded?_spec (type : TypeName) {label : String} {fields : Fields} {hops : List Nat} {owner : TypeName}
    {inner : Fields} (found : embedded? label fields = some (hops, owner, inner)) :
    ∃ name, landing? type fields hops = some (some name, owner, inner) ∧ fits name label = true := by
  rw [embedded?, Option.or_eq_some_iff] at found
  obtain found | ⟨_, found⟩ := found
  · exact ownEmbedded?_spec (List.drop_zero ..) found
  · exact baseEmbedded?_spec (List.drop_zero ..) found

theorem findSetter?_spec {d : Definition} {embedding label : String} {s : Setter}
    (found : findSetter? d embedding label = some s) :
    ∃ scope, Leads d.type d.fields scope s ∧ fits s.field.name label = true ∧ (embedding = "" → scope = none) ∧
      (embedding ≠ "" → ∃ name, scope = some name ∧ fits name embedding = true) := by
  by_cases plain : embedding = ""
  · subst plain
    rw [findSetter?_plain] at found
    obtain ⟨scope, leads, none, fit⟩ := searched?_spec found
    exact ⟨scope, leads, fit, fun _ => none rfl, fun other => absurd rfl other⟩
  · rw [findSetter?_under d plain, Option.bind_eq_some_iff] at found
    obtain ⟨⟨hops, owner, inner⟩, embedded, found⟩ := found
    obtain ⟨s', inside, rfl⟩ := Option.map_eq_some_iff.mp found
    obtain ⟨name, lands, called⟩ := embedded?_spec d.type embedded
    obtain ⟨scope, ⟨last, second, there⟩, _, fit⟩ := searched?_spec inside
    exact ⟨some name, ⟨last, landing?_append lands second, there⟩, fit, fun empty => absurd empty plain, fun _ => ⟨name, rfl, called⟩⟩

theorem ownEmbedded?_eq_none {fields : Fields} (named : WellNamed fields) {name : String} (nameNamed : IsFieldName name)
    (fresh : name ∉ fieldNames fields) (i : Nat) : ownEmbedded? (columnName name) fields i = none := by
  induction fields generalizing i with
  | nil => rfl
  | value f rest ih => exact ih (named.of_cons rfl).2.2 (fun member => fresh (.tail _ member)) (i + 1)
  | nested f inner rest _ ih =>
    obtain ⟨form, _, named⟩ := named.of_cons rfl
    have other : f.name ≠ name := fun same => fresh (same ▸ .head _)
    rw [ownEmbedded?, fits_eq nameNamed form, if_neg (by simp [other])]
    exact ih named (fun member => fresh (.tail _ member)) (i + 1)
  | skipped other rest ih => exact ih (named.of_cons rfl).2.2 (fun member => fresh (.tail _ member)) (i + 1)

/-- The embedded entities of a type, by the names of their fields. -/
def ownEmbeddings : Fields → List (String × Fields)
  | .nil => []
  | .value _ rest => ownEmbeddings rest
  | .nested f inner rest => (if f.role = .embedded then [(f.name, inner)] else []) ++ ownEmbeddings rest
  | .skipped _ rest => ownEmbeddings rest

def baseEmbeddings : Fields → List (String × Fields)
  | .nil => []
  | .value _ rest => baseEmbeddings rest
  | .nested f inner rest => (if f.role = .base then ownEmbeddings inner ++ baseEmbeddings inner else []) ++ baseEmbeddings rest
  | .skipped _ rest => baseEmbeddings rest

/-- The embedded entities of a type and then those of its bases, in the order in which labels find them. -/
def embeddings (fields : Fields) : List (String × Fields) := ownEmbeddings fields ++ baseEmbeddings fields

theorem ownEmbedded?_lookup {fields : Fields} (named : WellNamed fields) {name : String} (nameNamed : IsFieldName name)
    (i : Nat) : (ownEmbedded? (columnName name) fields i).map (·.2.2) = (ownEmbeddings fields).lookup name := by
  induction fields generalizing i with
  | nil => rfl
  | value f rest ih => exact ih (named.of_cons rfl).2.2 (i + 1)
  | nested f inner rest _ ih =>
    obtain ⟨form, _, named⟩ := named.of_cons rfl
    rw [ownEmbedded?, ownEmbeddings, fits_eq nameNamed form]
    by_cases embedded : f.role = .embedded
    · by_cases same : f.name = name
      · simp [embedded, same]
      · have other : (name == f.name) = false := beq_eq_false_iff_ne.mpr (Ne.symm same)
        simp [embedded, same, List.lookup, other, ih named]
    · simp [embedded, ih named]
  | skipped other rest ih => exact ih (named.of_cons rfl).2.2 (i + 1)

theorem baseEmbedded?_lookup {fields : Fields} (named : InNested WellNamed fields) {name : String}
    (nameNamed : IsFieldName name) (i : Nat) :
    (baseEmbedded? (columnName name) fields i).map (·.2.2) = (baseEmbeddings fields).lookup name := by
  induction fields generalizing i with
  | nil => rfl
  | value f rest ih => exact ih named (i + 1)
  | nested f inner rest ihInner ih =>
    obtain ⟨⟨innerNamed, deeper⟩, named⟩ := named
    rw [baseEmbedded?, baseEmbeddings, List.lookup_append, ← ih named (i + 1)]
    by_cases base : f.role = .base
    · rw [if_pos base, if_pos (by simpa using base), List.lookup_append, ← ownEmbedded?_lookup innerNamed nameNamed 0,
        ← ihInner deeper 0]
      cases ownEmbedded? (columnName name) inner 0 <;> cases baseEmbedded? (columnName name) inner 0 <;> rfl
    · rw [if_neg base, if_neg (by simpa using base)]
      rfl
  | skipped other rest ih => exact ih named (i + 1)

theorem embedded?_lookup {fields : Fields} (named : EveryType WellNamed fields) {name : String}
    (nameNamed : IsFieldName name) :
    (embedded? (columnName name) fields).map (·.2.2) = (embeddings fields).lookup name := by
  rw [embedded?, embeddings, List.lookup_append, ← ownEmbedded?_lookup named.1 nameNamed 0, ← baseEmbedded?_lookup named.2 nameNamed 0]
  cases ownEmbedded? (columnName name) fields 0 <;> rfl

theorem setter?_of_leaf {f : ValueField} {label : String} (fit : fits f.name label = true) {fields : Fields}
    (member : f ∈ fields.leaves) (type : TypeName) (i : Nat) :
    ((ownSetter? type label fields i).or (nestedSetter? true label fields i)).isSome := by
  induction fields generalizing type i with
  | nil => cases member
  | value g rest ih =>
    rw [ownSetter?, nestedSetter?]
    split
    · rfl
    · next other =>
      cases member with
      | head => exact absurd fit other
      | tail _ member => exact ih member type (i + 1)
  | nested g inner rest ihInner ih =>
    rw [ownSetter?, nestedSetter?, Bool.true_or, if_pos rfl]
    simp only [Option.isSome_or, Option.isSome_map, Bool.or_eq_true] at ih ihInner ⊢
    cases List.mem_append.mp member with
    | inl member => exact .inr (.inl (ihInner member g.type 0))
    | inr member =>
      cases ih member type (i + 1) with
      | inl own => exact .inl own
      | inr nested => exact .inr (.inr nested)
  | skipped name rest ih => exact ih member type (i + 1)

private theorem ownSetter?_of_entry {f : ValueField} {label : String} (fit : fits f.name label = true) {fields : Fields}
    (member : (none, f) ∈ fields.ownEntries) (type : TypeName) (i : Nat) : (ownSetter? type label fields i).isSome := by
  induction fields generalizing i with
  | nil => cases member
  | value g rest ih =>
    rw [ownSetter?]
    split
    · rfl
    · next other =>
      cases member with
      | head => exact absurd fit other
      | tail _ member => exact ih member (i + 1)
  | nested g inner rest _ ih =>
    cases List.mem_append.mp member with
    | inl member =>
      split at member
      · obtain ⟨_, _, same⟩ := List.mem_map.mp member
        cases same
      · cases member
    | inr member => exact ih member (i + 1)
  | skipped name rest ih => exact ih member (i + 1)

private theorem nestedSetter?_of_entry {f : ValueField} {label : String} (fit : fits f.name label = true)
    {fields : Fields} (member : (none, f) ∈ fields.baseEntries) (i : Nat) :
    (nestedSetter? false label fields i).isSome := by
  induction fields generalizing i with
  | nil => cases member
  | value g rest ih => exact ih member (i + 1)
  | nested g inner rest ihInner ih =>
    rw [nestedSetter?, Option.isSome_or, Bool.or_eq_true]
    cases List.mem_append.mp member with
    | inl member =>
      left
      split at member
      · next base =>
        rw [if_pos (by simpa using base), Option.isSome_map, Option.isSome_or, Bool.or_eq_true]
        cases List.mem_append.mp member with
        | inl member => exact .inl (ownSetter?_of_entry fit member g.type 0)
        | inr member => exact .inr (ihInner member 0)
      · cases member
    | inr member => exact .inr (ih member (i + 1))
  | skipped name rest ih => exact ih member (i + 1)

private theorem ownEmbeddings_of_entry {f : ValueField} {owner : String} {fields : Fields}
    (member : (some owner, f) ∈ fields.ownEntries) : ∃ inner, (owner, inner) ∈ ownEmbeddings fields ∧ f ∈ inner.leaves := by
  induction fields with
  | nil => cases member
  | value g rest ih =>
    cases member with
    | tail _ member => exact ih member
  | nested g inner rest _ ih =>
    rw [ownEmbeddings]
    cases List.mem_append.mp member with
    | inl member =>
      split at member
      · next embedded =>
        obtain ⟨_, leaf, same⟩ := List.mem_map.mp member
        cases same
        rw [if_pos (by simpa using embedded)]
        exact ⟨inner, .head _, leaf⟩
      · cases member
    | inr member =>
      obtain ⟨last, found, leaf⟩ := ih member
      exact ⟨last, List.mem_append_right _ found, leaf⟩
  | skipped name rest ih => exact ih member

private theorem baseEmbeddings_of_entry {f : ValueField} {owner : String} {fields : Fields}
    (member : (some owner, f) ∈ fields.baseEntries) :
    ∃ inner, (owner, inner) ∈ baseEmbeddings fields ∧ f ∈ inner.leaves := by
  induction fields with
  | nil => cases member
  | value g rest ih => exact ih member
  | nested g inner rest ihInner ih =>
    rw [baseEmbeddings]
    cases List.mem_append.mp member with
    | inl member =>
      split at member
      · next base =>
        rw [if_pos (by simpa using base)]
        cases List.mem_append.mp member with
        | inl member =>
          obtain ⟨last, found, leaf⟩ := ownEmbeddings_of_entry member
          exact ⟨last, List.mem_append_left _ (List.mem_append_left _ found), leaf⟩
        | inr member =>
          obtain ⟨last, found, leaf⟩ := ihInner member
          exact ⟨last, List.mem_append_left _ (List.mem_append_right _ found), leaf⟩
      · cases member
    | inr member =>
      obtain ⟨last, found, leaf⟩ := ih member
      exact ⟨last, List.mem_append_right _ found, leaf⟩
  | skipped name rest ih => exact ih member

theorem embeddings_of_entry {f : ValueField} {owner : String} {fields : Fields}
    (member : (some owner, f) ∈ fields.entries) : ∃ inner, (owner, inner) ∈ embeddings fields ∧ f ∈ inner.leaves := by
  cases List.mem_append.mp member with
  | inl member =>
    obtain ⟨inner, found, leaf⟩ := ownEmbeddings_of_entry member
    exact ⟨inner, List.mem_append_left _ found, leaf⟩
  | inr member =>
    obtain ⟨inner, found, leaf⟩ := baseEmbeddings_of_entry member
    exact ⟨inner, List.mem_append_right _ found, leaf⟩

/-- Every value of a type and of its bases is found by its column. -/
theorem findSetter?_of_entry {d : Definition} {f : ValueField} (member : (none, f) ∈ d.fields.entries) :
    (findSetter? d "" (columnName f.name)).isSome := by
  rw [findSetter?_plain, searched?, Option.isSome_or, Bool.or_eq_true]
  cases List.mem_append.mp member with
  | inl member => exact .inl (ownSetter?_of_entry (fits_own _) member d.type 0)
  | inr member => exact .inr (nestedSetter?_of_entry (fits_own _) member 0)

/-- A cache after lookups, each of some type. -/
def filledBy (lookups : List (Definition × String × String)) : SetterCache :=
  lookups.foldl (fun cache (d, embedding, label) => (cache.resolve d embedding label).2) .empty

/-- What the cache holds for a type is what a search finds. -/
def Answers (cache : SetterCache) (d : Definition) : Prop :=
  ∀ embedding label s, cache.entries[(d.type.id, embedding, label)]? = some s → s = findSetter? d embedding label

theorem Answers.resolve {cache : SetterCache} {d : Definition} (answers : Answers cache d) (embedding label : String) :
    (cache.resolve d embedding label).1 = findSetter? d embedding label := by
  unfold SetterCache.resolve
  dsimp only
  split
  · next s cached => exact answers embedding label s cached
  · rfl

theorem Answers.after {cache : SetterCache} {d other : Definition} (answers : Answers cache d)
    (own : other.type.id = d.type.id → other = d) (embedding label : String) :
    Answers
    (cache.resolve other embedding label).2 d := by
  unfold SetterCache.resolve
  dsimp only
  split
  · exact answers
  · intro embedding' label' s found
    rw [Std.HashMap.getElem?_insert] at found
    split at found
    · next same =>
      simp only [beq_iff_eq, Prod.mk.injEq] at same
      cases found
      rw [own same.1, same.2.1, same.2.2]
    · exact answers embedding' label' s found

theorem answers_filledBy {lookups : List (Definition × String × String)} {d : Definition}
    (own : ∀ l ∈ lookups, l.1.type.id = d.type.id → l.1 = d) : Answers (filledBy lookups) d := by
  have run : ∀ cache, Answers cache d →
      Answers (lookups.foldl (fun cache (d, embedding, label) => (cache.resolve d embedding label).2) cache) d := by
    induction lookups with
    | nil => exact fun _ answers => answers
    | cons l lookups ih =>
      intro cache answers
      exact ih (fun other member => own other (.tail _ member)) _ (answers.after (own l (.head _)) l.2.1 l.2.2)
  apply run
  intro embedding label s found
  simp [SetterCache.empty] at found

end EntityMapping.Proofs.SetterResolution
