import EntityMapping.Metadata.Basic
import EntityMapping.Rows.Mapper
import Mathlib.Data.List.Forall2

/-! Places in entities: the hops through nested fields and the position of a value in the last of them. A place that a type has
is there in every whole entity of the type, and holds a value of its field. -/

namespace EntityMapping.Proofs.EntityPlaces
open Entity Rows

theorem getElem?_of_drop {α : Type} {as rest : List α} {i : Nat} {a : α} (here : as.drop i = a :: rest) :
    as[i]? = some a ∧ as.drop (i + 1) = rest := by
  refine ⟨?_, ?_⟩
  · have first := congrArg List.head? here
    simpa using first
  · rw [← List.tail_drop, here]
    rfl

inductive Member where
  | value (field : ValueField)
  | nested (field : NestedField) (inner : Fields)
  | skipped (name : String)

def members : Fields → List Member
  | .nil => []
  | .value f rest => .value f :: members rest
  | .nested f inner rest => .nested f inner :: members rest
  | .skipped name rest => .skipped name :: members rest

inductive Cell where
  | value (v : Value)
  | present (type : Nat) (inner : Slots)
  | absent
  | skipped

def cells : Slots → List Cell
  | .nil => []
  | .value v rest => .value v :: cells rest
  | .present type inner rest => .present type inner :: cells rest
  | .absent rest => .absent :: cells rest
  | .skipped rest => .skipped :: cells rest

/-- The value has the kind of the field and is not null unless the field may be. -/
def Holds (f : ValueField) (v : Value) : Prop := v.sameKind f.scalar.null ∧ (v.isNull → f.nullable)

/-- The slots belong to the fields and every nested entity is there. -/
def Whole : Fields → Slots → Prop
  | .nil, .nil => True
  | .value f rest, .value v slots => Holds f v ∧ Whole rest slots
  | .nested f inner rest, .present type slots slots' => type = f.type.id ∧ Whole inner slots ∧ Whole rest slots'
  | .skipped _ rest, .skipped slots => Whole rest slots
  | _, _ => False

theorem Whole.fit {fields : Fields} {slots : Slots} (whole : Whole fields slots) : fields.Fit slots := by
  induction fields generalizing slots with
  | nil =>
    cases slots with
    | nil => trivial
    | _ => cases whole
  | value f rest ih =>
    cases slots with
    | value v slots => exact ⟨whole.1.1, ih whole.2⟩
    | _ => cases whole
  | nested f inner rest ihInner ih =>
    cases slots with
    | present type held slots => exact ⟨whole.1, ihInner whole.2.1, ih whole.2.2⟩
    | _ => cases whole
  | skipped name rest ih =>
    cases slots with
    | skipped slots => exact ih whole
    | _ => cases whole

def Fills : Member → Cell → Prop
  | .value f, .value v => Holds f v
  | .nested f inner, .present type slots => type = f.type.id ∧ Whole inner slots
  | .skipped _, .skipped => True
  | _, _ => False

theorem whole_iff {fields : Fields} {slots : Slots} :
    Whole fields slots ↔ List.Forall₂ Fills (members fields) (cells slots) := by
  induction fields generalizing slots with
  | nil => cases slots <;> simp [Whole, members, cells]
  | value f rest ih => cases slots <;> simp [Whole, members, cells, Fills, ih]
  | nested f inner rest _ ih => cases slots <;> simp [Whole, members, cells, Fills, ih, and_assoc]
  | skipped name rest ih => cases slots <;> simp [Whole, members, cells, Fills, ih]

private theorem forall₂_getElem? {α β : Type} {fits : α → β → Prop} {as : List α} {bs : List β}
    (all : List.Forall₂ fits as bs) {i : Nat} {a : α} (there : as[i]? = some a) : ∃ b, bs[i]? = some b ∧ fits a b := by
  induction all generalizing i with
  | nil => cases there
  | @cons _ b _ _ first _ ih =>
    cases i with
    | zero => cases there; exact ⟨b, rfl, first⟩
    | succ i => exact ih there

private theorem forall₂_set {α β : Type} {fits : α → β → Prop} {as : List α} {bs : List β} (all : List.Forall₂ fits as bs)
    {i : Nat} {a : α} {b : β} (there : as[i]? = some a) (new : fits a b) : List.Forall₂ fits as (bs.set i b) := by
  induction all generalizing i with
  | nil => cases there
  | cons first rest ih =>
    cases i with
    | zero => cases there; exact .cons new rest
    | succ i => exact .cons first (ih there)

theorem Whole.cell {fields : Fields} {slots : Slots} (whole : Whole fields slots) {i : Nat} {m : Member}
    (there : (members fields)[i]? = some m) : ∃ c, (cells slots)[i]? = some c ∧ Fills m c :=
  forall₂_getElem? (whole_iff.mp whole) there

theorem Whole.value {fields : Fields} {slots : Slots} (whole : Whole fields slots) {i : Nat} {f : ValueField}
    (there : (members fields)[i]? = some (.value f)) : ∃ v, (cells slots)[i]? = some (.value v) ∧ Holds f v := by
  obtain ⟨c, found, fills⟩ := whole.cell there
  cases c with
  | value v => exact ⟨v, found, fills⟩
  | _ => cases fills

theorem Whole.nested {fields inner : Fields} {slots : Slots} (whole : Whole fields slots) {i : Nat} {f : NestedField}
    (there : (members fields)[i]? = some (.nested f inner)) :
    ∃ held, (cells slots)[i]? = some (.present f.type.id held) ∧ Whole inner held := by
  obtain ⟨c, found, fills⟩ := whole.cell there
  cases c with
  | present type held =>
    obtain ⟨same, fills⟩ := fills
    exact ⟨held, same ▸ found, fills⟩
  | _ => cases fills

theorem Whole.set {fields : Fields} {slots changed : Slots} (whole : Whole fields slots) {i : Nat} {m : Member} {c : Cell}
    (there : (members fields)[i]? = some m) (fills : Fills m c) (same : cells changed = (cells slots).set i c) :
    Whole fields changed := by
  rw [whole_iff, same]
  exact forall₂_set (whole_iff.mp whole) there fills

def Suits : Member → Cell → Prop
  | .value f, .value v => v.sameKind f.scalar.null
  | .nested f inner, .present type slots => type = f.type.id ∧ inner.Fit slots
  | .nested f _, .absent => f.optional
  | .skipped _, .skipped => True
  | _, _ => False

theorem fit_iff {fields : Fields} {slots : Slots} : fields.Fit slots ↔ List.Forall₂ Suits (members fields) (cells slots) := by
  induction fields generalizing slots with
  | nil => cases slots <;> simp [Fields.Fit, members, cells]
  | value f rest ih => cases slots <;> simp [Fields.Fit, members, cells, Suits, ih]
  | nested f inner rest _ ih => cases slots <;> simp [Fields.Fit, members, cells, Suits, ih, and_assoc]
  | skipped name rest ih => cases slots <;> simp [Fields.Fit, members, cells, Suits, ih]

theorem fit_cell {fields : Fields} {slots : Slots} (fit : fields.Fit slots) {i : Nat} {m : Member}
    (there : (members fields)[i]? = some m) : ∃ c, (cells slots)[i]? = some c ∧ Suits m c :=
  forall₂_getElem? (fit_iff.mp fit) there

theorem fit_value {fields : Fields} {slots : Slots} (fit : fields.Fit slots) {i : Nat} {f : ValueField}
    (there : (members fields)[i]? = some (.value f)) :
    ∃ v, (cells slots)[i]? = some (.value v) ∧ v.sameKind f.scalar.null := by
  obtain ⟨c, found, suits⟩ := fit_cell fit there
  cases c with
  | value v => exact ⟨v, found, suits⟩
  | _ => cases suits

theorem fit_nested {fields inner : Fields} {slots : Slots} (fit : fields.Fit slots) {i : Nat} {f : NestedField}
    (there : (members fields)[i]? = some (.nested f inner)) :
    (cells slots)[i]? = some .absent ∨ ∃ held, (cells slots)[i]? = some (.present f.type.id held) ∧ inner.Fit held := by
  obtain ⟨c, found, suits⟩ := fit_cell fit there
  cases c with
  | present type held =>
    obtain ⟨same, fit⟩ := suits
    exact .inr ⟨held, same ▸ found, fit⟩
  | absent => exact .inl found
  | _ => cases suits

theorem fit_set {fields : Fields} {slots changed : Slots} (fit : fields.Fit slots) {i : Nat} {m : Member} {c : Cell}
    (there : (members fields)[i]? = some m) (suits : Suits m c) (same : cells changed = (cells slots).set i c) :
    fields.Fit changed := by
  rw [fit_iff, same]
  exact forall₂_set (fit_iff.mp fit) there suits

/-- What the hops lead to, and the first embedded field on the way. -/
def landing? (type : TypeName) (fields : Fields) : List Nat → Option (Option String × TypeName × Fields)
  | [] => some (none, type, fields)
  | hop :: hops => match (members fields)[hop]? with
    | some (.nested f inner) =>
      (landing? f.type inner hops).map fun (scope, last) => (if f.role = .embedded then some f.name else scope, last)
    | _ => none

theorem landing?_cons {fields inner : Fields} {hop : Nat} {f : NestedField}
    (there : (members fields)[hop]? = some (.nested f inner)) (type : TypeName) (hops : List Nat) :
    landing? type fields (hop :: hops) =
      (landing? f.type inner hops).map fun (scope, last) => (if f.role = .embedded then some f.name else scope, last) := by
  rw [landing?, there]

theorem landing?_cons_inv {type owner : TypeName} {fields last : Fields} {hop : Nat} {hops : List Nat}
    {scope : Option String} (lands : landing? type fields (hop :: hops) = some (scope, owner, last)) :
    ∃ f inner scope', (members fields)[hop]? = some (.nested f inner) ∧ landing? f.type inner hops = some (scope', owner, last) ∧
      scope = if f.role = .embedded then some f.name else scope' := by
  rw [landing?] at lands
  split at lands
  · next f inner there =>
    obtain ⟨⟨scope', found⟩, lands, same⟩ := Option.map_eq_some_iff.mp lands
    cases same
    exact ⟨f, inner, scope', there, lands, rfl⟩
  · cases lands

theorem landing?_append {type owner : TypeName} {fields inner last : Fields} {hops more : List Nat}
    {scope scope' : Option String} {target : TypeName} (first : landing? type fields hops = some (scope, owner, inner))
    (second : landing? owner inner more = some (scope', target, last)) :
    landing? type fields (hops ++ more) = some (scope.or scope', target, last) := by
  induction hops generalizing type fields scope with
  | nil => cases first; exact second
  | cons hop hops ih =>
    obtain ⟨f, nested, scope, there, lands, rfl⟩ := landing?_cons_inv first
    rw [List.cons_append, landing?_cons there, ih lands, Option.map_some]
    by_cases embedded : f.role = .embedded
    · simp only [embedded, if_true, Option.some_or]
    · simp only [embedded, if_false]

/-- The setter leads from an entity of the type to one of its values, through the embedded field `scope` if through any. -/
def Leads (type : TypeName) (fields : Fields) (scope : Option String) (s : Setter) : Prop :=
  ∃ inner, landing? type fields s.hops = some (scope, s.owner, inner) ∧ (members inner)[s.position]? = some (.value s.field)

theorem Leads.hop {type : TypeName} {fields inner : Fields} {i : Nat} {f : NestedField} {scope : Option String}
    {s : Setter} (there : (members fields)[i]? = some (.nested f inner)) (leads : Leads f.type inner scope s) :
    Leads type fields (if f.role = .embedded then some f.name else scope) { s with hops := i :: s.hops } := by
  obtain ⟨last, lands, found⟩ := leads
  refine ⟨last, ?_, found⟩
  rw [landing?_cons there, lands, Option.map_some]

theorem Leads.unique {type : TypeName} {fields : Fields} {scope scope' : Option String} {s s' : Setter}
    (first : Leads type fields scope s) (second : Leads type fields scope' s') (hops : s.hops = s'.hops)
    (position : s.position = s'.position) : scope = scope' ∧ s.field = s'.field := by
  obtain ⟨inner, lands, found⟩ := first
  obtain ⟨inner', lands', found'⟩ := second
  rw [hops, lands'] at lands
  injection lands with same
  injection same with scopes same
  injection same with _ same
  rw [same, ← position, found] at found'
  injection found' with same
  injection same with same
  exact ⟨scopes.symm, same⟩

theorem mem_leaves_of_member {fields : Fields} {i : Nat} {f : ValueField} (there : (members fields)[i]? = some (.value f)) :
    f ∈ fields.leaves := by
  induction fields generalizing i with
  | nil => cases there
  | value g rest ih =>
    cases i with
    | zero => cases there; exact .head _
    | succ i => exact .tail _ (ih there)
  | nested g inner rest _ ih =>
    cases i with
    | zero => cases there
    | succ i => exact List.mem_append_right _ (ih there)
  | skipped name rest ih =>
    cases i with
    | zero => cases there
    | succ i => exact ih there

private theorem leaves_subset_of_member {fields inner : Fields} {i : Nat} {f : NestedField}
    (there : (members fields)[i]? = some (.nested f inner)) : inner.leaves ⊆ fields.leaves := by
  induction fields generalizing i with
  | nil => cases there
  | value g rest ih =>
    cases i with
    | zero => cases there
    | succ i => exact List.Subset.trans (ih there) (List.subset_cons_self ..)
  | nested g other rest _ ih =>
    cases i with
    | zero => cases there; exact List.subset_append_left ..
    | succ i => exact List.Subset.trans (ih there) (List.subset_append_right ..)
  | skipped name rest ih =>
    cases i with
    | zero => cases there
    | succ i => exact ih there

theorem Leads.mem_leaves {type : TypeName} {fields : Fields} {scope : Option String} {s : Setter}
    (leads : Leads type fields scope s) : s.field ∈ fields.leaves := by
  obtain ⟨last, lands, there⟩ := leads
  generalize s.hops = hops at lands
  induction hops generalizing type fields scope with
  | nil => cases lands; exact mem_leaves_of_member there
  | cons hop hops ih =>
    obtain ⟨f, inner, scope', member, lands, _⟩ := landing?_cons_inv lands
    exact leaves_subset_of_member member (ih lands)

/-- The value at a place, or the null of unknown kind when there is none. -/
def valueAt : Slots → List Nat → Nat → Value
  | slots, [], position => match (cells slots)[position]? with
    | some (.value v) => v
    | _ => .null
  | slots, hop :: hops, position => match (cells slots)[hop]? with
    | some (.present _ inner) => valueAt inner hops position
    | _ => .null

theorem Leads.holds {type : TypeName} {fields : Fields} {scope : Option String} {s : Setter}
    (leads : Leads type fields scope s) {slots : Slots} (whole : Whole fields slots) :
    Holds s.field (valueAt slots s.hops s.position) := by
  obtain ⟨last, lands, there⟩ := leads
  generalize s.hops = hops at lands
  induction hops generalizing type fields scope slots with
  | nil =>
    cases lands
    obtain ⟨v, cell, holds⟩ := whole.value there
    rw [valueAt, cell]
    exact holds
  | cons hop hops ih =>
    obtain ⟨f, inner, scope', member, lands, _⟩ := landing?_cons_inv lands
    obtain ⟨held, cell, whole⟩ := whole.nested member
    rw [valueAt, cell]
    exact ih whole lands

end EntityMapping.Proofs.EntityPlaces
