import EntityMapping.Proofs.EntityWrites

/-! The places that paths lead to. The type alone decides which path leads to a value, and to which field: reading gives the
value at the place, or the null of the field when an entity on the way is absent. -/

namespace EntityMapping.Proofs.PathPlaces
open Entity Fields Rows EntityPlaces EntityWrites

/-- The same place when one more field stands in front. -/
def behind (s : Setter) : Setter :=
  match s.hops with
  | [] => { s with position := s.position + 1 }
  | hop :: hops => { s with hops := (hop + 1) :: hops }

/-- A place of the entity that is nested in the first field. -/
def within (s : Setter) : Setter := { s with hops := 0 :: s.hops }

@[simp] theorem behind_field (s : Setter) : (behind s).field = s.field := by
  unfold behind
  split <;> rfl

theorem leads_behind {type : TypeName} {fields longer : Fields} {m : Member} (shape : members longer = m :: members fields)
    {scope : Option String} {s : Setter} (leads : Leads type fields scope s) : Leads type longer scope (behind s) := by
  obtain ⟨inner, lands, found⟩ := leads
  unfold behind
  split
  · next here =>
    rw [here] at lands
    cases lands
    exact ⟨longer, by rw [here]; rfl, by rw [shape]; exact found⟩
  · next hop hops here =>
    rw [here] at lands
    obtain ⟨f, nested, scope', there, below, rfl⟩ := landing?_cons_inv lands
    have there : (members longer)[hop + 1]? = some (.nested f nested) := by rw [shape]; exact there
    refine ⟨inner, ?_, found⟩
    rw [landing?_cons there, below, Option.map_some]

mutual

/-- What the first field of the name decides: the place that the path leads to, or that it leads nowhere. -/
def ownPlace (owner : TypeName) : Fields → String → List String → Option (Option Setter)
  | .nil, _, _ => none
  | .value f rest, name, path =>
    if f.name == name then if path.isEmpty then some (some ⟨[], owner, 0, f⟩) else none
    else (ownPlace owner rest name path).map (·.map behind)
  | .nested f inner rest, name, path =>
    if f.name == name then match f.role, path with
      | .embedded, name :: path => some (((ownPlace f.type inner name path).getD (basePlace inner name path)).map within)
      | _, _ => none
    else (ownPlace owner rest name path).map (·.map behind)
  | .skipped n rest, name, path => if n == name then none else (ownPlace owner rest name path).map (·.map behind)

/-- The place that the path leads to in the first base where it leads to one. -/
def basePlace : Fields → String → List String → Option Setter
  | .nil, _, _ => none
  | .value _ rest, name, path => (basePlace rest name path).map behind
  | .nested f inner rest, name, path =>
    match f.role with
    | .base =>
      (((ownPlace f.type inner name path).getD (basePlace inner name path)).map within).or ((basePlace rest name path).map behind)
    | .embedded => (basePlace rest name path).map behind
  | .skipped _ rest, name, path => (basePlace rest name path).map behind

end

/-- The place that a path leads to, for entities of the type that have all that is nested in them as well as for others. -/
def place? (type : TypeName) (fields : Fields) : List String → Option Setter
  | [] => none
  | name :: path => (ownPlace type fields name path).getD (basePlace fields name path)

/-- The setter leads to the field that the path ends with, through an embedded entity if the path has more than one name. -/
structure Named (type : TypeName) (fields : Fields) (name : String) (path : List String) (s : Setter) : Prop where
  leads : ∃ scope, Leads type fields scope s ∧ (scope = none ↔ path = [])
  field : path = [] → s.field.name = name

variable {type : TypeName} {name : String} {path : List String}

theorem Named.behind {fields longer : Fields} {m : Member} (shape : members longer = m :: members fields) {s : Setter}
    (named : Named type fields name path s) : Named type longer name path (behind s) := by
  obtain ⟨⟨scope, leads, plain⟩, field⟩ := named
  exact ⟨⟨scope, leads_behind shape leads, plain⟩, fun single => by rw [behind_field, field single]⟩

theorem Named.embedded {f : NestedField} {inner rest : Fields} (role : f.role = .embedded) {next : String} {s : Setter}
    (named : Named f.type inner next path s) : Named type (.nested f inner rest) name (next :: path) (within s) := by
  obtain ⟨⟨scope, leads, _⟩, _⟩ := named
  refine ⟨⟨_, leads.hop rfl, ?_⟩, fun nothing => by cases nothing⟩
  simp [role]

theorem Named.base {f : NestedField} {inner rest : Fields} (role : f.role = .base) {s : Setter}
    (named : Named f.type inner name path s) : Named type (.nested f inner rest) name path (within s) := by
  obtain ⟨⟨scope, leads, plain⟩, field⟩ := named
  refine ⟨⟨_, leads.hop rfl, ?_⟩, field⟩
  simpa [role] using plain

theorem map_behind_eq {found : Option (Option Setter)} {s : Setter}
    (same : found.map (·.map behind) = some (some s)) : ∃ s', found = some (some s') ∧ behind s' = s := by
  obtain ⟨place, found, same⟩ := Option.map_eq_some_iff.mp same
  obtain ⟨s', rfl, rfl⟩ := Option.map_eq_some_iff.mp same
  exact ⟨s', found, rfl⟩

theorem getD_eq_some {own : Option (Option Setter)} {base : Option Setter} {s : Setter}
    (found : own.getD base = some s) : own = some (some s) ∨ base = some s := by
  cases own with
  | none => exact .inr found
  | some place => exact .inl (congrArg some found)

theorem places_named (type : TypeName) (fields : Fields) (name : String) (path : List String) :
    (∀ s, ownPlace type fields name path = some (some s) → Named type fields name path s) ∧
      ∀ s, basePlace fields name path = some s → Named type fields name path s := by
  induction fields generalizing type name path with
  | nil => constructor <;> (intro s none; cases none)
  | value f rest ih =>
    obtain ⟨own, base⟩ := ih type name path
    constructor
    · intro s found
      rw [ownPlace] at found
      split at found
      · next same =>
        split at found
        · next last =>
          cases found
          obtain rfl := List.isEmpty_iff.mp last
          exact ⟨⟨none, ⟨_, rfl, rfl⟩, by simp⟩, fun _ => beq_iff_eq.mp same⟩
        · cases found
      · obtain ⟨s', inside, rfl⟩ := map_behind_eq found
        exact (own s' inside).behind rfl
    · intro s found
      obtain ⟨s', inside, rfl⟩ := Option.map_eq_some_iff.mp found
      exact (base s' inside).behind rfl
  | nested f inner rest ihInner ih =>
    obtain ⟨own, base⟩ := ih type name path
    have held : ∀ name path s, (ownPlace f.type inner name path).getD (basePlace inner name path) = some s →
        Named f.type inner name path s := by
      intro name path s found
      obtain ⟨own, base⟩ := ihInner f.type name path
      exact (getD_eq_some found).elim (own s) (base s)
    constructor
    · intro s found
      unfold ownPlace at found
      split at found
      · split at found
        · next role =>
          obtain ⟨s', inside, rfl⟩ := Option.map_eq_some_iff.mp (Option.some.inj found)
          exact (held _ _ s' inside).embedded role
        · cases found
      · obtain ⟨s', inside, rfl⟩ := map_behind_eq found
        exact (own s' inside).behind rfl
    · intro s found
      rw [basePlace] at found
      split at found
      · next role =>
        rw [Option.or_eq_some_iff] at found
        obtain found | ⟨_, found⟩ := found
        · obtain ⟨s', inside, rfl⟩ := Option.map_eq_some_iff.mp found
          exact (held _ _ s' inside).base role
        · obtain ⟨s', inside, rfl⟩ := Option.map_eq_some_iff.mp found
          exact (base s' inside).behind rfl
      · obtain ⟨s', inside, rfl⟩ := Option.map_eq_some_iff.mp found
        exact (base s' inside).behind rfl
  | skipped other rest ih =>
    obtain ⟨own, base⟩ := ih type name path
    constructor
    · intro s found
      rw [ownPlace] at found
      split at found
      · cases found
      · obtain ⟨s', inside, rfl⟩ := map_behind_eq found
        exact (own s' inside).behind rfl
    · intro s found
      obtain ⟨s', inside, rfl⟩ := Option.map_eq_some_iff.mp found
      exact (base s' inside).behind rfl

/-- The value at a place; `none` when an entity on the way is absent. -/
def value? : Slots → List Nat → Nat → Option Value
  | slots, [], position => match (cells slots)[position]? with
    | some (.value v) => some v
    | _ => none
  | slots, hop :: hops, position => match (cells slots)[hop]? with
    | some (.present _ inner) => value? inner hops position
    | _ => none

/-- What a place reads as: the null of its field when there is no value. -/
def shown (slots : Slots) (s : Setter) : Value := (value? slots s.hops s.position).getD s.field.missing

/-- The null of the field at a place. -/
def nullOf (s : Setter) : Value := s.field.missing

theorem shown_behind {slots longer : Slots} {c : Cell} (shape : cells longer = c :: cells slots) (s : Setter) :
    shown longer (behind s) = shown slots s := by
  obtain ⟨hops, owner, position, field⟩ := s
  cases hops <;> simp [shown, behind, value?, shape]

@[simp] theorem nullOf_behind (s : Setter) : nullOf (behind s) = nullOf s := by
  rw [nullOf, behind_field, nullOf]

/-- A reading of places that gives for the rest of the fields what it gives for all of them. -/
private theorem map_behind {α : Type} {read read' : Setter → α} (same : ∀ s, read (behind s) = read' s)
    (found : Option Setter) : (found.map behind).map read = found.map read' := by
  cases found with
  | none => rfl
  | some s => exact congrArg some (same s)

private theorem map_getD {α : Type} (read : Setter → α) (own : Option (Option Setter)) (base : Option Setter) :
    (own.map (·.map read)).getD (base.map read) = (own.getD base).map read := by
  cases own <;> rfl

theorem nulls_eq (type : TypeName) (fields : Fields) (name : String) (path : List String) :
    fields.ownNull name path = (ownPlace type fields name path).map (·.map nullOf) ∧
      fields.baseNull name path = (basePlace fields name path).map nullOf := by
  induction fields generalizing type name path with
  | nil => exact ⟨rfl, rfl⟩
  | value f rest ih =>
    obtain ⟨own, base⟩ := ih type name path
    constructor
    · rw [ownNull, ownPlace]
      split
      · split <;> rfl
      · simp only [own, Option.map_map, Function.comp_def, map_behind nullOf_behind]
    · rw [baseNull, basePlace, base, map_behind nullOf_behind]
  | nested f inner rest ihInner ih =>
    obtain ⟨own, base⟩ := ih type name path
    have held : ∀ name path, (inner.ownNull name path).getD (inner.baseNull name path) =
        (((ownPlace f.type inner name path).getD (basePlace inner name path)).map within).map nullOf := by
      intro name path
      obtain ⟨own, base⟩ := ihInner f.type name path
      rw [own, base, map_getD, Option.map_map]
      rfl
    constructor
    · unfold ownNull ownPlace
      split
      · cases f.role with
        | base => rfl
        | embedded =>
          cases path with
          | nil => rfl
          | cons next path => exact congrArg some (held next path)
      · simp only [own, Option.map_map, Function.comp_def, map_behind nullOf_behind]
    · rw [baseNull, basePlace, base]
      cases f.role with
      | base =>
        dsimp only
        rw [held, Option.map_or, map_behind nullOf_behind]
      | embedded => exact (map_behind nullOf_behind _).symm
  | skipped other rest ih =>
    obtain ⟨own, base⟩ := ih type name path
    constructor
    · rw [ownNull, ownPlace]
      split
      · rfl
      · simp only [own, Option.map_map, Function.comp_def, map_behind nullOf_behind]
    · rw [baseNull, basePlace, base, map_behind nullOf_behind]

theorem nullAt_eq_place (type : TypeName) (fields : Fields) (names : List String) :
    fields.nullAt names = (place? type fields names).map nullOf := by
  cases names with
  | nil => rfl
  | cons name path =>
    obtain ⟨own, base⟩ := nulls_eq type fields name path
    rw [nullAt, place?, own, base, map_getD]

/-- Reading gives what the place of a path shows. Below an absent entity it follows the type alone, and every place there shows its
null. -/
theorem values_eq (type : TypeName) {fields : Fields} {slots : Slots} (fit : fields.Fit slots) (name : String)
    (path : List String) :
    fields.ownValue slots name path = (ownPlace type fields name path).map (·.map (shown slots)) ∧
      fields.baseValue slots name path = (basePlace fields name path).map (shown slots) := by
  induction fields generalizing type slots name path with
  | nil => cases slots <;> exact ⟨rfl, rfl⟩
  | value f rest ih =>
    cases slots with
    | value v slots =>
      obtain ⟨own, base⟩ := ih type fit.2 name path
      have later : ∀ s, shown (.value v slots) (behind s) = shown slots s := shown_behind rfl
      constructor
      · rw [ownValue, ownPlace]
        split
        · split <;> rfl
        · simp only [own, Option.map_map, Function.comp_def, map_behind later]
      · rw [baseValue, basePlace, base, map_behind later]
    | _ => cases fit
  | nested f inner rest ihInner ih =>
    cases slots with
    | present kind heldSlots slots =>
      obtain ⟨rfl, fitHeld, fit⟩ := fit
      obtain ⟨own, base⟩ := ih type fit name path
      have later : ∀ s, shown (.present f.type.id heldSlots slots) (behind s) = shown slots s := shown_behind rfl
      have held : ∀ name path, (inner.ownValue heldSlots name path).getD (inner.baseValue heldSlots name path) =
          (((ownPlace f.type inner name path).getD (basePlace inner name path)).map within).map
            (shown (.present f.type.id heldSlots slots)) := by
        intro name path
        obtain ⟨own, base⟩ := ihInner f.type fitHeld name path
        rw [own, base, map_getD, Option.map_map]
        rfl
      constructor
      · unfold ownValue ownPlace
        split
        · cases f.role with
          | base => rfl
          | embedded =>
            cases path with
            | nil => rfl
            | cons next path => simp only [beq_self_eq_true, if_true, held, Option.map_some]
        · simp only [own, Option.map_map, Function.comp_def, map_behind later]
      · rw [baseValue, basePlace, base]
        cases f.role with
        | base => simp only [beq_self_eq_true, if_true, held, Option.map_or, map_behind later]
        | embedded => exact (map_behind later _).symm
    | absent slots =>
      obtain ⟨own, base⟩ := ih type fit.2 name path
      have later : ∀ s, shown (.absent slots) (behind s) = shown slots s := shown_behind rfl
      have missing : ∀ names, inner.nullAt names = ((place? f.type inner names).map within).map (shown (.absent slots)) := by
        intro names
        rw [nullAt_eq_place f.type, Option.map_map]
        rfl
      constructor
      · unfold ownValue ownPlace
        split
        · cases f.role with
          | base => rfl
          | embedded =>
            cases path with
            | nil => rfl
            | cons next path => exact congrArg some (missing (next :: path))
        · simp only [own, Option.map_map, Function.comp_def, map_behind later]
      · rw [baseValue, basePlace, base]
        cases f.role with
        | base =>
          dsimp only
          rw [missing, place?, Option.map_or, map_behind later]
        | embedded => exact (map_behind later _).symm
    | _ => cases fit
  | skipped other rest ih =>
    cases slots with
    | skipped slots =>
      obtain ⟨own, base⟩ := ih type (show rest.Fit slots from fit) name path
      have later : ∀ s, shown (.skipped slots) (behind s) = shown slots s := shown_behind rfl
      constructor
      · rw [ownValue, ownPlace]
        split
        · rfl
        · simp only [own, Option.map_map, Function.comp_def, map_behind later]
      · rw [baseValue, basePlace, base, map_behind later]
    | _ => cases fit

theorem kind_of_leads {fields : Fields} {scope : Option String} {s : Setter} (leads : Leads type fields scope s)
    {slots : Slots} (fit : fields.Fit slots) {v : Value} (found : value? slots s.hops s.position = some v) :
    v.sameKind s.field.scalar.null := by
  obtain ⟨last, lands, there⟩ := leads
  generalize s.hops = hops at lands found
  induction hops generalizing type fields scope slots with
  | nil =>
    cases lands
    obtain ⟨w, cell, kind⟩ := fit_value fit there
    rw [value?, cell] at found
    cases found
    exact kind
  | cons hop hops ih =>
    obtain ⟨f, inner, scope', member, lands, _⟩ := landing?_cons_inv lands
    rw [value?] at found
    obtain absent | ⟨held, present, fitHeld⟩ := fit_nested fit member
    · rw [absent] at found
      cases found
    · rw [present] at found
      exact ih fitHeld lands found

theorem missing_kind {f : ValueField} (mappable : f.mappable) : f.missing.sameKind f.scalar.null := by
  rw [ValueField.missing, if_pos mappable]
  cases f.scalar <;> rfl

variable {d : Definition} {o : Object}

/-- The place of a path given as text. -/
def fieldAt? (d : Definition) (path : String) : Option Setter := place? d.type d.fields (pathNames path)

theorem read_eq (of : o.IsOf d) (path : String) : d.read o path = (fieldAt? d path).map (shown o.slots) := by
  rw [Definition.read, if_neg (by simp [of.1]), fieldAt?]
  cases pathNames path with
  | nil => rfl
  | cons name names =>
    obtain ⟨own, base⟩ := values_eq d.type of.2 name names
    dsimp only
    rw [place?, own, base, map_getD]

theorem fieldAt?_leads {path : String} {s : Setter} (found : fieldAt? d path = some s) :
    ∃ scope, Leads d.type d.fields scope s := by
  unfold fieldAt? place? at found
  split at found
  · cases found
  · next name names _ =>
    obtain ⟨own, base⟩ := places_named d.type d.fields name names
    obtain ⟨scope, leads, _⟩ := ((getD_eq_some found).elim (own s) (base s)).leads
    exact ⟨scope, leads⟩

/-- Which paths can be read depends on the type only, and so does the kind of what is read from a field of a mappable type,
whichever nested entities are absent. -/
theorem readable_by_type (of : o.IsOf d) (path : String) :
    ((d.read o path).isSome ↔ (d.fields.nullAt (pathNames path)).isSome) ∧
    (∀ o', o'.IsOf d → ((d.read o' path).isSome ↔ (d.read o path).isSome)) ∧
    ∀ v, d.read o path = some v → ∃ s, fieldAt? d path = some s ∧ v = shown o.slots s ∧
      d.fields.nullAt (pathNames path) = some s.field.missing ∧ (s.field.mappable → v.sameKind s.field.missing) := by
  have null := nullAt_eq_place d.type d.fields (pathNames path)
  refine ⟨?_, fun o' of' => ?_, fun v read => ?_⟩
  · rw [read_eq of, null, Option.isSome_map, Option.isSome_map, fieldAt?]
  · rw [read_eq of, read_eq of', Option.isSome_map, Option.isSome_map]
  · rw [read_eq of] at read
    obtain ⟨s, found, rfl⟩ := Option.map_eq_some_iff.mp read
    refine ⟨s, found, rfl, by rw [null, ← fieldAt?, found]; rfl, fun mappable => ?_⟩
    have known : s.field.missing = s.field.scalar.null := if_pos mappable
    rw [shown]
    cases value : value? o.slots s.hops s.position with
    | none => exact known ▸ missing_kind mappable
    | some v =>
      obtain ⟨scope, leads⟩ := fieldAt?_leads found
      exact known ▸ kind_of_leads leads of.2 value

/-- An embedded entity and a base that may both be absent. -/
def visit : Definition where
  type := ⟨0, "Visit"⟩
  clauses := ⟨none, none, none, none⟩
  fields := .value ⟨"id", none, false, .text, true, true⟩
    (.nested ⟨"home", .embedded, true, ⟨1, "Address"⟩⟩ (.value ⟨"city", none, false, .text, true, true⟩ .nil)
      (.nested ⟨"audit", .base, true, ⟨2, "Audit"⟩⟩ (.value ⟨"version", none, false, .int32, false, true⟩ .nil) .nil))

def bareVisit : Object := ⟨0, .value (.varchar none) (.absent (.absent .nil))⟩

def wholeVisit : Object where
  type := 0
  slots := .value (.varchar (some "7")) (.present 1 (.value (.varchar (some "Rome")) .nil)
    (.present 2 (.value (.int32 (some 3)) .nil) .nil))

theorem readable_by_type_visit :
    ((visit.read wholeVisit "version").isSome ↔ (visit.read bareVisit "version").isSome) ∧
      visit.read bareVisit "version" = some (.int32 none) ∧ visit.read wholeVisit "home$city" = some (.varchar (some "Rome")) ∧
      (Value.varchar (some "Rome")).sameKind (.varchar none) := by
  have bare : bareVisit.IsOf visit := by
    simp [Object.IsOf, bareVisit, visit, Fields.Fit, Value.sameKind, Value.typeName, Scalar.null]
  have whole : wholeVisit.IsOf visit := by
    simp [Object.IsOf, wholeVisit, visit, Fields.Fit, Value.sameKind, Value.typeName, Scalar.null]
  have version : visit.read bareVisit "version" = some (.int32 none) := by cbv
  have city : visit.read wholeVisit "home$city" = some (.varchar (some "Rome")) := by cbv
  refine ⟨(readable_by_type bare "version").2.1 wholeVisit whole, version, city, ?_⟩
  obtain ⟨s, found, _, _, kind⟩ := (readable_by_type whole "home$city").2.2 _ city
  have field : s.field = ⟨"city", none, false, .text, true, true⟩ := by
    have leads : (fieldAt? visit "home$city").map (·.field) = some ⟨"city", none, false, .text, true, true⟩ := rfl
    rw [found] at leads
    exact Option.some.inj leads
  rw [field] at kind
  exact kind rfl

end EntityMapping.Proofs.PathPlaces
