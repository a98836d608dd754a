import EntityMapping.Proofs.SetterResolution

/-! Reading a path and resolving a label. Both walk through own fields, bases and embedded entities on their own, and on whole
entities they come to the same place. -/

namespace EntityMapping.Proofs.PathReading
open Entity Fields Rows Naming EntityPlaces NamingRoundTrip SetterResolution SetterSearch

private theorem ownSetter?_eq_none {fields : Fields} (named : WellNamed fields) {name : String}
    (nameNamed : IsFieldName name) (fresh : name ∉ fieldNames fields) (owner : TypeName) (i : Nat) :
    ownSetter? owner (columnName name) fields i = none := by
  induction fields generalizing i with
  | nil => rfl
  | value f rest ih =>
    obtain ⟨form, _, named⟩ := named.of_cons rfl
    have other : f.name ≠ name := fun same => fresh (same ▸ .head _)
    rw [ownSetter?, fits_eq nameNamed form, if_neg (by simpa using other)]
    exact ih named (fun member => fresh (.tail _ member)) (i + 1)
  | nested f inner rest _ ih => exact ih (named.of_cons rfl).2.2 (fun member => fresh (.tail _ member)) (i + 1)
  | skipped other rest ih => exact ih (named.of_cons rfl).2.2 (fun member => fresh (.tail _ member)) (i + 1)

theorem ownValue_name {fields : Fields} (named : WellNamed fields) {slots total : Slots} (whole : Whole fields slots)
    {i : Nat} (here : (cells total).drop i = cells slots) {name : String} (nameNamed : IsFieldName name)
    (owner : TypeName) :
    fields.ownValue slots name [] =
      (ownSetter? owner (columnName name) fields i).map fun s => some (valueAt total s.hops s.position) := by
  induction fields generalizing slots i with
  | nil => cases slots <;> rfl
  | value f rest ih =>
    obtain ⟨form, _, named⟩ := named.of_cons rfl
    cases slots with
    | value v slots =>
      obtain ⟨there, next⟩ := getElem?_of_drop here
      rw [ownValue, ownSetter?, fits_eq nameNamed form]
      split
      · simp only [Option.map_some, valueAt, there]
        rfl
      · exact ih named whole.2 next
    | _ => cases whole
  | nested f inner rest _ ih =>
    obtain ⟨form, fresh, named⟩ := named.of_cons rfl
    cases slots with
    | present type held slots =>
      obtain ⟨there, next⟩ := getElem?_of_drop here
      unfold ownValue
      rw [ownSetter?]
      split
      · next same =>
        rw [ownSetter?_eq_none named nameNamed (beq_iff_eq.mp same ▸ fresh)]
        cases f.role <;> rfl
      · exact ih named whole.2.2 next
    | _ => cases whole
  | skipped other rest ih =>
    obtain ⟨form, fresh, named⟩ := named.of_cons rfl
    cases slots with
    | skipped slots =>
      obtain ⟨there, next⟩ := getElem?_of_drop here
      rw [ownValue, ownSetter?]
      split
      · next same =>
        rw [ownSetter?_eq_none named nameNamed (beq_iff_eq.mp same ▸ fresh)]
        rfl
      · exact ih named whole next
    | _ => cases whole

private theorem getD_or {found : Option Setter} {other : Option Value} {read : Setter → Value} :
    ((found.map fun s => some (read s)).getD other) = (found.map read).or other := by
  cases found <;> rfl

theorem baseValue_name {fields : Fields} (named : InNested WellNamed fields) {slots total : Slots}
    (whole : Whole fields slots) {i : Nat} (here : (cells total).drop i = cells slots) {name : String}
    (nameNamed : IsFieldName name) :
    fields.baseValue slots name [] =
      (nestedSetter? false (columnName name) fields i).map fun s => valueAt total s.hops s.position := by
  induction fields generalizing slots total i with
  | nil => cases slots <;> rfl
  | value f rest ih =>
    cases slots with
    | value v slots => exact ih named whole.2 (getElem?_of_drop here).2
    | _ => cases whole
  | nested f inner rest ihInner ih =>
    obtain ⟨⟨innerNamed, deeper⟩, named⟩ := named
    cases slots with
    | present type held slots =>
      obtain ⟨there, next⟩ := getElem?_of_drop here
      obtain ⟨same, wholeHeld, whole⟩ := whole
      rw [baseValue, nestedSetter?, ih named whole next, Option.map_or, Option.map_map]
      cases role : f.role with
      | base =>
        have inside := ownValue_name innerNamed wholeHeld (List.drop_zero (l := cells held)) nameNamed f.type
        rw [inside, ihInner deeper wholeHeld (List.drop_zero (l := cells held)), getD_or, ← Option.map_or]
        simp only [same, beq_self_eq_true, if_true, Bool.false_or]
        congr 2
        funext s
        simp only [Function.comp_apply, valueAt, there]
      | embedded => rfl
    | _ => cases whole
  | skipped other rest ih =>
    cases slots with
    | skipped slots => exact ih named whole (getElem?_of_drop here).2
    | _ => cases whole

theorem plainValue {fields : Fields} (named : EveryType WellNamed fields) {slots : Slots} (whole : Whole fields slots)
    {name : String} (nameNamed : IsFieldName name) (type : TypeName) :
    (fields.ownValue slots name []).getD (fields.baseValue slots name []) =
      (searched? false type (columnName name) fields).map fun s => valueAt slots s.hops s.position := by
  rw [ownValue_name named.1 whole (List.drop_zero (l := cells slots)) nameNamed type,
    baseValue_name named.2 whole (List.drop_zero (l := cells slots)) nameNamed, getD_or, searched?, Option.map_or]

/-- The value that a label finds in an embedded entity. -/
private def valueIn (total : Slots) (label : String) (embedded : Embedded) : Option Value :=
  (searched? false embedded.2.1 label embedded.2.2).map fun s => valueAt total (embedded.1 ++ s.hops) s.position

private theorem valueIn_hop {total held : Slots} {i type : Nat} (there : (cells total)[i]? = some (.present type held))
    (label : String) (hops : List Nat) (owner : TypeName) (inner : Fields) :
    valueIn total label (i :: hops, owner, inner) = valueIn held label (hops, owner, inner) := by
  unfold valueIn
  congr 1
  funext s
  rw [List.cons_append, valueAt, there]

theorem ownValue_key {fields : Fields} (named : EveryType WellNamed fields) {slots total : Slots}
    (whole : Whole fields slots) {i : Nat} (here : (cells total).drop i = cells slots) {owner name : String}
    (ownerNamed : IsFieldName owner) (nameNamed : IsFieldName name) :
    fields.ownValue slots owner [name] = (ownEmbedded? (columnName owner) fields i).map (valueIn total (columnName name)) := by
  obtain ⟨named, deeper⟩ := named
  induction fields generalizing slots i with
  | nil => cases slots <;> rfl
  | value f rest ih =>
    obtain ⟨form, fresh, named⟩ := named.of_cons rfl
    cases slots with
    | value v slots =>
      rw [ownValue, ownEmbedded?]
      split
      · next same =>
        rw [ownEmbedded?_eq_none named ownerNamed (beq_iff_eq.mp same ▸ fresh)]
        rfl
      · exact ih whole.2 (getElem?_of_drop here).2 named deeper
    | _ => cases whole
  | nested f inner rest _ ih =>
    obtain ⟨form, fresh, named⟩ := named.of_cons rfl
    obtain ⟨innerNamed, deeper⟩ := deeper
    cases slots with
    | present type held slots =>
      obtain ⟨there, next⟩ := getElem?_of_drop here
      obtain ⟨sameType, wholeHeld, whole⟩ := whole
      unfold ownValue
      rw [ownEmbedded?, fits_eq ownerNamed form]
      by_cases same : f.name = owner
      · cases role : f.role with
        | embedded =>
          have inside := plainValue innerNamed wholeHeld nameNamed f.type
          have place : valueIn total (columnName name) ([i], f.type, inner) =
              (searched? false f.type (columnName name) inner).map fun s => valueAt held s.hops s.position := by
            rw [valueIn_hop there]
            rfl
          simp only [same, sameType, beq_self_eq_true, Bool.and_true, if_true, Option.map_some, place, inside]
        | base =>
          rw [if_pos (by simpa using same), if_neg (by simp), ownEmbedded?_eq_none named ownerNamed (same ▸ fresh)]
          rfl
      · rw [if_neg (by simpa using same), if_neg (by simp [same])]
        exact ih whole next named deeper
    | _ => cases whole
  | skipped other rest ih =>
    obtain ⟨form, fresh, named⟩ := named.of_cons rfl
    cases slots with
    | skipped slots =>
      rw [ownValue, ownEmbedded?]
      split
      · next same =>
        rw [ownEmbedded?_eq_none named ownerNamed (beq_iff_eq.mp same ▸ fresh)]
        rfl
      · exact ih whole (getElem?_of_drop here).2 named deeper
    | _ => cases whole

private theorem getD_bind {own base : Option Embedded} {read : Embedded → Option Value} {other : Option Value}
    (rest : own = none → other = base.bind read) : (own.map read).getD other = (own.or base).bind read := by
  cases own with
  | none => exact rest rfl
  | some embedded => rfl

/-- A base without the value under the embedded name would let the next one be read, but not be written. -/
theorem baseValue_key {fields : Fields} (named : InNested WellNamed fields) {slots total : Slots}
    (whole : Whole fields slots) {i : Nat} (here : (cells total).drop i = cells slots) {owner name : String}
    (ownerNamed : IsFieldName owner) (nameNamed : IsFieldName name)
    (inside : ∀ hops type inner, baseEmbedded? (columnName owner) fields i = some (hops, type, inner) → (searched? false type (columnName name) inner).isSome) :
    fields.baseValue slots owner [name] = (baseEmbedded? (columnName owner) fields i).bind (valueIn total (columnName name)) := by
  induction fields generalizing slots total i with
  | nil => cases slots <;> rfl
  | value f rest ih =>
    cases slots with
    | value v slots => exact ih named whole.2 (getElem?_of_drop here).2 inside
    | _ => cases whole
  | nested f inner rest ihInner ih =>
    obtain ⟨⟨innerNamed, deeper⟩, named⟩ := named
    cases slots with
    | present type held slots =>
      obtain ⟨there, next⟩ := getElem?_of_drop here
      obtain ⟨sameType, wholeHeld, whole⟩ := whole
      rw [baseEmbedded?] at inside
      rw [baseValue, baseEmbedded?]
      cases role : f.role with
      | base =>
        simp only [role, sameType, beq_self_eq_true, if_true] at inside ⊢
        rw [ownValue_key ⟨innerNamed, deeper⟩ wholeHeld (List.drop_zero (l := cells held)) ownerNamed nameNamed,
          getD_bind fun none => ihInner deeper wholeHeld (List.drop_zero (l := cells held)) fun hops type last found =>
            inside (i :: hops) type last (by rw [none, found]; rfl)]
        cases found : (ownEmbedded? (columnName owner) inner 0).or (baseEmbedded? (columnName owner) inner 0) with
        | none =>
          rw [found] at inside
          exact ih named whole next inside
        | some embedded =>
          obtain ⟨hops, type, last⟩ := embedded
          rw [found] at inside
          obtain ⟨s, found⟩ := Option.isSome_iff_exists.mp (inside (i :: hops) type last rfl)
          have value : valueIn held (columnName name) (hops, type, last) = some (valueAt held (hops ++ s.hops) s.position) := by
            rw [valueIn, found]
            rfl
          simp only [Option.bind_some, Option.map_some, Option.some_or, valueIn_hop there, value]
      | embedded =>
        simp only [role] at inside
        exact ih named whole next inside
    | _ => cases whole
  | skipped other rest ih =>
    cases slots with
    | skipped slots => exact ih named whole (getElem?_of_drop here).2 inside
    | _ => cases whole

/-- The object is of the type, with every nested entity and no null where none may be. -/
def WholeOf (o : Object) (d : Definition) : Prop := o.type = d.type.id ∧ Whole d.fields o.slots

variable {d : Definition} {o : Object}

theorem WholeOf.isOf (whole : WholeOf o d) : o.IsOf d := ⟨whole.1, whole.2.fit⟩

theorem read_name (named : EveryType WellNamed d.fields) (whole : WholeOf o d) {name : String}
    (nameNamed : IsFieldName name) :
    d.read o name = (findSetter? d "" (columnName name)).map fun s => valueAt o.slots s.hops s.position := by
  rw [Definition.read, if_neg (by simp [whole.1]), pathNames_name nameNamed, findSetter?_plain]
  exact plainValue named whole.2 nameNamed d.type

/-- The fields have no nested entities among them. -/
def OnlyValues : Fields → Prop
  | .nil => True
  | .value _ rest => OnlyValues rest
  | .nested _ _ _ => False
  | .skipped _ rest => OnlyValues rest

private theorem nestedSetter?_onlyValues {fields : Fields} (only : OnlyValues fields) (flat : Bool) (label : String)
    (i : Nat) : nestedSetter? flat label fields i = none := by
  induction fields generalizing i with
  | nil => rfl
  | value f rest ih => exact ih only (i + 1)
  | nested f inner rest => cases only
  | skipped name rest ih => exact ih only (i + 1)

theorem read_key (named : EveryType WellNamed d.fields) (whole : WholeOf o d) {owner name : String}
    (ownerNamed : IsFieldName owner) (nameNamed : IsFieldName name) {hops : List Nat} {type : TypeName} {inner : Fields}
    (found : embedded? (columnName owner) d.fields = some (hops, type, inner)) (only : OnlyValues inner)
    (member : name ∈ inner.leaves.map (·.name)) :
    d.read o (owner ++ "$" ++ name) =
      (findSetter? d (columnName owner) (columnName name)).map fun s => valueAt o.slots s.hops s.position := by
  obtain ⟨f, leaf, rfl⟩ := List.mem_map.mp member
  have inside : (searched? false type (columnName f.name) inner).isSome := by
    have some := setter?_of_leaf (fits_own f.name) leaf type 0
    rwa [nestedSetter?_onlyValues only, ← nestedSetter?_onlyValues only false] at some
  have value : d.read o (owner ++ "$" ++ f.name) = valueIn o.slots (columnName f.name) (hops, type, inner) := by
    rw [Definition.read, if_neg (by simp [whole.1]), pathNames_key ownerNamed nameNamed]
    dsimp only
    rw [ownValue_key named whole.2 (List.drop_zero (l := cells o.slots)) ownerNamed nameNamed, getD_bind, ← embedded?, found]
    · rfl
    · intro none
      apply baseValue_key named.2 whole.2 (List.drop_zero (l := cells o.slots)) ownerNamed nameNamed
      intro hops' type' inner' same
      rw [embedded?, none, Option.none_or, same] at found
      cases found
      exact inside
  have setter : findSetter? d (columnName owner) (columnName f.name) =
      (searched? false type (columnName f.name) inner).map fun s => { s with hops := hops ++ s.hops } := by
    rw [findSetter?_under d ownerNamed.columnName_ne_empty, found, Option.bind_some]
    simp only [searched?, nestedSetter?_onlyValues only]
  rw [value, setter, Option.map_map]
  rfl

end EntityMapping.Proofs.PathReading
