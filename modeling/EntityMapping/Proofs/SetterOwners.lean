import EntityMapping.Proofs.ColumnIndependence

/-! Setters reach the owners of their fields. The search keeps its hops on one stack and may come back from many nested fields, but
following the hops of a setter that it finds from an entity of the type ends at an entity that declares the field, unless an
optional one on the way is absent. -/

namespace EntityMapping.Proofs.SetterOwners
open Entity Rows EntityPlaces EntityWrites SetterResolution SetterSearch RowRoundTrip ColumnIndependence

/-- The entity that the hops lead to, by its type and its content. -/
def entity? (type : Nat) (slots : Slots) : List Nat → Option (Nat × Slots)
  | [] => some (type, slots)
  | hop :: hops => match (cells slots)[hop]? with
    | some (.present type inner) => entity? type inner hops
    | _ => none

/-- The hops come to an optional nested entity that is absent. -/
def StopsAtAbsent : Fields → Slots → List Nat → Prop
  | _, _, [] => False
  | fields, slots, hop :: hops => match (members fields)[hop]?, (cells slots)[hop]? with
    | some (.nested f _), some .absent => f.optional
    | some (.nested _ inner), some (.present _ held) => StopsAtAbsent inner held hops
    | _, _ => False

theorem reached?_eq (type : Nat) (slots : Slots) (hops : List Nat) :
    reached? type slots hops = (entity? type slots hops).map Prod.fst := by
  induction hops generalizing type slots with
  | nil => rfl
  | cons hop hops ih =>
    rw [reached?, entity?]
    cases (cells slots)[hop]? with
    | none => rfl
    | some cell =>
      cases cell with
      | present type inner => exact ih type inner
      | _ => rfl

theorem lands_in_entity {type owner : TypeName} {fields declared : Fields} {scope : Option String} {hops : List Nat}
    (lands : landing? type fields hops = some (scope, owner, declared)) {slots : Slots} (fit : fields.Fit slots) :
    (StopsAtAbsent fields slots hops ∧ entity? type.id slots hops = none) ∨
      ∃ held, entity? type.id slots hops = some (owner.id, held) ∧ declared.Fit held := by
  induction hops generalizing type fields scope slots with
  | nil =>
    cases lands
    exact .inr ⟨slots, rfl, fit⟩
  | cons hop hops ih =>
    obtain ⟨f, inner, scope', there, lands, _⟩ := landing?_cons_inv lands
    obtain ⟨cell, inSlots, suits⟩ := fit_cell fit there
    rw [StopsAtAbsent, entity?, there, inSlots]
    cases cell with
    | absent => exact .inl ⟨suits, rfl⟩
    | present kind held =>
      obtain ⟨same, fit⟩ := suits
      subst same
      exact ih lands fit
    | _ => cases suits

/-- The hops of a setter lead from every entity of the type to one of the type that declares the field, unless they stop at an
optional entity that is absent. -/
def PointsAtOwner (d : Definition) (s : Setter) : Prop :=
  ∃ scope declared, landing? d.type d.fields s.hops = some (scope, s.owner, declared) ∧
    (members declared)[s.position]? = some (.value s.field) ∧ ∀ o : Object, o.IsOf d →
      (StopsAtAbsent d.fields o.slots s.hops ∧ entity? o.type o.slots s.hops = none) ∨
        ∃ held, entity? o.type o.slots s.hops = some (s.owner.id, held) ∧ declared.Fit held

theorem findSetter?_pointsAtOwner {d : Definition} {embedding label : String} {s : Setter}
    (found : findSetter? d embedding label = some s) : PointsAtOwner d s := by
  obtain ⟨scope, ⟨declared, lands, there⟩, _⟩ := findSetter?_spec found
  refine ⟨scope, declared, lands, there, fun o of => ?_⟩
  rw [of.1]
  exact lands_in_entity lands of.2

/-- The type that a setter is handed is the one it expects. -/
theorem PointsAtOwner.reached?_eq {d : Definition} {s : Setter} (points : PointsAtOwner d s) {o : Object} (of : o.IsOf d) :
    reached? o.type o.slots s.hops = if (entity? o.type o.slots s.hops).isSome then some s.owner.id else none := by
  obtain ⟨scope, declared, lands, _, ends⟩ := points
  rw [SetterOwners.reached?_eq]
  obtain ⟨_, none⟩ | ⟨held, there, _⟩ := ends o of
  · rw [none]
    rfl
  · rw [there]
    rfl

/-- The column has a setter that may set it and whose entity is there, but the value does not convert to the type of the
field. -/
def unconverted (d : Definition) (o : Object) (cell : String × Value) : Bool :=
  (setterOf d cell.1).any fun s =>
    s.field.settable && s.field.mappable && (s.field.nullable || !cell.2.isNull) &&
      (entity? o.type o.slots s.hops).isSome && !(s.field.target.convert cell.2).isOk

theorem stored_conversionFailed_iff {s : Setter} {v : Value} {there : Bool} :
    stored s v (if there then some s.owner.id else none) = .error .conversionFailed ↔
      there && !(s.field.target.convert v).isOk := by
  cases there with
  | false => simp [stored]
  | true =>
    rw [if_pos rfl, stored, if_neg (by simp), ValueField.store]
    cases s.field.target.convert v <;> simp [Except.isOk, Except.toBool]

theorem outcome_conversionFailed_iff {d : Definition} {o : Object} (of : o.IsOf d) (cell : String × Value) :
    outcome d o cell = some .conversionFailed ↔ unconverted d o cell := by
  have failed : outcome d o cell = some .conversionFailed ↔ write d o cell = .error .conversionFailed := by
    rw [outcome, assigned_eq]
    cases write d o cell <;> simp [Except.map]
  rw [failed, write, unconverted]
  cases found : setterOf d cell.1 with
  | none => simp
  | some s =>
    have points : PointsAtOwner d s := findSetter?_pointsAtOwner found
    have converts := @stored_conversionFailed_iff s cell.2 (entity? o.type o.slots s.hops).isSome
    rw [← points.reached?_eq of] at converts
    dsimp only [Option.any_some]
    have unsupported : (!s.field.settable || !s.field.mappable) = !(s.field.settable && s.field.mappable) := (Bool.not_and ..).symm
    have refused : (cell.2.isNull && !s.field.nullable) = !(s.field.nullable || !cell.2.isNull) := by
      rw [Bool.not_or, Bool.not_not, Bool.and_comm]
    rw [unsupported, refused]
    cases s.field.settable && s.field.mappable with
    | false => simp
    | true =>
      cases s.field.nullable || !cell.2.isNull with
      | false => simp
      | true =>
        rw [if_neg (by decide), if_neg (by decide), Bool.true_and, Bool.true_and, ← converts]
        cases stored s cell.2 (reached? o.type o.slots s.hops) <;> simp [Except.map]

theorem foldl_record_conversionFailed (outcomes : List (Option Skip)) (counts : MappingCounts) :
    (outcomes.foldl record counts).conversionFailed = counts.conversionFailed + outcomes.count (some .conversionFailed) := by
  induction outcomes generalizing counts with
  | nil => rfl
  | cons result outcomes ih =>
    rw [List.foldl_cons, ih, List.count_cons, ← Nat.add_assoc, Nat.add_right_comm]
    cases result with
    | none => rfl
    | some skip => cases skip <;> rfl

theorem mapRowInto_conversionFailed {d : Definition} {start : MapperState} (answers : Answers start.setters d) {blank : Object}
    (of : blank.IsOf d) (row : Row) : (mapRowInto d blank row start).2.counts.conversionFailed =
      start.counts.conversionFailed + row.cells.countP (unconverted d blank) := by
  obtain ⟨setters, _, run⟩ := assignAll_eq ⟨rfl, rfl⟩ row.cells start answers
  have counted : (mapRowInto d blank row start).2.counts = ((row.cells.map (outcome d blank)).foldl record start.counts).recordRow :=
    congrArg (fun result => result.2.counts.recordRow) run
  rw [counted]
  refine (foldl_record_conversionFailed _ _).trans (congrArg _ ?_)
  rw [List.count, List.countP_map]
  apply List.countP_congr
  intro cell _
  rw [Function.comp_apply, beq_iff_eq]
  exact outcome_conversionFailed_iff of cell

/-- The setters of columns are found by the search with its stack, which finds what the search without it does; they point at the
owners of their fields, so a column fails to convert only when the conversion of its value does. -/
theorem setter_points_at_owner {lookups : List (Definition × String × String)} {d : Definition}
    (own : ∀ l ∈ lookups, l.1.type.id = d.type.id → l.1 = d) :
    (∀ embedding label, ((filledBy lookups).resolve d embedding label).1 = findSetter? d embedding label ∧
      findSetter? d embedding label = setter? d embedding label) ∧
    (∀ embedding label s, ((filledBy lookups).resolve d embedding label).1 = some s → PointsAtOwner d s) ∧
    ∀ blank : Object, blank.IsOf d → ∀ row counts,
      (mapRowInto d blank row ⟨filledBy lookups, counts⟩).2.counts.conversionFailed =
        counts.conversionFailed + row.cells.countP (unconverted d blank) := by
  have answers := answers_filledBy own
  refine ⟨fun embedding label => ⟨answers.resolve embedding label, findSetter?_eq d embedding label⟩,
    fun embedding label s resolved => ?_, fun blank of row counts => ?_⟩
  · rw [answers.resolve] at resolved
    exact findSetter?_pointsAtOwner resolved
  · exact mapRowInto_conversionFailed answers of row

/-- A type with two bases, the second of which may have a place with two bases of its own. -/
def branch : Definition where
  type := ⟨10, "Branch"⟩
  clauses := ⟨none, none, none, none⟩
  fields := .value ⟨"label", none, false, .text, false, true⟩ <|
    .nested ⟨"left", .base, false, ⟨11, "Left"⟩⟩
      (.nested ⟨"deeper", .base, false, ⟨12, "Deeper"⟩⟩ (.value ⟨"note", none, false, .text, true, true⟩ .nil) .nil) <|
    .nested ⟨"right", .base, false, ⟨13, "Right"⟩⟩
      (.nested ⟨"place", .embedded, true, ⟨14, "Place"⟩⟩
        (.nested ⟨"core", .base, false, ⟨15, "Core"⟩⟩ (.value ⟨"name", none, false, .text, true, true⟩ .nil) <|
          .nested ⟨"span", .base, false, ⟨16, "Span"⟩⟩ (.value ⟨"width", none, false, .int32, false, true⟩ .nil) .nil) .nil) .nil

/-- A branch with its place. -/
def placed : Object := ⟨10, .value (.varchar (some "")) <| .present 11 (.present 12 (.value (.varchar none) .nil) .nil) <|
  .present 13 (.present 14 (.present 15 (.value (.varchar none) .nil) <| .present 16 (.value (.int32 (some 0)) .nil) .nil) .nil) .nil⟩

def branchRow : Row := ⟨["PLACE$WIDTH", "LABEL", "PLACE$WIDTH"], [.varchar (some "wide"), .varchar (some "a"), .int32 (some 3)]⟩

/-- The search comes back from two bases before it finds the width, and the text for it is the only value not converted. -/
theorem branch_setters :
    placed.IsOf branch ∧
    ((filledBy [(branch, "PLACE", "WIDTH"), (account, "", "AGE")]).resolve branch "PLACE" "WIDTH").1.map
      (fun s => (s.hops, s.owner.name, s.field.name)) = some ([2, 0, 1], "Span", "width") ∧
    (mapRowInto branch placed branchRow
      ⟨filledBy [(branch, "PLACE", "WIDTH"), (account, "", "AGE")], {}⟩).2.counts.conversionFailed = 1 ∧
    (mapRow branch branchRow ⟨filledBy [(branch, "PLACE", "WIDTH"), (account, "", "AGE")], {}⟩).2.counts.conversionFailed = 0 := by
  have own : ∀ l ∈ [(branch, "PLACE", "WIDTH"), (account, "", "AGE")], l.1.type.id = branch.type.id → l.1 = branch := by
    intro l member same
    simp only [List.mem_cons, List.not_mem_nil, or_false] at member
    obtain rfl | rfl := member
    · rfl
    · exact absurd same (by decide)
  obtain ⟨search, _, failed⟩ := setter_points_at_owner own
  have of : placed.IsOf branch :=
    ⟨rfl, by simp [placed, branch, Fields.Fit, Scalar.null, Value.sameKind, Value.typeName]⟩
  have found : (findSetter? branch "PLACE" "WIDTH").map (fun s => (s.hops, s.owner.name, s.field.name)) =
      some ([2, 0, 1], "Span", "width") := by
    decide +kernel
  have one : branchRow.cells.countP (unconverted branch placed) = 1 := by decide +kernel
  have none : branchRow.cells.countP (unconverted branch branch.initial) = 0 := by decide +kernel
  refine ⟨of, (congrArg _ (search ..).1).trans found, ?_, ?_⟩
  · rw [failed placed of, one]
  · exact (failed _ (initial_isOf branch) branchRow {}).trans (congrArg _ none)

end EntityMapping.Proofs.SetterOwners
