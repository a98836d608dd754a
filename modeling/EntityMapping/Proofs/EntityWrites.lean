import EntityMapping.Proofs.EntityPlaces

/-! Writes at places in entities. A write changes the value at its place and nothing else, and two writes at different places
commute. What a setter stores, and where, depends on the entity only by its outline: which nested entities are there. -/

namespace EntityMapping.Proofs.EntityWrites
open Entity Rows EntityPlaces

def ofCells : List Cell → Slots
  | [] => .nil
  | .value v :: rest => .value v (ofCells rest)
  | .present type inner :: rest => .present type inner (ofCells rest)
  | .absent :: rest => .absent (ofCells rest)
  | .skipped :: rest => .skipped (ofCells rest)

theorem ofCells_cells (slots : Slots) : ofCells (cells slots) = slots := by
  induction slots with
  | nil => rfl
  | value v rest ih => exact congrArg (Slots.value v) ih
  | present type inner rest _ ih => exact congrArg (Slots.present type inner) ih
  | absent rest ih => exact congrArg Slots.absent ih
  | skipped rest ih => exact congrArg Slots.skipped ih

theorem cells_ofCells (content : List Cell) : cells (ofCells content) = content := by
  induction content with
  | nil => rfl
  | cons cell rest ih => cases cell <;> exact congrArg (_ :: ·) ih

theorem cells_inj {slots slots' : Slots} (same : cells slots = cells slots') : slots = slots' := by
  rw [← ofCells_cells slots, same, ofCells_cells]

def Cell.overwrite (v : Value) : Cell → Cell
  | .value _ => .value v
  | cell => cell

def Cell.refill (f : Slots → Slots) : Cell → Cell
  | .present type inner => .present type (f inner)
  | cell => cell

/-- Changes the entity nested at a position, if there is one. -/
def inEntity (f : Slots → Slots) (slots : Slots) (i : Nat) : Slots := ofCells ((cells slots).modify i (Cell.refill f))

/-- Puts a value at a place, if there is one. -/
def putIn (v : Value) (position : Nat) : List Nat → Slots → Slots
  | [], slots => putAt v slots position
  | hop :: hops, slots => inEntity (putIn v position hops) slots hop

theorem cells_putAt (v : Value) (slots : Slots) (i : Nat) :
    cells (putAt v slots i) = (cells slots).modify i (Cell.overwrite v) := by
  induction i generalizing slots with
  | zero => cases slots <;> rfl
  | succ i ih =>
    cases slots with
    | nil => rfl
    | _ => exact congrArg (_ :: ·) (ih _)

theorem cells_inEntity (f : Slots → Slots) (slots : Slots) (i : Nat) :
    cells (inEntity f slots i) = (cells slots).modify i (Cell.refill f) := cells_ofCells _

private theorem place_ne_of_hop {hop position position' : Nat} {hops hops' : List Nat}
    (other : (hop :: hops, position) ≠ (hop :: hops', position')) : (hops, position) ≠ (hops', position') := by
  intro same
  injection same with hops position
  exact other (by rw [hops, position])

theorem valueAt_putIn_ne (v : Value) {position position' : Nat} {hops hops' : List Nat}
    (other : (hops', position') ≠ (hops, position)) (slots : Slots) :
    valueAt (putIn v position hops slots) hops' position' = valueAt slots hops' position' := by
  induction hops generalizing hops' slots with
  | nil =>
    cases hops' with
    | nil =>
      have apart : position ≠ position' := fun same => other (by rw [same])
      rw [valueAt, valueAt, putIn, cells_putAt, List.getElem?_modify]
      simp [apart]
    | cons hop' hops' =>
      rw [valueAt, valueAt, putIn, cells_putAt, List.getElem?_modify]
      cases (cells slots)[hop']? with
      | none => rfl
      | some cell =>
        by_cases same : position = hop'
        · cases cell <;> simp [same, Cell.overwrite]
        · simp [same]
  | cons hop hops ih =>
    cases hops' with
    | nil =>
      rw [valueAt, valueAt, putIn, cells_inEntity, List.getElem?_modify]
      cases (cells slots)[position']? with
      | none => rfl
      | some cell =>
        by_cases same : hop = position'
        · cases cell <;> simp [same, Cell.refill]
        · simp [same]
    | cons hop' hops' =>
      rw [valueAt, valueAt, putIn, cells_inEntity, List.getElem?_modify]
      cases (cells slots)[hop']? with
      | none => rfl
      | some cell =>
        by_cases same : hop = hop'
        · subst same
          cases cell with
          | present type inner => simp [Cell.refill, ih (place_ne_of_hop other)]
          | _ => simp [Cell.refill]
        · simp [same]

private theorem refill_comp (f g : Slots → Slots) : Cell.refill f ∘ Cell.refill g = Cell.refill (f ∘ g) := by
  funext cell
  cases cell <;> rfl

private theorem overwrite_refill (v : Value) (f : Slots → Slots) :
    Cell.overwrite v ∘ Cell.refill f = Cell.refill f ∘ Cell.overwrite v := by
  funext cell
  cases cell <;> rfl

private theorem putAt_inEntity (v : Value) (f : Slots → Slots) (i j : Nat) (slots : Slots) :
    putAt v (inEntity f slots i) j = inEntity f (putAt v slots j) i := by
  apply cells_inj
  rw [cells_putAt, cells_inEntity, cells_inEntity, cells_putAt]
  by_cases same : i = j
  · rw [same, List.modify_modify_eq, List.modify_modify_eq, overwrite_refill]
  · rw [List.modify_modify_ne _ _ _ same]

/-- Writing at one place and then at another is the same as the other way round. -/
theorem putIn_comm (v w : Value) {position position' : Nat} {hops hops' : List Nat}
    (other : (hops, position) ≠ (hops', position')) (slots : Slots) :
    putIn w position' hops' (putIn v position hops slots) = putIn v position hops (putIn w position' hops' slots) := by
  induction hops generalizing hops' slots with
  | nil =>
    cases hops' with
    | nil =>
      have apart : position ≠ position' := fun same => other (by rw [same])
      apply cells_inj
      simp only [putIn, cells_putAt]
      exact List.modify_modify_ne _ _ _ apart
    | cons hop' hops' => exact (putAt_inEntity v _ hop' position slots).symm
  | cons hop hops ih =>
    cases hops' with
    | nil => exact putAt_inEntity w _ hop position' slots
    | cons hop' hops' =>
      apply cells_inj
      simp only [putIn, cells_inEntity]
      by_cases same : hop = hop'
      · subst same
        have inside : putIn w position' hops' ∘ putIn v position hops = putIn v position hops ∘ putIn w position' hops' :=
          funext (ih (place_ne_of_hop other))
        rw [List.modify_modify_eq, List.modify_modify_eq, refill_comp, refill_comp, inside]
      · exact List.modify_modify_ne _ _ _ same

/-- The slots without their values: which nested entities are there. -/
def outline : Slots → Slots
  | .nil => .nil
  | .value _ rest => .value .null (outline rest)
  | .present type inner rest => .present type (outline inner) (outline rest)
  | .absent rest => .absent (outline rest)
  | .skipped rest => .skipped (outline rest)

def Cell.outline : Cell → Cell
  | .value _ => .value .null
  | .present type inner => .present type (EntityWrites.outline inner)
  | cell => cell

theorem cells_outline (slots : Slots) : cells (outline slots) = (cells slots).map Cell.outline := by
  induction slots with
  | nil => rfl
  | value v rest ih => exact congrArg (Cell.value .null :: ·) ih
  | present type inner rest _ ih => exact congrArg (Cell.present type (outline inner) :: ·) ih
  | absent rest ih => exact congrArg (Cell.absent :: ·) ih
  | skipped rest ih => exact congrArg (Cell.skipped :: ·) ih

private theorem map_modify {α β : Type} {f : α → α} {g : α → β} (unseen : ∀ a, g (f a) = g a) (as : List α) (i : Nat) :
    (as.modify i f).map g = as.map g := by
  apply List.ext_getElem?
  intro j
  rw [List.getElem?_map, List.getElem?_map, List.getElem?_modify]
  cases as[j]? with
  | none => rfl
  | some a => by_cases same : i = j <;> simp [same, unseen]

theorem outline_putIn (v : Value) (position : Nat) (hops : List Nat) (slots : Slots) :
    outline (putIn v position hops slots) = outline slots := by
  induction hops generalizing slots with
  | nil =>
    apply cells_inj
    rw [cells_outline, cells_outline, putIn, cells_putAt]
    exact map_modify (fun cell => by cases cell <;> rfl) _ _
  | cons hop hops ih =>
    apply cells_inj
    rw [cells_outline, cells_outline, putIn, cells_inEntity]
    apply map_modify
    intro cell
    cases cell with
    | present type inner => exact congrArg (Cell.present type) (ih inner)
    | _ => rfl

/-- The type of the entity that the hops lead to, if there is one. -/
def reached? (type : Nat) (slots : Slots) : List Nat → Option Nat
  | [] => some type
  | hop :: hops => match (cells slots)[hop]? with
    | some (.present type inner) => reached? type inner hops
    | _ => none

theorem reached?_outline (type : Nat) (slots : Slots) (hops : List Nat) :
    reached? type (outline slots) hops = reached? type slots hops := by
  induction hops generalizing type slots with
  | nil => rfl
  | cons hop hops ih =>
    rw [reached?, reached?, cells_outline, List.getElem?_map]
    cases (cells slots)[hop]? with
    | none => rfl
    | some cell =>
      cases cell with
      | present type inner => exact ih type inner
      | _ => rfl

private theorem inEntity_congr {f g : Slots → Slots} {slots inner : Slots} {i type : Nat}
    (there : (cells slots)[i]? = some (.present type inner)) (same : f inner = g inner) : inEntity f slots i = inEntity g slots i := by
  apply cells_inj
  rw [cells_inEntity, cells_inEntity]
  apply List.ext_getElem?
  intro j
  rw [List.getElem?_modify, List.getElem?_modify]
  by_cases here : i = j
  · subst here
    simp [there, Cell.refill, same]
  · simp [here]

private theorem inNested_eq (f : Nat → Slots → Except Skip Slots) (slots : Slots) (i : Nat) :
    inNested f slots i = match (cells slots)[i]? with
      | some (.present type inner) => (f type inner).map fun changed => inEntity (fun _ => changed) slots i
      | _ => .error .nullEmbedded := by
  induction i generalizing slots with
  | zero =>
    cases slots with
    | present type inner rest =>
      have refilled : ∀ changed, inEntity (fun _ => changed) (.present type inner rest) 0 = .present type changed rest :=
        fun changed => congrArg (Slots.present type changed) (ofCells_cells rest)
      simp only [inNested, cells, List.getElem?_cons_zero, refilled]
    | _ => rfl
  | succ i ih =>
    cases slots with
    | nil => rfl
    | _ =>
      rw [inNested, ih]
      simp only [cells, List.getElem?_cons_succ]
      split
      · cases f _ _ <;> rfl
      · rfl

/-- What a setter stores in the entity that its hops lead to, or why it stores nothing. -/
def stored (s : Setter) (v : Value) : Option Nat → Except Skip Value
  | none => .error .nullEmbedded
  | some owner =>
    if owner != s.owner.id then .error .conversionFailed
    else match s.field.store s.owner v with
      | .ok v => .ok v
      | .error _ => .error .conversionFailed

theorem stored_eq_ok {s : Setter} {v w : Value} {reached : Option Nat} :
    stored s v reached = .ok w ↔ reached = some s.owner.id ∧ s.field.store s.owner v = .ok w := by
  cases reached with
  | none => simp [stored]
  | some owner =>
    by_cases other : owner = s.owner.id
    · cases stores : s.field.store s.owner v <;> simp [stored, other, stores]
    · simp [stored, other]

theorem follow_eq (s : Setter) (v : Value) (hops : List Nat) (type : Nat) (slots : Slots) :
    s.follow v hops type slots = (stored s v (reached? type slots hops)).map fun v => putIn v s.position hops slots := by
  induction hops generalizing type slots with
  | nil =>
    rw [Setter.follow, Setter.store, reached?, stored]
    split
    · rfl
    · cases s.field.store s.owner v <;> rfl
  | cons hop hops ih =>
    rw [Setter.follow, inNested_eq, reached?]
    cases there : (cells slots)[hop]? with
    | none => rfl
    | some cell =>
      cases cell with
      | present type inner =>
        dsimp only
        rw [ih]
        cases stored s v (reached? type inner hops) with
        | error skip => rfl
        | ok v => exact congrArg Except.ok (inEntity_congr there rfl)
      | _ => rfl

/-- There is a value at the place. -/
def Valued (slots : Slots) : List Nat → Nat → Prop
  | [], position => ∃ v, (cells slots)[position]? = some (.value v)
  | hop :: hops, position => ∃ type inner, (cells slots)[hop]? = some (.present type inner) ∧ Valued inner hops position

theorem valued_outline {slots : Slots} {hops : List Nat} {position : Nat} :
    Valued (outline slots) hops position ↔ Valued slots hops position := by
  induction hops generalizing slots with
  | nil =>
    rw [Valued, Valued, cells_outline, List.getElem?_map]
    cases (cells slots)[position]? with
    | none => simp
    | some cell => cases cell <;> simp [Cell.outline]
  | cons hop hops ih =>
    rw [Valued, Valued, cells_outline, List.getElem?_map]
    cases (cells slots)[hop]? with
    | none => simp
    | some cell => cases cell <;> simp [Cell.outline, ih]

theorem valueAt_putIn_self (v : Value) {slots : Slots} {hops : List Nat} {position : Nat} (valued : Valued slots hops position) :
    valueAt (putIn v position hops slots) hops position = v := by
  induction hops generalizing slots with
  | nil =>
    obtain ⟨old, there⟩ := valued
    simp [valueAt, putIn, cells_putAt, there, Cell.overwrite]
  | cons hop hops ih =>
    obtain ⟨type, inner, there, valued⟩ := valued
    simp [valueAt, putIn, cells_inEntity, there, Cell.refill, ih valued]

/-- In an entity of a type, a place that the type has is there as soon as its owner is. -/
theorem valued_of_reached {type owner : TypeName} {fields inner : Fields} {scope : Option String} {hops : List Nat}
    (lands : landing? type fields hops = some (scope, owner, inner)) {position : Nat} {f : ValueField}
    (found : (members inner)[position]? = some (.value f)) {slots : Slots} (fit : fields.Fit slots)
    (reached : (reached? type.id slots hops).isSome) : Valued slots hops position := by
  induction hops generalizing type fields scope slots with
  | nil =>
    cases lands
    obtain ⟨v, there, _⟩ := fit_value fit found
    exact ⟨v, there⟩
  | cons hop hops ih =>
    obtain ⟨g, nested, scope', there, lands, _⟩ := landing?_cons_inv lands
    rw [reached?] at reached
    obtain absent | ⟨held, present, fit⟩ := fit_nested fit there
    · rw [absent] at reached
      cases reached
    · rw [present] at reached
      exact ⟨_, held, present, ih lands fit reached⟩

theorem fit_putIn {type owner : TypeName} {fields inner : Fields} {scope : Option String} {hops : List Nat}
    (lands : landing? type fields hops = some (scope, owner, inner)) {position : Nat} {f : ValueField}
    (found : (members inner)[position]? = some (.value f)) {v : Value} (kind : v.sameKind f.scalar.null) {slots : Slots}
    (fit : fields.Fit slots) : fields.Fit (putIn v position hops slots) := by
  induction hops generalizing type fields scope slots with
  | nil =>
    cases lands
    obtain ⟨old, cell, _⟩ := fit_value fit found
    apply fit_set fit found (c := .value v) kind
    rw [putIn, cells_putAt, List.modify_eq_set_getElem?, cell]
    rfl
  | cons hop hops ih =>
    obtain ⟨g, nested, scope', there, lands, _⟩ := landing?_cons_inv lands
    obtain ⟨cell, inSlots, suits⟩ := fit_cell fit there
    apply fit_set fit there (c := Cell.refill (putIn v position hops) cell)
    · cases cell with
      | present kind held => exact ⟨suits.1, ih lands suits.2⟩
      | _ => exact suits
    · rw [putIn, cells_inEntity, List.modify_eq_set_getElem?, inSlots]
      rfl

theorem reached?_of_whole {type owner : TypeName} {fields inner : Fields} {scope : Option String} {hops : List Nat}
    (lands : landing? type fields hops = some (scope, owner, inner)) {slots : Slots} (whole : Whole fields slots) :
    reached? type.id slots hops = some owner.id := by
  induction hops generalizing type fields scope slots with
  | nil =>
    cases lands
    rfl
  | cons hop hops ih =>
    obtain ⟨f, nested, scope', there, lands, _⟩ := landing?_cons_inv lands
    obtain ⟨held, cell, whole⟩ := whole.nested there
    rw [reached?, cell]
    exact ih lands whole

theorem whole_putIn {type owner : TypeName} {fields inner : Fields} {scope : Option String} {hops : List Nat}
    (lands : landing? type fields hops = some (scope, owner, inner)) {position : Nat} {f : ValueField}
    (found : (members inner)[position]? = some (.value f)) {v : Value} (holds : Holds f v) {slots : Slots}
    (whole : Whole fields slots) : Whole fields (putIn v position hops slots) := by
  induction hops generalizing type fields scope slots with
  | nil =>
    cases lands
    obtain ⟨old, cell, _⟩ := whole.value found
    apply whole.set (c := .value v) found holds
    rw [putIn, cells_putAt, List.modify_eq_set_getElem?, cell]
    rfl
  | cons hop hops ih =>
    obtain ⟨g, nested, scope', there, lands, _⟩ := landing?_cons_inv lands
    obtain ⟨held, cell, wholeHeld⟩ := whole.nested there
    apply whole.set (c := .present g.type.id (putIn v position hops held)) there ⟨rfl, ih lands wholeHeld⟩
    rw [putIn, cells_inEntity, List.modify_eq_set_getElem?, cell]
    rfl

theorem follow_spec {s : Setter} {v : Value} (stores : s.field.store s.owner v = .ok v) (holds : Holds s.field v)
    {scope : Option String} {inner : Fields} (found : (members inner)[s.position]? = some (.value s.field))
    {hops : List Nat} {type : TypeName} {fields : Fields}
    (lands : landing? type fields hops = some (scope, s.owner, inner)) {slots : Slots} (whole : Whole fields slots) :
    ∃ changed, s.follow v hops type.id slots = .ok changed ∧ Whole fields changed ∧ valueAt changed hops s.position = v ∧
      ∀ hops' position', (hops', position') ≠ (hops, s.position) → valueAt changed hops' position' = valueAt slots hops' position' := by
  have reached := reached?_of_whole lands whole
  have valued := valued_of_reached lands found whole.fit (by rw [reached]; rfl)
  refine ⟨putIn v s.position hops slots, ?_, whole_putIn lands found holds whole, valueAt_putIn_self v valued, ?_⟩
  · rw [follow_eq, stored_eq_ok.mpr ⟨reached, stores⟩]
    rfl
  · intro hops' position' other
    exact valueAt_putIn_ne v other slots

end EntityMapping.Proofs.EntityWrites
