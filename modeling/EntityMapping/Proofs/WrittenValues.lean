import EntityMapping.Proofs.Outcomes
import EntityMapping.Proofs.PathPlaces
import EntityMapping.Proofs.VisibleFields

/-! Writing by name and reading back. A write puts the converted value at one place and leaves all others alone, and a write
that fails leaves everything alone. Reading gives the value back unless the field that the name reads as cannot be set: such a
field hides the one in a base that is written. -/

namespace EntityMapping.Proofs.WrittenValues
open Entity Fields Rows EntityPlaces EntityWrites Outcomes PathPlaces SetterResolution VisibleFields

theorem of_elim {e : ConversionError} {found : Option Value} {w : Value}
    (ok : found.elim (.error e) (.ok : Value → Except ConversionError Value) = .ok w) : found = some w := by
  cases found with
  | none => cases ok
  | some v => cases ok; rfl

private theorem of_map {α : Type} {e : ConversionError} {found : Option α} {make : α → Value} {w : Value}
    (ok : (found.map make).elim (.error e) (.ok : Value → Except ConversionError Value) = .ok w) : ∃ x, make x = w := by
  obtain ⟨x, _, made⟩ := Option.map_eq_some_iff.mp (of_elim ok)
  exact ⟨x, made⟩

theorem read_kind {s : Scalar} {text : String} {w : Value} (ok : s.read text = .ok w) : w.sameKind s.null := by
  cases s with
  | text => cases ok; rfl
  | date =>
    rw [Scalar.read] at ok
    cases read : Scalar.readDate text with
    | error e => rw [read] at ok; cases ok
    | ok d => rw [read] at ok; cases ok; rfl
  | timestamp =>
    rw [Scalar.read] at ok
    cases read : Scalar.readTimestamp text with
    | error e => rw [read] at ok; cases ok
    | ok t => rw [read] at ok; cases ok; rfl
  | _ =>
    obtain ⟨x, rfl⟩ := of_map ok
    rfl

theorem convert_kind {s : Scalar} {v w : Value} (ok : s.convert v = .ok w) : w.sameKind s.null := by
  unfold Scalar.convert at ok
  split at ok
  case h_4 => split at ok <;> cases ok; rfl
  case h_20 => exact read_kind ok
  case h_21 =>
    split at ok
    · cases ok
    · split at ok
      · next texts =>
        obtain ⟨target, _⟩ := Bool.and_eq_true_iff.mp texts
        cases ok
        rw [beq_iff_eq.mp target]
        rfl
      · cases ok
  all_goals
    cases ok
    rfl

theorem target_kind {f : ValueField} {v w : Value} (ok : f.target.convert v = .ok w) : w.sameKind f.scalar.null := by
  unfold ValueField.target at ok
  split at ok
  · rw [Target.convert] at ok
    split at ok
    · cases ok
      rw [Value.sameKind]
      exact beq_self_eq_true _
    · exact convert_kind ok
  · exact convert_kind ok

theorem store_eq_ok {owner : TypeName} {f : ValueField} {v w : Value} :
    f.store owner v = .ok w ↔ f.target.convert v = .ok w := by
  rw [ValueField.store]
  cases f.target.convert v <;> simp

/-- A write that succeeds converts the value for a field that can be set and puts it at the place of that field. -/
structure Written (type : TypeName) (fields : Fields) (slots changed : Slots) (name : String) (v w : Value) (s : Setter) :
    Prop where
  named : Named type fields name [] s
  settable : s.field.settable
  converts : s.field.target.convert v = .ok w
  valued : Valued slots s.hops s.position
  changed : changed = putIn w s.position s.hops slots

private theorem valued_behind {slots longer : Slots} {c : Cell} (shape : cells longer = c :: cells slots) {s : Setter}
    (valued : Valued slots s.hops s.position) : Valued longer (behind s).hops (behind s).position := by
  obtain ⟨hops, owner, position, field⟩ := s
  cases hops with
  | nil =>
    obtain ⟨v, there⟩ := valued
    exact ⟨v, by rw [shape]; exact there⟩
  | cons hop hops =>
    obtain ⟨type, inner, there, valued⟩ := valued
    exact ⟨type, inner, by rw [shape]; exact there, valued⟩

private theorem cells_putIn_behind {slots longer : Slots} {c : Cell} (shape : cells longer = c :: cells slots) (w : Value)
    (s : Setter) : cells (putIn w (behind s).position (behind s).hops longer) = c :: cells (putIn w s.position s.hops slots) := by
  obtain ⟨hops, owner, position, field⟩ := s
  cases hops with
  | nil => simp only [behind, putIn, cells_putAt, shape, List.modify_succ_cons]
  | cons hop hops => simp only [behind, putIn, cells_inEntity, shape, List.modify_succ_cons]

theorem Written.behind {type : TypeName} {fields longer : Fields} {slots changed all allChanged : Slots} {name : String}
    {v w : Value} {s : Setter} {m : Member} {c : Cell} (written : Written type fields slots changed name v w s)
    (shape : members longer = m :: members fields) (before : cells all = c :: cells slots)
    (after : cells allChanged = c :: cells changed) : Written type longer all allChanged name v w (behind s) where
  named := written.named.behind shape
  settable := by rw [behind_field]; exact written.settable
  converts := by rw [behind_field]; exact written.converts
  valued := valued_behind before written.valued
  changed := cells_inj (by rw [after, written.changed, cells_putIn_behind before])

theorem Written.base {type : TypeName} {f : NestedField} {inner rest : Fields} {slots changed later : Slots} {name : String}
    {v w : Value} {s : Setter} (written : Written f.type inner slots changed name v w s) (role : f.role = .base) :
    Written type (.nested f inner rest) (.present f.type.id slots later) (.present f.type.id changed later) name v w
      (within s) where
  named := written.named.base role
  settable := written.settable
  converts := written.converts
  valued := ⟨f.type.id, slots, rfl, written.valued⟩
  changed := by
    apply cells_inj
    rw [written.changed, within, putIn, cells_inEntity]
    rfl

/-- The place of an own value that can be set. -/
theorem own_place (type : TypeName) {fields : Fields} {slots : Slots} (fit : fields.Fit slots) {name : String}
    {f : ValueField} (found : fields.settable? name = some f) {v w : Value} (converts : f.target.convert v = .ok w) :
    ∃ s, ownPlace type fields name [] = some (some s) ∧
      Written type fields slots (fields.setOwn slots name w) name v w s := by
  induction fields generalizing slots with
  | nil => cases found
  | value g rest ih =>
    cases slots with
    | value old slots =>
      rw [settable?] at found
      rw [ownPlace, setOwn]
      split at found
      · next same =>
        split at found
        · next settable =>
          cases found
          refine ⟨⟨[], type, 0, f⟩, by rw [if_pos same]; rfl, ⟨⟨none, ⟨_, rfl, rfl⟩, by simp⟩, fun _ => beq_iff_eq.mp same⟩,
            settable, converts, ⟨old, rfl⟩, by rw [if_pos same]; rfl⟩
        · cases found
      · next other =>
        obtain ⟨s, place, written⟩ := ih fit.2 found
        rw [if_neg other, if_neg other, place]
        exact ⟨_, rfl, written.behind rfl rfl rfl⟩
    | _ => cases fit
  | nested g inner rest _ ih =>
    rw [settable?] at found
    split at found
    · cases found
    · next other =>
      unfold ownPlace
      rw [if_neg other]
      cases slots with
      | present kind held slots =>
        obtain ⟨s, place, written⟩ := ih fit.2.2 found
        rw [place]
        exact ⟨_, rfl, written.behind rfl rfl rfl⟩
      | absent slots =>
        obtain ⟨s, place, written⟩ := ih fit.2 found
        rw [place]
        exact ⟨_, rfl, written.behind rfl rfl rfl⟩
      | _ => cases fit
  | skipped other rest ih =>
    rw [settable?] at found
    split at found
    · cases found
    · next different =>
      rw [ownPlace, if_neg different]
      cases slots with
      | skipped slots =>
        obtain ⟨s, place, written⟩ := ih (show rest.Fit slots from fit) found
        rw [place]
        exact ⟨_, rfl, written.behind rfl rfl rfl⟩
      | _ => cases fit

/-- A name that reads as a field that can be set is declared. -/
theorem declares_of_place (type : TypeName) (fields : Fields) (name : String) :
    (∀ s, ownPlace type fields name [] = some (some s) → s.field.settable → (fields.settable? name).isSome) ∧
      ∀ s, basePlace fields name [] = some s → s.field.settable → fields.inBases name := by
  induction fields generalizing type with
  | nil => constructor <;> (intro s none; cases none)
  | value f rest ih =>
    obtain ⟨own, base⟩ := ih type
    constructor
    · intro s found settable
      rw [ownPlace] at found
      rw [settable?]
      split at found
      · next same =>
        cases found
        rw [if_pos same, if_pos settable]
        rfl
      · next other =>
        obtain ⟨s', inside, rfl⟩ := map_behind_eq found
        rw [if_neg other]
        exact own s' inside (by rwa [behind_field] at settable)
    · intro s found settable
      obtain ⟨s', inside, rfl⟩ := Option.map_eq_some_iff.mp found
      exact base s' inside (by rwa [behind_field] at settable)
  | nested f inner rest ihInner ih =>
    obtain ⟨own, base⟩ := ih type
    constructor
    · intro s found settable
      unfold ownPlace at found
      rw [settable?]
      split at found
      · cases role : f.role <;> rw [role] at found <;> cases found
      · next other =>
        obtain ⟨s', inside, rfl⟩ := map_behind_eq found
        rw [if_neg other]
        exact own s' inside (by rwa [behind_field] at settable)
    · intro s found settable
      rw [basePlace] at found
      rw [inBases]
      cases role : f.role with
      | base =>
        rw [role] at found
        dsimp only at found
        rw [Option.or_eq_some_iff] at found
        obtain found | ⟨_, found⟩ := found
        · obtain ⟨s', inside, rfl⟩ := Option.map_eq_some_iff.mp found
          obtain ⟨ownInner, baseInner⟩ := ihInner f.type
          obtain place | place := getD_eq_some inside
          · simp [ownInner s' place settable]
          · simp [baseInner s' place settable]
        · obtain ⟨s', inside, rfl⟩ := Option.map_eq_some_iff.mp found
          simp [base s' inside (by rwa [behind_field] at settable)]
      | embedded =>
        rw [role] at found
        obtain ⟨s', inside, rfl⟩ := Option.map_eq_some_iff.mp found
        simp [base s' inside (by rwa [behind_field] at settable)]
  | skipped other rest ih =>
    obtain ⟨own, base⟩ := ih type
    constructor
    · intro s found settable
      rw [ownPlace] at found
      rw [settable?]
      split at found
      · cases found
      · next different =>
        obtain ⟨s', inside, rfl⟩ := map_behind_eq found
        rw [if_neg different]
        exact own s' inside (by rwa [behind_field] at settable)
    · intro s found settable
      obtain ⟨s', inside, rfl⟩ := Option.map_eq_some_iff.mp found
      exact base s' inside (by rwa [behind_field] at settable)

theorem declares_of_place? {type : TypeName} {fields : Fields} {name : String} {s : Setter}
    (place : place? type fields [name] = some s) (settable : s.field.settable) : fields.declares name := by
  obtain ⟨own, base⟩ := declares_of_place type fields name
  rw [declares, Bool.or_eq_true]
  exact (getD_eq_some place).imp (own s · settable) (base s · settable)

theorem ownPlace_plain {type : TypeName} {fields : Fields} {name : String} {place : Option Setter}
    (found : ownPlace type fields name [] = some place) : ∃ s, place = some s := by
  induction fields generalizing place with
  | nil => cases found
  | value f rest ih =>
    rw [ownPlace] at found
    split at found
    · cases found
      exact ⟨_, rfl⟩
    · obtain ⟨place', inside, rfl⟩ := Option.map_eq_some_iff.mp found
      obtain ⟨s, rfl⟩ := ih inside
      exact ⟨_, rfl⟩
  | nested f inner rest _ ih =>
    unfold ownPlace at found
    split at found
    · cases role : f.role <;> rw [role] at found <;> cases found
    · obtain ⟨place', inside, rfl⟩ := Option.map_eq_some_iff.mp found
      obtain ⟨s, rfl⟩ := ih inside
      exact ⟨_, rfl⟩
  | skipped other rest ih =>
    rw [ownPlace] at found
    split at found
    · cases found
    · obtain ⟨place', inside, rfl⟩ := Option.map_eq_some_iff.mp found
      obtain ⟨s, rfl⟩ := ih inside
      exact ⟨_, rfl⟩

/-- The name reads as the field that is written, or as one that cannot be set. -/
def Meets (place : Option Setter) (s : Setter) : Prop := ∃ r, place = some r ∧ (r.field.settable → r = s)

theorem Meets.behind {place : Option Setter} {s : Setter} (meets : Meets place s) :
    Meets (place.map PathPlaces.behind) (PathPlaces.behind s) := by
  obtain ⟨r, rfl, same⟩ := meets
  refine ⟨_, rfl, fun settable => ?_⟩
  rw [behind_field] at settable
  rw [same settable]

/-- Before the base that is written there may be one that has the name, but does not declare it as one to be set. -/
theorem Meets.later {type : TypeName} {inner : Fields} {name : String} (undeclared : ¬inner.declares name)
    {place : Option Setter} {s : Setter} (meets : Meets place s) :
    Meets (((place? type inner [name]).map within).or place) s := by
  cases found : place? type inner [name] with
  | none => exact meets
  | some r => exact ⟨within r, rfl, fun settable => absurd (declares_of_place? found settable) undeclared⟩

/-- The same for a name that the entity has itself. -/
theorem Meets.hidden {type : TypeName} {fields : Fields} {name : String} (none : fields.settable? name = none) {s : Setter}
    (meets : Meets (basePlace fields name []) s) : Meets (place? type fields [name]) s := by
  cases found : ownPlace type fields name [] with
  | none =>
    rw [place?, found]
    exact meets
  | some place =>
    obtain ⟨r, rfl⟩ := ownPlace_plain found
    refine ⟨r, by rw [place?, found]; rfl, fun settable => ?_⟩
    have declared := (declares_of_place type fields name).1 r found settable
    rw [none] at declared
    cases declared

theorem Meets.within {type : TypeName} {inner : Fields} {name : String} {s : Setter} (rest : Option Setter)
    (meets : Meets (place? type inner [name]) s) :
    Meets (((place? type inner [name]).map PathPlaces.within).or rest) (PathPlaces.within s) := by
  obtain ⟨r, found, same⟩ := meets
  rw [found]
  exact ⟨_, rfl, fun settable => congrArg PathPlaces.within (same settable)⟩

theorem base_written (owner type : TypeName) {fields : Fields} {slots changed : Slots} (fit : fields.Fit slots)
    {name : String} {v : Value} (ok : fields.setInBase owner slots name v = .ok changed) :
    ∃ s w, Written type fields slots changed name v w s ∧ Meets (basePlace fields name []) s := by
  induction fields generalizing owner type slots changed with
  | nil => cases slots <;> cases ok
  | value f rest ih =>
    cases slots with
    | value old slots =>
      obtain ⟨changed, inside, rfl⟩ := map_eq_ok ok
      obtain ⟨s, w, written, meets⟩ := ih owner type fit.2 inside
      exact ⟨_, w, written.behind rfl rfl rfl, meets.behind⟩
    | _ => cases fit
  | nested f inner rest ihInner ih =>
    cases slots with
    | present kind held slots =>
      obtain ⟨rfl, fitHeld, fit⟩ := fit
      rw [setInBase] at ok
      rw [basePlace]
      split at ok
      · next declared =>
        obtain ⟨role, _⟩ := Bool.and_eq_true_iff.mp declared
        have role : f.role = .base := beq_iff_eq.mp role
        rw [if_neg (by simp)] at ok
        rw [role]
        split at ok
        · next field settable =>
          obtain ⟨w, stores, rfl⟩ := map_eq_ok ok
          obtain ⟨s, place, written⟩ := own_place f.type fitHeld settable (store_eq_ok.mp stores)
          exact ⟨_, w, written.base role, Meets.within _ ⟨s, by rw [place?, place]; rfl, fun _ => rfl⟩⟩
        · next none =>
          obtain ⟨changed, inside, rfl⟩ := map_eq_ok ok
          obtain ⟨s, w, written, meets⟩ := ihInner f.type f.type fitHeld inside
          exact ⟨_, w, written.base role, Meets.within _ (meets.hidden none)⟩
      · next undeclared =>
        obtain ⟨changed, inside, rfl⟩ := map_eq_ok ok
        obtain ⟨s, w, written, meets⟩ := ih owner type fit inside
        refine ⟨_, w, written.behind rfl rfl rfl, ?_⟩
        cases role : f.role with
        | base => exact meets.behind.later (by simpa [role] using undeclared)
        | embedded => exact meets.behind
    | absent slots =>
      rw [setInBase] at ok
      rw [basePlace]
      split at ok
      · cases ok
      · next undeclared =>
        obtain ⟨changed, inside, rfl⟩ := map_eq_ok ok
        obtain ⟨s, w, written, meets⟩ := ih owner type fit.2 inside
        refine ⟨_, w, written.behind rfl rfl rfl, ?_⟩
        cases role : f.role with
        | base => exact meets.behind.later (by simpa [role] using undeclared)
        | embedded => exact meets.behind
    | _ => cases fit
  | skipped other rest ih =>
    cases slots with
    | skipped slots =>
      obtain ⟨changed, inside, rfl⟩ := map_eq_ok ok
      obtain ⟨s, w, written, meets⟩ := ih owner type (show rest.Fit slots from fit) inside
      exact ⟨_, w, written.behind rfl rfl rfl, meets.behind⟩
    | _ => cases fit

variable {d : Definition} {o o' : Object} {name : String} {v : Value}

theorem fieldAt?_uncut (uncut : Uncut name) : fieldAt? d name = place? d.type d.fields [name] := by
  rw [fieldAt?, NamingRoundTrip.pathNames_uncut uncut]

theorem written_of_write (of : o.IsOf d) (uncut : Uncut name) (ok : d.write o name v = .ok o') :
    o'.type = o.type ∧
      ∃ s w, Written d.type d.fields o.slots o'.slots name v w s ∧ Meets (fieldAt? d name) s := by
  rw [Definition.write, if_neg (by simp [of.1])] at ok
  rw [fieldAt?_uncut uncut]
  split at ok
  · next f settable =>
    obtain ⟨w, stores, rfl⟩ := map_eq_ok ok
    obtain ⟨s, place, written⟩ := own_place d.type of.2 settable (store_eq_ok.mp stores)
    exact ⟨rfl, s, w, written, s, by rw [place?, place]; rfl, fun _ => rfl⟩
  · next none =>
    obtain ⟨changed, inside, rfl⟩ := map_eq_ok ok
    obtain ⟨s, w, written, meets⟩ := base_written d.type d.type of.2 inside
    exact ⟨rfl, s, w, written, meets.hidden none⟩

theorem value?_eq_some {slots : Slots} {hops : List Nat} {position : Nat} {v : Value} :
    value? slots hops position = some v ↔ Valued slots hops position ∧ valueAt slots hops position = v := by
  induction hops generalizing slots with
  | nil =>
    rw [value?, EntityWrites.Valued, valueAt]
    cases (cells slots)[position]? with
    | none => simp
    | some cell => cases cell <;> simp
  | cons hop hops ih =>
    rw [value?, EntityWrites.Valued, valueAt]
    cases (cells slots)[hop]? with
    | none => simp
    | some cell => cases cell <;> simp [ih]

theorem value?_putIn_ne (w : Value) {position position' : Nat} {hops hops' : List Nat}
    (other : (hops', position') ≠ (hops, position)) (slots : Slots) :
    value? (putIn w position hops slots) hops' position' = value? slots hops' position' := by
  apply Option.ext
  intro v
  rw [value?_eq_some, value?_eq_some, valueAt_putIn_ne w other, ← valued_outline, outline_putIn, valued_outline]

variable {type : TypeName} {fields : Fields} {slots changed : Slots} {s r : Setter} {w : Value}

theorem Written.shown_self (written : Written type fields slots changed name v w s) : shown changed s = w := by
  have value : value? changed s.hops s.position = some w := by
    rw [value?_eq_some, written.changed, ← valued_outline, outline_putIn, valued_outline]
    exact ⟨written.valued, valueAt_putIn_self w written.valued⟩
  rw [shown, value]
  rfl

theorem Written.shown_other (written : Written type fields slots changed name v w s)
    (other : (r.hops, r.position) ≠ (s.hops, s.position)) : shown changed r = shown slots r := by
  rw [shown, written.changed, value?_putIn_ne w other, shown]

theorem Written.fit (written : Written type fields slots changed name v w s) (fit : fields.Fit slots) :
    fields.Fit changed := by
  obtain ⟨scope, ⟨inner, lands, there⟩, _⟩ := written.named.leads
  rw [written.changed]
  exact fit_putIn lands there (target_kind written.converts) fit

/-- Two paths to one place are the same names, unless a path through an embedded entity ends in the field of the other. -/
theorem named_once {first first' : String} {path path' : List String} (one : Named type fields first path s)
    (other : Named type fields first' path' r) (hops : r.hops = s.hops) (position : r.position = s.position)
    (plain : path = []) : path' = [] ∧ first' = first ∧ r.field = s.field := by
  obtain ⟨⟨scope, leads, direct⟩, field⟩ := one
  obtain ⟨⟨scope', leads', direct'⟩, field'⟩ := other
  obtain ⟨rfl, same⟩ := leads'.unique leads hops position
  have plain' := direct'.mp (direct.mpr plain)
  exact ⟨plain', by rw [← field plain, ← field' plain', same], same⟩

theorem fieldAt?_named {path : String} (found : fieldAt? d path = some r) :
    ∃ first names, pathNames path = first :: names ∧ Named d.type d.fields first names r := by
  unfold fieldAt? at found
  cases names : pathNames path with
  | nil =>
    rw [names] at found
    cases found
  | cons first names' =>
    obtain ⟨own, base⟩ := places_named d.type d.fields first names'
    rw [names] at found
    exact ⟨first, names', rfl, (getD_eq_some found).elim (own r) (base r)⟩

theorem splitWhere_single {isCut : Char → Bool} {cs piece : List Char} (single : Text.splitWhere isCut cs = [piece]) :
    piece = cs := by
  induction cs generalizing piece with
  | nil => cases single; rfl
  | cons c cs ih =>
    rw [Text.splitWhere] at single
    split at single
    · obtain ⟨first, others, shape⟩ := NamingRoundTrip.splitWhere_cons isCut cs
      rw [shape] at single
      cases single
    · split at single
      · next nothing =>
        obtain ⟨first, others, shape⟩ := NamingRoundTrip.splitWhere_cons isCut cs
        rw [nothing] at shape
        cases shape
      · next first others shape =>
        cases single
        rw [ih shape]

theorem eq_of_single {path : String} (single : pathNames path = [name]) : path = name := by
  obtain ⟨piece, split, rfl⟩ := List.map_eq_singleton_iff.mp single
  rw [splitWhere_single split, String.ofList_toList]

/-- A path that is not the name reads as before, and so does the name when it reads as a field that cannot be set. A path that
leads to the place that was written ends in its field without passing an embedded entity, so it is the name. -/
theorem read_kept (of : o.IsOf d) (of' : o'.IsOf d) (written : Written d.type d.fields o.slots o'.slots name v w s)
    {path : String} (kept : path ≠ name ∨ ∃ r, fieldAt? d path = some r ∧ r.field ≠ s.field) :
    d.read o' path = d.read o path := by
  rw [read_eq of, read_eq of']
  cases found : fieldAt? d path with
  | none => rfl
  | some r =>
    refine congrArg some (written.shown_other fun same => ?_)
    injection same with hops position
    obtain ⟨first, names, cut, named⟩ := fieldAt?_named found
    obtain ⟨rfl, rfl, field⟩ := named_once written.named named hops position rfl
    obtain other | ⟨r', found', other⟩ := kept
    · exact other (eq_of_single cut)
    · rw [found] at found'
      cases found'
      exact other field

/-- Steps on the slots of an entity. Where one fails, what was changed before stays changed. -/
abbrev InPlace := ExceptT Failure (StateM Slots)

def pastFirst (steps : InPlace Unit) : InPlace Unit := fun slots => match slots with
  | .nil => steps .nil
  | .value v rest => let (result, rest) := steps rest; (result, .value v rest)
  | .present type inner rest => let (result, rest) := steps rest; (result, .present type inner rest)
  | .absent rest => let (result, rest) := steps rest; (result, .absent rest)
  | .skipped rest => let (result, rest) := steps rest; (result, .skipped rest)

/-- Steps on the entity that is nested first. -/
def inFirst (missing : Failure) (type : Nat) (steps : InPlace Unit) : InPlace Unit := fun slots => match slots with
  | .present kind inner rest =>
    if kind != type then (.error missing, slots) else let (result, inner) := steps inner; (result, .present kind inner rest)
  | _ => (.error missing, slots)

def setInPlace (owner : TypeName) (fields : Fields) (f : ValueField) (name : String) (v : Value) : InPlace Unit := do
  let w ← (f.store owner v : Except Failure Value)
  modify fun slots => fields.setOwn slots name w

def baseInPlace (owner : TypeName) : Fields → String → Value → InPlace Unit
  | .nil, name, _ => throw (inaccessible owner name)
  | .value _ rest, name, v => pastFirst (baseInPlace owner rest name v)
  | .nested f inner rest, name, v =>
    if f.role == .base && inner.declares name then
      inFirst (inaccessible owner name) f.type.id (match inner.settable? name with
        | some field => setInPlace f.type inner field name v
        | none => baseInPlace f.type inner name v)
    else pastFirst (baseInPlace owner rest name v)
  | .skipped _ rest, name, v => pastFirst (baseInPlace owner rest name v)

def writeInPlace (d : Definition) (name : String) (v : Value) : InPlace Unit :=
  match d.fields.settable? name with
  | some f => setInPlace d.type d.fields f name v
  | none => baseInPlace d.type d.fields name v

/-- The result of steps that change all or nothing. -/
def allOrNothing (slots : Slots) : Except Failure Slots → Except Failure Unit × Slots
  | .ok changed => (.ok (), changed)
  | .error e => (.error e, slots)

theorem run_around {steps larger : InPlace Unit} {slots : Slots} (around : Slots → Slots) {result : Except Failure Slots}
    (through : larger.run.run (around slots) = ((steps.run.run slots).1, around (steps.run.run slots).2))
    (inside : steps.run.run slots = allOrNothing slots result) :
    larger.run.run (around slots) = allOrNothing (around slots) (result.map around) := by
  rw [through, inside]
  cases result <;> rfl

theorem setInPlace_run (owner : TypeName) (fields : Fields) (f : ValueField) (name : String) (v : Value) (slots : Slots) :
    (setInPlace owner fields f name v).run.run slots =
      allOrNothing slots ((f.store owner v).map fun w => fields.setOwn slots name w) := by
  rw [setInPlace]
  cases f.store owner v <;> rfl

theorem baseInPlace_run (owner : TypeName) {fields : Fields} {slots : Slots} (fit : fields.Fit slots) (name : String)
    (v : Value) :
    (baseInPlace owner fields name v).run.run slots = allOrNothing slots (fields.setInBase owner slots name v) := by
  induction fields generalizing owner slots with
  | nil => cases slots <;> rfl
  | value f rest ih =>
    cases slots with
    | value old slots => exact run_around (.value old) rfl (ih owner fit.2)
    | _ => cases fit
  | nested f inner rest ihInner ih =>
    rw [baseInPlace]
    cases slots with
    | present kind held slots =>
      obtain ⟨rfl, fitHeld, fit⟩ := fit
      rw [setInBase]
      split
      · rw [if_neg (by simp)]
        have into : ∀ steps : InPlace Unit,
            (inFirst (inaccessible owner name) f.type.id steps).run.run (.present f.type.id held slots) =
              ((steps.run.run held).1, .present f.type.id (steps.run.run held).2 slots) :=
          fun steps => if_neg (by simp)
        cases inner.settable? name with
        | some field =>
          have run := run_around (.present f.type.id · slots) (into _) (setInPlace_run f.type inner field name v held)
          dsimp only
          rw [run]
          cases field.store f.type v <;> rfl
        | none => exact run_around (.present f.type.id · slots) (into _) (ihInner f.type fitHeld)
      · exact run_around (.present f.type.id held) rfl (ih owner fit)
    | absent slots =>
      rw [setInBase]
      split
      · rfl
      · exact run_around .absent rfl (ih owner fit.2)
    | _ => cases fit
  | skipped other rest ih =>
    cases slots with
    | skipped slots => exact run_around .skipped rfl (ih owner (show rest.Fit slots from fit))
    | _ => cases fit

theorem writeInPlace_run (of : o.IsOf d) (name : String) (v : Value) :
    (writeInPlace d name v).run.run o.slots = allOrNothing o.slots ((d.write o name v).map (·.slots)) := by
  rw [writeInPlace, Definition.write, if_neg (by simp [of.1])]
  cases d.fields.settable? name with
  | some f =>
    dsimp only
    rw [setInPlace_run]
    cases f.store d.type v <;> rfl
  | none =>
    dsimp only
    rw [baseInPlace_run d.type of.2]
    cases d.fields.setInBase d.type o.slots name v <;> rfl

/-- A write that fails leaves the entity as it was. One that succeeds changes what its name reads as, to the converted value,
and no other path, unless the name reads as a field that cannot be set: then it changes what no path leads to. -/
theorem written_or_unchanged (of : o.IsOf d) (uncut : Uncut name) (v : Value) :
    (∀ e, d.write o name v = .error e → (writeInPlace d name v).run.run o.slots = (.error e, o.slots)) ∧
    ∀ o', d.write o name v = .ok o' →
      (writeInPlace d name v).run.run o.slots = (.ok (), o'.slots) ∧ o'.IsOf d ∧
      (∀ path, path ≠ name → d.read o' path = d.read o path) ∧
      ∃ r, fieldAt? d name = some r ∧
        if r.field.settable then ∃ w, r.field.target.convert v = .ok w ∧ d.read o' name = some w
        else d.read o' name = d.read o name := by
  constructor
  · intro e fails
    rw [writeInPlace_run of, fails]
    rfl
  · intro o' ok
    obtain ⟨type, s, w, written, r, found, meets⟩ := written_of_write of uncut ok
    have of' : o'.IsOf d := ⟨type.trans of.1, written.fit of.2⟩
    refine ⟨by rw [writeInPlace_run of, ok]; rfl, of', fun path other => read_kept of of' written (.inl other), r, found, ?_⟩
    split
    · next settable =>
      obtain rfl := meets settable
      refine ⟨w, written.converts, ?_⟩
      rw [read_eq of', found, Option.map_some, written.shown_self]
    · next unsettable =>
      refine read_kept of of' written (.inr ⟨r, found, fun same => unsettable ?_⟩)
      rw [same, written.settable]

/-- An identifier that cannot be set hides the one that comes with the base. -/
def tagged : Definition where
  type := ⟨0, "Holder"⟩
  clauses := ⟨none, none, none, none⟩
  fields := .value ⟨"id", none, false, .uuid, true, false⟩
    (.nested ⟨"shared", .base, false, ⟨1, "Shared"⟩⟩ (.value ⟨"id", none, false, .text, true, true⟩
      (.value ⟨"name", none, false, .text, true, true⟩ .nil)) .nil)

def taggedObject (inBase name : Option String) : Object where
  type := 0
  slots := .value (.uuid none) (.present 1 (.value (.varchar inBase) (.value (.varchar name) .nil)) .nil)

theorem tagged_isOf (inBase name : Option String) : (taggedObject inBase name).IsOf tagged := by
  simp [Object.IsOf, taggedObject, tagged, Fields.Fit, Value.sameKind, Value.typeName, Scalar.null]

theorem written_or_unchanged_name :
    tagged.write (taggedObject (some "7") none) "name" (.varchar (some "Ann")) = .ok (taggedObject (some "7") (some "Ann")) ∧
      tagged.read (taggedObject (some "7") (some "Ann")) "name" = some (.varchar (some "Ann")) ∧
      tagged.read (taggedObject (some "7") (some "Ann")) "id" = tagged.read (taggedObject (some "7") none) "id" := by
  have ok : tagged.write (taggedObject (some "7") none) "name" (.varchar (some "Ann")) =
      .ok (taggedObject (some "7") (some "Ann")) := rfl
  obtain ⟨_, _, others, r, found, value⟩ := (written_or_unchanged (tagged_isOf _ _) ⟨by decide, by decide⟩ _).2 _ ok
  have reached : fieldAt? tagged "name" = some ⟨[1], ⟨1, "Shared"⟩, 1, ⟨"name", none, false, .text, true, true⟩⟩ := rfl
  rw [reached] at found
  cases found
  obtain ⟨w, converts, read⟩ := value
  cases converts
  exact ⟨ok, read, others "id" (by decide)⟩

/-- The identifier in the base is written, although the name reads as the own one. -/
theorem hidden_field_written :
    EveryType Distinct tagged.fields ∧ (∀ f ∈ tagged.fields.leaves, f.settable = f.mappable) ∧ Uncut "id" ∧
      (taggedObject none none).IsOf tagged ∧
      tagged.write (taggedObject none none) "id" (.varchar (some "x")) = .ok (taggedObject (some "x") none) ∧
      tagged.read (taggedObject (some "x") none) "id" = some (.uuid none) ∧
      ∃ r, fieldAt? tagged "id" = some r ∧ ∀ w, r.field.target.convert (.varchar (some "x")) ≠ .ok w := by
  refine ⟨by decide, by decide, by decide, tagged_isOf _ _, rfl, rfl, _, rfl, ?_⟩
  intro w converts
  cases converts

end EntityMapping.Proofs.WrittenValues
