import EntityMapping.Proofs.RowRoundTrip
import EntityMapping.Session.Dao
import Mathlib.Algebra.GroupWithZero.Nat
import Mathlib.Data.List.Pairwise

/-! The columns of a row are mapped independently of each other. What becomes of a column depends on the object only by its
outline, which no column changes, so it can be told from the new object before any column is assigned; and columns that set
different places may come in any order. -/

namespace EntityMapping.Proofs.ColumnIndependence
open Entity Rows EntityPlaces EntityWrites SetterResolution RowRoundTrip

/-- The setter of a label, without a cache. -/
def setterOf (d : Definition) (label : String) : Option Setter := findSetter? d (labelParts label).1 (labelParts label).2

def assigned (d : Definition) (o : Object) (cell : String × Value) : Except Skip Object :=
  (setterOf d cell.1).elim (.error .missingSetter) fun s => s.assign o cell.2

/-- Why a column cannot be assigned to an object; `none` when it is set. -/
def outcome (d : Definition) (o : Object) (cell : String × Value) : Option Skip :=
  match assigned d o cell with
  | .ok _ => none
  | .error skip => some skip

/-- The place that a column sets. -/
def target? (d : Definition) (o : Object) (cell : String × Value) : Option (List Nat × Nat) :=
  if outcome d o cell = none then (setterOf d cell.1).map fun s => (s.hops, s.position) else none

def record (counts : MappingCounts) : Option Skip → MappingCounts
  | none => counts.recordSet
  | some skip => counts.recordSkip skip

/-- A value and the place where it is put. -/
structure Write where
  hops : List Nat
  position : Nat
  value : Value

def Write.place (w : Write) : List Nat × Nat := (w.hops, w.position)

def Write.apply (slots : Slots) (w : Write) : Slots := putIn w.value w.position w.hops slots

/-- What a column writes into an object, or why it is skipped. -/
def write (d : Definition) (o : Object) (cell : String × Value) : Except Skip Write :=
  match setterOf d cell.1 with
  | none => .error .missingSetter
  | some s =>
    if !s.field.settable || !s.field.mappable then .error .unsupportedType
    else if cell.2.isNull && !s.field.nullable then .error .nullValue
    else (stored s cell.2 (reached? o.type o.slots s.hops)).map fun v => ⟨s.hops, s.position, v⟩

theorem assigned_eq (d : Definition) (o : Object) (cell : String × Value) :
    assigned d o cell = (write d o cell).map fun w => { o with slots := w.apply o.slots } := by
  unfold assigned write
  cases setterOf d cell.1 with
  | none => rfl
  | some s =>
    dsimp only [Option.elim_some]
    rw [Setter.assign, follow_eq]
    split
    · rfl
    · split
      · rfl
      · cases stored s cell.2 (reached? o.type o.slots s.hops) <;> rfl

theorem write_spec {d : Definition} {o : Object} {cell : String × Value} {w : Write} (writes : write d o cell = .ok w) :
    ∃ s v, setterOf d cell.1 = some s ∧ w = ⟨s.hops, s.position, v⟩ ∧ reached? o.type o.slots s.hops = some s.owner.id ∧
      s.field.store s.owner cell.2 = .ok v := by
  unfold write at writes
  split at writes
  · cases writes
  · next s found =>
    split at writes
    · cases writes
    · split at writes
      · cases writes
      · cases result : stored s cell.2 (reached? o.type o.slots s.hops) with
        | error skip =>
          rw [result] at writes
          cases writes
        | ok v =>
          rw [result] at writes
          cases writes
          obtain ⟨reached, stores⟩ := stored_eq_ok.mp result
          exact ⟨s, v, found, rfl, reached, stores⟩

theorem outcome_eq_none_iff {d : Definition} {o : Object} {cell : String × Value} :
    outcome d o cell = none ↔ ∃ w, write d o cell = .ok w := by
  rw [outcome, assigned_eq]
  cases write d o cell <;> simp [Except.map]

theorem target?_eq (d : Definition) (o : Object) (cell : String × Value) :
    target? d o cell = (write d o cell).toOption.map Write.place := by
  unfold target?
  split
  · next set =>
    obtain ⟨w, writes⟩ := outcome_eq_none_iff.mp set
    obtain ⟨s, v, found, rfl, _⟩ := write_spec writes
    rw [writes, found]
    rfl
  · next skipped =>
    cases writes : write d o cell with
    | error skip => rfl
    | ok w => exact absurd (outcome_eq_none_iff.mpr ⟨w, writes⟩) skipped

/-- The objects differ in values only. -/
def Alike (o o' : Object) : Prop := o.type = o'.type ∧ outline o.slots = outline o'.slots

theorem write_congr {d : Definition} {o o' : Object} (alike : Alike o o') (cell : String × Value) :
    write d o cell = write d o' cell := by
  have reached : ∀ hops, reached? o.type o.slots hops = reached? o'.type o'.slots hops := by
    intro hops
    rw [← reached?_outline, alike.1, alike.2, reached?_outline]
  unfold write
  simp only [reached]

theorem outline_writes (writes : List Write) (slots : Slots) : outline (writes.foldl Write.apply slots) = outline slots := by
  induction writes generalizing slots with
  | nil => rfl
  | cons w writes ih => rw [List.foldl_cons, ih, Write.apply, outline_putIn]

theorem alike_writes {o blank : Object} (alike : Alike o blank) (writes : List Write) :
    Alike { o with slots := writes.foldl Write.apply o.slots } blank :=
  ⟨alike.1, (outline_writes ..).trans alike.2⟩

theorem valueAt_writes {writes : List Write} {hops : List Nat} {position : Nat}
    (elsewhere : ∀ w ∈ writes, w.place ≠ (hops, position)) (slots : Slots) :
    valueAt (writes.foldl Write.apply slots) hops position = valueAt slots hops position := by
  induction writes generalizing slots with
  | nil => rfl
  | cons w writes ih =>
    rw [List.foldl_cons, ih fun other member => elsewhere other (.tail _ member)]
    exact valueAt_putIn_ne w.value (fun same => elsewhere w (.head _) same.symm) slots

theorem writes_perm {writes writes' : List Write} (perm : writes.Perm writes')
    (apart : writes.Pairwise fun w w' => w.place ≠ w'.place) (slots : Slots) :
    writes.foldl Write.apply slots = writes'.foldl Write.apply slots := by
  have swap : ∀ w ∈ writes, ∀ w' ∈ writes, ∀ z, Write.apply (Write.apply z w) w' = Write.apply (Write.apply z w') w := by
    apply List.Pairwise.forall_of_forall_of_flip
    · exact fun _ _ _ => rfl
    · exact apart.imp fun {w w'} other z => putIn_comm w.value w'.value other z
    · exact apart.imp fun {w w'} other z => (putIn_comm w.value w'.value other z).symm
  exact perm.foldl_eq' swap slots

/-- Assigns columns from the left. -/
def assignAll (d : Definition) (columns : List (String × Value)) (start : Object × MapperState) : Object × MapperState :=
  columns.foldl (fun (o, state) (label, v) => assignColumn d o label v state) start

def writesOf (d : Definition) (blank : Object) (columns : List (String × Value)) : List Write :=
  columns.filterMap fun cell => (write d blank cell).toOption

theorem assignColumn_eq {d : Definition} {o blank : Object} (alike : Alike o blank) (cell : String × Value)
    (state : MapperState) (answers : Answers state.setters d) :
    ∃ setters, Answers setters d ∧ assignColumn d o cell.1 cell.2 state =
      ({ o with slots := (writesOf d blank [cell]).foldl Write.apply o.slots },
        ⟨setters, record state.counts (outcome d blank cell)⟩) := by
  refine ⟨(state.setters.resolve d (labelParts cell.1).1 (labelParts cell.1).2).2, answers.after (fun _ => rfl) _ _, ?_⟩
  have become := assigned_eq d o cell
  rw [assigned, setterOf] at become
  simp only [assignColumn, answers.resolve, become, outcome, assigned_eq, write_congr alike]
  cases writes : write d blank cell with
  | error skip =>
    simp only [writesOf, List.filterMap_cons, writes, Except.toOption]
    rfl
  | ok w =>
    simp only [writesOf, List.filterMap_cons, writes, Except.toOption]
    rfl

theorem assignAll_eq {d : Definition} {o blank : Object} (alike : Alike o blank) (columns : List (String × Value))
    (state : MapperState) (answers : Answers state.setters d) :
    ∃ setters, Answers setters d ∧ assignAll d columns (o, state) =
      ({ o with slots := (writesOf d blank columns).foldl Write.apply o.slots },
        ⟨setters, (columns.map (outcome d blank)).foldl record state.counts⟩) := by
  induction columns generalizing o state with
  | nil => exact ⟨state.setters, answers, rfl⟩
  | cons cell columns ih =>
    obtain ⟨setters, answers, step⟩ := assignColumn_eq alike cell state answers
    obtain ⟨setters, answers, run⟩ := ih (alike_writes alike (writesOf d blank [cell]))
      ⟨setters, record state.counts (outcome d blank cell)⟩ answers
    refine ⟨setters, answers, ?_⟩
    rw [assignAll, List.foldl_cons]
    dsimp only
    rw [step]
    refine run.trans ?_
    simp only [writesOf, ← List.foldl_append, ← List.filterMap_append, List.singleton_append, List.map_cons, List.foldl_cons]

theorem mapRowInto_eq {d : Definition} {start : MapperState} (answers : Answers start.setters d) (blank : Object) (row : Row) :
    (mapRowInto d blank row start).1 = { blank with slots := (writesOf d blank row.cells).foldl Write.apply blank.slots } := by
  have alike : Alike blank blank := ⟨rfl, rfl⟩
  obtain ⟨setters, _, run⟩ := assignAll_eq alike row.cells start answers
  exact congrArg Prod.fst run

theorem place_of_mem {d : Definition} {blank : Object} {columns : List (String × Value)} {w : Write}
    (member : w ∈ writesOf d blank columns) : ∃ cell ∈ columns, target? d blank cell = some w.place := by
  obtain ⟨cell, member, writes⟩ := List.mem_filterMap.mp member
  exact ⟨cell, member, by rw [target?_eq, writes]; rfl⟩

theorem valued_of_write {d : Definition} {blank : Object} (of : blank.IsOf d) {cell : String × Value} {w : Write}
    (writes : write d blank cell = .ok w) : Valued blank.slots w.hops w.position := by
  obtain ⟨s, v, found, rfl, reached, _⟩ := write_spec writes
  obtain ⟨scope, ⟨inner, lands, there⟩, _⟩ := findSetter?_spec found
  apply valued_of_reached lands there of.2
  rw [← of.1, reached]
  rfl

def handled (counts : MappingCounts) : Nat := counts.columnsSet + counts.skipped

theorem record_spec (counts : MappingCounts) (result : Option Skip) :
    (record counts result).rows = counts.rows ∧ handled (record counts result) = handled counts + 1 := by
  cases result with
  | none => exact ⟨rfl, Nat.add_right_comm ..⟩
  | some skip =>
    refine ⟨by cases skip <;> rfl, ?_⟩
    cases skip <;>
    · simp only [handled, record, MappingCounts.recordSkip, MappingCounts.skipped]
      omega

theorem assignColumn_counts (d : Definition) (o : Object) (label : String) (v : Value) (state : MapperState) :
    ∃ result, (assignColumn d o label v state).2.counts = record state.counts result := by
  unfold assignColumn
  dsimp only
  split
  · exact ⟨none, rfl⟩
  · next skip _ => exact ⟨some skip, rfl⟩

theorem assignAll_counts (d : Definition) (columns : List (String × Value)) (start : Object × MapperState) :
    (assignAll d columns start).2.counts.rows = start.2.counts.rows ∧
      handled (assignAll d columns start).2.counts = handled start.2.counts + columns.length := by
  induction columns generalizing start with
  | nil => exact ⟨rfl, rfl⟩
  | cons cell columns ih =>
    obtain ⟨result, counted⟩ := assignColumn_counts d start.1 cell.1 cell.2 start.2
    obtain ⟨rows, total⟩ := ih (assignColumn d start.1 cell.1 cell.2 start.2)
    obtain ⟨sameRows, oneMore⟩ := record_spec start.2.counts result
    rw [counted] at rows total
    refine ⟨rows.trans sameRows, total.trans ?_⟩
    rw [oneMore, List.length_cons]
    omega

theorem mapRowInto_counts (d : Definition) (blank : Object) (row : Row) (start : MapperState) :
    (mapRowInto d blank row start).2.counts.rows = start.counts.rows + 1 ∧
      handled (mapRowInto d blank row start).2.counts = handled start.counts + min row.labels.length row.values.length := by
  obtain ⟨rows, total⟩ := assignAll_counts d row.cells (blank, start)
  rw [Row.cells, List.length_zip] at total
  exact ⟨congrArg (· + 1) rows, total⟩

/-- A row that some mapper maps: the type, its default value, and the setters that are cached by then. -/
structure Call where
  type : Definition
  blank : Object
  setters : SetterCache
  row : Row

/-- The counters that mappers share, after they mapped these rows. -/
def countsAfter (calls : List Call) (counts : MappingCounts) : MappingCounts :=
  calls.foldl (fun counts call => (mapRowInto call.type call.blank call.row ⟨call.setters, counts⟩).2.counts) counts

theorem countsAfter_spec (calls : List Call) (counts : MappingCounts) :
    (countsAfter calls counts).rows = counts.rows + calls.length ∧
      handled (countsAfter calls counts) =
        handled counts + (calls.map fun call => min call.row.labels.length call.row.values.length).sum := by
  induction calls generalizing counts with
  | nil => exact ⟨rfl, rfl⟩
  | cons call calls ih =>
    obtain ⟨row, paired⟩ := mapRowInto_counts call.type call.blank call.row ⟨call.setters, counts⟩
    obtain ⟨rows, total⟩ := ih (mapRowInto call.type call.blank call.row ⟨call.setters, counts⟩).2.counts
    rw [row] at rows
    rw [paired] at total
    refine ⟨rows.trans ?_, total.trans ?_⟩
    · rw [List.length_cons, Nat.add_assoc, Nat.add_comm 1]
    · rw [List.map_cons, List.sum_cons, Nat.add_assoc]

theorem initial_fit (fields : Fields) : fields.Fit fields.initial := by
  induction fields with
  | nil => trivial
  | value f rest ih =>
    refine ⟨?_, ih⟩
    unfold ValueField.initial
    split
    · exact beq_self_eq_true _
    · cases f.scalar <;> rfl
  | nested f inner rest ihInner ih =>
    unfold Fields.initial
    split
    · next optional => exact ⟨optional, ih⟩
    · exact ⟨rfl, ihInner, ih⟩
  | skipped name rest ih => exact ih

theorem initial_isOf (d : Definition) : d.initial.IsOf d := ⟨rfl, initial_fit d.fields⟩

/-- What mapping a row does, told column by column. -/
structure Independent (d : Definition) (blank : Object) (row : Row) (start : MapperState) : Prop where
  /-- A column counts as what assigning it to the new object comes to. -/
  outcomes : ∀ before cell after, row.cells = before ++ cell :: after → ∀ o state, assignAll d before (blank, start) = (o, state) →
    (assignColumn d o cell.1 cell.2 state).2.counts = record state.counts (outcome d blank cell)
  /-- No nested entity appears or disappears. -/
  alike : Alike (mapRowInto d blank row start).1 blank
  kept : ∀ hops position, (∀ cell ∈ row.cells, target? d blank cell ≠ some (hops, position)) →
    valueAt (mapRowInto d blank row start).1.slots hops position = valueAt blank.slots hops position
  set : ∀ before cell after s, row.cells = before ++ cell :: after → setterOf d cell.1 = some s → outcome d blank cell = none →
    (∀ later ∈ after, target? d blank later ≠ some (s.hops, s.position)) →
    s.field.store s.owner cell.2 = .ok (valueAt (mapRowInto d blank row start).1.slots s.hops s.position)

theorem independent {d : Definition} {blank : Object} (of : blank.IsOf d) (row : Row) {start : MapperState}
    (answers : Answers start.setters d) : Independent d blank row start where
  outcomes := by
    intro before cell after _ o state run
    have alike : Alike blank blank := ⟨rfl, rfl⟩
    obtain ⟨setters, later, reached⟩ := assignAll_eq alike before start answers
    rw [run] at reached
    cases reached
    obtain ⟨_, _, step⟩ := assignColumn_eq (alike_writes alike (writesOf d blank before)) cell ⟨setters, _⟩ later
    exact congrArg (·.2.counts) step
  alike := by
    rw [mapRowInto_eq answers]
    exact alike_writes ⟨rfl, rfl⟩ _
  kept := by
    intro hops position untargeted
    rw [mapRowInto_eq answers]
    apply valueAt_writes
    intro w member same
    obtain ⟨cell, member, target⟩ := place_of_mem member
    exact untargeted cell member (same ▸ target)
  set := by
    intro before cell after s split found set last
    obtain ⟨w, writes⟩ := outcome_eq_none_iff.mp set
    obtain ⟨s', v, found', rfl, _, stores⟩ := write_spec writes
    cases found.symm.trans found'
    have valued := valued_of_write of writes
    have written : (writesOf d blank row.cells).foldl Write.apply blank.slots =
        (writesOf d blank after).foldl Write.apply
          (putIn v s.position s.hops ((writesOf d blank before).foldl Write.apply blank.slots)) := by
      simp only [split, writesOf, List.filterMap_append, List.foldl_append, List.filterMap_cons, writes, Except.toOption, List.foldl_cons]
      rfl
    have elsewhere : ∀ w ∈ writesOf d blank after, w.place ≠ (s.hops, s.position) := by
      intro w member same
      obtain ⟨later, member, target⟩ := place_of_mem member
      exact last later member (same ▸ target)
    rw [mapRowInto_eq answers, written, valueAt_writes elsewhere, valueAt_putIn_self, stores]
    rw [← valued_outline, outline_writes, valued_outline]
    exact valued

/-- A row is mapped whatever it holds, each column for itself. Columns that set different places may change places, and every row
and every column is counted once, by whatever mappers. -/
theorem mapRow_independent {d : Definition} {blank : Object} (of : blank.IsOf d)
    {lookups : List (Definition × String × String)} (own : ∀ l ∈ lookups, l.1.type.id = d.type.id → l.1 = d)
    (counts : MappingCounts) (row : Row) :
    (∀ (σ : Type) (session : Session.State σ),
      (Session.Dao.mapEntity d row session).1 = .ok (mapRow d row ⟨session.setters, session.counts⟩).1) ∧
    Independent d blank row ⟨filledBy lookups, counts⟩ ∧
    ((row.cells.Pairwise fun a b => target? d blank a = none ∨ target? d blank a ≠ target? d blank b) →
      ∀ lookups' counts' row', (∀ l ∈ lookups', l.1.type.id = d.type.id → l.1 = d) → row'.cells.Perm row.cells →
        (mapRowInto d blank row' ⟨filledBy lookups', counts'⟩).1 = (mapRowInto d blank row ⟨filledBy lookups, counts⟩).1) ∧
    ∀ calls, (countsAfter calls counts).rows = counts.rows + calls.length ∧
      handled (countsAfter calls counts) =
        handled counts + (calls.map fun call => min call.row.labels.length call.row.values.length).sum := by
  refine ⟨fun _ _ => rfl, independent of row (answers_filledBy own), ?_, fun calls => countsAfter_spec calls counts⟩
  intro apart lookups' counts' row' own' perm
  rw [mapRowInto_eq (answers_filledBy own'), mapRowInto_eq (answers_filledBy own)]
  have places : (writesOf d blank row.cells).Pairwise fun w w' => w.place ≠ w'.place := by
    apply apart.filterMap
    intro a b different w writes w' writes' same
    rw [target?_eq, target?_eq, writes, writes', Option.map_some, Option.map_some, same] at different
    simp at different
  have writes : (writesOf d blank row.cells).Perm (writesOf d blank row'.cells) := perm.symm.filterMap _
  rw [writes_perm writes places]

def accountRow : Row where
  labels := ["CREATED_BY", "ADDR$CITY", "NICK", "AGE"]
  values := [.varchar (some "me"), .varchar (some "Rome"), .varchar (some "Al"), .int32 (some 7)]

theorem mapRow_independent_account :
    account.initial.IsOf account ∧
    accountRow.cells.map (outcome account account.initial) = [none, some .nullEmbedded, some .missingSetter, none] ∧
    (mapRow account ⟨accountRow.labels.reverse, accountRow.values.reverse⟩ ⟨filledBy [], {}⟩).1 =
      (mapRow account accountRow ⟨filledBy [(account, "", "AGE")], {}⟩).1 := by
  have own : ∀ l ∈ [(account, "", "AGE")], l.1.type.id = account.type.id → l.1 = account := by simp
  have of := initial_isOf account
  obtain ⟨_, _, permuted, _⟩ := mapRow_independent of own {} accountRow
  have apart : accountRow.cells.Pairwise fun a b =>
      target? account account.initial a = none ∨ target? account account.initial a ≠ target? account account.initial b := by
    decide +kernel
  refine ⟨of, by decide +kernel, permuted apart [] {} _ (by simp) ?_⟩
  exact List.reverse_perm accountRow.cells

end EntityMapping.Proofs.ColumnIndependence
