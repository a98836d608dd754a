import EntityMapping.Proofs.OperationPlans
import EntityMapping.Proofs.Outcomes

/-! Why an operation cannot be planned. Whatever the reason, it is never reported as an empty result: that is for the database to
say, and reading takes it as no row. -/

namespace EntityMapping.Proofs.PlanFailures
open Entity Rows Statement Session MutationAlignment OperationPlans Outcomes

variable {σ α β : Type} {n : Nat}

def NeverEmpty (result : Except Failure α) : Prop := ∀ e, result = .error e → e.status ≠ .emptyResult

theorem neverEmpty_ok (a : α) : NeverEmpty (.ok a) := by
  rintro e ⟨⟩

theorem neverEmpty_error {status : Status} {args : List String} {cause : Option Cause} (other : status ≠ .emptyResult) :
    NeverEmpty (.error { status, args, cause } : Except Failure α) := by
  rintro e ⟨⟩
  exact other

theorem NeverEmpty.bind {first : Except Failure α} {next : α → Except Failure β} (never : NeverEmpty first)
    (rest : ∀ a, NeverEmpty (next a)) : NeverEmpty (first >>= next) := by
  cases first with
  | error e =>
    rintro e ⟨⟩
    exact never e rfl
  | ok a => exact rest a

theorem NeverEmpty.map {first : Except Failure α} (never : NeverEmpty first) (f : α → β) : NeverEmpty (first.map f) :=
  never.bind fun a => neverEmpty_ok (f a)

theorem neverEmpty_foldlM {f : β → α → Except Failure β} (each : ∀ b a, NeverEmpty (f b a)) (b : β) (as : List α) :
    NeverEmpty (as.foldlM f b) := by
  induction as generalizing b with
  | nil => exact neverEmpty_ok b
  | cons a as ih => exact (each b a).bind fun b => ih b

theorem neverEmpty_known (dao : Dao σ n) (store : MetadataStore) (entity : Fin n) : NeverEmpty (known dao store entity) := by
  rw [known, get_answer]
  cases store.entries[entity.val]? with
  | some m => exact neverEmpty_ok m
  | none =>
    apply NeverEmpty.bind
    · rw [Table.ofClauses]
      split
      · exact neverEmpty_error (by decide)
      · exact neverEmpty_ok _
    · intro tables
      apply NeverEmpty.bind
      · rw [Schema.definition]
        split
        · exact neverEmpty_ok _
        · exact neverEmpty_error (by decide)
      · exact fun d => neverEmpty_ok _

theorem neverEmpty_gate (dao : Dao σ n) (store : MetadataStore) : NeverEmpty (gate dao store) := by
  apply (neverEmpty_known dao store dao.entity).bind
  intro m
  rw [Mutation.of]
  split
  · exact neverEmpty_ok _
  · exact neverEmpty_error (by decide)

theorem neverEmpty_target (dao : Dao σ n) (store : MetadataStore) (entity : Fin n) : NeverEmpty (target dao store entity) := by
  apply (neverEmpty_known dao store entity).bind
  intro m
  rw [mapperType]
  split
  · exact neverEmpty_ok _
  · exact neverEmpty_error (by decide)

theorem neverEmpty_mapper (mappers : RowMappers) (type : String) : NeverEmpty (mappers.get type) := by
  rw [RowMappers.get]
  split
  · exact neverEmpty_ok _
  · exact neverEmpty_error (by decide)

theorem neverEmpty_template (c : Context) (m : Metadata) (text : String) : NeverEmpty (template c m text) := by
  rw [template]
  split
  · exact neverEmpty_ok _
  · exact neverEmpty_error (by decide)

theorem neverEmpty_selectFields (m : Metadata) (includes excludes : Option String) :
    NeverEmpty (selectFields m includes excludes) := by
  rw [selectFields]
  split
  · exact neverEmpty_ok _
  · apply neverEmpty_foldlM
    intro picked name
    rw [pickField]
    split
    · exact neverEmpty_error (by decide)
    · exact neverEmpty_ok _

theorem neverEmpty_whereClause (c : Context) (m : Metadata) (filter : Option String) : NeverEmpty (whereClause c m filter) := by
  unfold whereClause
  dsimp only
  split
  · exact (neverEmpty_template c m _).map _
  · exact (neverEmpty_template c m _).map _
  · exact neverEmpty_ok _
  · exact neverEmpty_ok _

theorem neverEmpty_keywordClause (c : Context) (m : Metadata) (keyword : String) (text : Option String) :
    NeverEmpty (keywordClause c m keyword text) := by
  rw [keywordClause]
  split
  · exact neverEmpty_ok _
  · exact (neverEmpty_template c m _).map _

theorem neverEmpty_projection (m : Metadata) (includes excludes : Option String) :
    NeverEmpty (projection m includes excludes) := by
  apply (neverEmpty_selectFields m includes excludes).bind
  intro fields
  split
  · exact neverEmpty_error (by decide)
  · exact neverEmpty_ok _

theorem neverEmpty_select (dialect : Dialect) (m : Metadata) (s : Select) (object : Option Template.Properties) :
    NeverEmpty (select dialect m s object) := by
  apply (neverEmpty_projection m _ _).bind
  intro columns
  apply (neverEmpty_whereClause _ m _).bind
  intro filter
  apply (neverEmpty_keywordClause _ m _ _).bind
  intro groupBy
  exact (neverEmpty_keywordClause _ m _ _).bind fun orderBy => neverEmpty_ok _

theorem neverEmpty_selectValue (m : Metadata) (expression : String) (filter : Option String)
    (object : Option Template.Properties) : NeverEmpty (selectValue m expression filter object) := by
  apply (neverEmpty_template _ m expression).bind
  intro value
  exact (neverEmpty_whereClause _ m filter).bind fun filter => neverEmpty_ok _

section Writes
variable {S : Type}

/-- The same for what is written behind something. -/
def WritesNeverEmpty (w : ExceptT Failure (StateM S) α) : Prop := ∀ s, NeverEmpty (w.run.run s).1

theorem writes_lift {x : Except Failure α} (never : NeverEmpty x) :
    WritesNeverEmpty (liftM x : ExceptT Failure (StateM S) α) := fun _ => never

theorem writes_pure (a : α) : WritesNeverEmpty (pure a : ExceptT Failure (StateM S) α) := fun _ => neverEmpty_ok a

theorem WritesNeverEmpty.bind {first : ExceptT Failure (StateM S) α} {next : α → ExceptT Failure (StateM S) β}
    (never : WritesNeverEmpty first) (rest : ∀ a, WritesNeverEmpty (next a)) : WritesNeverEmpty (first >>= next) := by
  intro s
  have before := never s
  rw [bind_run]
  cases run : first.run.run s with
  | mk result s' =>
    rw [run] at before
    cases result with
    | error e =>
      rintro e ⟨⟩
      exact before e rfl
    | ok a => exact rest a s'

end Writes

theorem writes_text (s : String) : WritesNeverEmpty (Writing.text s) := fun _ => neverEmpty_ok ()

theorem writes_draft (s : String) : WritesNeverEmpty (Drafting.text s) := fun _ => neverEmpty_ok ()

theorem writes_param (v : Value) : WritesNeverEmpty (Writing.param v) := fun _ => neverEmpty_ok ()

theorem writes_noFields (m : Metadata) : WritesNeverEmpty (throw (noFields m) : Writing α) :=
  fun _ => neverEmpty_error (by decide)

theorem neverEmpty_readField (m : Metadata) (o : Object) (key : String) : NeverEmpty (readField m o key) := by
  rw [readField]
  split
  · exact neverEmpty_ok _
  · exact neverEmpty_error (by decide)

theorem writes_insertedColumns (m : Metadata) (o : Object) (fields : List (String × FieldMapping)) :
    WritesNeverEmpty (Mutation.insertedColumns m o fields) := by
  induction fields with
  | nil => exact writes_pure []
  | cons field rest ih =>
    rw [Mutation.insertedColumns]
    split
    · exact ih
    · apply (writes_lift (neverEmpty_readField m o field.1)).bind
      intro v
      split
      · exact ih
      · exact (writes_param v).bind fun _ => ih.bind fun columns => writes_pure _

theorem writes_insert (w : Mutation) (o : Object) : WritesNeverEmpty (w.insert o) := by
  apply (writes_insertedColumns w.metadata o w.metadata.fields).bind
  intro columns
  split
  · exact writes_noFields w.metadata
  · exact writes_text _

theorem writes_assignments (m : Metadata) (o : Object) (first : Bool) (fields : List (String × FieldMapping)) :
    WritesNeverEmpty (Mutation.assignments m o first fields) := by
  induction fields generalizing first with
  | nil => exact writes_pure ()
  | cons field rest ih =>
    apply (writes_lift (neverEmpty_readField m o field.1)).bind
    intro v
    exact (writes_param v).bind fun _ => (writes_text _).bind fun _ => ih false

theorem writes_update (w : Mutation) (o : Object) (includes excludes filter : Option String) :
    WritesNeverEmpty (w.update o includes excludes filter) := by
  apply (writes_lift (neverEmpty_selectFields w.metadata includes excludes)).bind
  intro fields
  split
  · exact writes_noFields w.metadata
  · apply (writes_text _).bind
    intro _
    apply (writes_assignments w.metadata o true _).bind
    intro _
    exact (writes_lift (neverEmpty_whereClause _ w.metadata filter)).bind fun text => writes_text text

theorem writes_delete (w : Mutation) (filter : Option String) : WritesNeverEmpty (w.delete filter) := by
  apply (writes_text _).bind
  intro _
  exact (writes_lift (neverEmpty_whereClause _ w.metadata filter)).bind fun text => writes_text text

/-- The writer never fails with an empty result. -/
structure WriterNeverEmpty (x : Writer) : Prop where
  select : ∀ m s object, WritesNeverEmpty (x.select m s object)
  selectValue : ∀ m expression filter object, WritesNeverEmpty (x.selectValue m expression filter object)
  insert : ∀ w o, WritesNeverEmpty (x.insert w o)
  update : ∀ w o includes excludes filter, WritesNeverEmpty (x.update w o includes excludes filter)
  delete : ∀ w filter, WritesNeverEmpty (x.delete w filter)

theorem writer_neverEmpty (dialect : Dialect) : WriterNeverEmpty dialect.writer where
  select m s object := (writes_lift (neverEmpty_select dialect m s object)).bind fun sql => writes_draft sql
  selectValue m expression filter object :=
    (writes_lift (neverEmpty_selectValue m expression filter object)).bind fun sql => writes_draft sql
  insert := writes_insert
  update := writes_update
  delete := writes_delete

theorem WritesNeverEmpty.ready {writing : Writing Unit} (never : WritesNeverEmpty writing) (args : List Value) :
    NeverEmpty (ready writing args) :=
  fun e failed => never _ e (ready_eq_error_iff.mp failed)

theorem neverEmpty_readyBound {draft : Option Template.Properties → Drafting Unit} (never : ∀ object, WritesNeverEmpty (draft object))
    (binding : Binding) : NeverEmpty (readyBound draft binding) := by
  intro e failed
  cases binding with
  | args values => exact never _ _ e (readySelect_eq_error_iff.mp failed)
  | object properties => exact never _ _ e (readySelect_eq_error_iff.mp failed)

theorem neverEmpty_store (owner : TypeName) (f : ValueField) (v : Value) : NeverEmpty (f.store owner v) := by
  rw [ValueField.store]
  split
  · exact neverEmpty_ok _
  · exact neverEmpty_error (show Status.propertyAccessFailure ≠ .emptyResult by decide)

theorem neverEmpty_setInBase (owner : TypeName) (fields : Fields) (slots : Slots) (name : String) (v : Value) :
    NeverEmpty (fields.setInBase owner slots name v) := by
  have missing : ∀ owner name, NeverEmpty (.error (inaccessible owner name) : Except Failure Slots) :=
    fun owner name => neverEmpty_error (show Status.propertyAccessFailure ≠ .emptyResult by decide)
  fun_induction Fields.setInBase owner fields slots name v with
  | case3 | case7 | case9 => exact missing _ _
  | case4 => exact (neverEmpty_store _ _ _).map _
  | case1 | case2 | case5 | case6 | case8 =>
    apply NeverEmpty.map
    assumption

theorem neverEmpty_write (d : Definition) (o : Object) (name : String) (v : Value) : NeverEmpty (d.write o name v) := by
  rw [Definition.write]
  split
  · exact neverEmpty_error (by decide)
  · split
    · exact (neverEmpty_store _ _ v).map _
    · exact (neverEmpty_setInBase _ _ _ name v).map _

theorem neverEmpty_identified (w : Mutation) (fresh : Uuid) (o : Object) : NeverEmpty (identified w fresh o) := by
  rw [identified]
  split
  · exact neverEmpty_error (by decide)
  · split
    · exact neverEmpty_write _ o "id" _
    · exact neverEmpty_ok o

section
variable (dao : Dao σ n) (store : MetadataStore)

theorem planWrite_eq_error_iff {write : Mutation → Except Failure Query} {e : Failure} :
    planWrite dao store write = .error e ↔ gate dao store = .error e ∨ ∃ w, gate dao store = .ok w ∧ write w = .error e := by
  simp [planWrite, bind_eq_error, pure, Except.pure]

theorem plan_refused {writing : Mutation → Writing Unit} {args : List Value} {w : Mutation} {e : Failure}
    (allowed : gate dao store = .ok w) (failed : ((writing w).run.run .empty).1 = .error e) :
    planWrite dao store (fun w => ready (writing w) args) = .error e :=
  (planWrite_eq_error_iff dao store).mpr (.inr ⟨w, allowed, ready_eq_error_iff.mpr failed⟩)

theorem neverEmpty_write_plan {write : Mutation → Except Failure Query} (never : ∀ w, NeverEmpty (write w)) :
    NeverEmpty (planWrite dao store write) :=
  (neverEmpty_gate dao store).bind fun w => (never w).bind fun _ => neverEmpty_ok _

variable {writer : Writer} (never : WriterNeverEmpty writer)
include never

theorem neverEmpty_update (o : Object) (includes excludes filter : Option String) (args : List Value) :
    NeverEmpty (planUpdate dao store writer o includes excludes filter args) :=
  neverEmpty_write_plan dao store fun w => (never.update w o includes excludes filter).ready _

theorem neverEmpty_updateFields (o : Object) (fields filter : String) (args : List Value) :
    NeverEmpty (planUpdateFields dao store writer o fields filter args) := by
  rw [planUpdateFields]
  split
  · exact neverEmpty_error (by decide)
  · exact neverEmpty_update dao store never o (some fields) none (some filter) args

theorem neverEmpty_delete (filter : Option String) (args : List Value) : NeverEmpty (planDelete dao store writer filter args) :=
  neverEmpty_write_plan dao store fun w => (never.delete w filter).ready _

theorem neverEmpty_selected (select : Select) (binding : Binding) : NeverEmpty (selected dao store writer select binding) :=
  (neverEmpty_known dao store dao.entity).bind fun m => neverEmpty_readyBound (never.select m select) binding

theorem neverEmpty_valued (expression : String) (filter : Option String) (binding : Binding) :
    NeverEmpty (valued dao store writer expression filter binding) :=
  (neverEmpty_known dao store dao.entity).bind fun m => neverEmpty_readyBound (never.selectValue m expression filter) binding

theorem neverEmpty_list (entity : Fin n) (select : Select) (binding : Binding) :
    NeverEmpty (planList dao store writer entity select binding) :=
  (neverEmpty_target dao store entity).bind fun _ =>
    (neverEmpty_selected dao store never select binding).bind fun _ => neverEmpty_ok _

theorem neverEmpty_object (entity : Fin n) (includes excludes filter : Option String) (binding : Binding) :
    NeverEmpty (planObject dao store writer entity includes excludes filter binding) :=
  (neverEmpty_target dao store entity).bind fun _ =>
    (neverEmpty_selected dao store never _ binding).bind fun _ => neverEmpty_ok _

theorem neverEmpty_mapped (select : Select) (binding : Binding) :
    NeverEmpty (planMapped dao store writer select binding : Except Failure (Plan α)) :=
  (neverEmpty_selected dao store never select binding).bind fun _ => neverEmpty_ok _

theorem neverEmpty_plan (mappers : RowMappers) (op : Operation n α) : NeverEmpty (op.plan dao store writer mappers) := by
  cases op with
  | create o => exact neverEmpty_write_plan dao store fun w => (never.insert w o).ready []
  | createWithId fresh o =>
    exact neverEmpty_write_plan dao store fun w =>
      (neverEmpty_identified w fresh o).bind fun o => (never.insert w o).ready []
  | update | updateById | updateByFilter => exact neverEmpty_update dao store never _ _ _ _ _
  | updateFields | updateFieldsByFilter => exact neverEmpty_updateFields dao store never _ _ _ _
  | delete | deleteById => exact neverEmpty_delete dao store never _ _
  | queryForList | queryForListAs | list | listAs => exact neverEmpty_list dao store never _ _ _
  | queryForObject | queryForObjectAs | get | getAs => exact neverEmpty_object dao store never _ _ _ _ _
  | queryForListMapped type | queryForObjectMapped type =>
    exact (neverEmpty_mapper mappers type).bind fun _ => neverEmpty_mapped dao store never _ _
  | queryForListWith | queryForObjectWith => exact neverEmpty_mapped dao store never _ _
  | queryForValue | count => exact (neverEmpty_valued dao store never _ _ _).bind fun _ => neverEmpty_ok _

end

def Fails (result : Except Failure α) : Prop := ∃ e, result = .error e

theorem Fails.bind {first : Except Failure α} (fails : Fails first) (next : α → Except Failure β) : Fails (first >>= next) := by
  obtain ⟨e, rfl⟩ := fails
  exact ⟨e, rfl⟩

theorem fails_bind {first : Except Failure α} {next : α → Except Failure β} (fails : ∀ a, Fails (next a)) :
    Fails (first >>= next) := by
  cases first with
  | error e => exact ⟨e, rfl⟩
  | ok a => exact fails a

/-- The writer fails at every statement, however much of it it has written. -/
structure Refuses (writer : Writer) : Prop where
  select : ∀ m s object, Fails ((writer.select m s object).run.run "").1
  selectValue : ∀ m expression filter object, Fails ((writer.selectValue m expression filter object).run.run "").1
  insert : ∀ w o, Fails ((writer.insert w o).run.run .empty).1
  update : ∀ w o includes excludes filter, Fails ((writer.update w o includes excludes filter).run.run .empty).1
  delete : ∀ w filter, Fails ((writer.delete w filter).run.run .empty).1

theorem fails_ready {writing : Writing Unit} (fails : Fails (writing.run.run .empty).1) (args : List Value) :
    Fails (ready writing args) := by
  obtain ⟨e, failed⟩ := fails
  exact ⟨e, ready_eq_error_iff.mpr failed⟩

theorem fails_readyBound {draft : Option Template.Properties → Drafting Unit}
    (fails : ∀ object, Fails ((draft object).run.run "").1) (binding : Binding) : Fails (readyBound draft binding) := by
  cases binding with
  | args values =>
    obtain ⟨e, failed⟩ := fails none
    exact ⟨e, readySelect_eq_error_iff.mpr failed⟩
  | object properties =>
    obtain ⟨e, failed⟩ := fails (some properties)
    exact ⟨e, readySelect_eq_error_iff.mpr failed⟩

section
variable (dao : Dao σ n) (store : MetadataStore)

theorem fails_write {write : Mutation → Except Failure Query} (fails : ∀ w, Fails (write w)) : Fails (planWrite dao store write) :=
  fails_bind fun w => (fails w).bind _

variable {writer : Writer} (refuses : Refuses writer)
include refuses

theorem fails_update (o : Object) (includes excludes filter : Option String) (args : List Value) :
    Fails (planUpdate dao store writer o includes excludes filter args) :=
  fails_write dao store fun w => fails_ready (refuses.update w o includes excludes filter) _

theorem fails_updateFields (o : Object) (fields filter : String) (args : List Value) :
    Fails (planUpdateFields dao store writer o fields filter args) := by
  rw [planUpdateFields]
  split
  · exact ⟨_, rfl⟩
  · exact fails_update dao store refuses o (some fields) none (some filter) args

theorem fails_delete (filter : Option String) (args : List Value) : Fails (planDelete dao store writer filter args) :=
  fails_write dao store fun w => fails_ready (refuses.delete w filter) _

theorem fails_selected (select : Select) (binding : Binding) : Fails (selected dao store writer select binding) :=
  fails_bind fun m => fails_readyBound (refuses.select m select) binding

theorem fails_valued (expression : String) (filter : Option String) (binding : Binding) :
    Fails (valued dao store writer expression filter binding) :=
  fails_bind fun m => fails_readyBound (refuses.selectValue m expression filter) binding

theorem fails_list (entity : Fin n) (select : Select) (binding : Binding) :
    Fails (planList dao store writer entity select binding) :=
  fails_bind fun _ => (fails_selected dao store refuses select binding).bind _

theorem fails_object (entity : Fin n) (includes excludes filter : Option String) (binding : Binding) :
    Fails (planObject dao store writer entity includes excludes filter binding) :=
  fails_bind fun _ => (fails_selected dao store refuses _ binding).bind _

theorem fails_mapped (select : Select) (binding : Binding) :
    Fails (planMapped dao store writer select binding : Except Failure (Plan α)) :=
  (fails_selected dao store refuses select binding).bind _

/-- Nothing is planned with a writer that fails at every statement. -/
theorem fails_plan (mappers : RowMappers) (op : Operation n α) : Fails (op.plan dao store writer mappers) := by
  cases op with
  | create o => exact fails_write dao store fun w => fails_ready (refuses.insert w o) []
  | createWithId fresh o => exact fails_write dao store fun w => fails_bind fun o => fails_ready (refuses.insert w o) []
  | update | updateById | updateByFilter => exact fails_update dao store refuses _ _ _ _ _
  | updateFields | updateFieldsByFilter => exact fails_updateFields dao store refuses _ _ _ _
  | delete | deleteById => exact fails_delete dao store refuses _ _
  | queryForList | queryForListAs | list | listAs => exact fails_list dao store refuses _ _ _
  | queryForObject | queryForObjectAs | get | getAs => exact fails_object dao store refuses _ _ _ _ _
  | queryForListMapped | queryForObjectMapped => exact fails_bind fun _ => fails_mapped dao store refuses _ _
  | queryForListWith | queryForObjectWith => exact fails_mapped dao store refuses _ _
  | queryForValue | count => exact (fails_valued dao store refuses _ _ _).bind _

end

/-- What the plan makes of an answer is never an empty result. -/
def Clear (plan : Except Failure (Plan α)) : Prop :=
  ∀ p, plan = .ok p → ∀ reading, p.reading = some reading → ∀ state answer, NeverEmpty (reading state answer)

theorem clear_bind {first : Except Failure α} {plan : α → Except Failure (Plan β)} (rest : ∀ a, Clear (plan a)) :
    Clear (first >>= plan) := by
  cases first with
  | error e => rintro p ⟨⟩
  | ok a => exact rest a

theorem clear_unread (q : Query) : Clear (.ok ⟨q, none⟩ : Except Failure (Plan α)) := by
  rintro p ⟨⟩ reading ⟨⟩

theorem neverEmpty_answered {single : Bool} {nothing : α} {mapped : Row → List Row → Except Failure α}
    (each : ∀ row rows, NeverEmpty (mapped row rows)) (answer : Except Failure (List Row)) :
    NeverEmpty (answered single nothing mapped answer) := by
  unfold answered
  split
  · next e =>
    split
    · exact neverEmpty_ok nothing
    · next other =>
      rintro e ⟨⟩
      exact other
  · exact neverEmpty_ok nothing
  · split
    · exact neverEmpty_error (by decide)
    · exact each _ _

theorem clear_read {q : Query} {single : Bool} {nothing : α} {mapped : MapperState → Row → List Row → Except Failure α}
    (each : ∀ state row rows, NeverEmpty (mapped state row rows)) :
    Clear (.ok ⟨q, some fun state => answered single nothing (mapped state)⟩) := by
  rintro p ⟨⟩ reading ⟨⟩ state answer
  exact neverEmpty_answered (each state) answer

theorem neverEmpty_converted (type : ResultType α) (expression : String) (row : Row) : NeverEmpty (converted type expression row) := by
  unfold converted
  dsimp only
  split
  · exact neverEmpty_ok _
  · split
    · exact neverEmpty_ok _
    · exact neverEmpty_error (by decide)

theorem neverEmpty_counted (row : Row) : NeverEmpty (counted row) := by
  unfold counted
  dsimp only
  split
  · exact neverEmpty_ok 0
  · split
    · exact neverEmpty_ok _
    · exact neverEmpty_ok 0
    · exact neverEmpty_error (by decide)

section
variable (dao : Dao σ n) (store : MetadataStore) (writer : Writer)

theorem clear_write (write : Mutation → Except Failure Query) : Clear (planWrite dao store write) :=
  clear_bind fun _ => clear_bind fun q => clear_unread q

theorem clear_updateFields (o : Object) (fields filter : String) (args : List Value) :
    Clear (planUpdateFields dao store writer o fields filter args) := by
  rw [planUpdateFields]
  split
  · rintro p ⟨⟩
  · exact clear_write dao store _

theorem clear_list (entity : Fin n) (select : Select) (binding : Binding) :
    Clear (planList dao store writer entity select binding) :=
  clear_bind fun _ => clear_bind fun _ => clear_read fun _ _ _ => neverEmpty_ok _

theorem clear_object (entity : Fin n) (includes excludes filter : Option String) (binding : Binding) :
    Clear (planObject dao store writer entity includes excludes filter binding) :=
  clear_bind fun _ => clear_bind fun _ => clear_read fun _ _ _ => neverEmpty_ok _

theorem clear_mapped (select : Select) (binding : Binding) :
    Clear (planMapped dao store writer select binding : Except Failure (Plan α)) :=
  clear_bind fun q => clear_unread q

theorem clear_plan (mappers : RowMappers) (op : Operation n α) : Clear (op.plan dao store writer mappers) := by
  cases op with
  | create | createWithId | update | updateById | updateByFilter | delete | deleteById => exact clear_write dao store _
  | updateFields | updateFieldsByFilter => exact clear_updateFields dao store writer _ _ _ _
  | queryForList | queryForListAs | list | listAs => exact clear_list dao store writer _ _ _
  | queryForObject | queryForObjectAs | get | getAs => exact clear_object dao store writer _ _ _ _ _
  | queryForListMapped | queryForObjectMapped => exact clear_bind fun _ => clear_mapped dao store writer _ _
  | queryForListWith | queryForObjectWith => exact clear_mapped dao store writer _ _
  | queryForValue type expression => exact clear_bind fun _ => clear_read fun _ row _ => neverEmpty_converted type expression row
  | count => exact clear_bind fun _ => clear_read fun _ row _ => neverEmpty_counted row

end

end EntityMapping.Proofs.PlanFailures
