import EntityMapping.Proofs.PlanFailures

/-! What operations send to the database. Every operation prepares its one statement before it sends anything, and a failure
until then is its result. What the reading of entities comes to is fixed by the answer of the database; an empty result is
never a failure of theirs. -/

namespace EntityMapping.Proofs.StatementSending
open Entity Rows Statement Session MutationAlignment OperationPlans PlanFailures

variable {σ α β : Type} {n : Nat}

/-- The stores answer alike, though one of them may hold more metadata from an earlier lookup. -/
def Alike (schema : Schema n) (store store' : MetadataStore) : Prop := ∀ i, (store.get schema i).1 = (store'.get schema i).1

theorem alike_get (schema : Schema n) (store : MetadataStore) (i : Fin n) : Alike schema (store.get schema i).2 store := by
  intro j
  rw [get_answer, get_answer, MetadataStore.get]
  cases held : store.entries[i.val]? with
  | some m => rfl
  | none =>
    cases built : Metadata.ofSchema schema i with
    | error e => rfl
    | ok m =>
      dsimp only
      rw [Std.HashMap.getElem?_insert]
      by_cases same : i = j
      · rw [if_pos (by simp [same]), ← same, held, built]
        rfl
      · rw [if_neg (by simpa [Fin.ext_iff] using same)]

/-- The action comes to the result and changes nothing but the store, which answers as before. -/
def Prepares (schema : Schema n) (act : Action σ α) (s : State σ) (result : Except Failure α) : Prop :=
  ∀ store, Alike schema store s.store →
    ∃ store', act.run.run { s with store } = (result, { s with store := store' }) ∧ Alike schema store' s.store

section
variable {dao : Dao σ n} {schema : Schema n} {s : State σ}

theorem prepares_lift (x : Except Failure α) : Prepares schema (liftM x : Action σ α) s x :=
  fun store alike => ⟨store, rfl, alike⟩

theorem prepares_metadata (entity : Fin n) : Prepares dao.schema (dao.metadataOf entity) s (known dao s.store entity) := by
  intro store alike
  refine ⟨(store.get dao.schema entity).2, ?_, fun i => (alike_get dao.schema store entity i).trans (alike i)⟩
  rw [known, ← alike entity]
  rfl

theorem prepares_with_writer {next : Writer → Action σ α} {result : Except Failure α}
    (prepared : Prepares schema (next (dao.executor.writer s.database)) s result) :
    Prepares schema (dao.writer >>= next) s result := prepared

theorem prepares_mapper (type : String) : Prepares schema (Dao.mapperFor type) s (s.mappers.get type) :=
  fun store alike => ⟨store, rfl, alike⟩

theorem Prepares.bind {act : Action σ α} {next : α → Action σ β} {first : Except Failure α} {second : α → Except Failure β}
    (prepared : Prepares schema act s first) (rest : ∀ a, Prepares schema (next a) s (second a)) :
    Prepares schema (act >>= next) s (first >>= second) := by
  intro store alike
  obtain ⟨store', run, alike'⟩ := prepared store alike
  rw [bind_run, run]
  cases first with
  | error e => exact ⟨store', rfl, alike'⟩
  | ok a => exact rest a store' alike'

theorem prepares_mutation : Prepares dao.schema dao.mutation s (gate dao s.store) :=
  (prepares_metadata dao.entity).bind fun _ => prepares_lift _

theorem prepares_target (entity : Fin n) : Prepares dao.schema (dao.mapperOf entity) s (target dao s.store entity) :=
  (prepares_metadata entity).bind fun _ => prepares_lift _

theorem written_eq (writing : Writing Unit) (args : List Value) : Dao.written writing args = ready writing args := by
  rw [Dao.written, ready, Query.empty]
  rcases writing.run.run ⟨"", []⟩ with ⟨_ | _, _⟩ <;> rfl

theorem argsOf_eq (filter : Option String) (args : List Value) : Dao.argsOf filter args = filterArgs filter args := by
  rw [Dao.argsOf, filterArgs]
  cases Text.nonBlank? filter <;> rfl

theorem drafted_eq (draft : Option Template.Properties → Drafting Unit) (binding : Binding) :
    Dao.drafted (draft binding.properties?) binding = readyBound draft binding := by
  cases binding with
  | args values =>
    simp only [Dao.drafted, readyBound, readySelect, Binding.properties?, Binding.params]
    rcases (draft none).run.run "" with ⟨_ | _, _⟩ <;> rfl
  | object properties =>
    simp only [Dao.drafted, readyBound, readySelect, Binding.properties?, Binding.params]
    rcases (draft (some properties)).run.run "" with ⟨_ | _, _⟩ <;> rfl

theorem withId_eq (w : Mutation) (fresh : Uuid) (o : Object) : Dao.withId w fresh o = identified w fresh o := by
  rw [Dao.withId, identified]
  cases w.metadata.definition.read o "id" with
  | none => rfl
  | some id => cases null : id.isNull <;> simp [null]

theorem prepares_select (select : Select) (binding : Binding) :
    Prepares dao.schema (dao.selectQuery select binding) s (selected dao s.store (dao.executor.writer s.database) select binding) := by
  apply (prepares_metadata dao.entity).bind
  intro m
  apply prepares_with_writer
  rw [drafted_eq ((dao.executor.writer s.database).select m select)]
  exact prepares_lift _

end

/-- The action leaves the database as it is. -/
def Quiet (act : Action σ α) : Prop := ∀ s, (act.run.run s).2.database = s.database

theorem quiet_pure (a : α) : Quiet (pure a : Action σ α) := fun _ => rfl

theorem quiet_lift (x : Except Failure α) : Quiet (liftM x : Action σ α) := fun _ => rfl

theorem Quiet.bind {act : Action σ α} {next : α → Action σ β} (quiet : Quiet act) (rest : ∀ a, Quiet (next a)) :
    Quiet (act >>= next) := by
  intro s
  rw [bind_run]
  have first := quiet s
  cases run : act.run.run s with
  | mk result s' =>
    rw [run] at first
    cases result with
    | error e => exact first
    | ok a => exact (rest a s').trans first

theorem quiet_mapM {f : α → Action σ β} (each : ∀ a, Quiet (f a)) (as : List α) : Quiet (as.mapM f) := by
  induction as with
  | nil => exact quiet_pure []
  | cons a as ih =>
    rw [List.mapM_cons]
    exact (each a).bind fun b => ih.bind fun bs => quiet_pure _

/-- The database is left by the one call that sends the query. -/
def Calls (x : Executor σ) (q : Query) (before after : σ) : Prop := after = (x.fetch q before).2 ∨ after = (x.execute q before).2

/-- The action fails as the plan does and sends nothing, or it sends the query of the plan and reads the answer as planned. -/
def Carries (schema : Schema n) (x : Executor σ) (act : Action σ α) (s : State σ) (plan : Except Failure (Plan α)) : Prop :=
  ∀ store, Alike schema store s.store → match plan with
    | .error e => ∃ store', act.run.run { s with store } = (.error e, { s with store := store' })
    | .ok p => Calls x p.query s.database (act.run.run { s with store }).2.database ∧
      ∀ reading, p.reading = some reading →
        (act.run.run { s with store }).1 = reading ⟨s.setters, s.counts⟩ (x.fetch p.query s.database).1

section
variable {dao : Dao σ n} {schema : Schema n} {s : State σ}

theorem Prepares.carries {act : Action σ α} {next : α → Action σ β} {first : Except Failure α}
    {plan : α → Except Failure (Plan β)} (prepared : Prepares schema act s first)
    (rest : ∀ a, Carries schema dao.executor (next a) s (plan a)) : Carries schema dao.executor (act >>= next) s (first >>= plan) := by
  intro store alike
  obtain ⟨store', run, alike'⟩ := prepared store alike
  rw [bind_run, run]
  cases first with
  | error e => exact ⟨store', rfl⟩
  | ok a => exact rest a store' alike'

theorem carries_execute (q : Query) : Carries schema dao.executor (dao.execute q) s (.ok ⟨q, none⟩) :=
  fun _ _ => ⟨.inr rfl, fun _ none => nomatch none⟩

theorem fetch_run (q : Query) :
    (dao.fetch q).run.run s = (answered false [] (fun row rows => .ok (row :: rows)) (dao.executor.fetch q s.database).1,
      { s with database := (dao.executor.fetch q s.database).2 }) := by
  change dao.fetch q s = _
  rw [Dao.fetch, Dao.run]
  cases dao.executor.fetch q s.database with
  | mk answer database =>
    cases answer with
    | error e => rfl
    | ok rows => cases rows <;> rfl

theorem fetchOne_run (q : Query) :
    (dao.fetchOne q).run.run s = (answered true none (fun row _ => .ok (some row)) (dao.executor.fetch q s.database).1,
      { s with database := (dao.executor.fetch q s.database).2 }) := by
  change dao.fetchOne q s = _
  rw [Dao.fetchOne, Dao.run, Executor.fetchOne]
  cases dao.executor.fetch q s.database with
  | mk answer database =>
    cases answer with
    | error e => rfl
    | ok rows =>
      match rows with
      | [] => rfl
      | [row] => rfl
      | row :: other :: rows => rfl

theorem fetch_calls {next : List Row → Action σ α} (quiet : ∀ rows, Quiet (next rows)) (q : Query) :
    Calls dao.executor q s.database ((dao.fetch q >>= next).run.run s).2.database := by
  left
  rw [bind_run, fetch_run]
  cases answered false [] (fun row rows => .ok (row :: rows)) (dao.executor.fetch q s.database).1 with
  | error e => rfl
  | ok rows => exact quiet rows _

theorem fetchOne_calls {next : Option Row → Action σ α} (quiet : ∀ row, Quiet (next row)) (q : Query) :
    Calls dao.executor q s.database ((dao.fetchOne q >>= next).run.run s).2.database := by
  left
  rw [bind_run, fetchOne_run]
  cases answered true none (fun row _ => .ok (some row)) (dao.executor.fetch q s.database).1 with
  | error e => rfl
  | ok row => exact quiet row _

/-- Rows that are fetched and then read. -/
theorem answered_bind {act : Action σ α} {next : α → Action σ β} {s s' : State σ} {single : Bool} {nothing : α} {nothing' : β}
    {found : Row → List Row → α} {mapped : Row → List Row → Except Failure β} {answer : Except Failure (List Row)}
    (run : act.run.run s = (answered single nothing (fun row rows => .ok (found row rows)) answer, s'))
    (none : ((next nothing).run.run s').1 = .ok nothing')
    (some : ∀ row rows, ((next (found row rows)).run.run s').1 = mapped row rows) :
    ((act >>= next).run.run s).1 = answered single nothing' mapped answer := by
  rw [bind_run, run]
  cases answer with
  | error e =>
    by_cases empty : e.status = .emptyResult
    · simp only [answered, empty, if_true]
      exact none
    · simp only [answered, empty, if_false]
  | ok rows =>
    cases rows with
    | nil => exact none
    | cons row rows =>
      cases refused : single && !rows.isEmpty with
      | true => simp only [answered, refused, if_true]
      | false =>
        simp only [answered, refused, Bool.false_eq_true, if_false]
        exact some row rows

theorem mapEntity_run (d : Definition) (row : Row) (s : State σ) :
    (Dao.mapEntity d row).run.run s = (.ok (mapRow d row ⟨s.setters, s.counts⟩).1, { s with
      setters := (mapRow d row ⟨s.setters, s.counts⟩).2.setters
      counts := (mapRow d row ⟨s.setters, s.counts⟩).2.counts }) := rfl

theorem mapM_run (d : Definition) (rows : List Row) (s : State σ) :
    (rows.mapM (Dao.mapEntity d)).run.run s = (.ok (mapAll d rows ⟨s.setters, s.counts⟩).1, { s with
      setters := (mapAll d rows ⟨s.setters, s.counts⟩).2.setters
      counts := (mapAll d rows ⟨s.setters, s.counts⟩).2.counts }) := by
  induction rows generalizing s with
  | nil => rfl
  | cons row rows ih =>
    rw [List.mapM_cons, bind_run, mapEntity_run]
    dsimp only
    rw [bind_run, ih]
    rfl

theorem quiet_mapEntity (d : Definition) (row : Row) : Quiet (Dao.mapEntity d row : Action σ Object) := fun _ => rfl

theorem carries_mapAll (d : Definition) (q : Query) :
    Carries schema dao.executor (do (← dao.fetch q).mapM (Dao.mapEntity d)) s
      (.ok ⟨q, some fun state => answered false [] fun row rows => .ok (mapAll d (row :: rows) state).1⟩) := by
  intro store alike
  refine ⟨fetch_calls (fun rows => quiet_mapM (quiet_mapEntity d) rows) q, ?_⟩
  rintro reading ⟨⟩
  apply answered_bind (fetch_run q)
  · rfl
  · intro row rows
    rw [mapM_run]

theorem carries_list (entity : Fin n) (select : Select) (binding : Binding) :
    Carries dao.schema dao.executor (dao.queryForListAs entity select binding) s
      (planList dao s.store (dao.executor.writer s.database) entity select binding) :=
  (prepares_target entity).carries fun d => (prepares_select select binding).carries fun q => carries_mapAll d q

theorem carries_mapped {mapper : RowMapper α} (select : Select) (binding : Binding) :
    Carries dao.schema dao.executor (dao.queryForListWith mapper select binding) s
      (planMapped dao s.store (dao.executor.writer s.database) select binding) := by
  apply (prepares_select select binding).carries
  intro q store alike
  refine ⟨fetch_calls (fun rows => quiet_mapM (fun _ => quiet_lift _) _) q, ?_⟩
  rintro reading ⟨⟩

theorem carries_object (entity : Fin n) (includes excludes filter : Option String) (binding : Binding) :
    Carries dao.schema dao.executor (dao.queryForObjectAs entity includes excludes filter binding) s
      (planObject dao s.store (dao.executor.writer s.database) entity includes excludes filter binding) := by
  apply (prepares_target entity).carries
  intro d
  apply (prepares_select _ binding).carries
  intro q store alike
  constructor
  · apply fetchOne_calls
    intro row
    cases row with
    | none => exact quiet_pure _
    | some row => exact (quiet_mapEntity d row).bind fun _ => quiet_pure _
  · rintro reading ⟨⟩
    apply answered_bind (fetchOne_run q)
    · rfl
    · intro row rows
      rfl

theorem carries_mapped_object {mapper : RowMapper α} (includes excludes filter : Option String) (binding : Binding) :
    Carries dao.schema dao.executor (dao.queryForObjectWith mapper includes excludes filter binding) s
      (planMapped dao s.store (dao.executor.writer s.database) { includes, excludes, filter } binding) := by
  apply (prepares_select _ binding).carries
  intro q store alike
  constructor
  · apply fetchOne_calls
    intro row
    cases row with
    | none => exact quiet_pure _
    | some row => exact (quiet_lift (mapper row 0)).bind fun _ => quiet_pure _
  · rintro reading ⟨⟩

/-- The value in the only row. -/
def valueOf (type : ResultType α) (expression : String) : Option Row → Action σ (Option α)
  | none => pure none
  | some row => liftM (converted type expression row)

theorem quiet_valueOf (type : ResultType α) (expression : String) (row : Option Row) :
    Quiet (valueOf type expression row : Action σ (Option α)) := by
  cases row with
  | none => exact quiet_pure _
  | some row => exact quiet_lift _

def valueQuery (dao : Dao σ n) (expression : String) (filter : Option String) (binding : Binding) : Action σ Query := do
  let m ← dao.metadata
  let x ← dao.writer
  liftM (readyBound (x.selectValue m expression filter) binding)

theorem prepares_value (expression : String) (filter : Option String) (binding : Binding) :
    Prepares dao.schema (valueQuery dao expression filter binding) s
      (valued dao s.store (dao.executor.writer s.database) expression filter binding) :=
  (prepares_metadata dao.entity).bind fun _ => prepares_with_writer (prepares_lift _)

theorem queryForValue_eq (type : ResultType α) (expression : String) (filter : Option String) (binding : Binding) :
    dao.queryForValue type expression filter binding =
      valueQuery dao expression filter binding >>= fun q => dao.fetchOne q >>= valueOf type expression := by
  rw [Dao.queryForValue, valueQuery, bind_assoc]
  apply bind_congr
  intro m
  rw [bind_assoc]
  apply bind_congr
  intro x
  rw [drafted_eq (x.selectValue m expression filter)]
  apply bind_congr
  intro q
  apply bind_congr
  intro row
  cases row with
  | none => rfl
  | some row =>
    rw [valueOf, converted]
    dsimp only
    split
    · rfl
    · cases type.convert (row.values.headD .null) <;> rfl

theorem carries_value (type : ResultType α) (expression : String) (filter : Option String) (binding : Binding) :
    Carries dao.schema dao.executor (dao.queryForValue type expression filter binding) s
      ((Operation.queryForValue type expression filter binding).plan dao s.store (dao.executor.writer s.database) s.mappers) := by
  rw [queryForValue_eq]
  apply (prepares_value expression filter binding).carries
  intro q store alike
  refine ⟨fetchOne_calls (quiet_valueOf type expression) q, ?_⟩
  rintro reading ⟨⟩
  apply answered_bind (fetchOne_run q)
  · rfl
  · intro row rows
    rfl

def amount : Option Value → Action σ Int64
  | some (.int64 (some k)) => pure k
  | _ => pure 0

theorem quiet_amount (v : Option Value) : Quiet (amount v : Action σ Int64) := by
  unfold amount
  split <;> exact quiet_pure _

theorem valueOf_amount (row : Row) :
    ((valueOf (.ofTarget (.scalar .int64)) "count(*)" (some row) >>= amount : Action σ Int64).run.run s).1 = counted row := by
  rw [valueOf, converted, counted]
  split
  · rfl
  · dsimp only [ResultType.ofTarget, Target.convert, Target.name]
    cases Scalar.int64.convert (row.values.headD .null) with
    | error e => rfl
    | ok v =>
      cases v with
      | int64 k => cases k <;> rfl
      | _ => rfl

theorem carries_count (filter : Option String) (args : List Value) :
    Carries dao.schema dao.executor (dao.count filter args) s
      ((Operation.count filter args).plan dao s.store (dao.executor.writer s.database) s.mappers) := by
  have count : dao.count filter args = valueQuery dao "count(*)" filter (.args args) >>= fun q =>
      dao.fetchOne q >>= fun row => valueOf (.ofTarget (.scalar .int64)) "count(*)" row >>= amount := by
    rw [Dao.count, queryForValue_eq]
    simp only [bind_assoc]
    rfl
  rw [count]
  apply (prepares_value "count(*)" filter (.args args)).carries
  intro q store alike
  constructor
  · exact fetchOne_calls (fun row => (quiet_valueOf _ _ row).bind quiet_amount) q
  · rintro reading ⟨⟩
    apply answered_bind (fetchOne_run q)
    · rfl
    · intro row rows
      exact valueOf_amount row

theorem carries_with_writer {next : Writer → Action σ α} {plan : Except Failure (Plan α)}
    (carried : Carries schema dao.executor (next (dao.executor.writer s.database)) s plan) :
    Carries schema dao.executor (dao.writer >>= next) s plan := carried

theorem carries_written (writing : Writer → Mutation → Writing Unit) (args : List Value) :
    Carries dao.schema dao.executor (do
      let w ← dao.mutation
      dao.execute (← Dao.written (writing (← dao.writer) w) args)) s
      (planWrite dao s.store fun w => ready (writing (dao.executor.writer s.database) w) args) := by
  apply prepares_mutation.carries
  intro w
  apply carries_with_writer
  rw [written_eq]
  exact (prepares_lift _).carries fun q => carries_execute q

theorem carries_update (o : Object) (includes excludes filter : Option String) (args : List Value) :
    Carries dao.schema dao.executor (dao.update o includes excludes filter args) s
      (planUpdate dao s.store (dao.executor.writer s.database) o includes excludes filter args) := by
  rw [Dao.update, argsOf_eq]
  exact carries_written (fun x w => x.update w o includes excludes filter) _

theorem carries_updateFields (o : Object) (fields filter : String) (args : List Value) :
    Carries dao.schema dao.executor (dao.updateFieldsByFilter o fields filter args) s
      (planUpdateFields dao s.store (dao.executor.writer s.database) o fields filter args) := by
  rw [Dao.updateFieldsByFilter, planUpdateFields]
  split
  · exact fun store _ => ⟨store, rfl⟩
  · exact carries_update o (some fields) none (some filter) args

theorem carries_delete (filter : Option String) (args : List Value) :
    Carries dao.schema dao.executor (dao.delete filter args) s
      (planDelete dao s.store (dao.executor.writer s.database) filter args) := by
  rw [Dao.delete, argsOf_eq]
  exact carries_written (fun x w => x.delete w filter) _

/-- The assignment of the identifier takes part in preparing the statement. -/
theorem createWithId_run (fresh : Uuid) (o : Object) (s : State σ) :
    ((Operation.createWithId fresh o).perform dao).run.run s = (do
      let w ← dao.mutation
      let o ← identified w fresh o
      let x ← dao.writer
      let q ← ready (x.insert w o) []
      dao.execute q : Action σ Nat).run.run s := by
  have result : ((Operation.createWithId fresh o).perform dao).run.run s =
      (((dao.createWithId fresh o).run s).1.1, ((dao.createWithId fresh o).run s).2) := rfl
  rw [result, bind_run, Dao.createWithId, StateT.run_bind]
  simp only [withId_eq, written_eq]
  cases dao.mutation.run.run s with
  | mk found s' =>
    cases found with
    | error e => rfl
    | ok w =>
      cases assigned : identified w fresh o with
      | error e =>
        simp only [bind, assigned]
        rfl
      | ok o =>
        simp only [bind, assigned]
        rfl

theorem carries_createWithId (fresh : Uuid) (o : Object) :
    Carries dao.schema dao.executor ((Operation.createWithId fresh o).perform dao) s
      ((Operation.createWithId fresh o).plan dao s.store (dao.executor.writer s.database) s.mappers) := by
  intro store alike
  rw [createWithId_run, Operation.plan, planWrite]
  simp only [bind_assoc]
  refine prepares_mutation.carries (fun w => ?_) store alike
  apply (prepares_lift (identified w fresh o)).carries
  intro o
  apply carries_with_writer
  exact (prepares_lift _).carries fun q => carries_execute q

theorem carries (op : Operation n α) :
    Carries dao.schema dao.executor (op.perform dao) s (op.plan dao s.store (dao.executor.writer s.database) s.mappers) := by
  cases op with
  | create o => exact carries_written (fun x w => x.insert w o) []
  | createWithId fresh o => exact carries_createWithId fresh o
  | update o includes excludes filter args => exact carries_update o includes excludes filter args
  | updateById o id => exact carries_update o none none (some Dao.byId) [id]
  | updateByFilter o filter args => exact carries_update o none none (some filter) args
  | updateFields o fields id => exact carries_updateFields o fields Dao.byId [id]
  | updateFieldsByFilter o fields filter args => exact carries_updateFields o fields filter args
  | delete filter args => exact carries_delete filter args
  | deleteById id => exact carries_delete (some Dao.byId) [id]
  | queryForList select binding => exact carries_list dao.entity select binding
  | queryForListAs entity select binding => exact carries_list entity select binding
  | queryForListMapped type select binding => exact (prepares_mapper type).carries fun mapper => carries_mapped select binding
  | queryForListWith mapper select binding => exact carries_mapped select binding
  | queryForObject includes excludes filter binding => exact carries_object dao.entity includes excludes filter binding
  | queryForObjectAs entity includes excludes filter binding => exact carries_object entity includes excludes filter binding
  | queryForObjectMapped type includes excludes filter binding =>
    exact (prepares_mapper type).carries fun mapper => carries_mapped_object includes excludes filter binding
  | queryForObjectWith mapper includes excludes filter binding => exact carries_mapped_object includes excludes filter binding
  | queryForValue type expression filter binding => exact carries_value type expression filter binding
  | get id => exact carries_object dao.entity none none (some Dao.byId) (.args [id])
  | getAs entity id => exact carries_object entity none none (some Dao.byId) (.args [id])
  | list start size orderBy filter args => exact carries_list dao.entity { start, count := size, orderBy, filter } (.args args)
  | listAs entity start size orderBy filter args =>
    exact carries_list entity { start, count := size, orderBy, filter } (.args args)
  | count filter args => exact carries_count filter args

end

/-- With a writer that fails at every statement nothing is sent. -/
theorem sends_nothing (dao : Dao σ n) (op : Operation n α) (s : State σ) (refuses : Refuses (dao.executor.writer s.database)) :
    ∃ e store, (op.perform dao).run.run s = (.error e, { s with store }) := by
  obtain ⟨e, failed⟩ := fails_plan dao s.store refuses s.mappers op
  have carried : Carries dao.schema dao.executor (op.perform dao) s
      (op.plan dao s.store (dao.executor.writer s.database) s.mappers) := carries op
  rw [failed] at carried
  obtain ⟨store, run⟩ := carried s.store fun _ => rfl
  exact ⟨e, store, run⟩

/-- The same database with a record of the queries that it receives, in order. -/
def recorded (x : Executor σ) : Executor (σ × List Query) where
  writer s := x.writer s.1
  fetch q s := ((x.fetch q s.1).1, (x.fetch q s.1).2, s.2 ++ [q])
  execute q s := ((x.execute q s.1).1, (x.execute q s.1).2, s.2 ++ [q])

def recording (dao : Dao σ n) : Dao (σ × List Query) n := { dao with executor := recorded dao.executor }

theorem plan_recording (dao : Dao σ n) (store : MetadataStore) (writer : Writer) (mappers : RowMappers) (op : Operation n α) :
    op.plan (recording dao) store writer mappers = op.plan dao store writer mappers := by
  cases op <;> rfl

/-- An operation whose statement cannot be prepared fails as the preparation does and sends nothing, whatever its writer had written
by then; any other sends its one statement. What entities and values are read from is the answer to it, and an empty result never
comes out of that. -/
theorem sends_one (dao : Dao σ n) (op : Operation n α) (s : State (σ × List Query)) :
    let writer := dao.executor.writer s.database.1
    (∀ e, op.plan dao s.store writer s.mappers = .error e →
      (∃ store, (op.perform (recording dao)).run.run s = (.error e, { s with store })) ∧
      (WriterNeverEmpty writer → e.status ≠ .emptyResult)) ∧
    ∀ p, op.plan dao s.store writer s.mappers = .ok p →
      ((op.perform (recording dao)).run.run s).2.database.2 = s.database.2 ++ [p.query] ∧
      ∀ reading, p.reading = some reading →
        ((op.perform (recording dao)).run.run s).1 = reading ⟨s.setters, s.counts⟩ (dao.executor.fetch p.query s.database.1).1 ∧
        ∀ e, ((op.perform (recording dao)).run.run s).1 = .error e → e.status ≠ .emptyResult := by
  intro writer
  have carried : Carries (recording dao).schema (recording dao).executor (op.perform (recording dao)) s
      (op.plan (recording dao) s.store writer s.mappers) := carries op
  rw [plan_recording] at carried
  constructor
  · intro e fails
    rw [fails] at carried
    exact ⟨carried s.store fun _ => rfl, fun never => neverEmpty_plan dao s.store never s.mappers op e fails⟩
  · intro p ready
    rw [ready] at carried
    obtain ⟨calls, reads⟩ := carried s.store fun _ => rfl
    refine ⟨?_, fun reading read => ?_⟩
    · obtain fetched | executed := calls
      · exact congrArg Prod.snd fetched
      · exact congrArg Prod.snd executed
    · have result : ((op.perform (recording dao)).run.run s).1 =
          reading ⟨s.setters, s.counts⟩ (dao.executor.fetch p.query s.database.1).1 := reads reading read
      rw [result]
      exact ⟨rfl, clear_plan dao s.store writer s.mappers op p ready reading read _ _⟩

def item : Metadata := Metadata.ofTables
  ⟨⟨0, "Item"⟩, ⟨some "T_ITEM", none, none, none⟩, .value ⟨"id", none, false, .text, true, true⟩ .nil⟩ [⟨"T_ITEM", "T_ITEM"⟩]

def refusal : Failure := { status := .database, args := ["nothing is deleted"] }

/-- A writer that gives up halfway through every deletion. -/
def hesitant : Writer := { Dialect.generic.writer with delete := fun w _ => do
  Writing.text ("delete from " ++ w.table)
  throw refusal }

/-- A database that answers every query with two rows. -/
def items : Dao Unit 1 where
  schema := ⟨fun _ => ⟨"Item", ⟨some "T_ITEM", none, none, none⟩, [.value ⟨"id", none, false, .text, true, true⟩]⟩⟩
  entity := ⟨0, Nat.one_pos⟩
  executor := {
    writer := fun _ => hesitant
    fetch := fun _ s => (.ok [⟨["ID"], [.varchar (some "7")]⟩, ⟨["ID"], [.varchar (some "8")]⟩], s)
    execute := fun _ s => (.ok 0, s) }

def opened : State (Unit × List Query) := ⟨((), []), ⟨(∅ : Std.HashMap Nat Metadata).insert 0 item, 1⟩, .empty, .empty, {}⟩

theorem known_item (entity : Fin 1) : known items opened.store entity = .ok item := by
  rw [known, get_answer]
  simp [opened]

theorem sends_one_item :
    (((Operation.get (.varchar (some "7"))).perform (recording items)).run.run opened).1 =
        .error { status := .incorrectResultSize, args := ["1", "2"] } ∧
      (((Operation.get (.varchar (some "7"))).perform (recording items)).run.run opened).2.database.2 =
        [⟨"select ID as ID from T_ITEM AS T_ITEM where ID=?", [.varchar (some "7")]⟩] ∧
      (((Operation.delete none []).perform (recording items)).run.run opened).1 = .error refusal ∧
      (((Operation.delete none []).perform (recording items)).run.run opened).2.database.2 = [] := by
  have target : target items opened.store items.entity = .ok item.definition := by
    rw [target, known_item]
    rfl
  have selected : selected items opened.store hesitant { filter := some idFilter } (.args [.varchar (some "7")]) =
      .ok ⟨"select ID as ID from T_ITEM AS T_ITEM where ID=?", [.varchar (some "7")]⟩ := by
    rw [selected, known_item]
    cbv
  have ready : (Operation.get (.varchar (some "7"))).plan items opened.store hesitant opened.mappers =
      .ok ⟨⟨"select ID as ID from T_ITEM AS T_ITEM where ID=?", [.varchar (some "7")]⟩,
        some fun state => answered true none fun row _ => .ok (some (mapRow item.definition row state).1)⟩ := by
    rw [Operation.plan, planObject, target, selected]
    rfl
  have refused : (Operation.delete none []).plan items opened.store hesitant opened.mappers = .error refusal := by
    have allowed : gate items opened.store = .ok ⟨item, "T_ITEM"⟩ := by
      rw [gate, known_item]
      rfl
    exact plan_refused items opened.store (w := ⟨item, "T_ITEM"⟩) allowed rfl
  obtain ⟨sent, reads⟩ := (sends_one items _ opened).2 _ ready
  obtain ⟨⟨store, unsent⟩, _⟩ := (sends_one items _ opened).1 _ refused
  refine ⟨(reads _ rfl).1, sent, ?_, ?_⟩
  · rw [unsent]
  · rw [unsent]
    rfl

end EntityMapping.Proofs.StatementSending
