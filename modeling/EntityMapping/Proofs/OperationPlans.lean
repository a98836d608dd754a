import EntityMapping.Proofs.MutationAlignment
import EntityMapping.Session.Shortcuts

/-! The operations of a session and what each of them plans: the one statement that it prepares, and what the answer comes to
where entities or values are read. The plan is made before anything is sent, from what the store, the mappers and the writer of
the database say, and it is the failure of the first of them that fails. -/

namespace EntityMapping.Proofs.OperationPlans
open Entity Rows Statement Session MutationAlignment

variable {σ α : Type} {n : Nat}

inductive Operation (n : Nat) : Type → Type 1 where
  | create (o : Object) : Operation n Nat
  | createWithId (fresh : Uuid) (o : Object) : Operation n Nat
  | update (o : Object) (includes excludes filter : Option String) (args : List Value) : Operation n Nat
  | updateById (o : Object) (id : Value) : Operation n Nat
  | updateByFilter (o : Object) (filter : String) (args : List Value) : Operation n Nat
  | updateFields (o : Object) (fields : String) (id : Value) : Operation n Nat
  | updateFieldsByFilter (o : Object) (fields filter : String) (args : List Value) : Operation n Nat
  | delete (filter : Option String) (args : List Value) : Operation n Nat
  | deleteById (id : Value) : Operation n Nat
  | queryForList (s : Select) (binding : Binding) : Operation n (List Object)
  | queryForListAs (entity : Fin n) (s : Select) (binding : Binding) : Operation n (List Object)
  | queryForListMapped (type : String) (s : Select) (binding : Binding) : Operation n (List Value)
  | queryForListWith {α : Type} (mapper : RowMapper α) (s : Select) (binding : Binding) : Operation n (List α)
  | queryForObject (includes excludes filter : Option String) (binding : Binding) : Operation n (Option Object)
  | queryForObjectAs (entity : Fin n) (includes excludes filter : Option String) (binding : Binding) : Operation n (Option Object)
  | queryForObjectMapped (type : String) (includes excludes filter : Option String) (binding : Binding) : Operation n (Option Value)
  | queryForObjectWith {α : Type} (mapper : RowMapper α) (includes excludes filter : Option String) (binding : Binding) :
    Operation n (Option α)
  | queryForValue {α : Type} (type : ResultType α) (expression : String) (filter : Option String) (binding : Binding) :
    Operation n (Option α)
  | get (id : Value) : Operation n (Option Object)
  | getAs (entity : Fin n) (id : Value) : Operation n (Option Object)
  | list (start count : Int) (orderBy filter : Option String) (args : List Value) : Operation n (List Object)
  | listAs (entity : Fin n) (start count : Int) (orderBy filter : Option String) (args : List Value) : Operation n (List Object)
  | count (filter : Option String) (args : List Value) : Operation n Int64

def Operation.perform (dao : Dao σ n) : Operation n α → Action σ α
  | create o => dao.create o
  | createWithId fresh o => ExceptT.mk do return (← dao.createWithId fresh o).1
  | update o includes excludes filter args => dao.update o includes excludes filter args
  | updateById o id => dao.updateById o id
  | updateByFilter o filter args => dao.updateByFilter o filter args
  | updateFields o fields id => dao.updateFields o fields id
  | updateFieldsByFilter o fields filter args => dao.updateFieldsByFilter o fields filter args
  | delete filter args => dao.delete filter args
  | deleteById id => dao.deleteById id
  | queryForList s binding => dao.queryForList s binding
  | queryForListAs entity s binding => dao.queryForListAs entity s binding
  | queryForListMapped type s binding => dao.queryForListMapped type s binding
  | queryForListWith mapper s binding => dao.queryForListWith mapper s binding
  | queryForObject includes excludes filter binding => dao.queryForObject includes excludes filter binding
  | queryForObjectAs entity includes excludes filter binding => dao.queryForObjectAs entity includes excludes filter binding
  | queryForObjectMapped type includes excludes filter binding => dao.queryForObjectMapped type includes excludes filter binding
  | queryForObjectWith mapper includes excludes filter binding => dao.queryForObjectWith mapper includes excludes filter binding
  | queryForValue type expression filter binding => dao.queryForValue type expression filter binding
  | get id => dao.get id
  | getAs entity id => dao.getAs entity id
  | list start size orderBy filter args => dao.list start size orderBy filter args
  | listAs entity start size orderBy filter args => dao.listAs entity start size orderBy filter args
  | count filter args => dao.count filter args

/-- A statement that is ready to be sent, and what the answer comes to where entities or values are read. -/
structure Plan (α : Type) where
  query : Query
  reading : Option (MapperState → Except Failure (List Row) → Except Failure α)

/-- What an answer comes to: no row, or an empty result reported as a failure, is `nothing`, and other failures stay. -/
def answered (single : Bool) (nothing : α) (mapped : Row → List Row → Except Failure α) :
    Except Failure (List Row) → Except Failure α
  | .error e => if e.status = .emptyResult then .ok nothing else .error e
  | .ok [] => .ok nothing
  | .ok (row :: rows) =>
    if single && !rows.isEmpty then .error { status := .incorrectResultSize, args := ["1", toString (row :: rows).length] }
    else mapped row rows

/-- Maps rows one after the other. -/
def mapAll (d : Definition) : List Row → MapperState → List Object × MapperState
  | [], state => ([], state)
  | row :: rows, state =>
    let (o, state) := mapRow d row state
    let (objects, state) := mapAll d rows state
    (o :: objects, state)

/-- The first value of a row in the type of the result. -/
def converted (type : ResultType α) (expression : String) (row : Row) : Except Failure (Option α) :=
  let v := row.values.headD .null
  if v.isNull then .ok none
  else match type.convert v with
    | .ok a => .ok (some a)
    | .error cause => .error { status := .propertyAccessFailure, args := [type.name, expression], cause := some cause }

def counted (row : Row) : Except Failure Int64 :=
  let v := row.values.headD .null
  if v.isNull then .ok 0
  else match Scalar.int64.convert v with
    | .ok (.int64 (some k)) => .ok k
    | .ok _ => .ok 0
    | .error e => .error { status := .propertyAccessFailure, args := [Scalar.int64.name, "count(*)"], cause := some (.conversion e) }

/-- What a writer makes of an empty query, with arguments behind its parameters. Its failure leaves nothing to send. -/
def ready (writing : Writing Unit) (args : List Value) : Except Failure Query :=
  match writing.run.run ⟨"", []⟩ with
  | (.ok (), q) => .ok ⟨q.sql, q.params ++ args⟩
  | (.error e, _) => .error e

/-- What a writer makes of an empty text, with the parameters that it is sent with. -/
def readySelect (drafting : Drafting Unit) (params : List Value) : Except Failure Query :=
  match drafting.run.run "" with
  | (.ok (), sql) => .ok ⟨sql, params⟩
  | (.error e, _) => .error e

/-- Arguments are sent along with the statement, and an object is shown to the writer. -/
def readyBound (draft : Option Template.Properties → Drafting Unit) : Binding → Except Failure Query
  | .args values => readySelect (draft none) values
  | .object properties => readySelect (draft (some properties)) []

/-- The arguments of a filter, none of which is sent without a filter. -/
def filterArgs (filter : Option String) (args : List Value) : List Value :=
  match Text.nonBlank? filter with
  | some _ => args
  | none => []

/-- The object to insert: it keeps an `id` that has a value and is assigned one made of the table and the identifier otherwise. -/
def identified (w : Mutation) (fresh : Uuid) (o : Object) : Except Failure Object :=
  match w.metadata.definition.read o "id" with
  | none => .error { status := .propertyAccessFailure, args := [w.metadata.definition.type.name, "id"] }
  | some id => match id.isNull with
    | true => w.metadata.definition.write o "id" (.varchar (some (w.table ++ "-" ++ String.ofList fresh.text)))
    | false => .ok o

/-- The filter of the shortcuts for one entity. -/
def idFilter : String := "\x7b#id\x7d=?"

section
variable (dao : Dao σ n) (store : MetadataStore) (writer : Writer)

def known (entity : Fin n) : Except Failure Metadata := (store.get dao.schema entity).1

def gate : Except Failure Mutation := do Mutation.of (← known dao store dao.entity)

def target (entity : Fin n) : Except Failure Definition := do
  let m ← known dao store entity
  mapperType m m.definition

def selected (s : Select) (binding : Binding) : Except Failure Query := do
  let m ← known dao store dao.entity
  readyBound (writer.select m s) binding

def valued (expression : String) (filter : Option String) (binding : Binding) : Except Failure Query := do
  let m ← known dao store dao.entity
  readyBound (writer.selectValue m expression filter) binding

def planWrite (write : Mutation → Except Failure Query) : Except Failure (Plan Nat) := do
  let w ← gate dao store
  pure ⟨← write w, none⟩

def planUpdate (o : Object) (includes excludes filter : Option String) (args : List Value) : Except Failure (Plan Nat) :=
  planWrite dao store fun w => ready (writer.update w o includes excludes filter) (filterArgs filter args)

def planUpdateFields (o : Object) (fields filter : String) (args : List Value) : Except Failure (Plan Nat) :=
  if (Text.splitList fields).isEmpty then
    .error { status := .emptyFieldListNotAllowed, args := [(dao.schema.declaration dao.entity).name] }
  else planUpdate dao store writer o (some fields) none (some filter) args

def planDelete (filter : Option String) (args : List Value) : Except Failure (Plan Nat) :=
  planWrite dao store fun w => ready (writer.delete w filter) (filterArgs filter args)

def planList (entity : Fin n) (s : Select) (binding : Binding) : Except Failure (Plan (List Object)) := do
  let d ← target dao store entity
  let q ← selected dao store writer s binding
  pure ⟨q, some fun state => answered false [] fun row rows => .ok (mapAll d (row :: rows) state).1⟩

def planObject (entity : Fin n) (includes excludes filter : Option String) (binding : Binding) :
    Except Failure (Plan (Option Object)) := do
  let d ← target dao store entity
  let q ← selected dao store writer { includes, excludes, filter } binding
  pure ⟨q, some fun state => answered true none fun row _ => .ok (some (mapRow d row state).1)⟩

/-- A statement whose answer goes to a mapper that was registered or passed. -/
def planMapped (s : Select) (binding : Binding) : Except Failure (Plan α) := do
  let q ← selected dao store writer s binding
  pure ⟨q, none⟩

end

def Operation.plan (dao : Dao σ n) (store : MetadataStore) (writer : Writer) (mappers : RowMappers) :
    Operation n α → Except Failure (Plan α)
  | create o => planWrite dao store fun w => ready (writer.insert w o) []
  | createWithId fresh o => planWrite dao store fun w => do
    let o ← identified w fresh o
    ready (writer.insert w o) []
  | update o includes excludes filter args => planUpdate dao store writer o includes excludes filter args
  | updateById o id => planUpdate dao store writer o none none (some idFilter) [id]
  | updateByFilter o filter args => planUpdate dao store writer o none none (some filter) args
  | updateFields o fields id => planUpdateFields dao store writer o fields idFilter [id]
  | updateFieldsByFilter o fields filter args => planUpdateFields dao store writer o fields filter args
  | delete filter args => planDelete dao store writer filter args
  | deleteById id => planDelete dao store writer (some idFilter) [id]
  | queryForList s binding => planList dao store writer dao.entity s binding
  | queryForListAs entity s binding => planList dao store writer entity s binding
  | queryForListMapped type s binding => do
    let _ ← mappers.get type
    planMapped dao store writer s binding
  | queryForListWith _ s binding => planMapped dao store writer s binding
  | queryForObject includes excludes filter binding => planObject dao store writer dao.entity includes excludes filter binding
  | queryForObjectAs entity includes excludes filter binding => planObject dao store writer entity includes excludes filter binding
  | queryForObjectMapped type includes excludes filter binding => do
    let _ ← mappers.get type
    planMapped dao store writer { includes, excludes, filter } binding
  | queryForObjectWith _ includes excludes filter binding => planMapped dao store writer { includes, excludes, filter } binding
  | queryForValue type expression filter binding => do
    let q ← valued dao store writer expression filter binding
    pure ⟨q, some fun _ => answered true none fun row _ => converted type expression row⟩
  | get id => planObject dao store writer dao.entity none none (some idFilter) (.args [id])
  | getAs entity id => planObject dao store writer entity none none (some idFilter) (.args [id])
  | list start size orderBy filter args => planList dao store writer dao.entity { start, count := size, orderBy, filter } (.args args)
  | listAs entity start size orderBy filter args =>
    planList dao store writer entity { start, count := size, orderBy, filter } (.args args)
  | count filter args => do
    let q ← valued dao store writer "count(*)" filter (.args args)
    pure ⟨q, some fun _ => answered true 0 fun row _ => counted row⟩

theorem get_answer (schema : Schema n) (store : MetadataStore) (i : Fin n) :
    (store.get schema i).1 = (store.entries[i.val]?.map .ok).getD (Metadata.ofSchema schema i) := by
  rw [MetadataStore.get]
  cases store.entries[i.val]? with
  | some m => rfl
  | none => cases Metadata.ofSchema schema i <;> rfl

theorem ready_eq_ok_iff {writing : Writing Unit} {args : List Value} {query : Query} :
    ready writing args = .ok query ↔ ∃ q : Query, writing.run.run .empty = (.ok (), q) ∧ query = ⟨q.sql, q.params ++ args⟩ := by
  rw [ready, Query.empty]
  constructor
  · intro done
    split at done
    · next q run =>
      cases done
      exact ⟨q, run, rfl⟩
    · cases done
  · rintro ⟨q, run, rfl⟩
    rw [run]

theorem ready_eq_error_iff {writing : Writing Unit} {args : List Value} {e : Failure} :
    ready writing args = .error e ↔ (writing.run.run .empty).1 = .error e := by
  rw [ready, Query.empty]
  rcases writing.run.run ⟨"", []⟩ with ⟨e | _, q⟩ <;> simp

theorem readySelect_eq_error_iff {drafting : Drafting Unit} {params : List Value} {e : Failure} :
    readySelect drafting params = .error e ↔ (drafting.run.run "").1 = .error e := by
  rw [readySelect]
  rcases drafting.run.run "" with ⟨e | _, sql⟩ <;> simp

end EntityMapping.Proofs.OperationPlans
