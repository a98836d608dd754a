import EntityMapping.Metadata.Store
import EntityMapping.Rows.Mapper
import EntityMapping.Session.Executor
import EntityMapping.Value.Conversion

/-! Access to the entities of a database: every operation writes one statement, runs it and maps the result. An operation that
fails before its statement is complete sends nothing. -/

namespace EntityMapping.Session

open Entity Rows Statement

/-- What operations work on and leave behind. -/
structure State (σ : Type) where
  database : σ
  store : MetadataStore
  setters : SetterCache
  mappers : RowMappers
  counts : MappingCounts

/-- Access to the entities of one type of a schema. -/
structure Dao (σ : Type) (n : Nat) where
  schema : Schema n
  entity : Fin n
  executor : Executor σ

/-- The state is kept when an operation fails. -/
abbrev Action (σ : Type) := ExceptT Failure (StateM (State σ))

/-- Where the values of a filter come from: positional arguments, or an object whose properties the filter reads. -/
inductive Binding where
  | args (values : List Value)
  | object (properties : Template.Properties)

namespace Binding

def properties? : Binding → Option Template.Properties
  | args _ => none
  | object properties => some properties

def params : Binding → List Value
  | args values => values
  | object _ => []

end Binding

/-- A type that single values are converted to, with the name that messages have for it. -/
structure ResultType (α : Type) where
  name : String
  convert : Value → Except Cause α

/-- The types of fields, as results. -/
def ResultType.ofTarget (t : Target) : ResultType Value := ⟨t.name, fun v => (t.convert v).mapError .conversion⟩

namespace Dao

variable {σ α : Type} {n : Nat}

def metadataOf (dao : Dao σ n) (entity : Fin n) : Action σ Metadata := fun s =>
  let (m, store) := s.store.get dao.schema entity
  (m, { s with store })

def metadata (dao : Dao σ n) : Action σ Metadata := dao.metadataOf dao.entity

def mutation (dao : Dao σ n) : Action σ Mutation := do Mutation.of (← dao.metadata)

def writer (dao : Dao σ n) : Action σ Writer := do return dao.executor.writer (← get).database

def run (r : Except Failure α × σ) (s : State σ) : Except Failure α × State σ := (r.1, { s with database := r.2 })

def execute (dao : Dao σ n) (q : Query) : Action σ Nat := fun s => run (dao.executor.execute q s.database) s

/-- The rows of a query, none when the database reports an empty result. -/
def fetch (dao : Dao σ n) (q : Query) : Action σ (List Row) := fun s =>
  match run (dao.executor.fetch q s.database) s with
  | (.error e, s) => (if e.status = .emptyResult then .ok [] else .error e, s)
  | result => result

/-- The only row of a query, if there is one. -/
def fetchOne (dao : Dao σ n) (q : Query) : Action σ (Option Row) := fun s =>
  match run (dao.executor.fetchOne q s.database) s with
  | (.error e, s) => (if e.status = .emptyResult then .ok none else .error e, s)
  | (.ok row, s) => (.ok (some row), s)

def written (w : Writing Unit) (args : List Value) : Except Failure Query :=
  match w.run.run Query.empty with
  | (.error e, _) => .error e
  | (.ok _, q) => .ok { q with params := q.params ++ args }

def drafted (w : Drafting Unit) (binding : Binding) : Except Failure Query :=
  match w.run.run "" with
  | (.error e, _) => .error e
  | (.ok _, sql) => .ok ⟨sql, binding.params⟩

/-- Arguments of a filter, which count only when there is one. -/
def argsOf (filter : Option String) (args : List Value) : List Value :=
  if (Text.nonBlank? filter).isSome then args else []

def create (dao : Dao σ n) (o : Object) : Action σ Nat := do
  let w ← dao.mutation
  dao.execute (← written ((← dao.writer).insert w o) [])

/-- The object to insert: with an identifier made of the table and a fresh UUID when its `id` is null. -/
def withId (w : Mutation) (fresh : Uuid) (o : Object) : Except Failure Object :=
  let d := w.metadata.definition
  match d.read o "id" with
  | none => .error { status := .propertyAccessFailure, args := [d.type.name, "id"] }
  | some v =>
    if v.isNull then d.write o "id" (.varchar (some (w.table ++ "-" ++ String.ofList fresh.text))) else .ok o

/-- Inserts an object after giving it an identifier, and returns the object as it is then, also when inserting fails. -/
def createWithId (dao : Dao σ n) (fresh : Uuid) (o : Object) : StateM (State σ) (Except Failure Nat × Object) := do
  match ← dao.mutation.run with
  | .error e => pure (.error e, o)
  | .ok w => match withId w fresh o with
    | .error e => pure (.error e, o)
    | .ok o =>
      let insert : Action σ Nat := do dao.execute (← written ((← dao.writer).insert w o) [])
      pure (← insert.run, o)

/-- Updates the selected fields of every row that the filter selects, of all rows without a filter. -/
def update (dao : Dao σ n) (o : Object) (includes excludes filter : Option String) (args : List Value) : Action σ Nat := do
  let w ← dao.mutation
  dao.execute (← written ((← dao.writer).update w o includes excludes filter) (argsOf filter args))

def delete (dao : Dao σ n) (filter : Option String) (args : List Value) : Action σ Nat := do
  let w ← dao.mutation
  dao.execute (← written ((← dao.writer).delete w filter) (argsOf filter args))

def selectQuery (dao : Dao σ n) (s : Select) (binding : Binding) : Action σ Query := do
  let m ← dao.metadata
  drafted ((← dao.writer).select m s binding.properties?) binding

/-- Maps a row to an entity. -/
def mapEntity (d : Definition) (row : Row) : Action σ Object := fun s =>
  let (o, mapped) := mapRow d row ⟨s.setters, s.counts⟩
  (.ok o, { s with setters := mapped.setters, counts := mapped.counts })

def mapperOf (dao : Dao σ n) (entity : Fin n) : Action σ Definition := do
  let m ← dao.metadataOf entity
  mapperType m m.definition

/-- Selects entities of the type and maps the rows to another one. -/
def queryForListAs (dao : Dao σ n) (entity : Fin n) (s : Select) (binding : Binding) : Action σ (List Object) := do
  let d ← dao.mapperOf entity
  (← dao.fetch (← dao.selectQuery s binding)).mapM (mapEntity d)

def queryForList (dao : Dao σ n) (s : Select) (binding : Binding) : Action σ (List Object) :=
  dao.queryForListAs dao.entity s binding

def queryForListWith (dao : Dao σ n) (mapper : RowMapper α) (s : Select) (binding : Binding) : Action σ (List α) := do
  (← dao.fetch (← dao.selectQuery s binding)).zipIdx.mapM fun (row, i) => mapper row i

def mapperFor (type : String) : Action σ (RowMapper Value) := do (← get).mappers.get type

def queryForListMapped (dao : Dao σ n) (type : String) (s : Select) (binding : Binding) : Action σ (List Value) := do
  dao.queryForListWith (← mapperFor type) s binding

/-- The one entity that the filter selects, if there is one; it is an error when there are more. -/
def queryForObjectAs (dao : Dao σ n) (entity : Fin n) (includes excludes filter : Option String) (binding : Binding) :
    Action σ (Option Object) := do
  let d ← dao.mapperOf entity
  match ← dao.fetchOne (← dao.selectQuery { includes, excludes, filter } binding) with
  | none => pure none
  | some row => some <$> mapEntity d row

def queryForObject (dao : Dao σ n) (includes excludes filter : Option String) (binding : Binding) :
    Action σ (Option Object) :=
  dao.queryForObjectAs dao.entity includes excludes filter binding

def queryForObjectWith (dao : Dao σ n) (mapper : RowMapper α) (includes excludes filter : Option String)
    (binding : Binding) : Action σ (Option α) := do
  match ← dao.fetchOne (← dao.selectQuery { includes, excludes, filter } binding) with
  | none => pure none
  | some row => some <$> liftM (mapper row 0)

def queryForObjectMapped (dao : Dao σ n) (type : String) (includes excludes filter : Option String) (binding : Binding) :
    Action σ (Option Value) := do
  dao.queryForObjectWith (← mapperFor type) includes excludes filter binding

/-- The value of a template such as `count(*)`; `none` when no row is selected or the value is null. -/
def queryForValue (dao : Dao σ n) (type : ResultType α) (expression : String) (filter : Option String) (binding : Binding) :
    Action σ (Option α) := do
  let m ← dao.metadata
  let q ← drafted ((← dao.writer).selectValue m expression filter binding.properties?) binding
  match ← dao.fetchOne q with
  | none => pure none
  | some row =>
    let v := row.values.headD .null
    if v.isNull then pure none
    else match type.convert v with
      | .ok a => pure (some a)
      | .error cause => throw { status := .propertyAccessFailure, args := [type.name, expression], cause := some cause }

end Dao

end EntityMapping.Session
