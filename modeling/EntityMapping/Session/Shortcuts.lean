import EntityMapping.Session.Dao

/-! Shortcuts for entities with an `id`, for pages, counts and updates of a few fields. -/

namespace EntityMapping.Session.Dao

open Entity Statement

variable {σ : Type} {n : Nat}

/-- The filter for the one entity of an identifier. -/
def byId : String := "\x7b#id\x7d=?"

def get (dao : Dao σ n) (id : Value) : Action σ (Option Object) := dao.queryForObject none none (some byId) (.args [id])

def getAs (dao : Dao σ n) (entity : Fin n) (id : Value) : Action σ (Option Object) :=
  dao.queryForObjectAs entity none none (some byId) (.args [id])

/-- A page of the entities that the filter selects. -/
def list (dao : Dao σ n) (start count : Int) (orderBy filter : Option String) (args : List Value) : Action σ (List Object) :=
  dao.queryForList { start, count, orderBy, filter } (.args args)

def listAs (dao : Dao σ n) (entity : Fin n) (start count : Int) (orderBy filter : Option String) (args : List Value) :
    Action σ (List Object) :=
  dao.queryForListAs entity { start, count, orderBy, filter } (.args args)

/-- The number of rows that the filter selects. -/
def count (dao : Dao σ n) (filter : Option String) (args : List Value) : Action σ Int64 := do
  match ← dao.queryForValue (.ofTarget (.scalar .int64)) "count(*)" filter (.args args) with
  | some (.int64 (some n)) => pure n
  | _ => pure 0

def updateById (dao : Dao σ n) (o : Object) (id : Value) : Action σ Nat := dao.update o none none (some byId) [id]

def updateByFilter (dao : Dao σ n) (o : Object) (filter : String) (args : List Value) : Action σ Nat :=
  dao.update o none none (some filter) args

/-- Updates only the listed fields. The list must name one. -/
def updateFieldsByFilter (dao : Dao σ n) (o : Object) (fields filter : String) (args : List Value) : Action σ Nat :=
  if (Text.splitList fields).isEmpty then
    throw { status := .emptyFieldListNotAllowed, args := [(dao.schema.declaration dao.entity).name] }
  else dao.update o (some fields) none (some filter) args

def updateFields (dao : Dao σ n) (o : Object) (fields : String) (id : Value) : Action σ Nat :=
  dao.updateFieldsByFilter o fields byId [id]

def deleteById (dao : Dao σ n) (id : Value) : Action σ Nat := dao.delete (some byId) [id]

end EntityMapping.Session.Dao
