import EntityMapping.Entity.Access
import EntityMapping.Query
import EntityMapping.Statement.Clause

/-! Statements that change a table. They are written into a query that may have content already, and what was written before
a failure stays there. Only entities of exactly one table are written. -/

namespace EntityMapping.Statement

open Entity

structure Mutation where
  metadata : Metadata
  table : String

def Mutation.of (m : Metadata) : Except Failure Mutation :=
  match m.tables with
  | [table] => .ok ⟨m, table.name⟩
  | _ => .error { status := .invalidEntityDefinition, args := [m.entityName, "exactly one table is needed to write"] }

/-- Writing into a query. -/
abbrev Writing := ExceptT Failure (StateM Query)

namespace Writing

def text (s : String) : Writing Unit := modify fun q => { q with sql := q.sql ++ s }

def param (v : Value) : Writing Unit := modify fun q => { q with params := q.params ++ [v] }

end Writing

/-- The value of a key on an object. -/
def readField (m : Metadata) (o : Object) (key : String) : Except Failure Value :=
  match m.definition.read o key with
  | some v => .ok v
  | none => .error { status := .propertyAccessFailure, args := [m.entityName, key] }

namespace Mutation

/-- Adds the values that are not null to the parameters and gives their columns. -/
def insertedColumns (m : Metadata) (o : Object) : List (String × FieldMapping) → Writing (List String)
  | [] => pure []
  | (key, mapping) :: rest =>
    if !mapping.isWritten then insertedColumns m o rest
    else do
      let v ← readField m o key
      if v.isNull then insertedColumns m o rest
      else do
        Writing.param v
        let columns ← insertedColumns m o rest
        pure (mapping.column :: columns)

/-- Inserts an object. Null fields are left to the defaults of the database. -/
def insert (w : Mutation) (o : Object) : Writing Unit := do
  match ← insertedColumns w.metadata o w.metadata.fields with
  | [] => throw (noFields w.metadata)
  | columns =>
    Writing.text ("insert into " ++ w.table ++ "(" ++ Text.separated "," columns ++ ") values ("
      ++ Text.separated "," (columns.map fun _ => "?") ++ ")")

/-- Writes `column=?` for every field, separated by commas, with the values as parameters. -/
def assignments (m : Metadata) (o : Object) (first : Bool) : List (String × FieldMapping) → Writing Unit
  | [] => pure ()
  | (key, mapping) :: rest => do
    Writing.param (← readField m o key)
    Writing.text ((if first then "" else ",") ++ mapping.column ++ "=?")
    assignments m o false rest

/-- Updates the selected fields of every row that the filter selects, nulls included. The parameters of the filter are not
written here. -/
def update (w : Mutation) (o : Object) (includes excludes filter : Option String) : Writing Unit := do
  match (← selectFields w.metadata includes excludes).filter fun (_, mapping) => mapping.isWritten with
  | [] => throw (noFields w.metadata)
  | fields =>
    Writing.text ("update " ++ w.table ++ " set ")
    assignments w.metadata o true fields
    Writing.text (← whereClause ⟨.updateWhere, none⟩ w.metadata filter)

def delete (w : Mutation) (filter : Option String) : Writing Unit := do
  Writing.text ("delete from " ++ w.table)
  Writing.text (← whereClause ⟨.deleteWhere, none⟩ w.metadata filter)

end Mutation

end EntityMapping.Statement
