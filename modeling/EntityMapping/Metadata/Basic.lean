import EntityMapping.Entity.Schema
import EntityMapping.Naming
import EntityMapping.Template.Evaluation
import Std.Data.HashMap

/-! The mapping of an entity type: its tables, and a column for every field that is persisted. Fields have keys: the name, or
`owner$name` inside an embedded entity. A key that comes up again is not registered a second time, so the fields of a type win
over those of its bases. -/

namespace EntityMapping

open Entity

structure FieldMapping where
  column : String
  readOnly : Bool
  embedded : Bool
deriving DecidableEq, Repr

/-- Whether the field takes part in statements that write. -/
def FieldMapping.isWritten (mapping : FieldMapping) : Bool := !mapping.readOnly && !mapping.embedded

/-- The fields that are registered, in the order of registration, with the place of every key among them, and the columns of
embedded fields by their path with a point. -/
structure FieldIndex where
  fields : Array (String × FieldMapping)
  places : Std.HashMap String Nat
  references : Std.HashMap String String

namespace FieldIndex

def empty : FieldIndex := ⟨#[], ∅, ∅⟩

/-- The column that a field maps to; `none` when it is declared to have none. -/
def columnOf? (scope : Option String) (f : ValueField) : Option String :=
  let declared := (f.column.map Text.trim).getD ""
  if declared == "-" then none
  else if declared != "" then some declared
  else
    let column := Naming.columnName f.name
    some (scope.elim column fun owner => owner ++ "." ++ column)

def keyOf (scope : Option String) (f : ValueField) : String := scope.elim f.name fun owner => owner ++ "$" ++ f.name

/-- Registers a field, under the name of the field that embeds it if there is one. -/
def register (index : FieldIndex) (scope : Option String) (f : ValueField) : FieldIndex :=
  let key := keyOf scope f
  if index.places.contains key then index
  else match columnOf? scope f with
    | none => index
    | some column => {
        fields := index.fields.push (key, ⟨column, f.readOnly, scope.isSome⟩)
        places := index.places.insert key index.fields.size
        references := scope.elim index.references fun owner => index.references.insert (owner ++ "." ++ f.name) column }

end FieldIndex

namespace Entity.Fields

/-- All values inside an embedded entity, those of its bases and of what it embeds included, in declaration order. -/
def leaves : Fields → List ValueField
  | nil => []
  | value f rest => f :: rest.leaves
  | nested _ inner rest => inner.leaves ++ rest.leaves
  | skipped _ rest => rest.leaves

/-- The values of a type and of what it embeds. -/
def ownEntries : Fields → List (Option String × ValueField)
  | nil => []
  | value f rest => (none, f) :: rest.ownEntries
  | nested f inner rest => (if f.role == .embedded then inner.leaves.map (some f.name, ·) else []) ++ rest.ownEntries
  | skipped _ rest => rest.ownEntries

/-- The values that come with the bases of a type, and with their bases. -/
def baseEntries : Fields → List (Option String × ValueField)
  | nil => []
  | value _ rest => rest.baseEntries
  | nested f inner rest => (if f.role == .base then inner.ownEntries ++ inner.baseEntries else []) ++ rest.baseEntries
  | skipped _ rest => rest.baseEntries

/-- What is registered for a type, in order, each with the name of the embedding field. The bases come last. -/
def entries (fields : Fields) : List (Option String × ValueField) := fields.ownEntries ++ fields.baseEntries

end Entity.Fields

/-- A table with the alias that it has in statements. -/
structure Table where
  aliasName : String
  name : String
deriving DecidableEq, Repr

namespace Table

private def ofEntry (entry : List Char) : Table :=
  match Text.cutAt? (· == '=') entry with
  | some (aliasName, name) => ⟨String.ofList aliasName, String.ofList name⟩
  | none => ⟨String.ofList entry, String.ofList entry⟩

/-- Reads `alias=name,name`. Blanks do not count anywhere, and empty entries are left out. -/
def readAll (declaration : String) : List Table :=
  ((Text.splitWhere (· == ',') (declaration.toList.filter fun c => !Text.isBlank c)).filter (!·.isEmpty)).map ofEntry

/-- The tables of an entity: as declared, or one named after the type. There must be one. -/
def ofClauses (type : String) (clauses : Clauses) : Except Failure (List Table) :=
  match readAll ((Text.nonBlank? clauses.tables).getD (Naming.tableName type)) with
  | [] => .error { status := .invalidEntityDefinition, args := [type, "no table declared"] }
  | tables => .ok tables

end Table

structure Metadata where
  definition : Definition
  tables : List Table
  index : FieldIndex

namespace Metadata

def ofTables (d : Definition) (tables : List Table) : Metadata :=
  ⟨d, tables, d.fields.entries.foldl (fun index (scope, f) => index.register scope f) FieldIndex.empty⟩

def build (d : Definition) : Except Failure Metadata := (Table.ofClauses d.type.name d.clauses).map (ofTables d)

/-- Builds the metadata of a declared type. A missing table is reported before a circle. -/
def ofSchema {n : Nat} (s : Schema n) (i : Fin n) : Except Failure Metadata := do
  let tables ← Table.ofClauses (s.declaration i).name (s.declaration i).clauses
  pure (ofTables (← s.definition i) tables)

def entityName (m : Metadata) : String := m.definition.type.name

def fromClause (m : Metadata) : Option String := Text.nonBlank? m.definition.clauses.source

def joinClause (m : Metadata) : Option String := Text.nonBlank? m.definition.clauses.join

def traceTable (m : Metadata) : Option String := Text.nonBlank? m.definition.clauses.trace

def tableName? (m : Metadata) (aliasName : String) : Option String :=
  (m.tables.find? (·.aliasName == aliasName)).map (·.name)

/-- Keys with their mappings, in the order of registration. -/
def fields (m : Metadata) : List (String × FieldMapping) := m.index.fields.toList

def field? (m : Metadata) (key : String) : Option FieldMapping :=
  m.index.places[key]?.bind fun place => m.index.fields[place]?.map (·.2)

def column? (m : Metadata) (key : String) : Option String := (m.field? key).map (·.column)

def isReadOnly (m : Metadata) (key : String) : Bool := (m.field? key).any (·.readOnly)

/-- The column of an embedded field addressed as `owner.name`. -/
def reference? (m : Metadata) (path : String) : Option String := m.index.references[path]?

/-- The column that `#name` stands for in templates: that of the key, or else of the reference. -/
def binding? (m : Metadata) (name : String) : Option String := (m.column? name).or (m.reference? name)

def scope (m : Metadata) (object : Option Template.Properties) : Template.Scope := ⟨m.entityName, m.binding?, object⟩

end Metadata

end EntityMapping
