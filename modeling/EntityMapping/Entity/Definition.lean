import EntityMapping.Value.Conversion

/-! Entity types. A type lists its fields in the order of their declaration: values with a column of their own, nested
entities, and fields that are not persisted. A nested entity is either embedded, and its columns carry the name of the field
in front, or a base, whose fields count as fields of the owner. Definitions are trees, so none nests itself. -/

namespace EntityMapping.Entity

structure ValueField where
  name : String
  /-- The column as it was declared; `-` keeps the field out of the mapping. -/
  column : Option String
  readOnly : Bool
  scalar : Scalar
  nullable : Bool
  settable : Bool

inductive Role where
  | embedded
  | base
deriving DecidableEq, Repr

/-- An entity type by what tells it apart from the others and by the name it shows. -/
structure TypeName where
  id : Nat
  name : String
deriving DecidableEq, Repr

structure NestedField where
  name : String
  role : Role
  optional : Bool
  type : TypeName

/-- Fields in declaration order, every nested entity with its own fields. -/
inductive Fields where
  | nil
  | value (field : ValueField) (rest : Fields)
  | nested (field : NestedField) (inner rest : Fields)
  | skipped (name : String) (rest : Fields)

/-- What an entity declares about its tables, as text. -/
structure Clauses where
  tables : Option String
  join : Option String
  source : Option String
  trace : Option String

structure Definition where
  type : TypeName
  clauses : Clauses
  fields : Fields

namespace ValueField

/-- Rows are never assigned to fields of the other types. -/
def mappable (f : ValueField) : Bool := f.scalar != .bool && f.scalar != .uuid

/-- What the field of a missing entity reads as. -/
def missing (f : ValueField) : Value := if f.mappable then f.scalar.null else .null

def target (f : ValueField) : Target := if f.nullable then .optional (.scalar f.scalar) else .scalar f.scalar

end ValueField

end EntityMapping.Entity
