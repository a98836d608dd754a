import EntityMapping.Entity.Definition

/-! Objects of entity types. The slots of an object stand in the order of the fields of its type, and a nested entity, which
knows its own type, may be absent. -/

namespace EntityMapping.Entity

inductive Slots where
  | nil
  | value (v : Value) (rest : Slots)
  | present (type : Nat) (inner rest : Slots)
  | absent (rest : Slots)
  | skipped (rest : Slots)

structure Object where
  type : Nat
  slots : Slots

/-- What a field that must not be null holds in a new object. -/
def initialValue : Scalar → Value
  | .bool => .boolean (some false)
  | .int32 => .int32 (some 0)
  | .int64 => .int64 (some 0)
  | .float32 => .float32 (some 0)
  | .float64 => .float64 (some 0)
  | .text => .varchar (some "")
  | .date => .date (some .epoch)
  | .timestamp => .timestamp (some (.midnight .epoch))
  | .uuid => .uuid (some .nil)

def ValueField.initial (f : ValueField) : Value := if f.nullable then f.scalar.null else initialValue f.scalar

def Fields.initial : Fields → Slots
  | nil => .nil
  | value f rest => .value f.initial rest.initial
  | nested f inner rest => if f.optional then .absent rest.initial else .present f.type.id inner.initial rest.initial
  | skipped _ rest => .skipped rest.initial

/-- A new object: nulls and zeros, with every nested entity that is not optional. -/
def Definition.initial (d : Definition) : Object := ⟨d.type.id, d.fields.initial⟩

/-- The slots belong to the fields: same length and kinds, and each nested entity is of the declared type or absent where it
is optional. Values have the kind of their field. -/
def Fields.Fit : Fields → Slots → Prop
  | .nil, .nil => True
  | .value f rest, .value v slots => v.sameKind f.scalar.null ∧ rest.Fit slots
  | .nested f inner rest, .present type slots slots' => type = f.type.id ∧ inner.Fit slots ∧ rest.Fit slots'
  | .nested f _ rest, .absent slots => f.optional ∧ rest.Fit slots
  | .skipped _ rest, .skipped slots => rest.Fit slots
  | _, _ => False

def Object.IsOf (o : Object) (d : Definition) : Prop := o.type = d.type.id ∧ d.fields.Fit o.slots

end EntityMapping.Entity
