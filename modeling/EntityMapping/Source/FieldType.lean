import EntityMapping.Source.Literal
import EntityMapping.Source.WrittenType
import EntityMapping.Value.Basic

/-! What a mapping makes of the type that a field is declared with: the kind of its column, and whether it may be null. -/

namespace EntityMapping.Source

/-- The kind of column that a field has. Rows are never assigned to fields of an unsupported type, which keeps its source. -/
inductive FieldType where
  | text
  | int32
  | int64
  | float32
  | float64
  | date
  | timestamp
  | unsupported (source : String)
deriving DecidableEq, Repr

namespace FieldType

/-- What the field of a missing entity reads as. -/
def null : FieldType → Value
  | text => .varchar none
  | int32 => .int32 none
  | int64 => .int64 none
  | float32 => .float32 none
  | float64 => .float64 none
  | date => .date none
  | timestamp => .timestamp none
  | unsupported _ => .null

def name : FieldType → String
  | text => "Text"
  | int32 => "Int32"
  | int64 => "Int64"
  | float32 => "Float32"
  | float64 => "Float64"
  | date => "Date"
  | timestamp => "Timestamp"
  | unsupported _ => "Unsupported"

def detail : FieldType → String
  | unsupported source => "Unsupported(" ++ Text.quoted source ++ ")"
  | t => t.name

/-- The path of a field type, applied to its source when the type is not supported. -/
def expression (t : FieldType) : String :=
  "::poet::ValueType::" ++ t.name ++ match t with
    | unsupported source => "(" ++ literal source ++ ")"
    | _ => ""

end FieldType

/-- Whether a path ends like another one; of the two the shorter is compared as a whole. -/
def endsLike (names expected : List String) : Bool :=
  let count := min names.length expected.length
  names.reverse.take count == expected.reverse.take count

namespace WrittenPath

def isOptional (p : WrittenPath) : Bool := endsLike p.names ["std", "option", "Option"]

def isBoxed (p : WrittenPath) : Bool := endsLike p.names ["std", "boxed", "Box"]

/-- The kind of column that a path names by itself, whatever its arguments. Numbers go by their plain name only. -/
def scalar? (p : WrittenPath) : Option FieldType :=
  let plain := if !p.isSingle || p.applied then none else match p.names with
    | ["i32"] => some .int32
    | ["i64"] => some .int64
    | ["f32"] => some .float32
    | ["f64"] => some .float64
    | _ => none
  if plain.isSome then plain
  else if endsLike p.names ["std", "string", "String"] then some .text
  else if endsLike p.names ["time", "Date"] then some .date
  else if endsLike p.names ["time", "PrimitiveDateTime"] then some .timestamp
  else none

end WrittenPath

/-- The type of a field and whether it may be null. -/
structure InspectedType where
  type : FieldType
  nullable : Bool
deriving DecidableEq, Repr

namespace WrittenType

/-- The type inside an optional one. -/
def optional? : WrittenType → Option WrittenType
  | generic path argument => if path.isOptional then some argument else none
  | _ => none

/-- The kind of column that a type comes down to, if there is one, and whether it may be null. -/
def column? : WrittenType → Option FieldType × Bool
  | named path => (path.scalar?, false)
  | generic path argument =>
    match path.scalar? with
    | some t => (some t, false)
    | none =>
      if path.isOptional then (argument.column?.1, true)
      else if path.isBoxed then argument.column?
      else (none, false)
  | other _ => (none, false)

/-- Inspects a type: an optional type makes the field nullable, a boxed one counts as what it holds. A type that comes down to
no kind of column is unsupported as a whole. -/
def inspect (t : WrittenType) : InspectedType := ⟨t.column?.1.getD (.unsupported t.source), t.column?.2⟩

end WrittenType

end EntityMapping.Source
