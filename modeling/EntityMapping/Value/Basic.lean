import EntityMapping.Calendar.Timestamp
import EntityMapping.Decimal.Floats
import EntityMapping.Text.Quoted
import EntityMapping.Uuid

/-! SQL values: the parameters of a statement and the cells of a row. Every kind of value has its own null beside its values;
`Value.null` is the null whose kind is unknown. -/

namespace EntityMapping

inductive Value where
  | null
  | boolean (v : Option Bool)
  | int32 (v : Option Int32)
  | int64 (v : Option Int64)
  | float32 (v : Option Float32)
  | float64 (v : Option Float)
  | varchar (v : Option String)
  | date (v : Option Calendar.Date)
  | timestamp (v : Option Calendar.Timestamp)
  | uuid (v : Option Uuid)
deriving Inhabited

namespace Value

/-- True for the null of unknown kind and for the null of every kind. -/
def isNull : Value → Bool
  | null => true
  | boolean v => v.isNone
  | int32 v => v.isNone
  | int64 v => v.isNone
  | float32 v => v.isNone
  | float64 v => v.isNone
  | varchar v => v.isNone
  | date v => v.isNone
  | timestamp v => v.isNone
  | uuid v => v.isNone

/-- The SQL name of the kind. -/
def typeName : Value → String
  | null => "NULL"
  | boolean _ => "BOOLEAN"
  | int32 _ => "INTEGER"
  | int64 _ => "BIGINT"
  | float32 _ => "FLOAT"
  | float64 _ => "DOUBLE"
  | varchar _ => "VARCHAR"
  | date _ => "DATE"
  | timestamp _ => "TIMESTAMP"
  | uuid _ => "UUID"

def sameKind (a b : Value) : Bool := a.typeName == b.typeName

/-- Values of one kind are equal when their contents are, nulls of one kind among them; values of two kinds never are. Floats
are compared as numbers, so a NaN differs from itself. -/
instance : BEq Value where
  beq
    | null, null => true
    | boolean a, boolean b => a == b
    | int32 a, int32 b => a == b
    | int64 a, int64 b => a == b
    | float32 a, float32 b => a == b
    | float64 a, float64 b => a == b
    | varchar a, varchar b => a == b
    | date a, date b => a == b
    | timestamp a, timestamp b => a == b
    | uuid a, uuid b => a == b
    | _, _ => false

/-- The text of a value as it is spliced into a statement; `null` for every null. -/
def text : Value → String
  | boolean (some b) => if b then "true" else "false"
  | int32 (some n) => toString n.toInt
  | int64 (some n) => toString n.toInt
  | float32 (some x) => Decimal.float32Text x
  | float64 (some x) => Decimal.floatText x
  | varchar (some s) => s
  | date (some d) => String.ofList d.text
  | timestamp (some t) => String.ofList t.text
  | uuid (some u) => String.ofList u.text
  | _ => "null"

private def content (kind : String) : Option String → String
  | none => kind ++ "(None)"
  | some text => kind ++ "(Some(" ++ text ++ "))"

/-- The text of a value in a message: it names the kind and tells a null from a value. -/
def detail : Value → String
  | null => "Null"
  | boolean v => content "Boolean" (v.map fun b => if b then "true" else "false")
  | int32 v => content "Int32" (v.map fun n => toString n.toInt)
  | int64 v => content "Int64" (v.map fun n => toString n.toInt)
  | float32 v => content "Float32" (v.map Decimal.float32Detail)
  | float64 v => content "Float64" (v.map Decimal.floatDetail)
  | varchar v => content "Varchar" (v.map Text.quoted)
  | date v => content "Date" (v.map fun d => String.ofList d.text)
  | timestamp v => content "Timestamp" (v.map fun t => String.ofList t.detail)
  | uuid v => content "Uuid" (v.map fun u => String.ofList u.text)

end Value

end EntityMapping
