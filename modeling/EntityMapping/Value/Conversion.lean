import EntityMapping.Value.Basic

/-! Conversion of values to the type of a field or of a result. A value of the kind of the type is taken as it is, some other
kinds are widened or narrowed, and a text is read, as some databases report every column as text. -/

namespace EntityMapping

/-- The types of data that have a column kind of their own. -/
inductive Scalar where
  | bool
  | int32
  | int64
  | float32
  | float64
  | text
  | date
  | timestamp
  | uuid
deriving DecidableEq, Repr

/-- The types values are converted to: a scalar, an optional type, which takes a null as absence, or a boxed type, which is
converted as what it holds. -/
inductive Target where
  | scalar (s : Scalar)
  | optional (t : Target)
  | boxed (t : Target)
deriving DecidableEq, Repr

inductive ConversionError where
  | missing (target : Scalar)
  | incompatible (value : Value) (target : Scalar)
  | outOfRange (value : Int64)
  | unreadable (text : String) (target : Scalar)

namespace Scalar

/-- The name of a type in messages. -/
def name : Scalar → String
  | bool => "bool"
  | int32 => "i32"
  | int64 => "i64"
  | float32 => "f32"
  | float64 => "f64"
  | text => "alloc::string::String"
  | date => "time::date::Date"
  | timestamp => "time::plain_date_time::PlainDateTime"
  | uuid => "uuid::Uuid"

/-- The null of the kind of a type. -/
def null : Scalar → Value
  | bool => .boolean none
  | int32 => .int32 none
  | int64 => .int64 none
  | float32 => .float32 none
  | float64 => .float64 none
  | text => .varchar none
  | date => .date none
  | timestamp => .timestamp none
  | uuid => .uuid none

end Scalar

namespace ConversionError

private def unreadableAs (target : Scalar) : String :=
  match target with
  | .date => "a date"
  | .timestamp => "a timestamp"
  | s => s.name

def message : ConversionError → String
  | missing target => s!"Cannot convert NULL to {target.name}"
  | incompatible value .text => s!"Cannot convert {value.detail} to String"
  | incompatible value target => s!"Cannot convert {value.detail} to {target.name}"
  | outOfRange value => s!"Value {value.toInt}: i64 is out of range for i32"
  | unreadable text target => s!"Cannot parse '{text}' as {unreadableAs target}"

end ConversionError

namespace Scalar

def int32? (n : Int) : Option Int32 :=
  if Int32.minValue.toInt ≤ n ∧ n ≤ Int32.maxValue.toInt then some (Int32.ofInt n) else none

def int64? (n : Int) : Option Int64 :=
  if Int64.minValue.toInt ≤ n ∧ n ≤ Int64.maxValue.toInt then some (Int64.ofInt n) else none

def readBool? (cs : List Char) : Option Bool :=
  if cs == "true".toList then some true else if cs == "false".toList then some false else none

def readDate (s : String) : Except ConversionError Calendar.Date :=
  match Calendar.Date.read? (Text.trimBoth s.toList) with
  | some d => .ok d
  | none => .error (.unreadable s .date)

/-- A date, alone or with a time after the first blank or `T`. A time that cannot be read is reported before a date. -/
def readTimestamp (s : String) : Except ConversionError Calendar.Timestamp :=
  let cs := Text.trimBoth s.toList
  match Text.cutAt? (fun c => c == ' ' || c == 'T') cs with
  | none => (readDate (String.ofList cs)).map Calendar.Timestamp.midnight
  | some (day, clock) => match Calendar.Time.read? clock with
    | none => .error (.unreadable (String.ofList cs) .timestamp)
    | some time => (readDate (String.ofList day)).map fun d => ⟨d, time⟩

/-- Reads a text, blanks at its ends aside, as a value of the kind of the type. A text is itself, blanks included. -/
def read (target : Scalar) (s : String) : Except ConversionError Value :=
  let cs := Text.trimBoth s.toList
  let orUnreadable (v : Option Value) : Except ConversionError Value := v.elim (.error (.unreadable s target)) .ok
  match target with
  | bool => orUnreadable ((readBool? cs).map fun b => .boolean (some b))
  | int32 => orUnreadable (((Decimal.readInt? cs).bind int32?).map fun n => .int32 (some n))
  | int64 => orUnreadable (((Decimal.readInt? cs).bind int64?).map fun n => .int64 (some n))
  | float32 => orUnreadable ((Decimal.readFloat32? cs).map fun x => .float32 (some x))
  | float64 => orUnreadable ((Decimal.readFloat? cs).map fun x => .float64 (some x))
  | text => .ok (.varchar (some s))
  | date => (readDate s).map fun d => .date (some d)
  | timestamp => (readTimestamp s).map fun t => .timestamp (some t)
  | uuid => orUnreadable ((Uuid.read? cs).map fun u => .uuid (some u))

/-- Numbers and identifiers are taken as text, but not truth values and dates. -/
private def hasTextForm : Value → Bool
  | .int32 _ | .int64 _ | .float32 _ | .float64 _ | .uuid _ => true
  | _ => false

/-- An integer of either width becomes the float closest to it. -/
def convert (target : Scalar) (v : Value) : Except ConversionError Value :=
  match target, v with
  | bool, .boolean (some b) => .ok (.boolean (some b))
  | bool, .int32 (some n) => .ok (.boolean (some (n != 0)))
  | int32, .int32 (some n) => .ok (.int32 (some n))
  | int32, .int64 (some n) => match int32? n.toInt with
    | some n => .ok (.int32 (some n))
    | none => .error (.outOfRange n)
  | int64, .int64 (some n) => .ok (.int64 (some n))
  | int64, .int32 (some n) => .ok (.int64 (some n.toInt64))
  | float32, .float32 (some x) => .ok (.float32 (some x))
  | float32, .float64 (some x) => .ok (.float32 (some x.toFloat32))
  | float32, .int32 (some n) => .ok (.float32 (some (.ofInt n.toInt)))
  | float32, .int64 (some n) => .ok (.float32 (some (.ofInt n.toInt)))
  | float64, .float64 (some x) => .ok (.float64 (some x))
  | float64, .float32 (some x) => .ok (.float64 (some x.toFloat))
  | float64, .int32 (some n) => .ok (.float64 (some (.ofInt n.toInt)))
  | float64, .int64 (some n) => .ok (.float64 (some (.ofInt n.toInt)))
  | date, .date (some d) => .ok (.date (some d))
  | date, .timestamp (some t) => .ok (.date (some t.date))
  | timestamp, .timestamp (some t) => .ok (.timestamp (some t))
  | timestamp, .date (some d) => .ok (.timestamp (some (.midnight d)))
  | uuid, .uuid (some u) => .ok (.uuid (some u))
  | target, .varchar (some s) => target.read s
  | target, v =>
    if v.isNull then .error (.missing target)
    else if target == text && hasTextForm v then .ok (.varchar (some v.text))
    else .error (.incompatible v target)

end Scalar

namespace Target

/-- The scalar that a type holds, under all that wraps it. -/
def innermost : Target → Scalar
  | scalar s => s
  | optional t => t.innermost
  | boxed t => t.innermost

/-- The name of a type in messages. -/
def name : Target → String
  | scalar s => s.name
  | optional t => "core::option::Option<" ++ t.name ++ ">"
  | boxed t => "alloc::boxed::Box<" ++ t.name ++ ">"

def null (t : Target) : Value := t.innermost.null

def read (t : Target) (s : String) : Except ConversionError Value := t.innermost.read s

/-- An absent optional is the null of the kind. -/
def convert : Target → Value → Except ConversionError Value
  | scalar s, v => s.convert v
  | optional t, v => if v.isNull then .ok t.null else t.convert v
  | boxed t, v => t.convert v

end Target

end EntityMapping
