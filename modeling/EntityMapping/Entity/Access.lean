import EntityMapping.Entity.Object
import EntityMapping.Failure
import EntityMapping.Text.Pieces

/-! Reading and writing the fields of an object by name. The fields of bases are visible on their owner unless the owner has a
field of the name itself; the fields of an embedded entity are reached by a path. -/

namespace EntityMapping.Entity

/-- The names along a path, between points and dollar signs. -/
def pathNames (path : String) : List String :=
  (Text.splitWhere (fun c => c == '.' || c == '$') path.toList).map String.ofList

namespace Fields

mutual

/-- What the first field of the name decides: the null it reads as, or that nothing is there. A field that cannot end or
continue the path decides nothing. -/
def ownNull : Fields → String → List String → Option (Option Value)
  | nil, _, _ => none
  | value f rest, name, path =>
    if f.name == name then if path.isEmpty then some (some f.missing) else none else ownNull rest name path
  | nested f inner rest, name, path =>
    if f.name == name then match f.role, path with
      | .embedded, name :: path => some ((ownNull inner name path).getD (baseNull inner name path))
      | _, _ => none
    else ownNull rest name path
  | skipped n rest, name, path => if n == name then none else ownNull rest name path

def baseNull : Fields → String → List String → Option Value
  | nil, _, _ => none
  | value _ rest, name, path => baseNull rest name path
  | nested f inner rest, name, path =>
    match f.role with
    | .base => ((ownNull inner name path).getD (baseNull inner name path)).or (baseNull rest name path)
    | .embedded => baseNull rest name path
  | skipped _ rest, name, path => baseNull rest name path

end

/-- The null that a path reads as when the entity is missing; `none` when the path leads to no value. -/
def nullAt (fields : Fields) : List String → Option Value
  | [] => none
  | name :: path => (fields.ownNull name path).getD (fields.baseNull name path)

mutual

/-- What the first field of the name decides about reading. -/
def ownValue : Fields → Slots → String → List String → Option (Option Value)
  | value f rest, .value v slots, name, path =>
    if f.name == name then if path.isEmpty then some (some v) else none else ownValue rest slots name path
  | nested f inner rest, .present type slots slots', name, path =>
    if f.name == name then match f.role, path with
      | .embedded, name :: path =>
        some (if type == f.type.id then (ownValue inner slots name path).getD (baseValue inner slots name path) else none)
      | _, _ => none
    else ownValue rest slots' name path
  | nested f inner rest, .absent slots, name, path =>
    if f.name == name then match f.role with
      | .embedded => if path.isEmpty then none else some (inner.nullAt path)
      | .base => none
    else ownValue rest slots name path
  | skipped n rest, .skipped slots, name, path => if n == name then none else ownValue rest slots name path
  | _, _, _, _ => none

def baseValue : Fields → Slots → String → List String → Option Value
  | value _ rest, .value _ slots, name, path => baseValue rest slots name path
  | nested f inner rest, .present type slots slots', name, path =>
    match f.role with
    | .base =>
      (if type == f.type.id then (ownValue inner slots name path).getD (baseValue inner slots name path) else none).or
        (baseValue rest slots' name path)
    | .embedded => baseValue rest slots' name path
  | nested f inner rest, .absent slots, name, path =>
    match f.role with
    | .base => (inner.nullAt (name :: path)).or (baseValue rest slots name path)
    | .embedded => baseValue rest slots name path
  | skipped _ rest, .skipped slots, name, path => baseValue rest slots name path
  | _, _, _, _ => none

end

/-- The first field of the name, if it is a value that can be set. -/
def settable? : Fields → String → Option ValueField
  | nil, _ => none
  | value f rest, name => if f.name == name then if f.settable then some f else none else settable? rest name
  | nested f _ rest, name => if f.name == name then none else settable? rest name
  | skipped n rest, name => if n == name then none else settable? rest name

/-- Whether a base, or a base of one, has a value of the name that can be set. -/
def inBases : Fields → String → Bool
  | nil, _ => false
  | value _ rest, name => inBases rest name
  | nested f inner rest, name =>
    (f.role == .base && ((settable? inner name).isSome || inBases inner name)) || inBases rest name
  | skipped _ rest, name => inBases rest name

/-- Whether a value of the name can be set on an entity of these fields. -/
def declares (fields : Fields) (name : String) : Bool := (fields.settable? name).isSome || fields.inBases name

end Fields

/-- The failure of an access to a field. -/
def inaccessible (type : TypeName) (name : String) : Failure := { status := .propertyAccessFailure, args := [type.name, name] }

/-- The value that a field of `owner` stores for a given value. -/
def ValueField.store (owner : TypeName) (f : ValueField) (v : Value) : Except Failure Value :=
  match f.target.convert v with
  | .ok v => .ok v
  | .error e => .error { inaccessible owner f.name with cause := some (.conversion e) }

namespace Fields

/-- Replaces the value of the first field of the name. -/
def setOwn : Fields → Slots → String → Value → Slots
  | value f rest, .value old slots, name, v => if f.name == name then .value v slots else .value old (setOwn rest slots name v)
  | nested _ _ rest, .present type inner slots, name, v => .present type inner (setOwn rest slots name v)
  | nested _ _ rest, .absent slots, name, v => .absent (setOwn rest slots name v)
  | skipped _ rest, .skipped slots, name, v => .skipped (setOwn rest slots name v)
  | _, slots, _, _ => slots

/-- Sets a value in the first base that declares the name; it fails when that base is absent. -/
def setInBase (owner : TypeName) : Fields → Slots → String → Value → Except Failure Slots
  | value _ rest, .value old slots, name, v => (setInBase owner rest slots name v).map (.value old)
  | skipped _ rest, .skipped slots, name, v => (setInBase owner rest slots name v).map .skipped
  | nested f inner rest, .present type slots slots', name, v =>
    if f.role == .base && inner.declares name then
      if type != f.type.id then .error (inaccessible owner name)
      else match inner.settable? name with
        | some field => (field.store f.type v).map fun v => .present type (inner.setOwn slots name v) slots'
        | none => (setInBase f.type inner slots name v).map fun slots => .present type slots slots'
    else (setInBase owner rest slots' name v).map (.present type slots)
  | nested f inner rest, .absent slots, name, v =>
    if f.role == .base && inner.declares name then .error (inaccessible owner name)
    else (setInBase owner rest slots name v).map .absent
  | _, _, name, _ => .error (inaccessible owner name)

end Fields

namespace Definition

/-- Reads the value at a path. A field of a missing nested entity reads as the null of its type; the result is `none` when
the path leads to no value or the object is of another type. -/
def read (d : Definition) (o : Object) (path : String) : Option Value :=
  if o.type != d.type.id then none
  else match pathNames path with
    | [] => none
    | name :: path => (d.fields.ownValue o.slots name path).getD (d.fields.baseValue o.slots name path)

/-- Sets the value of a field of the type or of one of its bases. -/
def write (d : Definition) (o : Object) (name : String) (v : Value) : Except Failure Object :=
  if o.type != d.type.id then .error (inaccessible d.type name)
  else match d.fields.settable? name with
    | some field => (field.store d.type v).map fun v => { o with slots := d.fields.setOwn o.slots name v }
    | none => (d.fields.setInBase d.type o.slots name v).map fun slots => { o with slots }

end Definition

end EntityMapping.Entity
