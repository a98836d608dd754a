import EntityMapping.Entity.Access
import EntityMapping.Naming
import Std.Data.HashMap

/-! Setters: the way from an entity to the field that a column is assigned to. A label names a field as the column of the
field would be named, in any case. Results are cached for each type, embedding label and column label. -/

namespace EntityMapping.Rows

open Entity

/-- The positions of the nested fields on the way, the type that declares the field, and its position there. -/
structure Setter where
  hops : List Nat
  owner : TypeName
  position : Nat
  field : ValueField

/-- A label fits a field when it maps to the name of the field or is its column but for the case. -/
def fits (name label : String) : Bool :=
  name == Naming.fieldName label || Text.equalIgnoringCase (Naming.columnName name) label

/-- A value field where a type declares it. -/
structure OwnField where
  owner : TypeName
  position : Nat
  field : ValueField

/-- A search that keeps the positions of the nested fields it has gone into on one stack. -/
abbrev Search := StateM (List Nat)

namespace Search

variable {α : Type}

def push (hop : Nat) : Search Unit := modify (· ++ [hop])

def pop : Search Unit := modify List.dropLast

/-- Searches behind a hop, which is taken back when nothing is found there. -/
def behind (hop : Nat) (inside : Search (Option α)) : Search (Option α) := do
  push hop
  match ← inside with
  | some found => return some found
  | none =>
    pop
    return none

def orNext (first next : Search (Option α)) : Search (Option α) := do
  match ← first with
  | some found => return some found
  | none => next

end Search

/-- The first value of these fields that fits the label, positions being counted from `i`. -/
def ownField? (owner : TypeName) (label : String) : Fields → Nat → Option OwnField
  | .nil, _ => none
  | .value f rest, i => if fits f.name label then some ⟨owner, i, f⟩ else ownField? owner label rest (i + 1)
  | .nested _ _ rest, i => ownField? owner label rest (i + 1)
  | .skipped _ rest, i => ownField? owner label rest (i + 1)

/-- Searches inside the bases; with `flat`, inside all nested entities. -/
def nestedField (flat : Bool) (label : String) : Fields → Nat → Search (Option OwnField)
  | .nil, _ => return none
  | .value _ rest, i => nestedField flat label rest (i + 1)
  | .nested f inner rest, i =>
    let next := nestedField flat label rest (i + 1)
    if flat || f.role == .base then
      .orNext (.behind i (.orNext (pure (ownField? f.type label inner 0)) (nestedField flat label inner 0))) next
    else next
  | .skipped _ rest, i => nestedField flat label rest (i + 1)

/-- The value that fits a label, among the own fields of a type and then inside the nested ones. -/
def findField (flat : Bool) (owner : TypeName) (label : String) (fields : Fields) : Search (Option OwnField) :=
  .orNext (pure (ownField? owner label fields 0)) (nestedField flat label fields 0)

/-- The first embedded entity of these fields that a label names, by its type and its fields. -/
def ownEntity (label : String) : Fields → Nat → Search (Option (TypeName × Fields))
  | .nil, _ => return none
  | .value _ rest, i => ownEntity label rest (i + 1)
  | .nested f inner rest, i =>
    if f.role == .embedded && fits f.name label then do
      Search.push i
      return some (f.type, inner)
    else ownEntity label rest (i + 1)
  | .skipped _ rest, i => ownEntity label rest (i + 1)

def baseEntity (label : String) : Fields → Nat → Search (Option (TypeName × Fields))
  | .nil, _ => return none
  | .value _ rest, i => baseEntity label rest (i + 1)
  | .nested f inner rest, i =>
    let next := baseEntity label rest (i + 1)
    if f.role == .base then .orNext (.behind i (.orNext (ownEntity label inner 0) (baseEntity label inner 0))) next else next
  | .skipped _ rest, i => baseEntity label rest (i + 1)

/-- The embedded entity that a label names, among the own fields and then inside the bases. -/
def findEmbedded (label : String) (fields : Fields) : Search (Option (TypeName × Fields)) :=
  .orNext (ownEntity label fields 0) (baseEntity label fields 0)

/-- Searches the fields of the type and of its bases when there is no embedding label, otherwise those of the embedded entity with
all that it holds. The second search goes on with the stack that the first has left. -/
def findColumn (d : Definition) (embedding label : String) : Search (Option OwnField) := do
  let owner ← if embedding.isEmpty then pure (some (d.type, d.fields)) else findEmbedded embedding d.fields
  match owner with
  | some (type, fields) => findField (!embedding.isEmpty) type label fields
  | none => return none

/-- Finds the setter of a column, whose hops are what the search ends with. -/
def findSetter? (d : Definition) (embedding label : String) : Option Setter :=
  match (findColumn d embedding label).run [] with
  | (some f, hops) => some ⟨hops, f.owner, f.position, f.field⟩
  | (none, _) => none

/-- The setters that were looked up, those that were not found included. -/
structure SetterCache where
  entries : Std.HashMap (Nat × String × String) (Option Setter)

namespace SetterCache

def empty : SetterCache := ⟨∅⟩

def size (cache : SetterCache) : Nat := cache.entries.size

def resolve (cache : SetterCache) (d : Definition) (embedding label : String) : Option Setter × SetterCache :=
  let key := (d.type.id, embedding, label)
  match cache.entries[key]? with
  | some s => (s, cache)
  | none =>
    let s := findSetter? d embedding label
    (s, ⟨cache.entries.insert key s⟩)

def detail (cache : SetterCache) : String := "SetterCache \x7b len: " ++ toString cache.size ++ " \x7d"

end SetterCache

/-- Why a column of a row was not assigned. -/
inductive Skip where
  | missingSetter
  | unsupportedType
  | nullEmbedded
  | conversionFailed
  | nullValue
deriving DecidableEq, Repr

/-- Puts a value into the slot at a position. -/
def putAt (v : Value) : Slots → Nat → Slots
  | .nil, _ => .nil
  | .value _ rest, 0 => .value v rest
  | slots, 0 => slots
  | .value old rest, i + 1 => .value old (putAt v rest i)
  | .present type inner rest, i + 1 => .present type inner (putAt v rest i)
  | .absent rest, i + 1 => .absent (putAt v rest i)
  | .skipped rest, i + 1 => .skipped (putAt v rest i)

end EntityMapping.Rows
