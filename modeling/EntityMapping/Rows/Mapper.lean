import EntityMapping.Metadata.Basic
import EntityMapping.Rows.Row
import EntityMapping.Rows.Setter

/-! Mapping rows to entities by their labels. A label `OWNER$COLUMN` is assigned to the embedded entity of the field named
after `OWNER`, which must be there in a new object. A column that cannot be assigned is skipped and counted. -/

namespace EntityMapping.Rows

open Entity

/-- Counters of the mapping work. Each is raised by one for a row or a column, which takes none of them to the end of the 64 bits
that it has, so they are not bounded here. -/
structure MappingCounts where
  rows : Nat := 0
  columnsSet : Nat := 0
  missingSetter : Nat := 0
  unsupportedType : Nat := 0
  nullEmbedded : Nat := 0
  conversionFailed : Nat := 0
  nullValue : Nat := 0
deriving DecidableEq, Repr

namespace MappingCounts

def skipped (c : MappingCounts) : Nat :=
  c.missingSetter + c.unsupportedType + c.nullEmbedded + c.conversionFailed + c.nullValue

def recordSkip (c : MappingCounts) : Skip → MappingCounts
  | .missingSetter => { c with missingSetter := c.missingSetter + 1 }
  | .unsupportedType => { c with unsupportedType := c.unsupportedType + 1 }
  | .nullEmbedded => { c with nullEmbedded := c.nullEmbedded + 1 }
  | .conversionFailed => { c with conversionFailed := c.conversionFailed + 1 }
  | .nullValue => { c with nullValue := c.nullValue + 1 }

def recordSet (c : MappingCounts) : MappingCounts := { c with columnsSet := c.columnsSet + 1 }

def recordRow (c : MappingCounts) : MappingCounts := { c with rows := c.rows + 1 }

end MappingCounts

/-- Applies `f` to the entity nested at a position. -/
def inNested (f : Nat → Slots → Except Skip Slots) : Slots → Nat → Except Skip Slots
  | .present type inner rest, 0 => (f type inner).map fun inner => .present type inner rest
  | .value v rest, i + 1 => (inNested f rest i).map (.value v)
  | .present type inner rest, i + 1 => (inNested f rest i).map (.present type inner)
  | .absent rest, i + 1 => (inNested f rest i).map .absent
  | .skipped rest, i + 1 => (inNested f rest i).map .skipped
  | _, _ => .error .nullEmbedded

namespace Setter

/-- Stores a value into the field of its owner. -/
def store (s : Setter) (v : Value) (type : Nat) (slots : Slots) : Except Skip Slots :=
  if type != s.owner.id then .error .conversionFailed
  else match s.field.store s.owner v with
    | .ok v => .ok (putAt v slots s.position)
    | .error _ => .error .conversionFailed

def follow (s : Setter) (v : Value) : List Nat → Nat → Slots → Except Skip Slots
  | [], type, slots => s.store v type slots
  | hop :: hops, _, slots => inNested (s.follow v hops) slots hop

/-- Assigns a value to the field of a setter, unless the field cannot take it. -/
def assign (s : Setter) (o : Object) (v : Value) : Except Skip Object :=
  if !s.field.settable || !s.field.mappable then .error .unsupportedType
  else if v.isNull && !s.field.nullable then .error .nullValue
  else (s.follow v s.hops o.type o.slots).map fun slots => { o with slots }

end Setter

/-- The part of a label before the first dollar sign, which names an embedded entity, and the part after it. -/
def labelParts (label : String) : String × String :=
  match Text.cutAt? (· == '$') label.toList with
  | some (embedding, column) => (String.ofList embedding, String.ofList column)
  | none => ("", label)

/-- What a mapper carries from row to row. -/
structure MapperState where
  setters : SetterCache
  counts : MappingCounts

/-- Assigns one column of a row. -/
def assignColumn (d : Definition) (o : Object) (label : String) (v : Value) (state : MapperState) : Object × MapperState :=
  let (embedding, column) := labelParts label
  let (setter, setters) := state.setters.resolve d embedding column
  match setter.elim (.error .missingSetter) fun s => s.assign o v with
  | .ok o => (o, ⟨setters, state.counts.recordSet⟩)
  | .error skip => (o, ⟨setters, state.counts.recordSkip skip⟩)

/-- Maps a row to an object of a type that starts as `blank`, the default value of the type. -/
def mapRowInto (d : Definition) (blank : Object) (row : Row) (state : MapperState) : Object × MapperState :=
  let (o, state) := row.cells.foldl (fun (o, state) (label, v) => assignColumn d o label v state) (blank, state)
  (o, { state with counts := state.counts.recordRow })

/-- Maps a row to a new object of a type. -/
def mapRow (d : Definition) (row : Row) (state : MapperState) : Object × MapperState := mapRowInto d d.initial row state

/-- The type that a mapper maps to. The metadata prove that the type does not nest itself, so they must be its own. -/
def mapperType (m : Metadata) (d : Definition) : Except Failure Definition :=
  if m.definition.type.id == d.type.id then .ok d
  else .error { status := .invalidEntityDefinition, args := [m.entityName, d.type.name] }

/-- Maps a row, by its place in the result, to something that is not an entity. -/
abbrev RowMapper (α : Type) := Row → Nat → Except Failure α

/-- The mappers to single values, by the name of the type they map to. -/
structure RowMappers where
  entries : Std.HashMap String (RowMapper Value)

namespace RowMappers

def empty : RowMappers := ⟨∅⟩

def size (mappers : RowMappers) : Nat := mappers.entries.size

def register (mappers : RowMappers) (type : String) (mapper : RowMapper Value) : RowMappers :=
  ⟨mappers.entries.insert type mapper⟩

def get (mappers : RowMappers) (type : String) : Except Failure (RowMapper Value) :=
  match mappers.entries[type]? with
  | some mapper => .ok mapper
  | none => .error { status := .missingRowMapper, args := [type] }

def detail (mappers : RowMappers) : String := "RowMappers \x7b len: " ++ toString mappers.size ++ " \x7d"

end RowMappers

end EntityMapping.Rows
