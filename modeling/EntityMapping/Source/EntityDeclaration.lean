import EntityMapping.Entity.Definition
import EntityMapping.Source.FieldType
import EntityMapping.Source.Struct

/-! Declarations of entities, as the attributes of a struct give them. The attributes of the struct are taken before its
fields, all in the order in which they are written; of two items for the same thing the later one counts. -/

namespace EntityMapping.Source

open Entity

/-- What a field is to the mapping. -/
inductive FieldKind where
  | value
  | nested (role : Role)
  | skipped
deriving DecidableEq, Repr

structure DeclaredField where
  name : String
  column : Option String
  readOnly : Bool
  kind : FieldKind
  type : InspectedType
deriving DecidableEq, Repr

structure EntityDeclaration where
  clauses : Clauses
  fields : List DeclaredField

/-- Why the attributes of a struct or a field are refused. -/
inductive AttributeError where
  | notList
  | needsTable (item : String)
  | needsColumn
  | takesNoValue (item : String)
  | unknown (item : String)
  | severalKinds (field : String)
  | unnamedField
deriving DecidableEq, Repr

namespace AttributeError

private def usage (item example_ : String) : String :=
  "Error while parsing " ++ item ++ ", use it like: " ++ example_

def message : AttributeError → String
  | notList => usage "`poet`" "`#[poet(attribute = value, ..)]`"
  | needsTable item => usage ("`" ++ item ++ "`") "`#[poet(table = \"ALIAS=TABLE\")]`"
  | needsColumn => usage "`column`" "`#[poet(column = \"MY_COLUMN\")]`"
  | takesNoValue item => usage ("`" ++ item ++ "`") ("`#[poet(" ++ item ++ ")]`")
  | unknown item => "Unknown attribute `" ++ item ++ "` inside poet macro"
  | severalKinds field => "Field `" ++ field ++ "` can be only one of `embedded`, `base` or `skip`"
  | unnamedField => ""

end AttributeError

/-- The items of all lists of the attribute that belongs to the mapping; an attribute of that name must be a list. -/
def itemLists : List Attribute → List (Except AttributeError (List Item))
  | [] => []
  | a :: rest =>
    if a.name == "poet" then
      (match a.content with
        | .list tokens => .ok (Item.readAll tokens)
        | _ => .error .notList) :: itemLists rest
    else itemLists rest

/-- Takes the items of attributes one after the other. -/
def takeItems {α : Type} (take : α → Item → Except AttributeError α) (start : α) (attributes : List Attribute) :
    Except AttributeError α :=
  (itemLists attributes).foldlM (fun a items => do (← items).foldlM take a) start

/-- What an item of a struct does to the clauses, if structs have items of its name. -/
def clauseSetter? (name : String) : Option (Clauses → String → Clauses) :=
  match name with
  | "table" => some fun c value => { c with tables := some value }
  | "join" => some fun c value => { c with join := some value }
  | "from" => some fun c value => { c with source := some value }
  | "trace" => some fun c value => { c with trace := some value }
  | _ => none

/-- Takes an item of a struct, which needs a text. -/
def takeClause (c : Clauses) (item : Item) : Except AttributeError Clauses :=
  match clauseSetter? item.name, item.content with
  | none, _ => .error (.unknown item.name)
  | some set, .text value => .ok (set c value)
  | some _, _ => .error (.needsTable item.name)

def clausesOf (attributes : List Attribute) : Except AttributeError Clauses :=
  takeItems takeClause ⟨none, none, none, none⟩ attributes

namespace DeclaredField

/-- Makes a field something else than a value, which can be done once. -/
def withKind (f : DeclaredField) (kind : FieldKind) : Except AttributeError DeclaredField :=
  if f.kind = .value then .ok { f with kind } else .error (.severalKinds f.name)

/-- A field after a mark, if fields have marks of that name. -/
def mark? (f : DeclaredField) (name : String) : Option (Except AttributeError DeclaredField) :=
  match name with
  | "read_only" => some (.ok { f with readOnly := true })
  | "embedded" => some (f.withKind (.nested .embedded))
  | "base" => some (f.withKind (.nested .base))
  | "skip" => some (f.withKind .skipped)
  | _ => none

/-- Takes an item of a field: a column with its name, or a mark, which has no value. -/
def take (f : DeclaredField) (item : Item) : Except AttributeError DeclaredField :=
  if item.name == "column" then match item.content with
    | .text value => .ok { f with column := some value }
    | _ => .error .needsColumn
  else match f.mark? item.name, item.content with
    | none, _ => .error (.unknown item.name)
    | some marked, .nothing => marked
    | some _, _ => .error (.takesNoValue item.name)

/-- The name of a field without the mark of a raw name. -/
def plainName (name : String) : String :=
  match name.toList with
  | 'r' :: '#' :: rest => String.ofList rest
  | _ => name

def ofWritten (f : WrittenField) : Except AttributeError DeclaredField :=
  match f.name with
  | none => .error .unnamedField
  | some name => takeItems take ⟨plainName name, none, false, .value, f.type.inspect⟩ f.attributes

end DeclaredField

namespace EntityDeclaration

def ofWritten (s : WrittenStruct) : Except AttributeError EntityDeclaration := do
  let clauses ← clausesOf s.attributes
  pure ⟨clauses, ← s.fields.mapM DeclaredField.ofWritten⟩

end EntityDeclaration

end EntityMapping.Source
