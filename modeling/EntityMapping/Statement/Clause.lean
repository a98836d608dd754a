import EntityMapping.Metadata.Basic
import EntityMapping.Template.Resolution

/-! The clauses of statements as text. Templates see the columns of the entity everywhere, and the properties of the filter
object in where clauses only. -/

namespace EntityMapping.Statement

/-- The part of a statement that is being written. -/
inductive Fragment where
  | none
  | select
  | selectFrom
  | selectWhere
  | selectGroupBy
  | selectOrderBy
  | updateWhere
  | deleteWhere
deriving DecidableEq, Repr

def Fragment.isWhere : Fragment → Bool
  | selectWhere | updateWhere | deleteWhere => true
  | _ => false

structure Context where
  fragment : Fragment
  object : Option Template.Properties

namespace Context

def visibleObject (c : Context) : Option Template.Properties := if c.fragment.isWhere then c.object else none

def inFragment (c : Context) (fragment : Fragment) : Context := { c with fragment }

end Context

/-- The text of a template in a clause. -/
def template (c : Context) (m : Metadata) (text : String) : Except Failure String :=
  match Template.resolve (m.scope c.visibleObject) text with
  | .ok s => .ok s
  | .error e => .error { status := .expressionEvaluationFailure, args := [text], cause := some (.expression e) }

def pickField (m : Metadata) (picked : List (String × FieldMapping)) (name : String) :
    Except Failure (List (String × FieldMapping)) :=
  match m.fields.find? (·.1 == name) with
  | none => .error { status := .invalidField, args := [name, m.entityName] }
  | some (key, mapping) => .ok (if picked.any (·.1 == key) then picked else picked ++ [(key, mapping)])

/-- The fields that a list includes, in its order and each once. Without such a list they are all fields but the excluded
ones, in the order of the metadata. -/
def selectFields (m : Metadata) (includes excludes : Option String) : Except Failure (List (String × FieldMapping)) :=
  match (includes.map Text.splitList).getD [] with
  | [] =>
    let excluded := (excludes.map Text.splitList).getD []
    .ok (m.fields.filter fun (key, _) => !excluded.contains key)
  | names => names.foldlM (pickField m) []

def noFields (m : Metadata) : Failure := { status := .emptyFieldListNotAllowed, args := [m.entityName] }

/-- A selected column under its alias, which keeps the dollar sign of an embedded key. -/
def projectedColumn (column key : String) : String := column ++ " as " ++ Naming.columnName key

def projection (m : Metadata) (includes excludes : Option String) : Except Failure String := do
  match ← selectFields m includes excludes with
  | [] => .error (noFields m)
  | fields => pure (Text.separated "," (fields.map fun (key, mapping) => projectedColumn mapping.column key))

/-- The tables with their aliases, unless the entity declares the whole clause. -/
def fromClause (m : Metadata) : String :=
  m.fromClause.getD (Text.separated "," (m.tables.map fun t => t.name ++ " AS " ++ t.aliasName))

/-- The filter with the join condition of the entity, which takes part in select statements only. A blank filter is no
filter. -/
def whereClause (c : Context) (m : Metadata) (filter : Option String) : Except Failure String :=
  let join := if c.fragment = .selectWhere then m.joinClause else none
  match Text.nonBlank? filter, join with
  | some filter, some join => (template c m filter).map fun text => " where (" ++ text ++ ") and (" ++ join ++ ")"
  | some filter, none => (template c m filter).map fun text => " where " ++ text
  | none, some join => .ok (" where (" ++ join ++ ")")
  | none, none => .ok ""

/-- A keyword and the text of a template, trimmed; nothing when there is no template or its text is blank. -/
def keywordClause (c : Context) (m : Metadata) (keyword : String) (text : Option String) : Except Failure String :=
  match Text.nonBlank? text with
  | none => .ok ""
  | some text => (template c m text).map fun resolved =>
    let resolved := Text.trim resolved
    if resolved.isEmpty then "" else keyword ++ resolved

def groupByClause (c : Context) (m : Metadata) (groupBy : Option String) : Except Failure String :=
  keywordClause c m " group by " groupBy

def orderByClause (c : Context) (m : Metadata) (orderBy : Option String) : Except Failure String :=
  keywordClause c m " order by " orderBy

end EntityMapping.Statement
