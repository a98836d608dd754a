import EntityMapping.Statement.Clause

/-! Select statements: of entities, page by page, and of single values. -/

namespace EntityMapping.Statement

/-- What the stock writers of databases differ in. -/
structure Dialect where
  /-- The clause that selects `count` rows from row `start` on. -/
  limit (start count : Int) : String

namespace Dialect

/-- Every row is selected unless the count is positive, and a negative start counts as zero. -/
def generic : Dialect where
  limit start count := if count > 0 then " limit " ++ toString (max start 0) ++ "," ++ toString count else ""

def offset : Dialect where
  limit start count := if count > 0 then " limit " ++ toString count ++ " offset " ++ toString (max start 0) else ""

end Dialect

/-- The shape of a select statement. -/
structure Select where
  includes : Option String := none
  excludes : Option String := none
  filter : Option String := none
  groupBy : Option String := none
  orderBy : Option String := none
  start : Int := 0
  count : Int := 0

def select (dialect : Dialect) (m : Metadata) (s : Select) (object : Option Template.Properties) : Except Failure String := do
  let c : Context := ⟨.select, object⟩
  let columns ← projection m s.includes s.excludes
  let filter ← whereClause (c.inFragment .selectWhere) m s.filter
  let groupBy ← groupByClause (c.inFragment .selectGroupBy) m s.groupBy
  let orderBy ← orderByClause (c.inFragment .selectOrderBy) m s.orderBy
  pure ("select " ++ columns ++ " from " ++ fromClause m ++ filter ++ groupBy ++ orderBy ++ dialect.limit s.start s.count)

/-- Selects the value of a template such as `count(*)`. -/
def selectValue (m : Metadata) (expression : String) (filter : Option String) (object : Option Template.Properties) :
    Except Failure String := do
  let c : Context := ⟨.select, object⟩
  let value ← template c m expression
  let filter ← whereClause (c.inFragment .selectWhere) m filter
  pure ("select " ++ value ++ " from " ++ fromClause m ++ filter)

end EntityMapping.Statement
