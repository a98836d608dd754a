import EntityMapping.Text.Pieces
import EntityMapping.Value.Basic

/-! Queries: the text of a statement with the values of its placeholders in order. -/

namespace EntityMapping

structure Query where
  sql : String
  params : List Value

namespace Query

def empty : Query := ⟨"", []⟩

/-- The query as it is logged: the statement, shortened, and the parameters if there are any. -/
def detail (q : Query) : String :=
  Text.shortened q.sql ++
    if q.params.isEmpty then "" else " with [" ++ ", ".intercalate (q.params.map Value.detail) ++ "]"

end Query

end EntityMapping
