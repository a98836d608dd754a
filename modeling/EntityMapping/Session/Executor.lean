import EntityMapping.Query
import EntityMapping.Rows.Row
import EntityMapping.Statement.Writer

/-! Databases as the sessions see them: a state that queries are run on, and the writer of statements for it. -/

namespace EntityMapping.Session

structure Executor (σ : Type) where
  writer : σ → Statement.Writer
  /-- The rows of a query. -/
  fetch : Query → σ → Except Failure (List Row) × σ
  /-- The number of rows that a statement changed. -/
  execute : Query → σ → Except Failure Nat × σ

/-- The row of a query that has exactly one. -/
def Executor.fetchOne {σ : Type} (x : Executor σ) (q : Query) (s : σ) : Except Failure Row × σ :=
  match x.fetch q s with
  | (.error e, s) => (.error e, s)
  | (.ok [], s) => (.error { status := .emptyResult }, s)
  | (.ok [row], s) => (.ok row, s)
  | (.ok rows, s) => (.error { status := .incorrectResultSize, args := ["1", toString rows.length] }, s)

end EntityMapping.Session
