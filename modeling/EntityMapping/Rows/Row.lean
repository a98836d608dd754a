import EntityMapping.Value.Basic

/-! Rows of a result: labels and values, paired in order. -/

namespace EntityMapping

structure Row where
  labels : List String
  values : List Value

namespace Row

def cells (row : Row) : List (String × Value) := row.labels.zip row.values

/-- What a row says about a label. -/
inductive Column where
  | absent
  /-- The label is there, but there are too few values. -/
  | unpaired
  | found (v : Value)

/-- The value under the first label of the name. -/
def column (row : Row) (label : String) : Column :=
  match row.labels.idxOf? label with
  | none => .absent
  | some i => match row.values[i]? with
    | none => .unpaired
    | some v => .found v

end Row

end EntityMapping
