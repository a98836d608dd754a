import EntityMapping.Text.Case
import EntityMapping.Text.Pieces

/-! Names on the two sides of the mapping. Fields are written `lowerCamel`, columns and tables `UPPER_SNAKE`; `columnName`
and `fieldName` go from one to the other. -/

namespace EntityMapping.Naming

open Text

/-- An underscore goes before every ASCII capital but one that comes first. -/
def separateWords : List Char → List Char
  | [] => []
  | c :: cs => c :: cs.flatMap fun c => if c.isUpper then ['_', c] else [c]

def dropMark : List Char → List Char
  | '-' :: cs => cs
  | cs => cs

/-- The column of a field: `createdAt` becomes `CREATED_AT`. A `-` in front, the mark of an excluded field, is dropped. -/
def columnName (field : String) : String := String.ofList (upper (dropMark (separateWords field.toList)))

def capitalize : List Char → List Char
  | [] => []
  | c :: cs => upperChar c ++ cs

/-- The field of a column: `CREATED_AT` becomes `createdAt`. -/
def fieldName (column : String) : String :=
  match splitWhere (· == '_') (lower column.toList) with
  | [] => ""
  | first :: others => String.ofList (first ++ others.flatMap capitalize)

/-- Removes a last `po`, `bo` or `vo`, in any case, from a name of more than two characters. -/
private def dropSuffix (cs : List Char) : List Char :=
  match cs.reverse with
  | o :: k :: c :: rest =>
    if o.toLower == 'o' && (k.toLower == 'p' || k.toLower == 'b' || k.toLower == 'v') then (c :: rest).reverse else cs
  | _ => cs

/-- The table of an entity that declares none: `UserAccountPo` becomes `USER_ACCOUNT`. -/
def tableName (entity : String) : String := columnName (String.ofList (dropSuffix entity.toList))

end EntityMapping.Naming
