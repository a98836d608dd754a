import EntityMapping.Template.Expression

/-! Failures of the mapping. A status, known by a stable number, says what went wrong, the arguments say where, and the cause
is the error that was found underneath. -/

namespace EntityMapping

inductive Status where
  /-- The entity has no table, not exactly one where it is written, or nests itself. -/
  | invalidEntityDefinition
  /-- A field list names a field that the entity does not have. -/
  | invalidField
  /-- A field could not be read from or written to an object. -/
  | propertyAccessFailure
  /-- No row mapper is registered for the type of the result. -/
  | missingRowMapper
  /-- A template cannot be resolved. -/
  | expressionEvaluationFailure
  /-- A statement would write no column at all. -/
  | emptyFieldListNotAllowed
  /-- The query returned no row. -/
  | emptyResult
  /-- The query returned more rows than expected. -/
  | incorrectResultSize
  /-- The database reported a failure. -/
  | database
deriving DecidableEq, Repr

def Status.code : Status → Nat
  | emptyResult => 404
  | expressionEvaluationFailure => 602
  | incorrectResultSize => 701
  | database => 902
  | missingRowMapper => 10010001
  | invalidEntityDefinition => 20010002
  | propertyAccessFailure => 20010004
  | invalidField => 20010005
  | emptyFieldListNotAllowed => 20010006

inductive Cause where
  | conversion (e : ConversionError)
  | expression (e : Template.ExpressionError)
  /-- What the database reported, in its own words. -/
  | reported (message : String)

def Cause.message : Cause → String
  | conversion e => e.message
  | expression e => e.message
  | reported message => message

structure Failure where
  status : Status
  args : List String := []
  cause : Option Cause := none

namespace Failure

/-- The status number and the arguments between quotes; what the arguments hold is not escaped. -/
def message (f : Failure) : String :=
  let args := if f.args.isEmpty then "" else ",args:[" ++ ",".intercalate (f.args.map fun a => "\"" ++ a ++ "\"") ++ "]"
  "\x7b\"status\":" ++ toString f.status.code ++ args ++ "\x7d"

end Failure

end EntityMapping
