import EntityMapping.Template.Operator
import EntityMapping.Template.Token

/-! Expressions of templates, and everything that can go wrong with one. A binding `#path` stands for a column of the entity,
a bare path reads a property of the filter object. -/

namespace EntityMapping.Template

inductive Expression where
  | literal (v : Value)
  | binding (path : String)
  | property (path : String)
  | unary (op : UnaryOp) (operand : Expression)
  | binary (op : BinaryOp) (lhs rhs : Expression)
  | conditional (condition yes no : Expression)

/-- Why tokens do not make up an expression. -/
inductive GrammarError where
  | empty
  | trailing (t : Token)
  | missingColon
  | missingOperand
  | missingParenthesis
  | unexpected (t : Token)
  | missingBinding (found : Option Token)
  | missingName (path : String)

inductive EvaluationError where
  | unknownField (name entity : String)
  | noObject (path : String)
  | unknownProperty (path : String)
  | notNumbers (op : ArithmeticOp) (lhs rhs : Value)
  | divisionByZero
  | overflow (op : ArithmeticOp)
  | notComparable (lhs rhs : Value)
  | notBooleans (op : LogicalOp) (lhs rhs : Value)
  | notBoolean (operand : Value)
  | notNumber (operand : Value)
  | negationOverflow
  | notCondition (v : Value)

inductive ExpressionError where
  | unbalanced (template : String)
  | lexical (e : LexicalError) (source : String)
  | grammar (e : GrammarError)
  | evaluation (e : EvaluationError)

namespace GrammarError

private def found : Option Token → String
  | none => "None"
  | some t => "Some(" ++ t.detail ++ ")"

def message : GrammarError → String
  | empty => "Empty expression"
  | trailing t => "Unexpected " ++ t.detail ++ " after the end of the expression"
  | missingColon => "Expected `:` in a conditional expression"
  | missingOperand => "Unexpected end of the expression"
  | missingParenthesis => "Expected `)`"
  | unexpected t => "Unexpected " ++ t.detail
  | missingBinding t => "Expected a name after `#`, found " ++ found t
  | missingName path => "Expected a name after `" ++ path ++ ".`"

end GrammarError

namespace EvaluationError

def message : EvaluationError → String
  | unknownField name entity => "Unknown field `#" ++ name ++ "` of " ++ entity
  | noObject path => "Cannot read `" ++ path ++ "` without a filter object"
  | unknownProperty path => "Unknown property `" ++ path ++ "` of the filter object"
  | notNumbers op lhs rhs =>
    "Operator `" ++ (BinaryOp.arithmetic op).text ++ "` needs numbers, found " ++ lhs.detail ++ " and " ++ rhs.detail
  | divisionByZero => "Division by zero"
  | overflow op => "Integer overflow evaluating `" ++ (BinaryOp.arithmetic op).text ++ "`"
  | notComparable lhs rhs => "Cannot compare " ++ lhs.detail ++ " with " ++ rhs.detail
  | notBooleans op lhs rhs =>
    "The operands of `" ++ (BinaryOp.logical op).text ++ "` must be booleans, found " ++ lhs.detail ++ " and " ++ rhs.detail
  | notBoolean operand => "Cannot negate " ++ operand.detail ++ ", a boolean is needed"
  | notNumber operand => "Cannot change the sign of " ++ operand.detail ++ ", a number is needed"
  | negationOverflow => "Integer overflow evaluating `-`"
  | notCondition v => "The condition of `?:` must be a boolean, found " ++ v.detail

end EvaluationError

namespace ExpressionError

def message : ExpressionError → String
  | unbalanced template => "Unbalanced braces in `" ++ template ++ "`"
  | lexical (.unexpected c) source => "Unexpected character `" ++ c.toString ++ "` in `" ++ source ++ "`"
  | lexical (.unterminated rest) _ => "Unterminated string literal `" ++ rest ++ "`"
  | lexical (.invalidNumber digits) _ => "Invalid number `" ++ digits ++ "`"
  | grammar e => e.message
  | evaluation e => e.message

end ExpressionError

end EntityMapping.Template
