import EntityMapping.Template.Evaluation
import EntityMapping.Template.Parser
import EntityMapping.Template.Segment

/-! Resolution of templates: every expression is replaced by the text of its value, all other text is copied. -/

namespace EntityMapping.Template

def Segment.resolve (scope : Scope) : Segment → Except ExpressionError (List Char)
  | text cs => .ok cs
  | expression cs => do
    match (← Expression.parse cs).evaluate scope with
    | .ok v => .ok v.text.toList
    | .error e => .error (.evaluation e)

def resolveChars (scope : Scope) (template : List Char) : Except ExpressionError (List Char) :=
  match Segment.split? template with
  | none => .error (.unbalanced (String.ofList template))
  | some segments => (segments.mapM (Segment.resolve scope)).map List.flatten

def resolve (scope : Scope) (template : String) : Except ExpressionError String :=
  (resolveChars scope template.toList).map String.ofList

end EntityMapping.Template
