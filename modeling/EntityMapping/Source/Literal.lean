import EntityMapping.Text.Quoted

/-! Strings and optional strings as source text. -/

namespace EntityMapping.Source

/-- A text between quotes with escapes. A null character before an octal digit is written by its code, since the digit would be
read as a part of the short escape. -/
def literalBody : List Char → List Char
  | [] => []
  | '\x00' :: c :: rest =>
    (if '0' ≤ c && c ≤ '7' then "\\x00".toList else Text.quotedChar '\x00') ++ literalBody (c :: rest)
  | c :: rest => Text.quotedChar c ++ literalBody rest

def literal (s : String) : String := "\"" ++ String.ofList (literalBody s.toList) ++ "\""

def optionalLiteral : Option String → String
  | none => "None"
  | some s => "Some (" ++ literal s ++ ")"

end EntityMapping.Source
