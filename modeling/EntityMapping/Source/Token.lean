import EntityMapping.Source.Lexeme
import EntityMapping.Source.Literal
import EntityMapping.Text.Blank

/-! The source text in which entities are declared, as tokens: words, literals, brackets and symbols. Comments are blanks, but
a documentation comment stands for an attribute named `doc`. Brackets must pair up. -/

namespace EntityMapping.Source

open Text

inductive Token where
  /-- A name or a keyword; a name that is marked as raw keeps the mark. -/
  | word (s : String)
  | lifetime (name : String)
  | literal (kind : LiteralKind) (written : String)
  /-- A character, and whether another symbol follows it without a blank. -/
  | symbol (c : Char) (joint : Bool)
  | opening (c : Char)
  | closing (c : Char)
deriving DecidableEq, Repr

namespace Token

/-- A token as it is written, without the blanks inside a literal. -/
def source : Token → String
  | word s => s
  | lifetime name => "'" ++ name
  | literal _ written => String.ofList (written.toList.filter (· != ' '))
  | symbol c _ => c.toString
  | opening c => c.toString
  | closing c => c.toString

def isSymbol (c : Char) : Bool := "~!@#$%^&*-=+|;:,<.>/?'".toList.contains c

/-- Whether a symbol comes next. The slash of a comment is none. -/
private def atSymbol : List Char → Bool
  | '/' :: '/' :: _ => false
  | '/' :: '*' :: _ => false
  | c :: _ => isSymbol c
  | [] => false

/-- How a literal may start, which is therefore no word. -/
private def literalStarts : List (List Char) :=
  ["r\"", "r#\"", "r##", "b\"", "b'", "br\"", "br#", "c\"", "cr\"", "cr#"].map String.toList

private def word? (cs : List Char) : Option (Token × List Char) :=
  if literalStarts.any (·.isPrefixOf cs) then none else (Lexeme.name? cs).map fun (name, rest) => (word name, rest)

/-- A lifetime, which is a name after a single quote. No other quote may follow it, and no mark unless the name has one itself.
The quote stands alone when what follows it is a literal. -/
private def lifetime? (cs : List Char) : Option (Token × List Char) := do
  let (name, after) ← Lexeme.name? cs
  let isOpen := after.head? == some '\'' || (after.head? == some '#' && !("r#".toList.isPrefixOf cs))
  if isOpen then none
  else if (Lexeme.literal? cs).isSome then some (symbol '\'' true, cs)
  else if literalStarts.any (·.isPrefixOf cs) then none
  else some (lifetime name, after)

/-- What stands for a part that could not be read: a literal, although it looks like brackets around a comment. -/
private def gap : List Char := "(/*ERROR*/)".toList

/-- The token at the start of a text. -/
def one? (cs : List Char) : Option (Token × List Char) :=
  match Lexeme.literal? cs with
  | some (kind, rest) => some (literal kind (String.ofList (cs.take (cs.length - rest.length))), rest)
  | none => match cs with
    | [] => none
    | '\'' :: rest => lifetime? rest
    | c :: rest =>
      if gap.isPrefixOf cs then some (literal .other (String.ofList gap), cs.drop gap.length)
      else if c == '(' || c == '[' || c == '{' then some (opening c, rest)
      else if c == ')' || c == ']' || c == '}' then some (closing c, rest)
      else if atSymbol cs then some (symbol c (atSymbol rest), rest)
      else word? cs

/-- The text of a block comment and what follows it; comments inside it, of which `depth` are open, belong to the text. -/
def blockBody? (depth : Nat) : List Char → Option (List Char × List Char)
  | [] => none
  | '*' :: '/' :: cs => match depth with
    | 0 => some ([], cs)
    | depth + 1 => (blockBody? depth cs).map fun (body, rest) => ('*' :: '/' :: body, rest)
  | '/' :: '*' :: cs => (blockBody? (depth + 1) cs).map fun (body, rest) => ('/' :: '*' :: body, rest)
  | c :: cs => (blockBody? depth cs).map fun (body, rest) => (c :: body, rest)

/-- Whether a carriage return stands without a line feed after it. -/
private def hasBareReturn : List Char → Bool
  | [] => false
  | '\r' :: '\n' :: cs => hasBareReturn cs
  | c :: cs => c == '\r' || hasBareReturn cs

/-- The attribute that a documentation comment stands for; an inner one is marked. -/
private def documentation? (inner : Bool) (body : List Char) : Option (List Token) :=
  let text := String.ofList body
  if hasBareReturn body then none
  else some (symbol '#' false :: (if inner then [symbol '!' false] else []) ++
    [opening '[', word "doc", symbol '=' false, literal (.text text) (Source.literal text), closing ']'])

/-- A comment up to the end of its line, its slashes having been read. -/
private def lineComment? (cs : List Char) : Option (List Token × List Char) :=
  let (line, rest) := (cs.takeWhile (· != '\n'), cs.dropWhile (· != '\n'))
  let body := if line.getLast? == some '\r' && !rest.isEmpty then line.dropLast else line
  let tokens := match body with
    | '/' :: '/' :: _ => some []
    | '/' :: text => documentation? false text
    | '!' :: text => documentation? true text
    | _ => some []
  tokens.map fun tokens => (tokens, rest)

/-- A comment between marks, the first of which have been read. -/
private def blockComment? (cs : List Char) : Option (List Token × List Char) := do
  let (body, rest) ← blockBody? 0 cs
  let tokens ← match body with
    | '*' :: text => if cs.take 2 == ['*', '*'] then some [] else documentation? false text
    | '!' :: text => documentation? true text
    | _ => some []
  some (tokens, rest)

/-- The tokens that a text starts with; none for a blank or a comment. -/
def some? (cs : List Char) : Option (List Token × List Char) :=
  match cs with
  | [] => none
  | '/' :: '/' :: rest => lineComment? rest
  | '/' :: '*' :: rest => blockComment? rest
  | c :: rest =>
    if isBlank c || c == '\u200e' || c == '\u200f' then some ([], rest)
    else (one? cs).map fun (t, rest) => ([t], rest)

/-- All tokens of a text. Every step takes at least one character. -/
def scan? (cs : List Char) : Option (List Token) :=
  if cs.isEmpty then some []
  else match some? cs with
    | none => none
    | some (tokens, rest) => if rest.length < cs.length then (scan? rest).map (tokens ++ ·) else none
termination_by cs.length

/-- Whether brackets pair up, `opened` being those that are to be closed. -/
def balanced (opened : List Char) : List Token → Bool
  | [] => opened.isEmpty
  | opening c :: rest => balanced (c :: opened) rest
  | closing c :: rest => match opened with
    | o :: opened => (o == '(' && c == ')' || o == '[' && c == ']' || o == '{' && c == '}') && balanced opened rest
    | [] => false
  | _ :: rest => balanced opened rest

/-- The tokens of a source text, at the start of which a byte order mark is not looked at. -/
def ofText? (source : String) : Option (List Token) :=
  let cs := source.toList
  (scan? (if cs.head? == some '\ufeff' then cs.drop 1 else cs)).filter (balanced [])

end Token

end EntityMapping.Source
