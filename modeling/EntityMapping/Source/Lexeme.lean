import EntityMapping.Text.Letters

/-! The forms of names, numbers, characters and strings in source text. A function here takes a text that starts with such a
form and gives what follows it, or nothing when the text does not start so. -/

namespace EntityMapping.Source.Lexeme

open Text

/-- The name at the start of a text. -/
def plainName? : List Char → Option (String × List Char)
  | [] => none
  | c :: cs =>
    if isNameStart c then some (String.ofList (c :: cs.takeWhile isNamePart), cs.dropWhile isNamePart) else none

/-- A name, or one that is marked as raw and so may be a keyword, except for those that stand for places and for nothing. -/
def name? : List Char → Option (String × List Char)
  | 'r' :: '#' :: rest => (plainName? rest).bind fun (name, after) =>
    if ["_", "super", "self", "Self", "crate"].contains name then none else some ("r#" ++ name, after)
  | cs => plainName? cs

/-- A literal may have a name as its suffix. -/
def afterSuffix (cs : List Char) : List Char := ((plainName? cs).map (·.2)).getD cs

/-- What the characters of a literal stand for. -/
inductive Alphabet where
  | characters
  | bytes
  /-- Characters other than the null character, which ends such a text. -/
  | nonNull
deriving DecidableEq, Repr

def Alphabet.admits : Alphabet → Char → Bool
  | characters, _ => true
  | bytes, c => c.toNat < 0x80
  | nonNull, c => c != '\x00'

def hexDigit? (c : Char) : Option Nat :=
  if c.isDigit then some (c.toNat - '0'.toNat)
  else if 'a' ≤ c && c ≤ 'f' then some (c.toNat - 'a'.toNat + 10)
  else if 'A' ≤ c && c ≤ 'F' then some (c.toNat - 'A'.toNat + 10)
  else none

/-- The character of a code point: up to six digits before a closing brace, with underscores between them and after them. -/
def codePoint? (value count : Nat) : List Char → Option (Char × List Char)
  | [] => none
  | c :: rest =>
    if c == '}' then if count > 0 && decide value.isValidChar then some (Char.ofNat value, rest) else none
    else if c == '_' then if count > 0 then codePoint? value count rest else none
    else match hexDigit? c with
      | some digit => if count < 6 then codePoint? (16 * value + digit) (count + 1) rest else none
      | none => none

/-- The character that an escape stands for, its backslash having been read. -/
def escape? (alphabet : Alphabet) : List Char → Option (Char × List Char)
  | 'n' :: rest => some ('\n', rest)
  | 'r' :: rest => some ('\r', rest)
  | 't' :: rest => some ('\t', rest)
  | '\\' :: rest => some ('\\', rest)
  | '\'' :: rest => some ('\'', rest)
  | '"' :: rest => some ('"', rest)
  | '0' :: rest => if alphabet.admits '\x00' then some ('\x00', rest) else none
  | 'x' :: a :: b :: rest => do
    let value := 16 * (← hexDigit? a) + (← hexDigit? b)
    let isByte := match alphabet with
      | .characters => decide (value < 0x80)
      | .bytes => true
      | .nonNull => value != 0
    if isByte then some (Char.ofNat value, rest) else none
  | 'u' :: '{' :: rest =>
    if alphabet == .bytes then none else (codePoint? 0 0 rest).filter fun (c, _) => alphabet.admits c
  | _ => none

/-- What follows the blanks after a backslash at the end of a line. -/
def continuation? : List Char → Option (List Char)
  | [] => none
  | '\r' :: '\n' :: rest => continuation? rest
  | c :: rest =>
    if c == '\r' then none
    else if c == ' ' || c == '\t' || c == '\n' then continuation? rest
    else some (c :: rest)

/-- What a backslash and the characters after it stand for: nothing at the end of a line. -/
def escaped? (alphabet : Alphabet) : List Char → Option (List Char × List Char)
  | '\n' :: rest => (continuation? rest).map fun rest => ([], rest)
  | '\r' :: '\n' :: rest => (continuation? rest).map fun rest => ([], rest)
  | cs => (escape? alphabet cs).map fun (c, rest) => ([c], rest)

/-- The text of a string with escapes, and what follows its closing quote. A carriage return may only stand before a line
feed, and is left out. -/
def stringBody? (alphabet : Alphabet) (cs : List Char) : Option (List Char × List Char) :=
  match cs with
  | [] => none
  | '"' :: rest => some ([], rest)
  | '\r' :: '\n' :: rest => (stringBody? alphabet rest).map fun (body, rest) => ('\n' :: body, rest)
  | '\r' :: _ => none
  | '\\' :: rest => match escaped? alphabet rest with
    | none => none
    | some (value, after) =>
      if after.length ≤ rest.length then (stringBody? alphabet after).map fun (body, rest) => (value ++ body, rest) else none
  | c :: rest =>
    if alphabet.admits c then (stringBody? alphabet rest).map fun (body, rest) => (c :: body, rest) else none
termination_by cs.length

/-- The text of a string without escapes, which ends at a quote with `hashes` marks after it. -/
def rawBody? (alphabet : Alphabet) (hashes : Nat) : List Char → Option (List Char × List Char)
  | [] => none
  | '\r' :: '\n' :: rest => (rawBody? alphabet hashes rest).map fun (body, rest) => ('\r' :: '\n' :: body, rest)
  | c :: rest =>
    if c == '"' && rest.take hashes == List.replicate hashes '#' then some ([], rest.drop hashes)
    else if c == '\r' || !alphabet.admits c then none
    else (rawBody? alphabet hashes rest).map fun (body, rest) => (c :: body, rest)

/-- A string without escapes, from the marks before its quote on, of which there are 255 at most. -/
def rawString? (alphabet : Alphabet) (cs : List Char) : Option (List Char × List Char) :=
  let hashes := (cs.takeWhile (· == '#')).length
  match cs.dropWhile (· == '#') with
  | '"' :: rest => if hashes ≤ 255 then rawBody? alphabet hashes rest else none
  | _ => none

/-- What follows a character between single quotes, the opening one having been read. -/
def character? (alphabet : Alphabet) : List Char → Option (List Char)
  | '\\' :: rest => match escape? alphabet rest with
    | some (_, '\'' :: rest) => some rest
    | _ => none
  | c :: '\'' :: rest => if alphabet.admits c then some rest else none
  | _ => none

private def isDigitOrLine (c : Char) : Bool := c.isDigit || c == '_'

/-- What follows an exponent, its letter having been read: a sign that may be missing, and digits. -/
def exponent? (cs : List Char) : Option (List Char) :=
  let afterLines := cs.dropWhile (· == '_')
  let afterSign := match afterLines with
    | '+' :: rest => rest.dropWhile (· == '_')
    | '-' :: rest => rest.dropWhile (· == '_')
    | rest => rest
  if afterSign.head?.any Char.isDigit then some (afterSign.dropWhile isDigitOrLine) else none

/-- What follows the digits of a decimal number, which has a point or an exponent. A second point or a name right after the
point shows that it is not one of a number. What looks like an exponent after a point but has no digits is a suffix. -/
def decimal? (cs : List Char) : Option (List Char) :=
  match cs.dropWhile isDigitOrLine with
  | '.' :: rest =>
    if rest.head?.any fun c => c == '.' || isNameStart c then none
    else match rest.dropWhile isDigitOrLine with
      | [] => some []
      | c :: after => if c == 'e' || c == 'E' then (exponent? after).getD (c :: after) else some (c :: after)
  | c :: rest => if c == 'e' || c == 'E' then exponent? rest else none
  | [] => none

/-- The base that an integer is written in, and its digits. -/
def base (cs : List Char) : Nat × List Char :=
  match cs with
  | '0' :: 'x' :: rest => (16, rest)
  | '0' :: 'o' :: rest => (8, rest)
  | '0' :: 'b' :: rest => (2, rest)
  | _ => (10, cs)

/-- What follows the digits of an integer, of which there is one at least, and none too large for the base. -/
def integer? (cs : List Char) : Option (List Char) :=
  let (base, digits) := base cs
  let isOf := fun c => isDigitOrLine c || base == 16 && (hexDigit? c).isSome
  let own := digits.takeWhile isOf
  if own.all (· == '_') || own.any (fun c => (hexDigit? c).any (base ≤ ·)) then none else some (digits.dropWhile isOf)

/-- What follows a number and its suffix, after which no name may go on. -/
def wholeNumber? (after : Option (List Char)) : Option (List Char) :=
  (after.map afterSuffix).filter fun rest => !rest.head?.any isNamePart

end Lexeme

/-- What a literal is. -/
inductive LiteralKind where
  | text (value : String)
  | integer
  /-- A number with a point or an exponent. -/
  | decimal
  | other
deriving DecidableEq, Repr

namespace Lexeme

private def asText (found : List Char × List Char) : LiteralKind × List Char := (.text (String.ofList found.1), found.2)

private def asOther (found : List Char × List Char) : LiteralKind × List Char := (.other, found.2)

/-- A string or a character, also one of bytes or one for texts that end at a null character. -/
def quoted? (cs : List Char) : Option (LiteralKind × List Char) :=
  match cs with
  | '"' :: rest => (stringBody? .characters rest).map asText
  | 'r' :: rest => (rawString? .characters rest).map asText
  | 'b' :: '"' :: rest => (stringBody? .bytes rest).map asOther
  | 'b' :: 'r' :: rest => (rawString? .bytes rest).map asOther
  | 'c' :: '"' :: rest => (stringBody? .nonNull rest).map asOther
  | 'c' :: 'r' :: rest => (rawString? .nonNull rest).map asOther
  | 'b' :: '\'' :: rest => (character? .bytes rest).map fun rest => (.other, rest)
  | '\'' :: rest => (character? .characters rest).map fun rest => (.other, rest)
  | _ => none

def number? (cs : List Char) : Option (LiteralKind × List Char) :=
  if !cs.head?.any Char.isDigit then none
  else match wholeNumber? (decimal? cs) with
    | some rest => some (.decimal, rest)
    | none => (wholeNumber? (integer? cs)).map fun rest => (.integer, rest)

/-- The literal at the start of a text, with its suffix. -/
def literal? (cs : List Char) : Option (LiteralKind × List Char) :=
  match quoted? cs with
  | some (kind, rest) => some (kind, afterSuffix rest)
  | none => number? cs

/-- A position in a tuple: an integer of 32 bits without a suffix. -/
def position? (written : String) : Option Nat :=
  let (base, digits) := base written.toList
  let isOf := fun c => isDigitOrLine c || base == 16 && (hexDigit? c).isSome
  let value := ((digits.filter (· != '_')).filterMap hexDigit?).foldl (fun n digit => base * n + digit) 0
  if digits.all isOf && digits.any (· != '_') && value < 4294967296 then some value else none

end Lexeme

end EntityMapping.Source
