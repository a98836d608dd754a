import EntityMapping.Text.LetterTable
import EntityMapping.Text.NameTable

/-! Letters and digits, over all of Unicode: a letter has the Alphabetic property, a number is a decimal, letter or other
number. The characters of names in source text are a class of their own. ASCII is decided without the tables. -/

namespace EntityMapping.Text

/-- Whether one of the closed ranges holds the code point. -/
def inRanges (ranges : List (Nat × Nat)) (n : Nat) : Bool := ranges.any fun (first, last) => first ≤ n && n ≤ last

def isLetter (c : Char) : Bool := if c.toNat < 0x80 then c.isAlpha else inRanges letterRanges c.toNat

def isNumber (c : Char) : Bool := if c.toNat < 0x80 then c.isDigit else inRanges numberRanges c.toNat

def isLetterOrNumber (c : Char) : Bool := isLetter c || isNumber c

/-- Whether a name in source text may start with the character. -/
def isNameStart (c : Char) : Bool :=
  if c.toNat < 0x80 then c.isAlpha || c == '_' else inRanges nameStartRanges c.toNat

/-- Whether a name in source text may go on with the character. -/
def isNamePart (c : Char) : Bool :=
  if c.toNat < 0x80 then c.isAlphanum || c == '_' else inRanges nameStartRanges c.toNat || inRanges nameMarkRanges c.toNat

end EntityMapping.Text
