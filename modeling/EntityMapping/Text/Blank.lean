/-! Blank characters and what is cut off at the ends of a text. A character is blank when it has the White_Space
property; a text is blank when it has no other character. -/

namespace EntityMapping.Text

/-- The White_Space property: twenty-five code points. -/
def isBlank (c : Char) : Bool :=
  let n := c.toNat
  (0x09 ≤ n && n ≤ 0x0d) || n == 0x20 || n == 0x85 || n == 0xa0 || n == 0x1680 || (0x2000 ≤ n && n ≤ 0x200a)
    || n == 0x2028 || n == 0x2029 || n == 0x202f || n == 0x205f || n == 0x3000

def trimStart (cs : List Char) : List Char := cs.dropWhile isBlank

def trimEnd (cs : List Char) : List Char := (cs.reverse.dropWhile isBlank).reverse

def trimBoth (cs : List Char) : List Char := trimEnd (trimStart cs)

def trim (s : String) : String := String.ofList (trimBoth s.toList)

def allBlank (s : String) : Bool := s.toList.all isBlank

/-- An optional text, taken as missing when it is blank. It is kept untrimmed otherwise. -/
def nonBlank? (s : Option String) : Option String := s.filter fun text => !allBlank text

end EntityMapping.Text
