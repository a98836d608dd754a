import EntityMapping.Decimal.Format
import EntityMapping.Text.Pieces

/-! Reading decimal texts: integers with a sign, and the nearest binary number of a decimal fraction. -/

namespace EntityMapping.Decimal

open Text

def digitValue (c : Char) : Nat := c.toNat - '0'.toNat

/-- The number that a run of decimal digits writes. -/
def digitsValue (ds : List Char) : Nat := ds.foldl (fun n d => 10 * n + digitValue d) 0

def readNat? (cs : List Char) : Option Nat :=
  if cs.isEmpty || !cs.all Char.isDigit then none else some (digitsValue cs)

/-- A sign in front, if there is one, and what follows it. -/
def readSign : List Char → Bool × List Char
  | '-' :: cs => (true, cs)
  | '+' :: cs => (false, cs)
  | cs => (false, cs)

def readInt? (cs : List Char) : Option Int :=
  let (negative, rest) := readSign cs
  (readNat? rest).map fun n => if negative then -(n : Int) else n

/-- A decimal number as it is written: the digits without the point, and the power of ten of the last one. -/
structure Written where
  digits : Nat
  exponent : Int
deriving DecidableEq, Repr

/-- Digits with an optional point among, before or after them, then an optional exponent. One digit is needed. -/
def readWritten? (cs : List Char) : Option Written :=
  let (whole, rest) := takeWhile Char.isDigit cs
  let (decimals, rest) := match rest with
    | '.' :: rest => takeWhile Char.isDigit rest
    | rest => ([], rest)
  if whole.isEmpty && decimals.isEmpty then none
  else
    let digits := digitsValue (whole ++ decimals)
    match rest with
    | [] => some ⟨digits, -decimals.length⟩
    | c :: rest => if c == 'e' || c == 'E' then (readInt? rest).map fun e => ⟨digits, e - decimals.length⟩ else none

/-- The magnitude nearest to a written number. Numbers far beyond the range of the format are not worked out. -/
def Format.ofWritten (f : Format) (w : Written) : Nat :=
  let size := (Nat.toDigits 10 w.digits).length + w.exponent
  if w.digits == 0 || size < -(f.scale : Int) then 0
  else if size > f.scale then Nat.pow 2 (Nat.pow 2 f.exponentBits + f.precision)
  else f.nearest (w.digits * Nat.pow 10 w.exponent.toNat * Nat.pow 2 f.scale) (Nat.pow 10 (-w.exponent).toNat)

/-- A number with an optional sign: a decimal fraction, or a name of infinity or of not-a-number in any case. -/
def Format.read? (f : Format) (cs : List Char) : Option Number :=
  let (negative, rest) := readSign cs
  let name := rest.map Char.toLower
  if name == "nan".toList then some .nan
  else if name == "inf".toList || name == "infinity".toList then some (.infinite negative)
  else (readWritten? rest).map fun w => .finite negative (f.ofWritten w)

end EntityMapping.Decimal
