import EntityMapping.Decimal.Format

/-! The shortest decimal text that reads back as a given binary number. Among the decimal grids `10 ^ t` the coarsest one with
a point in the interval of reals that round to the number wins, and of two such points the one nearer to the number. -/

namespace EntityMapping.Decimal

/-- The point of the grid `10 ^ t` to write for a magnitude, if one rounds to it: the neighbour below or the one above,
whichever is nearer, the one above in a tie. Magnitude and ends of the interval are counted in half units; the ends belong to
the interval when the significand is even. -/
def gridPoint? (f : Format) (magnitude : Nat) (t : Int) : Option Nat :=
  let refine := Nat.pow 10 (-t).toNat
  let step := Nat.pow 10 t.toNat * Nat.pow 2 (f.scale + 1)
  let value := 2 * magnitude * refine
  let low := (2 * magnitude - f.gap (magnitude - 1)) * refine
  let high := (2 * magnitude + f.gap magnitude) * refine
  let closed := magnitude / f.gap magnitude % 2 == 0
  let below := value / step
  let isBelow := if closed then low ≤ below * step else low < below * step
  let isAbove := if closed then (below + 1) * step ≤ high else (below + 1) * step < high
  if isBelow && (!isAbove || 2 * (value % step) < step) then some below
  else if isAbove then some (below + 1)
  else none

/-- Grids from one coarser than the largest number down to the one on which every number lies. -/
def gridExponents (f : Format) : List Int :=
  let coarsest : Int := (Nat.pow 2 (f.exponentBits - 1) / 3 : Nat)
  (List.range (Nat.pow 2 (f.exponentBits - 1) / 3 + f.scale + 1)).map fun (i : Nat) => coarsest - (i : Int)

/-- The digits and the power of ten of the shortest text of a positive magnitude. -/
def shortest (f : Format) (magnitude : Nat) : Nat × Int :=
  ((gridExponents f).findSome? fun t => (gridPoint? f magnitude t).map (·, t)).getD (0, 0)

private def digitsOf (n : Nat) : List Char := Nat.toDigits 10 n

/-- The number `digits * 10 ^ exponent` written out, with a point only where there are decimals. -/
def positional (digits : Nat) (exponent : Int) : List Char :=
  let ds := digitsOf digits
  let places := (-exponent).toNat
  if 0 ≤ exponent then ds ++ List.replicate exponent.toNat '0'
  else if places < ds.length then ds.take (ds.length - places) ++ '.' :: ds.drop (ds.length - places)
  else '0' :: '.' :: List.replicate (places - ds.length) '0' ++ ds

/-- One digit before the point, the others after it, and the exponent of the first digit. -/
def scientific (digits : Nat) (exponent : Int) : List Char :=
  match digitsOf digits with
  | [] => []
  | first :: others =>
    first :: (if others.isEmpty then [] else '.' :: others) ++ 'e' :: (toString (exponent + others.length)).toList

private def signed (negative : Bool) (text : List Char) : String := String.ofList (if negative then '-' :: text else text)

/-- The text of a number as data: never an exponent, and no point in an integer. -/
def plainText (f : Format) : Number → String
  | .nan => "NaN"
  | .infinite negative => signed negative "inf".toList
  | .finite negative 0 => signed negative ['0']
  | .finite negative magnitude =>
    let (digits, exponent) := shortest f magnitude
    signed negative (positional digits exponent)

/-- The text of a number in a message: there is always a point or an exponent, and the exponent is written for numbers below
`10 ^ (-4)` and from `10 ^ 16` on. -/
def detailedText (f : Format) : Number → String
  | .nan => "NaN"
  | .infinite negative => signed negative "inf".toList
  | .finite negative 0 => signed negative "0.0".toList
  | .finite negative magnitude =>
    let (digits, exponent) := shortest f magnitude
    let first := exponent + (digitsOf digits).length - 1
    if first < -4 ∨ 16 ≤ first then signed negative (scientific digits exponent)
    else signed negative (positional digits exponent ++ if 0 ≤ exponent then ['.', '0'] else [])

end EntityMapping.Decimal
