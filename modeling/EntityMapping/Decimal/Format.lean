/-! Binary floating-point formats with exact magnitudes. A finite magnitude is counted in units of the smallest positive
number of its format, so that it is a natural number and no rounding happens outside `nearest`. -/

namespace EntityMapping.Decimal

/-- A binary interchange format: significant bits, the hidden one included, and bits of the exponent. -/
structure Format where
  precision : Nat
  exponentBits : Nat

def binary64 : Format := ⟨53, 11⟩

def binary32 : Format := ⟨24, 8⟩

inductive Number where
  | nan
  | infinite (negative : Bool)
  | finite (negative : Bool) (magnitude : Nat)
deriving DecidableEq, Repr

namespace Format

/-- The unit of magnitudes is `2 ^ (-scale)`. -/
def scale (f : Format) : Nat := Nat.pow 2 (f.exponentBits - 1) + f.precision - 3

def infinityBits (f : Format) : Nat := (Nat.pow 2 f.exponentBits - 1) * Nat.pow 2 (f.precision - 1)

def signBit (f : Format) : Nat := Nat.pow 2 (f.exponentBits + f.precision - 1)

/-- The distance from a magnitude to the next larger one, as a power of two. -/
def gapExponent (f : Format) (magnitude : Nat) : Nat := magnitude.log2 + 1 - f.precision

def gap (f : Format) (magnitude : Nat) : Nat := Nat.pow 2 (f.gapExponent magnitude)

def decode (f : Format) (bits : Nat) : Number :=
  let fraction := bits % Nat.pow 2 (f.precision - 1)
  let exponent := bits / Nat.pow 2 (f.precision - 1) % Nat.pow 2 f.exponentBits
  let negative := bits / f.signBit % 2 == 1
  if exponent == Nat.pow 2 f.exponentBits - 1 then if fraction == 0 then .infinite negative else .nan
  else if exponent == 0 then .finite negative fraction
  else .finite negative ((Nat.pow 2 (f.precision - 1) + fraction) * Nat.pow 2 (exponent - 1))

/-- The bits of a number whose magnitude the format holds exactly; a magnitude beyond the largest one is infinite. -/
def encode (f : Format) : Number → Nat
  | .nan => f.infinityBits + Nat.pow 2 (f.precision - 2)
  | .infinite negative => f.infinityBits + if negative then f.signBit else 0
  | .finite negative magnitude =>
    min f.infinityBits (f.gapExponent magnitude * Nat.pow 2 (f.precision - 1) + magnitude / f.gap magnitude)
      + if negative then f.signBit else 0

/-- The magnitude nearest to a fraction of units. Of two equally near ones it is the one with an even significand. -/
def nearest (f : Format) (numerator denominator : Nat) : Nat :=
  let gap := f.gap (numerator / denominator)
  let step := denominator * gap
  let steps := numerator / step
  let remainder := numerator % step
  (if 2 * remainder > step || (2 * remainder == step && steps % 2 == 1) then steps + 1 else steps) * gap

end Format

/-- The remainder of a division that truncates toward zero: it has the sign of the dividend, and it is always exact. -/
def Number.remainder : Number → Number → Number
  | .finite negative a, .finite _ b => if b == 0 then .nan else .finite negative (a % b)
  | .finite negative a, .infinite _ => .finite negative a
  | _, _ => .nan

end EntityMapping.Decimal
