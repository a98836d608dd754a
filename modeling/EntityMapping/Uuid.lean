import EntityMapping.Text.Pieces

/-! Universally unique identifiers: 128 bits, written as five groups of hexadecimal digits. -/

namespace EntityMapping

structure Uuid where
  bits : BitVec 128
deriving DecidableEq, Repr

namespace Uuid

def nil : Uuid := ⟨0⟩

private def hexDigits (n : Nat) : List Char := (List.range 32).map fun i => Nat.digitChar (n / Nat.pow 16 (31 - i) % 16)

def hexValue? (c : Char) : Option Nat :=
  if '0' ≤ c && c ≤ '9' then some (c.toNat - '0'.toNat)
  else if 'a' ≤ c && c ≤ 'f' then some (c.toNat - 'a'.toNat + 10)
  else if 'A' ≤ c && c ≤ 'F' then some (c.toNat - 'A'.toNat + 10)
  else none

/-- Groups of 8, 4, 4, 4 and 12 lower case digits with hyphens between them. -/
def text (u : Uuid) : List Char :=
  let ds := hexDigits u.bits.toNat
  ds.take 8 ++ '-' :: (ds.drop 8).take 4 ++ '-' :: (ds.drop 12).take 4 ++ '-' :: (ds.drop 16).take 4 ++ '-' :: ds.drop 20

def readDigits? (ds : List Char) : Option Uuid :=
  if ds.length == 32 then (ds.mapM hexValue?).map fun vs => ⟨BitVec.ofNat 128 (vs.foldl (fun n v => 16 * n + v) 0)⟩ else none

/-- Reads `text`, with digits of any case. -/
def readHyphenated? (cs : List Char) : Option Uuid :=
  if [8, 13, 18, 23].all fun i => cs[i]? == some '-' then
    readDigits? (cs.take 8 ++ (cs.drop 9).take 4 ++ (cs.drop 14).take 4 ++ (cs.drop 19).take 4 ++ cs.drop 24)
  else none

/-- The hyphenated form may stand alone, between braces or after `urn:uuid:` in any case; the digits may also come without
hyphens. -/
def read? (cs : List Char) : Option Uuid :=
  match cs.length with
  | 32 => readDigits? cs
  | 36 => readHyphenated? cs
  | 38 => if cs.head? == some '{' && cs.getLast? == some '}' then readHyphenated? ((cs.drop 1).take 36) else none
  | 45 => if (cs.take 9).map Char.toLower == "urn:uuid:".toList then readHyphenated? (cs.drop 9) else none
  | _ => none

end Uuid

end EntityMapping
