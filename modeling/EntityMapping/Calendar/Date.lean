import EntityMapping.Decimal.Reading

/-! Dates of the proleptic Gregorian calendar, from the year -9999 to the year 9999, and their texts. -/

namespace EntityMapping.Calendar

open Decimal Text

def isLeap (year : Int) : Bool := year % 4 == 0 && (year % 100 != 0 || year % 400 == 0)

def daysIn (year : Int) (month : Nat) : Nat :=
  if month == 2 then if isLeap year then 29 else 28
  else if month == 4 || month == 6 || month == 9 || month == 11 then 30
  else 31

structure Date where
  year : Int
  month : Nat
  day : Nat
  year_bounds : -9999 ≤ year ∧ year ≤ 9999
  month_bounds : 1 ≤ month ∧ month ≤ 12
  day_bounds : 1 ≤ day ∧ day ≤ daysIn year month
deriving DecidableEq, Repr

namespace Date

def of? (year : Int) (month day : Nat) : Option Date :=
  if h : (-9999 ≤ year ∧ year ≤ 9999) ∧ (1 ≤ month ∧ month ≤ 12) ∧ (1 ≤ day ∧ day ≤ daysIn year month) then
    some ⟨year, month, day, h.1, h.2.1, h.2.2⟩
  else none

def epoch : Date := ⟨1970, 1, 1, by decide, by decide, by decide⟩

instance : Ord Date where
  compare a b := (compare a.year b.year).then ((compare a.month b.month).then (compare a.day b.day))

end Date

/-- A number in decimal, with zeros in front up to `width` digits. -/
def padded (width n : Nat) : List Char :=
  let ds := Nat.toDigits 10 n
  List.replicate (width - ds.length) '0' ++ ds

/-- The number written by exactly `width` digits at the start of a text, and the rest of the text. -/
def takeNumber? (width : Nat) (cs : List Char) : Option (Nat × List Char) :=
  let ds := cs.take width
  if ds.length == width && ds.all Char.isDigit then some (digitsValue ds, cs.drop width) else none

def takeChar? (c : Char) : List Char → Option (List Char)
  | d :: cs => if d == c then some cs else none
  | [] => none

/-- A year of four digits, `-` before a negative one, then month and day of two digits. -/
def Date.text (d : Date) : List Char :=
  (if d.year < 0 then ['-'] else []) ++ padded 4 d.year.natAbs ++ '-' :: padded 2 d.month ++ '-' :: padded 2 d.day

/-- Reads `Date.text`; a `+` may stand before the year too. Nothing may follow. -/
def Date.read? (cs : List Char) : Option Date := do
  let (negative, cs) := readSign cs
  let (year, cs) ← takeNumber? 4 cs
  let (month, cs) ← takeNumber? 2 (← takeChar? '-' cs)
  let (day, cs) ← takeNumber? 2 (← takeChar? '-' cs)
  if cs.isEmpty then Date.of? (if negative then -(year : Int) else year) month day else none

end EntityMapping.Calendar
