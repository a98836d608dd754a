import EntityMapping.Calendar.Date

/-! Times of day down to the nanosecond, and timestamps: a date with a time and without a time zone. -/

namespace EntityMapping.Calendar

open Decimal Text

structure Time where
  hour : Nat
  minute : Nat
  second : Nat
  nanosecond : Nat
  hour_lt : hour < 24
  minute_lt : minute < 60
  second_lt : second < 60
  nanosecond_lt : nanosecond < 1000000000
deriving DecidableEq, Repr

namespace Time

def of? (hour minute second nanosecond : Nat) : Option Time :=
  if h : hour < 24 ∧ minute < 60 ∧ second < 60 ∧ nanosecond < 1000000000 then
    some ⟨hour, minute, second, nanosecond, h.1, h.2.1, h.2.2.1, h.2.2.2⟩
  else none

def midnight : Time := ⟨0, 0, 0, 0, by decide, by decide, by decide, by decide⟩

instance : Ord Time where
  compare a b := (compare a.hour b.hour).then ((compare a.minute b.minute).then
    ((compare a.second b.second).then (compare a.nanosecond b.nanosecond)))

/-- Hours, minutes and whole seconds, two digits each. -/
def clock (t : Time) : List Char := padded 2 t.hour ++ ':' :: padded 2 t.minute ++ ':' :: padded 2 t.second

/-- The digits after the point of a fraction of a second, without zeros at the end but at least one. -/
def fraction (t : Time) : List Char :=
  match ((padded 9 t.nanosecond).reverse.dropWhile (· == '0')).reverse with
  | [] => ['0']
  | ds => ds

/-- The time in a message: the hour is not padded and the fraction is always there. -/
def detail (t : Time) : List Char :=
  Nat.toDigits 10 t.hour ++ ':' :: padded 2 t.minute ++ ':' :: padded 2 t.second ++ '.' :: t.fraction

/-- The nanoseconds written by the digits after the point; the tenth digit and all after it do not count. -/
def readFraction? (ds : List Char) : Option Nat :=
  if ds.isEmpty || !ds.all Char.isDigit then none
  else some (digitsValue ((ds ++ List.replicate 9 '0').take 9))

/-- Reads `clock`, with or without a point and a fraction of at least one digit after it. -/
def read? (cs : List Char) : Option Time := do
  let (hour, cs) ← takeNumber? 2 cs
  let (minute, cs) ← takeNumber? 2 (← takeChar? ':' cs)
  let (second, cs) ← takeNumber? 2 (← takeChar? ':' cs)
  match cs with
  | [] => of? hour minute second 0
  | _ => of? hour minute second (← readFraction? (← takeChar? '.' cs))

end Time

structure Timestamp where
  date : Date
  time : Time
deriving DecidableEq, Repr

namespace Timestamp

def midnight (d : Date) : Timestamp := ⟨d, Time.midnight⟩

instance : Ord Timestamp where
  compare a b := (compare a.date b.date).then (compare a.time b.time)

/-- Date and clock with a blank between them; the fraction of the second is left out. -/
def text (t : Timestamp) : List Char := t.date.text ++ ' ' :: t.time.clock

def detail (t : Timestamp) : List Char := t.date.text ++ ' ' :: t.time.detail

end Timestamp

end EntityMapping.Calendar
