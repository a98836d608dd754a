import EntityMapping.Text.CaseTable
import EntityMapping.Text.Letters

/-! Full case mappings: one character may become several, and a capital sigma is lowered to its final form at the end of a
word. ASCII letters are mapped without the tables. -/

namespace EntityMapping.Text

private def CaseRun.image? (n : Nat) (run : CaseRun) : Option Nat :=
  if run.first ≤ n ∧ n ≤ run.last ∧ (n - run.first) % run.step = 0 then some (Int.toNat (n + run.shift)) else none

private def mapCase (runs : List CaseRun) (sequences : List (Nat × List Nat)) (c : Char) : List Char :=
  match runs.findSome? (CaseRun.image? c.toNat) with
  | some n => [Char.ofNat n]
  | none => match sequences.lookup c.toNat with
    | some codes => codes.map Char.ofNat
    | none => [c]

def upperChar (c : Char) : List Char :=
  if c.toNat < 0x80 then [c.toUpper] else mapCase upperRuns upperSequences c

/-- The lowercase of a character on its own; a sigma gets the form it has inside a word. -/
def lowerChar (c : Char) : List Char :=
  if c.toNat < 0x80 then [c.toLower] else mapCase lowerRuns lowerSequences c

def upper (cs : List Char) : List Char := cs.flatMap upperChar

/-- Whether a cased character comes next, the case-ignorable ones being skipped. -/
private def casedNext (cs : List Char) : Bool :=
  match cs.dropWhile fun c => inRanges caseIgnorableRanges c.toNat with
  | [] => false
  | c :: _ => inRanges casedRanges c.toNat

/-- Lowers `rest`, `before` being what stands before it, read backwards. A capital sigma is final when a cased character
comes before it and none after it. -/
def lowerFrom (before : List Char) : List Char → List Char
  | [] => []
  | c :: rest =>
    (if c == 'Σ' then [if casedNext before && !casedNext rest then 'ς' else 'σ'] else lowerChar c)
      ++ lowerFrom (c :: before) rest

def lower (cs : List Char) : List Char := lowerFrom [] cs

/-- Equality of texts whose ASCII letters may differ in case. -/
def equalIgnoringCase (a b : String) : Bool := a.toList.map Char.toLower == b.toList.map Char.toLower

end EntityMapping.Text
