import EntityMapping.Text.Blank

/-! Cutting texts at separators and joining them again. -/

namespace EntityMapping.Text

/-- The pieces between the characters that `isCut` accepts: one more than there are such characters. -/
def splitWhere (isCut : Char → Bool) : List Char → List (List Char)
  | [] => [[]]
  | c :: cs =>
    if isCut c then [] :: splitWhere isCut cs
    else match splitWhere isCut cs with
      | [] => [[c]]
      | piece :: pieces => (c :: piece) :: pieces

/-- The text before the first character that `isCut` accepts and the text after it. -/
def cutAt? (isCut : Char → Bool) : List Char → Option (List Char × List Char)
  | [] => none
  | c :: cs => if isCut c then some ([], cs) else (cutAt? isCut cs).map fun (head, rest) => (c :: head, rest)

/-- The entries of a comma separated list, trimmed, without the empty ones. -/
def splitList (list : String) : List String :=
  (((splitWhere (· == ',') list.toList).map trimBoth).filter (!·.isEmpty)).map String.ofList

/-- A separator follows every piece that is not empty and not the last one. So an empty last piece leaves the separator
after the piece before it, while empty pieces elsewhere leave no trace. -/
def separated (separator : String) : List String → String
  | [] => ""
  | [piece] => piece
  | piece :: next :: pieces => (if piece.isEmpty then "" else piece ++ separator) ++ separated separator (next :: pieces)

/-- Appends pieces to a text that was `begun` bytes long before the piece that was written last. A separator goes before a piece
when the one before it made the text longer, so it is written before it is known whether the piece holds anything. -/
def appendFrom (separator : String) (begun : Nat) (out : String) : List String → String
  | [] => out
  | piece :: pieces =>
    let out := if out.utf8ByteSize > begun then out ++ separator else out
    appendFrom separator out.utf8ByteSize (out ++ piece) pieces

/-- Appends pieces to a text, with separators between them. -/
def appendSeparated (separator out : String) (pieces : List String) : String :=
  appendFrom separator out.utf8ByteSize out pieces

/-- The longest start of the text whose characters satisfy `p`, and the rest. -/
def takeWhile (p : Char → Bool) (cs : List Char) : List Char × List Char := (cs.takeWhile p, cs.dropWhile p)

/-- Texts of more than 497 characters are shown up to that length, less the blanks at its end, and three dots. -/
def shortened (s : String) : String :=
  let cs := s.toList
  String.ofList (trimEnd (cs.take 497)) ++ if cs.length > 497 then "..." else ""

end EntityMapping.Text
