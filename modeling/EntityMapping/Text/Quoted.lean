import EntityMapping.Text.PrintableTable
import EntityMapping.Text.Letters

/-! Texts between double quotes, as error messages show them. The quote, the backslash and four controls have an escape of
two characters; a character that would not show as itself is written by its code point. -/

namespace EntityMapping.Text

private def showsAsItself (n : Nat) : Bool :=
  if n < 0x80 then 0x20 ≤ n && n < 0x7f else !inRanges hiddenRanges n && !inRanges extenderRanges n

def quotedChar (c : Char) : List Char :=
  match c with
  | '"' => ['\\', '"']
  | '\\' => ['\\', '\\']
  | '\n' => ['\\', 'n']
  | '\r' => ['\\', 'r']
  | '\t' => ['\\', 't']
  | '\x00' => ['\\', '0']
  | c => if showsAsItself c.toNat then [c] else ['\\', 'u', '{'] ++ Nat.toDigits 16 c.toNat ++ ['}']

def quoted (s : String) : String := String.ofList ('"' :: s.toList.flatMap quotedChar ++ ['"'])

end EntityMapping.Text
