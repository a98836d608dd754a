import EntityMapping.Text.Letters
import EntityMapping.Value.Conversion

/-! Tokens of template expressions and the scanner that finds them. Blanks separate tokens and are skipped. -/

namespace EntityMapping.Template

open Text

inductive Symbol where
  | equal
  | notEqual
  | lessEqual
  | greaterEqual
  | both
  | either
  | less
  | greater
  | bang
  | plus
  | minus
  | star
  | slash
  | percent
  | openParen
  | closeParen
  | question
  | colon
  | hash
  | point
deriving DecidableEq, Repr

namespace Symbol

def text : Symbol → String
  | equal => "=="
  | notEqual => "!="
  | lessEqual => "<="
  | greaterEqual => ">="
  | both => "&&"
  | either => "||"
  | less => "<"
  | greater => ">"
  | bang => "!"
  | plus => "+"
  | minus => "-"
  | star => "*"
  | slash => "/"
  | percent => "%"
  | openParen => "("
  | closeParen => ")"
  | question => "?"
  | colon => ":"
  | hash => "#"
  | point => "."

/-- The symbol at the start of a text and the rest. A symbol of two characters is preferred to its first character. -/
def read? : List Char → Option (Symbol × List Char)
  | '=' :: '=' :: rest => some (equal, rest)
  | '!' :: '=' :: rest => some (notEqual, rest)
  | '<' :: '=' :: rest => some (lessEqual, rest)
  | '>' :: '=' :: rest => some (greaterEqual, rest)
  | '&' :: '&' :: rest => some (both, rest)
  | '|' :: '|' :: rest => some (either, rest)
  | '<' :: rest => some (less, rest)
  | '>' :: rest => some (greater, rest)
  | '!' :: rest => some (bang, rest)
  | '+' :: rest => some (plus, rest)
  | '-' :: rest => some (minus, rest)
  | '*' :: rest => some (star, rest)
  | '/' :: rest => some (slash, rest)
  | '%' :: rest => some (percent, rest)
  | '(' :: rest => some (openParen, rest)
  | ')' :: rest => some (closeParen, rest)
  | '?' :: rest => some (question, rest)
  | ':' :: rest => some (colon, rest)
  | '#' :: rest => some (hash, rest)
  | '.' :: rest => some (point, rest)
  | _ => none

theorem read?_length {cs rest : List Char} {s : Symbol} (found : read? cs = some (s, rest)) : rest.length < cs.length := by
  unfold read? at found
  split at found <;> first
    | (obtain ⟨-, rfl⟩ := Prod.mk.inj (Option.some.inj found); simp only [List.length_cons]; omega)
    | simp at found

end Symbol

inductive Token where
  /-- A name or an operator spelled as a word. -/
  | word (s : String)
  | text (s : String)
  | integer (n : Int64)
  | decimal (x : Float)
  | symbol (s : Symbol)

/-- Why a text is not made of tokens. -/
inductive LexicalError where
  | unexpected (c : Char)
  | unterminated (rest : String)
  | invalidNumber (digits : String)

namespace Token

def detail : Token → String
  | word s => "Ident(" ++ quoted s ++ ")"
  | text s => "Str(" ++ quoted s ++ ")"
  | integer n => "Int(" ++ toString n.toInt ++ ")"
  | decimal x => "Float(" ++ Decimal.floatDetail x ++ ")"
  | symbol s => "Symbol(" ++ quoted s.text ++ ")"

def startsWord (c : Char) : Bool := isLetter c || c == '_' || c == '$'

def continuesWord (c : Char) : Bool := isLetterOrNumber c || c == '_' || c == '$'

/-- What a string holds and what follows it, the opening quote having been read. A quote written twice stands for one. -/
def textBody? (quote : Char) : List Char → Option (List Char × List Char)
  | [] => none
  | c :: cs =>
    if c != quote then (textBody? quote cs).map fun (body, rest) => (c :: body, rest)
    else match cs with
      | [] => some ([], [])
      | d :: rest =>
        if d == quote then (textBody? quote rest).map fun (body, rest) => (quote :: body, rest) else some ([], d :: rest)

/-- A number at the start of a text. A point belongs to it only when a digit follows. -/
def readNumber (cs : List Char) : Except LexicalError (Token × List Char) :=
  let (whole, rest) := takeWhile Char.isDigit cs
  let integer : Except LexicalError (Token × List Char) :=
    match (Decimal.readNat? whole).bind fun n => Scalar.int64? n with
    | some n => .ok (.integer n, rest)
    | none => .error (.invalidNumber (String.ofList whole))
  match rest with
  | '.' :: d :: after =>
    if d.isDigit then
      let (decimals, after) := takeWhile Char.isDigit (d :: after)
      let written := whole ++ '.' :: decimals
      match Decimal.readFloat? written with
      | some x => .ok (.decimal x, after)
      | none => .error (.invalidNumber (String.ofList written))
    else integer
  | _ => integer

/-- The token at the start of a text that does not start with a blank. -/
def readOne (c : Char) (rest : List Char) : Except LexicalError (Token × List Char) :=
  if startsWord c then
    let (name, after) := takeWhile continuesWord (c :: rest)
    .ok (.word (String.ofList name), after)
  else if c.isDigit then readNumber (c :: rest)
  else if c == '\'' || c == '"' then match textBody? c rest with
    | some (body, after) => .ok (.text (String.ofList body), after)
    | none => .error (.unterminated (String.ofList (c :: rest)))
  else match Symbol.read? (c :: rest) with
    | some (s, after) => .ok (.symbol s, after)
    | none => .error (.unexpected c)

theorem textBody?_length {quote : Char} {cs body rest : List Char} (found : textBody? quote cs = some (body, rest)) :
    rest.length ≤ cs.length := by
  fun_induction textBody? quote cs generalizing body with
  | case1 => simp at found
  | case2 c cs _ ih =>
    simp only [Option.map_eq_some_iff, Prod.exists, Prod.mk.injEq] at found
    obtain ⟨inner, after, h, -, rfl⟩ := found
    have := ih h
    simp only [List.length_cons]
    omega
  | case3 => obtain ⟨-, rfl⟩ := Prod.mk.inj (Option.some.inj found); simp
  | case4 c _ d cs _ ih =>
    simp only [Option.map_eq_some_iff, Prod.exists, Prod.mk.injEq] at found
    obtain ⟨inner, after, h, -, rfl⟩ := found
    have := ih h
    simp only [List.length_cons]
    omega
  | case5 => obtain ⟨-, rfl⟩ := Prod.mk.inj (Option.some.inj found); simp

private theorem dropWhile_length_le (p : Char → Bool) (cs : List Char) : (cs.dropWhile p).length ≤ cs.length :=
  (List.dropWhile_sublist (p := p) (l := cs)).length_le

private theorem readNumber_length {c : Char} {rest after : List Char} {t : Token} (digit : c.isDigit)
    (found : readNumber (c :: rest) = .ok (t, after)) : after.length ≤ rest.length := by
  have whole : ((c :: rest).dropWhile Char.isDigit).length ≤ rest.length := by
    rw [List.dropWhile_cons_of_pos digit]
    exact dropWhile_length_le _ _
  have integral : ∀ {n : Option Int64} {e : LexicalError}, (match n with
      | some n => Except.ok (Token.integer n, (c :: rest).dropWhile Char.isDigit)
      | none => .error e) = .ok (t, after) → after.length ≤ rest.length := by
    intro n e h
    cases n with
    | none => simp at h
    | some n => obtain ⟨-, rfl⟩ := Prod.mk.inj (Except.ok.inj h); exact whole
  simp only [readNumber, takeWhile] at found
  split at found
  · next d later shape =>
    split at found
    · split at found
      · obtain ⟨-, rfl⟩ := Prod.mk.inj (Except.ok.inj found)
        have shorter := dropWhile_length_le Char.isDigit (d :: later)
        rw [shape] at whole
        simp only [List.length_cons] at whole shorter
        omega
      · simp at found
    · exact integral found
  · exact integral found

theorem readOne_length {c : Char} {rest after : List Char} {t : Token} (found : readOne c rest = .ok (t, after)) :
    after.length ≤ rest.length := by
  unfold readOne at found
  split at found
  · next starts =>
    have continues : continuesWord c := by
      simp only [startsWord, continuesWord, isLetterOrNumber, Bool.or_eq_true] at starts ⊢
      rcases starts with (h | h) | h <;> simp [h]
    simp only [takeWhile, List.dropWhile_cons_of_pos continues] at found
    obtain ⟨-, rfl⟩ := Prod.mk.inj (Except.ok.inj found)
    exact dropWhile_length_le _ _
  · split at found
    · next digit => exact readNumber_length digit found
    · split at found
      · split at found
        · next body => obtain ⟨-, rfl⟩ := Prod.mk.inj (Except.ok.inj found); exact textBody?_length body
        · simp at found
      · split at found
        · next symbol =>
          obtain ⟨-, rfl⟩ := Prod.mk.inj (Except.ok.inj found)
          have := Symbol.read?_length symbol
          simp only [List.length_cons] at this
          omega
        · simp at found

private theorem afterToken_length {cs rest after : List Char} {c : Char} {t : Token} (start : trimStart cs = c :: rest)
    (found : readOne c rest = .ok (t, after)) : after.length < cs.length := by
  have shorter := readOne_length found
  have trimmed := dropWhile_length_le isBlank cs
  rw [← trimStart, start] at trimmed
  simp only [List.length_cons] at trimmed
  omega

/-- The tokens of a text. -/
def scan (cs : List Char) : Except LexicalError (List Token) :=
  match start : trimStart cs with
  | [] => .ok []
  | c :: rest => match found : readOne c rest with
    | .error e => .error e
    | .ok (t, after) =>
      have := afterToken_length start found
      (scan after).map (t :: ·)
termination_by cs.length

end Token

end EntityMapping.Template
