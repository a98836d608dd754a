import EntityMapping.Source.Token

/-! Reading source text token by token. A reader takes tokens from the front of a list and leaves the rest, or fails. Beside
its value it gives the source of what it has read: that of the tokens taken, unless it says so in other words. -/

namespace EntityMapping.Source

structure Read (α : Type) where
  value : α
  source : String
  rest : List Token

def Reader (α : Type) : Type := List Token → Option (Read α)

instance : Monad Reader where
  pure a := fun tokens => some ⟨a, "", tokens⟩
  bind r f := fun tokens => (r tokens).bind fun first =>
    (f first.value first.rest).map fun second => ⟨second.value, first.source ++ second.source, second.rest⟩

namespace Token

/-- Whether the characters of a text come next, as symbols without blanks between them. -/
def startSymbols : List Char → List Token → Bool
  | [], _ => true
  | [c], symbol d _ :: _ => c == d
  | c :: cs, symbol d true :: rest => c == d && startSymbols cs rest
  | _, _ => false

end Token

namespace Reader

variable {α σ : Type}

def atSymbols (s : String) (tokens : List Token) : Bool := Token.startSymbols s.toList tokens

def atWord (s : String) : List Token → Bool
  | .word t :: _ => t == s
  | _ => false

def atAnyWord : List Token → Bool
  | .word _ :: _ => true
  | _ => false

/-- The words that are not names. -/
def keywords : List String := [
  "_", "abstract", "as", "async", "await", "become", "box", "break", "const", "continue", "crate", "do", "dyn", "else",
  "enum", "extern", "false", "final", "fn", "for", "if", "impl", "in", "let", "loop", "macro", "match", "mod", "move",
  "mut", "override", "priv", "pub", "ref", "return", "Self", "self", "static", "struct", "super", "trait", "true", "try",
  "type", "typeof", "unsafe", "unsized", "use", "virtual", "where", "while", "yield"]

def atName : List Token → Bool
  | .word s :: _ => !keywords.contains s
  | _ => false

def atLifetime : List Token → Bool
  | .lifetime _ :: _ => true
  | _ => false

def atOpening (c : Char) : List Token → Bool
  | .opening d :: _ => d == c
  | _ => false

/-- The end of what the innermost brackets hold. -/
def atEnd : List Token → Bool
  | [] => true
  | .closing _ :: _ => true
  | _ => false

def atText : List Token → Bool
  | .literal (.text _) _ :: _ => true
  | _ => false

def atNumber : List Token → Bool
  | .literal .integer _ :: _ => true
  | .literal .decimal _ :: _ => true
  | _ => false

/-- A literal, one of the truth values, or a number after a minus sign. -/
def atLiteral : List Token → Bool
  | .literal _ _ :: _ => true
  | .word s :: _ => s == "true" || s == "false"
  | .symbol '-' _ :: rest => atNumber rest
  | _ => false

/-- What follows the bracket that closes the innermost of those that are open, of which there are `depth` more. -/
def afterClosing (depth : Nat) : List Token → List Token
  | [] => []
  | .opening _ :: rest => afterClosing (depth + 1) rest
  | .closing _ :: rest => match depth with
    | 0 => rest
    | depth + 1 => afterClosing depth rest
  | _ :: rest => afterClosing depth rest

/-- What follows the next token, or the brackets that it opens. -/
def later : List Token → List Token
  | [] => []
  | .opening _ :: rest => afterClosing 0 rest
  | .closing c :: rest => .closing c :: rest
  | _ :: rest => rest

/-- Whether a test holds of what follows the next token, or the brackets that it opens. -/
def thenAt (test : List Token → Bool) (tokens : List Token) : Bool := test (later tokens)

def atColon (tokens : List Token) : Bool := atSymbols ":" tokens && !atSymbols "::" tokens

def atDot (tokens : List Token) : Bool := atSymbols "." tokens && !atSymbols ".." tokens

def fail : Reader α := fun _ => none

/-- What a look at the tokens shows, none of which is taken. -/
def next (look : List Token → α) : Reader α := fun tokens => some ⟨look tokens, "", tokens⟩

def one : Reader Token
  | [] => none
  | t :: rest => some ⟨t, t.source, rest⟩

def taking (test : List Token → Bool) : Reader Token := do
  if ← next test then one else fail

def symbols (s : String) : Reader Unit := fun tokens =>
  if atSymbols s tokens then some ⟨(), s, tokens.drop s.length⟩ else none

def word (s : String) : Reader Unit := do let _ ← taking (atWord s)

def name : Reader String := do pure (← taking atName).source

def anyWord : Reader String := do pure (← taking atAnyWord).source

def lifetime : Reader Unit := do let _ ← taking atLifetime

/-- Reads where a test announces it, and tells whether it does. -/
def whenAt (test : List Token → Bool) (r : Reader Unit) : Reader Bool := do
  if ← next test then do r; pure true else pure false

/-- Symbols that may be missing. -/
def allowSymbols (s : String) : Reader Bool := whenAt (atSymbols s) (symbols s)

/-- A word that may be missing. -/
def allowWord (s : String) : Reader Bool := whenAt (atWord s) (word s)

def allowLifetime : Reader Bool := whenAt atLifetime lifetime

def literalToken : Reader Unit := do
  if ← next atLiteral then
    let _ ← allowSymbols "-"
    let _ ← one
  else fail

/-- Adds to the source without taking anything. -/
def write (s : String) : Reader Unit := fun tokens => some ⟨(), s, tokens⟩

/-- The value together with the source, of which nothing is kept. -/
def captured (r : Reader α) : Reader (α × String) := fun tokens =>
  (r tokens).map fun found => ⟨(found.value, found.source), "", found.rest⟩

/-- Reads without a source. -/
def unwritten (r : Reader α) : Reader α := do pure (← captured r).1

/-- The source of the tokens before a rest. -/
def sourceBefore (rest tokens : List Token) : String :=
  String.join ((tokens.take (tokens.length - rest.length)).map Token.source)

/-- Keeps the tokens as they stand if the value of a reader asks for it, whatever the reader says. -/
def verbatimIf (asks : α → Bool) (r : Reader α) : Reader α := fun tokens =>
  (r tokens).map fun found => if asks found.value then { found with source := sourceBefore found.rest tokens } else found

/-- Keeps the tokens as they stand. -/
def verbatim (r : Reader α) : Reader α := verbatimIf (fun _ => true) r

/-- Reads if that is possible, and takes nothing else. -/
def attempt (r : Reader α) : Reader (Option α) := fun tokens =>
  match r tokens with
  | none => some ⟨none, "", tokens⟩
  | some found => some ⟨some found.value, found.source, found.rest⟩

/-- Takes steps as long as there are more. A step that takes no token is the last one. -/
def iterate (step : σ → Reader (Option σ)) (state : σ) (tokens : List Token) : Option (Read σ) :=
  match step state tokens with
  | none => none
  | some ⟨none, source, rest⟩ => some ⟨state, source, rest⟩
  | some ⟨some state, source, rest⟩ =>
    if rest.length < tokens.length then
      (iterate step state rest).map fun found => { found with source := source ++ found.source }
    else some ⟨state, source, rest⟩
termination_by tokens.length

/-- Reads as long as there are more. -/
def many (r : Reader (Option α)) : Reader (List α) :=
  iterate (fun values => do pure ((← r).map fun a => values ++ [a])) []

/-- Reads again as long as the answer is positive. -/
def repeated (r : Reader Bool) : Reader Unit :=
  iterate (fun _ => do pure (if ← r then some () else none)) ()

/-- Reads as long as a test announces it. -/
def whileAt (test : List Token → Bool) (r : Reader Unit) : Reader Unit := repeated (whenAt test r)

/-- Reads until the brackets close. -/
def untilEnd (r : Reader Unit) : Reader Unit := whileAt (fun tokens => !atEnd tokens) r

/-- The parts of a list up to its end. Each is followed by the separator, which may be missing after the last one. -/
def separated (stop : List Token → Bool) (separator : String) (r : Reader Unit) : Reader Unit := repeated do
  if ← next stop then pure false
  else
    r
    if ← next stop then pure false
    else do
      symbols separator
      pure true

/-- As many parts as there are separators between them, or one more, up to the end of the list. -/
def joined (stop : List Token → Bool) (separator : String) (r : Reader Unit) : Reader Unit := repeated do
  if ← next stop then pure false
  else
    r
    allowSymbols separator

/-- What stands between brackets, which must be read as a whole. -/
def inside (c : Char) (r : Reader α) : Reader α := do
  let _ ← taking (atOpening c)
  let a ← r
  let _ ← taking fun
    | .closing _ :: _ => true
    | _ => false
  pure a

/-- A list between brackets with commas. -/
def list (c : Char) (r : Reader α) : Reader (List α) := inside c <| many do
  if ← next atEnd then pure none
  else
    let a ← r
    if ← next atEnd then pure (some a)
    else do
      symbols ","
      pure (some a)

/-- Brackets and everything in them, which is given. -/
def group : Reader (List Token) := fun tokens => match tokens with
  | .opening _ :: rest =>
    let after := afterClosing 0 rest
    some ⟨rest.take (rest.length - after.length - 1), sourceBefore after tokens, after⟩
  | _ => none

/-- A part of a list with what its source depends on, and whether a comma follows it. -/
structure Part (α : Type) where
  value : α
  source : String
  separated : Bool

/-- The parts of a list up to its end, with commas between them. Nothing is written. -/
def parts (stop : List Token → Bool) (r : Reader α) : Reader (List (Part α)) := many do
  if ← next stop then pure none
  else
    let (value, source) ← captured r
    if ← next stop then pure (some ⟨value, source, false⟩)
    else do
      unwritten (symbols ",")
      pure (some ⟨value, source, true⟩)

/-- Writes parts, of which some go first. A comma stands between any two of them. -/
def writeParts (goesFirst : α → Bool) (parts : List (Part α)) : Reader Unit :=
  let sourceOf := fun (parts : List (Part α)) =>
    String.join (parts.map fun p => if p.separated then p.source ++ "," else p.source)
  let first := parts.filter (goesFirst ·.value)
  let others := parts.filter fun p => !goesFirst p.value
  let comma := if !others.isEmpty && first.getLast?.any (!·.separated) then "," else ""
  write (sourceOf first ++ comma ++ sourceOf others)

/-- The result of a reader that takes all tokens. -/
def run? (r : Reader α) (tokens : List Token) : Option (Read α) := (r tokens).filter (·.rest.isEmpty)

end Reader

end EntityMapping.Source
