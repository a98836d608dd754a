import EntityMapping.Source.Grammar.Declaration
import EntityMapping.Source.Grammar.Expression

/-! The grammar of statements: bindings, declarations, macros and expressions. -/

namespace EntityMapping.Source.Reader

variable (g : Grammar)

/-- Whether a source ends with a closing brace, after which `else` would be read as a part of it. -/
def endsWithBrace (source : String) : Bool := source.toList.getLast? == some '}'

/-- A binding of names, with a block for what does not match. -/
def binding : Reader Unit := do
  word "let"
  g.pattern false
  let _ ← whenAt (atSymbols ":") do
    symbols ":"
    g.type true
  if ← allowSymbols "=" then
    let (_, source) ← captured (g.expression true)
    write source
    let _ ← whenAt (fun ts => !endsWithBrace source && atWord "else" ts) do
      word "else"
      g.block
  symbols ";"

/-- The path of a macro and what follows it, the attributes having been read. -/
def afterMacroPath? (tokens : List Token) : Option (List Token) :=
  match modulePath tokens with
  | some ⟨_, _, rest⟩ => if atSymbols "!" rest then some (rest.drop 1) else none
  | none => none

/-- A macro that makes a declaration. -/
def atNamedMacro (tokens : List Token) : Bool :=
  (afterMacroPath? tokens).any fun rest => atName rest || atWord "try" rest

/-- A macro that is a statement of its own: one with braces, unless an expression goes on after them. -/
def atBraceMacro (tokens : List Token) : Bool :=
  (afterMacroPath? tokens).any fun rest =>
    !atName rest && !atWord "try" rest && atOpening '{' rest && !thenAt (fun ts => atDot ts || atSymbols "?" ts) rest

/-- A place for a value, and not a function that lives as long. -/
def atStaticItem (tokens : List Token) : Bool :=
  atWord "static" tokens && thenAt (fun ts => atWord "mut" ts || atName ts) tokens

/-- A constant or a constant function, and not a block or a function without a name. -/
def atConstantItem (tokens : List Token) : Bool :=
  let isFunction := fun ts => ["unsafe", "extern", "fn"].any (atWord · ts)
  let isExpression := fun ts => atOpening '{' ts || atWord "static" ts || atWord "move" ts || atSymbols "|" ts
    || atWord "async" ts && !thenAt isFunction ts
  atWord "const" tokens && !thenAt isExpression tokens

def atDeclaration (tokens : List Token) : Bool :=
  ["pub", "extern", "use", "fn", "mod", "type", "struct", "enum", "trait", "impl", "macro"].any (atWord · tokens)
    || atWord "crate" tokens && !thenAt (atSymbols "::") tokens || atStaticItem tokens || atConstantItem tokens
    || atWord "unsafe" tokens && !thenAt (atOpening '{') tokens
    || atWord "async" tokens && thenAt (fun ts => ["unsafe", "extern", "fn"].any (atWord · ts)) tokens
    || atWord "union" tokens && thenAt atName tokens || atWords "auto" "trait" tokens
    || atWord "default" tokens && thenAt (fun ts => atWord "unsafe" ts || atWord "impl" ts) tokens
    || atNamedMacro tokens

/-- Whether an expression needs a semicolon to be a statement. -/
def needsSemicolon : ExpressionKind → Bool
  | .block => false
  | .macroCall braces => !braces
  | _ => true

/-- What follows the attributes at the start of a list of tokens. -/
def afterAttributes (tokens : List Token) : List Token :=
  match skipAttributes g tokens with
  | some found => found.rest
  | none => tokens

/-- A statement. Tells whether another one may follow. -/
def statement : Reader Bool := do
  let start ← next (afterAttributes g)
  if !atBraceMacro start && !atWord "let" start && atDeclaration start then
    declaration g
    pure true
  else
    skipAttributes g
    if ← next atBraceMacro then
      let _ ← modulePath
      let _ ← macroCall
      let _ ← allowSymbols ";"
      pure true
    else if ← next (atWord "let") then
      binding g
      pure true
    else
      let kind ← body g
      let ends ← allowSymbols ";"
      pure (ends || !needsSemicolon kind)

/-- All statements of a block, and the value at its end. -/
def statements : Reader Unit := repeated do
  whileAt (atSymbols ";") (symbols ";")
  if ← next atEnd then pure false
  else
    let mayGoOn ← statement g
    if ← next atEnd then pure false
    else if mayGoOn then pure true
    else fail

end EntityMapping.Source.Reader
