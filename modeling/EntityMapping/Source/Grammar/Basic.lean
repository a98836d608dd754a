import EntityMapping.Source.Reader
import EntityMapping.Source.WrittenType

/-! What the readers of types, patterns and expressions tell about what they have read, and the record of the readers that
each of them uses for what it holds inside. Whoever reads a part inside has taken a token before, so a record that is
closed after as many turns as there are tokens is never asked for more. -/

namespace EntityMapping.Source

/-- A path that has been read, and the type that is the first argument of its last name. -/
structure ReadPath where
  path : WrittenPath
  argument : Option WrittenType
  /-- The source up to the last name, without its arguments. -/
  stem : String
  /-- Whether the last name has no argument. -/
  isOpen : Bool

namespace ReadPath

def written (p : ReadPath) : WrittenType :=
  match p.argument with
  | some t => .generic p.path t
  | none => .named p.path

end ReadPath

inductive TypeShape where
  | path (p : ReadPath)
  /-- A single bound of a trait without a keyword, with its source less the parentheses around it. -/
  | bound (core : String)
  | other

def TypeShape.written (source : String) : TypeShape → WrittenType
  | path p => p.written
  | _ => .other source

inductive ExpressionKind where
  | range
  | comparison
  /-- An expression that ends with a block and may stand as a statement without a semicolon. -/
  | block
  | macroCall (braces : Bool)
  | other
deriving DecidableEq, Repr

inductive PatternKind where
  | rest
  /-- A range without a start or without an end. -/
  | openRange
  | other
deriving DecidableEq, Repr

namespace Level

def lowest : Nat := 0
def assign : Nat := 1
def range : Nat := 2
def or : Nat := 3
def and : Nat := 4
def compare : Nat := 5
def bitOr : Nat := 6
def bitXor : Nat := 7
def bitAnd : Nat := 8
def shift : Nat := 9
def sum : Nat := 10
def product : Nat := 11
def cast : Nat := 12

end Level

/-- The readers of what stands inside something else. -/
structure Grammar where
  /-- A type; with `plus` it may go on with bounds after a `+`. -/
  typeShape : (plus : Bool) → Reader TypeShape
  /-- A bound of a parameter or of an argument. -/
  bound : Reader Unit
  /-- An expression without binary operators; with `structs` the braces of a struct may follow a path. -/
  unary : (structs : Bool) → Reader ExpressionKind
  /-- The operators after an operand, as far as they bind at least as tightly as a level. -/
  operations : (structs : Bool) → (level : Nat) → ExpressionKind → Reader ExpressionKind
  /-- An expression that ends where a statement may end. -/
  body : Reader ExpressionKind
  /-- A pattern, which may be one of several alternatives. -/
  patternKind : (alternatives : Bool) → Reader PatternKind
  /-- All statements of a block. -/
  statements : Reader Unit
  declaration : Reader Unit
  /-- What a declaration of used names lists; with `root` a path may start at the root of all names. -/
  usedNames : (root : Bool) → Reader Unit
  /-- The fields between the braces of a struct. -/
  namedFields : Reader Unit

namespace Grammar

variable (g : Grammar)

/-- A grammar of nothing. -/
def empty : Grammar :=
  ⟨fun _ => .fail, .fail, fun _ => .fail, fun _ _ _ => .fail, .fail, fun _ => .fail, .fail, .fail, fun _ => .fail, .fail⟩

def type (plus : Bool) : Reader Unit := do let _ ← g.typeShape plus

def pattern (alternatives : Bool) : Reader Unit := do let _ ← g.patternKind alternatives

def expression (structs : Bool) : Reader Unit := do
  let kind ← g.unary structs
  let _ ← g.operations structs Level.lowest kind

/-- A type with its source. -/
def writtenType : Reader WrittenType := do
  let (shape, source) ← Reader.captured (g.typeShape true)
  Reader.write source
  pure (shape.written source)

def block : Reader Unit := Reader.inside '{' g.statements

end Grammar

end EntityMapping.Source
