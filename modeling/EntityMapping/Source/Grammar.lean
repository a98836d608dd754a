import EntityMapping.Source.Grammar.Statement

/-! The grammar of source text as a whole, and the types, paths and structs that it reads. -/

namespace EntityMapping.Source

namespace Grammar

/-- Parts may hold others once more. -/
def deeper (g : Grammar) : Grammar where
  typeShape := Reader.type g
  bound := Reader.parameterBound g
  unary := Reader.unary g
  operations := Reader.operations g
  body := Reader.body g
  patternKind := Reader.pattern g
  statements := Reader.statements g
  declaration := Reader.declaration g
  usedNames := Reader.usedNames g
  namedFields := do let _ ← Reader.namedFields g

/-- Parts hold others up to a depth. -/
def ofDepth : Nat → Grammar
  | 0 => empty
  | depth + 1 => (ofDepth depth).deeper

end Grammar

namespace Reader

variable {α : Type}

/-- Reads a whole source text. Nothing in it is deeper than it has tokens. -/
def ofSource? (r : Grammar → Reader α) (source : String) : Option α := do
  let tokens ← Token.ofText? source
  pure (← run? (r (Grammar.ofDepth (tokens.length + 1))) tokens).value

end Reader

def WrittenType.ofSource? (source : String) : Option WrittenType := Reader.ofSource? Grammar.writtenType source

/-- Reads a path alone. -/
def WrittenPath.ofSource? (source : String) : Option WrittenPath :=
  Reader.ofSource? (fun g => do pure (← Reader.path g true).path) source

def WrittenStruct.ofSource? (source : String) : Option WrittenStruct := Reader.ofSource? Reader.struct source

end EntityMapping.Source
