/-! Types as they are written in source text. A mapping looks at paths only, and in a path at the names and at the first
argument; of every type it also keeps the source, without blanks. -/

namespace EntityMapping.Source

structure WrittenPath where
  names : List String
  /-- The path starts at the root of all names. -/
  rooted : Bool
  /-- The path starts inside another type. -/
  qualified : Bool
  /-- A name of the path has arguments. -/
  applied : Bool
  source : String
deriving DecidableEq, Repr

inductive WrittenType where
  | named (path : WrittenPath)
  /-- A path whose last name has a type as its first argument. -/
  | generic (path : WrittenPath) (argument : WrittenType)
  | other (source : String)
deriving DecidableEq, Repr

namespace WrittenPath

/-- A path of plain names, as those of macros and attributes are. -/
def isPlain (p : WrittenPath) : Bool := !p.qualified && !p.applied

/-- A single name, which may have arguments. -/
def isSingle (p : WrittenPath) : Bool := !p.qualified && !p.rooted && p.names.length == 1

end WrittenPath

namespace WrittenType

def path? : WrittenType → Option WrittenPath
  | named path => some path
  | generic path _ => some path
  | other _ => none

def source : WrittenType → String
  | named path => path.source
  | generic path _ => path.source
  | other source => source

end WrittenType

end EntityMapping.Source
