import EntityMapping.Statement.Mutation
import EntityMapping.Statement.Select

/-! Writers of statements, which databases bring along. A writer may write each statement in its own way and may fail at each, with
part of it written already. -/

namespace EntityMapping.Statement

/-- Writing the text of a select statement behind what is there already. -/
abbrev Drafting := ExceptT Failure (StateM String)

def Drafting.text (s : String) : Drafting Unit := modify fun written => written ++ s

structure Writer where
  select (m : Metadata) (s : Select) (object : Option Template.Properties) : Drafting Unit
  selectValue (m : Metadata) (expression : String) (filter : Option String) (object : Option Template.Properties) : Drafting Unit
  insert (w : Mutation) (o : Entity.Object) : Writing Unit
  update (w : Mutation) (o : Entity.Object) (includes excludes filter : Option String) : Writing Unit
  delete (w : Mutation) (filter : Option String) : Writing Unit

/-- The stock writer of a dialect. A select is added as a whole: what there is of it at a failure is not looked at. -/
def Dialect.writer (dialect : Dialect) : Writer where
  select m s object := do Drafting.text (← Statement.select dialect m s object)
  selectValue m expression filter object := do Drafting.text (← Statement.selectValue m expression filter object)
  insert := Mutation.insert
  update := Mutation.update
  delete := Mutation.delete

end EntityMapping.Statement
