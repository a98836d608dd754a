import EntityMapping.Entity.Definition
import EntityMapping.Failure

/-! Schemas: the declarations of a family of entity types that refer to each other, possibly in a circle. Unfolding a
declaration gives its definition, or the type that comes up inside itself. -/

namespace EntityMapping.Entity

inductive FieldDeclaration (n : Nat) where
  | value (field : ValueField)
  | nested (name : String) (role : Role) (optional : Bool) (type : Fin n)
  | skipped (name : String)

structure Declaration (n : Nat) where
  name : String
  clauses : Clauses
  fields : List (FieldDeclaration n)

structure Schema (n : Nat) where
  declaration : Fin n → Declaration n

namespace Schema

variable {n : Nat}

def typeName (s : Schema n) (i : Fin n) : TypeName := ⟨i.val, (s.declaration i).name⟩

/-- Puts the fields of nested types in their places. -/
def assemble (s : Schema n) : List (FieldDeclaration n × Option Fields) → Fields
  | [] => .nil
  | (.value f, _) :: rest => .value f (s.assemble rest)
  | (.nested name role optional type, inner) :: rest =>
    .nested ⟨name, role, optional, s.typeName type⟩ (inner.getD .nil) (s.assemble rest)
  | (.skipped name, _) :: rest => .skipped name (s.assemble rest)

/-- The fields of a type, nested types being drawn from `free`: the types that are not yet being unfolded. The error is the
type met a second time. Bases of a type are visited after what is embedded in it, and inside an embedded type both are visited
in the order of declaration. -/
def unfoldFrom (s : Schema n) (embedded : Bool) (free : List (Fin n)) (i : Fin n) : Except (Fin n) Fields :=
  if h : i ∈ free then do
    have : (free.erase i).length < free.length := by
      have := List.length_pos_of_mem h
      rw [List.length_erase_of_mem h]
      omega
    let fields := (s.declaration i).fields
    let first ← fields.mapM fun
      | .nested _ role _ type =>
        if embedded || role == .embedded then some <$> s.unfoldFrom true (free.erase i) type else pure none
      | _ => pure none
    let second ← fields.mapM fun
      | .nested _ role _ type =>
        if !embedded && role == .base then some <$> s.unfoldFrom false (free.erase i) type else pure none
      | _ => pure none
    pure (s.assemble (fields.zip ((first.zip second).map fun (a, b) => a.or b)))
  else .error i
termination_by free.length

/-- The definition of a type. It fails when the type, or one that it holds, nests itself. -/
def definition (s : Schema n) (i : Fin n) : Except Failure Definition :=
  match s.unfoldFrom false (List.finRange n) i with
  | .ok fields => .ok ⟨s.typeName i, (s.declaration i).clauses, fields⟩
  | .error j =>
    .error { status := .invalidEntityDefinition, args := [(s.declaration j).name, "cyclic embedded or base field"] }

end Schema

end EntityMapping.Entity
