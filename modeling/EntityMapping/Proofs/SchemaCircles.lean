import EntityMapping.Metadata.Basic
import EntityMapping.Proofs.Outcomes
import Mathlib.Logic.Relation

/-! Circles of types. The metadata of a type cannot be built exactly when the type leads to one that nests itself, and the failure
names a type of such a circle: the types that are being unfolded are a path, so one that is met again closes a circle, and below a
type that was unfolded no chain of nested types goes on forever. -/

namespace EntityMapping.Proofs.SchemaCircles
open Entity Outcomes

variable {n : Nat} {s : Schema n}

def nestedTypes (fields : List (FieldDeclaration n)) : List (Fin n) :=
  fields.filterMap fun
    | .nested _ _ _ type => some type
    | _ => none

theorem mem_nestedTypes {fields : List (FieldDeclaration n)} {type : Fin n} :
    type ∈ nestedTypes fields ↔ ∃ name role optional, .nested name role optional type ∈ fields := by
  rw [nestedTypes, List.mem_filterMap]
  constructor
  · intro ⟨f, member, same⟩
    cases f with
    | nested name role optional other => cases same; exact ⟨name, role, optional, member⟩
    | _ => cases same
  · intro ⟨name, role, optional, member⟩
    exact ⟨_, member, rfl⟩

/-- The type has a field of the other type, embedded or as a base. -/
def Nests (s : Schema n) (i j : Fin n) : Prop := j ∈ nestedTypes (s.declaration i).fields

/-- The type is, or leads to, a type that leads to itself. -/
def Circular (s : Schema n) (i : Fin n) : Prop := ∃ j, Relation.ReflTransGen (Nests s) i j ∧ Relation.TransGen (Nests s) j j

/-- What one of the two passes over a type does with a field. -/
def visitField {m : Type → Type} [Monad m] (takes : Role → Bool) (inside : Fin n → m Fields) :
    FieldDeclaration n → m (Option Fields)
  | .nested _ role _ type => if takes role then some <$> inside type else pure none
  | _ => pure none

/-- What a visit of a type does, `inside` being what it does with the types that it nests. -/
def visit {m : Type → Type} [Monad m] (s : Schema n) (embedded : Bool) (i : Fin n) (inside : Bool → Fin n → m Fields) :
    m Fields := do
  let fields := (s.declaration i).fields
  let first ← fields.mapM (visitField (fun role => embedded || role == .embedded) (inside true))
  let second ← fields.mapM (visitField (fun role => !embedded && role == .base) (inside false))
  pure (s.assemble (fields.zip ((first.zip second).map fun (a, b) => a.or b)))

theorem visitField_eq_error {takes : Role → Bool} {inside : Fin n → Except (Fin n) Fields} {f : FieldDeclaration n} {j : Fin n}
    (failed : visitField takes inside f = .error j) :
    ∃ name role optional type, f = .nested name role optional type ∧ inside type = .error j := by
  cases f with
  | nested name role optional type =>
    refine ⟨name, role, optional, type, rfl, ?_⟩
    rw [visitField] at failed
    split at failed
    · cases found : inside type with
      | error j' => rw [found] at failed; cases failed; rfl
      | ok fields => rw [found] at failed; cases failed
    · cases failed
  | _ => cases failed

theorem visitField_eq_ok {takes : Role → Bool} {inside : Fin n → Except (Fin n) Fields} {name : String} {role : Role}
    {optional : Bool} {type : Fin n} (taken : takes role = true) {result : Option Fields}
    (done : visitField takes inside (.nested name role optional type) = .ok result) : ∃ fields, inside type = .ok fields := by
  rw [visitField, if_pos taken] at done
  cases found : inside type with
  | error j => rw [found] at done; cases done
  | ok fields => exact ⟨fields, rfl⟩

/-- A visit fails only where one of the nested types does. -/
theorem visit_eq_error {embedded : Bool} {i j : Fin n} {inside : Bool → Fin n → Except (Fin n) Fields}
    (failed : visit s embedded i inside = .error j) : ∃ embedded' type, Nests s i type ∧ inside embedded' type = .error j := by
  have pass : ∀ embedded' takes, (s.declaration i).fields.mapM (visitField takes (inside embedded')) = .error j →
      ∃ embedded' type, Nests s i type ∧ inside embedded' type = .error j := by
    intro embedded' takes stopped
    obtain ⟨f, member, stopped⟩ := mapM_eq_error stopped
    obtain ⟨name, role, optional, type, rfl, below⟩ := visitField_eq_error stopped
    exact ⟨embedded', type, mem_nestedTypes.mpr ⟨name, role, optional, member⟩, below⟩
  rw [visit, bind_eq_error] at failed
  obtain first | ⟨_, _, failed⟩ := failed
  · exact pass true _ first
  · rw [bind_eq_error] at failed
    obtain second | ⟨_, _, failed⟩ := failed
    · exact pass false _ second
    · cases failed

/-- The two passes of a visit leave no nested type out. -/
theorem visit_eq_ok {embedded : Bool} {i : Fin n} {inside : Bool → Fin n → Except (Fin n) Fields} {fields : Fields}
    (done : visit s embedded i inside = .ok fields) {type : Fin n} (nests : Nests s i type) :
    ∃ embedded' fields', inside embedded' type = .ok fields' := by
  obtain ⟨name, role, optional, member⟩ := mem_nestedTypes.mp nests
  rw [visit, bind_eq_ok] at done
  obtain ⟨_, first, done⟩ := done
  obtain ⟨_, second, _⟩ := bind_eq_ok.mp done
  by_cases taken : (embedded || role == .embedded) = true
  · obtain ⟨_, done⟩ := mem_mapM_ok first member
    exact ⟨true, visitField_eq_ok taken done⟩
  · have base : (!embedded && role == .base) = true := by cases embedded <;> cases role <;> simp_all
    obtain ⟨_, done⟩ := mem_mapM_ok second member
    exact ⟨false, visitField_eq_ok base done⟩

theorem unfoldFrom_new {free : List (Fin n)} {i : Fin n} (new : i ∈ free) (embedded : Bool) :
    s.unfoldFrom embedded free i = visit s embedded i fun embedded => s.unfoldFrom embedded (free.erase i) := by
  rw [Schema.unfoldFrom, dif_pos new]
  rfl

theorem unfoldFrom_visited {free : List (Fin n)} {i : Fin n} (visited : i ∉ free) (embedded : Bool) :
    s.unfoldFrom embedded free i = .error i := by
  rw [Schema.unfoldFrom, dif_neg visited]

private theorem erase_shorter {free : List (Fin n)} {i : Fin n} (member : i ∈ free) : (free.erase i).length < free.length := by
  have := List.length_pos_of_mem member
  rw [List.length_erase_of_mem member]
  omega

/-- The types that are not free lead to the one that is visited, so one that is met again lies on a circle. -/
theorem unfoldFrom_eq_error {embedded : Bool} {free : List (Fin n)} {i j : Fin n}
    (path : ∀ k, k ∉ free → Relation.TransGen (Nests s) k i) (failed : s.unfoldFrom embedded free i = .error j) :
    Relation.ReflTransGen (Nests s) i j ∧ Relation.TransGen (Nests s) j j := by
  by_cases new : i ∈ free
  · rw [unfoldFrom_new new] at failed
    obtain ⟨embedded', type, nests, failed⟩ := visit_eq_error failed
    have pathBelow : ∀ k, k ∉ free.erase i → Relation.TransGen (Nests s) k type := by
      intro k visited
      by_cases same : k = i
      · exact same ▸ .single nests
      · exact (path k fun member => visited ((List.mem_erase_of_ne same).mpr member)).tail nests
    obtain ⟨reached, circle⟩ := unfoldFrom_eq_error pathBelow failed
    exact ⟨.head nests reached, circle⟩
  · rw [unfoldFrom_visited new] at failed
    cases failed
    exact ⟨.refl, path i new⟩
termination_by free.length
decreasing_by exact erase_shorter new

theorem acc_of_unfoldFrom {embedded : Bool} {free : List (Fin n)} {i : Fin n} {fields : Fields}
    (unfolded : s.unfoldFrom embedded free i = .ok fields) : Acc (fun j i => Nests s i j) i := by
  by_cases new : i ∈ free
  · rw [unfoldFrom_new new] at unfolded
    constructor
    intro type nests
    obtain ⟨embedded', fields', unfolded⟩ := visit_eq_ok unfolded nests
    exact acc_of_unfoldFrom unfolded
  · rw [unfoldFrom_visited new] at unfolded
    cases unfolded
termination_by free.length
decreasing_by exact erase_shorter new

/-- A type below which every chain of nested types ends leads to no circle: the next type on the way to a circle, or around
it, would lead to it as well. -/
theorem not_circular_of_acc {i : Fin n} (ends : Acc (fun j i => Nests s i j) i) : ¬Circular s i := by
  induction ends with
  | intro i _ ih =>
    intro ⟨j, reached, circle⟩
    obtain rfl | ⟨k, nests, onward⟩ := Relation.ReflTransGen.cases_head reached
    · obtain ⟨k, nests, onward⟩ := Relation.TransGen.head'_iff.mp circle
      exact ih k nests ⟨i, onward, circle⟩
    · exact ih k nests ⟨j, onward, circle⟩

/-- The walk over the types as it goes by itself: it carries the types that are being visited and turns back only at one of them.
Nothing is returned when visits nest deeper than `depth`. -/
def walk (s : Schema n) : Nat → Bool → List (Fin n) → Fin n → ExceptT (Fin n) Option Fields
  | 0, _, _, _ => ExceptT.mk none
  | depth + 1, embedded, path, i =>
    if path.contains i then throw i else visit s embedded i fun embedded => walk s depth embedded (i :: path)

/-- A result of the walk that did not have to be cut off. -/
def ended {α : Type} (result : Except (Fin n) α) : ExceptT (Fin n) Option α := ExceptT.mk (some result)

private theorem ended_bind {α β : Type} (x : Except (Fin n) α) (f : α → Except (Fin n) β) :
    (ended x >>= fun a => ended (f a)) = ended (x >>= f) := by
  cases x <;> rfl

private theorem mapM_ended {α β : Type} {f : α → ExceptT (Fin n) Option β} {g : α → Except (Fin n) β}
    (same : ∀ a, f a = ended (g a)) (as : List α) : as.mapM f = ended (as.mapM g) := by
  induction as with
  | nil => rfl
  | cons a as ih =>
    rw [List.mapM_cons, List.mapM_cons, same, ih, ← ended_bind]
    simp only [← ended_bind]
    rfl

private theorem visit_ended {inside : Bool → Fin n → ExceptT (Fin n) Option Fields} {result : Bool → Fin n → Except (Fin n) Fields}
    (same : ∀ embedded type, inside embedded type = ended (result embedded type)) (embedded : Bool) (i : Fin n) :
    visit s embedded i inside = ended (visit s embedded i result) := by
  have field : ∀ embedded takes (f : FieldDeclaration n), visitField takes (inside embedded) f = ended (visitField takes (result embedded) f) := by
    intro embedded takes f
    cases f with
    | nested name role optional type =>
      rw [visitField, visitField, same]
      split
      · cases result embedded type <;> rfl
      · rfl
    | _ => rfl
  rw [visit, visit, mapM_ended (field true _), mapM_ended (field false _)]
  simp only [← ended_bind]
  rfl

/-- Every visit takes a type from those that are free, so visits nest no deeper than there are types. -/
theorem walk_eq {depth : Nat} {embedded : Bool} {path free : List (Fin n)} (distinct : free.Nodup)
    (apart : ∀ j, j ∈ free ↔ j ∉ path) (deep : free.length < depth) (i : Fin n) :
    walk s depth embedded path i = ended (s.unfoldFrom embedded free i) := by
  induction depth generalizing embedded path free i with
  | zero => omega
  | succ depth ih =>
    rw [walk]
    by_cases visited : i ∈ path
    · rw [if_pos (List.contains_iff_mem.mpr visited), unfoldFrom_visited fun member => (apart i).mp member visited]
      rfl
    · have new := (apart i).mpr visited
      have shorter := erase_shorter new
      rw [if_neg fun found => visited (List.contains_iff_mem.mp found), unfoldFrom_new new]
      apply visit_ended
      intro embedded type
      apply ih (distinct.erase i) _ (by omega)
      intro j
      rw [distinct.mem_erase_iff, apart, List.mem_cons, not_or]

/-- The tables of an entity, as declared or by its name. -/
def tablesOf (d : Declaration n) : List Table := Table.readAll ((Text.nonBlank? d.clauses.tables).getD (Naming.tableName d.name))

def circularFailure (name : String) : Failure :=
  { status := .invalidEntityDefinition, args := [name, "cyclic embedded or base field"] }

theorem ofSchema_eq {i : Fin n} (declared : tablesOf (s.declaration i) ≠ []) :
    Metadata.ofSchema s i = (s.definition i).map fun d => Metadata.ofTables d (tablesOf (s.declaration i)) := by
  have tables : Table.ofClauses (s.declaration i).name (s.declaration i).clauses = .ok (tablesOf (s.declaration i)) := by
    rw [Table.ofClauses, ← tablesOf]
    split
    · next none => exact absurd none declared
    · rfl
  rw [Metadata.ofSchema, tables]
  cases s.definition i <;> rfl

theorem definition_eq_error {i : Fin n} {e : Failure} (failed : s.definition i = .error e) :
    ∃ j, s.unfoldFrom false (List.finRange n) i = .error j ∧ e = circularFailure (s.declaration j).name := by
  rw [Schema.definition] at failed
  split at failed
  · cases failed
  · next j unfolded =>
    cases failed
    exact ⟨j, unfolded, rfl⟩

theorem definition_eq_ok {i : Fin n} {d : Definition} (defined : s.definition i = .ok d) :
    ∃ fields, s.unfoldFrom false (List.finRange n) i = .ok fields := by
  rw [Schema.definition] at defined
  split at defined
  · next fields unfolded => exact ⟨fields, unfolded⟩
  · cases defined

/-- Metadata are built, by a walk that ends, exactly for the types that lead to no circle; otherwise the failure names a type of a
circle. -/
theorem ofSchema_circular (s : Schema n) (i : Fin n) (declared : tablesOf (s.declaration i) ≠ []) :
    (∀ depth, n < depth → walk s depth false [] i = ended (s.unfoldFrom false (List.finRange n) i)) ∧
      ((∃ name, Metadata.ofSchema s i = .error (circularFailure name)) ↔ Circular s i) ∧
      (∀ e, Metadata.ofSchema s i = .error e → ∃ j, Relation.ReflTransGen (Nests s) i j ∧ Relation.TransGen (Nests s) j j ∧
        e = circularFailure (s.declaration j).name) ∧
      (¬Circular s i → ∃ m, Metadata.ofSchema s i = .ok m) := by
  have built := ofSchema_eq declared
  have named : ∀ e, Metadata.ofSchema s i = .error e → ∃ j, Relation.ReflTransGen (Nests s) i j ∧
      Relation.TransGen (Nests s) j j ∧ e = circularFailure (s.declaration j).name := by
    intro e failed
    cases defined : s.definition i with
    | ok d => rw [built, defined] at failed; cases failed
    | error e' =>
      rw [built, defined] at failed
      cases failed
      obtain ⟨j, stopped, rfl⟩ := definition_eq_error defined
      obtain ⟨reached, circle⟩ := unfoldFrom_eq_error (fun k taken => absurd (List.mem_finRange k) taken) stopped
      exact ⟨j, reached, circle, rfl⟩
  have accepted : ∀ m, Metadata.ofSchema s i = .ok m → ¬Circular s i := by
    intro m done
    cases defined : s.definition i with
    | error e => rw [built, defined] at done; cases done
    | ok d =>
      obtain ⟨fields, unfolded⟩ := definition_eq_ok defined
      exact not_circular_of_acc (acc_of_unfoldFrom unfolded)
  refine ⟨fun depth deep => ?_, ⟨fun ⟨name, failed⟩ => ?_, fun circular => ?_⟩, named, fun free => ?_⟩
  · apply walk_eq (List.nodup_finRange n) (fun j => by simp)
    rwa [List.length_finRange]
  · obtain ⟨j, reached, circle, _⟩ := named _ failed
    exact ⟨j, reached, circle⟩
  · cases result : Metadata.ofSchema s i with
    | ok m => exact absurd circular (accepted m result)
    | error e =>
      obtain ⟨j, _, _, rfl⟩ := named e result
      exact ⟨_, rfl⟩
  · cases result : Metadata.ofSchema s i with
    | ok m => exact ⟨m, rfl⟩
    | error e =>
      obtain ⟨j, reached, circle, _⟩ := named e result
      exact absurd ⟨j, reached, circle⟩ free

/-- Types that nest only later ones are in no circle. -/
theorem not_circular_of_later (later : ∀ i j, Nests s i j → i < j) (i : Fin n) : ¬Circular s i := by
  intro ⟨j, _, circle⟩
  have forward : ∀ k, Relation.TransGen (Nests s) j k → j < k := by
    intro k leads
    induction leads with
    | single nests => exact later _ _ nests
    | tail _ nests ih => exact Nat.lt_trans ih (later _ _ nests)
  exact Nat.lt_irrefl _ (forward j circle)

/-- An order embeds a line, a line has a part as its base, and a part embeds a line. -/
def ring : Schema 3 :=
  ⟨fun i => [⟨"Order", ⟨none, none, none, none⟩, [.nested "line" .embedded false 1]⟩,
    ⟨"Line", ⟨none, none, none, none⟩, [.nested "part" .base false 2]⟩,
    ⟨"Part", ⟨none, none, none, none⟩, [.nested "line" .embedded true 1]⟩][i]⟩

/-- A person embeds two addresses and has two bases, which have one base in common. -/
def diamond : Schema 5 :=
  ⟨fun i => [⟨"Person", ⟨none, none, none, none⟩, [.nested "home" .embedded false 4, .nested "audited" .base false 1,
      .nested "work" .embedded true 4, .nested "owned" .base false 2]⟩,
    ⟨"Audited", ⟨none, none, none, none⟩, [.nested "row" .base false 3]⟩,
    ⟨"Owned", ⟨none, none, none, none⟩, [.nested "row" .base false 3]⟩,
    ⟨"Row", ⟨none, none, none, none⟩, []⟩,
    ⟨"Address", ⟨none, none, none, none⟩, []⟩][i]⟩

theorem ofSchema_ring_diamond :
    (∃ name, Metadata.ofSchema ring 0 = .error (circularFailure name)) ∧ ∃ m, Metadata.ofSchema diamond 0 = .ok m := by
  have nests : Nests ring 0 1 ∧ Nests ring 1 2 ∧ Nests ring 2 1 := by simp [Nests, nestedTypes, ring]
  have circular : Circular ring 0 := ⟨1, .single nests.1, .tail (.single nests.2.1) nests.2.2⟩
  have later : ∀ i j, Nests diamond i j → i < j := by simp only [Nests]; decide
  exact ⟨(ofSchema_circular ring 0 (by decide +kernel)).2.1.mpr circular,
    (ofSchema_circular diamond 0 (by decide +kernel)).2.2.2 (not_circular_of_later later 0)⟩

end EntityMapping.Proofs.SchemaCircles
