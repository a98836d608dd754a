import EntityMapping.Rows.Setter

/-! The search for setters without its stack. What is found behind a hop gets the hop in front, so nothing has to be taken back.
The search with the stack finds the same: its stack is as before wherever it finds nothing, and holds the hops to what it finds. -/

namespace EntityMapping.Proofs.SetterSearch
open Entity Rows

/-- The first value of these fields that fits the label, positions being counted from `i`. -/
def ownSetter? (owner : TypeName) (label : String) : Fields → Nat → Option Setter
  | .nil, _ => none
  | .value f rest, i => if fits f.name label then some ⟨[], owner, i, f⟩ else ownSetter? owner label rest (i + 1)
  | .nested _ _ rest, i => ownSetter? owner label rest (i + 1)
  | .skipped _ rest, i => ownSetter? owner label rest (i + 1)

/-- The first value inside the bases that fits the label; with `flat`, inside all nested entities. -/
def nestedSetter? (flat : Bool) (label : String) : Fields → Nat → Option Setter
  | .nil, _ => none
  | .value _ rest, i => nestedSetter? flat label rest (i + 1)
  | .nested f inner rest, i =>
    let found := if flat || f.role == .base then
        (ownSetter? f.type label inner 0).or (nestedSetter? flat label inner 0)
      else none
    (found.map fun s => { s with hops := i :: s.hops }).or (nestedSetter? flat label rest (i + 1))
  | .skipped _ rest, i => nestedSetter? flat label rest (i + 1)

/-- The search in the fields of a type. -/
def searched? (flat : Bool) (type : TypeName) (label : String) (fields : Fields) : Option Setter :=
  (ownSetter? type label fields 0).or (nestedSetter? flat label fields 0)

/-- An embedded entity that a label names: the hops to it, its type and its fields. -/
abbrev Embedded := List Nat × TypeName × Fields

def ownEmbedded? (label : String) : Fields → Nat → Option Embedded
  | .nil, _ => none
  | .value _ rest, i => ownEmbedded? label rest (i + 1)
  | .nested f inner rest, i =>
    if f.role == .embedded && fits f.name label then some ([i], f.type, inner) else ownEmbedded? label rest (i + 1)
  | .skipped _ rest, i => ownEmbedded? label rest (i + 1)

def baseEmbedded? (label : String) : Fields → Nat → Option Embedded
  | .nil, _ => none
  | .value _ rest, i => baseEmbedded? label rest (i + 1)
  | .nested f inner rest, i =>
    let found := if f.role == .base then (ownEmbedded? label inner 0).or (baseEmbedded? label inner 0) else none
    (found.map fun (hops, type, fields) => (i :: hops, type, fields)).or (baseEmbedded? label rest (i + 1))
  | .skipped _ rest, i => baseEmbedded? label rest (i + 1)

/-- The embedded entity that a label finds. -/
def embedded? (label : String) (fields : Fields) : Option Embedded :=
  (ownEmbedded? label fields 0).or (baseEmbedded? label fields 0)

/-- The setter of a column. -/
def setter? (d : Definition) (embedding label : String) : Option Setter :=
  if embedding.isEmpty then searched? false d.type label d.fields
  else (embedded? embedding d.fields).bind fun (hops, type, inner) =>
    (searched? true type label inner).map fun s => { s with hops := hops ++ s.hops }

/-- The result of a search from `hops`, given what it finds and the hops from there. -/
def ended {α : Type} (hops : List Nat) : Option (List Nat × α) → Option α × List Nat
  | some (taken, found) => (some found, hops ++ taken)
  | none => (none, hops)

/-- The search finds this, wherever it starts. -/
def Finds {α : Type} (search : Search (Option α)) (found : Option (List Nat × α)) : Prop :=
  ∀ hops, search.run hops = ended hops found

variable {α : Type}

theorem finds_pure (found : Option α) : Finds (pure found) (found.map fun a => ([], a)) := by
  intro hops
  cases found with
  | none => rfl
  | some a => exact congrArg (Prod.mk (some a)) (List.append_nil hops).symm

theorem bind_run {β : Type} (first : Search α) (next : α → Search β) (hops : List Nat) :
    (first >>= next).run hops = (next (first.run hops).1).run (first.run hops).2 := rfl

theorem Finds.behind {inside : Search (Option α)} {found : Option (List Nat × α)} (finds : Finds inside found) (hop : Nat) :
    Finds (.behind hop inside) (found.map fun (taken, a) => (hop :: taken, a)) := by
  intro hops
  have below : inside.run (hops ++ [hop]) = ended (hops ++ [hop]) found := finds _
  rw [Search.behind, bind_run]
  change (inside >>= _).run (hops ++ [hop]) = _
  rw [bind_run, below]
  cases found with
  | none => exact congrArg (Prod.mk none) List.dropLast_concat
  | some found => exact congrArg (Prod.mk (some found.2)) (List.append_assoc hops [hop] found.1)

theorem Finds.orNext {first next : Search (Option α)} {found later : Option (List Nat × α)} (finds : Finds first found)
    (goes : Finds next later) : Finds (.orNext first next) (found.or later) := by
  intro hops
  rw [Search.orNext, bind_run, finds]
  cases found with
  | none => exact goes hops
  | some found => rfl

/-- A setter as its hops and what the search returns of it. -/
def hopsAndField (s : Setter) : List Nat × OwnField := (s.hops, ⟨s.owner, s.position, s.field⟩)

theorem ownField?_eq (owner : TypeName) (label : String) (fields : Fields) (i : Nat) :
    (ownField? owner label fields i).map (fun f => ([], f)) = (ownSetter? owner label fields i).map hopsAndField := by
  induction fields generalizing i with
  | nil => rfl
  | value f rest ih =>
    rw [ownField?, ownSetter?]
    split
    · rfl
    · exact ih (i + 1)
  | nested f inner rest _ ih => exact ih (i + 1)
  | skipped name rest ih => exact ih (i + 1)

theorem finds_ownField? (owner : TypeName) (label : String) (fields : Fields) :
    Finds (pure (ownField? owner label fields 0)) ((ownSetter? owner label fields 0).map hopsAndField) := by
  rw [← ownField?_eq]
  exact finds_pure _

theorem finds_nestedField (flat : Bool) (label : String) (fields : Fields) (i : Nat) :
    Finds (nestedField flat label fields i) ((nestedSetter? flat label fields i).map hopsAndField) := by
  induction fields generalizing i with
  | nil => exact finds_pure none
  | value f rest ih => exact ih (i + 1)
  | nested f inner rest ihInner ih =>
    rw [nestedField, nestedSetter?]
    split
    · have inside := ((finds_ownField? f.type label inner).orNext (ihInner 0)).behind i
      rw [← Option.map_or, Option.map_map] at inside
      rw [Option.map_or, Option.map_map]
      exact inside.orNext (ih (i + 1))
    · exact ih (i + 1)
  | skipped name rest ih => exact ih (i + 1)

theorem finds_findField (flat : Bool) (owner : TypeName) (label : String) (fields : Fields) :
    Finds (findField flat owner label fields) ((searched? flat owner label fields).map hopsAndField) := by
  rw [searched?, Option.map_or]
  exact (finds_ownField? owner label fields).orNext (finds_nestedField flat label fields 0)

theorem finds_ownEntity (label : String) (fields : Fields) (i : Nat) :
    Finds (ownEntity label fields i) (ownEmbedded? label fields i) := by
  induction fields generalizing i with
  | nil => exact finds_pure none
  | value f rest ih => exact ih (i + 1)
  | nested f inner rest _ ih =>
    rw [ownEntity, ownEmbedded?]
    split
    · exact fun hops => rfl
    · exact ih (i + 1)
  | skipped name rest ih => exact ih (i + 1)

theorem finds_baseEntity (label : String) (fields : Fields) (i : Nat) :
    Finds (baseEntity label fields i) (baseEmbedded? label fields i) := by
  induction fields generalizing i with
  | nil => exact finds_pure none
  | value f rest ih => exact ih (i + 1)
  | nested f inner rest ihInner ih =>
    rw [baseEntity, baseEmbedded?]
    split
    · exact (((finds_ownEntity label inner 0).orNext (ihInner 0)).behind i).orNext (ih (i + 1))
    · exact ih (i + 1)
  | skipped name rest ih => exact ih (i + 1)

theorem finds_findEmbedded (label : String) (fields : Fields) :
    Finds (findEmbedded label fields) (embedded? label fields) :=
  (finds_ownEntity label fields 0).orNext (finds_baseEntity label fields 0)

/-- The search with the stack finds the setter. -/
theorem findSetter?_eq (d : Definition) (embedding label : String) : findSetter? d embedding label = setter? d embedding label := by
  by_cases plain : embedding = ""
  · subst plain
    have run : (findColumn d "" label).run [] = _ := finds_findField false d.type label d.fields []
    rw [findSetter?, run, setter?, if_pos (by decide)]
    cases searched? false d.type label d.fields <;> rfl
  · have nonempty : embedding.isEmpty = false := by simpa using plain
    rw [findSetter?, findColumn, setter?, nonempty, Bool.not_false, if_neg (by decide), if_neg (by decide), bind_run,
      finds_findEmbedded]
    cases embedded? embedding d.fields with
    | none => rfl
    | some embedded =>
      obtain ⟨hops, type, inner⟩ := embedded
      have run : (findField true type label inner).run hops = _ := finds_findField true type label inner hops
      dsimp only [ended, List.nil_append, Option.bind_some]
      rw [run]
      cases searched? true type label inner <;> rfl

theorem findSetter?_plain (d : Definition) (label : String) :
    findSetter? d "" label = searched? false d.type label d.fields := findSetter?_eq d "" label

theorem findSetter?_under (d : Definition) {embedding : String} (nonempty : embedding ≠ "") (label : String) :
    findSetter? d embedding label = (embedded? embedding d.fields).bind fun (hops, type, inner) =>
      (searched? true type label inner).map fun s => { s with hops := hops ++ s.hops } := by
  rw [findSetter?_eq, setter?, if_neg (by simpa using nonempty)]

end EntityMapping.Proofs.SetterSearch
