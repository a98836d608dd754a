import EntityMapping.Proofs.VisibleFields

/-! What metadata hold: the fields in order, the place of every key among them, and the columns of embedded fields by path. One
registration writes all three, so they agree whatever is registered in whatever order. -/

namespace EntityMapping.Proofs.MetadataRepresentation
open Entity FieldIndex FieldRegistration NamingRoundTrip SetterResolution VisibleFields

/-- A path leads to a column exactly where the key of its parts is registered, and to the column of that key. -/
def Paired (index : FieldIndex) : Prop :=
  ∀ owner name, Uncut owner → Uncut name →
    index.references[owner ++ "." ++ name]? = (registered? index (owner ++ "$" ++ name)).map (·.column)

def Dotted (index : FieldIndex) : Prop := ∀ path : String, '.' ∉ path.toList → index.references[path]? = none

theorem paired_empty : Paired .empty := by
  intro owner name _ _
  simp [FieldIndex.empty, registered?]

theorem dotted_empty : Dotted .empty := by
  intro path _
  simp [FieldIndex.empty]

/-- Only the field of an embedded entity writes a reference, and only when it takes its key. -/
theorem references_register (index : FieldIndex) (scope : Option String) (f : ValueField) :
    (index.register scope f).references = index.references ∧ (index.register scope f = index ∨ scope = none) ∨
      ∃ owner column, scope = some owner ∧ index.places[keyOf scope f]? = none ∧ columnOf? scope f = some column ∧
        (index.register scope f).references = index.references.insert (owner ++ "." ++ f.name) column := by
  unfold FieldIndex.register
  dsimp only
  split
  · exact .inl ⟨rfl, .inl rfl⟩
  · next free =>
    split
    · exact .inl ⟨rfl, .inl rfl⟩
    · next column found =>
      cases scope with
      | none => exact .inl ⟨rfl, .inr rfl⟩
      | some owner => exact .inr ⟨owner, column, rfl, by simpa using free, found, rfl⟩

theorem Paired.register {index : FieldIndex} (indexed : Indexed index) (paired : Paired index) {scope : Option String}
    {f : ValueField} (nameUncut : Uncut f.name) (ownerUncut : ∀ owner, scope = some owner → Uncut owner) :
    Paired (index.register scope f) := by
  intro owner name ownerFree nameFree
  obtain ⟨references, unchanged | rfl⟩ | ⟨embedding, column, rfl, free, found, references⟩ := references_register index scope f
  · rw [unchanged]
    exact paired owner name ownerFree nameFree
  · have other : keyOf none f ≠ owner ++ "$" ++ name := fun same => nameUncut.1 (by
      rw [show f.name = owner ++ "$" ++ name from same]; simp)
    rw [references, registered?_register indexed, if_neg other, Option.or_none]
    exact paired owner name ownerFree nameFree
  · have dotted : embedding ++ "." ++ f.name = owner ++ "." ++ name ↔ embedding = owner ∧ f.name = name :=
      joined_inj (c := '.') (by rfl) (ownerUncut _ rfl).2 nameUncut.2
    have keyed : embedding ++ "$" ++ f.name = owner ++ "$" ++ name ↔ embedding = owner ∧ f.name = name :=
      joined_inj (c := '$') (by rfl) (ownerUncut _ rfl).1 nameUncut.1
    rw [references, Std.HashMap.getElem?_insert, registered?_register indexed]
    by_cases same : embedding = owner ∧ f.name = name
    · obtain ⟨rfl, rfl⟩ := same
      have nothing : registered? index (embedding ++ "$" ++ f.name) = none := registered?_eq_none free
      have own : keyOf (some embedding) f = embedding ++ "$" ++ f.name := rfl
      rw [nothing, if_pos (beq_self_eq_true _), if_pos own, mappingOf?, found]
      rfl
    · have otherPath : ¬(embedding ++ "." ++ f.name == owner ++ "." ++ name) = true := by rw [beq_iff_eq, dotted]; exact same
      have otherKey : keyOf (some embedding) f ≠ owner ++ "$" ++ name := fun equal => same (keyed.mp equal)
      rw [if_neg otherPath, if_neg otherKey, Option.or_none]
      exact paired owner name ownerFree nameFree

theorem Dotted.register {index : FieldIndex} (dotted : Dotted index) (scope : Option String) (f : ValueField) :
    Dotted (index.register scope f) := by
  intro path free
  obtain ⟨references, _⟩ | ⟨owner, column, _, _, _, references⟩ := references_register index scope f
  · rw [references]
    exact dotted path free
  · have other : ¬(owner ++ "." ++ f.name == path) = true := by
      intro same
      apply free
      rw [← beq_iff_eq.mp same]
      simp
    rw [references, Std.HashMap.getElem?_insert, if_neg other]
    exact dotted path free

theorem references_foldl {index : FieldIndex} (indexed : Indexed index) (paired : Paired index) (dotted : Dotted index)
    {entries : List (Option String × ValueField)}
    (uncut : ∀ entry ∈ entries, Uncut entry.2.name ∧ ∀ owner, entry.1 = some owner → Uncut owner) :
    Paired (entries.foldl (fun index (scope, f) => index.register scope f) index) ∧
      Dotted (entries.foldl (fun index (scope, f) => index.register scope f) index) := by
  induction entries generalizing index with
  | nil => exact ⟨paired, dotted⟩
  | cons entry entries ih =>
    obtain ⟨nameUncut, ownerUncut⟩ := uncut entry (.head _)
    exact ih (indexed.register entry.1 entry.2) (paired.register indexed nameUncut ownerUncut) (dotted.register entry.1 entry.2)
      fun other member => uncut other (.tail _ member)

variable {d : Definition} {m : Metadata}

theorem build_references (built : Metadata.build d = .ok m) (uncut : EveryName Uncut d.fields) :
    Paired m.index ∧ Dotted m.index := by
  rw [build_index built]
  exact references_foldl indexed_empty paired_empty dotted_empty fun entry member => entry_name uncut member

theorem build_tables (built : Metadata.build d = .ok m) : m.tables ≠ [] := by
  unfold Metadata.build Table.ofClauses at built
  split at built
  · cases built
  · next tables nonempty =>
    cases built
    exact nonempty

theorem embedded_iff (built : Metadata.build d = .ok m) (uncut : EveryName Uncut d.fields) {key : String}
    {mapping : FieldMapping} (member : (key, mapping) ∈ m.fields) : mapping.embedded = true ↔ '$' ∈ key.toList := by
  obtain ⟨scope, f, entry, rfl, found⟩ := entry_of_mapping built member
  obtain ⟨column, _, rfl⟩ := Option.map_eq_some_iff.mp found
  cases scope with
  | none =>
    have plain := (entry_name uncut entry).1.1
    exact ⟨fun flagged => absurd flagged Bool.false_ne_true, fun dollar => absurd dollar plain⟩
  | some owner =>
    refine ⟨fun _ => ?_, fun _ => rfl⟩
    simp [keyOf]

/-- A key without an embedding has no point in it. -/
theorem column?_path (built : Metadata.build d = .ok m) (uncut : EveryName Uncut d.fields) (owner name : String) :
    m.column? (owner ++ "." ++ name) = none := by
  have absent : owner ++ "." ++ name ∉ m.fields.map (·.1) := by
    intro member
    obtain ⟨scope, f, entry, same⟩ := entry_of_key built member
    obtain ⟨nameUncut, ownerUncut⟩ := entry_name uncut entry
    have point : '.' ∈ (keyOf scope f).toList := by rw [same]; simp
    cases scope with
    | none => exact nameUncut.2 point
    | some embedding =>
      simp only [keyOf, Option.elim_some, String.toList_append, List.mem_append] at point
      obtain (inOwner | inSeparator) | inName := point
      · exact (ownerUncut _ rfl).2 inOwner
      · exact absurd inSeparator (by decide)
      · exact nameUncut.2 inName
  rw [mem_keys_iff built, Option.not_isSome_iff_eq_none] at absent
  rw [Metadata.column?, absent]
  rfl

/-- The parts of metadata agree: a key is looked up where a search of the fields finds it, and an embedded field has one column,
by its key, by its path and in a binding. -/
theorem build_representation (built : Metadata.build d = .ok m) :
    m.tables ≠ [] ∧ (m.fields.map (·.1)).Nodup ∧ (∀ key, m.field? key = m.fields.lookup key) ∧
      (EveryName Uncut d.fields →
        (∀ key mapping, (key, mapping) ∈ m.fields → (mapping.embedded = true ↔ '$' ∈ key.toList)) ∧
        ∀ owner name, Uncut owner → Uncut name →
          m.reference? (owner ++ "." ++ name) = m.column? (owner ++ "$" ++ name) ∧
          m.binding? (owner ++ "." ++ name) = m.binding? (owner ++ "$" ++ name)) := by
  refine ⟨build_tables built, keys_nodup built, field?_eq_lookup built, fun uncut => ⟨?_, ?_⟩⟩
  · intro key mapping member
    exact embedded_iff built uncut member
  · intro owner name ownerFree nameFree
    obtain ⟨paired, dotted⟩ := build_references built uncut
    have reference : m.reference? (owner ++ "." ++ name) = m.column? (owner ++ "$" ++ name) := paired owner name ownerFree nameFree
    refine ⟨reference, ?_⟩
    have unreferenced : m.reference? (owner ++ "$" ++ name) = none := by
      apply dotted
      simp [ownerFree.2, nameFree.2]
    rw [Metadata.binding?, Metadata.binding?, column?_path built uncut, Option.none_or, reference, unreferenced, Option.or_none]

/-- A base that is declared before an embedded entity, and a value that is kept out. -/
def customer : Definition where
  type := ⟨0, "Customer"⟩
  clauses := ⟨none, none, none, none⟩
  fields := .nested ⟨"audit", .base, false, ⟨2, "Audit"⟩⟩ (.value ⟨"name", none, true, .text, true, true⟩ .nil)
    (.value ⟨"name", some "-", false, .text, true, true⟩
      (.nested ⟨"addr", .embedded, true, ⟨1, "Address"⟩⟩ (.value ⟨"city", none, false, .text, true, true⟩ .nil) .nil))

theorem build_customer : ∃ m, Metadata.build customer = .ok m ∧ (m.fields.map (·.1)).Nodup ∧
    m.field? "name" = m.fields.lookup "name" ∧ m.reference? "addr.city" = m.column? "addr$city" ∧
    m.binding? "addr.city" = m.binding? "addr$city" ∧ m.column? "addr$city" = some "addr.CITY" := by
  have built : Metadata.build customer = .ok (Metadata.ofTables customer [⟨"CUSTOMER", "CUSTOMER"⟩]) := by rfl
  have uncut : EveryName Uncut customer.fields := by decide +kernel
  obtain ⟨_, distinct, looked, agree⟩ := build_representation built
  obtain ⟨_, paths⟩ := agree uncut
  obtain ⟨reference, binding⟩ := paths "addr" "city" (by decide) (by decide)
  have column : (Metadata.ofTables customer [⟨"CUSTOMER", "CUSTOMER"⟩]).column? "addr$city" = some "addr.CITY" := by
    rw [Metadata.column?, field?_build built]
    decide +kernel
  exact ⟨_, built, distinct, looked "name", reference, binding, column⟩

end EntityMapping.Proofs.MetadataRepresentation
