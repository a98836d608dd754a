import EntityMapping.Proofs.ColumnIndependence

/-! The letter case of ASCII labels does not matter to row mapping. Labels that differ only in case come apart at the same
dollar sign and fit the same names, so every search takes the same way and every column comes to the same. -/

namespace EntityMapping.Proofs.LabelCase
open Text Naming Entity Rows NamingRoundTrip SetterResolution SetterSearch RowRoundTrip ColumnIndependence

/-- ASCII texts that are the same but for the case of letters. -/
structure Recased (cs ds : List Char) : Prop where
  ascii : ∀ c ∈ cs, c.toNat < 128
  ascii' : ∀ d ∈ ds, d.toNat < 128
  lowered : cs.map Char.toLower = ds.map Char.toLower

def Similar (cs ds : List Char) : Prop := cs = ds ∨ Recased cs ds

theorem recased_iff {cs ds : List Char} : Recased cs ds ↔
    cs.all (·.toNat < 128) ∧ ds.all (·.toNat < 128) ∧ cs.map Char.toLower = ds.map Char.toLower := by
  simp only [List.all_eq_true, decide_eq_true_eq]
  exact ⟨fun ⟨ascii, ascii', lowered⟩ => ⟨ascii, ascii', lowered⟩, fun ⟨ascii, ascii', lowered⟩ => ⟨ascii, ascii', lowered⟩⟩

instance (cs ds : List Char) : Decidable (Recased cs ds) := decidable_of_iff _ recased_iff.symm

instance (cs ds : List Char) : Decidable (Similar cs ds) := inferInstanceAs (Decidable (cs = ds ∨ Recased cs ds))

theorem Similar.lowered {cs ds : List Char} (similar : Similar cs ds) : cs.map Char.toLower = ds.map Char.toLower := by
  obtain rfl | recased := similar
  · rfl
  · exact recased.lowered

theorem Similar.lower {cs ds : List Char} (similar : Similar cs ds) : lower cs = lower ds := by
  obtain rfl | recased := similar
  · rfl
  · rw [lower_ascii recased.ascii, lower_ascii recased.ascii', recased.lowered]

theorem Similar.eq_nil_iff {cs ds : List Char} (similar : Similar cs ds) : cs = [] ↔ ds = [] := by
  rw [← List.map_eq_nil_iff, similar.lowered, List.map_eq_nil_iff]

theorem Recased.nil : Recased [] [] := ⟨by simp, by simp, rfl⟩

theorem recased_cons {c d : Char} {cs ds : List Char} :
    Recased (c :: cs) (d :: ds) ↔ (c.toNat < 128 ∧ d.toNat < 128 ∧ c.toLower = d.toLower) ∧ Recased cs ds := by
  constructor
  · intro recased
    obtain ⟨first, rest⟩ := List.cons.inj recased.lowered
    exact ⟨⟨recased.ascii c (.head _), recased.ascii' d (.head _), first⟩,
      fun c member => recased.ascii c (.tail _ member), fun d member => recased.ascii' d (.tail _ member), rest⟩
  · intro ⟨⟨ascii, ascii', first⟩, rest⟩
    exact ⟨List.forall_mem_cons.mpr ⟨ascii, rest.ascii⟩, List.forall_mem_cons.mpr ⟨ascii', rest.ascii'⟩,
      congrArg₂ List.cons first rest.lowered⟩

private theorem toLower_eq_dollar {c : Char} (ascii : c.toNat < 128) : c.toLower = '$' ↔ c = '$' :=
  of_code (p := fun c => c.toLower = '$' ↔ c = '$') (by decide +kernel) ascii

/-- Both texts are cut, into parts that are related, or neither is. -/
abbrev CutAlike (related : List Char → List Char → Prop) : Option (List Char × List Char) → Option (List Char × List Char) → Prop :=
  Option.Rel fun cut cut' => related cut.1 cut'.1 ∧ related cut.2 cut'.2

theorem Recased.cutAt? {cs ds : List Char} (recased : Recased cs ds) :
    CutAlike Recased (cutAt? (· == '$') cs) (cutAt? (· == '$') ds) := by
  induction cs generalizing ds with
  | nil =>
    cases ds with
    | nil => exact .none
    | cons d ds => cases recased.lowered
  | cons c cs ih =>
    cases ds with
    | nil => cases recased.lowered
    | cons d ds =>
      obtain ⟨⟨ascii, ascii', first⟩, rest⟩ := recased_cons.mp recased
      have both : c = '$' ↔ d = '$' := by rw [← toLower_eq_dollar ascii, ← toLower_eq_dollar ascii', first]
      rw [Text.cutAt?, Text.cutAt?]
      by_cases dollar : c = '$'
      · rw [if_pos (by simpa using dollar), if_pos (by simpa using both.mp dollar)]
        exact .some ⟨.nil, rest⟩
      · rw [if_neg (by simpa using dollar), if_neg (by simpa using mt both.mpr dollar)]
        have below := ih rest
        generalize Text.cutAt? (· == '$') cs = cut at below ⊢
        generalize Text.cutAt? (· == '$') ds = cut' at below ⊢
        cases below with
        | none => exact .none
        | some parts => exact .some ⟨recased_cons.mpr ⟨⟨ascii, ascii', first⟩, parts.1⟩, parts.2⟩

theorem Similar.cutAt? {cs ds : List Char} (similar : Similar cs ds) :
    CutAlike Similar (cutAt? (· == '$') cs) (cutAt? (· == '$') ds) := by
  obtain rfl | recased := similar
  · cases Text.cutAt? (· == '$') cs with
    | none => exact .none
    | some cut => exact .some ⟨.inl rfl, .inl rfl⟩
  · have parts := recased.cutAt?
    generalize Text.cutAt? (· == '$') cs = cut at parts ⊢
    generalize Text.cutAt? (· == '$') ds = cut' at parts ⊢
    cases parts with
    | none => exact .none
    | some parts => exact .some ⟨.inr parts.1, .inr parts.2⟩

/-- The labels are the same, or ASCII and the same but for the case of letters. -/
def SameLabel (label label' : String) : Prop := Similar label.toList label'.toList

instance (label label' : String) : Decidable (SameLabel label label') :=
  inferInstanceAs (Decidable (Similar label.toList label'.toList))

theorem SameLabel.fieldName {label label' : String} (same : SameLabel label label') : fieldName label = fieldName label' := by
  rw [fieldName_eq, fieldName_eq, same.lower]

theorem SameLabel.fits {label label' : String} (same : SameLabel label label') (name : String) :
    fits name label = fits name label' := by
  rw [Rows.fits, Rows.fits, same.fieldName, equalIgnoringCase, equalIgnoringCase, same.lowered]

theorem SameLabel.isEmpty {label label' : String} (same : SameLabel label label') : label.isEmpty = label'.isEmpty := by
  rw [Bool.eq_iff_iff, String.isEmpty_iff, String.isEmpty_iff, ← String.toList_eq_nil_iff, ← String.toList_eq_nil_iff]
  exact Similar.eq_nil_iff same

theorem SameLabel.parts {label label' : String} (same : SameLabel label label') :
    SameLabel (labelParts label).1 (labelParts label').1 ∧ SameLabel (labelParts label).2 (labelParts label').2 := by
  have parts := Similar.cutAt? same
  rw [labelParts, labelParts]
  generalize Text.cutAt? (· == '$') label.toList = cut at parts ⊢
  generalize Text.cutAt? (· == '$') label'.toList = cut' at parts ⊢
  cases parts with
  | none => exact ⟨.inl rfl, same⟩
  | some parts =>
    dsimp only [SameLabel]
    simp only [String.toList_ofList]
    exact parts

variable {label label' : String}

theorem ownSetter?_congr (alike : ∀ name, fits name label = fits name label') (owner : TypeName) (fields : Fields) (i : Nat) :
    ownSetter? owner label fields i = ownSetter? owner label' fields i := by
  induction fields generalizing i with
  | nil => rfl
  | value f rest ih => rw [ownSetter?, ownSetter?, alike, ih]
  | nested f inner rest _ ih => exact ih (i + 1)
  | skipped name rest ih => exact ih (i + 1)

theorem nestedSetter?_congr (alike : ∀ name, fits name label = fits name label') (flat : Bool) (fields : Fields) (i : Nat) :
    nestedSetter? flat label fields i = nestedSetter? flat label' fields i := by
  induction fields generalizing i with
  | nil => rfl
  | value f rest ih => exact ih (i + 1)
  | nested f inner rest ihInner ih =>
    rw [nestedSetter?, nestedSetter?, ownSetter?_congr alike, ihInner, ih]
  | skipped name rest ih => exact ih (i + 1)

theorem ownEmbedded?_congr (alike : ∀ name, fits name label = fits name label') (fields : Fields) (i : Nat) :
    ownEmbedded? label fields i = ownEmbedded? label' fields i := by
  induction fields generalizing i with
  | nil => rfl
  | value f rest ih => exact ih (i + 1)
  | nested f inner rest _ ih => rw [ownEmbedded?, ownEmbedded?, alike, ih]
  | skipped name rest ih => exact ih (i + 1)

theorem baseEmbedded?_congr (alike : ∀ name, fits name label = fits name label') (fields : Fields) (i : Nat) :
    baseEmbedded? label fields i = baseEmbedded? label' fields i := by
  induction fields generalizing i with
  | nil => rfl
  | value f rest ih => exact ih (i + 1)
  | nested f inner rest ihInner ih => rw [baseEmbedded?, baseEmbedded?, ownEmbedded?_congr alike, ihInner, ih]
  | skipped name rest ih => exact ih (i + 1)

theorem findSetter?_congr {embedding embedding' : String} (sameEmbedding : SameLabel embedding embedding')
    (same : SameLabel label label') (d : Definition) :
    findSetter? d embedding label = findSetter? d embedding' label' := by
  rw [findSetter?_eq, findSetter?_eq]
  simp only [setter?, searched?, embedded?, sameEmbedding.isEmpty, ownSetter?_congr same.fits, nestedSetter?_congr same.fits,
    ownEmbedded?_congr sameEmbedding.fits, baseEmbedded?_congr sameEmbedding.fits]

theorem setterOf_congr (same : SameLabel label label') (d : Definition) : setterOf d label = setterOf d label' :=
  findSetter?_congr same.parts.1 same.parts.2 d

/-- The columns have the same value and labels that differ at most in case. -/
def SameCell (cell cell' : String × Value) : Prop := SameLabel cell.1 cell'.1 ∧ cell.2 = cell'.2

theorem write_recased {cell cell' : String × Value} (same : SameCell cell cell') (d : Definition) (o : Object) :
    write d o cell = write d o cell' := by
  rw [write, write, setterOf_congr same.1 d, same.2]

theorem outcome_recased {cell cell' : String × Value} (same : SameCell cell cell') (d : Definition) (o : Object) :
    outcome d o cell = outcome d o cell' := by
  rw [outcome, outcome, assigned_eq, assigned_eq, write_recased same]

theorem map_recased {β : Type} {columns columns' : List (String × Value)} (same : List.Forall₂ SameCell columns columns')
    {f : String × Value → β} (blind : ∀ cell cell', SameCell cell cell' → f cell = f cell') : columns.map f = columns'.map f := by
  induction same with
  | nil => rfl
  | cons first _ ih => rw [List.map_cons, List.map_cons, blind _ _ first, ih]

theorem cells_recased {labels labels' : List String} (same : List.Forall₂ SameLabel labels labels') (values : List Value) :
    List.Forall₂ SameCell (labels.zip values) (labels'.zip values) := by
  induction same generalizing values with
  | nil => exact .nil
  | cons first _ ih =>
    cases values with
    | nil => exact .nil
    | cons v values => exact .cons ⟨first, rfl⟩ (ih values)

def sum (counts change : MappingCounts) : MappingCounts where
  rows := counts.rows + change.rows
  columnsSet := counts.columnsSet + change.columnsSet
  missingSetter := counts.missingSetter + change.missingSetter
  unsupportedType := counts.unsupportedType + change.unsupportedType
  nullEmbedded := counts.nullEmbedded + change.nullEmbedded
  conversionFailed := counts.conversionFailed + change.conversionFailed
  nullValue := counts.nullValue + change.nullValue

theorem record_sum (counts change : MappingCounts) (result : Option Skip) :
    record (sum counts change) result = sum counts (record change result) := by
  cases result with
  | none => rfl
  | some skip => cases skip <;> rfl

theorem foldl_record_sum (outcomes : List (Option Skip)) (counts change : MappingCounts) :
    outcomes.foldl record (sum counts change) = sum counts (outcomes.foldl record change) := by
  induction outcomes generalizing change with
  | nil => rfl
  | cons result outcomes ih => rw [List.foldl_cons, record_sum, ih, List.foldl_cons]

/-- What a row adds to the counters. -/
def changeOf (d : Definition) (blank : Object) (row : Row) : MappingCounts :=
  ((row.cells.map (outcome d blank)).foldl record {}).recordRow

theorem mapRowInto_changeOf {d : Definition} {start : MapperState} (answers : Answers start.setters d) (blank : Object) (row : Row) :
    (mapRowInto d blank row start).2.counts = sum start.counts (changeOf d blank row) := by
  obtain ⟨setters, _, run⟩ := assignAll_eq ⟨rfl, rfl⟩ row.cells start answers
  refine (congrArg (fun result => result.2.counts.recordRow) run).trans ?_
  have added := foldl_record_sum (row.cells.map (outcome d blank)) start.counts {}
  rw [show sum start.counts {} = start.counts from rfl] at added
  rw [added]
  rfl

theorem mapRowInto_recased {d : Definition} {lookups lookups' : List (Definition × String × String)}
    (own : ∀ l ∈ lookups, l.1.type.id = d.type.id → l.1 = d) (own' : ∀ l ∈ lookups', l.1.type.id = d.type.id → l.1 = d)
    {row row' : Row} (labels : List.Forall₂ SameLabel row.labels row'.labels) (values : row.values = row'.values) (blank : Object) :
    ∃ change, ∀ counts counts',
      (mapRowInto d blank row ⟨filledBy lookups, counts⟩).1 = (mapRowInto d blank row' ⟨filledBy lookups', counts'⟩).1 ∧
      (mapRowInto d blank row ⟨filledBy lookups, counts⟩).2.counts = sum counts change ∧
      (mapRowInto d blank row' ⟨filledBy lookups', counts'⟩).2.counts = sum counts' change := by
  have answers := answers_filledBy own
  have answers' := answers_filledBy own'
  have same : List.Forall₂ SameCell row.cells row'.cells := by
    rw [Row.cells, Row.cells, values]
    exact cells_recased labels row'.values
  have writes : writesOf d blank row.cells = writesOf d blank row'.cells := by
    have mapped := congrArg (List.filterMap Except.toOption) (map_recased same fun _ _ same => write_recased same d blank)
    rwa [List.filterMap_map, List.filterMap_map] at mapped
  have changes : changeOf d blank row = changeOf d blank row' := by
    rw [changeOf, map_recased same fun _ _ same => outcome_recased same d blank, changeOf]
  refine ⟨changeOf d blank row, fun counts counts' => ⟨?_, mapRowInto_changeOf answers blank row, ?_⟩⟩
  · rw [mapRowInto_eq answers, mapRowInto_eq answers', writes]
  · rw [changes]
    exact mapRowInto_changeOf answers' blank row'

/-- A type with an embedded address. -/
def customer : Definition where
  type := ⟨20, "Customer"⟩
  clauses := ⟨none, none, none, none⟩
  fields := .value ⟨"fullName", none, false, .text, true, true⟩ <|
    .nested ⟨"addr", .embedded, false, ⟨21, "Address"⟩⟩
      (.value ⟨"createdAt", none, false, .date, true, true⟩ <| .value ⟨"floor", none, false, .int32, true, true⟩ .nil) .nil

def customerValues : List Value := [.varchar (some "Ann"), .varchar (some "2024-05-06"), .varchar (some "top")]

def capitals : Row := ⟨["FULL_NAME", "ADDR$CREATED_AT", "ADDR$FLOOR"], customerValues⟩

def mixed : Row := ⟨["full_name", "Addr$Created_At", "addr$floor"], customerValues⟩

theorem customer_recased :
    List.Forall₂ SameLabel capitals.labels mixed.labels ∧
    capitals.cells.map (outcome customer customer.initial) = [none, none, some .conversionFailed] ∧
    (mapRow customer mixed ⟨filledBy [], {}⟩).1 = (mapRow customer capitals ⟨filledBy [(customer, "", "NAME")], {}⟩).1 ∧
    (mapRow customer mixed ⟨filledBy [], {}⟩).2.counts =
      (mapRow customer capitals ⟨filledBy [(customer, "", "NAME")], {}⟩).2.counts := by
  have own : ∀ l ∈ [(customer, "", "NAME")], l.1.type.id = customer.type.id → l.1 = customer := by simp
  have unfilled : ∀ l ∈ ([] : List (Definition × String × String)), l.1.type.id = customer.type.id → l.1 = customer := by simp
  have labels : List.Forall₂ SameLabel capitals.labels mixed.labels :=
    .cons (by decide +kernel) (.cons (by decide +kernel) (.cons (by decide +kernel) .nil))
  obtain ⟨change, recased⟩ := mapRowInto_recased own unfilled labels rfl customer.initial
  obtain ⟨entities, counted, counted'⟩ := recased {} {}
  exact ⟨labels, by decide +kernel, entities.symm, counted'.trans counted.symm⟩

end EntityMapping.Proofs.LabelCase
