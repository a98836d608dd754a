import EntityMapping.Proofs.ReadableTexts
import EntityMapping.Proofs.StatementSending

/-! Creating an entity with an identifier. Reading the identifier, assigning it and inserting it go through the type by three
searches of their own. They meet at one field as soon as every field of the name can be set, so what is inserted is what the
entity has in the end. -/

namespace EntityMapping.Proofs.AssignedIdentifiers
open Text Entity FieldIndex Statement Session FieldRegistration VisibleFields PathPlaces WrittenValues ReadableTexts
open SetterResolution MutationAlignment OperationPlans StatementSending

variable {d : Definition} {m : Metadata} {o o' : Object}

def generated (table : String) (fresh : Uuid) : String := table ++ "-" ++ String.ofList fresh.text

theorem hyphens_text (u : Uuid) : 4 ≤ hyphens u.text := by
  unfold Uuid.text
  simp only [hyphens_append, hyphens_cons, beq_self_eq_true, if_true]
  omega

theorem hyphens_generated (table : String) (fresh : Uuid) : 4 < hyphens (generated table fresh).toList := by
  have digits := hyphens_text fresh
  have mark : hyphens "-".toList = 1 := by decide
  rw [generated, String.toList_append, String.toList_append, hyphens_append, hyphens_append, mark, String.toList_ofList]
  omega

theorem convert_text (target : Scalar) (s : String) : target.convert (.varchar (some s)) = target.read s := by
  cases target <;> rfl

/-- Only a text takes it, and holds it as it is. -/
theorem convert_generated {f : ValueField} {table : String} {fresh : Uuid} {w : Value}
    (converts : f.target.convert (.varchar (some (generated table fresh))) = .ok w) :
    w = .varchar (some (generated table fresh)) := by
  have read : f.scalar.read (generated table fresh) = .ok w := by
    unfold ValueField.target at converts
    split at converts
    · exact (convert_text _ _).symm.trans converts
    · exact (convert_text _ _).symm.trans converts
  by_cases text : f.scalar = .text
  · rw [text] at read
    cases read
    rfl
  · exact absurd (few_hyphens text read) (Nat.not_le.mpr (hyphens_generated table fresh))

theorem uncut_id : Uncut "id" := by decide +kernel

/-- Every field named `id` can be set, in the type and in all that is nested in it. -/
def IdSettable (d : Definition) : Prop := ∀ f ∈ d.fields.leaves, f.name = "id" → f.settable

/-- The entity after its identifier was assigned. -/
def Identified (d : Definition) (o o' : Object) (identifier : String) (v : Value) : Prop :=
  ∃ old, d.read o "id" = some old ∧ d.read o' "id" = some v ∧ v.isNull = false ∧
    if old.isNull then v = .varchar (some identifier) ∧ ∀ path, path ≠ "id" → d.read o' path = d.read o path else o' = o

theorem settable_of_place (settable : IdSettable d) {r : Rows.Setter} (place : fieldAt? d "id" = some r) : r.field.settable := by
  obtain ⟨first, names, cut, named⟩ := fieldAt?_named place
  rw [NamingRoundTrip.pathNames_uncut uncut_id] at cut
  cases cut
  obtain ⟨scope, leads, _⟩ := named.leads
  exact settable r.field leads.mem_leaves (named.field rfl)

theorem identified_of_write (of : o.IsOf d) (settable : IdSettable d) {table : String} {fresh : Uuid} {old : Value}
    (found : d.read o "id" = some old) (null : old.isNull)
    (ok : d.write o "id" (.varchar (some (generated table fresh))) = .ok o') :
    Identified d o o' (generated table fresh) (.varchar (some (generated table fresh))) := by
  obtain ⟨type, s, w, written, r, place, meets⟩ := written_of_write of uncut_id ok
  obtain rfl := meets (settable_of_place settable place)
  have of' : o'.IsOf d := ⟨type.trans of.1, written.fit of.2⟩
  have read : d.read o' "id" = some w := by rw [read_eq of', place, Option.map_some, written.shown_self]
  rw [convert_generated written.converts] at read
  refine ⟨old, found, read, rfl, ?_⟩
  rw [if_pos null]
  exact ⟨rfl, fun path other => read_kept of of' written (.inl other)⟩

theorem identified_of_withId {w : Mutation} (built : w.metadata.definition = d) (of : o.IsOf d) (settable : IdSettable d)
    {fresh : Uuid} (ok : Dao.withId w fresh o = .ok o') : ∃ v, Identified d o o' (generated w.table fresh) v := by
  rw [Dao.withId, built] at ok
  split at ok
  · cases ok
  · next old found =>
    split at ok
    · next null => exact ⟨_, identified_of_write of settable found null ok⟩
    · next value =>
      cases ok
      exact ⟨old, old, found, found, by simpa using value, by rw [if_neg value]⟩

theorem column_nonempty {f : ValueField} (named : Naming.columnName f.name ≠ "") {column : String}
    (mapped : columnOf? none f = some column) : column ≠ "" := by
  unfold columnOf? at mapped
  dsimp only at mapped
  split at mapped
  · cases mapped
  · split at mapped
    · next declared =>
      cases mapped
      simpa using declared
    · cases mapped
      exact named

/-- What is registered under a name that is no path is not embedded. -/
theorem registered_uncut (built : Metadata.build d = .ok m) {name : String} (uncut : Uncut name)
    (named : Naming.columnName name ≠ "") {mapping : FieldMapping} (registered : m.field? name = some mapping) :
    mapping.embedded = false ∧ mapping.column ≠ "" := by
  obtain ⟨scope, f, _, key, mapped⟩ := entry_of_mapping built ((mem_fields_iff built).mpr registered)
  obtain rfl := keyOf_uncut (key.symm ▸ uncut)
  obtain ⟨column, place, rfl⟩ := Option.map_eq_some_iff.mp mapped
  rw [← show f.name = name from key] at named
  exact ⟨rfl, column_nonempty named place⟩

variable {σ : Type} {n : Nat}

theorem insertion_run (dao : Dao σ n) (w : Mutation) (o : Object) (s : State σ) :
    (do dao.execute (← Dao.written ((← dao.writer).insert w o) []) : Action σ Nat).run.run s =
      match Dao.written ((dao.executor.writer s.database).insert w o) [] with
      | .error e => (.error e, s)
      | .ok q => (dao.execute q).run.run s := by
  rw [bind_run, writer_run]
  dsimp only
  rw [bind_run, lift_run]
  cases Dao.written ((dao.executor.writer s.database).insert w o) [] <;> rfl

/-- The object has its identifier as soon as there is one, whatever fails after that. -/
theorem createWithId_eq (dao : Dao σ n) {s : State σ} (found : known dao s.store dao.entity = .ok m) (fresh : Uuid) (o : Object) :
    (dao.createWithId fresh o).run s =
      let prepared : State σ := { s with store := (s.store.get dao.schema dao.entity).2 }
      match Mutation.of m with
      | .error e => ((.error e, o), prepared)
      | .ok w => match Dao.withId w fresh o with
        | .error e => ((.error e, o), prepared)
        | .ok o => match Dao.written ((dao.executor.writer s.database).insert w o) [] with
          | .error e => ((.error e, o), prepared)
          | .ok q =>
            let (answer, database) := dao.executor.execute q s.database
            ((answer, o), { prepared with database }) := by
  rw [Dao.createWithId, StateT.run_bind, mutation_run found]
  cases Mutation.of m with
  | error e => rfl
  | ok w =>
    cases assigned : Dao.withId w fresh o with
    | error e =>
      simp only [bind, assigned]
      rfl
    | ok identified =>
      simp only [bind, assigned]
      have inserts := insertion_run dao w identified { s with store := (s.store.get dao.schema dao.entity).2 }
      refine (congrArg (fun run => ((run.1, identified), run.2)) inserts).trans ?_
      cases Dao.written ((dao.executor.writer s.database).insert w identified) [] <;> rfl

theorem createWithId_ok {dao : Dao σ n} {s s' : State (σ × List Query)} (found : known dao s.store dao.entity = .ok m)
    (stock : (dao.executor.writer s.database.1).insert = Mutation.insert) {fresh : Uuid} {count : Nat}
    (done : ((recording dao).createWithId fresh o).run s = ((.ok count, o'), s')) :
    ∃ w q, Mutation.of m = .ok w ∧ Dao.withId w fresh o = .ok o' ∧ Dao.written (w.insert o') [] = .ok q ∧
      s'.database.2 = s.database.2 ++ [q] := by
  rw [createWithId_eq (recording dao) found] at done
  dsimp only at done
  split at done
  · cases done
  · next w gate =>
    split at done
    · cases done
    · next identified assigned =>
      split at done
      · cases done
      · next q written =>
        have left : identified = o' := congrArg (·.1.2) done
        have sent : s.database.2 ++ [q] = s'.database.2 := congrArg (·.2.database.2) done
        rw [show ((recording dao).executor.writer s.database).insert = Mutation.insert from stock] at written
        exact ⟨w, q, gate, left ▸ assigned, left ▸ written, sent.symm⟩

/-- What is inserted as the identifier is what the object then has as its identifier, with inserts as the stock writers write
them. -/
theorem createWithId_inserts (built : Metadata.build d = .ok m) {dao : Dao σ n} {s s' : State (σ × List Query)}
    (found : known dao s.store dao.entity = .ok m) (stock : (dao.executor.writer s.database.1).insert = Mutation.insert)
    {mapping : FieldMapping} (registered : m.field? "id" = some mapping)
    (writable : mapping.readOnly = false) (settable : IdSettable d) (of : o.IsOf d) {fresh : Uuid} {count : Nat}
    (done : ((recording dao).createWithId fresh o).run s = ((.ok count, o'), s')) :
    ∃ table v, m.tables = [table] ∧
      (let columns := (inserted m o').map (·.1)
      s'.database.2 = s.database.2 ++ [⟨"insert into " ++ table.name ++ "(" ++ ",".intercalate (shown columns) ++ ") values ("
        ++ ",".intercalate (columns.map fun _ => "?") ++ ")", (inserted m o').map (·.2)⟩] ∧
      ("" ∉ columns → shown columns = columns) ∧ mapping.column ∈ shown columns) ∧
      (mapping.column, v) ∈ inserted m o' ∧ Identified d o o' (generated table.name fresh) v := by
  obtain ⟨w, q, gate, assigned, written, sent⟩ := createWithId_ok found stock done
  obtain ⟨table, single, rfl⟩ := of_ok gate
  obtain ⟨q', run, rfl⟩ := ready_eq_ok_iff.mp ((written_eq _ _).symm.trans written)
  obtain rfl := insert_ok run
  obtain ⟨v, identified⟩ := identified_of_withId (w := ⟨m, table.name⟩) (build_definition built) of settable assigned
  have here := (mem_fields_iff built).mpr registered
  obtain ⟨free, nonempty⟩ := registered_uncut built uncut_id (by decide +kernel) registered
  have member : (mapping.column, v) ∈ inserted m o' := by
    obtain ⟨_, _, read, value, _⟩ := identified
    refine List.mem_filterMap.mpr ⟨_, here, ?_⟩
    rw [inserted?, build_definition built, read]
    simp [FieldMapping.isWritten, writable, free, value]
  refine ⟨table, v, single, ⟨?_, shown_filled, mem_shown nonempty (List.mem_map_of_mem (f := (·.1)) member)⟩, member, identified⟩
  rw [sent, insertion_eq]
  simp [Query.empty]

def accepting : Executor Unit := ⟨fun _ => Dialect.generic.writer, fun _ s => (.ok [], s), fun _ s => (.ok 1, s)⟩

def holding (m : Metadata) : State (Unit × List Query) :=
  ⟨((), []), ⟨(∅ : Std.HashMap Nat Metadata).insert 0 m, 1⟩, .empty, .empty, {}⟩

/-- An order that has its identifier from a base. -/
def order : Definition where
  type := ⟨0, "Order"⟩
  clauses := ⟨some "T_ORDER", none, none, none⟩
  fields := .value ⟨"number", none, false, .text, true, true⟩
    (.nested ⟨"stored", .base, false, ⟨1, "Stored"⟩⟩ (.value ⟨"id", none, false, .text, true, true⟩ .nil) .nil)

def orderMetadata : Metadata := .ofTables order [⟨"T_ORDER", "T_ORDER"⟩]

def orders : Dao Unit 2 where
  schema := ⟨fun
    | 0 => ⟨"Order", order.clauses, [.value ⟨"number", none, false, .text, true, true⟩, .nested "stored" .base false 1]⟩
    | 1 => ⟨"Stored", ⟨none, none, none, none⟩, [.value ⟨"id", none, false, .text, true, true⟩]⟩⟩
  entity := 0
  executor := accepting

def unnumbered (id : Value) : Object := ⟨0, .value (.varchar (some "A1")) (.present 1 (.value id .nil) .nil)⟩

def seventh : String := "T_ORDER-00000000-0000-0000-0000-000000000007"

theorem generated_order : generated "T_ORDER" ⟨7⟩ = seventh := by decide +kernel

theorem createWithId_inserts_order :
    let result := ((recording orders).createWithId ⟨7⟩ (unnumbered (.varchar none))).run (holding orderMetadata)
    result.2.database.2 =
      [⟨"insert into T_ORDER(NUMBER,ID) values (?,?)", [.varchar (some "A1"), .varchar (some seventh)]⟩] ∧
    Identified order (unnumbered (.varchar none)) result.1.2 seventh (.varchar (some seventh)) := by
  have built : Metadata.build order = .ok orderMetadata := rfl
  have found : known orders (holding orderMetadata).store orders.entity = .ok orderMetadata := by
    simp [known, holding, orders, MetadataStore.get]
  have registered : orderMetadata.field? "id" = some ⟨"ID", false, false⟩ := by cbv
  have settable : IdSettable order := by
    unfold IdSettable
    decide +kernel
  have fit : order.fields.Fit (unnumbered (.varchar none)).slots := by
    simp [order, unnumbered, Fields.Fit, Value.sameKind, Value.typeName, Scalar.null]
  have gate : Mutation.of orderMetadata = .ok ⟨orderMetadata, "T_ORDER"⟩ := rfl
  have assigned : Dao.withId ⟨orderMetadata, "T_ORDER"⟩ ⟨7⟩ (unnumbered (.varchar none)) =
      .ok (unnumbered (.varchar (some seventh))) := by
    have read : order.read (unnumbered (.varchar none)) "id" = some (.varchar none) := by cbv
    rw [Dao.withId, show orderMetadata.definition = order from rfl, read, ← generated, generated_order]
    cbv
  have written : Dao.written (((recording orders).executor.writer (holding orderMetadata).database).insert
      ⟨orderMetadata, "T_ORDER"⟩ (unnumbered (.varchar (some seventh)))) [] =
      .ok ⟨"insert into T_ORDER(NUMBER,ID) values (?,?)", [.varchar (some "A1"), .varchar (some seventh)]⟩ := by
    cbv
  have run := createWithId_eq (recording orders) found ⟨7⟩ (unnumbered (.varchar none))
  simp only [gate, assigned, written] at run
  obtain ⟨table, v, single, ⟨sent, _⟩, member, identified⟩ :=
    createWithId_inserts built found rfl registered rfl settable ⟨rfl, fit⟩ run
  have values : inserted orderMetadata (unnumbered (.varchar (some seventh))) =
      [("NUMBER", .varchar (some "A1")), ("ID", .varchar (some seventh))] := by cbv
  cases single
  rw [values] at sent member
  obtain rfl : v = .varchar (some seventh) := by simpa using member
  rw [generated_order] at identified
  dsimp only
  rw [run]
  exact ⟨sent, identified⟩

/-- The first column is empty, so the list holds the column of the identifier alone. -/
def unlisted : Definition where
  type := ⟨0, "Dashed"⟩
  clauses := ⟨none, none, none, none⟩
  fields := .value ⟨"-", none, false, .text, true, true⟩ (.value ⟨"id", none, false, .text, true, true⟩ .nil)

def unlistedMetadata : Metadata := .ofTables unlisted [⟨"DASHED", "DASHED"⟩]

def dashes : Dao Unit 1 where
  schema := ⟨fun _ => ⟨"Dashed", unlisted.clauses,
    [.value ⟨"-", none, false, .text, true, true⟩, .value ⟨"id", none, false, .text, true, true⟩]⟩⟩
  entity := ⟨0, Nat.one_pos⟩
  executor := accepting

def listless : Object := ⟨0, .value (.varchar (some "x")) (.value (.varchar (some "7")) .nil)⟩

theorem eq_single_of_intercalate {column : String} (nonempty : column ≠ "") (whole : ',' ∉ column.toList)
    {columns : List String} (list : ",".intercalate columns = column) : columns = [column] := by
  match columns with
  | [] => exact absurd list.symm nonempty
  | [first] => simpa using list
  | first :: next :: columns =>
    refine absurd ?_ whole
    rw [← list, String.intercalate_cons_cons]
    simp

theorem unlisted_misplaced :
    ∃ o s' q, Metadata.build unlisted = .ok unlistedMetadata ∧ unlistedMetadata.tables = [⟨"DASHED", "DASHED"⟩] ∧
      known dashes (holding unlistedMetadata).store dashes.entity = .ok unlistedMetadata ∧
      EveryType Plain unlisted.fields ∧ (∀ f ∈ unlisted.fields.leaves, f.column = none) ∧
      unlistedMetadata.field? "id" = some ⟨"ID", false, false⟩ ∧ IdSettable unlisted ∧ o.IsOf unlisted ∧
      ((recording dashes).createWithId ⟨7⟩ o).run (holding unlistedMetadata) = ((.ok 1, o), s') ∧ s'.database.2 = [q] ∧
      ∀ columns : List String, q.sql = "insert into DASHED(" ++ ",".intercalate columns ++ ") values (?,?)" →
      ∀ i : Nat, columns[i]? = some "ID" → q.params[i]? ≠ unlisted.read o "id" := by
  have known : known dashes (holding unlistedMetadata).store dashes.entity = .ok unlistedMetadata := by
    simp [known, holding, dashes, MetadataStore.get]
  have gate : Mutation.of unlistedMetadata = .ok ⟨unlistedMetadata, "DASHED"⟩ := rfl
  have assigned : Dao.withId ⟨unlistedMetadata, "DASHED"⟩ ⟨7⟩ listless = .ok listless := by
    rw [Dao.withId, show unlistedMetadata.definition = unlisted from rfl,
      show unlisted.read listless "id" = some (.varchar (some "7")) by cbv]
    rfl
  have written : Dao.written (((recording dashes).executor.writer (holding unlistedMetadata).database).insert
      ⟨unlistedMetadata, "DASHED"⟩ listless) [] =
      .ok ⟨"insert into DASHED(ID) values (?,?)", [.varchar (some "x"), .varchar (some "7")]⟩ := by
    cbv
  have run := createWithId_eq (recording dashes) known ⟨7⟩ listless
  simp only [gate, assigned, written] at run
  refine ⟨listless, _, _, rfl, rfl, known, by decide +kernel, by decide +kernel, by cbv, ?settable, ⟨rfl, ?fit⟩, run, rfl, ?_⟩
  case settable =>
    unfold IdSettable
    decide +kernel
  case fit => simp [unlisted, listless, Fields.Fit, Value.sameKind, Value.typeName, Scalar.null]
  intro columns text i place
  have list : ",".intercalate columns = "ID" := by
    have text : "insert into DASHED(" ++ "ID" ++ ") values (?,?)" =
        "insert into DASHED(" ++ ",".intercalate columns ++ ") values (?,?)" := text
    rw [String.append_assoc, String.append_assoc, String.append_right_inj, String.append_left_inj] at text
    exact text.symm
  rw [eq_single_of_intercalate (by decide) (by decide) list] at place
  cases i with
  | zero =>
    rw [show unlisted.read listless "id" = some (.varchar (some "7")) by cbv]
    simp
  | succ i => cases place

end EntityMapping.Proofs.AssignedIdentifiers
