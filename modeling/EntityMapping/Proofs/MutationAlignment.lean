import EntityMapping.Proofs.VisibleFields
import EntityMapping.Session.Dao

/-! The columns, the placeholders and the parameters of a mutation: each is written by a loop of its own, and they stay aligned.
Reading does not fail between two columns, so an insert that fails leaves its query as it was. -/

namespace EntityMapping.Proofs.MutationAlignment
open Entity FieldIndex Statement Session VisibleFields FieldRegistration SetterResolution

section Runs
variable {α β S : Type}

theorem bind_run (first : ExceptT Failure (StateM S) α) (next : α → ExceptT Failure (StateM S) β) (s : S) :
    (first >>= next).run.run s = match first.run.run s with
      | (.ok a, s) => (next a).run.run s
      | (.error e, s) => (.error e, s) := by
  change (match first.run.run s with | (a, s) => (ExceptT.bindCont next a).run s) = _
  cases first.run.run s with
  | mk result s => cases result <;> rfl

theorem lift_run (x : Except Failure α) (s : S) : (liftM x : ExceptT Failure (StateM S) α).run.run s = (x, s) := rfl

theorem pure_run (a : α) (s : S) : (pure a : ExceptT Failure (StateM S) α).run.run s = (.ok a, s) := rfl

theorem throw_run (e : Failure) (s : S) : (throw e : ExceptT Failure (StateM S) α).run.run s = (.error e, s) := rfl

theorem text_run (s : String) (q : Query) : (Writing.text s).run.run q = (.ok (), { q with sql := q.sql ++ s }) := rfl

theorem param_run (v : Value) (q : Query) : (Writing.param v).run.run q = (.ok (), { q with params := q.params ++ [v] }) := rfl

end Runs

variable {d : Definition} {m : Metadata} {w : Mutation} {o : Object}

/-- The column and the value that an insert writes for a field. -/
def inserted? (m : Metadata) (o : Object) (field : String × FieldMapping) : Option (String × Value) :=
  if field.2.isWritten then ((m.definition.read o field.1).filter (!·.isNull)).map (field.2.column, ·) else none

/-- What an insert writes, in the order of the metadata. -/
def inserted (m : Metadata) (o : Object) : List (String × Value) := m.fields.filterMap (inserted? m o)

/-- Every written field can be read. -/
def Readable (m : Metadata) (o : Object) (fields : List (String × FieldMapping)) : Prop :=
  ∀ field ∈ fields, field.2.isWritten → ∃ v, m.definition.read o field.1 = some v

/-- Each value lengthens the parameters that the values of the rest are added to. -/
theorem insertedColumns_run {fields : List (String × FieldMapping)} (readable : Readable m o fields) (q : Query) :
    (Mutation.insertedColumns m o fields).run.run q =
      (.ok ((fields.filterMap (inserted? m o)).map (·.1)),
        { q with params := q.params ++ (fields.filterMap (inserted? m o)).map (·.2) }) := by
  induction fields generalizing q with
  | nil =>
    simp only [List.filterMap_nil, List.map_nil, List.append_nil]
    rfl
  | cons field rest ih =>
    obtain ⟨key, mapping⟩ := field
    specialize ih fun field member => readable field (.tail _ member)
    unfold Mutation.insertedColumns
    split
    · next skipped =>
      have nothing : inserted? m o (key, mapping) = none := if_neg (by simpa using skipped)
      rw [List.filterMap_cons_none nothing]
      exact ih q
    · next kept =>
      have kept : mapping.isWritten = true := by simpa using kept
      obtain ⟨v, read⟩ := readable (key, mapping) (.head _) kept
      rw [bind_run, readField, read, lift_run]
      dsimp only
      split
      · next null =>
        have nothing : inserted? m o (key, mapping) = none := by simp [inserted?, kept, read, null]
        rw [List.filterMap_cons_none nothing]
        exact ih q
      · next value =>
        have something : inserted? m o (key, mapping) = some (mapping.column, v) := by simp [inserted?, kept, read, value]
        rw [List.filterMap_cons_some something]
        simp only [bind_run, param_run, ih, pure_run, List.append_assoc]
        rfl

/-- The text of an insert. -/
def insertion (table : String) (columns : List String) : String :=
  "insert into " ++ table ++ "(" ++ Text.separated "," columns ++ ") values ("
    ++ Text.separated "," (columns.map fun _ => "?") ++ ")"

theorem insert_run (readable : Readable w.metadata o w.metadata.fields) (q : Query) :
    (w.insert o).run.run q =
      if inserted w.metadata o = [] then (.error (noFields w.metadata), q)
      else (.ok (), ⟨q.sql ++ insertion w.table ((inserted w.metadata o).map (·.1)),
        q.params ++ (inserted w.metadata o).map (·.2)⟩) := by
  rw [Mutation.insert, bind_run, insertedColumns_run readable, ← inserted]
  cases inserted w.metadata o with
  | nil =>
    change (Except.error (noFields w.metadata), (⟨q.sql, q.params ++ []⟩ : Query)) = _
    rw [List.append_nil]
    rfl
  | cons pair pairs =>
    rw [if_neg (List.cons_ne_nil _ _)]
    rfl

/-- Columns that were collected were read. -/
theorem readable_of_columns {fields : List (String × FieldMapping)} {columns : List String} {q q' : Query}
    (done : (Mutation.insertedColumns m o fields).run.run q = (.ok columns, q')) : Readable m o fields := by
  induction fields generalizing columns q q' with
  | nil => exact nofun
  | cons field rest ih =>
    obtain ⟨key, mapping⟩ := field
    unfold Mutation.insertedColumns at done
    split at done
    · next skipped =>
      refine List.forall_mem_cons.mpr ⟨fun written => ?_, ih done⟩
      rw [written] at skipped
      cases skipped
    · rw [bind_run, readField] at done
      cases found : m.definition.read o key with
      | none => rw [found] at done; cases done
      | some v =>
        rw [found, lift_run] at done
        refine List.forall_mem_cons.mpr ⟨fun _ => ⟨v, found⟩, ?_⟩
        dsimp only at done
        split at done
        · exact ih done
        · rw [bind_run, param_run] at done
          dsimp only at done
          rw [bind_run] at done
          split at done
          · next run => exact ih run
          · cases done

theorem insert_ok {q q' : Query} (done : (w.insert o).run.run q = (.ok (), q')) :
    q' = ⟨q.sql ++ insertion w.table ((inserted w.metadata o).map (·.1)), q.params ++ (inserted w.metadata o).map (·.2)⟩ := by
  have readable : Readable w.metadata o w.metadata.fields := by
    rw [Mutation.insert, bind_run] at done
    split at done
    · next columns q'' collected => exact readable_of_columns collected
    · cases done
  rw [insert_run readable] at done
  split at done
  · cases done
  · cases done
    rfl

/-- Nothing is written for an object that cannot be read. -/
theorem insertedColumns_unread (unread : ∀ key, m.definition.read o key = none) (fields : List (String × FieldMapping))
    (q : Query) :
    (∃ e, (Mutation.insertedColumns m o fields).run.run q = (.error e, q)) ∨
      (Mutation.insertedColumns m o fields).run.run q = (.ok [], q) := by
  induction fields with
  | nil => exact .inr rfl
  | cons field rest ih =>
    obtain ⟨key, mapping⟩ := field
    unfold Mutation.insertedColumns
    split
    · exact ih
    · rw [bind_run, readField, unread, lift_run]
      exact .inl ⟨_, rfl⟩

theorem insert_unread (unread : ∀ key, w.metadata.definition.read o key = none) (q : Query) :
    ∃ e, (w.insert o).run.run q = (.error e, q) := by
  rw [Mutation.insert, bind_run]
  rcases insertedColumns_unread unread w.metadata.fields q with ⟨e, failed⟩ | nothing
  · rw [failed]
    exact ⟨e, rfl⟩
  · rw [nothing]
    exact ⟨_, throw_run _ q⟩

/-- The columns that show in a list of columns: an empty one does so at the end only. -/
def shown : List String → List String
  | [] => []
  | [column] => [column]
  | column :: next :: columns => if column.isEmpty then shown (next :: columns) else column :: shown (next :: columns)

private theorem shown_ne_nil (column : String) (columns : List String) : shown (column :: columns) ≠ [] := by
  induction columns generalizing column with
  | nil => exact List.cons_ne_nil _ _
  | cons next columns ih =>
    unfold shown
    split
    · exact ih next
    · exact List.cons_ne_nil _ _

theorem separated_eq (separator : String) (columns : List String) :
    Text.separated separator columns = separator.intercalate (shown columns) := by
  fun_induction shown columns with
  | case1 => rfl
  | case2 column => simp [Text.separated]
  | case3 column next columns empty ih =>
    rw [Text.separated, if_pos empty, ih, String.empty_append]
  | case4 column next columns filled ih =>
    obtain ⟨first, others, more⟩ := List.exists_cons_of_ne_nil (shown_ne_nil next columns)
    rw [Text.separated, if_neg filled, ih, more, String.intercalate_cons_cons]

theorem shown_filled {columns : List String} (filled : "" ∉ columns) : shown columns = columns := by
  fun_induction shown columns with
  | case1 => rfl
  | case2 column => rfl
  | case3 column next columns empty ih => exact absurd (.head _) ((String.isEmpty_iff.mp empty) ▸ filled)
  | case4 column next columns _ ih => rw [ih fun member => filled (.tail _ member)]

theorem mem_shown {column : String} (nonempty : column ≠ "") {columns : List String} (member : column ∈ columns) :
    column ∈ shown columns := by
  fun_induction shown columns with
  | case1 => exact member
  | case2 => exact member
  | case3 first next columns empty ih =>
    have other : column ≠ first := fun same => nonempty (same.trans (String.isEmpty_iff.mp empty))
    exact ih ((List.mem_cons.mp member).resolve_left other)
  | case4 first next columns _ ih =>
    rcases List.mem_cons.mp member with same | later
    · exact same ▸ .head _
    · exact .tail _ (ih later)

theorem insertion_eq (table : String) (columns : List String) :
    insertion table columns = "insert into " ++ table ++ "(" ++ ",".intercalate (shown columns) ++ ") values ("
      ++ ",".intercalate (columns.map fun _ => "?") ++ ")" := by
  have list := separated_eq "," columns
  have marks := separated_eq "," (columns.map fun _ => "?")
  rw [shown_filled (by simp)] at marks
  exact congrArg₂ (fun list marks => "insert into " ++ table ++ "(" ++ list ++ ") values (" ++ marks ++ ")") list marks

def assignment (field : String × FieldMapping) : String := field.2.column ++ "=?"

/-- Assignments that succeed have written every field with its value, whether null or not. -/
theorem assignments_ok {fields : List (String × FieldMapping)} {first : Bool} {q q' : Query}
    (done : (Mutation.assignments m o first fields).run.run q = (.ok (), q')) :
    ∃ values : List Value, fields.map (fun field => m.definition.read o field.1) = values.map some ∧
      q' = ⟨q.sql ++ ((if first || fields.isEmpty then "" else ",") ++ ",".intercalate (fields.map assignment)),
        q.params ++ values⟩ := by
  induction fields generalizing first q with
  | nil =>
    cases done
    exact ⟨[], rfl, by simp⟩
  | cons field rest ih =>
    obtain ⟨key, mapping⟩ := field
    rw [Mutation.assignments, bind_run, readField] at done
    cases found : m.definition.read o key with
    | none => rw [found] at done; cases done
    | some v =>
      simp only [found, lift_run, bind_run, param_run, text_run] at done
      obtain ⟨values, read, rfl⟩ := ih done
      refine ⟨v :: values, by rw [List.map_cons, found, read, List.map_cons], ?_⟩
      have text : ∀ lead, lead ++ mapping.column ++ "=?" = lead ++ assignment (key, mapping) := fun _ => String.append_assoc
      rw [text]
      cases rest with
      | nil => cases first <;> simp
      | cons next rest => cases first <;> simp [String.append_assoc, String.intercalate_cons_cons]

def listed (list : Option String) : List String := (list.map Text.splitList).getD []

/-- The fields of the included names, each once and in the order of the list. When none is included these are all fields but the
excluded ones, in the order of the metadata. -/
structure Selected (m : Metadata) (includes excludes : Option String) (picked : List (String × FieldMapping)) : Prop where
  registered : ∀ field ∈ picked, field ∈ m.fields
  keys : picked.map (·.1) = match listed includes with
    | [] => (m.fields.map (·.1)).filter fun key => key ∉ listed excludes
    | names => names.eraseDups

theorem pickField_spec {picked result : List (String × FieldMapping)} {name : String}
    (done : pickField m picked name = .ok result) :
    (name ∈ picked.map (·.1) ∧ result = picked) ∨
      (name ∉ picked.map (·.1) ∧ ∃ mapping, (name, mapping) ∈ m.fields ∧ result = picked ++ [(name, mapping)]) := by
  unfold pickField at done
  split at done
  · cases done
  · next key mapping found =>
    obtain rfl : key = name := by simpa using List.find?_some found
    have member := List.mem_of_find?_eq_some found
    have again : (picked.any (·.1 == key)) = true ↔ key ∈ picked.map (·.1) := by simp
    cases done
    split
    · next seen => exact .inl ⟨again.mp seen, rfl⟩
    · next unseen => exact .inr ⟨fun seen => unseen (again.mpr seen), mapping, member, rfl⟩

private theorem eraseDups_unseen {seen names : List String} {name : String} (unseen : name ∉ seen) :
    ((name :: names).filter fun name => name ∉ seen).eraseDups =
      name :: (names.filter fun other => other ∉ seen ++ [name]).eraseDups := by
  rw [List.filter_cons_of_pos (by simpa using unseen), List.eraseDups_cons, List.filter_filter]
  congr 2
  apply List.filter_congr
  intro other _
  grind

theorem pickField_foldlM {names : List String} {picked result : List (String × FieldMapping)}
    (done : names.foldlM (pickField m) picked = .ok result) :
    (∀ field ∈ result, field ∈ picked ∨ field ∈ m.fields) ∧
      result.map (·.1) = picked.map (·.1) ++ (names.filter fun name => name ∉ picked.map (·.1)).eraseDups := by
  induction names generalizing picked with
  | nil =>
    cases done
    exact ⟨fun _ member => .inl member, (List.append_nil _).symm⟩
  | cons name names ih =>
    rw [List.foldlM_cons] at done
    cases step : pickField m picked name with
    | error e => rw [step] at done; cases done
    | ok next =>
      rw [step] at done
      obtain ⟨members, keys⟩ := ih done
      rcases pickField_spec step with ⟨seen, same⟩ | ⟨unseen, mapping, member, more⟩
      · subst same
        rw [List.filter_cons_of_neg (by simpa using seen)]
        exact ⟨members, keys⟩
      · subst more
        constructor
        · intro field inside
          rcases members field inside with old | registered
          · rcases List.mem_append.mp old with old | new
            · exact .inl old
            · rw [List.mem_singleton.mp new]
              exact .inr member
          · exact .inr registered
        · rw [keys, eraseDups_unseen unseen, List.map_append, List.append_assoc]
          rfl

theorem selectFields_spec {includes excludes : Option String} {picked : List (String × FieldMapping)}
    (done : selectFields m includes excludes = .ok picked) : Selected m includes excludes picked := by
  unfold selectFields at done
  rw [← listed] at done
  cases names : listed includes with
  | nil =>
    rw [names] at done
    cases done
    refine ⟨fun field member => (List.mem_filter.mp member).1, ?_⟩
    rw [names, List.filter_map]
    congr 1
    apply List.filter_congr
    intro field _
    by_cases excluded : field.1 ∈ listed excludes <;> simp_all [listed]
  | cons name names' =>
    rw [names] at done
    obtain ⟨members, keys⟩ := pickField_foldlM done
    refine ⟨fun field member => (members field member).resolve_left List.not_mem_nil, ?_⟩
    rw [keys, names]
    simp

theorem update_written {includes excludes filter : Option String} {q q' : Query}
    (done : (w.update o includes excludes filter).run.run q = (.ok (), q')) :
    ∃ picked condition, ∃ values : List Value, selectFields w.metadata includes excludes = .ok picked ∧
      whereClause ⟨.updateWhere, none⟩ w.metadata filter = .ok condition ∧
      picked.filter (·.2.isWritten) ≠ [] ∧
      (picked.filter (·.2.isWritten)).map (fun field => w.metadata.definition.read o field.1) = values.map some ∧
      q' = ⟨q.sql ++ "update " ++ w.table ++ " set "
        ++ ",".intercalate ((picked.filter (·.2.isWritten)).map assignment) ++ condition, q.params ++ values⟩ := by
  rw [Mutation.update, bind_run, lift_run] at done
  cases selection : selectFields w.metadata includes excludes with
  | error e => rw [selection] at done; cases done
  | ok picked =>
    rw [selection] at done
    dsimp only at done
    split at done
    · cases done
    · next fields nonempty =>
      simp only [bind_run, text_run, lift_run] at done
      split at done
      · next written assigned =>
        obtain ⟨values, read, rfl⟩ := assignments_ok assigned
        cases clause : whereClause ⟨.updateWhere, none⟩ w.metadata filter with
        | error e => rw [clause] at done; cases done
        | ok condition =>
          rw [clause] at done
          cases done
          refine ⟨picked, condition, values, rfl, rfl, nonempty, read, ?_⟩
          simp [String.append_assoc]
      · cases done

theorem update_ok {includes excludes filter : Option String} {q q' : Query}
    (done : (w.update o includes excludes filter).run.run q = (.ok (), q')) :
    ∃ picked condition, ∃ values : List Value, Selected w.metadata includes excludes picked ∧
      whereClause ⟨.updateWhere, none⟩ w.metadata filter = .ok condition ∧
      picked.filter (·.2.isWritten) ≠ [] ∧
      (picked.filter (·.2.isWritten)).map (fun field => w.metadata.definition.read o field.1) = values.map some ∧
      q' = ⟨q.sql ++ "update " ++ w.table ++ " set "
        ++ ",".intercalate ((picked.filter (·.2.isWritten)).map assignment) ++ condition, q.params ++ values⟩ := by
  obtain ⟨picked, condition, values, selection, written⟩ := update_written done
  exact ⟨picked, condition, values, selectFields_spec selection, written⟩

variable {σ : Type} {n : Nat}

theorem mutation_run {dao : Dao σ n} {s : State σ} (known : (s.store.get dao.schema dao.entity).1 = .ok m) :
    dao.mutation.run.run s = (Mutation.of m, { s with store := (s.store.get dao.schema dao.entity).2 }) := by
  have found : dao.metadata.run.run s = (.ok m, { s with store := (s.store.get dao.schema dao.entity).2 }) := by
    rw [← known]
    rfl
  simp only [Dao.mutation, bind_run, found, lift_run]

theorem writer_run (dao : Dao σ n) (s : State σ) : dao.writer.run.run s = (.ok (dao.executor.writer s.database), s) := rfl

/-- An update sends what it has written, and then the arguments of its filter if it has one. -/
theorem update_run (gate : Mutation.of m = .ok w) {dao : Dao σ n} {s : State σ}
    (known : (s.store.get dao.schema dao.entity).1 = .ok m) {includes excludes filter : Option String} {q : Query}
    (done : ((dao.executor.writer s.database).update w o includes excludes filter).run.run .empty = (.ok (), q)) (args : List Value) :
    (dao.update o includes excludes filter args).run.run s =
      let sent : Query := ⟨q.sql, q.params ++ if (Text.nonBlank? filter).isSome then args else []⟩
      let (answer, database) := dao.executor.execute sent s.database
      (answer, { s with store := (s.store.get dao.schema dao.entity).2, database }) := by
  simp only [Dao.update, bind_run, mutation_run known, gate, lift_run, writer_run, Dao.written, done]
  rfl

theorem readable_of (built : Metadata.build d = .ok m) (distinct : EveryType Distinct d.fields)
    (uncut : ∀ f ∈ visible d.fields, Uncut f.name) (of : o.IsOf d) : Readable m o m.fields := by
  intro ⟨key, mapping⟩ member written
  obtain ⟨f, visible, rfl, _⟩ := visible_of_written built member written
  have found := read_isSome distinct of visible (uncut f visible)
  rw [build_definition built]
  exact Option.isSome_iff_exists.mp found

/-- An insert fails without a trace, or it writes all that there is to write. -/
theorem insert_result (built : Metadata.build d = .ok m) (plain : EveryType Plain d.fields)
    (typed : o.type = d.type.id → d.fields.Fit o.slots) (same : w.metadata = m) (q : Query) :
    (∃ e, (w.insert o).run.run q = (.error e, q)) ∨
      (inserted m o ≠ [] ∧ (w.insert o).run.run q =
        (.ok (), ⟨q.sql ++ insertion w.table ((inserted m o).map (·.1)), q.params ++ (inserted m o).map (·.2)⟩)) := by
  subst same
  by_cases type : o.type = d.type.id
  · have uncut := fun f (member : f ∈ visible d.fields) => uncut_of_visible plain member
    rw [insert_run (readable_of built (distinct_of_plain plain) uncut ⟨type, typed type⟩)]
    split
    · exact .inl ⟨_, rfl⟩
    · next nonempty => exact .inr ⟨nonempty, rfl⟩
  · exact .inl (insert_unread (fun key => build_definition built ▸ read_other type key) q)

theorem of_ok (gate : Mutation.of m = .ok w) : ∃ table, m.tables = [table] ∧ w = ⟨m, table.name⟩ := by
  unfold Mutation.of at gate
  split at gate
  · next table single =>
    cases gate
    exact ⟨table, single, rfl⟩
  · cases gate

/-- A mutation keeps its columns, its placeholders and its parameters aligned. -/
theorem mutation_aligned {table : Table} (built : Metadata.build d = .ok m) (single : m.tables = [table])
    (gate : Mutation.of m = .ok w) (plain : EveryType Plain d.fields)
    (typed : o.type = d.type.id → d.fields.Fit o.slots) :
    (∀ q q', (w.insert o).run.run q = (.ok (), q') →
      let columns := (inserted m o).map (·.1)
      columns ≠ [] ∧ ("" ∉ columns → shown columns = columns) ∧
      q' = ⟨q.sql ++ "insert into " ++ table.name ++ "(" ++ ",".intercalate (shown columns) ++ ") values ("
        ++ ",".intercalate (columns.map fun _ => "?") ++ ")", q.params ++ (inserted m o).map (·.2)⟩) ∧
    (∀ q q' e, (w.insert o).run.run q = (.error e, q') → q' = q) ∧
    (∀ includes excludes filter q q', (w.update o includes excludes filter).run.run q = (.ok (), q') →
      ∃ picked condition, ∃ values : List Value, Selected m includes excludes picked ∧
        whereClause ⟨.updateWhere, none⟩ m filter = .ok condition ∧
        picked.filter (·.2.isWritten) ≠ [] ∧
        (picked.filter (·.2.isWritten)).map (fun field => d.read o field.1) = values.map some ∧
        q' = ⟨q.sql ++ "update " ++ table.name ++ " set "
          ++ ",".intercalate ((picked.filter (·.2.isWritten)).map fun field => field.2.column ++ "=?") ++ condition,
          q.params ++ values⟩) ∧
    ∀ includes excludes filter args q (σ : Type) (n : Nat) (dao : Dao σ n) (s : State σ),
      ((dao.executor.writer s.database).update w o includes excludes filter).run.run .empty = (.ok (), q) →
      (s.store.get dao.schema dao.entity).1 = .ok m →
      (dao.update o includes excludes filter args).run.run s =
        let sent : Query := ⟨q.sql, q.params ++ if (Text.nonBlank? filter).isSome then args else []⟩
        let (answer, database) := dao.executor.execute sent s.database
        (answer, { s with store := (s.store.get dao.schema dao.entity).2, database }) := by
  obtain ⟨table', single', rfl⟩ := of_ok gate
  rw [single] at single'
  cases single'
  refine ⟨?_, ?_, ?_, fun _ _ _ args _ _ _ _ _ done known => update_run gate known done args⟩
  · intro q q' done
    rcases insert_result built plain typed (w := ⟨m, table.name⟩) rfl q with ⟨e, failed⟩ | ⟨nonempty, written⟩
    · rw [failed] at done
      cases done
    · rw [written] at done
      cases done
      refine ⟨by simpa using nonempty, shown_filled, ?_⟩
      rw [insertion_eq]
      simp [String.append_assoc]
  · intro q q' e done
    rcases insert_result built plain typed (w := ⟨m, table.name⟩) rfl q with ⟨e, failed⟩ | ⟨nonempty, written⟩
    · rw [failed] at done
      cases done
      rfl
    · rw [written] at done
      cases done
  · intro includes excludes filter q q' done
    have written := update_ok done
    rwa [build_definition built] at written

/-- A value that is only read, an embedded entity, and a base that has a field of the same name. -/
def person : Definition where
  type := ⟨0, "Person"⟩
  clauses := ⟨some "T_PERSON", none, none, none⟩
  fields := .value ⟨"id", none, false, .text, true, true⟩ (.value ⟨"name", none, false, .text, true, true⟩
    (.value ⟨"version", none, true, .int32, false, true⟩
      (.nested ⟨"home", .embedded, true, ⟨1, "Address"⟩⟩ (.value ⟨"city", none, false, .text, true, true⟩ .nil)
        (.nested ⟨"audit", .base, false, ⟨2, "Audit"⟩⟩
          (.value ⟨"name", none, false, .text, true, true⟩
            (.value ⟨"createdBy", none, false, .text, true, true⟩ .nil)) .nil))))

def personMetadata : Metadata := .ofTables person [⟨"T_PERSON", "T_PERSON"⟩]

def unsaved : Object where
  type := 0
  slots := .value (.varchar none) (.value (.varchar (some "Ann")) (.value (.int32 (some 3)) (.absent (.present 2
    (.value (.varchar (some "hidden")) (.value (.varchar (some "me")) .nil)) .nil))))

/-- A database that keeps the queries it is sent. -/
def recorder : Executor (List Query) where
  writer _ := Dialect.generic.writer
  fetch q sent := (.ok [], sent ++ [q])
  execute q sent := (.ok 1, sent ++ [q])

def people : Dao (List Query) 1 := ⟨⟨fun _ => ⟨"Person", person.clauses, []⟩⟩, 0, recorder⟩

def started : State (List Query) :=
  ⟨[], ⟨(∅ : Std.HashMap Nat Metadata).insert 0 personMetadata, 1⟩, .empty, .empty, {}⟩

theorem mutation_aligned_person :
    (Mutation.insert ⟨personMetadata, "T_PERSON"⟩ unsaved).run.run ⟨"-- ", [.null]⟩ =
      (.ok (), ⟨"-- insert into T_PERSON(NAME,CREATED_BY) values (?,?)",
        [.null] ++ (inserted personMetadata unsaved).map (·.2)⟩) ∧
    ((people.update unsaved (some "name,id") none (some "\x7b#id\x7d=?") [.int32 (some 7)]).run.run started).2.database =
      [⟨"update T_PERSON set NAME=?,ID=? where ID=?", [.varchar (some "Ann"), .varchar none, .int32 (some 7)]⟩] := by
  have built : Metadata.build person = .ok personMetadata := rfl
  have fit : person.fields.Fit unsaved.slots := by
    simp [person, unsaved, Fields.Fit, Value.sameKind, Value.typeName, Scalar.null]
  obtain ⟨insertOk, _, _, sent⟩ := mutation_aligned (o := unsaved) (w := ⟨personMetadata, "T_PERSON"⟩) built rfl rfl
    (by decide +kernel) fun _ => fit
  constructor
  · have done : (Mutation.insert ⟨personMetadata, "T_PERSON"⟩ unsaved).run.run ⟨"-- ", [.null]⟩ =
        (.ok (), ⟨"-- insert into T_PERSON(NAME,CREATED_BY) values (?,?)",
          [.null, .varchar (some "Ann"), .varchar (some "me")]⟩) := by cbv
    obtain ⟨_, _, written⟩ := insertOk _ _ done
    have params : [.null, .varchar (some "Ann"), .varchar (some "me")] =
        [.null] ++ (inserted personMetadata unsaved).map (·.2) :=
      congrArg Query.params written
    rw [done, ← params]
  · have done : (Mutation.update ⟨personMetadata, "T_PERSON"⟩ unsaved (some "name,id") none
        (some "\x7b#id\x7d=?")).run.run .empty =
      (.ok (), ⟨"update T_PERSON set NAME=?,ID=? where ID=?", [.varchar (some "Ann"), .varchar none]⟩) := by cbv
    have known : (started.store.get people.schema people.entity).1 = .ok personMetadata := by
      simp [started, MetadataStore.get, people]
    have after := sent _ _ _ [.int32 (some 7)] _ _ _ people started done known
    exact (congrArg (·.2.database) after).trans (by cbv)

/-- The first column is empty, and no comma follows it. -/
def dashed : Definition where
  type := ⟨0, "Dashed"⟩
  clauses := ⟨none, none, none, none⟩
  fields := .value ⟨"-", none, false, .text, true, true⟩ (.value ⟨"b", none, false, .text, true, true⟩ .nil)

theorem dashed_misaligned :
    ∃ m table w o q, Metadata.build dashed = .ok m ∧ m.tables = [table] ∧ Mutation.of m = .ok w ∧
      EveryType Plain dashed.fields ∧ o.IsOf dashed ∧ (w.insert o).run.run .empty = (.ok (), q) ∧
      inserted m o = [("", .varchar (some "x")), ("B", .varchar (some "y"))] ∧
      q.sql ≠ "insert into " ++ table.name ++ "(" ++ ",".intercalate ["", "B"] ++ ") values ("
        ++ ",".intercalate ["?", "?"] ++ ")" := by
  refine ⟨.ofTables dashed [⟨"DASHED", "DASHED"⟩], _, ⟨_, "DASHED"⟩,
    ⟨0, .value (.varchar (some "x")) (.value (.varchar (some "y")) .nil)⟩,
    ⟨"insert into DASHED(B) values (?,?)", [.varchar (some "x"), .varchar (some "y")]⟩,
    rfl, rfl, rfl, by decide +kernel, ⟨rfl, ?_⟩, ?_, ?_, by decide +kernel⟩
  · simp [dashed, Fields.Fit, Value.sameKind, Value.typeName, Scalar.null]
  · cbv
  · cbv

end EntityMapping.Proofs.MutationAlignment
