import EntityMapping.Proofs.StatementSending

/-! Updates limited to a list of fields. The caller and the writer of the statement take the same names from the list, so a list
without a name never means all fields; and what is set is what the names are registered for, less the fields that are never
written. -/

namespace EntityMapping.Proofs.FieldLimitedUpdates
open Text Entity FieldIndex Statement Session MutationAlignment OperationPlans StatementSending Outcomes

theorem trimBoth_eq_nil_iff {cs : List Char} : trimBoth cs = [] ↔ ∀ c ∈ cs, isBlank c := by
  rw [trimBoth, trimEnd, List.reverse_eq_nil_iff, List.dropWhile_eq_nil_iff, trimStart]
  simp only [List.mem_reverse]
  constructor
  · intro rest c member
    rw [← List.takeWhile_append_dropWhile (p := isBlank) (l := cs)] at member
    cases List.mem_append.mp member with
    | inl lead => exact List.mem_takeWhile_imp lead
    | inr kept => exact rest c kept
  · intro blank c member
    exact blank c ((List.dropWhile_sublist _).subset member)

theorem splitWhere_forall {p q : Char → Bool} (cs : List Char) :
    (∀ piece ∈ splitWhere p cs, ∀ c ∈ piece, q c) ↔ ∀ c ∈ cs, p c ∨ q c := by
  induction cs with
  | nil => simp [splitWhere]
  | cons c cs ih =>
    rw [splitWhere, List.forall_mem_cons, ← ih]
    by_cases cut : p c
    · simp [cut]
    · obtain ⟨first, others, pieces⟩ := NamingRoundTrip.splitWhere_cons p cs
      simp [cut, pieces, and_assoc]

/-- A list holds no name exactly when it is made of commas and blanks. -/
theorem splitList_eq_nil_iff {list : String} : splitList list = [] ↔ ∀ c ∈ list.toList, c = ',' ∨ isBlank c := by
  have pieces := splitWhere_forall (p := (· == ',')) (q := isBlank) list.toList
  simp only [beq_iff_eq] at pieces
  rw [← pieces, splitList, List.map_eq_nil_iff, List.filter_eq_nil_iff, List.forall_mem_map]
  apply forall₂_congr
  intro piece _
  rw [← trimBoth_eq_nil_iff]
  simp

/-- The field that is registered under a name. -/
def registered (m : Metadata) (name : String) : Option (String × FieldMapping) := m.fields.find? (·.1 == name)

/-- The fields are those that the names are registered for, less the ones that are only read or embedded. Each stands once, and
they stand in the order in which the names come first. -/
structure Limited (m : Metadata) (names : List String) (set : List (String × FieldMapping)) : Prop where
  mem_iff : ∀ field, field ∈ set ↔
    field.1 ∈ names ∧ registered m field.1 = some field ∧ field.2.readOnly = false ∧ field.2.embedded = false
  ordered : set.Pairwise fun field later => names.idxOf field.1 < names.idxOf later.1

variable {m : Metadata}

theorem registered_key {name : String} {field : String × FieldMapping} (found : registered m name = some field) : field.1 = name := by
  simpa using List.find?_some found

theorem pickField_registered {picked result : List (String × FieldMapping)} {name : String}
    (done : pickField m picked name = .ok result) :
    ∃ field, registered m name = some field ∧ ∀ other ∈ result, other ∈ picked ∨ other = field := by
  unfold pickField at done
  split at done
  · cases done
  · next key mapping found =>
    cases done
    refine ⟨(key, mapping), found, fun other member => ?_⟩
    split at member
    · exact .inl member
    · exact (List.mem_append.mp member).imp_right List.mem_singleton.mp

theorem foldlM_registered {names : List String} {picked result : List (String × FieldMapping)}
    (done : names.foldlM (pickField m) picked = .ok result) :
    (∀ name ∈ names, (registered m name).isSome) ∧
      ∀ field ∈ result, field ∈ picked ∨ registered m field.1 = some field := by
  induction names generalizing picked with
  | nil =>
    cases done
    exact ⟨nofun, fun _ member => .inl member⟩
  | cons name names ih =>
    rw [List.foldlM_cons] at done
    cases step : pickField m picked name with
    | error e => rw [step] at done; cases done
    | ok next =>
      rw [step] at done
      obtain ⟨known, members⟩ := ih done
      obtain ⟨field, found, grown⟩ := pickField_registered step
      refine ⟨List.forall_mem_cons.mpr ⟨by simp [found], known⟩, fun other member => ?_⟩
      rcases members other member with inside | same
      · refine (grown other inside).imp_right fun same => ?_
        rw [same, registered_key found, found]
      · exact .inr same

/-- Names that are kept stand in the order in which they stood. -/
private theorem idxOf_filter {keep : String → Bool} {a b : String} (kept : keep a) (kept' : keep b) {names : List String}
    (before : (names.filter keep).idxOf a < (names.filter keep).idxOf b) : names.idxOf a < names.idxOf b := by
  induction names with
  | nil => exact before
  | cons name names ih =>
    by_cases here : keep name
    · rw [List.filter_cons_of_pos here] at before
      have later : b ≠ name := by
        rintro rfl
        rw [List.idxOf_cons_self] at before
        exact absurd before (Nat.not_lt_zero _)
      rw [List.idxOf_cons_ne _ later.symm] at before ⊢
      by_cases first : a = name
      · rw [first, List.idxOf_cons_self]
        exact Nat.succ_pos _
      · rw [List.idxOf_cons_ne _ (Ne.symm first)] at before ⊢
        exact Nat.succ_lt_succ (ih (Nat.lt_of_succ_lt_succ before))
    · rw [List.filter_cons_of_neg here] at before
      have other : name ≠ a := fun same => here (same ▸ kept)
      have other' : name ≠ b := fun same => here (same ▸ kept')
      rw [List.idxOf_cons_ne _ other, List.idxOf_cons_ne _ other']
      exact Nat.succ_lt_succ (ih before)

theorem eraseDups_ordered (names : List String) :
    names.eraseDups.Pairwise fun name later => names.idxOf name < names.idxOf later := by
  match names with
  | [] => exact .nil
  | name :: names =>
    rw [List.eraseDups_cons, List.pairwise_cons]
    have shorter := List.length_filter_le (fun other => !other == name) names
    constructor
    · intro other member
      have different : other ≠ name := by simpa using (List.mem_filter.mp (List.mem_eraseDups.mp member)).2
      rw [List.idxOf_cons_self, List.idxOf_cons_ne _ different.symm]
      exact Nat.succ_pos _
    · refine (eraseDups_ordered (names.filter fun other => !other == name)).imp_of_mem ?_
      intro other later member member' before
      have different : other ≠ name := by simpa using (List.mem_filter.mp (List.mem_eraseDups.mp member)).2
      have different' : later ≠ name := by simpa using (List.mem_filter.mp (List.mem_eraseDups.mp member')).2
      rw [List.idxOf_cons_ne _ different.symm, List.idxOf_cons_ne _ different'.symm]
      exact Nat.succ_lt_succ (idxOf_filter (by simpa using different) (by simpa using different') before)
termination_by names.length

theorem limited_of_selected {fields : String} {picked : List (String × FieldMapping)} (named : splitList fields ≠ [])
    (done : selectFields m (some fields) none = .ok picked) :
    (∀ name ∈ splitList fields, (registered m name).isSome) ∧
      Limited m (splitList fields) (picked.filter (·.2.isWritten)) := by
  unfold selectFields at done
  rw [Option.map_some, Option.getD_some] at done
  split at done
  · next none => exact absurd none named
  · obtain ⟨known, members⟩ := foldlM_registered done
    obtain ⟨_, keys⟩ := pickField_foldlM done
    have keys : picked.map (·.1) = (splitList fields).eraseDups := by simpa using keys
    have members : ∀ field ∈ picked, registered m field.1 = some field :=
      fun field member => (members field member).resolve_left List.not_mem_nil
    have written : ∀ field : String × FieldMapping, field.2.isWritten ↔ field.2.readOnly = false ∧ field.2.embedded = false := by
      simp [FieldMapping.isWritten]
    refine ⟨known, fun field => ?_, ?_⟩
    · have listed : field.1 ∈ splitList fields ↔ ∃ other ∈ picked, other.1 = field.1 := by
        rw [← List.mem_eraseDups, ← keys, List.mem_map]
      rw [List.mem_filter, written, listed, ← and_assoc (a := ∃ other ∈ picked, other.1 = field.1)]
      refine and_congr_left fun _ => ⟨fun member => ⟨⟨field, member, rfl⟩, members field member⟩, ?_⟩
      rintro ⟨⟨other, member, same⟩, found⟩
      have both := members other member
      rw [same, found] at both
      cases both
      exact member
    · have ordered := eraseDups_ordered (splitList fields)
      rw [← keys, List.pairwise_map] at ordered
      exact ordered.filter _

variable {σ : Type} {n : Nat}

/-- The operation fails and sends nothing, and nothing but the store of metadata may have changed. -/
def Refused (s : State (σ × List Query)) (result : Except Failure Nat × State (σ × List Query)) : Prop :=
  ∃ e store, result = (.error e, { s with store })

/-- Every name of the list is registered, and the one statement sent sets the columns of those that may be written to the values
that the object has for them. -/
def Sent (dao : Dao σ n) (o : Object) (fields filter : String) (args : List Value) (s : State (σ × List Query))
    (result : Except Failure Nat × State (σ × List Query)) : Prop :=
  ∃ m table set condition, ∃ values : List Value, known dao s.store dao.entity = .ok m ∧ m.tables = [table] ∧
    splitList fields ≠ [] ∧ (∀ name ∈ splitList fields, (registered m name).isSome) ∧ set ≠ [] ∧
    Limited m (splitList fields) set ∧
    whereClause ⟨.updateWhere, none⟩ m (some filter) = .ok condition ∧
    set.map (fun field => m.definition.read o field.1) = values.map some ∧
    result.2.database.2 = s.database.2 ++ [⟨"update " ++ table.name ++ " set "
      ++ ",".intercalate (set.map fun field => field.2.column ++ "=?") ++ condition, values ++ Dao.argsOf (some filter) args⟩]

theorem planUpdateFields_ok {dao : Dao σ n} {store : MetadataStore} {writer : Writer} {o : Object} {fields filter : String}
    {args : List Value} {p : Plan Nat} (planned : planUpdateFields dao store writer o fields filter args = .ok p) :
    splitList fields ≠ [] ∧ ∃ m w, known dao store dao.entity = .ok m ∧ Mutation.of m = .ok w ∧
      ready (writer.update w o (some fields) none (some filter)) (filterArgs (some filter) args) = .ok p.query := by
  unfold planUpdateFields at planned
  split at planned
  · cases planned
  · next named =>
    refine ⟨by simpa using named, ?_⟩
    obtain ⟨w, allowed, planned⟩ := bind_eq_ok.mp planned
    obtain ⟨m, found, single⟩ := bind_eq_ok.mp allowed
    obtain ⟨q, written, done⟩ := bind_eq_ok.mp planned
    cases done
    exact ⟨m, w, found, single, written⟩

theorem sent_of_plan {dao : Dao σ n} {s : State (σ × List Query)} {writer : Writer} (stock : writer.update = Mutation.update)
    {o : Object} {fields filter : String} {args : List Value} {p : Plan Nat}
    (planned : planUpdateFields dao s.store writer o fields filter args = .ok p)
    {result : Except Failure Nat × State (σ × List Query)} (sends : result.2.database.2 = s.database.2 ++ [p.query]) :
    Sent dao o fields filter args s result := by
  obtain ⟨named, m, w, found, single, written⟩ := planUpdateFields_ok planned
  rw [stock, ← argsOf_eq] at written
  obtain ⟨q, run, query⟩ := ready_eq_ok_iff.mp written
  obtain ⟨table, tables, rfl⟩ := of_ok single
  obtain ⟨picked, condition, values, selection, clause, nonempty, read, rfl⟩ := update_written run
  obtain ⟨known, limited⟩ := limited_of_selected named selection
  refine ⟨m, table, _, condition, values, found, tables, named, known, nonempty, limited, clause, read, ?_⟩
  rw [sends, query]
  rfl

/-- The update of listed fields sends nothing, or one update of just these fields. -/
theorem refused_or_sent (dao : Dao σ n) (o : Object) (fields filter : String) (args : List Value) (s : State (σ × List Query))
    (stock : (dao.executor.writer s.database.1).update = Mutation.update) :
    let result := ((recording dao).updateFieldsByFilter o fields filter args).run.run s
    Refused s result ∨ Sent dao o fields filter args s result := by
  have carried : Carries (recording dao).schema (recording dao).executor
      ((recording dao).updateFieldsByFilter o fields filter args) s
      (planUpdateFields dao s.store (dao.executor.writer s.database.1) o fields filter args) :=
    carries_updateFields o fields filter args
  cases planned : planUpdateFields dao s.store (dao.executor.writer s.database.1) o fields filter args with
  | error e =>
    rw [planned] at carried
    obtain ⟨store, run⟩ := carried s.store fun _ => rfl
    exact .inl ⟨e, store, run⟩
  | ok p =>
    rw [planned] at carried
    obtain ⟨calls, _⟩ := carried s.store fun _ => rfl
    refine .inr (sent_of_plan stock planned ?_)
    obtain fetched | executed := calls
    · exact congrArg Prod.snd fetched
    · exact congrArg Prod.snd executed

/-- A list without a name, with a name that is not registered, or with names of fields that are never written. -/
def SetsNothing (dao : Dao σ n) (fields : String) (store : MetadataStore) : Prop :=
  (∀ c ∈ fields.toList, c = ',' ∨ isBlank c) ∨ ∀ m, known dao store dao.entity = .ok m →
    (∃ name ∈ splitList fields, registered m name = none) ∨
    ∀ name ∈ splitList fields, ∀ field, registered m name = some field → field.2.readOnly ∨ field.2.embedded

theorem not_sent {dao : Dao σ n} {o : Object} {fields filter : String} {args : List Value} {s : State (σ × List Query)}
    {result : Except Failure Nat × State (σ × List Query)} (nothing : SetsNothing dao fields s.store) :
    ¬ Sent dao o fields filter args s result := by
  rintro ⟨m, table, set, condition, values, found, _, named, known, nonempty, limited, _⟩
  rcases nothing with blank | unset
  · exact named (splitList_eq_nil_iff.mpr blank)
  · rcases unset m found with ⟨name, member, unknown⟩ | never
    · have registered := known name member
      rw [unknown] at registered
      cases registered
    · obtain ⟨field, member⟩ := List.exists_mem_of_ne_nil _ nonempty
      obtain ⟨listed, found, notReadOnly, notEmbedded⟩ := (limited.mem_iff field).mp member
      rcases never field.1 listed field found with readOnly | embedded
      · rw [notReadOnly] at readOnly
        cases readOnly
      · rw [notEmbedded] at embedded
        cases embedded

/-- Updates of listed fields, written as the stock writers write updates, send nothing or set just these fields. -/
theorem updateFields_limited (dao : Dao σ n) (o : Object) (fields : String) (s : State (σ × List Query))
    (stock : (dao.executor.writer s.database.1).update = Mutation.update) :
    (∀ filter args, let result := ((recording dao).updateFieldsByFilter o fields filter args).run.run s
      (Refused s result ∨ Sent dao o fields filter args s result) ∧ (SetsNothing dao fields s.store → Refused s result)) ∧
    ∀ id, let result := ((recording dao).updateFields o fields id).run.run s
      (Refused s result ∨ Sent dao o fields Dao.byId [id] s result) ∧ (SetsNothing dao fields s.store → Refused s result) := by
  have limited : ∀ filter args, let result := ((recording dao).updateFieldsByFilter o fields filter args).run.run s
      (Refused s result ∨ Sent dao o fields filter args s result) ∧ (SetsNothing dao fields s.store → Refused s result) := by
    intro filter args
    have either := refused_or_sent dao o fields filter args s stock
    exact ⟨either, fun nothing => either.resolve_right (not_sent nothing)⟩
  exact ⟨limited, fun id => limited Dao.byId [id]⟩

def crew : Dao Unit 1 := ⟨people.schema, people.entity, fun _ => Dialect.generic.writer, fun _ s => (.ok [], s), fun _ s => (.ok 1, s)⟩

def boarded : State (Unit × List Query) := ⟨((), []), started.store, .empty, .empty, {}⟩

theorem known_crew : known crew boarded.store crew.entity = .ok personMetadata := by
  simp [known, crew, boarded, people, started, MetadataStore.get]

/-- A blank list, a list with an unknown name, and one of a field that is only read and of an embedded one send nothing. -/
theorem updateFields_limited_crew :
    ([" , ,", "name,nick", "version,home$city"].map fun fields =>
      (((recording crew).updateFields unsaved fields (.int32 (some 7))).run.run boarded).2.database.2) = [[], [], []] ∧
    (((recording crew).updateFields unsaved "id, name ,id" (.int32 (some 7))).run.run boarded).2.database.2 =
      [⟨"update T_PERSON set ID=?,NAME=? where ID=?", [.varchar none, .varchar (some "Ann"), .int32 (some 7)]⟩] := by
  have refused : ∀ fields, SetsNothing crew fields boarded.store →
      (((recording crew).updateFields unsaved fields (.int32 (some 7))).run.run boarded).2.database.2 = [] := by
    intro fields nothing
    obtain ⟨e, store, run⟩ := ((updateFields_limited crew unsaved fields boarded rfl).2 (.int32 (some 7))).2 nothing
    rw [run]
    rfl
  have blank : SetsNothing crew " , ," boarded.store := .inl (splitList_eq_nil_iff.mp (by decide +kernel))
  have unknown : SetsNothing crew "name,nick" boarded.store := by
    refine .inr fun m found => .inl ⟨"nick", by decide +kernel, ?_⟩
    rw [known_crew] at found
    cases found
    cbv
  have unwritten : SetsNothing crew "version,home$city" boarded.store := by
    refine .inr fun m found => .inr ?_
    rw [known_crew] at found
    cases found
    have never : (splitList "version,home$city").all fun name =>
        (registered personMetadata name).all fun field => field.2.readOnly || field.2.embedded := by cbv
    simpa [List.all_eq_true, Option.all_eq_true] using never
  constructor
  · rw [List.map_cons, List.map_cons, List.map_cons, List.map_nil, refused _ blank, refused _ unknown, refused _ unwritten]
  · have written : (Mutation.update ⟨personMetadata, "T_PERSON"⟩ unsaved (some "id, name ,id") none (some Dao.byId)).run.run .empty =
        (.ok (), ⟨"update T_PERSON set ID=?,NAME=? where ID=?", [.varchar none, .varchar (some "Ann")]⟩) := by cbv
    have gate : Mutation.of personMetadata = .ok ⟨personMetadata, "T_PERSON"⟩ := rfl
    have stored : (boarded.store.get (recording crew).schema (recording crew).entity).1 = .ok personMetadata := known_crew
    have run : ((recording crew).updateFields unsaved "id, name ,id" (.int32 (some 7))).run.run boarded = _ :=
      update_run gate stored written [.int32 (some 7)]
    exact (congrArg (·.2.database.2) run).trans (by cbv)

end EntityMapping.Proofs.FieldLimitedUpdates
