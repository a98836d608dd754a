import EntityMapping.Proofs.FieldLimitedUpdates
import EntityMapping.Proofs.Outcomes
import EntityMapping.Proofs.TemplateConcatenation
import EntityMapping.Proofs.TemplatePrinting
import EntityMapping.Statement.Select

/-! A filter takes part in a where clause when its template is not blank, whatever the template resolves to. So the clause is the
one of a missing filter in all cases but one: where the text of the filter turns out blank, the clause is written around nothing. -/

namespace EntityMapping.Proofs.FilterPresence
open Entity Template Statement Outcomes MutationAlignment FieldLimitedUpdates TemplateConcatenation TemplatePrinting

/-- A statement that has a where clause, without its filter. Those that change a table are written behind a query. -/
inductive Filterable where
  | select (dialect : Dialect) (s : Select)
  | selectValue (expression : String)
  | update (table : String) (o : Object) (includes excludes : Option String) (q : Query)
  | delete (table : String) (q : Query)

/-- The text of a query after something has been written into it. -/
def writtenText (writing : Writing Unit) (q : Query) : Except Failure String :=
  match writing.run.run q with
  | (.ok (), q) => .ok q.sql
  | (.error e, _) => .error e

namespace Filterable

/-- The text of the statement with a filter. -/
def written (k : Filterable) (m : Metadata) (object : Option Properties) (filter : Option String) : Except Failure String :=
  match k with
  | select dialect s => Statement.select dialect m { s with filter } object
  | selectValue expression => Statement.selectValue m expression filter object
  | update table o includes excludes q => writtenText (Mutation.update ⟨m, table⟩ o includes excludes filter) q
  | delete table q => writtenText (Mutation.delete ⟨m, table⟩ filter) q

/-- Where the filter is resolved. Statements that change a table have no filter object. -/
def context (k : Filterable) (object : Option Properties) : Context :=
  match k with
  | select _ _ | selectValue _ => ⟨.selectWhere, object⟩
  | update _ _ _ _ _ => ⟨.updateWhere, none⟩
  | delete _ _ => ⟨.deleteWhere, none⟩

def join? (k : Filterable) (m : Metadata) : Option String :=
  match k with
  | select _ _ | selectValue _ => m.joinClause
  | update _ _ _ _ _ | delete _ _ => none

end Filterable

/-- The text of a filter, which is none when its template is blank. -/
def filterText (c : Context) (m : Metadata) (filter : Option String) : Except Failure (Option String) :=
  match Text.nonBlank? filter with
  | none => .ok none
  | some filter => (template c m filter).map some

/-- The where clause of a join condition and the text of a filter. -/
def clause : (join text : Option String) → String
  | some join, some text => " where (" ++ text ++ ") and (" ++ join ++ ")"
  | none, some text => " where " ++ text
  | some join, none => " where (" ++ join ++ ")"
  | none, none => ""

theorem whereClause_eq (c : Context) (m : Metadata) (filter : Option String) :
    whereClause c m filter =
      (filterText c m filter).map (clause (if c.fragment = .selectWhere then m.joinClause else none)) := by
  unfold whereClause filterText
  generalize (if c.fragment = .selectWhere then m.joinClause else none) = join
  cases Text.nonBlank? filter with
  | none => cases join <;> rfl
  | some filter =>
    cases join with
    | none =>
      dsimp only
      cases template c m filter <;> rfl
    | some join =>
      dsimp only
      cases template c m filter <;> rfl

theorem clause_longer (join : Option String) (text : String) :
    (clause join none).length < (clause join (some text)).length := by
  have bare : " where ".length = 7 := by decide
  have opened : " where (".length = 8 := by decide
  have between : ") and (".length = 7 := by decide
  cases join with
  | none =>
    simp only [clause, String.length_append, String.length_empty]
    omega
  | some join =>
    simp only [clause, String.length_append]
    omega

theorem nonBlank?_some (text : String) : Text.nonBlank? (some text) = if Text.allBlank text then none else some text := by
  rw [Text.nonBlank?, Option.filter_some]
  cases Text.allBlank text <;> rfl

/-- A blank text makes the clause another than the one without a filter. -/
theorem clause_nonBlank? (join text : Option String) :
    clause join text = clause join (Text.nonBlank? text) ↔ ∀ t, text = some t → Text.allBlank t = false := by
  cases text with
  | none => simp [Text.nonBlank?]
  | some t =>
    rw [nonBlank?_some]
    cases blank : Text.allBlank t with
    | false => simp [blank]
    | true =>
      have longer := clause_longer join t
      refine iff_of_false (fun same => ?_) (by simp [blank])
      rw [same] at longer
      exact longer.false

/-- The sibling clauses look at the text: a blank one is written no more than a missing template. -/
theorem keywordClause_eq (c : Context) (m : Metadata) (keyword : String) (text : Option String) :
    keywordClause c m keyword text =
      (filterText c m text).map fun text => (Text.nonBlank? text).elim "" fun text => keyword ++ Text.trim text := by
  have empty_iff (text : String) : (Text.trim text).isEmpty = Text.allBlank text := by
    rw [Bool.eq_iff_iff, String.isEmpty_iff, ← String.toList_eq_nil_iff, Text.trim, String.toList_ofList,
      trimBoth_eq_nil_iff, Text.allBlank, List.all_eq_true]
  unfold keywordClause filterText
  cases Text.nonBlank? text with
  | none => rfl
  | some text =>
    dsimp only
    cases template c m text with
    | error e => rfl
    | ok resolved =>
      simp only [Except.map, nonBlank?_some, empty_iff]
      cases Text.allBlank resolved <;> rfl

/-- A where clause stands between texts that are the same for every filter. -/
def Framed (clause statement : Option String → Except Failure String) : Prop :=
  ∃ before after, ∀ filter sql, statement filter = .ok sql → ∃ w, clause filter = .ok w ∧ sql = before ++ w ++ after

/-- A text that is known where it succeeds. -/
def known (r : Except Failure String) : String := r.toOption.getD ""

theorem known_ok {r : Except Failure String} {text : String} (done : r = .ok text) : known r = text := by
  subst done
  rfl

theorem framed_select (dialect : Dialect) (m : Metadata) (s : Select) (object : Option Properties) :
    Framed (whereClause ⟨.selectWhere, object⟩ m) fun filter => select dialect m { s with filter } object := by
  refine ⟨"select " ++ known (projection m s.includes s.excludes) ++ " from " ++ fromClause m,
    known (groupByClause ⟨.selectGroupBy, object⟩ m s.groupBy) ++ known (orderByClause ⟨.selectOrderBy, object⟩ m s.orderBy) ++
      dialect.limit s.start s.count, fun filter sql done => ?_⟩
  obtain ⟨columns, projected, done⟩ := bind_eq_ok.mp done
  obtain ⟨w, filtered, done⟩ := bind_eq_ok.mp done
  obtain ⟨groupBy, grouped, done⟩ := bind_eq_ok.mp done
  obtain ⟨orderBy, ordered, done⟩ := bind_eq_ok.mp done
  cases done
  refine ⟨w, filtered, ?_⟩
  have columns_eq : known (projection m s.includes s.excludes) = columns := known_ok projected
  have groupBy_eq : known (groupByClause ⟨.selectGroupBy, object⟩ m s.groupBy) = groupBy := known_ok grouped
  have orderBy_eq : known (orderByClause ⟨.selectOrderBy, object⟩ m s.orderBy) = orderBy := known_ok ordered
  rw [columns_eq, groupBy_eq, orderBy_eq]
  simp only [String.append_assoc]

theorem framed_selectValue (m : Metadata) (expression : String) (object : Option Properties) :
    Framed (whereClause ⟨.selectWhere, object⟩ m) fun filter => selectValue m expression filter object := by
  refine ⟨"select " ++ known (template ⟨.select, object⟩ m expression) ++ " from " ++ fromClause m, "",
    fun filter sql done => ?_⟩
  obtain ⟨value, resolved, done⟩ := bind_eq_ok.mp done
  obtain ⟨w, filtered, done⟩ := bind_eq_ok.mp done
  cases done
  refine ⟨w, filtered, ?_⟩
  rw [known_ok resolved, String.append_empty]

theorem writtenText_eq_ok {writing : Writing Unit} {q : Query} {sql : String} (done : writtenText writing q = .ok sql) :
    ∃ q', writing.run.run q = (.ok (), q') ∧ q'.sql = sql := by
  unfold writtenText at done
  split at done
  · next q' run => cases done; exact ⟨q', run, rfl⟩
  · cases done

theorem framed_update (w : Mutation) (o : Object) (includes excludes : Option String) (q : Query) :
    Framed (whereClause ⟨.updateWhere, none⟩ w.metadata) fun filter => writtenText (w.update o includes excludes filter) q := by
  let picked := ((selectFields w.metadata includes excludes).toOption.getD []).filter (·.2.isWritten)
  refine ⟨q.sql ++ "update " ++ w.table ++ " set " ++ ",".intercalate (picked.map assignment), "", fun filter sql done => ?_⟩
  obtain ⟨q', run, rfl⟩ := writtenText_eq_ok done
  obtain ⟨fields, condition, values, selected, filtered, _, _, rfl⟩ := update_written run
  refine ⟨condition, filtered, ?_⟩
  simp only [picked, selected, String.append_empty]
  rfl

theorem framed_delete (w : Mutation) (q : Query) :
    Framed (whereClause ⟨.deleteWhere, none⟩ w.metadata) fun filter => writtenText (w.delete filter) q := by
  refine ⟨q.sql ++ "delete from " ++ w.table, "", fun filter sql done => ?_⟩
  obtain ⟨q', run, rfl⟩ := writtenText_eq_ok done
  rw [Mutation.delete, bind_run, text_run] at run
  dsimp only at run
  rw [bind_run, lift_run] at run
  cases filtered : whereClause ⟨.deleteWhere, none⟩ w.metadata filter with
  | error e => rw [filtered] at run; cases run
  | ok condition =>
    rw [filtered] at run
    cases run
    exact ⟨condition, rfl, by simp only [String.append_assoc, String.append_empty]⟩

theorem framed (k : Filterable) (m : Metadata) (object : Option Properties) :
    Framed (whereClause (k.context object) m) (k.written m object) := by
  cases k with
  | select dialect s => exact framed_select dialect m s object
  | selectValue expression => exact framed_selectValue m expression object
  | update table o includes excludes q => exact framed_update ⟨m, table⟩ o includes excludes q
  | delete table q => exact framed_delete ⟨m, table⟩ q

theorem join?_eq (k : Filterable) (m : Metadata) (object : Option Properties) :
    (if (k.context object).fragment = .selectWhere then m.joinClause else none) = k.join? m := by
  cases k <;> rfl

/-- The text of a filter stands in the where clause whenever its template is not blank. The clause is the one that a text which is
taken as missing when it is blank would have, exactly if the text is not blank; the other clauses of templates are always so. -/
theorem filter_present_by_template (m : Metadata) (object : Option Properties) :
    (∀ k : Filterable, ∃ before after, ∀ filter sql, k.written m object filter = .ok sql →
      ∃ text, filterText (k.context object) m filter = .ok text ∧ sql = before ++ clause (k.join? m) text ++ after ∧
        (sql = before ++ clause (k.join? m) (Text.nonBlank? text) ++ after ↔ ∀ t, text = some t → Text.allBlank t = false)) ∧
    ∀ c keyword text, keywordClause c m keyword text =
      (filterText c m text).map fun text => (Text.nonBlank? text).elim "" fun text => keyword ++ Text.trim text := by
  refine ⟨fun k => ?_, fun c keyword text => keywordClause_eq c m keyword text⟩
  obtain ⟨before, after, around⟩ := framed k m object
  refine ⟨before, after, fun filter sql done => ?_⟩
  obtain ⟨w, filtered, rfl⟩ := around filter sql done
  rw [whereClause_eq, join?_eq] at filtered
  obtain ⟨text, resolved, rfl⟩ := map_eq_ok filtered
  refine ⟨text, resolved, rfl, ?_⟩
  rw [String.append_left_inj, String.append_right_inj]
  exact clause_nonBlank? _ _

/-- A condition on the name if one is given. -/
def optionalCondition : Expression :=
  .conditional (.binary (.comparison .equal) (.property "name") (.literal .null)) (.literal (.varchar (some "")))
    (.binary (.arithmetic .add) (.binding "name") (.literal (.varchar (some "=?"))))

def optionalFilter : String := "\x7bname == null ? '' : #name + '=?'\x7d"

theorem parse_optionalCondition : Expression.parse (print optionalCondition) = .ok optionalCondition := by
  have named : ∀ name ∈ ["name"], TemplateScanning.IsName name := by
    simpa using isName_of_ascii (s := "name") (by decide) (by decide)
  have property : Canonical (.property "name") := @Canonical.property "name" [] named (by decide)
  have binding : Canonical (.binding "name") := @Canonical.binding "name" [] named
  have canonical : Canonical optionalCondition := .conditional (.binary _ property .null) (.text "") (.binary _ binding (.text "=?"))
  exact canonical.parse_print

def named (name : Value) (_ : String) : Option Value := some name

/-- A name that is null leaves nothing of the filter, and nothing but the filter is left out where it is not. -/
theorem filterText_optional :
    filterText ⟨.selectWhere, some (named .null)⟩ itemData (some optionalFilter) = .ok (some "") ∧
      filterText ⟨.selectWhere, some (named (.varchar (some "x")))⟩ itemData (some optionalFilter) = .ok (some "NAME=?") := by
  have span : optionalFilter.toList = '{' :: print optionalCondition ++ ['}'] := by decide
  have kept : Text.nonBlank? (some optionalFilter) = some optionalFilter := by decide
  constructor
  · rw [filterText, kept]
    dsimp only
    rw [template, resolve_single _ span parse_optionalCondition]
    rfl
  · rw [filterText, kept]
    dsimp only
    rw [template, resolve_single _ span parse_optionalCondition]
    cbv

theorem select_item {object : Option Properties} {filter text : Option String}
    (resolved : filterText ⟨.selectWhere, object⟩ itemData filter = .ok text) :
    Filterable.written (.select .generic {}) itemData object filter =
      .ok ("select NAME as NAME from T_ITEM AS T_ITEM" ++ clause none text) := by
  have projected : projection itemData none none = .ok "NAME as NAME" := by cbv
  have tables : fromClause itemData = "T_ITEM AS T_ITEM" := by cbv
  have filtered : whereClause ⟨.selectWhere, object⟩ itemData filter = .ok (clause none text) := by
    rw [whereClause_eq, resolved]
    rfl
  rw [Filterable.written, select, projected, Context.inFragment, filtered, tables]
  simp only [bind, Except.bind, pure, Except.pure, groupByClause, orderByClause, keywordClause, Text.nonBlank?,
    Option.filter_none]
  exact congrArg Except.ok (by simp [Dialect.generic, String.append_assoc])

theorem filter_present_by_template_optional :
    Filterable.written (.select .generic {}) itemData (some (named .null)) (some optionalFilter) =
        .ok "select NAME as NAME from T_ITEM AS T_ITEM where " ∧
      ∃ before after text, filterText ⟨.selectWhere, some (named .null)⟩ itemData (some optionalFilter) = .ok text ∧
        "select NAME as NAME from T_ITEM AS T_ITEM where " = before ++ clause none text ++ after ∧
        ("select NAME as NAME from T_ITEM AS T_ITEM where " = before ++ clause none (Text.nonBlank? text) ++ after ↔
          ∀ t, text = some t → Text.allBlank t = false) := by
  have done := select_item filterText_optional.1
  obtain ⟨before, after, around⟩ := (filter_present_by_template itemData (some (named .null))).1 (.select .generic {})
  exact ⟨done, before, after, around _ _ done⟩

/-- A filter without a text is written in statements that read and in statements that change a table, and the statement of a missing
filter is another. -/
theorem blank_filter_written :
    filterText ⟨.selectWhere, some (named .null)⟩ itemData (some optionalFilter) = .ok (some "") ∧
      Filterable.written (.select .generic {}) itemData (some (named .null)) (some optionalFilter) =
        .ok "select NAME as NAME from T_ITEM AS T_ITEM where " ∧
      Filterable.written (.select .generic {}) itemData (some (named .null)) none =
        .ok "select NAME as NAME from T_ITEM AS T_ITEM" ∧
      Filterable.written (.delete "T_ITEM" .empty) itemData none (some "\x7b''\x7d") = .ok "delete from T_ITEM where " ∧
      Filterable.written (.delete "T_ITEM" .empty) itemData none none = .ok "delete from T_ITEM" := by
  have missing : filterText ⟨.selectWhere, some (named .null)⟩ itemData none = .ok none := rfl
  exact ⟨filterText_optional.1, select_item filterText_optional.1, select_item missing, by cbv, by cbv⟩

end EntityMapping.Proofs.FilterPresence
