import EntityMapping.Proofs.TemplateConcatenation
import EntityMapping.Proofs.TemplatePrinting
import EntityMapping.Statement.Select

/-! The filter object shows in the where clause only. Every other clause is written as if there were none, and so it fails once
its template comes to read a property. -/

namespace EntityMapping.Proofs.ObjectVisibility
open Template TemplateConcatenation TemplatePrinting Statement

/-- What is read after a computation, which is nothing when it fails. -/
def afterwards {ε α : Type} (r : Except ε α) (next : α → List String) : List String := r.toOption.elim [] next

/-- The properties that evaluation reads, in order. -/
def reads (scope : Scope) : Expression → List String
  | .literal _ | .binding _ => []
  | .property path => [path]
  | .unary _ operand => reads scope operand
  | .binary (.logical op) lhs rhs => reads scope lhs ++ afterwards (lhs.evaluate scope) fun l =>
    if op.isDecidedBy l then [] else reads scope rhs
  | .binary _ lhs rhs => reads scope lhs ++ afterwards (lhs.evaluate scope) fun _ => reads scope rhs
  | .conditional condition yes no => reads scope condition ++ afterwards (condition.evaluate scope) fun c => match truth? c with
    | some true => reads scope yes
    | some false => reads scope no
    | none => []

section Withheld
variable {ε α β : Type} {refused : String → ε}

/-- What becomes of a computation when nothing can be read: it fails at the first property that it reads. -/
def withheld (refused : String → ε) (paths : List String) (r : Except ε α) : Except ε α :=
  match paths with
  | [] => r
  | path :: _ => .error (refused path)

theorem withheld_bind {paths : List String} {x x' : Except ε α} {next : α → List String} {f g : α → Except ε β}
    (first : x' = withheld refused paths x) (rest : ∀ a, g a = withheld refused (next a) (f a)) :
    x' >>= g = withheld refused (paths ++ afterwards x next) (x >>= f) := by
  rw [first]
  cases paths with
  | cons path paths => rfl
  | nil =>
    cases x with
    | error e => rfl
    | ok a => exact rest a

/-- What reads nothing more. -/
theorem withheld_apply {paths : List String} {x x' : Except ε α} (first : x' = withheld refused paths x) (f : α → Except ε β) :
    x' >>= f = withheld refused paths (x >>= f) := by
  rw [first]
  cases paths <;> rfl

theorem withheld_map {paths : List String} {x x' : Except ε α} (first : x' = withheld refused paths x) (f : α → β) :
    x'.map f = withheld refused paths (x.map f) := by
  rw [first]
  cases paths <;> rfl

end Withheld

/-- A scope without its filter object. -/
def hidden (scope : Scope) : Scope := { scope with object := none }

theorem evaluate_hidden (scope : Scope) (e : Expression) :
    e.evaluate (hidden scope) = withheld .noObject (reads scope e) (e.evaluate scope) := by
  induction e with
  | literal v => rfl
  | binding path => rfl
  | property path => rfl
  | unary op operand ih => exact withheld_apply ih _
  | binary op lhs rhs left right =>
    cases op with
    | arithmetic op => exact withheld_bind left fun l => withheld_apply right _
    | comparison op => exact withheld_bind left fun l => withheld_apply right _
    | logical op =>
      refine withheld_bind left fun l => ?_
      cases op.isDecidedBy l with
      | true => rfl
      | false => exact withheld_apply right _
  | conditional condition yes no ih ihYes ihNo =>
    refine withheld_bind ih fun c => ?_
    cases truth? c with
    | none => rfl
    | some holds =>
      cases holds with
      | true => exact ihYes
      | false => exact ihNo

def segmentReads (scope : Scope) : Segment → List String
  | .text _ => []
  | .expression cs => match Expression.parse cs with
    | .ok e => reads scope e
    | .error _ => []

def segmentsRead (scope : Scope) : List Segment → List String
  | [] => []
  | segment :: segments => segmentReads scope segment ++ afterwards (segment.resolve scope) fun _ => segmentsRead scope segments

/-- The properties that resolution of a template reads, in order. -/
def templateReads (scope : Scope) (template : String) : List String :=
  ((Segment.split? template.toList).map (segmentsRead scope)).getD []

theorem resolve_segment_hidden (scope : Scope) (segment : Segment) :
    segment.resolve (hidden scope) = withheld (.evaluation ∘ .noObject) (segmentReads scope segment) (segment.resolve scope) := by
  cases segment with
  | text cs => rfl
  | expression cs =>
    dsimp only [segmentReads, Segment.resolve]
    cases Expression.parse cs with
    | error e => rfl
    | ok e =>
      dsimp only [bind, Except.bind]
      rw [evaluate_hidden]
      cases reads scope e <;> rfl

theorem rendered_hidden (scope : Scope) (segments : List Segment) :
    rendered (hidden scope) segments =
      withheld (.evaluation ∘ .noObject) (segmentsRead scope segments) (rendered scope segments) := by
  induction segments with
  | nil => rfl
  | cons segment segments ih =>
    rw [rendered_cons, rendered_cons]
    exact withheld_bind (resolve_segment_hidden scope segment) fun first => withheld_map ih _

theorem resolve_hidden (scope : Scope) (template : String) :
    resolve (hidden scope) template =
      withheld (.evaluation ∘ .noObject) (templateReads scope template) (resolve scope template) := by
  refine withheld_map ?_ _
  unfold templateReads
  cases found : Segment.split? template.toList with
  | none => simp [resolveChars, found, withheld]
  | some segments =>
    rw [resolveChars_eq found, resolveChars_eq found]
    exact rendered_hidden scope segments

theorem templateReads_single (scope : Scope) {template : String} {cs : List Char} {e : Expression}
    (span : template.toList = '{' :: cs ++ ['}']) (parsed : Expression.parse cs = .ok e) :
    templateReads scope template = reads scope e := by
  rw [templateReads, span, split?_single parsed, Option.map_some, Option.getD_some]
  simp only [segmentsRead, segmentReads, parsed]
  cases (Segment.expression cs).resolve scope <;> exact List.append_nil _

def Fails {ε α : Type} (r : Except ε α) : Prop := ∃ e, r = .error e

section Failure
variable {ε α β : Type}

theorem Fails.bind {x : Except ε α} (failed : Fails x) (f : α → Except ε β) : Fails (x >>= f) := by
  obtain ⟨e, rfl⟩ := failed
  exact ⟨e, rfl⟩

theorem Fails.after {f : α → Except ε β} (failed : ∀ a, Fails (f a)) (x : Except ε α) : Fails (x >>= f) := by
  cases x with
  | error e => exact ⟨e, rfl⟩
  | ok a => exact failed a

theorem withheld_fails {refused : String → ε} {paths : List String} (reading : paths ≠ []) (r : Except ε α) :
    Fails (withheld refused paths r) := by
  obtain ⟨path, rest, rfl⟩ := List.exists_cons_of_ne_nil reading
  exact ⟨refused path, rfl⟩

end Failure

theorem visibleObject_elsewhere {c : Context} (elsewhere : c.fragment.isWhere = false) : c.visibleObject = none :=
  if_neg (by simp [elsewhere])

/-- A template that reads a property has a span, so it is not blank. -/
theorem nonBlank?_of_reads {scope : Scope} {text : String} (reading : templateReads scope text ≠ []) :
    Text.nonBlank? (some text) = some text := by
  have brace : '{' ∈ text.toList := by
    by_contra plain
    apply reading
    rw [templateReads, TemplateSegments.split?_text plain, Option.map_some, Option.getD_some]
    cases text.toList <;> rfl
  have shown : Text.allBlank text = false := List.all_eq_false.mpr ⟨'{', brace, by decide⟩
  rw [Text.nonBlank?, Option.filter_some, shown]
  rfl

section Reading
variable {m : Metadata} {given : Option Properties} {text : String}

theorem template_fails {c : Context} (elsewhere : c.fragment.isWhere = false)
    (reading : templateReads (m.scope given) text ≠ []) : Fails (template c m text) := by
  obtain ⟨e, failed⟩ : Fails (resolve (m.scope none) text) := by
    rw [show m.scope none = hidden (m.scope given) from rfl, resolve_hidden]
    exact withheld_fails reading _
  rw [template, visibleObject_elsewhere elsewhere, failed]
  exact ⟨_, rfl⟩

theorem keywordClause_fails {c : Context} (elsewhere : c.fragment.isWhere = false)
    (reading : templateReads (m.scope given) text ≠ []) (keyword : String) : Fails (keywordClause c m keyword (some text)) := by
  obtain ⟨e, failed⟩ := template_fails elsewhere reading
  rw [keywordClause, nonBlank?_of_reads reading]
  dsimp only
  rw [failed]
  exact ⟨e, rfl⟩

end Reading

/-- The statement never succeeds, or it is the clause of the object in a text that is one for all objects. -/
def WrittenAround (clause statement : Option Properties → Except Failure String) : Prop :=
  (∀ object, Fails (statement object)) ∨
    ∃ before after, ∀ object, statement object = (clause object).map (before ++ · ++ after)

theorem select_around (dialect : Dialect) (m : Metadata) (s : Select) :
    WrittenAround (fun object => whereClause ⟨.selectWhere, object⟩ m s.filter) (select dialect m s) := by
  have shown : ∀ object, select dialect m s object = (do
      let columns ← projection m s.includes s.excludes
      let filter ← whereClause ⟨.selectWhere, object⟩ m s.filter
      let groupBy ← groupByClause ⟨.selectGroupBy, none⟩ m s.groupBy
      let orderBy ← orderByClause ⟨.selectOrderBy, none⟩ m s.orderBy
      pure ("select " ++ columns ++ " from " ++ fromClause m ++ filter ++ groupBy ++ orderBy ++ dialect.limit s.start s.count)) :=
    fun _ => rfl
  simp only [WrittenAround, shown]
  cases projection m s.includes s.excludes with
  | error e => exact .inl fun _ => ⟨e, rfl⟩
  | ok columns =>
    cases groupByClause ⟨.selectGroupBy, none⟩ m s.groupBy with
    | error e => exact .inl fun _ => Fails.after (fun _ => ⟨e, rfl⟩) _
    | ok groupBy =>
      cases orderByClause ⟨.selectOrderBy, none⟩ m s.orderBy with
      | error e => exact .inl fun _ => Fails.after (fun _ => ⟨e, rfl⟩) _
      | ok orderBy =>
        refine .inr ⟨"select " ++ columns ++ " from " ++ fromClause m, groupBy ++ orderBy ++ dialect.limit s.start s.count, ?_⟩
        intro object
        cases whereClause ⟨.selectWhere, object⟩ m s.filter with
        | error e => rfl
        | ok filter => exact congrArg Except.ok (by simp only [String.append_assoc])

theorem selectValue_around (m : Metadata) (expression : String) (filter : Option String) :
    WrittenAround (fun object => whereClause ⟨.selectWhere, object⟩ m filter) (selectValue m expression filter) := by
  have shown : ∀ object, selectValue m expression filter object = (do
      let value ← template ⟨.select, none⟩ m expression
      let filter ← whereClause ⟨.selectWhere, object⟩ m filter
      pure ("select " ++ value ++ " from " ++ fromClause m ++ filter)) := fun _ => rfl
  simp only [WrittenAround, shown]
  cases template ⟨.select, none⟩ m expression with
  | error e => exact .inl fun _ => ⟨e, rfl⟩
  | ok value =>
    refine .inr ⟨"select " ++ value ++ " from " ++ fromClause m, "", fun object => ?_⟩
    cases whereClause ⟨.selectWhere, object⟩ m filter with
    | error e => rfl
    | ok filter => exact congrArg Except.ok (by simp only [String.append_empty])

theorem WrittenAround.of_ok {clause statement : Option Properties → Except Failure String}
    (written : WrittenAround clause statement) :
    ∃ before after, ∀ object sql, statement object = .ok sql → ∃ w, clause object = .ok w ∧ sql = before ++ w ++ after := by
  obtain failing | ⟨before, after, shown⟩ := written
  · refine ⟨"", "", fun object sql done => ?_⟩
    obtain ⟨e, failed⟩ := failing object
    cases done.symm.trans failed
  · refine ⟨before, after, fun object sql done => ?_⟩
    rw [shown] at done
    cases made : clause object with
    | error e => rw [made] at done; cases done
    | ok w =>
      rw [made] at done
      cases done
      exact ⟨w, rfl, rfl⟩

/-- The object takes part in where clauses only: what is written around them is one text for all objects, and a template elsewhere
that comes to read a property of some object fails for every object. -/
theorem object_in_where_only (m : Metadata) :
    (∀ dialect s, ∃ before after, ∀ object sql, select dialect m s object = .ok sql →
      ∃ w, whereClause ⟨.selectWhere, object⟩ m s.filter = .ok w ∧ sql = before ++ w ++ after) ∧
    (∀ expression filter, ∃ before after, ∀ object sql, selectValue m expression filter object = .ok sql →
      ∃ w, whereClause ⟨.selectWhere, object⟩ m filter = .ok w ∧ sql = before ++ w ++ after) ∧
    ∀ given text, templateReads (m.scope given) text ≠ [] → ∀ object,
      (∀ filter, ∃ e, selectValue m text filter object = .error e) ∧
      ∀ dialect s, s.groupBy = some text ∨ s.orderBy = some text → ∃ e, select dialect m s object = .error e := by
  refine ⟨fun dialect s => (select_around dialect m s).of_ok,
    fun expression filter => (selectValue_around m expression filter).of_ok, fun given text reading object => ⟨?_, ?_⟩⟩
  · intro filter
    exact (template_fails rfl reading).bind _
  · intro dialect s named
    refine Fails.after (fun columns => Fails.after (fun filter => ?_) _) _
    obtain groupBy | orderBy := named
    · rw [groupBy]
      exact (keywordClause_fails rfl reading _).bind _
    · rw [orderBy]
      exact Fails.after (fun groupBy => (keywordClause_fails rfl reading _).bind _) _

def nameTemplate : String := "\x7bname\x7d"

def named (_ : String) : Option Value := some (.varchar (some "NAME='x'"))

theorem object_in_where_only_named :
    select .generic itemData { filter := some nameTemplate } (some named) =
      .ok "select NAME as NAME from T_ITEM AS T_ITEM where NAME='x'" ∧
    (∃ before after w, whereClause ⟨.selectWhere, some named⟩ itemData (some nameTemplate) = .ok w ∧
      "select NAME as NAME from T_ITEM AS T_ITEM where NAME='x'" = before ++ w ++ after) ∧
    templateReads (itemData.scope none) nameTemplate ≠ [] ∧
    ∃ e, select .generic itemData { groupBy := some nameTemplate } (some named) = .error e := by
  have span : nameTemplate.toList = '{' :: print (.property "name") ++ ['}'] := by decide
  have canonical : Canonical (.property "name") :=
    @Canonical.property "name" [] (by simpa using isName_of_ascii (s := "name") (by decide) (by decide)) (by decide)
  have resolved : template ⟨.selectWhere, some named⟩ itemData nameTemplate = .ok "NAME='x'" := by
    rw [template, resolve_single _ span canonical.parse_print]
    rfl
  have done : select .generic itemData { filter := some nameTemplate } (some named) =
      .ok "select NAME as NAME from T_ITEM AS T_ITEM where NAME='x'" := by
    have projected : projection itemData none none = .ok "NAME as NAME" := by cbv
    have tables : fromClause itemData = "T_ITEM AS T_ITEM" := by cbv
    have filtered : whereClause ⟨.selectWhere, some named⟩ itemData (some nameTemplate) = .ok " where NAME='x'" := by
      have unjoined : itemData.joinClause = none := rfl
      have kept : Text.nonBlank? (some nameTemplate) = some nameTemplate := by decide
      simp only [whereClause, kept, unjoined, ite_self, resolved]
      rfl
    rw [select, projected, Context.inFragment, filtered, tables]
    rfl
  have reading : templateReads (itemData.scope none) nameTemplate ≠ [] := by
    rw [templateReads_single _ span canonical.parse_print]
    exact List.cons_ne_nil _ _
  obtain ⟨before, after, around⟩ := (object_in_where_only itemData).1 .generic { filter := some nameTemplate }
  obtain ⟨w, written, same⟩ := around (some named) _ done
  exact ⟨done, ⟨before, after, w, written, same⟩, reading,
    ((object_in_where_only itemData).2.2 none _ reading (some named)).2 .generic _ (.inl rfl)⟩

end EntityMapping.Proofs.ObjectVisibility
