import EntityMapping.Metadata.Basic
import EntityMapping.Proofs.TemplateSegments
import EntityMapping.Template.Resolution

/-! Templates one after the other. A span ends where it ends whatever follows it, so the segments of the whole are those of the
parts, with the texts that meet made into one; and a text means what its pieces mean. -/

namespace EntityMapping.Proofs.TemplateConcatenation
open Entity Template Segment TemplateSegments

/-- The segments of both lists, the last text of the first and the first text of the second being one. -/
def join : List Segment → List Segment → List Segment
  | [], more => more
  | [text cs], text ds :: more => text (cs ++ ds) :: more
  | segment :: segments, more => segment :: join segments more

theorem join_lead (cs ds : List Char) {segments : List Segment} (starts : ∀ first ∈ segments.head?, ¬isText first) :
    join (lead cs []) (lead ds segments) = lead (cs ++ ds) segments := by
  cases cs with
  | nil => rfl
  | cons c cs =>
    cases ds with
    | cons d ds => rfl
    | nil =>
      rw [List.append_nil]
      cases segments with
      | nil => rfl
      | cons first segments =>
        cases first with
        | text => exact absurd rfl (starts _ rfl)
        | expression => rfl

theorem join_span (cs body : List Char) (segments more : List Segment) :
    join (lead cs (expression body :: segments)) more = lead cs (expression body :: join segments more) := by
  cases cs <;> rfl

theorem split?_append {cs : List Char} {segments : List Segment} (found : split? cs = some segments) (ds : List Char) :
    split? (cs ++ ds) = (split? ds).map (join segments) := by
  induction length : cs.length using Nat.strongRecOn generalizing cs segments with
  | ind n ih =>
    rcases split?_cases found with ⟨plain, rfl⟩ | ⟨before, body, after, inner, plain, balanced, rfl, split, rfl⟩
    · by_cases brace : '{' ∈ ds
      · obtain ⟨middle, rest, rfl, apart⟩ := List.eq_append_cons_of_mem brace
        have both : '{' ∉ cs ++ middle := by simp [plain, apart]
        rw [← List.append_assoc, split?_brace both, split?_brace apart, Option.map_bind]
        congr 1
        funext (body, after)
        simp only [Function.comp_apply, Option.map_map]
        congr 1
        funext segments
        exact (join_lead cs middle (by simp [isText])).symm
      · have both : '{' ∉ cs ++ ds := by simp [plain, brace]
        rw [split?_text both, split?_text brace, Option.map_some, join_lead cs ds (by simp)]
    · have shorter : after.length < n := by
        simp only [List.length_append, List.length_cons] at length
        omega
      rw [List.append_assoc, split?_span plain balanced, ih after.length shorter split rfl, Option.map_map]
      congr 1
      funext more
      exact (join_span before body inner more).symm

/-- The text of a list of segments. -/
def rendered (scope : Scope) (segments : List Segment) : Except ExpressionError (List Char) :=
  (segments.mapM (Segment.resolve scope)).map List.flatten

theorem rendered_cons (scope : Scope) (segment : Segment) (segments : List Segment) :
    rendered scope (segment :: segments) =
      (segment.resolve scope).bind fun first => (rendered scope segments).map (first ++ ·) := by
  rw [rendered, rendered, List.mapM_cons]
  cases segment.resolve scope with
  | error e => rfl
  | ok first =>
    cases segments.mapM (Segment.resolve scope) <;> rfl

theorem rendered_text (scope : Scope) (cs : List Char) (segments : List Segment) :
    rendered scope (text cs :: segments) = (rendered scope segments).map (cs ++ ·) := rendered_cons scope (text cs) segments

theorem rendered_join (scope : Scope) (segments more : List Segment) :
    rendered scope (join segments more) =
      (rendered scope segments).bind fun first => (rendered scope more).map (first ++ ·) := by
  fun_induction join segments more with
  | case1 more =>
    cases shown : rendered scope more with
    | error e => rfl
    | ok cs => rfl
  | case2 cs ds more =>
    rw [rendered_text, rendered_text, rendered_text]
    cases rendered scope more with
    | error e => rfl
    | ok es => simp [rendered, Except.map, Except.bind, pure, Except.pure]
  | case3 segment segments more apart ih =>
    rw [rendered_cons, rendered_cons, ih]
    cases segment.resolve scope with
    | error e => rfl
    | ok first =>
      cases rendered scope segments with
      | error e => rfl
      | ok second =>
        cases rendered scope more with
        | error e => rfl
        | ok third => simp [Except.map, Except.bind]

theorem resolveChars_eq {scope : Scope} {cs : List Char} {segments : List Segment} (found : split? cs = some segments) :
    resolveChars scope cs = rendered scope segments := by
  rw [resolveChars, found]
  rfl

theorem resolveChars_append {scope : Scope} {cs : List Char} {segments : List Segment} (found : split? cs = some segments)
    (ds r : List Char) : resolveChars scope (cs ++ ds) = .ok r ↔
      ∃ first second, resolveChars scope cs = .ok first ∧ resolveChars scope ds = .ok second ∧ r = first ++ second := by
  have whole := split?_append found ds
  cases later : split? ds with
  | none =>
    rw [later, Option.map_none] at whole
    simp [resolveChars, whole, later]
  | some more =>
    rw [later, Option.map_some] at whole
    rw [resolveChars_eq whole, resolveChars_eq found, resolveChars_eq later, rendered_join]
    cases rendered scope segments with
    | error e => simp [Except.bind]
    | ok first =>
      cases rendered scope more with
      | error e => simp [Except.bind, Except.map]
      | ok second => simp [Except.bind, Except.map, eq_comm]

/-- A template that is one span. -/
theorem split?_single {cs : List Char} {e : Expression} (parsed : Expression.parse cs = .ok e) :
    split? ('{' :: cs ++ ['}']) = some [expression cs] := by
  have balanced : Balanced cs := by
    unfold Expression.parse at parsed
    split at parsed
    · cases parsed
    · next tokens scanned => exact balanced_of_scan scanned
  have plain : '{' ∉ ([] : List Char) := List.not_mem_nil
  have empty : split? [] = some [] := split?_text plain
  have whole := split?_span plain balanced []
  rw [empty, List.nil_append, List.append_nil] at whole
  exact whole

theorem resolve_single (scope : Scope) {template : String} {cs : List Char} {e : Expression}
    (span : template.toList = '{' :: cs ++ ['}']) (parsed : Expression.parse cs = .ok e) :
    Template.resolve scope template = match e.evaluate scope with
      | .ok v => .ok v.text
      | .error e => .error (.evaluation e) := by
  rw [Template.resolve, span, resolveChars_eq (split?_single parsed), rendered_cons, Segment.resolve, parsed]
  dsimp only [bind, Except.bind]
  cases e.evaluate scope with
  | error e => rfl
  | ok v => simp [rendered, Except.map, pure, Except.pure]

private theorem resolve_eq_ok_iff {scope : Scope} {template r : String} :
    Template.resolve scope template = .ok r ↔ resolveChars scope template.toList = .ok r.toList := by
  unfold Template.resolve
  cases resolveChars scope template.toList with
  | error e => simp [Except.map]
  | ok cs =>
    simp only [Except.map, Except.ok.injEq]
    rw [← String.toList_inj, String.toList_ofList]

/-- A template resolves to a text if and only if its parts resolve to the parts of that text, once the first part closes all its
spans. -/
theorem resolve_append (m : Metadata) (object : Option Properties) {first : String} {segments : List Segment}
    (closed : split? first.toList = some segments) (second r : String) :
    Template.resolve (m.scope object) (first ++ second) = .ok r ↔
      ∃ start rest, Template.resolve (m.scope object) first = .ok start ∧ Template.resolve (m.scope object) second = .ok rest ∧
        r = start ++ rest := by
  rw [resolve_eq_ok_iff, String.toList_append, resolveChars_append closed]
  constructor
  · intro ⟨cs, ds, shownFirst, shownSecond, same⟩
    refine ⟨String.ofList cs, String.ofList ds, ?_, ?_, ?_⟩
    · rw [resolve_eq_ok_iff, shownFirst, String.toList_ofList]
    · rw [resolve_eq_ok_iff, shownSecond, String.toList_ofList]
    · rw [← String.ofList_append, ← same, String.ofList_toList]
  · intro ⟨start, rest, shownFirst, shownSecond, same⟩
    refine ⟨start.toList, rest.toList, resolve_eq_ok_iff.mp shownFirst, resolve_eq_ok_iff.mp shownSecond, ?_⟩
    rw [same, String.toList_append]

/-- A type with one field. -/
def item : Definition where
  type := ⟨0, "Item"⟩
  clauses := ⟨some "T_ITEM", none, none, none⟩
  fields := .value ⟨"name", none, false, .text, true, true⟩ .nil

def itemData : Metadata := .ofTables item [⟨"T_ITEM", "T_ITEM"⟩]

/-- The text of a property is not read as a template again. -/
theorem resolve_append_property :
    split? "\x7b#name\x7d='".toList = some [expression "#name".toList, text "='".toList] ∧
    Template.resolve ((Metadata.ofTables item [⟨"T_ITEM", "T_ITEM"⟩]).scope (some fun _ => some (.varchar (some "\x7b"))))
      ("\x7b#name\x7d='" ++ "\x7bname\x7d'") = .ok ("NAME='" ++ "\x7b'") := by
  have closed : split? "\x7b#name\x7d='".toList = some [expression "#name".toList, text "='".toList] := by cbv
  refine ⟨closed, (resolve_append _ _ closed _ _).mpr ⟨"NAME='", "\x7b'", ?_, ?_, rfl⟩⟩
  · cbv
  · cbv

end EntityMapping.Proofs.TemplateConcatenation
