import EntityMapping.Proofs.Outcomes
import EntityMapping.Proofs.SourceReaders
import EntityMapping.Source.EntityDeclaration
import EntityMapping.Source.Grammar
import Mathlib

/-! What becomes of the items that are written in the attributes of a struct and of its fields. -/

namespace EntityMapping.Proofs.AttributeLists
open Entity Source Outcomes SourceReaders

theorem takes_namePath (isName : List Token → Bool) : Takes (Reader.namePath isName) :=
  (narrows_allowSymbols _).then fun _ => (takes_taking _).bind fun _ =>
    (narrows_many ((narrows_allowSymbols _).bind fun goesOn => by
      cases goesOn with
      | true => exact (takes_taking _).narrows.bind fun _ => narrows_pure _
      | false => exact narrows_pure _)).bind fun _ => narrows_pure _

theorem takes_item : Takes Reader.item :=
  (takes_namePath _).bind fun _ => (narrows_allowSymbols _).bind fun hasValue => by
    cases hasValue with
    | true =>
      refine (narrows_next _).bind fun head => ?_
      split
      · exact takes_one.narrows.bind fun _ => narrows_pure _
      · exact narrows_pure _
    | false => exact narrows_pure _

/-- Items with commas between them, up to the first place where no item, or no comma after one, can be read. -/
inductive Listed : List Token → List Item → List Token → Prop where
  | ends {tokens : List Token} : Reader.item tokens = none → Listed tokens [] tokens
  | last {tokens rest : List Token} {item : Item} {source : String} :
    Reader.item tokens = some ⟨item, source, rest⟩ → (∀ joint more, rest ≠ .symbol ',' joint :: more) →
      Listed tokens [item] rest
  | next {tokens rest behind : List Token} {item : Item} {items : List Item} {source : String} {joint : Bool} :
    Reader.item tokens = some ⟨item, source, .symbol ',' joint :: rest⟩ → Listed rest items behind →
      Listed tokens (item :: items) behind

/-- What follows a token and what its brackets hold. -/
def passed : List Token → List Token
  | [] => []
  | .opening _ :: rest => Reader.afterClosing 0 rest
  | _ :: rest => rest

/-- The items that are written in a list, with commas between them or not: where no item can be read a token is passed over. -/
def writtenItems (tokens : List Token) : List Item :=
  match Reader.item tokens with
  | some ⟨item, _, rest⟩ => if rest.length < tokens.length then item :: writtenItems rest else [item]
  | none => if (passed tokens).length < tokens.length then writtenItems (passed tokens) else []
termination_by tokens.length

section Items
variable {tokens rest : List Token} {item : Item} {source : String} {joint : Bool}

theorem item_comma (joint : Bool) (rest : List Token) : Reader.item (.symbol ',' joint :: rest) = none := by
  cases joint <;> rfl

theorem readAll_next (read : Reader.item tokens = some ⟨item, source, .symbol ',' joint :: rest⟩) :
    Item.readAll tokens = item :: Item.readAll rest := by
  rw [Item.readAll, read]
  exact if_pos (Nat.lt_of_succ_lt (takes_item read))

theorem readAll_last (read : Reader.item tokens = some ⟨item, source, rest⟩)
    (apart : ∀ joint more, rest ≠ .symbol ',' joint :: more) : Item.readAll tokens = [item] := by
  rw [Item.readAll, read]
  split
  · next none => cases none
  · next some => cases some; exact absurd rfl (apart _ _)
  · next some => cases some; rfl

theorem writtenItems_item (read : Reader.item tokens = some ⟨item, source, rest⟩) :
    writtenItems tokens = item :: writtenItems rest := by
  rw [writtenItems, read]
  exact if_pos (takes_item read)

theorem writtenItems_comma (joint : Bool) (rest : List Token) :
    writtenItems (.symbol ',' joint :: rest) = writtenItems rest := by
  rw [writtenItems, item_comma]
  exact if_pos (Nat.lt_succ_self _)

theorem writtenItems_nil : writtenItems [] = [] := by
  rw [writtenItems]
  rfl

theorem exists_listed (tokens : List Token) : ∃ items rest, Listed tokens items rest := by
  induction size : tokens.length using Nat.strongRecOn generalizing tokens with
  | ind n ih =>
    subst size
    cases read : Reader.item tokens with
    | none => exact ⟨[], tokens, .ends read⟩
    | some found =>
      obtain ⟨item, source, rest⟩ := found
      by_cases comma : ∃ joint more, rest = .symbol ',' joint :: more
      · obtain ⟨joint, more, rfl⟩ := comma
        obtain ⟨items, behind, listed⟩ := ih more.length (Nat.lt_of_succ_lt (takes_item read)) more rfl
        exact ⟨_, _, .next read listed⟩
      · exact ⟨_, _, .last read fun joint more same => comma ⟨joint, more, same⟩⟩

end Items

/-- What is read are the items before the first place where the list does not go on. -/
theorem Listed.readAll_eq {tokens rest : List Token} {items : List Item} (listed : Listed tokens items rest) :
    Item.readAll tokens = items := by
  induction listed with
  | ends read => rw [Item.readAll, read]
  | last read apart => exact readAll_last read apart
  | next read _ ih => rw [readAll_next read, ih]

theorem Listed.writtenItems_eq {tokens rest : List Token} {items : List Item} (listed : Listed tokens items rest) :
    writtenItems tokens = items ++ writtenItems rest := by
  induction listed with
  | ends => rfl
  | last read => exact writtenItems_item read
  | next read _ ih => rw [writtenItems_item read, writtenItems_comma, ih, List.cons_append]

theorem listed_readAll (tokens : List Token) : ∃ rest, Listed tokens (Item.readAll tokens) rest := by
  obtain ⟨items, rest, listed⟩ := exists_listed tokens
  exact ⟨rest, listed.readAll_eq.symm ▸ listed⟩

/-- The list of an attribute that speaks to the mapping. -/
def list? (a : Attribute) : Option (List Token) :=
  match a.content with
  | .list tokens => if a.name == "poet" then some tokens else none
  | _ => none

def listsOf (attributes : List Attribute) : List (List Token) := attributes.filterMap list?

def itemsRead (attributes : List Attribute) : List Item := (listsOf attributes).flatMap Item.readAll

def itemsWritten (attributes : List Attribute) : List Item := (listsOf attributes).flatMap writtenItems

theorem itemsRead_subset (attributes : List Attribute) : itemsRead attributes ⊆ itemsWritten attributes := by
  intro item member
  obtain ⟨tokens, list, read⟩ := List.mem_flatMap.mp member
  obtain ⟨rest, listed⟩ := listed_readAll tokens
  exact List.mem_flatMap.mpr ⟨tokens, list, listed.writtenItems_eq ▸ List.mem_append_left _ read⟩

section Taking
variable {α : Type} {take : α → Item → Except AttributeError α} {start a : α} {attributes : List Attribute}

theorem takeItems_eq_ok (done : takeItems take start attributes = .ok a) :
    (∀ attr ∈ attributes, attr.name = "poet" → ∃ tokens, attr.content = .list tokens) ∧
      (itemsRead attributes).foldlM take start = .ok a := by
  unfold takeItems at done
  induction attributes generalizing start with
  | nil => exact ⟨nofun, done⟩
  | cons attr attributes ih =>
    unfold itemLists at done
    split at done
    · next mapping =>
      rw [List.foldlM_cons] at done
      cases content : attr.content with
      | list tokens =>
        rw [content] at done
        obtain ⟨next, first, rest⟩ := bind_eq_ok.mp done
        obtain ⟨every, taken⟩ := ih rest
        refine ⟨List.forall_mem_cons.mpr ⟨fun _ => ⟨tokens, content⟩, every⟩, ?_⟩
        have list : list? attr = some tokens := by rw [list?, content]; exact if_pos mapping
        rw [itemsRead, listsOf, List.filterMap_cons_some list, List.flatMap_cons, List.foldlM_append]
        exact bind_eq_ok.mpr ⟨next, first, taken⟩
      | nothing => rw [content] at done; cases done
      | value => rw [content] at done; cases done
    · next other =>
      obtain ⟨every, taken⟩ := ih done
      refine ⟨List.forall_mem_cons.mpr ⟨fun same => absurd (beq_iff_eq.mpr same) other, every⟩, ?_⟩
      have list : list? attr = none := by
        unfold list?
        split
        · exact if_neg other
        · rfl
      rw [itemsRead, listsOf, List.filterMap_cons_none list]
      exact taken

/-- The item that counts among those of a name. -/
def lastOf? (name : String) (items : List Item) : Option Item := (items.filter (·.name == name)).getLast?

theorem lastOf?_concat (name : String) (items : List Item) (item : Item) :
    lastOf? name (items ++ [item]) = if item.name = name then some item else lastOf? name items := by
  unfold lastOf?
  rw [List.filter_append]
  split
  · next same => simp [same]
  · next other => simp [other]

theorem lastOf?_name {name : String} {items : List Item} {item : Item} (last : lastOf? name items = some item) :
    item.name = name := by
  have member := List.mem_of_getLast? last
  simpa using (List.mem_filter.mp member).2

theorem lastOf?_eq_none {name : String} {items : List Item} : lastOf? name items = none ↔ ∀ item ∈ items, item.name ≠ name := by
  simp [lastOf?]

/-- Taking an item makes it the one that shows under its name, and leaves what shows under other names as it is. -/
def Sets (take : α → Item → Except AttributeError α) (shows : α → Item → Prop) : Prop :=
  ∀ ⦃a item a'⦄, take a item = .ok a' →
    ∀ other : Item, shows a' other ↔ if other.name = item.name then other = item else shows a other

/-- What shows is the last item of each name, which is found from the end of the list. -/
theorem shows_iff_last {shows : α → Item → Prop} (sets : Sets take shows) (bare : ∀ item, ¬shows start item) {items : List Item}
    (done : items.foldlM take start = .ok a) (item : Item) : shows a item ↔ lastOf? item.name items = some item := by
  induction items using List.reverseRecOn generalizing a with
  | nil => cases done; exact iff_of_false (bare item) nofun
  | append_singleton items next ih =>
    rw [List.foldlM_append] at done
    obtain ⟨a', before, taken⟩ := bind_eq_ok.mp done
    obtain ⟨_, taken, same⟩ := bind_eq_ok.mp taken
    cases same
    rw [sets taken item, lastOf?_concat]
    by_cases same : item.name = next.name
    · rw [if_pos same, if_pos same.symm, Option.some_inj]
      exact eq_comm
    · rw [if_neg same, if_neg (Ne.symm same)]
      exact ih before

/-- Every item shows unless a later one of its name replaces it. -/
def Reflected (shows : Item → Prop) (items : List Item) : Prop := ∀ item, lastOf? item.name items = some item → shows item

/-- What attributes come to. The items that show are the last ones of their names among those that are read, which are the items of
every list up to the first place where it does not go on. -/
structure Decoded (shows : Item → Prop) (attributes : List Attribute) : Prop where
  lists : ∀ attr ∈ attributes, attr.name = "poet" → ∃ tokens, attr.content = .list tokens
  read : ∀ tokens ∈ listsOf attributes, ∃ rest, Listed tokens (Item.readAll tokens) rest ∧
    writtenItems tokens = Item.readAll tokens ++ writtenItems rest
  shown_iff : ∀ item, shows item ↔ lastOf? item.name (itemsRead attributes) = some item
  reflected_iff : Reflected shows (itemsWritten attributes) ↔
    ∀ name, lastOf? name (itemsWritten attributes) = lastOf? name (itemsRead attributes)
  whole : (∀ tokens ∈ listsOf attributes, Listed tokens (Item.readAll tokens) []) →
    Reflected shows (itemsWritten attributes)

theorem decoded_of_taken {shows : α → Item → Prop} (sets : Sets take shows) (bare : ∀ item, ¬shows start item)
    (done : takeItems take start attributes = .ok a) : Decoded (shows a) attributes := by
  obtain ⟨every, taken⟩ := takeItems_eq_ok done
  have shown := shows_iff_last sets bare taken
  have reflected : Reflected (shows a) (itemsWritten attributes) ↔
      ∀ name, lastOf? name (itemsWritten attributes) = lastOf? name (itemsRead attributes) := by
    constructor
    · intro reflected name
      cases last : lastOf? name (itemsWritten attributes) with
      | none =>
        have absent := lastOf?_eq_none.mp last
        exact (lastOf?_eq_none.mpr fun item member => absent item (itemsRead_subset attributes member)).symm
      | some item =>
        cases lastOf?_name last
        exact ((shown item).mp (reflected item last)).symm
    · intro same item last
      exact (shown item).mpr (same item.name ▸ last)
  refine ⟨every, fun tokens _ => ?_, shown, reflected, fun whole => reflected.mpr fun name => ?_⟩
  · obtain ⟨rest, listed⟩ := listed_readAll tokens
    exact ⟨rest, listed, listed.writtenItems_eq⟩
  · have same : itemsWritten attributes = itemsRead attributes := by
      refine List.flatMap_congr fun tokens list => ?_
      rw [(whole tokens list).writtenItems_eq, writtenItems_nil, List.append_nil]
    rw [same]

end Taking

/-- The clause that items of a name are for. -/
def clause? (c : Clauses) (name : String) : Option String :=
  match name with
  | "table" => c.tables
  | "join" => c.join
  | "from" => c.source
  | "trace" => c.trace
  | _ => none

def clauseShown (c : Clauses) (item : Item) : Prop := ∃ value, item.content = .text value ∧ clause? c item.name = some value

theorem clause?_set {name : String} {set : Clauses → String → Clauses} (found : clauseSetter? name = some set) (c : Clauses)
    (value other : String) : clause? (set c value) other = if other = name then some value else clause? c other := by
  unfold clauseSetter? at found
  unfold clause?
  split at found <;> cases found
  all_goals split <;> simp_all

theorem sets_takeClause : Sets takeClause clauseShown := by
  intro c ⟨name, content⟩ c' done ⟨other, shown⟩
  unfold takeClause at done
  split at done
  · cases done
  · next set value found written =>
    cases done
    cases written
    simp only [clauseShown, clause?_set found]
    by_cases same : other = name
    · simp [same]
    · simp [same]
  · cases done

/-- Whether a field has the mark of a name. -/
def markShown (f : DeclaredField) (name : String) : Prop :=
  match name with
  | "read_only" => f.readOnly = true
  | "embedded" => f.kind = .nested .embedded
  | "base" => f.kind = .nested .base
  | "skip" => f.kind = .skipped
  | _ => False

def fieldShown (f : DeclaredField) (item : Item) : Prop :=
  if item.name = "column" then ∃ value, item.content = .text value ∧ f.column = some value
  else item.content = .nothing ∧ markShown f item.name

/-- A kind is set once, so it takes no other mark away. -/
theorem mark?_spec {f f' : DeclaredField} {name : String} (done : f.mark? name = some (.ok f')) :
    f'.column = f.column ∧ ∀ other, markShown f' other ↔ other = name ∨ markShown f other := by
  unfold DeclaredField.mark? DeclaredField.withKind at done
  split at done
  · cases done
    refine ⟨rfl, fun other => ?_⟩
    unfold markShown
    split <;> simp_all
  iterate 3
    split at done
    · next plain =>
      cases done
      refine ⟨rfl, fun other => ?_⟩
      unfold markShown
      split <;> simp_all
    · cases done
  · cases done

theorem sets_take : Sets DeclaredField.take fieldShown := by
  intro f ⟨name, content⟩ f' done ⟨other, shown⟩
  unfold DeclaredField.take at done
  split at done
  · next column =>
    split at done
    · next value written =>
      cases done
      cases written
      cases beq_iff_eq.mp column
      by_cases same : other = "column"
      · simp [fieldShown, same]
      · simp [fieldShown, same, markShown]
    · cases done
  · next mark =>
    have apart : name ≠ "column" := fun same => mark (beq_iff_eq.mpr same)
    split at done
    · cases done
    · next _ _ marked found written =>
      cases written
      cases done
      obtain ⟨column, marks⟩ := mark?_spec found
      by_cases same : other = name
      · simp [fieldShown, same, apart, marks]
      · simp [fieldShown, same, column, marks]
    · cases done

theorem decoded_clauses {c : Clauses} {attributes : List Attribute} (done : clausesOf attributes = .ok c) :
    Decoded (clauseShown c) attributes := by
  refine decoded_of_taken sets_takeClause (fun item => ?_) done
  rintro ⟨value, -, shown⟩
  unfold clause? at shown
  split at shown <;> cases shown

theorem decoded_field {w : WrittenField} {f : DeclaredField} (done : DeclaredField.ofWritten w = .ok f) :
    Decoded (fieldShown f) w.attributes := by
  unfold DeclaredField.ofWritten at done
  split at done
  · cases done
  · refine decoded_of_taken sets_take (fun item => ?_) done
    unfold fieldShown markShown
    split
    · rintro ⟨value, -, ⟨⟩⟩
    · rintro ⟨-, marked⟩
      split at marked <;> cases marked

/-- What the lists of a struct and of its fields come to, unless one of them is refused. An item that is written may be left out
without a refusal, but only behind a place where its list does not go on. -/
theorem written_items_reflected (s : WrittenStruct) :
    (∃ e, EntityDeclaration.ofWritten s = .error e) ∨
      ∃ d, EntityDeclaration.ofWritten s = .ok d ∧ Decoded (clauseShown d.clauses) s.attributes ∧
        List.Forall₂ (fun w f => Decoded (fieldShown f) w.attributes) s.fields d.fields := by
  cases done : EntityDeclaration.ofWritten s with
  | error e => exact .inl ⟨e, rfl⟩
  | ok d =>
    obtain ⟨clauses, taken, rest⟩ := bind_eq_ok.mp done
    obtain ⟨fields, decoded, same⟩ := bind_eq_ok.mp rest
    cases same
    exact .inr ⟨_, rfl, decoded_clauses taken, (mapM_eq_ok.mp decoded).imp fun _ _ => decoded_field⟩

/-- A struct with a list that lacks the comma behind its first item. -/
def commaMissing : String := "struct Item \x7b #[poet(column = \"MY_NAME\" read_only)] name: String \x7d"

def commaMissingField : WrittenField :=
  ⟨[⟨"poet", .list [.word "column", .symbol '=' false, .literal (.text "MY_NAME") "\"MY_NAME\"", .word "read_only"]⟩],
    some "name", .named ⟨["String"], false, false, false, "String"⟩⟩

theorem unseparated_item_left_out :
    ¬∀ source s, WrittenStruct.ofSource? source = some s →
      (∃ e, EntityDeclaration.ofWritten s = .error e) ∨
        ∃ d, EntityDeclaration.ofWritten s = .ok d ∧ Reflected (clauseShown d.clauses) (itemsWritten s.attributes) ∧
          List.Forall₂ (fun w f => Reflected (fieldShown f) (itemsWritten w.attributes)) s.fields d.fields := by
  intro every
  have parsed : WrittenStruct.ofSource? commaMissing = some ⟨[], [commaMissingField]⟩ := by decide +kernel
  have decoded : EntityDeclaration.ofWritten ⟨[], [commaMissingField]⟩ =
      .ok ⟨⟨none, none, none, none⟩, [⟨"name", some "MY_NAME", false, .value, .text, false⟩]⟩ := by cbv
  have written : itemsWritten commaMissingField.attributes = [⟨"column", .text "MY_NAME"⟩, ⟨"read_only", .nothing⟩] := by cbv
  obtain ⟨e, refused⟩ | ⟨d, done, -, fields⟩ := every _ _ parsed
  · rw [decoded] at refused
    cases refused
  · rw [decoded] at done
    cases done
    cases fields with
    | cons field _ =>
      have shown := field ⟨"read_only", .nothing⟩ (by rw [written]; rfl)
      have marked : false = true := shown.2
      cases marked

end EntityMapping.Proofs.AttributeLists
