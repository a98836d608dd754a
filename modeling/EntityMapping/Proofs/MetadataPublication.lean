import EntityMapping.Metadata.Store
import EntityMapping.Proofs.SetterCaching

/-! The store of metadata over whole runs. A request is answered as if the metadata were built for it, and what was published
stays. Every build either published an entry or failed, so the counter of builds tells how many requests failed. -/

namespace EntityMapping.Proofs.MetadataPublication
open Entity SetterCaching

variable {n : Nat} {s : Schema n}

/-- Asks for one type after the other; the answers come with the store that is left. -/
def getAll (s : Schema n) : List (Fin n) → MetadataStore → List (Except Failure Metadata) × MetadataStore
  | [], store => ([], store)
  | i :: rest, store =>
    let (answer, store) := store.get s i
    let (answers, store) := getAll s rest store
    (answer :: answers, store)

def isBuilt (s : Schema n) (i : Fin n) : Bool := (Metadata.ofSchema s i).isOk

/-- What the store holds after these requests. -/
structure Published (s : Schema n) (asked : List (Fin n)) (store : MetadataStore) : Prop where
  entries : ∀ id m, store.entries[id]? = some m ↔ ∃ i ∈ asked, i.val = id ∧ Metadata.ofSchema s i = .ok m
  builds : store.builds = store.size + asked.countP fun i => !isBuilt s i

theorem published_empty : Published s [] .empty := ⟨by simp [MetadataStore.empty], rfl⟩

variable {asked : List (Fin n)} {store : MetadataStore}

theorem Published.entry (published : Published s asked store) {i : Fin n} {m : Metadata} (held : store.entries[i.val]? = some m) :
    i ∈ asked ∧ Metadata.ofSchema s i = .ok m := by
  obtain ⟨j, member, same, built⟩ := (published.entries _ _).mp held
  cases Fin.ext same
  exact ⟨member, built⟩

/-- Asking for a type that is held changes nothing. -/
theorem Published.again (published : Published s asked store) {i : Fin n} {m : Metadata}
    (held : store.entries[i.val]? = some m) : Published s (i :: asked) store := by
  obtain ⟨member, built⟩ := published.entry held
  refine ⟨fun id m' => ?_, ?_⟩
  · rw [published.entries]
    simp only [List.mem_cons, exists_eq_or_imp, iff_or_self]
    exact fun first => ⟨i, member, first⟩
  · have counted : isBuilt s i = true := by rw [isBuilt, built]; rfl
    rw [published.builds, List.countP_cons_of_neg (by simp [counted])]

theorem Published.insert (published : Published s asked store) {i : Fin n} {m : Metadata}
    (free : store.entries[i.val]? = none) (built : Metadata.ofSchema s i = .ok m) :
    Published s (i :: asked) ⟨store.entries.insert i.val m, store.builds + 1⟩ := by
  refine ⟨fun id m' => ?_, ?_⟩
  · simp only [Std.HashMap.getElem?_insert, List.mem_cons, exists_eq_or_imp]
    by_cases same : i.val = id
    · subst same
      rw [if_pos (beq_self_eq_true _), built]
      constructor
      · intro first
        cases first
        exact .inl ⟨rfl, rfl⟩
      · rintro (⟨_, first⟩ | earlier)
        · cases first
          rfl
        · rw [(published.entries _ _).mpr earlier] at free
          cases free
    · rw [if_neg (by simpa using same), published.entries]
      simp [same]
  · have counted : isBuilt s i = true := by rw [isBuilt, built]; rfl
    have absent : i.val ∉ store.entries := by simpa using free
    rw [List.countP_cons_of_neg (by simp [counted]), MetadataStore.size, Std.HashMap.size_insert, if_neg absent, published.builds]
    exact Nat.add_right_comm ..

theorem Published.failed (published : Published s asked store) {i : Fin n} {e : Failure}
    (failed : Metadata.ofSchema s i = .error e) : Published s (i :: asked) { store with builds := store.builds + 1 } := by
  refine ⟨fun id m => ?_, ?_⟩
  · rw [published.entries]
    simp [failed]
  · have counted : isBuilt s i = false := by rw [isBuilt, failed]; rfl
    rw [List.countP_cons_of_pos (by simp [counted]), published.builds]
    rfl

theorem Published.get (published : Published s asked store) (i : Fin n) :
    (store.get s i).1 = Metadata.ofSchema s i ∧ Published s (i :: asked) (store.get s i).2 := by
  unfold MetadataStore.get
  split
  · next m held => exact ⟨(published.entry held).2.symm, published.again held⟩
  · next free =>
    split
    · next m built => exact ⟨built.symm, published.insert free built⟩
    · next e failed => exact ⟨failed.symm, published.failed failed⟩

/-- The types asked for last come first in what was asked. -/
theorem Published.getAll (published : Published s asked store) (calls : List (Fin n)) :
    (getAll s calls store).1 = calls.map (Metadata.ofSchema s) ∧
      Published s (calls.reverse ++ asked) (getAll s calls store).2 := by
  induction calls generalizing asked store with
  | nil => exact ⟨rfl, published⟩
  | cons i rest ih =>
    obtain ⟨answer, after⟩ := published.get i
    obtain ⟨answers, left⟩ := ih after
    refine ⟨?_, ?_⟩
    · rw [List.map_cons, ← answer, ← answers]
      rfl
    · rw [List.reverse_cons, List.append_assoc]
      exact left

theorem published_run (s : Schema n) (calls : List (Fin n)) :
    (getAll s calls .empty).1 = calls.map (Metadata.ofSchema s) ∧ Published s calls.reverse (getAll s calls .empty).2 := by
  simpa using (published_empty (s := s)).getAll calls

theorem Published.size (published : Published s asked store) : store.size = (asked.filter (isBuilt s)).toFinset.card := by
  rw [← Finset.card_map Fin.valEmbedding]
  apply size_eq_card
  intro id
  rw [Std.HashMap.mem_iff_isSome_getElem?, Option.isSome_iff_exists]
  simp only [published.entries, Finset.mem_map, List.mem_toFinset, List.mem_filter, Fin.valEmbedding_apply]
  constructor
  · intro ⟨m, i, member, same, built⟩
    exact ⟨i, ⟨member, by rw [isBuilt, built]; rfl⟩, same⟩
  · intro ⟨i, ⟨member, counted⟩, same⟩
    rw [isBuilt] at counted
    cases built : Metadata.ofSchema s i with
    | ok m => exact ⟨m, i, member, same, built⟩
    | error e => rw [built] at counted; cases counted

/-- Requests are answered as building answers them, what is published stays, and the counters tell the types that were published
and the requests that failed. -/
theorem getAll_publication (s : Schema n) (calls : List (Fin n)) :
    (getAll s calls .empty).1 = calls.map (Metadata.ofSchema s) ∧
      (∀ before after, calls = before ++ after → ∀ (id : Nat) m, (getAll s before .empty).2.entries[id]? = some m →
        (getAll s calls .empty).2.entries[id]? = some m) ∧
      (getAll s calls .empty).2.size = (calls.filter fun i => (Metadata.ofSchema s i).isOk).toFinset.card ∧
      (getAll s calls .empty).2.builds =
        (getAll s calls .empty).2.size + (getAll s calls .empty).1.countP fun answer => !answer.isOk := by
  obtain ⟨answers, published⟩ := published_run s calls
  refine ⟨answers, ?_, ?_, ?_⟩
  · rintro before after rfl id m held
    obtain ⟨i, member, same, built⟩ := ((published_run s before).2.entries id m).mp held
    refine (published.entries id m).mpr ⟨i, ?_, same, built⟩
    rw [List.mem_reverse] at member ⊢
    exact List.mem_append_left after member
  · rw [published.size, List.filter_reverse, List.toFinset_reverse]
    rfl
  · rw [published.builds, answers, List.countP_map, List.countP_reverse]
    rfl

/-- An order embeds a customer, who embeds an address; a node embeds a node. -/
def mixed : Schema 4 :=
  ⟨fun i => [⟨"Order", ⟨none, none, none, none⟩, [.nested "customer" .embedded false 2]⟩,
    ⟨"Node", ⟨none, none, none, none⟩, [.nested "next" .embedded true 1]⟩,
    ⟨"Customer", ⟨none, none, none, none⟩, [.nested "address" .embedded false 3]⟩,
    ⟨"Address", ⟨none, none, none, none⟩, []⟩][i]⟩

/-- Hits, first builds and a failure that comes up again. -/
theorem getAll_mixed :
    (getAll mixed [1, 0, 0, 2, 1, 0] .empty).1.map (·.isOk) = [false, true, true, true, false, true] ∧
      (∃ m, (getAll mixed [1, 0] .empty).2.entries[0]? = some m ∧
        (getAll mixed [1, 0, 0, 2, 1, 0] .empty).2.entries[0]? = some m) ∧
      (getAll mixed [1, 0, 0, 2, 1, 0] .empty).2.size = 2 ∧ (getAll mixed [1, 0, 0, 2, 1, 0] .empty).2.builds = 4 := by
  obtain ⟨answers, kept, size, builds⟩ := getAll_publication mixed [1, 0, 0, 2, 1, 0]
  refine ⟨?_, ?_, ?_⟩
  · rw [answers]
    decide +kernel
  · cases built : Metadata.ofSchema mixed 0 with
    | error e =>
      have succeeds : (Metadata.ofSchema mixed 0).isOk = true := by decide +kernel
      rw [built] at succeeds
      cases succeeds
    | ok m =>
      have held : (getAll mixed [1, 0] .empty).2.entries[0]? = some m :=
        ((published_run mixed [1, 0]).2.entries 0 m).mpr ⟨0, by simp, rfl, built⟩
      exact ⟨m, held, kept [1, 0] [0, 2, 1, 0] rfl 0 m held⟩
  · rw [builds, size, answers]
    decide +kernel

end EntityMapping.Proofs.MetadataPublication
