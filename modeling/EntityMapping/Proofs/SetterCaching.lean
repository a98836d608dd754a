import EntityMapping.Proofs.SetterResolution
import Mathlib.Data.Finset.Card

/-! The cache of setters cannot be told from a search: it answers every lookup as a search for it would, and it has one entry
for each lookup that differs from those before, also when nothing was found. -/

namespace EntityMapping.Proofs.SetterCaching
open Entity Rows SetterResolution

def keyOf (lookup : Definition × String × String) : Nat × String × String := (lookup.1.type.id, lookup.2.1, lookup.2.2)

def search (lookup : Definition × String × String) : Option Setter := findSetter? lookup.1 lookup.2.1 lookup.2.2

/-- Looks up one after the other; the answers come with the cache that is left. -/
def lookUpAll : List (Definition × String × String) → SetterCache → List (Option Setter) × SetterCache
  | [], cache => ([], cache)
  | (d, embedding, label) :: rest, cache =>
    let (s, cache) := cache.resolve d embedding label
    let (answers, cache) := lookUpAll rest cache
    (s :: answers, cache)

theorem lookUpAll_answers {lookups : List (Definition × String × String)} {cache : SetterCache}
    (answers : ∀ l ∈ lookups, Answers cache l.1)
    (own : ∀ a ∈ lookups, ∀ b ∈ lookups, a.1.type.id = b.1.type.id → a.1 = b.1) :
    (lookUpAll lookups cache).1 = lookups.map search := by
  induction lookups generalizing cache with
  | nil => rfl
  | cons lookup rest ih =>
    have first := (answers lookup (.head _)).resolve lookup.2.1 lookup.2.2
    have later : ∀ l ∈ rest, Answers (cache.resolve lookup.1 lookup.2.1 lookup.2.2).2 l.1 := by
      intro l member
      exact (answers l (.tail _ member)).after (own lookup (.head _) l (.tail _ member)) lookup.2.1 lookup.2.2
    have tail := ih later fun a memberA b memberB => own a (.tail _ memberA) b (.tail _ memberB)
    rw [List.map_cons, search, ← first, ← tail]
    rfl

theorem mem_resolve (cache : SetterCache) (lookup : Definition × String × String) (key : Nat × String × String) :
    key ∈ (cache.resolve lookup.1 lookup.2.1 lookup.2.2).2.entries ↔ key = keyOf lookup ∨ key ∈ cache.entries := by
  unfold SetterCache.resolve
  dsimp only
  split
  · next cached =>
    have present : keyOf lookup ∈ cache.entries := by
      rw [Std.HashMap.mem_iff_isSome_getElem?, keyOf, cached]
      rfl
    constructor
    · exact .inr
    · rintro (rfl | member)
      · exact present
      · exact member
  · rw [Std.HashMap.mem_insert, beq_iff_eq, eq_comm]
    rfl

theorem mem_lookUpAll (lookups : List (Definition × String × String)) (cache : SetterCache) (key : Nat × String × String) :
    key ∈ (lookUpAll lookups cache).2.entries ↔ key ∈ lookups.map keyOf ∨ key ∈ cache.entries := by
  induction lookups generalizing cache with
  | nil => simp [lookUpAll]
  | cons lookup rest ih =>
    have run : key ∈ (lookUpAll (lookup :: rest) cache).2.entries ↔
        key ∈ rest.map keyOf ∨ key = keyOf lookup ∨ key ∈ cache.entries := by
      rw [← mem_resolve]
      exact ih _
    rw [run, List.map_cons, List.mem_cons, or_left_comm, or_assoc]

theorem size_eq_card {κ β : Type} [BEq κ] [Hashable κ] [LawfulBEq κ] [DecidableEq κ] {entries : Std.HashMap κ β} {keys : Finset κ}
    (same : ∀ key, key ∈ entries ↔ key ∈ keys) : entries.size = keys.card := by
  have held : entries.keys.toFinset = keys := by
    ext key
    rw [List.mem_toFinset, Std.HashMap.mem_keys, same]
  rw [← Std.HashMap.length_keys, ← held, List.toFinset_card_of_nodup Std.HashMap.nodup_keys]

/-- Types share the cache as long as no two of them have one identifier. -/
theorem lookUpAll_transparent {lookups : List (Definition × String × String)}
    (own : ∀ a ∈ lookups, ∀ b ∈ lookups, a.1.type.id = b.1.type.id → a.1 = b.1) :
    (lookUpAll lookups .empty).1 = lookups.map (fun (d, embedding, label) => findSetter? d embedding label) ∧
      (lookUpAll lookups .empty).2.size = (lookups.map fun (d, embedding, label) => (d.type.id, embedding, label)).toFinset.card := by
  have answers : ∀ l ∈ lookups, Answers .empty l.1 := by
    intro l _ embedding label s found
    simp [SetterCache.empty] at found
  refine ⟨lookUpAll_answers answers own, size_eq_card ?_⟩
  intro key
  rw [mem_lookUpAll, List.mem_toFinset]
  simp [SetterCache.empty, keyOf]

def part : Definition where
  type := ⟨1, "Part"⟩
  clauses := ⟨some "T_PART", none, none, none⟩
  fields := .value ⟨"size", none, false, .int32, false, true⟩ .nil

def machine : Definition where
  type := ⟨0, "Machine"⟩
  clauses := ⟨some "T_MACHINE", none, none, none⟩
  fields := .nested ⟨"part", .embedded, false, part.type⟩ part.fields .nil

def machineLookups : List (Definition × String × String) :=
  [(machine, "PART", "SIZE"), (part, "", "SIZE"), (machine, "", "SIZE"), (machine, "PART", "SIZE")]

theorem lookUpAll_machine :
    (lookUpAll machineLookups .empty).1.map (Option.map Setter.hops) = [some [0], some [], none, some [0]] ∧
      (lookUpAll machineLookups .empty).2.size = 3 := by
  have own : ∀ a ∈ machineLookups, ∀ b ∈ machineLookups, a.1.type.id = b.1.type.id → a.1 = b.1 := by
    simp [machineLookups, machine, part]
  obtain ⟨answers, size⟩ := lookUpAll_transparent own
  rw [answers, size]
  decide +kernel

end EntityMapping.Proofs.SetterCaching
