import EntityMapping.Metadata.Basic

/-! The store of metadata. An entry is made when a type is first asked for and stays as it is; a failure leaves no entry, so
the next request builds again. -/

namespace EntityMapping

open Entity

structure MetadataStore where
  entries : Std.HashMap Nat Metadata
  /-- How many times metadata were built, successfully or not. No run builds so often that a machine word would start again, so
  there is no bound. -/
  builds : Nat

namespace MetadataStore

def empty : MetadataStore := ⟨∅, 0⟩

def size (store : MetadataStore) : Nat := store.entries.size

/-- The metadata of a declared type, and the store afterwards. -/
def get {n : Nat} (store : MetadataStore) (s : Schema n) (i : Fin n) : Except Failure Metadata × MetadataStore :=
  match store.entries[i.val]? with
  | some m => (.ok m, store)
  | none => match Metadata.ofSchema s i with
    | .ok m => (.ok m, ⟨store.entries.insert i.val m, store.builds + 1⟩)
    | .error e => (.error e, { store with builds := store.builds + 1 })

end MetadataStore

end EntityMapping
