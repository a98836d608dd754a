import EntityMapping.Text.Pieces
import Mathlib

/-! Pieces with separators between them. What is appended to a text is the pieces that hold something, joined with the separator.
An empty last piece leaves one separator behind them. -/

namespace EntityMapping.Proofs.SeparatedPieces
open Text

/-- The pieces that hold something with the separator between each two of them. -/
def joined (separator : String) (pieces : List String) : String := separator.intercalate (pieces.filter (!·.isEmpty))

/-- Whether the last piece is empty and another one is not. -/
def endsEmpty (pieces : List String) : Bool := pieces.getLast?.any String.isEmpty && pieces.any (!·.isEmpty)

/-- The separator that an empty last piece leaves. -/
def leftover (separator : String) (pieces : List String) : String := if endsEmpty pieces then separator else ""

/-- The separator before a piece depends on whether the text has grown since the piece before it was begun. -/
theorem appendFrom_cons (separator : String) (begun : Nat) (out piece : String) (pieces : List String) :
    appendFrom separator begun out (piece :: pieces) =
      (if out.utf8ByteSize > begun then out ++ separator else out) ++ separated separator (piece :: pieces) := by
  induction pieces generalizing begun out piece with
  | nil => rfl
  | cons next pieces ih =>
    rw [appendFrom, ih, separated]
    generalize (if out.utf8ByteSize > begun then out ++ separator else out) = before
    by_cases empty : piece.isEmpty
    · rw [String.isEmpty_iff.mp empty]
      simp
    · have grown : 0 < piece.utf8ByteSize := by
        rw [String.isEmpty_iff, ← String.utf8ByteSize_eq_zero_iff] at empty
        exact Nat.pos_of_ne_zero empty
      simp [empty, grown, String.append_assoc]

theorem appendSeparated_eq (separator out : String) (pieces : List String) :
    appendSeparated separator out pieces = out ++ separated separator pieces := by
  cases pieces with
  | nil => simp [appendSeparated, appendFrom, separated]
  | cons piece pieces => simp [appendSeparated, appendFrom_cons]

/-- The separator that is left stands behind the last piece that holds something, when only empty pieces follow it. -/
theorem separated_eq_joined (separator : String) (pieces : List String) :
    separated separator pieces = joined separator pieces ++ leftover separator pieces := by
  induction pieces using separated.induct with
  | case1 => rfl
  | case2 piece =>
    by_cases empty : piece.isEmpty
    · rw [String.isEmpty_iff.mp empty]
      simp [separated, joined, leftover, endsEmpty]
    · simp [separated, joined, leftover, endsEmpty, empty]
  | case3 piece next pieces ih =>
    rw [separated, ih]
    by_cases empty : piece.isEmpty
    · simp [joined, leftover, endsEmpty, empty]
    · by_cases held : (next :: pieces).filter (!·.isEmpty) = []
      · have silent : ∀ other ∈ next :: pieces, other.isEmpty := by simpa using held
        have last : (next :: pieces).getLast?.any String.isEmpty := by
          rw [List.getLast?_eq_some_getLast (List.cons_ne_nil _ _)]
          exact silent _ (List.getLast_mem _)
        have nothing : (next :: pieces).any (!·.isEmpty) = false := by simpa using silent
        simp [joined, leftover, endsEmpty, empty, held, last, nothing]
      · have something : (next :: pieces).any (!·.isEmpty) := by
          obtain ⟨other, member⟩ := List.exists_mem_of_ne_nil _ held
          obtain ⟨inside, filled⟩ := List.mem_filter.mp member
          exact List.any_eq_true.mpr ⟨other, inside, filled⟩
        simp [joined, leftover, endsEmpty, empty, something, String.intercalate_cons_of_ne_nil held, String.append_assoc]

/-- What is appended is the pieces that hold something, joined, and a separator behind them if an empty piece comes last. It is
those pieces alone exactly when the separator is empty or no empty piece comes last behind others that hold something. -/
theorem appendSeparated_joins (separator out : String) (pieces : List String) :
    appendSeparated separator out pieces = out ++ joined separator pieces ++ leftover separator pieces ∧
      (appendSeparated separator out pieces = out ++ joined separator pieces ↔ separator = "" ∨ endsEmpty pieces = false) := by
  have whole : appendSeparated separator out pieces = out ++ joined separator pieces ++ leftover separator pieces := by
    rw [appendSeparated_eq, separated_eq_joined, String.append_assoc]
  refine ⟨whole, ?_⟩
  rw [whole, String.append_eq_left_iff]
  unfold leftover
  split
  · next ends => simp [ends]
  · next ends => simp [ends]

/-- An empty piece behind another one leaves a separator. -/
theorem separator_left_behind : appendSeparated "," "" ["a", ""] ≠ "" ++ joined "," ["a", ""] := by decide

end EntityMapping.Proofs.SeparatedPieces
