import Mathlib.Data.List.Basic

/-!
# Pieces between separators

A list is cut at every separator, and pieces are joined by one. No piece holds
the separator, so that joining and cutting undo each other; what is read off a
joined list is read off its pieces.
-/

namespace DelimitedText
open List

universe u
variable {α : Type u} [DecidableEq α] {a : α} {xs ys : List α} {pieces : List (List α)}

theorem not_mem_of_mem_splitOn {piece : List α} (mem : piece ∈ xs.splitOn a) : a ∉ piece := by
  induction xs generalizing piece with
  | nil =>
    rw [splitOn_nil, mem_singleton] at mem
    rw [mem]
    exact not_mem_nil
  | cons x xs ih =>
    rw [splitOn_cons_eq_if_modifyHead] at mem
    split at mem
    · rcases mem_cons.mp mem with rfl | later
      · exact not_mem_nil
      · exact ih later
    · rename_i other
      -- the first piece grows by an element that is no separator
      obtain ⟨first, rest, cut⟩ := exists_cons_of_ne_nil (splitOn_ne_nil a xs)
      rw [cut, modifyHead_cons] at mem
      rcases mem_cons.mp mem with rfl | later
      · rintro (_ | ⟨_, inside⟩)
        · exact other (beq_self_eq_true a)
        · exact ih (cut ▸ mem_cons_self) inside
      · exact ih (cut ▸ mem_cons_of_mem _ later)

/-- A list has the pieces it is joined of, as long as the separator is in none of them. -/
theorem splitOn_eq_iff (some_ : pieces ≠ []) :
    xs.splitOn a = pieces ↔ xs = [a].intercalate pieces ∧ ∀ piece ∈ pieces, a ∉ piece := by
  constructor
  · rintro rfl
    exact ⟨(intercalate_splitOn a).symm, fun piece mem => not_mem_of_mem_splitOn mem⟩
  · rintro ⟨rfl, plain⟩
    exact splitOn_intercalate a plain some_

/-- The pieces determine the list. -/
theorem splitOn_inj (same : xs.splitOn a = ys.splitOn a) : xs = ys := by
  exact (intercalate_splitOn a).symm.trans ((congrArg [a].intercalate same).trans (intercalate_splitOn a))

/-- One piece is a list without the separator. -/
theorem splitOn_length_eq_one (alone : (xs.splitOn a).length = 1) : a ∉ xs := by
  obtain ⟨piece, single⟩ := length_eq_one_iff.mp alone
  have same := ((splitOn_eq_iff (cons_ne_nil piece [])).mp single).1
  rw [intercalate_singleton] at same
  rw [same]
  exact not_mem_of_mem_splitOn (single ▸ mem_singleton_self piece)

theorem splitOn_length_pos (a : α) (xs : List α) : 0 < (xs.splitOn a).length :=
  length_pos_iff.mpr (splitOn_ne_nil a xs)

end DelimitedText
