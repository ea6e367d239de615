import Mathlib.Algebra.BigOperators.Group.List.Basic
import Mathlib.Algebra.Order.BigOperators.Group.List
import Mathlib.Data.List.Sort
import Mathlib.Data.Rat.Floor
import Mathlib.Tactic.Linarith
import Mathlib.Tactic.FieldSimp

/-!
# Shares handed out in turn

A total is handed out in turn: each gets what it asks for, cut to what is left.
Where all that is asked for together is within the total, nothing is ever cut,
and what one gets depends on neither the others nor the order. Whole parts of
proportional shares are within the total.
-/

namespace ProportionalShares

universe u
variable {α : Type u}

/-- What each gets in turn, after `soFar` of the total is gone. -/
def handOut (ask : α → ℤ) (total : ℤ) : ℤ → List α → List (α × ℤ)
  | _, [] => []
  | soFar, a :: l =>
    let final := max 0 (min (ask a) (total - soFar))
    (a, final) :: handOut ask total (soFar + final) l

/-- `int(q)`, towards zero. -/
def truncate (q : ℚ) : ℤ := if 0 ≤ q then ⌊q⌋ else ⌈q⌉

theorem truncate_nonneg {q : ℚ} (nonneg : 0 ≤ q) : truncate q = ⌊q⌋ := if_pos nonneg

/-- Nothing is cut where all that is asked for is within the total. -/
theorem handOut_eq {ask : α → ℤ} {total : ℤ} (l : List α) {soFar : ℤ}
    (within : soFar + (l.map fun a => max 0 (ask a)).sum ≤ total) :
    handOut ask total soFar l = l.map fun a => (a, max 0 (ask a)) := by
  induction l generalizing soFar with
  | nil => rfl
  | cons a l ih =>
    rw [List.map_cons, List.sum_cons] at within
    have rest : 0 ≤ (l.map fun a => max 0 (ask a)).sum := by
      apply List.sum_nonneg
      intro n mem
      obtain ⟨b, -, rfl⟩ := List.mem_map.mp mem
      exact le_max_left _ _
    have uncut : max 0 (min (ask a) (total - soFar)) = max 0 (ask a) := by omega
    rw [handOut, uncut, List.map_cons, ih (by omega)]

section Shares
variable {w : α → ℚ} {T m : ℚ}

/-- The whole parts of proportional shares sum up to no more than is shared. -/
theorem sum_floor_le (l : List α) (positive : 0 < (l.map w).sum) (shared : 0 ≤ T) (damped : m ≤ 1) :
    ((l.map fun a => ⌊w a / (l.map w).sum * T * m⌋).sum : ℤ) ≤ T := by
  generalize whole : (l.map w).sum = W at positive
  have parts : ∀ l : List α, (((l.map fun a => ⌊w a / W * T * m⌋).sum : ℤ) : ℚ) ≤
      (l.map w).sum / W * T * m := by
    intro l
    induction l with
    | nil => simp
    | cons a l ih =>
      simp only [List.map_cons, List.sum_cons, Int.cast_add]
      have floor : ((⌊w a / W * T * m⌋ : ℤ) : ℚ) ≤ w a / W * T * m := Int.floor_le _
      calc ((⌊w a / W * T * m⌋ : ℤ) : ℚ) + ((l.map fun a => ⌊w a / W * T * m⌋).sum : ℤ)
          ≤ w a / W * T * m + (l.map w).sum / W * T * m := add_le_add floor ih
        _ = (w a + (l.map w).sum) / W * T * m := by ring
  calc (((l.map fun a => ⌊w a / W * T * m⌋).sum : ℤ) : ℚ)
      ≤ (l.map w).sum / W * T * m := parts l
    _ = T * m := by rw [whole, div_self positive.ne', one_mul]
    _ ≤ T * 1 := mul_le_mul_of_nonneg_left damped shared
    _ = T := mul_one T

/-- A larger weight has no smaller share. -/
theorem floor_share_mono {W v v' : ℚ} (order : v ≤ v') (positive : 0 < W) (shared : 0 ≤ T)
    (nonneg : 0 ≤ m) : ⌊v / W * T * m⌋ ≤ ⌊v' / W * T * m⌋ := by
  apply Int.floor_le_floor
  have parts : v / W ≤ v' / W := div_le_div_of_nonneg_right order positive.le
  exact mul_le_mul_of_nonneg_right (mul_le_mul_of_nonneg_right parts shared) nonneg

end Shares

end ProportionalShares
