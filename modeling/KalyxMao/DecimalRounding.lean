import Mathlib.Algebra.Order.Floor.Ring
import Mathlib.Algebra.Ring.Int.Parity
import Mathlib.Data.Rat.Floor
import Mathlib.Tactic.Linarith
import Mathlib.Tactic.FieldSimp

/-!
# Rounding to the nearest decimal, ties to even

A rational is rounded to a number of decimal places. Against an integer bound
the rounded value compares as the rational does, up to half a unit of the last
place.
-/

namespace DecimalRounding

/-- The nearest integer; halfway, the even one. -/
def halfEven (q : ℚ) : ℤ :=
  let below := ⌊q⌋
  if q - below < 1 / 2 then below
  else if 1 / 2 < q - below then below + 1
  else if Even below then below
  else below + 1

/-- `round(q, places)`. -/
def roundTo (places : ℕ) (q : ℚ) : ℚ := halfEven (q * 10 ^ places) / 10 ^ places

section Bounds
variable {q : ℚ} {n : ℤ}

theorem halfEven_le_iff (even : Even n) : halfEven q ≤ n ↔ q ≤ n + 1 / 2 := by
  have lower := Int.floor_le q
  have upper := Int.lt_floor_add_one q
  unfold halfEven
  dsimp only
  split
  · constructor
    · intro le
      have : (⌊q⌋ : ℚ) ≤ n := by exact_mod_cast le
      linarith
    · intro le
      have : (⌊q⌋ : ℚ) < n + 1 := by linarith
      exact Int.lt_add_one_iff.mp (by exact_mod_cast this)
  · split
    · constructor
      · intro le
        have : (⌊q⌋ : ℚ) + 1 ≤ n := by exact_mod_cast le
        linarith
      · intro le
        have : (⌊q⌋ : ℚ) < n := by linarith
        exact Int.add_one_le_iff.mpr (by exact_mod_cast this)
    · have half : q = ⌊q⌋ + 1 / 2 := by linarith
      have shifted : q ≤ n + 1 / 2 ↔ ⌊q⌋ ≤ n := by
        rw [half, add_le_add_iff_right, ← half]
        exact Int.cast_le
      rw [shifted]
      split
      · rfl
      · -- an odd number below an even one is not equal to it
        rename_i odd
        constructor
        · intro le
          omega
        · intro le
          refine Int.add_one_le_iff.mpr (lt_of_le_of_ne le fun same => odd ?_)
          rw [same]
          exact even

theorem le_halfEven_iff (even : Even n) : n ≤ halfEven q ↔ n - 1 / 2 ≤ q := by
  have lower := Int.floor_le q
  have upper := Int.lt_floor_add_one q
  unfold halfEven
  dsimp only
  split
  · constructor
    · intro le
      have : (n : ℚ) ≤ ⌊q⌋ := by exact_mod_cast le
      linarith
    · intro le
      have : (n : ℚ) < ⌊q⌋ + 1 := by linarith
      exact Int.lt_add_one_iff.mp (by exact_mod_cast this)
  · split
    · constructor
      · intro le
        have : (n : ℚ) ≤ ⌊q⌋ + 1 := by exact_mod_cast le
        linarith
      · intro le
        have : (n : ℚ) < ⌊q⌋ + 1 + 1 := by linarith
        exact Int.lt_add_one_iff.mp (by exact_mod_cast this)
    · have half : q = ⌊q⌋ + 1 / 2 := by linarith
      have shifted : n - 1 / 2 ≤ q ↔ n ≤ ⌊q⌋ + 1 := by
        have cast : n ≤ ⌊q⌋ + 1 ↔ (n : ℚ) ≤ ⌊q⌋ + 1 := by exact_mod_cast Iff.rfl
        rw [cast]
        constructor
        · intro le
          linarith
        · intro le
          linarith
      rw [shifted]
      split
      · rename_i even_
        constructor
        · intro le
          omega
        · intro le
          refine Int.lt_add_one_iff.mp (lt_of_le_of_ne le fun same => ?_)
          rw [same] at even
          exact Int.not_even_iff_odd.mpr even_.add_one even
      · rfl

variable {places : ℕ}

theorem even_scaled (some_ : places ≠ 0) (n : ℤ) : Even (n * 10 ^ places) := by
  obtain ⟨m, rfl⟩ := Nat.exists_eq_succ_of_ne_zero some_
  rw [pow_succ]
  exact (Even.mul_left (by decide) _).mul_left _

theorem roundTo_le_iff (some_ : places ≠ 0) :
    roundTo places q ≤ n ↔ q ≤ n + 1 / 2 / 10 ^ places := by
  have scale : (0 : ℚ) < 10 ^ places := by positivity
  have bound := halfEven_le_iff (q := q * 10 ^ places) (even_scaled some_ n)
  have cast : (halfEven (q * 10 ^ places) : ℚ) ≤ n * 10 ^ places ↔
      halfEven (q * 10 ^ places) ≤ n * 10 ^ places := by exact_mod_cast Iff.rfl
  rw [roundTo, div_le_iff₀ scale, cast, bound, ← le_div_iff₀ scale, add_div]
  push_cast
  rw [mul_div_cancel_right₀ _ scale.ne']

theorem le_roundTo_iff (some_ : places ≠ 0) :
    n ≤ roundTo places q ↔ n - 1 / 2 / 10 ^ places ≤ q := by
  have scale : (0 : ℚ) < 10 ^ places := by positivity
  have bound := le_halfEven_iff (q := q * 10 ^ places) (even_scaled some_ n)
  have cast : (n * 10 ^ places : ℚ) ≤ halfEven (q * 10 ^ places) ↔
      n * 10 ^ places ≤ halfEven (q * 10 ^ places) := by exact_mod_cast Iff.rfl
  rw [roundTo, le_div_iff₀ scale, cast, bound, ← div_le_iff₀ scale, sub_div]
  push_cast
  rw [mul_div_cancel_right₀ _ scale.ne']

/-- Rounding stays between integers. -/
theorem roundTo_between {m : ℤ} (some_ : places ≠ 0) (lower : m ≤ q) (upper : q ≤ n) :
    m ≤ roundTo places q ∧ roundTo places q ≤ n := by
  have unit : (0 : ℚ) ≤ 1 / 2 / 10 ^ places := by positivity
  constructor
  · rw [le_roundTo_iff some_]
    linarith
  · rw [roundTo_le_iff some_]
    linarith

end Bounds

end DecimalRounding
