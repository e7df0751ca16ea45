/-
  File: Daftar/Inventory/Rounding.lean
  Subject: The one rounding boundary and the bounds of the fixed-point scales.

  * `roundHalfEven` is the package's rounding, refusal of a zero denominator included.
  * `roundHalfEven_eq_ok`: where it does not refuse, it is the nearest integer, ties to even.
  * `QTY_LIMIT_Q4`, `VALUE_LIMIT_MINOR` and `COST_LIMIT_C10` bound quantities (10^-4 units),
    values (minor units) and unit costs (10^-10 minor units).
-/

import Daftar.Inventory.Errors
import Daftar.Library.NearestEven

namespace Daftar.Inventory

open Fallible
open Rounding

/-! ## 1. Bounds -/

/-- Exclusive bound on a quantity in Q4. -/
def QTY_LIMIT_Q4 : ℤ := 10 ^ 14

/-- Inclusive bound on a value in minor units. -/
def VALUE_LIMIT_MINOR : ℤ := 10 ^ 18

/-- Exclusive bound on a unit cost in C10. -/
def COST_LIMIT_C10 : ℤ := 10 ^ 28

/-- Q4 scale times C10 scale: the denominator that takes `q4 * c10` to minor units. -/
def Q4_TIMES_C10 : ℤ := 10 ^ 14

/-! ## 2. Rounding -/

/-- `numerator / denominator` rounded half-even on the magnitudes, the sign restored afterwards. -/
def roundHalfEven (numerator denominator : ℤ) : Result ℤ := do
  refuseIf (denominator = 0) ⟨.inventoryArithmeticInvalid, "division by zero"⟩
  let negative := (decide (numerator < 0)) != (decide (denominator < 0))
  let n := numerator.natAbs
  let d := denominator.natAbs
  let q := n / d
  let twice := 2 * (n - q * d)
  let q' : ℤ := if twice > d ∨ (twice = d ∧ q % 2 ≠ 0) then q + 1 else q
  pure (if negative then -q' else q')

/-- **Where it does not refuse, the rounding is nearest-even.** -/
theorem roundHalfEven_eq_ok {numerator denominator : ℤ} (hd : denominator ≠ 0) :
    roundHalfEven numerator denominator = .ok (nearestEven numerator denominator) := by
  have hnat : ∀ (n d : ℕ), ((if 2 * (n - n / d * d) > d ∨ (2 * (n - n / d * d) = d ∧ n / d % 2 ≠ 0)
      then (((n / d : ℕ) : ℤ) + 1) else ((n / d : ℕ) : ℤ)) : ℤ) = nearestEvenNat n d := by
    intro n d
    unfold nearestEvenNat
    simp only
    split <;> simp
  unfold roundHalfEven
  rw [refuseIf_of_not hd]
  simp only [ok_bind, hnat, nearestEven]
  rcases lt_trichotomy numerator 0 with hn | rfl | hn
  · rcases lt_or_gt_of_ne hd with hd' | hd'
    · simp [hn, hd', Int.sign_eq_neg_one_of_neg]
    · simp [hn, hd'.not_gt, Int.sign_eq_neg_one_of_neg hn, Int.sign_eq_one_of_pos hd']
  · simp [nearestEvenNat]
  · rcases lt_or_gt_of_ne hd with hd' | hd'
    · simp [hn.not_gt, hd', Int.sign_eq_neg_one_of_neg hd', Int.sign_eq_one_of_pos hn]
    · simp [hn.not_gt, hd'.not_gt, Int.sign_eq_one_of_pos hn, Int.sign_eq_one_of_pos hd']

@[simp] theorem roundHalfEven_pos {numerator denominator : ℤ} (hd : 0 < denominator) :
    roundHalfEven numerator denominator = .ok (nearestEven numerator denominator) :=
  roundHalfEven_eq_ok hd.ne'

example : roundHalfEven (-5) 2 = .ok (-2) := by decide

end Daftar.Inventory
