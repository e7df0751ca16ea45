/-
  File: Daftar/Inventory/PurchaseShares.lean
  Subject: The base split of a receipt and the unit cost of a share.

  * `baseShares` splits the base total over the line totals by largest remainder.
  * `unitCostC10` is the unit-cost snapshot of a share, which is also the actual cost of a coverage.
-/

import Daftar.Inventory.Allocation
import Daftar.Inventory.Valuation

namespace Daftar.Inventory

open Fallible
open Rounding

/-! ## 1. Definitions -/

def purchaseTotalZero (message : String) : InventoryError := ⟨.purchaseTotalZero, message⟩

/-- The shares of a base total, ties to the lower line. -/
def baseShares (baseTotalMinor : ℤ) (lineTotalsMinor : List ℤ) : Result (List ℤ) := do
  refuseIf (baseTotalMinor ≤ 0 ∨ baseTotalMinor > VALUE_LIMIT_MINOR)
    (purchaseTotalZero "a purchase base total must be positive and within range")
  refuseIf (lineTotalsMinor.length = 0)
    ⟨.inventoryLinesRequired, "a purchase needs at least one line"⟩
  refuseIf (∃ t ∈ lineTotalsMinor, t < 0)
    (allocationInvalid "a line total must be a non-negative integer")
  refuseIf (lineTotalsMinor.sum = 0) (purchaseTotalZero "a purchase total must be positive")
  largestRemainder (lineTotalsMinor.map fun units => ⟨units, 0⟩) baseTotalMinor

/-- The unit cost of a base share over a quantity. -/
def unitCostC10 (baseShareMinor qtyQ4 : ℤ) : Result ℤ := do
  refuseIf (qtyQ4 ≤ 0 ∨ qtyQ4 ≥ QTY_LIMIT_Q4)
    ⟨.inventoryQuantityInvalid, "a purchase quantity must be positive"⟩
  refuseIf (baseShareMinor < 0 ∨ baseShareMinor > VALUE_LIMIT_MINOR)
    ⟨.inventoryValueOutOfRange, "a base share must be a non-negative integer within range"⟩
  let avg ← averageUnitCost baseShareMinor qtyQ4 none
  someOr avg ⟨.inventoryArithmeticInvalid, "no unit cost for a zero quantity"⟩

/-! ## 2. What they accept -/

theorem unitCostC10_eq_ok {s q c : ℤ} :
    unitCostC10 s q = .ok c ↔ (0 < q ∧ q < QTY_LIMIT_Q4) ∧ (0 ≤ s ∧ s ≤ VALUE_LIMIT_MINOR) ∧
      nearestEven (s * Q4_TIMES_C10) q = c := by
  simp only [unitCostC10, bind_eq_ok, refuseIf_eq_ok, exists_const, averageUnitCost_eq,
    Except.ok.injEq, exists_eq_left', someOr_eq_ok, not_or, not_le, not_lt, ge_iff_le, gt_iff_lt]
  refine and_congr_right fun hq => and_congr_right fun _ => ?_
  rw [derivedAverage_of_ne _ _ (ne_of_gt hq.1), Option.some.injEq]

end Daftar.Inventory
