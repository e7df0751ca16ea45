/-
  File: Daftar/Inventory/SupplierReturn.lean
  Subject: The supplier-return arithmetic: carrying values, AP first, the base release, the stock
  movements and the entry of one return.

  * `planSupplierReturn` is a draft, which is everything before the entry is built, followed by
    `supplierReturnEntryLines`, which builds the lines and checks their balance.
  * `supplierReturnLeavesSubUnitResidue` is the prevention half of the sub-unit residue rule.
  * `supplierReturnDraft_ap` is what a draft says about the AP part: the level, the amount and the
    base it releases.
-/

import Daftar.Inventory.SupplierSettlement
import Daftar.Inventory.Valuation

namespace Daftar.Inventory

open Fallible
open Rounding
open DoubleEntry

/-! ## 1. The arithmetic -/

def MAX_DOCUMENT_LINES : ℕ := 200

def assertQ4 (v : ℤ) (what : String) (min : ℤ) : Result Unit :=
  refuseIf (v < min ∨ v ≥ QTY_LIMIT_Q4)
    ⟨.inventoryQuantityInvalid, what ++ " must be a quantity within range"⟩

/-- The carrying value of returning a quantity of a line after what was returned before. -/
def carryingTxn (lineTotalTxnMinor purchasedQ4 returnedBeforeQ4 returnQ4 : ℤ) : Result ℤ := do
  assertMinor lineTotalTxnMinor "a line total" 0
  assertQ4 purchasedQ4 "a purchased quantity" 1
  assertQ4 returnedBeforeQ4 "a returned quantity" 0
  assertQ4 returnQ4 "a return quantity" 1
  refuseIf (returnedBeforeQ4 + returnQ4 > purchasedQ4)
    ⟨.supplierReturnQuantityExceedsPurchased,
      "the returned quantity would exceed the purchased quantity of the line"⟩
  let after ← roundHalfEven (lineTotalTxnMinor * (returnedBeforeQ4 + returnQ4)) purchasedQ4
  let before ← roundHalfEven (lineTotalTxnMinor * returnedBeforeQ4) purchasedQ4
  pure (after - before)

structure ApSplit where
  apTxnMinor : ℤ
  creditTxnMinor : ℤ
  deriving DecidableEq, Repr

/-- AP first, the rest a supplier credit. -/
def apSplit (carryingTxnMinor outstandingTxnMinor : ℤ) : Result ApSplit := do
  assertMinor carryingTxnMinor "a carrying value" 0
  assertMinor outstandingTxnMinor "an outstanding AP" 0
  let apTxnMinor :=
    if carryingTxnMinor < outstandingTxnMinor then carryingTxnMinor else outstandingTxnMinor
  pure ⟨apTxnMinor, carryingTxnMinor - apTxnMinor⟩

/-- The base AP that releasing an amount takes off a purchase with this much outstanding. -/
def apBaseRelease (totalBaseMinor totalTxnMinor outstandingTxnMinor apTxnMinor : ℤ) : Result ℤ := do
  assertMinor totalBaseMinor "a purchase base total" 1
  assertMinor totalTxnMinor "a purchase txn total" 1
  assertMinor outstandingTxnMinor "an outstanding AP" 0
  assertMinor apTxnMinor "an AP release" 0
  refuseIf (outstandingTxnMinor > totalTxnMinor)
    ⟨.inventoryArithmeticInvalid, "the outstanding AP exceeds the purchase total"⟩
  refuseIf (apTxnMinor > outstandingTxnMinor)
    ⟨.inventoryArithmeticInvalid, "an AP release exceeds the outstanding AP"⟩
  let released := totalTxnMinor - outstandingTxnMinor
  let after ← roundHalfEven (totalBaseMinor * (released + apTxnMinor)) totalTxnMinor
  let before ← roundHalfEven (totalBaseMinor * released) totalTxnMinor
  pure (after - before)

def ppv (apBaseMinor creditBaseMinor inventoryValueMinor : ℤ) : Result ℤ := do
  assertMinor apBaseMinor "a base AP release" 0
  assertMinor creditBaseMinor "a credit base" 0
  assertMinor inventoryValueMinor "an inventory value" 0
  pure (apBaseMinor + creditBaseMinor - inventoryValueMinor)

/-- The conversion at the purchase's snapshot, bound by the caller; it may refuse. -/
abbrev ConvertTxnToBase := ℤ → Result ℤ

def convertPositive (convert : ConvertTxnToBase) (txnMinor : ℤ) : Result ℤ :=
  if txnMinor = 0 then .ok 0
  else do
    let base ← convert txnMinor
    refuseIf (base < 0 ∨ base > VALUE_LIMIT_MINOR)
      ⟨.inventoryArithmeticInvalid, "a conversion must yield a base amount within range"⟩
    refuseIf (base = 0) ⟨.supplierReturnAmountBelowBaseUnit,
      "a returned amount converts to less than one base minor unit"⟩
    pure base

/-- Whether a return would leave a positive remainder that converts to nothing. A return that
    releases no AP cannot create one. -/
def supplierReturnLeavesSubUnitResidue (outstandingTxnMinor apTxnMinor : ℤ)
    (convert : ConvertTxnToBase) : Result Bool := do
  refuseIf (apTxnMinor < 0 ∨ apTxnMinor > outstandingTxnMinor)
    ⟨.inventoryArithmeticInvalid, "a return releases between 0 and the outstanding AP"⟩
  if apTxnMinor = 0 then pure false
  else
    let left := outstandingTxnMinor - apTxnMinor
    if left > 0 then (fun b => decide (b = 0)) <$> convert left else pure false

/-! ## 2. The whole return -/

structure SupplierReturnLineInput where
  lineTotalTxnMinor : ℤ
  purchasedQ4 : ℤ
  returnedBeforeQ4 : ℤ
  returnQ4 : ℤ
  stock : StockState

structure SupplierReturnPlanInput where
  totalTxnMinor : ℤ
  totalBaseMinor : ℤ
  outstandingTxnMinor : ℤ
  convert : ConvertTxnToBase
  lines : List SupplierReturnLineInput

structure SupplierReturnLinePlan where
  carryingTxnMinor : ℤ
  valueOutMinor : ℤ
  unitCostSnapshotC10 : Option ℤ
  stockAfter : StockState
  deriving DecidableEq, Repr

inductive SupplierReturnAccount
  | accountsPayable
  | supplierReceivable
  | inventory
  | purchasePriceVariance
  deriving DecidableEq, Repr

inductive SupplierReturnCurrency
  | purchase
  | base
  deriving DecidableEq, Repr

inductive SupplierReturnDimension
  | purchase
  | return
  deriving DecidableEq, Repr

structure SupplierReturnEntryLine where
  systemKey : SupplierReturnAccount
  side : Side
  currency : SupplierReturnCurrency
  txnAmountMinor : ℤ
  baseAmountMinor : ℤ
  dimension : SupplierReturnDimension
  deriving DecidableEq, Repr

/-- The amounts the entry of a return is built from. -/
structure SupplierReturnEntryAmounts where
  apTxnMinor : ℤ
  apConvertedMinor : ℤ
  apDustBaseMinor : ℤ
  creditTxnMinor : ℤ
  creditBaseMinor : ℤ
  inventoryValueMinor : ℤ
  ppvMinor : ℤ
  deriving DecidableEq, Repr

structure SupplierReturnPlan extends SupplierReturnEntryAmounts where
  carryingTxnMinor : ℤ
  apBaseMinor : ℤ
  creditNote : Bool
  lines : List SupplierReturnLinePlan
  entryLines : List SupplierReturnEntryLine
  deriving DecidableEq, Repr

/-- The lines of a return entry, in order, each only when its amount is not zero. -/
def supplierReturnLines (a : SupplierReturnEntryAmounts) : List SupplierReturnEntryLine :=
  (if a.apTxnMinor ≠ 0 then
    [⟨.accountsPayable, .D, .purchase, a.apTxnMinor, a.apConvertedMinor, .purchase⟩] else []) ++
  (if a.apDustBaseMinor ≠ 0 then
    [⟨.accountsPayable, if a.apDustBaseMinor > 0 then .D else .C, .base, |a.apDustBaseMinor|,
      |a.apDustBaseMinor|, .purchase⟩] else []) ++
  (if a.creditTxnMinor ≠ 0 then
    [⟨.supplierReceivable, .D, .purchase, a.creditTxnMinor, a.creditBaseMinor, .purchase⟩]
    else []) ++
  (if a.inventoryValueMinor ≠ 0 then
    [⟨.inventory, .C, .base, a.inventoryValueMinor, a.inventoryValueMinor, .return⟩] else []) ++
  (if a.ppvMinor ≠ 0 then
    [⟨.purchasePriceVariance, if a.ppvMinor > 0 then .C else .D, .base, |a.ppvMinor|,
      |a.ppvMinor|, .return⟩] else [])

/-- The balance check over built lines, which also asks for a debit. -/
def checkReturnLines (out : List SupplierReturnEntryLine) : Result (List SupplierReturnEntryLine) := do
  let balance ← runningBalance SupplierReturnEntryLine.side SupplierReturnEntryLine.baseAmountMinor
    (fun l => l.baseAmountMinor ≤ 0)
    ⟨.inventoryArithmeticInvalid, "an entry line carries a positive base amount"⟩ 0 out
  refuseIf (balance ≠ 0 ∨ ¬ out.any (fun l => l.side = .D))
    ⟨.inventoryArithmeticInvalid, "a supplier return entry must balance with a debit"⟩
  pure out

def supplierReturnEntryLines (a : SupplierReturnEntryAmounts) :
    Result (List SupplierReturnEntryLine) :=
  checkReturnLines (supplierReturnLines a)

/-- One line leaves its own key at that key's average. -/
def supplierReturnLine (l : SupplierReturnLineInput) (carrying : ℤ) :
    Result SupplierReturnLinePlan := do
  let priced ← outboundValue l.stock (-l.returnQ4)
  let stockAfter ← applyMovement l.stock (-l.returnQ4) priced.value
  pure ⟨carrying, -priced.value, priced.unitCostSnapshot, stockAfter⟩

/-- Everything `planSupplierReturn` does before it checks the entry. -/
def supplierReturnDraft (input : SupplierReturnPlanInput) : Result SupplierReturnPlan := do
  refuseIf (input.lines.length = 0)
    ⟨.inventoryLinesRequired, "a return needs at least one line"⟩
  refuseIf (input.lines.length > MAX_DOCUMENT_LINES)
    ⟨.inventoryPayloadInvalid, "a return has at most 200 lines"⟩
  let carrying ← input.lines.mapM fun l =>
    carryingTxn l.lineTotalTxnMinor l.purchasedQ4 l.returnedBeforeQ4 l.returnQ4
  let carryingTxnMinor := carrying.sum
  assertMinor carryingTxnMinor "a return carrying value" 0
  let split ← apSplit carryingTxnMinor input.outstandingTxnMinor
  let apBaseMinor ← apBaseRelease input.totalBaseMinor input.totalTxnMinor
    input.outstandingTxnMinor split.apTxnMinor
  let apConvertedMinor ← convertPositive input.convert split.apTxnMinor
  let creditBaseMinor ← convertPositive input.convert split.creditTxnMinor
  let apDustBaseMinor := apBaseMinor - apConvertedMinor
  let lines ← (input.lines.zip carrying).mapM fun lc => supplierReturnLine lc.1 lc.2
  let inventoryValueMinor := (lines.map SupplierReturnLinePlan.valueOutMinor).sum
  assertMinor inventoryValueMinor "a return inventory value" 0
  refuseIf (carryingTxnMinor = 0 ∧ inventoryValueMinor = 0)
    ⟨.supplierReturnValueZero,
      "a return with no carrying value and no inventory value posts nothing"⟩
  let ppvMinor ← ppv apBaseMinor creditBaseMinor inventoryValueMinor
  let amounts : SupplierReturnEntryAmounts :=
    { apTxnMinor := split.apTxnMinor, apConvertedMinor, apDustBaseMinor
      creditTxnMinor := split.creditTxnMinor, creditBaseMinor, inventoryValueMinor, ppvMinor }
  pure
    { toSupplierReturnEntryAmounts := amounts, carryingTxnMinor, apBaseMinor
      creditNote := decide (split.creditTxnMinor > 0), lines
      entryLines := supplierReturnLines amounts }

def planSupplierReturn (input : SupplierReturnPlanInput) : Result SupplierReturnPlan := do
  let plan ← supplierReturnDraft input
  let entryLines ← supplierReturnEntryLines plan.toSupplierReturnEntryAmounts
  pure { plan with entryLines }

/-! ## 3. What the return computes -/

theorem apSplit_eq_ok {c o : ℤ} {s : ApSplit} :
    apSplit c o = .ok s ↔ IsMinor 0 c ∧ IsMinor 0 o ∧ ⟨min c o, c - min c o⟩ = s := by
  have hmin : (if c < o then c else o) = min c o := by
    rw [min_def]
    split <;> split <;> omega
  simp only [apSplit, bind_eq_ok, assertMinor_eq_ok, exists_const, pure_eq_ok, hmin]

theorem apBaseRelease_eq_ok {b t o a r : ℤ} :
    apBaseRelease b t o a = .ok r ↔ IsMinor 1 b ∧ IsMinor 1 t ∧ IsMinor 0 o ∧ IsMinor 0 a ∧ o ≤ t ∧
      a ≤ o ∧ apShare b t (t - o + a) - apShare b t (t - o) = r := by
  simp only [apBaseRelease, bind_eq_ok, assertMinor_eq_ok, refuseIf_eq_ok, exists_const, not_lt,
    gt_iff_lt]
  refine and_congr_right fun _ => and_congr_right fun ht => ?_
  have ht' : 0 < t := ht.1
  simp only [roundHalfEven_pos ht', Except.ok.injEq, exists_eq_left', pure_eq_ok, apShare]

theorem ppv_eq_ok {a c i r : ℤ} :
    ppv a c i = .ok r ↔ IsMinor 0 a ∧ IsMinor 0 c ∧ IsMinor 0 i ∧ a + c - i = r := by
  simp only [ppv, bind_eq_ok, assertMinor_eq_ok, exists_const, pure_eq_ok]

/-- Nothing converts to nothing, anything else to a positive base amount. -/
theorem convertPositive_eq_ok {convert : ConvertTxnToBase} {x b : ℤ} :
    convertPositive convert x = .ok b ↔
      (x = 0 ∧ b = 0) ∨ (x ≠ 0 ∧ convert x = .ok b ∧ 0 < b ∧ b ≤ VALUE_LIMIT_MINOR) := by
  unfold convertPositive
  by_cases hx : x = 0
  · simp [hx, eq_comm]
  · simp only [hx, if_false, bind_eq_ok, refuseIf_eq_ok, exists_const, pure_eq_ok, not_or, not_lt,
      gt_iff_lt, false_and, false_or, ne_eq, not_false_eq_true, true_and]
    constructor
    · rintro ⟨c, hc, ⟨h0, h1⟩, hne, rfl⟩
      exact ⟨hc, by omega, h1⟩
    · rintro ⟨hc, h0, h1⟩
      exact ⟨b, hc, ⟨h0.le, h1⟩, h0.ne', rfl⟩

/-- What a drafted return is made of, its lines aside. -/
structure SupplierReturnPlan.Drafted (i : SupplierReturnPlanInput) (p : SupplierReturnPlan) : Prop where
  base : IsMinor 1 i.totalBaseMinor
  total : IsMinor 1 i.totalTxnMinor
  outstanding : IsMinor 0 i.outstandingTxnMinor
  outstanding_le : i.outstandingTxnMinor ≤ i.totalTxnMinor
  carrying : IsMinor 0 p.carryingTxnMinor
  ap_eq : p.apTxnMinor = min p.carryingTxnMinor i.outstandingTxnMinor
  credit_eq : p.creditTxnMinor = p.carryingTxnMinor - p.apTxnMinor
  apBase_eq : p.apBaseMinor =
    apShare i.totalBaseMinor i.totalTxnMinor
        (i.totalTxnMinor - i.outstandingTxnMinor + p.apTxnMinor) -
      apShare i.totalBaseMinor i.totalTxnMinor (i.totalTxnMinor - i.outstandingTxnMinor)
  apConverted : convertPositive i.convert p.apTxnMinor = .ok p.apConvertedMinor
  creditBase : convertPositive i.convert p.creditTxnMinor = .ok p.creditBaseMinor
  dust_eq : p.apDustBaseMinor = p.apBaseMinor - p.apConvertedMinor
  inventory : IsMinor 0 p.inventoryValueMinor
  worth : p.carryingTxnMinor ≠ 0 ∨ p.inventoryValueMinor ≠ 0
  ppv_eq : p.ppvMinor = p.apBaseMinor + p.creditBaseMinor - p.inventoryValueMinor
  entry_eq : p.entryLines = supplierReturnLines p.toSupplierReturnEntryAmounts

theorem supplierReturnDraft_drafted {i : SupplierReturnPlanInput} {p : SupplierReturnPlan}
    (h : supplierReturnDraft i = .ok p) : p.Drafted i := by
  simp only [supplierReturnDraft, bind_eq_ok, refuseIf_eq_ok, exists_const, assertMinor_eq_ok,
    apSplit_eq_ok, apBaseRelease_eq_ok, ppv_eq_ok, pure_eq_ok, not_and_or] at h
  obtain ⟨_, _, cs, _, hc, _, ⟨_, _, rfl⟩, _, ⟨hb, ht, ho, _, hle, _, rfl⟩, ac, hac, cb, hcb, ls, _,
    hi, hw, _, ⟨_, _, _, rfl⟩, rfl⟩ := h
  exact
    { base := hb, total := ht, outstanding := ho, outstanding_le := hle, carrying := hc
      ap_eq := rfl, credit_eq := rfl, apBase_eq := rfl, apConverted := hac, creditBase := hcb
      dust_eq := rfl, inventory := hi, worth := hw, ppv_eq := rfl, entry_eq := rfl }

namespace SupplierReturnPlan.Drafted

variable {i : SupplierReturnPlanInput} {p : SupplierReturnPlan} (h : p.Drafted i)
include h

theorem ap_nonneg : 0 ≤ p.apTxnMinor := by
  rw [h.ap_eq]
  exact le_min h.carrying.1 h.outstanding.1

theorem ap_le : p.apTxnMinor ≤ i.outstandingTxnMinor := by
  rw [h.ap_eq]
  exact min_le_right _ _

theorem credit_nonneg : 0 ≤ p.creditTxnMinor := by
  have := h.ap_eq ▸ min_le_left p.carryingTxnMinor i.outstandingTxnMinor
  rw [h.credit_eq]
  omega

/-- A return that releases no AP has no AP base and no dust. -/
theorem ap_zero (hz : p.apTxnMinor = 0) :
    p.apBaseMinor = 0 ∧ p.apConvertedMinor = 0 ∧ p.apDustBaseMinor = 0 := by
  have hb : p.apBaseMinor = 0 := by rw [h.apBase_eq, hz, add_zero, sub_self]
  have hc : p.apConvertedMinor = 0 := by
    rcases convertPositive_eq_ok.mp h.apConverted with ⟨_, hc⟩ | ⟨hne, _⟩
    · exact hc
    · exact absurd hz hne
  exact ⟨hb, hc, by rw [h.dust_eq, hb, hc, sub_zero]⟩

end SupplierReturnPlan.Drafted

end Daftar.Inventory
