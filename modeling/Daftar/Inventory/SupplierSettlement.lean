/-
  File: Daftar/Inventory/SupplierSettlement.lean
  Subject: The supplier-settlement arithmetic: conversions, releases and the three settlement plans.

  * Primitives: `convertToBase`, `apRelease`, `creditRemainingCarrying`, `creditRelease`, each with
    the plain function it computes (`SettlementConversion.base`, `apShare`, `creditKept`).
  * Sides: `apSide` is the AP release of one reducer, `creditSide` the release of one consumer of a
    credit note; `apSide_eq_ok` and `creditSide_eq_ok` say all an acceptance means.
  * Plans: `planPaymentAllocation`, `planCreditAllocation`, `planRefund`. Each is a draft, which is
    everything before the balance check, followed by `balanced`.
-/

import Daftar.Inventory.Rounding
import Daftar.Library.DoubleEntry

namespace Daftar.Inventory

open Fallible
open Rounding
open DoubleEntry

/-! ## 1. Primitives -/

def assertMinor (v : ℤ) (what : String) (min : ℤ) : Result Unit :=
  refuseIf (v < min ∨ v > VALUE_LIMIT_MINOR)
    ⟨.inventoryArithmeticInvalid, what ++ " must be an integer amount within range"⟩

def assertExponent (v : ℤ) (what : String) : Result Unit :=
  refuseIf (v < 0 ∨ v > 4)
    ⟨.inventoryArithmeticInvalid, what ++ " must be a currency minor-unit exponent"⟩

def R10 : ℤ := 10 ^ 10

/-- A non-negative amount converted at a rate between currencies of the two exponents. -/
def convertToBase (txnMinor rateR10 txnExponent baseExponent : ℤ) : Result ℤ := do
  assertMinor txnMinor "a txn amount" 0
  refuseIf (rateR10 ≤ 0) ⟨.inventoryArithmeticInvalid, "a rate must be positive"⟩
  assertExponent txnExponent "a txn exponent"
  assertExponent baseExponent "a base exponent"
  let up : ℤ := 10 ^ (max 0 (baseExponent - txnExponent)).toNat
  let down : ℤ := 10 ^ (max 0 (txnExponent - baseExponent)).toNat
  roundHalfEven (txnMinor * rateR10 * up) (R10 * down)

/-- The base AP released by applying an amount after what was released before. -/
def apRelease (totalBaseMinor totalTxnMinor releasedBeforeMinor appliedMinor : ℤ) : Result ℤ := do
  assertMinor totalBaseMinor "a purchase base total" 0
  assertMinor totalTxnMinor "a purchase txn total" 1
  assertMinor releasedBeforeMinor "an AP released before" 0
  assertMinor appliedMinor "an applied amount" 0
  refuseIf (releasedBeforeMinor + appliedMinor > totalTxnMinor)
    ⟨.inventoryArithmeticInvalid, "an AP release exceeds the purchase total"⟩
  let after ← roundHalfEven (totalBaseMinor * (releasedBeforeMinor + appliedMinor)) totalTxnMinor
  let before ← roundHalfEven (totalBaseMinor * releasedBeforeMinor) totalTxnMinor
  pure (after - before)

/-- The carrying base a credit note keeps at a remaining amount; at least 1 until it is empty. -/
def creditRemainingCarrying (originalMinor originalCarryingMinor remainingMinor : ℤ) :
    Result ℤ := do
  assertMinor originalMinor "a credit original amount" 1
  assertMinor originalCarryingMinor "a credit original carrying" 1
  assertMinor remainingMinor "a credit remaining amount" 0
  refuseIf (remainingMinor > originalMinor)
    ⟨.inventoryArithmeticInvalid, "a remaining credit exceeds the original credit"⟩
  if remainingMinor = 0 then pure 0
  else
    let consumed ← roundHalfEven (originalCarryingMinor * (originalMinor - remainingMinor))
      originalMinor
    let kept := originalCarryingMinor - consumed
    pure (if kept < 1 then 1 else kept)

/-- The carrying base that consuming an amount releases from a note. -/
def creditRelease (originalMinor originalCarryingMinor remainingBeforeMinor consumedMinor : ℤ) :
    Result ℤ := do
  assertMinor consumedMinor "a consumed amount" 1
  assertMinor remainingBeforeMinor "a remaining amount" 0
  refuseIf (consumedMinor > remainingBeforeMinor)
    ⟨.inventoryArithmeticInvalid, "a consumption exceeds the remaining credit"⟩
  let before ← creditRemainingCarrying originalMinor originalCarryingMinor remainingBeforeMinor
  let after ← creditRemainingCarrying originalMinor originalCarryingMinor
    (remainingBeforeMinor - consumedMinor)
  pure (before - after)

/-! ## 2. What the primitives compute -/

/-- An amount within the bounds of a stored minor-unit column. -/
def IsMinor (min v : ℤ) : Prop := min ≤ v ∧ v ≤ VALUE_LIMIT_MINOR

instance (min v : ℤ) : Decidable (IsMinor min v) := inferInstanceAs (Decidable (_ ∧ _))

@[simp] theorem assertMinor_eq_ok {v min : ℤ} {what : String} {u : Unit} :
    assertMinor v what min = .ok u ↔ IsMinor min v := by
  simp [assertMinor, IsMinor]

@[simp] theorem assertExponent_eq_ok {v : ℤ} {what : String} {u : Unit} :
    assertExponent v what = .ok u ↔ 0 ≤ v ∧ v ≤ 4 := by
  simp [assertExponent]

/-- A stored or bound FX snapshot: its rate (times 10^10) and the two exponents. -/
structure SettlementConversion where
  rateR10 : ℤ
  txnExponent : ℤ
  baseExponent : ℤ
  deriving DecidableEq, Repr

def convert (x : ℤ) (c : SettlementConversion) : Result ℤ :=
  convertToBase x c.rateR10 c.txnExponent c.baseExponent

namespace SettlementConversion

/-- A snapshot the conversion accepts. -/
def Valid (c : SettlementConversion) : Prop :=
  0 < c.rateR10 ∧ (0 ≤ c.txnExponent ∧ c.txnExponent ≤ 4) ∧
    (0 ≤ c.baseExponent ∧ c.baseExponent ≤ 4)

/-- Numerator and denominator of the snapshot's factor. -/
def num (c : SettlementConversion) : ℤ :=
  c.rateR10 * 10 ^ (max 0 (c.baseExponent - c.txnExponent)).toNat

def den (c : SettlementConversion) : ℤ :=
  R10 * 10 ^ (max 0 (c.txnExponent - c.baseExponent)).toNat

/-- The conversion as a plain function of the amount. -/
def base (c : SettlementConversion) (x : ℤ) : ℤ := nearestEven (x * c.num) c.den

theorem den_pos (c : SettlementConversion) : 0 < c.den :=
  mul_pos (by decide) (by positivity)

theorem Valid.num_pos {c : SettlementConversion} (h : c.Valid) : 0 < c.num :=
  mul_pos h.1 (by positivity)

@[simp] theorem base_zero (c : SettlementConversion) : c.base 0 = 0 := by simp [base]

theorem Valid.base_mono {c : SettlementConversion} (h : c.Valid) {x y : ℤ} (hxy : x ≤ y) :
    c.base x ≤ c.base y :=
  nearestEven_mono c.den_pos (mul_le_mul_of_nonneg_right hxy h.num_pos.le)

theorem Valid.base_nonneg {c : SettlementConversion} (h : c.Valid) {x : ℤ} (hx : 0 ≤ x) :
    0 ≤ c.base x := by
  simpa using h.base_mono hx

end SettlementConversion

theorem convert_eq_ok {x b : ℤ} {c : SettlementConversion} :
    convert x c = .ok b ↔ IsMinor 0 x ∧ c.Valid ∧ c.base x = b := by
  have hden := c.den_pos
  unfold SettlementConversion.den at hden
  simp only [convert, convertToBase, bind_eq_ok, assertMinor_eq_ok, refuseIf_eq_ok,
    assertExponent_eq_ok, exists_const, roundHalfEven_pos hden, Except.ok.injEq, not_le,
    SettlementConversion.Valid, SettlementConversion.base, SettlementConversion.num,
    SettlementConversion.den, and_assoc, mul_assoc]

/-- The base AP released once `x` of a purchase of totals `t` and `b` is released. -/
def apShare (b t x : ℤ) : ℤ := nearestEven (b * x) t

@[simp] theorem apShare_zero (b t : ℤ) : apShare b t 0 = 0 := by simp [apShare]

@[simp] theorem apShare_total (b : ℤ) {t : ℤ} (ht : 0 < t) : apShare b t t = b :=
  nearestEven_mul_self b ht

theorem apShare_mono {b t x y : ℤ} (hb : 0 ≤ b) (ht : 0 < t) (h : x ≤ y) :
    apShare b t x ≤ apShare b t y :=
  nearestEven_mono ht (mul_le_mul_of_nonneg_left h hb)

theorem apRelease_eq_ok {b t x a r : ℤ} :
    apRelease b t x a = .ok r ↔ IsMinor 0 b ∧ IsMinor 1 t ∧ IsMinor 0 x ∧ IsMinor 0 a ∧ x + a ≤ t ∧
      apShare b t (x + a) - apShare b t x = r := by
  simp only [apRelease, bind_eq_ok, assertMinor_eq_ok, refuseIf_eq_ok, exists_const, not_lt, gt_iff_lt]
  refine and_congr_right fun _ => and_congr_right fun ht => ?_
  have ht' : 0 < t := ht.1
  simp only [roundHalfEven_pos ht', Except.ok.injEq, exists_eq_left', pure_eq_ok, apShare]

/-- The carrying base a note of `oa` and `ob` keeps at the remaining amount `r`. -/
def creditKept (oa ob r : ℤ) : ℤ :=
  if r = 0 then 0 else max 1 (ob - apShare ob oa (oa - r))

@[simp] theorem creditKept_zero (oa ob : ℤ) : creditKept oa ob 0 = 0 := rfl

theorem creditKept_of_ne {oa ob r : ℤ} (hr : r ≠ 0) :
    creditKept oa ob r = max 1 (ob - apShare ob oa (oa - r)) := if_neg hr

theorem creditRemainingCarrying_eq_ok {oa ob r k : ℤ} :
    creditRemainingCarrying oa ob r = .ok k ↔ IsMinor 1 oa ∧ IsMinor 1 ob ∧ IsMinor 0 r ∧ r ≤ oa ∧
      creditKept oa ob r = k := by
  simp only [creditRemainingCarrying, bind_eq_ok, assertMinor_eq_ok, refuseIf_eq_ok, exists_const,
    not_lt, gt_iff_lt]
  refine and_congr_right fun hoa => and_congr_right fun _ => and_congr_right fun _ =>
    and_congr_right fun _ => ?_
  have hoa' : 0 < oa := hoa.1
  by_cases hr : r = 0
  · simp [hr]
  · simp only [hr, if_false, roundHalfEven_pos hoa', ok_bind, pure_eq_ok, creditKept, apShare, max_def]
    split <;> split <;> omega

/-- The carrying never grows as a note is consumed. -/
theorem creditKept_mono {oa ob r s : ℤ} (hoa : 0 < oa) (hob : 0 ≤ ob) (hr : 0 ≤ r) (h : r ≤ s) :
    creditKept oa ob r ≤ creditKept oa ob s := by
  rcases hr.eq_or_lt with rfl | hr
  · rw [creditKept_zero]
    by_cases hs : s = 0
    · simp [hs]
    · rw [creditKept_of_ne hs]
      omega
  · rw [creditKept_of_ne (by omega), creditKept_of_ne (by omega)]
    have := apShare_mono hob hoa (show oa - s ≤ oa - r by omega)
    omega

theorem creditKept_pos {oa ob r : ℤ} (hr : 0 < r) : 1 ≤ creditKept oa ob r := by
  rw [creditKept_of_ne hr.ne']
  exact le_max_left _ _

@[simp] theorem creditKept_original {oa ob : ℤ} (hoa : 0 < oa) (hob : 1 ≤ ob) :
    creditKept oa ob oa = ob := by
  rw [creditKept_of_ne hoa.ne', sub_self, apShare_zero, sub_zero]
  exact max_eq_right hob

theorem creditRelease_eq_ok {oa ob rb c r : ℤ} :
    creditRelease oa ob rb c = .ok r ↔ IsMinor 1 c ∧ c ≤ rb ∧ IsMinor 1 oa ∧ IsMinor 1 ob ∧
      IsMinor 0 rb ∧ rb ≤ oa ∧ creditKept oa ob rb - creditKept oa ob (rb - c) = r := by
  simp only [creditRelease, bind_eq_ok, assertMinor_eq_ok, refuseIf_eq_ok, exists_const, not_lt,
    gt_iff_lt, creditRemainingCarrying_eq_ok, pure_eq_ok, IsMinor]
  constructor
  · rintro ⟨hc, hrb, hle, _, ⟨hoa, hob, _, hro, rfl⟩, _, ⟨_, _, _, _, rfl⟩, rfl⟩
    exact ⟨hc, hle, hoa, hob, hrb, hro, rfl⟩
  · rintro ⟨hc, hle, hoa, hob, hrb, hro, rfl⟩
    exact ⟨hc, hrb, hle, _, ⟨hoa, hob, hrb, hro, rfl⟩, _, ⟨hoa, hob, by omega, by omega, rfl⟩, rfl⟩

/-! ## 3. Sides -/

/-- Whether a remaining amount is a sub-unit residue. -/
def strands (remainingMinor : ℤ) (c : SettlementConversion) : Result Bool :=
  if remainingMinor > 0 then (fun b => decide (b = 0)) <$> convert remainingMinor c
  else .ok false

/-- `strands … || strands …`: the second amount is looked at only when the first does not strand. -/
def strandsEither (x : ℤ) (cx : SettlementConversion) (y : ℤ) (cy : SettlementConversion) :
    Result Bool := do
  let first ← strands x cx
  if first then pure true else strands y cy

/-- The AP side of a purchase at the moment a reducer computes from it. -/
structure PurchaseApState where
  totalTxnMinor : ℤ
  totalBaseMinor : ℤ
  outstandingTxnMinor : ℤ
  conversion : SettlementConversion
  deriving DecidableEq, Repr

/-- The credit side of a supplier credit note at the moment a consumer computes from it. -/
structure CreditNoteState where
  originalMinor : ℤ
  originalCarryingMinor : ℤ
  remainingMinor : ℤ
  conversion : SettlementConversion
  deriving DecidableEq, Repr

/-- The AP release of one reducer: the level it starts at, the base released, the converted amount
    and the dust between the two. -/
structure ApSide where
  appliedMinor : ℤ
  releasedBeforeMinor : ℤ
  carryingReleasedMinor : ℤ
  apConvertedMinor : ℤ
  apDustBaseMinor : ℤ
  deriving DecidableEq, Repr

/-- The credit release of one consumer, and the note's pair after it. -/
structure CreditSide where
  consumedMinor : ℤ
  remainingBeforeMinor : ℤ
  creditReleasedMinor : ℤ
  creditConvertedMinor : ℤ
  creditDustBaseMinor : ℤ
  remainingAfterMinor : ℤ
  remainingCarryingAfterMinor : ℤ
  deriving DecidableEq, Repr

/-- The commands that reduce AP. -/
inductive ApDomain
  | supplierPayment
  | supplierCreditAllocation
  deriving DecidableEq, Repr

namespace ApDomain

def amountInvalid : ApDomain → InventoryErrorCode
  | .supplierPayment => .supplierPaymentAllocationsInvalid
  | .supplierCreditAllocation => .inventoryPayloadInvalid

def amountExceedsOutstanding : ApDomain → InventoryErrorCode
  | .supplierPayment => .supplierPaymentAmountExceedsOutstanding
  | .supplierCreditAllocation => .supplierCreditAllocationAmountExceedsOutstanding

def amountBelowBaseUnit : ApDomain → InventoryErrorCode
  | .supplierPayment => .supplierPaymentAmountBelowBaseUnit
  | .supplierCreditAllocation => .supplierCreditAllocationAmountBelowBaseUnit

end ApDomain

/-- The commands that consume a credit note. -/
inductive CreditDomain
  | supplierCreditAllocation
  | supplierRefund
  deriving DecidableEq, Repr

namespace CreditDomain

def creditExhausted : CreditDomain → InventoryErrorCode
  | .supplierCreditAllocation => .supplierCreditAllocationCreditExhausted
  | .supplierRefund => .supplierRefundCreditExhausted

def amountExceedsCredit : CreditDomain → InventoryErrorCode
  | .supplierCreditAllocation => .supplierCreditAllocationAmountExceedsCredit
  | .supplierRefund => .supplierRefundAmountExceedsCredit

def amountBelowBaseUnit : CreditDomain → InventoryErrorCode
  | .supplierCreditAllocation => .supplierCreditAllocationAmountBelowBaseUnit
  | .supplierRefund => .supplierRefundAmountBelowBaseUnit

end CreditDomain

def apSide (domain : ApDomain) (purchase : PurchaseApState) (appliedMinor : ℤ) : Result ApSide := do
  assertMinor purchase.totalTxnMinor "a purchase txn total" 1
  assertMinor purchase.totalBaseMinor "a purchase base total" 0
  assertMinor purchase.outstandingTxnMinor "an outstanding AP" 0
  refuseIf (purchase.outstandingTxnMinor > purchase.totalTxnMinor)
    ⟨.inventoryArithmeticInvalid, "the outstanding AP exceeds the purchase total"⟩
  refuseIf (appliedMinor ≤ 0) ⟨domain.amountInvalid, "an applied amount must be positive"⟩
  refuseIf (appliedMinor > purchase.outstandingTxnMinor)
    ⟨domain.amountExceedsOutstanding,
      "the applied amount exceeds the outstanding AP of the purchase"⟩
  let releasedBeforeMinor := purchase.totalTxnMinor - purchase.outstandingTxnMinor
  let carryingReleasedMinor ←
    apRelease purchase.totalBaseMinor purchase.totalTxnMinor releasedBeforeMinor appliedMinor
  let apConvertedMinor ← convert appliedMinor purchase.conversion
  refuseIf (apConvertedMinor = 0)
    ⟨domain.amountBelowBaseUnit,
      "the applied amount converts to less than one base minor unit"⟩
  pure
    { appliedMinor, releasedBeforeMinor, carryingReleasedMinor, apConvertedMinor
      apDustBaseMinor := carryingReleasedMinor - apConvertedMinor }

def creditSide (domain : CreditDomain) (note : CreditNoteState) (consumedMinor : ℤ) :
    Result CreditSide := do
  assertMinor note.originalMinor "a credit original amount" 1
  assertMinor note.originalCarryingMinor "a credit original carrying" 1
  assertMinor note.remainingMinor "a credit remaining amount" 0
  refuseIf (note.remainingMinor > note.originalMinor)
    ⟨.inventoryArithmeticInvalid, "a remaining credit exceeds the original credit"⟩
  refuseIf (note.remainingMinor = 0)
    ⟨domain.creditExhausted, "the credit note has nothing remaining"⟩
  refuseIf (consumedMinor ≤ 0) ⟨.inventoryPayloadInvalid, "a consumed amount must be positive"⟩
  refuseIf (consumedMinor > note.remainingMinor)
    ⟨domain.amountExceedsCredit, "the consumed amount exceeds the remaining credit"⟩
  let creditReleasedMinor ←
    creditRelease note.originalMinor note.originalCarryingMinor note.remainingMinor consumedMinor
  let creditConvertedMinor ← convert consumedMinor note.conversion
  refuseIf (creditConvertedMinor = 0)
    ⟨domain.amountBelowBaseUnit,
      "the consumed amount converts to less than one base minor unit"⟩
  let remainingAfterMinor := note.remainingMinor - consumedMinor
  let remainingCarryingAfterMinor ←
    creditRemainingCarrying note.originalMinor note.originalCarryingMinor remainingAfterMinor
  pure
    { consumedMinor, remainingBeforeMinor := note.remainingMinor, creditReleasedMinor
      creditConvertedMinor, creditDustBaseMinor := creditReleasedMinor - creditConvertedMinor
      remainingAfterMinor, remainingCarryingAfterMinor }

/-! ## 4. What the sides compute -/

theorem strands_eq_ok {r : ℤ} {c : SettlementConversion} {s : Bool} :
    strands r c = .ok s ↔
      (r ≤ 0 ∧ s = false) ∨ (0 < r ∧ r ≤ VALUE_LIMIT_MINOR ∧ c.Valid ∧ s = decide (c.base r = 0)) := by
  unfold strands
  by_cases hr : 0 < r
  · simp only [gt_iff_lt, hr, if_true, map_eq_ok, convert_eq_ok, IsMinor, hr.le, true_and,
      not_le.mpr hr, false_and, false_or]
    constructor
    · rintro ⟨b, ⟨hv, hc, rfl⟩, rfl⟩
      exact ⟨hv, hc, rfl⟩
    · rintro ⟨hv, hc, rfl⟩
      exact ⟨_, ⟨hv, hc, rfl⟩, rfl⟩
  · simp [hr, not_lt.mp hr, eq_comm]

theorem strandsEither_eq_false {x y : ℤ} {cx cy : SettlementConversion} :
    strandsEither x cx y cy = .ok false ↔ strands x cx = .ok false ∧ strands y cy = .ok false := by
  unfold strandsEither
  rcases strands x cx with e | _ | _
  · simp
  · simp
  · simp [pure, Except.pure]

/-- A passed residue check leaves nothing, or an amount worth at least one base unit. -/
theorem strands_eq_false {r : ℤ} {c : SettlementConversion} (h : strands r c = .ok false) :
    r ≤ 0 ∨ (c.Valid ∧ 1 ≤ c.base r) := by
  rcases strands_eq_ok.mp h with ⟨hr, _⟩ | ⟨hr, _, hc, hb⟩
  · exact .inl hr
  · have hne : c.base r ≠ 0 := by simpa using hb
    have := hc.base_nonneg hr.le
    exact .inr ⟨hc, by omega⟩

/-- The totals and the outstanding amount a reducer may compute from. -/
structure PurchaseApState.InRange (p : PurchaseApState) : Prop where
  total : IsMinor 1 p.totalTxnMinor
  base : IsMinor 0 p.totalBaseMinor
  outstanding : IsMinor 0 p.outstandingTxnMinor
  outstanding_le : p.outstandingTxnMinor ≤ p.totalTxnMinor

/-- The AP already released. -/
def PurchaseApState.released (p : PurchaseApState) : ℤ := p.totalTxnMinor - p.outstandingTxnMinor

/-- The AP release as a plain function. -/
def PurchaseApState.side (p : PurchaseApState) (a : ℤ) : ApSide :=
  let rel := apShare p.totalBaseMinor p.totalTxnMinor (p.released + a) -
    apShare p.totalBaseMinor p.totalTxnMinor p.released
  ⟨a, p.released, rel, p.conversion.base a, rel - p.conversion.base a⟩

theorem apSide_eq_ok {d : ApDomain} {p : PurchaseApState} {a : ℤ} {s : ApSide} :
    apSide d p a = .ok s ↔ p.InRange ∧ (0 < a ∧ a ≤ p.outstandingTxnMinor) ∧
      p.conversion.Valid ∧ p.conversion.base a ≠ 0 ∧ p.side a = s := by
  simp only [apSide, bind_eq_ok, assertMinor_eq_ok, refuseIf_eq_ok, exists_const, apRelease_eq_ok,
    convert_eq_ok, pure_eq_ok, not_lt, not_le, gt_iff_lt]
  constructor
  · rintro ⟨ht, hb, ho, hle, ha, hao, rel, ⟨_, _, _, _, _, rfl⟩, b, ⟨_, hc, rfl⟩, hne, rfl⟩
    exact ⟨⟨ht, hb, ho, hle⟩, ⟨ha, hao⟩, hc, hne, rfl⟩
  · rintro ⟨⟨ht, hb, ho, hle⟩, ⟨ha, hao⟩, hc, hne, rfl⟩
    have ht1 := ht.2
    have ho1 := ho.1
    have ho2 := ho.2
    refine ⟨ht, hb, ho, hle, ha, hao, _, ⟨hb, ht, ⟨?_, ?_⟩, ⟨?_, ?_⟩, ?_, rfl⟩, _,
      ⟨⟨?_, ?_⟩, hc, rfl⟩, hne, rfl⟩ <;> omega

theorem PurchaseApState.InRange.total_pos {p : PurchaseApState} (h : p.InRange) :
    0 < p.totalTxnMinor := h.total.1

/-- A release is never negative. -/
theorem PurchaseApState.InRange.released_nonneg {p : PurchaseApState} (h : p.InRange) {a : ℤ}
    (ha : 0 ≤ a) : 0 ≤ (p.side a).carryingReleasedMinor := by
  have := apShare_mono h.base.1 h.total_pos (show p.released ≤ p.released + a by omega)
  show 0 ≤ apShare _ _ _ - apShare _ _ _
  omega

/-- A release lies between zero and the base of its document. -/
theorem PurchaseApState.InRange.release_bounds {p : PurchaseApState} (h : p.InRange) {a : ℤ}
    (ha : 0 < a) (hle : a ≤ p.outstandingTxnMinor) :
    0 ≤ (p.side a).carryingReleasedMinor ∧ (p.side a).carryingReleasedMinor ≤ p.totalBaseMinor := by
  have htotal := apShare_total p.totalBaseMinor h.total_pos
  have hrel : p.released = p.totalTxnMinor - p.outstandingTxnMinor := rfl
  have hout := h.outstanding_le
  have hto := apShare_mono h.base.1 h.total_pos (show p.released + a ≤ p.totalTxnMinor by omega)
  have hfrom := apShare_mono h.base.1 h.total_pos (show 0 ≤ p.released by omega)
  rw [apShare_zero] at hfrom
  rw [htotal] at hto
  refine ⟨h.released_nonneg ha.le, ?_⟩
  show apShare _ _ _ - apShare _ _ _ ≤ _
  omega

/-- The amounts a consumer may compute from. -/
structure CreditNoteState.InRange (n : CreditNoteState) : Prop where
  original : IsMinor 1 n.originalMinor
  carrying : IsMinor 1 n.originalCarryingMinor
  remaining : IsMinor 0 n.remainingMinor
  remaining_le : n.remainingMinor ≤ n.originalMinor

/-- The carrying kept at a remaining amount of this note. -/
def CreditNoteState.kept (n : CreditNoteState) (r : ℤ) : ℤ :=
  creditKept n.originalMinor n.originalCarryingMinor r

/-- The credit release as a plain function. -/
def CreditNoteState.side (n : CreditNoteState) (c : ℤ) : CreditSide :=
  let rel := n.kept n.remainingMinor - n.kept (n.remainingMinor - c)
  ⟨c, n.remainingMinor, rel, n.conversion.base c, rel - n.conversion.base c,
    n.remainingMinor - c, n.kept (n.remainingMinor - c)⟩

theorem creditSide_eq_ok {d : CreditDomain} {n : CreditNoteState} {c : ℤ} {s : CreditSide} :
    creditSide d n c = .ok s ↔ n.InRange ∧ (0 < c ∧ c ≤ n.remainingMinor) ∧
      n.conversion.Valid ∧ n.conversion.base c ≠ 0 ∧ n.side c = s := by
  simp only [creditSide, bind_eq_ok, assertMinor_eq_ok, refuseIf_eq_ok, exists_const,
    creditRelease_eq_ok, creditRemainingCarrying_eq_ok, convert_eq_ok, pure_eq_ok, not_lt, not_le,
    gt_iff_lt]
  constructor
  · rintro ⟨ho, hc, hr, hle, _, hpos, hcr, rel, ⟨_, _, _, _, _, _, rfl⟩, b, ⟨_, hv, rfl⟩, hne, k,
      ⟨_, _, _, _, rfl⟩, rfl⟩
    exact ⟨⟨ho, hc, hr, hle⟩, ⟨hpos, hcr⟩, hv, hne, rfl⟩
  · rintro ⟨⟨ho, hc, hr, hle⟩, ⟨hpos, hcr⟩, hv, hne, rfl⟩
    have hr2 := hr.2
    refine ⟨ho, hc, hr, hle, by omega, hpos, hcr, _, ⟨⟨by omega, by omega⟩, hcr, ho, hc, hr, hle,
      rfl⟩, _, ⟨⟨by omega, by omega⟩, hv, rfl⟩, hne, _, ⟨ho, hc, ⟨by omega, by omega⟩, by omega,
      rfl⟩, rfl⟩

/-! ## 5. Entry lines -/

inductive SettlementAccount
  | accountsPayable
  | supplierReceivable
  | fxGain
  | fxLoss
  | postingAccount
  deriving DecidableEq, Repr

/-- Whose snapshot a line carries. -/
inductive SettlementCurrency
  | purchase
  | note
  | payment
  | receipt
  | base
  deriving DecidableEq, Repr

/-- Whose branch a line carries. -/
inductive SettlementDimension
  | purchase
  | origin
  deriving DecidableEq, Repr

structure SettlementEntryLine where
  account : SettlementAccount
  side : Side
  currency : SettlementCurrency
  txnAmountMinor : ℤ
  baseAmountMinor : ℤ
  dimension : SettlementDimension
  deriving DecidableEq, Repr

def baseLine (account : SettlementAccount) (side : Side) (amount : ℤ)
    (dimension : SettlementDimension) : SettlementEntryLine :=
  ⟨account, side, .base, amount, amount, dimension⟩

def balanced (lines : List SettlementEntryLine) : Result (List SettlementEntryLine) := do
  let balance ← runningBalance SettlementEntryLine.side SettlementEntryLine.baseAmountMinor
    (fun l => l.baseAmountMinor ≤ 0 ∨ l.txnAmountMinor ≤ 0)
    ⟨.inventoryArithmeticInvalid, "an entry line carries positive amounts"⟩ 0 lines
  refuseIf (balance ≠ 0) ⟨.inventoryArithmeticInvalid, "a settlement entry must balance"⟩
  pure lines

def apLines (ap : ApSide) : List SettlementEntryLine :=
  [⟨.accountsPayable, .D, .purchase, ap.appliedMinor, ap.apConvertedMinor, .purchase⟩] ++
    if ap.apDustBaseMinor ≠ 0 then
      [baseLine .accountsPayable (if ap.apDustBaseMinor > 0 then .D else .C) |ap.apDustBaseMinor|
        .purchase]
    else []

def creditLines (cr : CreditSide) : List SettlementEntryLine :=
  [⟨.supplierReceivable, .C, .note, cr.consumedMinor, cr.creditConvertedMinor, .origin⟩] ++
    if cr.creditDustBaseMinor ≠ 0 then
      [baseLine .supplierReceivable (if cr.creditDustBaseMinor > 0 then .C else .D)
        |cr.creditDustBaseMinor| .origin]
    else []

/-! ## 6. The plans -/

/-- A payment of an amount in the payment currency, applied to a purchase in its own. -/
structure PaymentAllocationInput where
  purchase : PurchaseApState
  sameCurrency : Bool
  paymentAmountMinor : ℤ
  payment : SettlementConversion
  appliedMinor : ℤ
  deriving DecidableEq, Repr

structure PaymentAllocationPlan extends ApSide where
  paymentAmountMinor : ℤ
  paymentBaseMinor : ℤ
  realizedMinor : ℤ
  entryLines : List SettlementEntryLine
  deriving DecidableEq, Repr

/-- Everything `planPaymentAllocation` does before it balances the lines. -/
def paymentAllocationDraft (input : PaymentAllocationInput) : Result PaymentAllocationPlan := do
  let p := input.paymentAmountMinor
  refuseIf (p ≤ 0 ∨ p > VALUE_LIMIT_MINOR)
    ⟨.supplierPaymentAllocationsInvalid, "a payment amount must be positive"⟩
  refuseIf (input.sameCurrency ∧ p ≠ input.appliedMinor)
    ⟨.supplierPaymentAmountMismatch,
      "a payment in the purchase currency pays exactly what it applies"⟩
  let ap ← apSide .supplierPayment input.purchase input.appliedMinor
  let paymentBaseMinor ← convert p input.payment
  refuseIf (paymentBaseMinor = 0)
    ⟨.supplierPaymentAmountBelowBaseUnit,
      "the payment amount converts to less than one base minor unit"⟩
  let stranded ← strands (input.purchase.outstandingTxnMinor - ap.appliedMinor)
    input.purchase.conversion
  refuseIf stranded
    ⟨.supplierPaymentResidueBelowBaseUnit, "the allocation would leave the purchase an " ++
      "outstanding amount converting to less than one base minor unit"⟩
  let realizedMinor := paymentBaseMinor - ap.carryingReleasedMinor
  let lines := apLines ap ++
    [⟨.postingAccount, .C, .payment, p, paymentBaseMinor, .purchase⟩] ++
    if realizedMinor ≠ 0 then
      [baseLine (if realizedMinor > 0 then .fxLoss else .fxGain)
        (if realizedMinor > 0 then .D else .C) |realizedMinor| .purchase]
    else []
  pure
    { toApSide := ap, paymentAmountMinor := p, paymentBaseMinor, realizedMinor
      entryLines := lines }

def planPaymentAllocation (input : PaymentAllocationInput) : Result PaymentAllocationPlan := do
  let plan ← paymentAllocationDraft input
  let entryLines ← balanced plan.entryLines
  pure { plan with entryLines }

/-- A consumption of a note in its currency, applied to a purchase in its own. -/
structure CreditAllocationInput where
  purchase : PurchaseApState
  note : CreditNoteState
  sameCurrency : Bool
  consumedMinor : ℤ
  appliedMinor : ℤ
  deriving DecidableEq, Repr

structure CreditAllocationPlan extends ApSide, CreditSide where
  realizedMinor : ℤ
  entryLines : List SettlementEntryLine
  deriving DecidableEq, Repr

/-- Everything `planCreditAllocation` does before it balances the lines. -/
def creditAllocationDraft (input : CreditAllocationInput) : Result CreditAllocationPlan := do
  let cr ← creditSide .supplierCreditAllocation input.note input.consumedMinor
  refuseIf (input.sameCurrency ∧ input.consumedMinor ≠ input.appliedMinor)
    ⟨.supplierCreditAllocationAmountMismatch,
      "a credit in the purchase currency applies exactly what it consumes"⟩
  let ap ← apSide .supplierCreditAllocation input.purchase input.appliedMinor
  let stranded ← strandsEither (input.purchase.outstandingTxnMinor - ap.appliedMinor)
    input.purchase.conversion cr.remainingAfterMinor input.note.conversion
  refuseIf stranded
    ⟨.supplierCreditAllocationResidueBelowBaseUnit, "the allocation would leave the purchase or " ++
      "the note a remaining amount converting to less than one base minor unit"⟩
  let realizedMinor := cr.creditReleasedMinor - ap.carryingReleasedMinor
  let lines := apLines ap ++ creditLines cr ++
    if realizedMinor ≠ 0 then
      [baseLine (if realizedMinor > 0 then .fxLoss else .fxGain)
        (if realizedMinor > 0 then .D else .C) |realizedMinor| .purchase]
    else []
  pure { toApSide := ap, toCreditSide := cr, realizedMinor, entryLines := lines }

def planCreditAllocation (input : CreditAllocationInput) : Result CreditAllocationPlan := do
  let plan ← creditAllocationDraft input
  let entryLines ← balanced plan.entryLines
  pure { plan with entryLines }

/-- A consumption of a note in its currency, received in the receipt currency. -/
structure RefundInput where
  note : CreditNoteState
  sameCurrency : Bool
  consumedMinor : ℤ
  receiptAmountMinor : ℤ
  receipt : SettlementConversion
  deriving DecidableEq, Repr

structure RefundPlan extends CreditSide where
  receiptAmountMinor : ℤ
  receiptBaseMinor : ℤ
  realizedMinor : ℤ
  entryLines : List SettlementEntryLine
  deriving DecidableEq, Repr

/-- Everything `planRefund` does before it balances the lines. -/
def refundDraft (input : RefundInput) : Result RefundPlan := do
  let cr ← creditSide .supplierRefund input.note input.consumedMinor
  let m := input.receiptAmountMinor
  refuseIf (m ≤ 0 ∨ m > VALUE_LIMIT_MINOR)
    ⟨.inventoryPayloadInvalid, "a receipt amount must be positive"⟩
  refuseIf (input.sameCurrency ∧ m ≠ input.consumedMinor)
    ⟨.supplierRefundAmountMismatch,
      "a refund in the note currency receives exactly what it consumes"⟩
  let receiptBaseMinor ← convert m input.receipt
  refuseIf (receiptBaseMinor = 0)
    ⟨.supplierRefundAmountBelowBaseUnit,
      "the receipt amount converts to less than one base minor unit"⟩
  let stranded ← strands cr.remainingAfterMinor input.note.conversion
  refuseIf stranded
    ⟨.supplierRefundResidueBelowBaseUnit, "the refund would leave the note a remaining amount " ++
      "converting to less than one base minor unit"⟩
  let realizedMinor := receiptBaseMinor - cr.creditReleasedMinor
  let lines := [⟨.postingAccount, .D, .receipt, m, receiptBaseMinor, .origin⟩] ++
    creditLines cr ++
    if realizedMinor ≠ 0 then
      [baseLine (if realizedMinor > 0 then .fxGain else .fxLoss)
        (if realizedMinor > 0 then .C else .D) |realizedMinor| .origin]
    else []
  pure
    { toCreditSide := cr, receiptAmountMinor := m, receiptBaseMinor, realizedMinor
      entryLines := lines }

def planRefund (input : RefundInput) : Result RefundPlan := do
  let plan ← refundDraft input
  let entryLines ← balanced plan.entryLines
  pure { plan with entryLines }

/-! ## 7. What the plans compute -/

/-- Debits less credits of an entry, in base. -/
def entryBalance (lines : List SettlementEntryLine) : ℤ :=
  balance SettlementEntryLine.side SettlementEntryLine.baseAmountMinor lines

/-- Debits less credits of one account of an entry, in base. -/
def entryNet (account : SettlementAccount) (lines : List SettlementEntryLine) : ℤ :=
  balanceOf SettlementEntryLine.side SettlementEntryLine.baseAmountMinor
    SettlementEntryLine.account account lines

@[simp] theorem entryBalance_nil : entryBalance [] = 0 := rfl

@[simp] theorem entryBalance_cons (l : SettlementEntryLine) (ls : List SettlementEntryLine) :
    entryBalance (l :: ls) = l.side.signed l.baseAmountMinor + entryBalance ls :=
  balance_cons _ _ l ls

@[simp] theorem entryBalance_append (ls ms : List SettlementEntryLine) :
    entryBalance (ls ++ ms) = entryBalance ls + entryBalance ms :=
  balance_append _ _ ls ms

@[simp] theorem entryNet_nil (a : SettlementAccount) : entryNet a [] = 0 := rfl

@[simp] theorem entryNet_cons (a : SettlementAccount) (l : SettlementEntryLine)
    (ls : List SettlementEntryLine) : entryNet a (l :: ls) =
      (if l.account = a then l.side.signed l.baseAmountMinor else 0) + entryNet a ls :=
  balanceOf_cons _ _ _ a l ls

@[simp] theorem entryNet_append (a : SettlementAccount) (ls ms : List SettlementEntryLine) :
    entryNet a (ls ++ ms) = entryNet a ls + entryNet a ms :=
  balanceOf_append _ _ _ a ls ms

/-- Both amounts of a line are positive. -/
def SettlementEntryLine.Positive (l : SettlementEntryLine) : Prop :=
  0 < l.baseAmountMinor ∧ 0 < l.txnAmountMinor

theorem balanced_eq_ok {ls r : List SettlementEntryLine} :
    balanced ls = .ok r ↔ (∀ l ∈ ls, l.Positive) ∧ entryBalance ls = 0 ∧ ls = r := by
  simp only [balanced, bind_eq_ok, runningBalance_eq_ok, refuseIf_eq_ok, exists_const, pure_eq_ok,
    zero_add, not_not, ne_eq, not_or, not_le]
  constructor
  · rintro ⟨b, ⟨hpos, rfl⟩, h0, rfl⟩
    exact ⟨hpos, h0, rfl⟩
  · rintro ⟨hpos, h0, rfl⟩
    exact ⟨_, ⟨hpos, rfl⟩, h0, rfl⟩

/-- A signed base amount on an account, as at most one line. -/
def signedBaseLine (account : SettlementAccount) (up : Side) (v : ℤ)
    (dimension : SettlementDimension) : List SettlementEntryLine :=
  signedLine (fun side amount => baseLine account side amount dimension) up v

section SignedBaseLine

variable (a : SettlementAccount) (up : Side) (v : ℤ) (d : SettlementDimension)

@[simp] theorem entryBalance_signedBaseLine :
    entryBalance (signedBaseLine a up v d) = up.signed v :=
  balance_signedLine (fun s x => baseLine a s x d) (fun _ _ => rfl) (fun _ _ => rfl)

theorem entryNet_signedBaseLine_self : entryNet a (signedBaseLine a up v d) = up.signed v :=
  balanceOf_signedLine_self (fun s x => baseLine a s x d) (fun _ _ => rfl) (fun _ _ => rfl) (fun _ _ => rfl)

theorem entryNet_signedBaseLine_of_ne {b : SettlementAccount} (hab : a ≠ b) :
    entryNet b (signedBaseLine a up v d) = 0 :=
  balanceOf_signedLine_of_ne (fun s x => baseLine a s x d) (fun _ _ => rfl) hab

end SignedBaseLine

theorem apLines_eq (ap : ApSide) : apLines ap =
    [⟨.accountsPayable, .D, .purchase, ap.appliedMinor, ap.apConvertedMinor, .purchase⟩] ++
      signedBaseLine .accountsPayable .D ap.apDustBaseMinor .purchase := rfl

theorem creditLines_eq (cr : CreditSide) : creditLines cr =
    [⟨.supplierReceivable, .C, .note, cr.consumedMinor, cr.creditConvertedMinor, .origin⟩] ++
      signedBaseLine .supplierReceivable .C cr.creditDustBaseMinor .origin := rfl

/-- The payment allocation as a plain function of its input. -/
def PaymentAllocationInput.plan (i : PaymentAllocationInput) : PaymentAllocationPlan :=
  let ap := i.purchase.side i.appliedMinor
  let pb := i.payment.base i.paymentAmountMinor
  let realized := pb - ap.carryingReleasedMinor
  ⟨ap, i.paymentAmountMinor, pb, realized,
    apLines ap ++ [⟨.postingAccount, .C, .payment, i.paymentAmountMinor, pb, .purchase⟩] ++
      signedBaseLine (if realized > 0 then .fxLoss else .fxGain) .D realized .purchase⟩

/-- What passes every guard of a payment allocation. -/
structure PaymentAllocationInput.Lawful (i : PaymentAllocationInput) : Prop where
  payment_minor : IsMinor 1 i.paymentAmountMinor
  same : i.sameCurrency = true → i.paymentAmountMinor = i.appliedMinor
  range : i.purchase.InRange
  applied_pos : 0 < i.appliedMinor
  applied_le : i.appliedMinor ≤ i.purchase.outstandingTxnMinor
  conversion : i.purchase.conversion.Valid
  converted : i.purchase.conversion.base i.appliedMinor ≠ 0
  payment_conversion : i.payment.Valid
  payment_converted : i.payment.base i.paymentAmountMinor ≠ 0
  residue : strands (i.purchase.outstandingTxnMinor - i.appliedMinor) i.purchase.conversion =
    .ok false

theorem paymentAllocationDraft_eq_ok {i : PaymentAllocationInput} {p : PaymentAllocationPlan} :
    paymentAllocationDraft i = .ok p ↔ i.Lawful ∧ i.plan = p := by
  simp only [paymentAllocationDraft, bind_eq_ok, refuseIf_eq_ok, exists_const, apSide_eq_ok,
    convert_eq_ok, pure_eq_ok, not_or, not_le, not_lt, gt_iff_lt, not_and, not_not, ne_eq]
  constructor
  · rintro ⟨⟨hp0, hp1⟩, hsame, _, ⟨hr, ⟨ha0, ha1⟩, hc, hne, rfl⟩, _, ⟨_, hpc, rfl⟩, hpne, s, hs, hsf,
      rfl⟩
    have hs' : s = false := by simpa using hsf
    subst hs'
    exact ⟨⟨⟨hp0, hp1⟩, hsame, hr, ha0, ha1, hc, hne, hpc, hpne, hs⟩, rfl⟩
  · rintro ⟨⟨hp, hsame, hr, ha0, ha1, hc, hne, hpc, hpne, hs⟩, rfl⟩
    exact ⟨hp, hsame, _, ⟨hr, ⟨ha0, ha1⟩, hc, hne, rfl⟩, _, ⟨⟨by have := hp.1; omega, hp.2⟩, hpc, rfl⟩,
      hpne, false, hs, by simp, rfl⟩

/-- The credit allocation as a plain function of its input. -/
def CreditAllocationInput.plan (i : CreditAllocationInput) : CreditAllocationPlan :=
  let ap := i.purchase.side i.appliedMinor
  let cr := i.note.side i.consumedMinor
  let realized := cr.creditReleasedMinor - ap.carryingReleasedMinor
  ⟨ap, cr, realized, apLines ap ++ creditLines cr ++
    signedBaseLine (if realized > 0 then .fxLoss else .fxGain) .D realized .purchase⟩

/-- What passes every guard of a credit allocation. -/
structure CreditAllocationInput.Lawful (i : CreditAllocationInput) : Prop where
  same : i.sameCurrency = true → i.consumedMinor = i.appliedMinor
  range : i.purchase.InRange
  applied_pos : 0 < i.appliedMinor
  applied_le : i.appliedMinor ≤ i.purchase.outstandingTxnMinor
  conversion : i.purchase.conversion.Valid
  converted : i.purchase.conversion.base i.appliedMinor ≠ 0
  note_range : i.note.InRange
  consumed_pos : 0 < i.consumedMinor
  consumed_le : i.consumedMinor ≤ i.note.remainingMinor
  note_conversion : i.note.conversion.Valid
  note_converted : i.note.conversion.base i.consumedMinor ≠ 0
  residue : strands (i.purchase.outstandingTxnMinor - i.appliedMinor) i.purchase.conversion =
    .ok false
  note_residue : strands (i.note.remainingMinor - i.consumedMinor) i.note.conversion = .ok false

theorem creditAllocationDraft_eq_ok {i : CreditAllocationInput} {p : CreditAllocationPlan} :
    creditAllocationDraft i = .ok p ↔ i.Lawful ∧ i.plan = p := by
  simp only [creditAllocationDraft, bind_eq_ok, refuseIf_eq_ok, exists_const, apSide_eq_ok,
    creditSide_eq_ok, pure_eq_ok, not_and, not_not, ne_eq]
  constructor
  · rintro ⟨_, ⟨hn, ⟨hc0, hc1⟩, hnc, hnne, rfl⟩, hsame, _, ⟨hr, ⟨ha0, ha1⟩, hc, hne, rfl⟩, s, hs, hsf,
      rfl⟩
    have hs' : s = false := by simpa using hsf
    subst hs'
    obtain ⟨hps, hns⟩ := strandsEither_eq_false.mp hs
    exact ⟨⟨hsame, hr, ha0, ha1, hc, hne, hn, hc0, hc1, hnc, hnne, hps, hns⟩, rfl⟩
  · rintro ⟨⟨hsame, hr, ha0, ha1, hc, hne, hn, hc0, hc1, hnc, hnne, hps, hns⟩, rfl⟩
    exact ⟨_, ⟨hn, ⟨hc0, hc1⟩, hnc, hnne, rfl⟩, hsame, _, ⟨hr, ⟨ha0, ha1⟩, hc, hne, rfl⟩, false,
      strandsEither_eq_false.mpr ⟨hps, hns⟩, by simp, rfl⟩

/-- The refund as a plain function of its input. -/
def RefundInput.plan (i : RefundInput) : RefundPlan :=
  let cr := i.note.side i.consumedMinor
  let mb := i.receipt.base i.receiptAmountMinor
  let realized := mb - cr.creditReleasedMinor
  ⟨cr, i.receiptAmountMinor, mb, realized,
    [⟨.postingAccount, .D, .receipt, i.receiptAmountMinor, mb, .origin⟩] ++ creditLines cr ++
      signedBaseLine (if realized > 0 then .fxGain else .fxLoss) .C realized .origin⟩

/-- What passes every guard of a refund. -/
structure RefundInput.Lawful (i : RefundInput) : Prop where
  note_range : i.note.InRange
  consumed_pos : 0 < i.consumedMinor
  consumed_le : i.consumedMinor ≤ i.note.remainingMinor
  note_conversion : i.note.conversion.Valid
  note_converted : i.note.conversion.base i.consumedMinor ≠ 0
  receipt_minor : IsMinor 1 i.receiptAmountMinor
  same : i.sameCurrency = true → i.receiptAmountMinor = i.consumedMinor
  receipt_conversion : i.receipt.Valid
  receipt_converted : i.receipt.base i.receiptAmountMinor ≠ 0
  note_residue : strands (i.note.remainingMinor - i.consumedMinor) i.note.conversion = .ok false

theorem refundDraft_eq_ok {i : RefundInput} {p : RefundPlan} :
    refundDraft i = .ok p ↔ i.Lawful ∧ i.plan = p := by
  simp only [refundDraft, bind_eq_ok, refuseIf_eq_ok, exists_const, creditSide_eq_ok, convert_eq_ok,
    pure_eq_ok, not_or, not_le, not_lt, gt_iff_lt, not_and, not_not, ne_eq]
  constructor
  · rintro ⟨_, ⟨hn, ⟨hc0, hc1⟩, hnc, hnne, rfl⟩, ⟨hm0, hm1⟩, hsame, _, ⟨_, hrc, rfl⟩, hrne, s, hs, hsf,
      rfl⟩
    have hs' : s = false := by simpa using hsf
    subst hs'
    exact ⟨⟨hn, hc0, hc1, hnc, hnne, ⟨hm0, hm1⟩, hsame, hrc, hrne, hs⟩, rfl⟩
  · rintro ⟨⟨hn, hc0, hc1, hnc, hnne, hm, hsame, hrc, hrne, hs⟩, rfl⟩
    exact ⟨_, ⟨hn, ⟨hc0, hc1⟩, hnc, hnne, rfl⟩, hm, hsame, _,
      ⟨⟨by have := hm.1; omega, hm.2⟩, hrc, rfl⟩, hrne, false, hs, by simp, rfl⟩

end Daftar.Inventory
