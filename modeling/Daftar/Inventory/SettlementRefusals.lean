/-
  File: Daftar/Inventory/SettlementRefusals.lean
  Subject: What the settlement plans refuse an amount for.

  * `CausedBy codes cause`: a refusal with one of the codes has the cause.
  * The plans raise the codes of a too small amount only for one that converts to nothing or that
    leaves a residue: `planPaymentAllocation_refuses`, `planCreditAllocation_refuses`,
    `planRefund_refuses`.
-/

import Daftar.Inventory.SettlementBalance

namespace Daftar.Inventory

open Fallible
open Rounding

/-! ## 1. The primitives and the sides -/

/-- A refusal with one of the codes has the stated cause. -/
def CausedBy (codes : List InventoryErrorCode) (cause : Prop) (e : InventoryError) : Prop :=
  e.code ∈ codes → cause

section Primitives

variable {codes : List InventoryErrorCode} {cause : Prop}
  (harith : .inventoryArithmeticInvalid ∉ codes)
include harith

theorem assertMinor_refuses (v : ℤ) (what : String) (min : ℤ) :
    RefusesOnly (CausedBy codes cause) (assertMinor v what min) :=
  refusesOnly_refuseIf fun _ hmem => absurd hmem harith

theorem assertExponent_refuses (v : ℤ) (what : String) :
    RefusesOnly (CausedBy codes cause) (assertExponent v what) :=
  refusesOnly_refuseIf fun _ hmem => absurd hmem harith

theorem roundHalfEven_refuses (n d : ℤ) :
    RefusesOnly (CausedBy codes cause) (roundHalfEven n d) :=
  (refusesOnly_refuseIf fun _ hmem => absurd hmem harith).bind fun _ _ => refusesOnly_pure _

theorem convert_refuses (x : ℤ) (c : SettlementConversion) :
    RefusesOnly (CausedBy codes cause) (convert x c) :=
  (assertMinor_refuses harith _ _ _).bind fun _ _ =>
    (refusesOnly_refuseIf fun _ hmem => absurd hmem harith).bind fun _ _ =>
      (assertExponent_refuses harith _ _).bind fun _ _ =>
        (assertExponent_refuses harith _ _).bind fun _ _ => roundHalfEven_refuses harith _ _

theorem apRelease_refuses (b t x a : ℤ) :
    RefusesOnly (CausedBy codes cause) (apRelease b t x a) :=
  (assertMinor_refuses harith _ _ _).bind fun _ _ =>
    (assertMinor_refuses harith _ _ _).bind fun _ _ =>
      (assertMinor_refuses harith _ _ _).bind fun _ _ =>
        (assertMinor_refuses harith _ _ _).bind fun _ _ =>
          (refusesOnly_refuseIf fun _ hmem => absurd hmem harith).bind fun _ _ =>
            (roundHalfEven_refuses harith _ _).bind fun _ _ =>
              (roundHalfEven_refuses harith _ _).bind fun _ _ => refusesOnly_pure _

theorem creditRemainingCarrying_refuses (oa ob r : ℤ) :
    RefusesOnly (CausedBy codes cause) (creditRemainingCarrying oa ob r) := by
  refine (assertMinor_refuses harith _ _ _).bind fun _ _ =>
    (assertMinor_refuses harith _ _ _).bind fun _ _ =>
      (assertMinor_refuses harith _ _ _).bind fun _ _ =>
        (refusesOnly_refuseIf fun _ hmem => absurd hmem harith).bind fun _ _ => ?_
  split
  · exact refusesOnly_pure _
  · exact (roundHalfEven_refuses harith _ _).bind fun _ _ => refusesOnly_pure _

theorem creditRelease_refuses (oa ob rb c : ℤ) :
    RefusesOnly (CausedBy codes cause) (creditRelease oa ob rb c) :=
  (assertMinor_refuses harith _ _ _).bind fun _ _ =>
    (assertMinor_refuses harith _ _ _).bind fun _ _ =>
      (refusesOnly_refuseIf fun _ hmem => absurd hmem harith).bind fun _ _ =>
        (creditRemainingCarrying_refuses harith _ _ _).bind fun _ _ =>
          (creditRemainingCarrying_refuses harith _ _ _).bind fun _ _ => refusesOnly_pure _

theorem strands_refuses (x : ℤ) (c : SettlementConversion) :
    RefusesOnly (CausedBy codes cause) (strands x c) := by
  unfold strands
  split
  · exact (convert_refuses harith _ _).map
  · exact fun _ h => absurd h nofun

/-- An AP side that refuses for its amount converts it to nothing. -/
theorem apSide_refuses {d : ApDomain} {p : PurchaseApState} {a : ℤ} (hinv : d.amountInvalid ∉ codes)
    (hexc : d.amountExceedsOutstanding ∉ codes) (hcause : p.conversion.base a = 0 → cause) :
    RefusesOnly (CausedBy codes cause) (apSide d p a) := by
  refine (assertMinor_refuses harith _ _ _).bind fun _ _ =>
    (assertMinor_refuses harith _ _ _).bind fun _ _ =>
      (assertMinor_refuses harith _ _ _).bind fun _ _ =>
        (refusesOnly_refuseIf fun _ hmem => absurd hmem harith).bind fun _ _ =>
          (refusesOnly_refuseIf fun _ hmem => absurd hmem hinv).bind fun _ _ =>
            (refusesOnly_refuseIf fun _ hmem => absurd hmem hexc).bind fun _ _ =>
              (apRelease_refuses harith _ _ _ _).bind fun _ _ =>
                (convert_refuses harith _ _).bind fun conv hconv => ?_
  refine (refusesOnly_refuseIf fun hzero _ => hcause ?_).bind fun _ _ => refusesOnly_pure _
  rw [(convert_eq_ok.mp hconv).2.2, hzero]

/-- A credit side that refuses for its amount converts it to nothing. -/
theorem creditSide_refuses {d : CreditDomain} {n : CreditNoteState} {c : ℤ}
    (hexh : d.creditExhausted ∉ codes) (hpay : .inventoryPayloadInvalid ∉ codes)
    (hexc : d.amountExceedsCredit ∉ codes) (hcause : n.conversion.base c = 0 → cause) :
    RefusesOnly (CausedBy codes cause) (creditSide d n c) := by
  refine (assertMinor_refuses harith _ _ _).bind fun _ _ =>
    (assertMinor_refuses harith _ _ _).bind fun _ _ =>
      (assertMinor_refuses harith _ _ _).bind fun _ _ =>
        (refusesOnly_refuseIf fun _ hmem => absurd hmem harith).bind fun _ _ =>
          (refusesOnly_refuseIf fun _ hmem => absurd hmem hexh).bind fun _ _ =>
            (refusesOnly_refuseIf fun _ hmem => absurd hmem hpay).bind fun _ _ =>
              (refusesOnly_refuseIf fun _ hmem => absurd hmem hexc).bind fun _ _ =>
                (creditRelease_refuses harith _ _ _ _).bind fun _ _ =>
                  (convert_refuses harith _ _).bind fun conv hconv => ?_
  refine (refusesOnly_refuseIf fun hzero _ => hcause ?_).bind fun _ _ =>
    (creditRemainingCarrying_refuses harith _ _ _).bind fun _ _ => refusesOnly_pure _
  rw [(convert_eq_ok.mp hconv).2.2, hzero]

end Primitives

/-- The remainder of an amount is a residue. -/
def Strands (c : SettlementConversion) (left : ℤ) : Prop := 0 < left ∧ c.base left = 0

theorem strands_true {c : SettlementConversion} {left : ℤ} (h : strands left c = .ok true) :
    Strands c left := by
  rcases strands_eq_ok.mp h with ⟨_, hf⟩ | ⟨hl, _, _, hb⟩
  · cases hf
  · exact ⟨hl, by simpa using hb⟩

theorem strandsEither_true {x y : ℤ} {cx cy : SettlementConversion}
    (h : strandsEither x cx y cy = .ok true) : Strands cx x ∨ Strands cy y := by
  obtain ⟨first, hfirst, h⟩ := bind_eq_ok.mp h
  cases first with
  | true => exact .inl (strands_true hfirst)
  | false => exact .inr (strands_true h)

theorem strandsEither_refuses {codes : List InventoryErrorCode} {cause : Prop}
    (harith : .inventoryArithmeticInvalid ∉ codes) (x : ℤ) (cx : SettlementConversion) (y : ℤ)
    (cy : SettlementConversion) : RefusesOnly (CausedBy codes cause) (strandsEither x cx y cy) := by
  refine (strands_refuses harith x cx).bind fun first _ => ?_
  split
  · exact refusesOnly_pure _
  · exact strands_refuses harith y cy

/-! ## 2. The plans -/

/-- The two refusals of a payment allocation for its amounts. -/
def paymentUnitCodes : List InventoryErrorCode :=
  [.supplierPaymentAmountBelowBaseUnit, .supplierPaymentResidueBelowBaseUnit]

/-- A positive amount within what is owed that leaves a residue. -/
def Residual (c : SettlementConversion) (owed a : ℤ) : Prop :=
  0 < a ∧ a ≤ owed ∧ Strands c (owed - a)

/-- What a payment allocation is refused for, of its amounts. -/
def PaymentAllocationInput.BelowUnit (i : PaymentAllocationInput) : Prop :=
  i.purchase.conversion.base i.appliedMinor = 0 ∨ i.payment.base i.paymentAmountMinor = 0 ∨
    Residual i.purchase.conversion i.purchase.outstandingTxnMinor i.appliedMinor

theorem planPaymentAllocation_refuses (i : PaymentAllocationInput) :
    RefusesOnly (CausedBy paymentUnitCodes i.BelowUnit) (planPaymentAllocation i) := by
  rw [planPaymentAllocation_eq_draft]
  refine (refusesOnly_refuseIf fun _ hmem => absurd hmem (by decide)).bind fun _ _ =>
    (refusesOnly_refuseIf fun _ hmem => absurd hmem (by decide)).bind fun _ _ =>
      (apSide_refuses (by decide) (by decide) (by decide) .inl).bind fun ap hap =>
        (convert_refuses (by decide) _ _).bind fun pb hpb =>
          (refusesOnly_refuseIf fun hzero _ => .inr (.inl ?_)).bind fun _ _ =>
            (strands_refuses (by decide) _ _).bind fun stranded hstr =>
              (refusesOnly_refuseIf fun htrue _ => .inr (.inr ?_)).bind fun _ _ =>
                refusesOnly_pure _
  · rw [(convert_eq_ok.mp hpb).2.2, hzero]
  · obtain ⟨_, ⟨ha, hle⟩, _, _, rfl⟩ := apSide_eq_ok.mp hap
    obtain rfl : stranded = true := htrue
    exact ⟨ha, hle, strands_true hstr⟩

def creditUnitCodes : List InventoryErrorCode :=
  [.supplierCreditAllocationAmountBelowBaseUnit, .supplierCreditAllocationResidueBelowBaseUnit]

/-- What a credit allocation is refused for, of its amounts. A residue is looked for only once both
    amounts are within what is owed and what remains. -/
def CreditAllocationInput.BelowUnit (i : CreditAllocationInput) : Prop :=
  i.note.conversion.base i.consumedMinor = 0 ∨ i.purchase.conversion.base i.appliedMinor = 0 ∨
    ((0 < i.appliedMinor ∧ i.appliedMinor ≤ i.purchase.outstandingTxnMinor) ∧
      (0 < i.consumedMinor ∧ i.consumedMinor ≤ i.note.remainingMinor) ∧
      (Strands i.purchase.conversion (i.purchase.outstandingTxnMinor - i.appliedMinor) ∨
        Strands i.note.conversion (i.note.remainingMinor - i.consumedMinor)))

theorem planCreditAllocation_refuses (i : CreditAllocationInput) :
    RefusesOnly (CausedBy creditUnitCodes i.BelowUnit) (planCreditAllocation i) := by
  rw [planCreditAllocation_eq_draft]
  refine (creditSide_refuses (by decide) (by decide) (by decide) (by decide) .inl).bind fun cr hcr =>
    (refusesOnly_refuseIf fun _ hmem => absurd hmem (by decide)).bind fun _ _ =>
      (apSide_refuses (by decide) (by decide) (by decide) fun h => .inr (.inl h)).bind fun ap hap =>
        (strandsEither_refuses (by decide) _ _ _ _).bind fun stranded hstr =>
          (refusesOnly_refuseIf fun htrue _ => .inr (.inr ?_)).bind fun _ _ => refusesOnly_pure _
  obtain ⟨_, ha, _, _, rfl⟩ := apSide_eq_ok.mp hap
  obtain ⟨_, hc, _, _, rfl⟩ := creditSide_eq_ok.mp hcr
  obtain rfl : stranded = true := htrue
  exact ⟨ha, hc, strandsEither_true hstr⟩

def refundUnitCodes : List InventoryErrorCode :=
  [.supplierRefundAmountBelowBaseUnit, .supplierRefundResidueBelowBaseUnit]

/-- What a refund is refused for, of its amounts. -/
def RefundInput.BelowUnit (i : RefundInput) : Prop :=
  i.note.conversion.base i.consumedMinor = 0 ∨ i.receipt.base i.receiptAmountMinor = 0 ∨
    Residual i.note.conversion i.note.remainingMinor i.consumedMinor

theorem planRefund_refuses (i : RefundInput) :
    RefusesOnly (CausedBy refundUnitCodes i.BelowUnit) (planRefund i) := by
  rw [planRefund_eq_draft]
  refine (creditSide_refuses (by decide) (by decide) (by decide) (by decide) .inl).bind fun cr hcr =>
    (refusesOnly_refuseIf fun _ hmem => absurd hmem (by decide)).bind fun _ _ =>
      (refusesOnly_refuseIf fun _ hmem => absurd hmem (by decide)).bind fun _ _ =>
        (convert_refuses (by decide) _ _).bind fun mb hmb =>
          (refusesOnly_refuseIf fun hzero _ => .inr (.inl ?_)).bind fun _ _ =>
            (strands_refuses (by decide) _ _).bind fun stranded hstr =>
              (refusesOnly_refuseIf fun htrue _ => .inr (.inr ?_)).bind fun _ _ =>
                refusesOnly_pure _
  · rw [(convert_eq_ok.mp hmb).2.2, hzero]
  · obtain ⟨_, ⟨hc, hle⟩, _, _, rfl⟩ := creditSide_eq_ok.mp hcr
    obtain rfl : stranded = true := htrue
    exact ⟨hc, hle, strands_true hstr⟩

end Daftar.Inventory
