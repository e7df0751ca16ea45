/-
  File: Daftar/Inventory/CollectRefusals.lean
  Subject: What a customer payment is refused for, of its amounts.

  * `ReceivableRefusal.OfAmounts`: the refusals that name an amount of the payment.
  * `planCustomerPayment_refuses`: the plan raises them only for a payment that is broken
    (`CustomerPaymentInput.Broken`): one of its legs, its sum, or its surplus.
-/

import Daftar.Inventory.CustomerPayment
import Daftar.Inventory.SettlementRefusals

namespace Daftar.Inventory.Customer

open Fallible
open Rounding

/-! ## 1. Refusals of amounts -/

/-- The codes raised for an amount: over what is owed, paid and applied apart in one currency, below
    a base unit, or leaving a residue. -/
def paymentAmountCodes : List InventoryErrorCode :=
  [.customerPaymentAmountExceedsOutstanding, .customerPaymentAmountMismatch,
    .customerPaymentAmountBelowBaseUnit, .customerPaymentCreditBelowBaseUnit,
    .customerPaymentResidueBelowBaseUnit]

/-- The texts of a payment whose amounts do not add up. -/
def paymentSumTexts : List String :=
  ["a payment cannot allocate more than it received",
    "a payment allocates its whole amount or carries the surplus as a customer credit"]

def ReceivableRefusal.OfAmounts : ReceivableRefusal → Prop
  | .inventory _ => False
  | .receivable code message =>
      code ∈ paymentAmountCodes ∨
        code = .customerPaymentAllocationsInvalid ∧ message ∈ paymentSumTexts

instance (e : ReceivableRefusal) : Decidable e.OfAmounts := by
  unfold ReceivableRefusal.OfAmounts
  split <;> infer_instance

/-- What a leg is refused for. -/
structure CustomerPaymentLegInput.Sound (leg : CustomerPaymentLegInput)
    (payment : ReceivableConversion) : Prop where
  within : leg.appliedMinor ≤ leg.invoice.outstandingTxnMinor
  same : leg.sameCurrency = true → leg.paymentAmountMinor = leg.appliedMinor
  converted : leg.invoice.conversion.base leg.appliedMinor ≠ 0
  payment_converted : payment.base leg.paymentAmountMinor ≠ 0
  residue : ¬ Strands leg.invoice.conversion (leg.invoice.outstandingTxnMinor - leg.appliedMinor)

/-- Amounts that give no reason for a refusal. -/
structure CustomerPaymentInput.Sound (i : CustomerPaymentInput) : Prop where
  legs : ∀ leg ∈ i.legs, leg.Sound i.payment
  allocated_le : i.allocated ≤ i.amountMinor
  surplus : 0 < i.surplus → i.payment.base i.surplus ≠ 0

/-! ## 2. The plan -/

/-- A refusal of an amount has the cause. -/
def AmountsOnly (cause : Prop) (e : ReceivableRefusal) : Prop := e.OfAmounts → cause

section Primitives

variable {cause : Prop} {α : Type}

theorem call_refuses (x : Result α) : RefusesOnly (AmountsOnly cause) (call x) := by
  intro e he hof
  cases x with
  | ok a => cases he
  | error d =>
      cases he
      exact hof.elim

theorem refuseIf_refuses {c : Prop} [Decidable c] {e : ReceivableRefusal} (h : ¬ e.OfAmounts) :
    RefusesOnly (AmountsOnly cause) (refuseIf c e) :=
  refusesOnly_refuseIf fun _ hof => absurd hof h

theorem assertMinor_refuses (v : ℤ) (what : String) (min : ℤ) :
    RefusesOnly (AmountsOnly cause) (assertMinor v what min) := by
  refine refuseIf_refuses fun hof => ?_
  rcases hof with hof | hof
  · exact absurd hof (by decide)
  · cases hof.1

theorem convert_refuses (x : ℤ) (c : ReceivableConversion) :
    RefusesOnly (AmountsOnly cause) (convert x c) := call_refuses _

theorem strands_refuses (x : ℤ) (c : ReceivableConversion) :
    RefusesOnly (AmountsOnly cause) (strands x c) := by
  unfold strands
  split
  · exact (convert_refuses _ _).map
  · exact fun _ h => absurd h nofun

/-- The AR side refuses an amount that is over what is owed or converts to nothing. -/
theorem arSide_refuses {i : InvoiceArState} {a : ℤ} (hexc : a > i.outstandingTxnMinor → cause)
    (hzero : i.conversion.base a = 0 → cause) :
    RefusesOnly (AmountsOnly cause) (arSide .customerPayment i a) := by
  refine (assertMinor_refuses _ _ _).bind fun _ _ => (assertMinor_refuses _ _ _).bind fun _ _ =>
    (assertMinor_refuses _ _ _).bind fun _ _ => (refuseIf_refuses (by decide)).bind fun _ _ =>
      (refuseIf_refuses (by decide)).bind fun _ _ =>
        (refusesOnly_refuseIf fun h _ => hexc h).bind fun _ _ => (call_refuses _).bind fun _ _ =>
          (convert_refuses _ _).bind fun conv hconv => ?_
  refine (refusesOnly_refuseIf fun hc _ => hzero ?_).bind fun _ _ => refusesOnly_pure _
  rw [(convert_eq_ok.mp hconv).2.2, hc]

end Primitives

theorem strands_true {c : ReceivableConversion} {left : ℤ} (h : strands left c = .ok true) :
    Strands c left := by
  unfold strands at h
  split at h
  · next hl =>
      obtain ⟨b, hb, hzero⟩ := map_eq_ok.mp h
      rw [decide_eq_true_eq] at hzero
      exact ⟨hl, (convert_eq_ok.mp hb).2.2.trans hzero⟩
  · cases h

/-- **A leg is refused for an amount only when it is not sound.** -/
theorem planCustomerPaymentAllocation_refuses (leg : CustomerPaymentLegInput)
    (payment : ReceivableConversion) :
    RefusesOnly (AmountsOnly (¬ leg.Sound payment))
      (planCustomerPaymentAllocation (leg.allocation payment)) := by
  rw [planCustomerPaymentAllocation_eq_draft]
  refine (refuseIf_refuses (by decide)).bind fun _ _ =>
    (refusesOnly_refuseIf fun h _ hs => h.2 (hs.same h.1)).bind fun _ _ =>
      (arSide_refuses (fun h hs => h.not_ge hs.within) fun h hs => hs.converted h).bind
        fun ar har => (convert_refuses _ _).bind fun pb hpb => ?_
  refine (refusesOnly_refuseIf fun h _ hs => hs.payment_converted ?_).bind fun _ _ =>
    (strands_refuses _ _).bind fun stranded hstr =>
      (refusesOnly_refuseIf fun h _ hs => hs.residue ?_).bind fun _ _ => refusesOnly_pure _
  · exact (convert_eq_ok.mp hpb).2.2.trans h
  · obtain ⟨_, _, _, _, rfl⟩ := arSide_eq_ok.mp har
    obtain rfl : stranded = true := h
    exact strands_true hstr

theorem planCustomerCreditCreation_refuses (i : CustomerCreditCreationInput) :
    RefusesOnly (AmountsOnly (i.payment.base i.surplusMinor = 0)) (planCustomerCreditCreation i) := by
  rw [planCustomerCreditCreation_eq_draft]
  refine (refuseIf_refuses (by decide)).bind fun _ _ => (convert_refuses _ _).bind fun ob hob =>
    (refusesOnly_refuseIf fun h _ => ?_).bind fun _ _ => (call_refuses _).bind fun _ _ =>
      (refuseIf_refuses (by decide)).bind fun _ _ => refusesOnly_pure _
  exact (convert_eq_ok.mp hob).2.2.trans h

/-- The closure refuses amounts that do not add up. -/
theorem assertPaymentClosure_refuses {cause : Prop} {amount credit : ℤ} {ps : List ℤ}
    (hover : ps.sum > amount → cause) (hsum : ps.sum + credit ≠ amount → cause) :
    RefusesOnly (AmountsOnly cause) (assertPaymentClosure amount ps credit) := by
  refine (assertMinor_refuses _ _ _).bind fun _ _ => (RefusesOnly.foldlM (fun s p _ =>
    (assertMinor_refuses _ _ _).bind fun _ _ => refusesOnly_pure _) 0).bind fun allocated hall => ?_
  obtain ⟨_, rfl⟩ := foldlM_assertMinor.mp hall
  rw [zero_add]
  exact (refusesOnly_refuseIf fun h _ => hover h).bind fun _ _ =>
    refusesOnly_refuseIf fun h _ => hsum h

theorem surplusCredit_refuses (i : CustomerPaymentInput) :
    RefusesOnly (AmountsOnly (¬ i.Sound)) (surplusCredit i.surplus i.payment) := by
  unfold surplusCredit
  split
  · next hs =>
      exact ((planCustomerCreditCreation_refuses i.creation).mono
        fun _ hcause hof hsound => hsound.surplus hs (hcause hof)).map
  · exact refusesOnly_pure _

/-- **A payment is refused for an amount only when it is not sound.** The text of a surplus that is
    no credit is never reached. -/
theorem planCustomerPayment_refuses (i : CustomerPaymentInput) :
    RefusesOnly (AmountsOnly (¬ i.Sound)) (planCustomerPayment i) := by
  have hlegs : ∀ leg ∈ i.legs, RefusesOnly (AmountsOnly (¬ i.Sound))
      (planCustomerPaymentAllocation (leg.allocation i.payment)) := by
    intro leg hleg
    exact (planCustomerPaymentAllocation_refuses leg i.payment).mono
      fun _ hcause hof hs => hcause hof (hs.legs leg hleg)
  refine (refuseIf_refuses (by decide)).bind fun _ _ =>
    (RefusesOnly.mapM hlegs).bind fun as has => ?_
  have hsum : (as.map (·.paymentAmountMinor)).sum = i.allocated := by
    obtain ⟨_, rfl⟩ := (mapM_eq_ok_map fun _ _ => planCustomerPaymentAllocation_eq_ok).mp has
    rw [List.map_map]
    rfl
  have hsurplus : RefusesOnly (AmountsOnly (¬ i.Sound))
      (paymentSurplusMinor i.amountMinor (as.map (·.paymentAmountMinor))) := by
    refine (refusesOnly_refuseIf fun h _ hs => ?_).bind fun _ _ => refusesOnly_pure _
    rw [← List.sum_eq_foldl, hsum] at h
    exact absurd hs.allocated_le (by omega)
  refine hsurplus.bind fun s hs => ?_
  obtain ⟨hle, rfl⟩ := paymentSurplusMinor_eq_ok.mp hs
  rw [hsum] at hle ⊢
  refine (surplusCredit_refuses i).bind fun credit hcredit => ?_
  obtain ⟨_, rfl⟩ := surplusCredit_eq_ok.mp hcredit
  have hcloses := (i.plan_closes hle).1
  have hplan : (i.plan.allocations.map (·.paymentAmountMinor)).sum = i.allocated := by
    rw [CustomerPaymentInput.plan, List.map_map]
    rfl
  rw [hplan] at hcloses
  refine (assertPaymentClosure_refuses (fun h => ?_) fun h => ?_).bind fun _ _ =>
    (refuseIf_refuses (by decide)).bind fun _ _ => refusesOnly_pure _
  · rw [hsum] at h
    exact absurd hle h.not_ge
  · rw [hsum] at h
    exact absurd hcloses h

end Daftar.Inventory.Customer
