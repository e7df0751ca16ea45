/-
  File: Daftar/Inventory/ApplyCredit.lean
  Subject: The signed payload and the intent of a credit application; what the two receivable
  commands sign.

  * `customerApplyCreditPayload` checks a request and the figures the service bound to it.
  * `customerCollectPaymentPayload_signed`, `customerApplyCreditPayload_signed`: rates, bases,
    releases, dusts and realized amounts and the posting account are no intent. The amount of a
    surplus credit is: it is the surplus of the request.
-/

import Daftar.Inventory.CollectPayment
import Daftar.Inventory.Payload.ClientPart
import Daftar.Inventory.Payload.CheckedFields

namespace Daftar.Inventory.Customer

open Accounting (toUpperCase)
open Fallible
open Payload

/-! ## 1. Applying a credit -/

/-- What a client states of an application. -/
structure ApplyCreditIntentInput where
  tenantId : String
  businessId : String
  applicationId : String
  creditId : String
  invoiceId : String
  applicationDate : String
  consumedMinor : ℤ
  appliedMinor : ℤ
  deriving DecidableEq, Repr

def applyIntentFields (input : ApplyCreditIntentInput) :
    ReceivableResult (List InventoryPayloadField) := do
  refuseIf (input.consumedMinor ≤ 0) (invalid "a consumed amount must be positive")
  refuseIf (input.appliedMinor ≤ 0) (invalid "an applied amount must be positive")
  let applicationId ← uuid input.applicationId "application_id"
  let creditId ← uuid input.creditId "credit_id"
  let invoiceId ← uuid input.invoiceId "invoice_id"
  let applicationDate ← call (yyyymmdd input.applicationDate)
  pure [applicationId, creditId, invoiceId, int applicationDate, int input.consumedMinor,
    int input.appliedMinor]

def customerApplyCreditIntentSha256 (input : ApplyCreditIntentInput) :
    ReceivableResult String := do
  let fields ← applyIntentFields input
  call (inventoryIntentSha256 .customerApplyCredit input.tenantId input.businessId fields)

structure ApplyCreditPayloadInput extends ApplyCreditIntentInput where
  creditCurrency : String
  creditRemainingBeforeMinor : ℤ
  creditCarryingReleasedMinor : ℤ
  creditDustBaseMinor : ℤ
  invoiceCurrency : String
  arReleasedBeforeMinor : ℤ
  carryingReleasedMinor : ℤ
  arDustBaseMinor : ℤ
  realizedFxMinor : ℤ
  deriving DecidableEq, Repr

def assertApplyCredit (input : ApplyCreditPayloadInput) : ReceivableResult Unit := do
  refuseIf (input.realizedFxMinor ≠ input.creditCarryingReleasedMinor - input.carryingReleasedMinor)
    (invalid "realized must be credit_carrying_released - carrying_released")
  refuseIf (toUpperCase input.creditCurrency.toList = toUpperCase input.invoiceCurrency.toList ∧
      input.consumedMinor ≠ input.appliedMinor)
    (invalid "a credit in the invoice currency applies exactly what it consumes")
  refuseIf (input.consumedMinor > input.creditRemainingBeforeMinor)
    (invalid "the consumed amount exceeds the remaining credit")

def applyFields (input : ApplyCreditPayloadInput) :
    ReceivableResult (List InventoryPayloadField) := do
  let applicationId ← uuid input.applicationId "application_id"
  let creditId ← uuid input.creditId "credit_id"
  let invoiceId ← uuid input.invoiceId "invoice_id"
  let applicationDate ← call (yyyymmdd input.applicationDate)
  pure [applicationId, creditId, invoiceId, int applicationDate, code input.creditCurrency,
    int input.consumedMinor, int input.creditRemainingBeforeMinor,
    int input.creditCarryingReleasedMinor, int input.creditDustBaseMinor,
    code input.invoiceCurrency, int input.appliedMinor, int input.arReleasedBeforeMinor,
    int input.carryingReleasedMinor, int input.arDustBaseMinor, int input.realizedFxMinor]

def customerApplyCreditPayload (input : ApplyCreditPayloadInput) :
    ReceivableResult MovementPayload := do
  let intentSha256 ← customerApplyCreditIntentSha256 input.toApplyCreditIntentInput
  assertApplyCredit input
  let fields ← applyFields input
  let payload ← call (buildInventoryPayload .customerApplyCredit input.tenantId input.businessId
    fields)
  pure (payload, intentSha256)

/-! ## 2. What the commands sign -/

theorem customerApplyCreditPayload_signed {input : ApplyCreditPayloadInput} {r : MovementPayload}
    (h : customerApplyCreditPayload input = .ok r) :
    ∃ fields intentFields, applyFields input = .ok fields ∧
      applyIntentFields input.toApplyCreditIntentInput = .ok intentFields ∧
      Signed .customerApplyCredit input.tenantId input.businessId fields intentFields r := by
  simp only [customerApplyCreditPayload, customerApplyCreditIntentSha256, bind_eq_ok, call_eq_ok,
    pure_eq_ok] at h
  obtain ⟨sha, ⟨intentFields, hintent, hi⟩, _, _, fields, hfields, payload, hp, rfl⟩ := h
  refine ⟨fields, intentFields, hfields, hintent, ?_⟩
  simp only [applyFields, bind_eq_ok, pure_eq_ok, uuid_eq_ok, call_eq_ok] at hfields
  simp only [applyIntentFields, bind_eq_ok, pure_eq_ok, uuid_eq_ok, call_eq_ok] at hintent
  obtain ⟨_, ⟨_, rfl⟩, _, ⟨_, rfl⟩, _, ⟨_, rfl⟩, date, hdate, rfl⟩ := hfields
  obtain ⟨_, _, _, _, _, ⟨_, rfl⟩, _, ⟨_, rfl⟩, _, ⟨_, rfl⟩, date', hdate', rfl⟩ := hintent
  obtain rfl : date = date' := Except.ok.inj (hdate.symm.trans hdate')
  exact signed_fixed
    ([true, true, true, true, false, true] ++ List.replicate 4 false ++ [true] ++
      List.replicate 4 false) rfl (by decide +kernel) rfl hp hi

/-- The amount of a bound surplus credit is the surplus of the request. -/
theorem creditAmount_eq_surplus {input : CollectPaymentPayloadInput}
    (hpair : input.credit = none ↔ input.creditId = none)
    (hamount : ¬ ∃ c ∈ input.credit, some c.originalAmountMinor ≠ surplusMinor input.intent) :
    input.credit.map (·.originalAmountMinor) = surplusMinor input.intent := by
  cases hc : input.credit with
  | none =>
      have hid : input.intent.creditId = none := hpair.mp hc
      rw [surplusMinor, if_pos hid]
      rfl
  | some c =>
      by_contra hne
      exact hamount ⟨c, hc, hne⟩

/-- **A payment signs its bases and releases beside the client's allocations.** -/
theorem customerCollectPaymentPayload_signed {input : CollectPaymentPayloadInput}
    {r : MovementPayload} (h : customerCollectPaymentPayload input = .ok r) :
    ∃ fields intentFields, collectPayloadFields input = .ok fields ∧
      collectIntentFields input.intent = .ok intentFields ∧
      Signed .customerCollectPayment input.tenantId input.businessId fields intentFields r := by
  simp only [customerCollectPaymentPayload, customerCollectPaymentIntentSha256, bind_eq_ok,
    call_eq_ok, refuseIf_eq_ok, exists_const, not_not, pure_eq_ok] at h
  obtain ⟨sha, ⟨intentFields, hintent, hi⟩, base, _, _, hpair, hamount, fields, hfields, payload,
    hp, rfl⟩ := h
  refine ⟨fields, intentFields, hfields, hintent, ?_⟩
  obtain ⟨_, _, _, _, date, hdate, words, hwords, rfl⟩ := collectPayloadFields_eq_ok.mp hfields
  obtain ⟨_, _, _, date', hdate', words', hwords', rfl⟩ := collectIntentFields_eq_ok.mp hintent
  obtain rfl : date = date' := Except.ok.inj (hdate.symm.trans hdate')
  obtain rfl : words = words' := Except.ok.inj (hwords.symm.trans hwords')
  obtain ⟨_, _, _, _, _, _, _, _, rfl⟩ := exists_eight (length_documentTextWords hwords)
  simp only [CollectPaymentIntentInput.headerFields, ← creditAmount_eq_surplus hpair hamount] at hi ⊢
  simp only [CollectPaymentPayloadInput.headerFields, CollectPaymentPayloadInput.intent,
    List.map_map, List.length_map] at hi hp ⊢
  exact signed_lines 23
    ([true, true, true, false, true, true, true] ++ List.replicate 5 false ++
      List.replicate 10 true ++ [false, true])
    ([true, true, false, true, false, true] ++ List.replicate 4 false) rfl
    (by decide +kernel) (by decide +kernel) (by decide +kernel) (by decide +kernel) rfl
    (fun _ => rfl) rfl rfl (fun _ => rfl) hp hi

end Daftar.Inventory.Customer
