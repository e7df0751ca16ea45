/-
  File: Daftar/Inventory/Payload/Settlement.lean
  Subject: The builders of the three supplier settlements: a payment, the allocation of a credit, a
  refund.

  * Each digests its intent before it checks what the server derived.
  * `supplierPayPayload_signed`, `supplierAllocateCreditPayload_signed`,
    `supplierReceiveRefundPayload_signed`: rates, bases, releases, dusts and realized amounts, the
    posting account and the warehouses are no intent.
-/

import Daftar.Inventory.Payload.Purchase

namespace Daftar.Inventory.Payload

open Fallible
open Rounding

/-! ## 1. Checks -/

def SUPPLIER_PAYMENT_MAX_ALLOCATIONS : ℕ := 50

def SETTLEMENT_REFERENCE_MAX : ℕ := 100

/-- Amounts are refused under the code of the command, bases and releases as a payload. -/
def assertPositiveAmount (v : ℤ) (what : String) (onRefusal : InventoryErrorCode) : Result Unit :=
  refuseIf (v ≤ 0 ∨ v > VALUE_LIMIT_MINOR)
    ⟨onRefusal, what ++ " must be a positive amount within range"⟩

/-- What is released may be nothing. -/
def assertNonNegativeAmount (v : ℤ) (what : String) : Result Unit :=
  refuseIf (v < 0 ∨ v > VALUE_LIMIT_MINOR)
    (payloadInvalid (what ++ " must be a non-negative amount within range"))

/-- Dust and realized amounts go either way. -/
def assertSignedAmount (v : ℤ) (what : String) : Result Unit :=
  refuseIf (v < -VALUE_LIMIT_MINOR ∨ v > VALUE_LIMIT_MINOR)
    (payloadInvalid (what ++ " must be a signed amount within range"))

/-- A reference, or eight NULLs. -/
def referenceWords (reference : Option String) (onRefusal : InventoryErrorCode) :
    Result (List InventoryPayloadField) :=
  (wordFields reference "reference" ⟨1, SETTLEMENT_REFERENCE_MAX⟩).mapError fun _ =>
    ⟨onRefusal, "a reference must be trimmed, 1..100 characters, or absent"⟩

/-- A reference is eight fields, given or not. -/
theorem referenceWords_eq_ok {reference : Option String} {onRefusal : InventoryErrorCode}
    {ws : List InventoryPayloadField} (h : referenceWords reference onRefusal = .ok ws) :
    ∃ a b c d e f g i, ws = [a, b, c, d, e, f, g, i] :=
  wordFields_eq_ok (mapError_eq_ok.mp h)

/-- A domestic rate is exactly 1 with no registry row; a foreign rate is positive with one. -/
def ReceiptRate.Incoherent (r : ReceiptRate) : Prop :=
  if r.source = .base then r.rateR10 ≠ DOMESTIC_RATE_R10 ∨ r.rateId ≠ none
  else r.rateR10 ≤ 0 ∨ r.rateId = none

instance (r : ReceiptRate) : Decidable r.Incoherent := by
  unfold ReceiptRate.Incoherent
  infer_instance

/-- The four fields of a rate, of one currency or of two. -/
def rateFields (r : ReceiptRate) : Result (List InventoryPayloadField) := do
  refuseIf r.Incoherent (payloadInvalid
    "a domestic rate is exactly 1 with no registry row; a foreign rate is positive with one")
  snapshotFields r

/-- A rate is four fields. -/
theorem rateFields_eq_ok {r : ReceiptRate} {fs : List InventoryPayloadField}
    (h : rateFields r = .ok fs) : ∃ a b c d, fs = [a, b, c, d] := by
  obtain ⟨_, _, hfs⟩ := bind_eq_ok.mp h
  exact snapshotFields_eq_ok hfs

/-- Equal codes are the two sides of one currency. -/
def assertSameCurrency (currency currency' : String) (a a' : ℤ) (refusal : InventoryError) :
    Result Unit := do
  let code ← currencyCode currency
  let code' ← currencyCode currency'
  refuseIf (code = code' ∧ a ≠ a') refusal

/-! ## 2. Payments -/

def allocationsInvalid (message : String) : InventoryError :=
  ⟨.supplierPaymentAllocationsInvalid, message⟩

/-- What a client states of one allocation: the amount paid and the amount it settles. -/
structure SupplierPayIntentAllocation where
  allocationId : String
  purchaseId : String
  paymentAmountMinor : ℤ
  appliedMinor : ℤ
  deriving DecidableEq, Repr

/-- What a client states of a payment, its allocations apart. -/
structure SupplierPayHeader extends CommandScope where
  paymentId : String
  supplierId : String
  paymentMethodId : String
  paymentDate : String
  currency : String
  amountMinor : ℤ
  reference : Option String
  deriving DecidableEq, Repr

/-- What a client states of a payment. -/
structure SupplierPayIntentInput extends SupplierPayHeader where
  allocations : List SupplierPayIntentAllocation
  deriving DecidableEq, Repr

/-- Each purchase at most once, and the whole payment allocated. -/
def assertAllocations (allocations : List SupplierPayIntentAllocation) (amountMinor : ℤ) :
    Result Unit := do
  refuseIf (allocations.length = 0 ∨ allocations.length > SUPPLIER_PAYMENT_MAX_ALLOCATIONS)
    (allocationsInvalid "a payment has 1..50 allocations")
  refuseIf (¬ ((allocations.map (·.allocationId)).Nodup ∧ (allocations.map (·.purchaseId)).Nodup))
    (allocationsInvalid
      "a payment allocates once to each purchase, each allocation with its own id")
  let _ ← allocations.mapM fun a => do
    assertPositiveAmount a.paymentAmountMinor "a payment amount" .supplierPaymentAllocationsInvalid
    assertPositiveAmount a.appliedMinor "an applied amount" .supplierPaymentAllocationsInvalid
  assertPositiveAmount amountMinor "the payment amount" .supplierPaymentAllocationsInvalid
  refuseIf ((allocations.map (·.paymentAmountMinor)).sum ≠ amountMinor)
    (allocationsInvalid "a payment is fully allocated (TL-3)")

def payIntentAllocationFields (a : SupplierPayIntentAllocation) :
    Result (List InventoryPayloadField) := do
  let allocationId ← uuidField a.allocationId "allocation_id"
  let purchaseId ← uuidField a.purchaseId "purchase_id"
  pure [allocationId, purchaseId, int a.paymentAmountMinor, int a.appliedMinor]

/-- The client's fields, in the order of the payload's. -/
def payIntentFields (input : SupplierPayIntentInput) : Result (List InventoryPayloadField) := do
  assertAllocations input.allocations input.amountMinor
  let paymentId ← uuidField input.paymentId "payment_id"
  let supplierId ← uuidField input.supplierId "supplier_id"
  let paymentMethodId ← uuidField input.paymentMethodId "payment_method_id"
  let paymentDate ← dateField input.paymentDate
  let currency ← currencyField input.currency
  let reference ← referenceWords input.reference .supplierPaymentAllocationsInvalid
  let allocations ← input.allocations.mapM payIntentAllocationFields
  pure ([paymentId, supplierId, paymentMethodId, paymentDate, currency, int input.amountMinor] ++
    reference ++ [int input.allocations.length] ++ allocations.flatten)

def supplierPayIntentSha256 (input : SupplierPayIntentInput) : Result String := do
  let fields ← payIntentFields input
  inventoryIntentSha256 .supplierPay input.tenantId input.businessId fields

/-- An allocation with the figures the server derived of it. -/
structure SupplierPayPayloadAllocation extends SupplierPayIntentAllocation where
  warehouseId : String
  purchaseCurrency : String
  paymentBaseMinor : ℤ
  releasedBeforeMinor : ℤ
  carryingReleasedMinor : ℤ
  apDustBaseMinor : ℤ
  realizedMinor : ℤ
  deriving DecidableEq, Repr

/-- A payment with what the server looked up and derived. -/
structure SupplierPayPayloadInput extends SupplierPayHeader where
  postingAccountId : String
  rate : ReceiptRate
  baseAmountMinor : ℤ
  allocations : List SupplierPayPayloadAllocation
  deriving DecidableEq, Repr

/-- The request a payload binds. -/
def SupplierPayPayloadInput.intent (input : SupplierPayPayloadInput) : SupplierPayIntentInput :=
  ⟨input.toSupplierPayHeader, input.allocations.map (·.toSupplierPayIntentAllocation)⟩

/-- The figures of an allocation hold together. -/
def assertPayAllocation (currency : String) (a : SupplierPayPayloadAllocation) : Result Unit := do
  assertPositiveAmount a.paymentBaseMinor "a payment base" .inventoryPayloadInvalid
  assertNonNegativeAmount a.carryingReleasedMinor "a carrying release"
  assertNonNegativeAmount a.releasedBeforeMinor "an AP released before"
  assertSignedAmount a.apDustBaseMinor "an AP dust"
  assertSignedAmount a.realizedMinor "a realized amount"
  refuseIf (a.realizedMinor ≠ a.paymentBaseMinor - a.carryingReleasedMinor)
    (payloadInvalid "realized must be payment_base - carrying_released")
  assertSameCurrency a.purchaseCurrency currency a.paymentAmountMinor a.appliedMinor
    ⟨.supplierPaymentAmountMismatch,
      "a payment in the purchase currency pays exactly what it applies"⟩

/-- Every allocation holds together, and the bases add up. -/
def assertSupplierPay (input : SupplierPayPayloadInput) : Result Unit := do
  let _ ← input.allocations.mapM (assertPayAllocation input.currency)
  assertPositiveAmount input.baseAmountMinor "the payment base" .inventoryPayloadInvalid
  refuseIf (input.baseAmountMinor ≠ (input.allocations.map (·.paymentBaseMinor)).sum)
    (payloadInvalid "the payment base must be the sum of the allocation bases")

/-- Of these eleven the client stated four. -/
def payAllocationFields (a : SupplierPayPayloadAllocation) :
    Result (List InventoryPayloadField) := do
  let allocationId ← uuidField a.allocationId "allocation_id"
  let purchaseId ← uuidField a.purchaseId "purchase_id"
  let warehouseId ← uuidField a.warehouseId "warehouse_id"
  let purchaseCurrency ← currencyField a.purchaseCurrency
  pure [allocationId, purchaseId, warehouseId, purchaseCurrency, int a.paymentAmountMinor,
    int a.paymentBaseMinor, int a.appliedMinor, int a.releasedBeforeMinor,
    int a.carryingReleasedMinor, int a.apDustBaseMinor, int a.realizedMinor]

def payFields (input : SupplierPayPayloadInput) : Result (List InventoryPayloadField) := do
  let paymentId ← uuidField input.paymentId "payment_id"
  let supplierId ← uuidField input.supplierId "supplier_id"
  let paymentMethodId ← uuidField input.paymentMethodId "payment_method_id"
  let postingAccountId ← uuidField input.postingAccountId "posting_account_id"
  let paymentDate ← dateField input.paymentDate
  let currency ← currencyField input.currency
  let rate ← rateFields input.rate
  let reference ← referenceWords input.reference .supplierPaymentAllocationsInvalid
  let allocations ← input.allocations.mapM payAllocationFields
  pure ([paymentId, supplierId, paymentMethodId, postingAccountId, paymentDate, currency,
      int input.amountMinor] ++ rate ++ [int input.baseAmountMinor] ++ reference ++
    [int input.allocations.length] ++ allocations.flatten)

/-- The intent is digested first: a request that is refused there derives nothing. -/
def supplierPayPayload (input : SupplierPayPayloadInput) : Result MovementPayload := do
  let intentSha256 ← supplierPayIntentSha256 input.intent
  assertSupplierPay input
  let fields ← payFields input
  let payload ← buildInventoryPayload .supplierPay input.tenantId input.businessId fields
  pure (payload, intentSha256)

/-- A currency field is the code in lower case. -/
theorem currencyField_eq_ok {currency : String} {f : InventoryPayloadField}
    (h : currencyField currency = .ok f) :
    f = .code (String.ofList (currency.toList.map lowerChar)) := by
  obtain ⟨_, hcode, rfl⟩ := map_eq_ok.mp h
  obtain ⟨_, _, hcode⟩ := bind_eq_ok.mp hcode
  rw [← Except.ok.inj hcode]

/-- The fields a client states of an allocation, all as given. -/
theorem payIntentAllocationFields_eq_ok {a : SupplierPayIntentAllocation}
    {fs : List InventoryPayloadField} (h : payIntentAllocationFields a = .ok fs) :
    fs = [.uuid a.allocationId, .uuid a.purchaseId, int a.paymentAmountMinor,
      int a.appliedMinor] := by
  simp only [payIntentAllocationFields, bind_eq_ok, pure_eq_ok, uuidField_eq_ok] at h
  obtain ⟨_, ⟨_, rfl⟩, _, ⟨_, rfl⟩, rfl⟩ := h
  rfl

/-- The fields of an allocation, its currency in lower case. -/
theorem payAllocationFields_eq_ok {a : SupplierPayPayloadAllocation}
    {fs : List InventoryPayloadField} (h : payAllocationFields a = .ok fs) :
    fs = [.uuid a.allocationId, .uuid a.purchaseId, .uuid a.warehouseId,
      .code (String.ofList (a.purchaseCurrency.toList.map lowerChar)), int a.paymentAmountMinor,
      int a.paymentBaseMinor, int a.appliedMinor, int a.releasedBeforeMinor,
      int a.carryingReleasedMinor, int a.apDustBaseMinor, int a.realizedMinor] := by
  simp only [payAllocationFields, bind_eq_ok, pure_eq_ok, uuidField_eq_ok] at h
  obtain ⟨_, ⟨_, rfl⟩, _, ⟨_, rfl⟩, _, ⟨_, rfl⟩, _, hcurrency, rfl⟩ := h
  rw [currencyField_eq_ok hcurrency]

/-- **A payment signs its bases and releases beside the client's allocations.** -/
theorem supplierPayPayload_signed {input : SupplierPayPayloadInput} {r : MovementPayload}
    (h : supplierPayPayload input = .ok r) :
    ∃ fields intentFields, payFields input = .ok fields ∧
      payIntentFields input.intent = .ok intentFields ∧
      Signed .supplierPay input.tenantId input.businessId fields intentFields r := by
  simp only [supplierPayPayload, supplierPayIntentSha256, bind_eq_ok, pure_eq_ok] at h
  obtain ⟨sha, ⟨intentFields, hintent, hi⟩, _, _, fields, hfields, payload, hp, rfl⟩ := h
  refine ⟨fields, intentFields, hfields, hintent, ?_⟩
  simp only [payFields, bind_eq_ok, pure_eq_ok, uuidField_eq_ok] at hfields
  simp only [payIntentFields, SupplierPayPayloadInput.intent, bind_eq_ok, pure_eq_ok,
    uuidField_eq_ok] at hintent
  obtain ⟨_, ⟨_, rfl⟩, _, ⟨_, rfl⟩, _, ⟨_, rfl⟩, _, ⟨_, rfl⟩, date, hdate, currency, hcurrency,
    rate, hrate, reference, href, lines, hlines, rfl⟩ := hfields
  obtain ⟨_, _, _, ⟨_, rfl⟩, _, ⟨_, rfl⟩, _, ⟨_, rfl⟩, date', hdate', currency', hcurrency',
    reference', href', lines', hlines', rfl⟩ := hintent
  obtain rfl : date = date' := Except.ok.inj (hdate.symm.trans hdate')
  obtain rfl : currency = currency' := Except.ok.inj (hcurrency.symm.trans hcurrency')
  obtain rfl : reference = reference' := Except.ok.inj (href.symm.trans href')
  obtain ⟨_, _, _, _, rfl⟩ := rateFields_eq_ok hrate
  obtain ⟨_, _, _, _, _, _, _, _, rfl⟩ := referenceWords_eq_ok href
  obtain rfl := mapM_eq_map hlines fun a fs => payAllocationFields_eq_ok
  obtain rfl := mapM_eq_map hlines' fun a fs => payIntentAllocationFields_eq_ok
  simp only [List.map_map, List.length_map] at hi ⊢
  exact signed_lines 20
    ([true, true, true, false, true, true, true] ++ List.replicate 5 false ++
      List.replicate 9 true)
    ([true, true, false, false, true, false, true] ++ List.replicate 4 false) rfl
    (by decide +kernel) (by decide +kernel) (by decide +kernel) (by decide +kernel) rfl
    (fun _ => rfl) rfl rfl (fun _ => rfl) hp hi

/-! ## 3. Allocations of a credit -/

/-- What a client states of an allocation. -/
structure SupplierAllocateCreditIntentInput extends CommandScope where
  allocationId : String
  creditNoteId : String
  purchaseId : String
  allocationDate : String
  consumedMinor : ℤ
  appliedMinor : ℤ
  deriving DecidableEq, Repr

/-- The client's fields; two amounts, as the credit and the purchase may differ in currency. -/
def allocateIntentFields (input : SupplierAllocateCreditIntentInput) :
    Result (List InventoryPayloadField) := do
  let allocationId ← uuidField input.allocationId "allocation_id"
  let creditNoteId ← uuidField input.creditNoteId "credit_note_id"
  let purchaseId ← uuidField input.purchaseId "purchase_id"
  let allocationDate ← dateField input.allocationDate
  assertPositiveAmount input.consumedMinor "the consumed amount" .inventoryPayloadInvalid
  assertPositiveAmount input.appliedMinor "the applied amount" .inventoryPayloadInvalid
  pure [allocationId, creditNoteId, purchaseId, allocationDate, int input.consumedMinor,
    int input.appliedMinor]

def supplierAllocateCreditIntentSha256 (input : SupplierAllocateCreditIntentInput) :
    Result String := do
  let fields ← allocateIntentFields input
  inventoryIntentSha256 .supplierAllocateCredit input.tenantId input.businessId fields

/-- An allocation with the two sides the server derived. -/
structure SupplierAllocateCreditPayloadInput extends SupplierAllocateCreditIntentInput where
  warehouseId : String
  creditCurrency : String
  remainingBeforeMinor : ℤ
  creditReleasedMinor : ℤ
  creditDustBaseMinor : ℤ
  purchaseCurrency : String
  apReleasedBeforeMinor : ℤ
  apReleasedMinor : ℤ
  apDustBaseMinor : ℤ
  realizedMinor : ℤ
  deriving DecidableEq, Repr

/-- The figures of the two sides hold together. -/
def assertAllocateCredit (input : SupplierAllocateCreditPayloadInput) : Result Unit := do
  assertPositiveAmount input.remainingBeforeMinor "the remaining credit" .inventoryPayloadInvalid
  refuseIf (input.remainingBeforeMinor < input.consumedMinor)
    ⟨.supplierCreditAllocationAmountExceedsCredit,
      "the consumed amount exceeds the remaining credit"⟩
  assertNonNegativeAmount input.creditReleasedMinor "the credit release"
  assertNonNegativeAmount input.apReleasedMinor "the AP release"
  assertNonNegativeAmount input.apReleasedBeforeMinor "the AP released before"
  assertSignedAmount input.realizedMinor "the realized amount"
  refuseIf (input.realizedMinor ≠ input.creditReleasedMinor - input.apReleasedMinor)
    (payloadInvalid "realized must be credit_released - ap_released")
  assertSameCurrency input.creditCurrency input.purchaseCurrency input.consumedMinor
    input.appliedMinor
    ⟨.supplierCreditAllocationAmountMismatch,
      "a credit in the purchase currency applies exactly what it consumes"⟩

/-- The dusts are checked where they stand among the fields. -/
def allocateFields (input : SupplierAllocateCreditPayloadInput) :
    Result (List InventoryPayloadField) := do
  let allocationId ← uuidField input.allocationId "allocation_id"
  let creditNoteId ← uuidField input.creditNoteId "credit_note_id"
  let purchaseId ← uuidField input.purchaseId "purchase_id"
  let warehouseId ← uuidField input.warehouseId "warehouse_id"
  let allocationDate ← dateField input.allocationDate
  let creditCurrency ← currencyField input.creditCurrency
  assertSignedAmount input.creditDustBaseMinor "the credit dust"
  let purchaseCurrency ← currencyField input.purchaseCurrency
  assertSignedAmount input.apDustBaseMinor "the AP dust"
  pure [allocationId, creditNoteId, purchaseId, warehouseId, allocationDate, creditCurrency,
    int input.consumedMinor, int input.remainingBeforeMinor, int input.creditReleasedMinor,
    int input.creditDustBaseMinor, purchaseCurrency, int input.appliedMinor,
    int input.apReleasedBeforeMinor, int input.apReleasedMinor, int input.apDustBaseMinor,
    int input.realizedMinor]

def supplierAllocateCreditPayload (input : SupplierAllocateCreditPayloadInput) :
    Result MovementPayload := do
  let intentSha256 ← supplierAllocateCreditIntentSha256 input.toSupplierAllocateCreditIntentInput
  assertAllocateCredit input
  let fields ← allocateFields input
  let payload ← buildInventoryPayload .supplierAllocateCredit input.tenantId input.businessId fields
  pure (payload, intentSha256)

/-- **An allocation signs both sides**, its intent the ids, the date and the two amounts. -/
theorem supplierAllocateCreditPayload_signed {input : SupplierAllocateCreditPayloadInput}
    {r : MovementPayload} (h : supplierAllocateCreditPayload input = .ok r) :
    ∃ fields intentFields, allocateFields input = .ok fields ∧
      allocateIntentFields input.toSupplierAllocateCreditIntentInput = .ok intentFields ∧
      Signed .supplierAllocateCredit input.tenantId input.businessId fields intentFields r := by
  simp only [supplierAllocateCreditPayload, supplierAllocateCreditIntentSha256, bind_eq_ok,
    pure_eq_ok] at h
  obtain ⟨sha, ⟨intentFields, hintent, hi⟩, _, _, fields, hfields, payload, hp, rfl⟩ := h
  refine ⟨fields, intentFields, hfields, hintent, ?_⟩
  simp only [allocateFields, bind_eq_ok, pure_eq_ok, uuidField_eq_ok] at hfields
  simp only [allocateIntentFields, bind_eq_ok, pure_eq_ok, uuidField_eq_ok] at hintent
  obtain ⟨_, ⟨_, rfl⟩, _, ⟨_, rfl⟩, _, ⟨_, rfl⟩, _, ⟨_, rfl⟩, date, hdate, _, _, _, _, _, _, _, _,
    rfl⟩ := hfields
  obtain ⟨_, ⟨_, rfl⟩, _, ⟨_, rfl⟩, _, ⟨_, rfl⟩, date', hdate', _, _, _, _, rfl⟩ := hintent
  obtain rfl : date = date' := Except.ok.inj (hdate.symm.trans hdate')
  exact signed_fixed
    ([true, true, true, false, true, false, true] ++ List.replicate 4 false ++ [true] ++
      List.replicate 4 false) rfl (by decide +kernel) rfl hp hi

/-! ## 4. Refunds -/

/-- What a client states of a refund. -/
structure SupplierReceiveRefundIntentInput extends CommandScope where
  refundId : String
  creditNoteId : String
  paymentMethodId : String
  refundDate : String
  consumedMinor : ℤ
  receiptCurrency : String
  receiptAmountMinor : ℤ
  reference : Option String
  deriving DecidableEq, Repr

/-- The client's fields; it states the currency it received. -/
def refundIntentFields (input : SupplierReceiveRefundIntentInput) :
    Result (List InventoryPayloadField) := do
  let refundId ← uuidField input.refundId "refund_id"
  let creditNoteId ← uuidField input.creditNoteId "credit_note_id"
  let paymentMethodId ← uuidField input.paymentMethodId "payment_method_id"
  let refundDate ← dateField input.refundDate
  assertPositiveAmount input.consumedMinor "the consumed amount" .inventoryPayloadInvalid
  let receiptCurrency ← currencyField input.receiptCurrency
  assertPositiveAmount input.receiptAmountMinor "the receipt amount" .inventoryPayloadInvalid
  let reference ← referenceWords input.reference .inventoryPayloadInvalid
  pure ([refundId, creditNoteId, paymentMethodId, refundDate, int input.consumedMinor,
    receiptCurrency, int input.receiptAmountMinor] ++ reference)

def supplierReceiveRefundIntentSha256 (input : SupplierReceiveRefundIntentInput) :
    Result String := do
  let fields ← refundIntentFields input
  inventoryIntentSha256 .supplierReceiveRefund input.tenantId input.businessId fields

/-- A refund with the side the server derived and the rate of what was received. -/
structure SupplierReceiveRefundPayloadInput extends SupplierReceiveRefundIntentInput where
  postingAccountId : String
  sourceCurrency : String
  remainingBeforeMinor : ℤ
  sourceReleasedMinor : ℤ
  sourceDustBaseMinor : ℤ
  rate : ReceiptRate
  receiptBaseMinor : ℤ
  realizedMinor : ℤ
  deriving DecidableEq, Repr

/-- The figures of a refund hold together. -/
def assertReceiveRefund (input : SupplierReceiveRefundPayloadInput) : Result Unit := do
  assertPositiveAmount input.remainingBeforeMinor "the remaining credit" .inventoryPayloadInvalid
  refuseIf (input.remainingBeforeMinor < input.consumedMinor)
    ⟨.supplierRefundAmountExceedsCredit, "the consumed amount exceeds the remaining credit"⟩
  assertNonNegativeAmount input.sourceReleasedMinor "the credit release"
  assertPositiveAmount input.receiptBaseMinor "the receipt base" .inventoryPayloadInvalid
  assertSignedAmount input.realizedMinor "the realized amount"
  refuseIf (input.realizedMinor ≠ input.receiptBaseMinor - input.sourceReleasedMinor)
    (payloadInvalid "realized must be receipt_base - source_released")
  assertSameCurrency input.sourceCurrency input.receiptCurrency input.consumedMinor
    input.receiptAmountMinor
    ⟨.supplierRefundAmountMismatch,
      "a refund in the note currency receives exactly what it consumes"⟩

/-- The dust is checked where it stands among the fields. -/
def refundFields (input : SupplierReceiveRefundPayloadInput) :
    Result (List InventoryPayloadField) := do
  let refundId ← uuidField input.refundId "refund_id"
  let creditNoteId ← uuidField input.creditNoteId "credit_note_id"
  let paymentMethodId ← uuidField input.paymentMethodId "payment_method_id"
  let postingAccountId ← uuidField input.postingAccountId "posting_account_id"
  let refundDate ← dateField input.refundDate
  let sourceCurrency ← currencyField input.sourceCurrency
  assertSignedAmount input.sourceDustBaseMinor "the credit dust"
  let receiptCurrency ← currencyField input.receiptCurrency
  let rate ← rateFields input.rate
  let reference ← referenceWords input.reference .inventoryPayloadInvalid
  pure ([refundId, creditNoteId, paymentMethodId, postingAccountId, refundDate, sourceCurrency,
      int input.consumedMinor, int input.remainingBeforeMinor, int input.sourceReleasedMinor,
      int input.sourceDustBaseMinor, receiptCurrency, int input.receiptAmountMinor] ++ rate ++
    [int input.receiptBaseMinor, int input.realizedMinor] ++ reference)

def supplierReceiveRefundPayload (input : SupplierReceiveRefundPayloadInput) :
    Result MovementPayload := do
  let intentSha256 ← supplierReceiveRefundIntentSha256 input.toSupplierReceiveRefundIntentInput
  assertReceiveRefund input
  let fields ← refundFields input
  let payload ← buildInventoryPayload .supplierReceiveRefund input.tenantId input.businessId fields
  pure (payload, intentSha256)

/-- **A refund signs the credit's release and the receipt's base** beside the client's fields. -/
theorem supplierReceiveRefundPayload_signed {input : SupplierReceiveRefundPayloadInput}
    {r : MovementPayload} (h : supplierReceiveRefundPayload input = .ok r) :
    ∃ fields intentFields, refundFields input = .ok fields ∧
      refundIntentFields input.toSupplierReceiveRefundIntentInput = .ok intentFields ∧
      Signed .supplierReceiveRefund input.tenantId input.businessId fields intentFields r := by
  simp only [supplierReceiveRefundPayload, supplierReceiveRefundIntentSha256, bind_eq_ok,
    pure_eq_ok] at h
  obtain ⟨sha, ⟨intentFields, hintent, hi⟩, _, _, fields, hfields, payload, hp, rfl⟩ := h
  refine ⟨fields, intentFields, hfields, hintent, ?_⟩
  simp only [refundFields, bind_eq_ok, pure_eq_ok, uuidField_eq_ok] at hfields
  simp only [refundIntentFields, bind_eq_ok, pure_eq_ok, uuidField_eq_ok] at hintent
  obtain ⟨_, ⟨_, rfl⟩, _, ⟨_, rfl⟩, _, ⟨_, rfl⟩, _, ⟨_, rfl⟩, date, hdate, _, _, _, _, currency,
    hcurrency, rate, hrate, reference, href, rfl⟩ := hfields
  obtain ⟨_, ⟨_, rfl⟩, _, ⟨_, rfl⟩, _, ⟨_, rfl⟩, date', hdate', _, _, currency', hcurrency', _, _,
    reference', href', rfl⟩ := hintent
  obtain rfl : date = date' := Except.ok.inj (hdate.symm.trans hdate')
  obtain rfl : currency = currency' := Except.ok.inj (hcurrency.symm.trans hcurrency')
  obtain rfl : reference = reference' := Except.ok.inj (href.symm.trans href')
  obtain ⟨_, _, _, _, rfl⟩ := rateFields_eq_ok hrate
  obtain ⟨_, _, _, _, _, _, _, _, rfl⟩ := referenceWords_eq_ok href
  exact signed_fixed
    ([true, true, true, false, true, false, true, false, false, false, true, true] ++
      List.replicate 6 false ++ List.replicate 8 true) rfl (by decide +kernel) rfl hp hi

end Daftar.Inventory.Payload
