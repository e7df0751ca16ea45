/-
  File: Daftar/Inventory/CollectPayment.lean
  Subject: The signed payload and the intent of a customer payment.

  * `collectIntentFields` and `customerCollectPaymentPayload` check a request and write its fields;
    `payloadFields` are those fields as a plain function.
  * `PaymentToBind` is a request with what the service read for it: it plans the payment and signs
    the figures of the plan.
-/

import Daftar.Inventory.CustomerPayment
import Daftar.Inventory.Payload.Fields

namespace Daftar.Inventory.Customer

open Accounting (toUpperCase CURRENCY_RE)
open Fallible
open Payload

/-! ## 1. Checked fields -/

def invalid (message : String) : ReceivableRefusal :=
  .receivable .customerPaymentAllocationsInvalid message

def uuid (value what : String) : ReceivableResult InventoryPayloadField := do
  refuseIf (CANONICAL_UUID_RE value = false)
    (invalid (what ++ " is not a canonical lowercase uuid"))
  pure (.uuid value)

/-- An id or NULL. -/
def idField : Option String → InventoryPayloadField
  | none => .null
  | some value => .uuid value

def nullable (value : Option String) (what : String) : ReceivableResult InventoryPayloadField :=
  match value with
  | none => .ok .null
  | some value => uuid value what

def RECEIVABLES_REFERENCE_MAX : ℕ := 100

def referenceWords (reference : Option String) : ReceivableResult (List InventoryPayloadField) := do
  let words ← call (documentTextWords reference "reference" 1 RECEIVABLES_REFERENCE_MAX)
  pure (words.map wordField)

inductive RateSource
  | base | manual | provider
  deriving DecidableEq, Repr

def RateSource.text : RateSource → String
  | base => "base"
  | manual => "manual"
  | provider => "provider"

/-- A bound FX snapshot. -/
structure ReceivableRateFields where
  rateId : Option String
  rateR10 : ℤ
  source : RateSource
  rateAtEpochSeconds : ℤ
  deriving DecidableEq, Repr

def DOMESTIC_RATE_R10 : ℤ := 10000000000

/-- A domestic rate is exactly 1 with no registry row; a foreign rate is positive with one. -/
def ReceivableRateFields.Incoherent (rate : ReceivableRateFields) : Prop :=
  if rate.source = .base then rate.rateR10 ≠ DOMESTIC_RATE_R10 ∨ rate.rateId ≠ none
  else rate.rateR10 ≤ 0 ∨ rate.rateId = none

instance (rate : ReceivableRateFields) : Decidable rate.Incoherent := by
  unfold ReceivableRateFields.Incoherent
  infer_instance

def ReceivableRateFields.fields (rate : ReceivableRateFields) : List InventoryPayloadField :=
  [idField rate.rateId, int rate.rateR10, .code rate.source.text, int rate.rateAtEpochSeconds]

def rateFields (rate : ReceivableRateFields) : ReceivableResult (List InventoryPayloadField) := do
  refuseIf rate.Incoherent
    (invalid "a domestic rate is exactly 1 with no registry row; a foreign rate is positive with one")
  let rateId ← nullable rate.rateId "rate_id"
  pure [rateId, int rate.rateR10, .code rate.source.text, int rate.rateAtEpochSeconds]

@[simp] theorem uuid_eq_ok {value what : String} {f : InventoryPayloadField} :
    uuid value what = .ok f ↔ CANONICAL_UUID_RE value = true ∧ .uuid value = f := by
  simp only [uuid, bind_eq_ok, refuseIf_eq_ok, exists_const, pure_eq_ok, Bool.not_eq_false]

@[simp] theorem nullable_eq_ok {value : Option String} {what : String} {f : InventoryPayloadField} :
    nullable value what = .ok f ↔ (∀ v ∈ value, CANONICAL_UUID_RE v = true) ∧ idField value = f := by
  cases value with
  | none => simp [nullable, idField]
  | some v => simp [nullable, idField]

theorem rateFields_eq_ok {rate : ReceivableRateFields} {fs : List InventoryPayloadField} :
    rateFields rate = .ok fs ↔
      ¬ rate.Incoherent ∧ (∀ v ∈ rate.rateId, CANONICAL_UUID_RE v = true) ∧ rate.fields = fs := by
  simp only [rateFields, bind_eq_ok, refuseIf_eq_ok, exists_const, nullable_eq_ok, pure_eq_ok,
    ReceivableRateFields.fields, and_assoc, exists_and_left, exists_eq_left']

/-! ## 2. The intent -/

/-- An allocation as the client states it. -/
structure CollectPaymentIntentAllocation where
  allocationId : String
  invoiceId : String
  paymentAmountMinor : ℤ
  appliedMinor : ℤ
  deriving DecidableEq, Repr

/-- What the client states of a payment, its allocations apart. -/
structure CollectPaymentHeader where
  tenantId : String
  businessId : String
  paymentId : String
  customerId : String
  paymentMethodId : String
  paymentDate : String
  currency : String
  amountMinor : ℤ
  reference : Option String
  creditId : Option String
  deriving DecidableEq, Repr

structure CollectPaymentIntentInput extends CollectPaymentHeader where
  allocations : List CollectPaymentIntentAllocation
  deriving DecidableEq, Repr

def assertAllocations (input : CollectPaymentIntentInput) : ReceivableResult Unit := do
  let a := input.allocations
  refuseIf (a.length > CUSTOMER_PAYMENT_MAX_ALLOCATIONS)
    (invalid "a payment has 0..50 allocations")
  refuseIf (¬ (a.map (·.allocationId)).Nodup ∨ ¬ (a.map (·.invoiceId)).Nodup)
    (invalid "a payment allocates once to each invoice, each allocation with its own id")
  refuseIf (input.amountMinor ≤ 0) (invalid "the payment amount must be positive")
  let total ← a.foldlM (fun total x => do
    refuseIf (x.paymentAmountMinor ≤ 0) (invalid "a payment amount must be positive")
    refuseIf (x.appliedMinor ≤ 0) (invalid "an applied amount must be positive")
    pure (total + x.paymentAmountMinor)) 0
  refuseIf (total > input.amountMinor)
    (invalid "a payment cannot allocate more than it received")
  refuseIf (¬ (total < input.amountMinor ↔ input.creditId ≠ none))
    (invalid "a payment names a credit id exactly when it carries a surplus")

/-- The surplus the request states: its amount less what it allocates, with a credit id. -/
def surplusMinor (input : CollectPaymentIntentInput) : Option ℤ :=
  if input.creditId = none then none
  else
    some (input.amountMinor -
      input.allocations.foldl (fun allocated a => allocated + a.paymentAmountMinor) 0)

def intentAllocationFields (a : CollectPaymentIntentAllocation) :
    ReceivableResult (List InventoryPayloadField) := do
  let allocationId ← uuid a.allocationId "allocation_id"
  let invoiceId ← uuid a.invoiceId "invoice_id"
  pure [allocationId, invoiceId, int a.paymentAmountMinor, int a.appliedMinor]

def collectIntentFields (input : CollectPaymentIntentInput) :
    ReceivableResult (List InventoryPayloadField) := do
  assertAllocations input
  let surplus := surplusMinor input
  let paymentId ← uuid input.paymentId "payment_id"
  let customerId ← uuid input.customerId "customer_id"
  let paymentMethodId ← uuid input.paymentMethodId "payment_method_id"
  let paymentDate ← call (yyyymmdd input.paymentDate)
  let reference ← referenceWords input.reference
  let creditId ← nullable input.creditId "credit_id"
  let groups ← input.allocations.mapM intentAllocationFields
  pure ([paymentId, customerId, paymentMethodId, int paymentDate, code input.currency,
    int input.amountMinor] ++ reference ++
    [creditId, nullableInt surplus, int input.allocations.length] ++ groups.flatten)

def customerCollectPaymentIntentSha256 (input : CollectPaymentIntentInput) :
    ReceivableResult String := do
  let fields ← collectIntentFields input
  call (inventoryIntentSha256 .customerCollectPayment input.tenantId input.businessId fields)

/-! ## 3. The payload -/

/-- An allocation as the server bound it. -/
structure CollectPaymentPayloadAllocation extends CollectPaymentIntentAllocation where
  invoiceCurrency : String
  paymentBaseMinor : ℤ
  arReleasedBeforeMinor : ℤ
  carryingReleasedMinor : ℤ
  arDustBaseMinor : ℤ
  realizedFxMinor : ℤ
  deriving DecidableEq, Repr

/-- The surplus credit's amount and carrying base. -/
structure CollectPaymentCredit where
  originalAmountMinor : ℤ
  originalCarryingBaseMinor : ℤ
  deriving DecidableEq, Repr

structure CollectPaymentPayloadInput extends CollectPaymentHeader where
  postingAccountId : String
  rate : ReceivableRateFields
  baseAmountMinor : ℤ
  credit : Option CollectPaymentCredit
  allocations : List CollectPaymentPayloadAllocation
  deriving DecidableEq, Repr

/-- The request a payload binds. -/
def CollectPaymentPayloadInput.intent (input : CollectPaymentPayloadInput) :
    CollectPaymentIntentInput :=
  ⟨input.toCollectPaymentHeader,
    input.allocations.map (·.toCollectPaymentIntentAllocation)⟩

/-- The base of the allocations, each of them checked. -/
def boundBaseTotal (input : CollectPaymentPayloadInput) : ReceivableResult ℤ :=
  input.allocations.foldlM (fun baseTotal a => do
    refuseIf (a.realizedFxMinor ≠ a.paymentBaseMinor - a.carryingReleasedMinor)
      (invalid "realized must be payment_base - carrying_released")
    refuseIf (toUpperCase a.invoiceCurrency.toList = toUpperCase input.currency.toList ∧
        a.paymentAmountMinor ≠ a.appliedMinor)
      (invalid "a payment in the invoice currency pays exactly what it applies")
    pure (baseTotal + a.paymentBaseMinor)) 0

def payloadAllocationFields (a : CollectPaymentPayloadAllocation) :
    ReceivableResult (List InventoryPayloadField) := do
  let allocationId ← uuid a.allocationId "allocation_id"
  let invoiceId ← uuid a.invoiceId "invoice_id"
  pure [allocationId, invoiceId, code a.invoiceCurrency, int a.paymentAmountMinor,
    int a.paymentBaseMinor, int a.appliedMinor, int a.arReleasedBeforeMinor,
    int a.carryingReleasedMinor, int a.arDustBaseMinor, int a.realizedFxMinor]

def collectPayloadFields (input : CollectPaymentPayloadInput) :
    ReceivableResult (List InventoryPayloadField) := do
  let paymentId ← uuid input.paymentId "payment_id"
  let customerId ← uuid input.customerId "customer_id"
  let paymentMethodId ← uuid input.paymentMethodId "payment_method_id"
  let postingAccountId ← uuid input.postingAccountId "posting_account_id"
  let paymentDate ← call (yyyymmdd input.paymentDate)
  let rate ← rateFields input.rate
  let reference ← referenceWords input.reference
  let creditId ← nullable input.creditId "credit_id"
  let groups ← input.allocations.mapM payloadAllocationFields
  pure ([paymentId, customerId, paymentMethodId, postingAccountId, int paymentDate,
    code input.currency, int input.amountMinor] ++ rate ++ [int input.baseAmountMinor] ++
    reference ++
    [creditId, nullableInt (input.credit.map (·.originalAmountMinor)),
      nullableInt (input.credit.map (·.originalCarryingBaseMinor)), int input.allocations.length] ++
    groups.flatten)

/-- The payload of a payment and the digest of its intent. -/
def customerCollectPaymentPayload (input : CollectPaymentPayloadInput) :
    ReceivableResult (InventoryPayload × String) := do
  let intentSha256 ← customerCollectPaymentIntentSha256 input.intent
  let allocationBase ← boundBaseTotal input
  let baseTotal := allocationBase + ((input.credit.map (·.originalCarryingBaseMinor)).getD 0)
  refuseIf (input.baseAmountMinor ≠ baseTotal)
    (invalid "the payment base must be the sum of the allocation bases and the surplus credit base")
  refuseIf (¬ (input.credit = none ↔ input.creditId = none))
    (invalid "a surplus credit and its id are stated together")
  refuseIf (∃ c ∈ input.credit, some c.originalAmountMinor ≠ surplusMinor input.intent)
    (invalid "the surplus credit must be the payment amount less everything it allocates")
  let fields ← collectPayloadFields input
  let payload ← call (buildInventoryPayload .customerCollectPayment input.tenantId input.businessId
    fields)
  pure (payload, intentSha256)

/-! ## 4. What the checks accept -/

/-- What passes the checks of a request. -/
structure CollectPaymentIntentInput.Lawful (input : CollectPaymentIntentInput) : Prop where
  count : input.allocations.length ≤ CUSTOMER_PAYMENT_MAX_ALLOCATIONS
  ids : (input.allocations.map (·.allocationId)).Nodup
  invoices : (input.allocations.map (·.invoiceId)).Nodup
  amount : 0 < input.amountMinor
  amounts : ∀ a ∈ input.allocations, 0 < a.paymentAmountMinor ∧ 0 < a.appliedMinor
  allocated : (input.allocations.map (·.paymentAmountMinor)).sum ≤ input.amountMinor
  surplus : (input.allocations.map (·.paymentAmountMinor)).sum < input.amountMinor ↔
    input.creditId ≠ none

theorem assertAllocations_eq_ok {input : CollectPaymentIntentInput} {u : Unit} :
    assertAllocations input = .ok u ↔ input.Lawful := by
  have hstep : ∀ (total : ℤ) (x : CollectPaymentIntentAllocation) (r : ℤ),
      (do
        refuseIf (x.paymentAmountMinor ≤ 0) (invalid "a payment amount must be positive")
        refuseIf (x.appliedMinor ≤ 0) (invalid "an applied amount must be positive")
        pure (total + x.paymentAmountMinor) : ReceivableResult ℤ) = .ok r ↔
        (0 < x.paymentAmountMinor ∧ 0 < x.appliedMinor) ∧ total + x.paymentAmountMinor = r := by
    intro total x r
    simp only [bind_eq_ok, refuseIf_eq_ok, exists_const, pure_eq_ok, not_le, and_assoc]
  simp only [assertAllocations, bind_eq_ok, refuseIf_eq_ok, exists_const, foldlM_sum_eq_ok hstep,
    zero_add, not_not, not_or, not_lt, not_le, gt_iff_lt]
  constructor
  · intro h
    obtain ⟨hcount, ⟨hids, hinv⟩, hamount, _, ⟨hall, rfl⟩, hle, hcredit⟩ := h
    exact ⟨hcount, hids, hinv, hamount, hall, hle, hcredit⟩
  · intro h
    exact ⟨h.count, ⟨h.ids, h.invoices⟩, h.amount, _, ⟨h.amounts, rfl⟩, h.allocated, h.surplus⟩

theorem referenceWords_eq_ok {reference : Option String} {fs : List InventoryPayloadField} :
    referenceWords reference = .ok fs ↔ ∃ ws, documentTextWords reference "reference" 1
      RECEIVABLES_REFERENCE_MAX = .ok ws ∧ ws.map wordField = fs := by
  simp only [referenceWords, bind_eq_ok, call_eq_ok, pure_eq_ok]

/-- The ids every allocation states. -/
def CollectPaymentIntentAllocation.Canonical (a : CollectPaymentIntentAllocation) : Prop :=
  CANONICAL_UUID_RE a.allocationId = true ∧ CANONICAL_UUID_RE a.invoiceId = true

/-- The ids of a request that stand before its allocations. -/
structure CollectPaymentHeader.Canonical (h : CollectPaymentHeader) : Prop where
  payment : CANONICAL_UUID_RE h.paymentId = true
  customer : CANONICAL_UUID_RE h.customerId = true
  method : CANONICAL_UUID_RE h.paymentMethodId = true
  credit : ∀ v ∈ h.creditId, CANONICAL_UUID_RE v = true

/-- The lines of an allocation. -/
def CollectPaymentIntentAllocation.fields (a : CollectPaymentIntentAllocation) :
    List InventoryPayloadField :=
  [.uuid a.allocationId, .uuid a.invoiceId, int a.paymentAmountMinor, int a.appliedMinor]

def CollectPaymentPayloadAllocation.payloadFields (a : CollectPaymentPayloadAllocation) :
    List InventoryPayloadField :=
  [.uuid a.allocationId, .uuid a.invoiceId, code a.invoiceCurrency, int a.paymentAmountMinor,
    int a.paymentBaseMinor, int a.appliedMinor, int a.arReleasedBeforeMinor,
    int a.carryingReleasedMinor, int a.arDustBaseMinor, int a.realizedFxMinor]

/-- The header of an intent and of a payload, from the date and the reference's words. -/
def CollectPaymentIntentInput.headerFields (input : CollectPaymentIntentInput) (date : ℤ)
    (words : List (Option ℤ)) : List InventoryPayloadField :=
  [.uuid input.paymentId, .uuid input.customerId, .uuid input.paymentMethodId, int date,
    code input.currency, int input.amountMinor] ++ words.map wordField ++
    [idField input.creditId, nullableInt (surplusMinor input), int input.allocations.length]

def CollectPaymentPayloadInput.headerFields (input : CollectPaymentPayloadInput) (date : ℤ)
    (words : List (Option ℤ)) : List InventoryPayloadField :=
  [.uuid input.paymentId, .uuid input.customerId, .uuid input.paymentMethodId,
    .uuid input.postingAccountId, int date, code input.currency, int input.amountMinor] ++
    input.rate.fields ++ [int input.baseAmountMinor] ++ words.map wordField ++
    [idField input.creditId, nullableInt (input.credit.map (·.originalAmountMinor)),
      nullableInt (input.credit.map (·.originalCarryingBaseMinor)), int input.allocations.length]

theorem intentAllocationFields_eq_ok {a : CollectPaymentIntentAllocation}
    {fs : List InventoryPayloadField} :
    intentAllocationFields a = .ok fs ↔ a.Canonical ∧ a.fields = fs := by
  simp only [intentAllocationFields, bind_eq_ok, uuid_eq_ok, pure_eq_ok, and_assoc,
    exists_and_left, exists_eq_left', CollectPaymentIntentAllocation.Canonical,
    CollectPaymentIntentAllocation.fields]

theorem payloadAllocationFields_eq_ok {a : CollectPaymentPayloadAllocation}
    {fs : List InventoryPayloadField} :
    payloadAllocationFields a = .ok fs ↔
      a.toCollectPaymentIntentAllocation.Canonical ∧ a.payloadFields = fs := by
  simp only [payloadAllocationFields, bind_eq_ok, uuid_eq_ok, pure_eq_ok, and_assoc,
    exists_and_left, exists_eq_left', CollectPaymentIntentAllocation.Canonical,
    CollectPaymentPayloadAllocation.payloadFields]

/-- **The fields of an intent**: a lawful request with canonical ids, a date and a reference. -/
theorem collectIntentFields_eq_ok {input : CollectPaymentIntentInput}
    {fs : List InventoryPayloadField} :
    collectIntentFields input = .ok fs ↔ input.Lawful ∧
      input.toCollectPaymentHeader.Canonical ∧ (∀ a ∈ input.allocations, a.Canonical) ∧
      ∃ date, yyyymmdd input.paymentDate = .ok date ∧ ∃ words, documentTextWords input.reference
        "reference" 1 RECEIVABLES_REFERENCE_MAX = .ok words ∧
        input.headerFields date words ++ (input.allocations.map (·.fields)).flatten = fs := by
  have hgroups := fun a fs => @intentAllocationFields_eq_ok a fs
  simp only [collectIntentFields, bind_eq_ok, assertAllocations_eq_ok, uuid_eq_ok, call_eq_ok,
    referenceWords_eq_ok, nullable_eq_ok, mapM_eq_ok_map hgroups, pure_eq_ok, exists_const]
  constructor
  · intro h
    obtain ⟨hl, _, ⟨hp, rfl⟩, _, ⟨hc, rfl⟩, _, ⟨hm, rfl⟩, date, hdate, _, ⟨words, hwords, rfl⟩, _,
      ⟨hcr, rfl⟩, _, ⟨hall, rfl⟩, rfl⟩ := h
    exact ⟨hl, ⟨hp, hc, hm, hcr⟩, hall, date, hdate, words, hwords, rfl⟩
  · intro h
    obtain ⟨hl, ⟨hp, hc, hm, hcr⟩, hall, date, hdate, words, hwords, rfl⟩ := h
    exact ⟨hl, _, ⟨hp, rfl⟩, _, ⟨hc, rfl⟩, _, ⟨hm, rfl⟩, date, hdate, _, ⟨words, hwords, rfl⟩, _,
      ⟨hcr, rfl⟩, _, ⟨hall, rfl⟩, rfl⟩

/-- **The fields of a payload.** -/
theorem collectPayloadFields_eq_ok {input : CollectPaymentPayloadInput}
    {fs : List InventoryPayloadField} :
    collectPayloadFields input = .ok fs ↔ input.toCollectPaymentHeader.Canonical ∧
      CANONICAL_UUID_RE input.postingAccountId = true ∧
      (¬ input.rate.Incoherent ∧ ∀ v ∈ input.rate.rateId, CANONICAL_UUID_RE v = true) ∧
      (∀ a ∈ input.allocations, a.toCollectPaymentIntentAllocation.Canonical) ∧
      ∃ date, yyyymmdd input.paymentDate = .ok date ∧ ∃ words, documentTextWords input.reference
        "reference" 1 RECEIVABLES_REFERENCE_MAX = .ok words ∧
        input.headerFields date words ++ (input.allocations.map (·.payloadFields)).flatten = fs := by
  have hgroups := fun a fs => @payloadAllocationFields_eq_ok a fs
  simp only [collectPayloadFields, bind_eq_ok, uuid_eq_ok, call_eq_ok, referenceWords_eq_ok,
    rateFields_eq_ok, nullable_eq_ok, mapM_eq_ok_map hgroups, pure_eq_ok]
  constructor
  · intro h
    obtain ⟨_, ⟨hp, rfl⟩, _, ⟨hc, rfl⟩, _, ⟨hm, rfl⟩, _, ⟨hpost, rfl⟩, date, hdate, _,
      ⟨hrate, hrid, rfl⟩, _, ⟨words, hwords, rfl⟩, _, ⟨hcr, rfl⟩, _, ⟨hall, rfl⟩, rfl⟩ := h
    exact ⟨⟨hp, hc, hm, hcr⟩, hpost, ⟨hrate, hrid⟩, hall, date, hdate, words, hwords, rfl⟩
  · intro h
    obtain ⟨⟨hp, hc, hm, hcr⟩, hpost, ⟨hrate, hrid⟩, hall, date, hdate, words, hwords, rfl⟩ := h
    exact ⟨_, ⟨hp, rfl⟩, _, ⟨hc, rfl⟩, _, ⟨hm, rfl⟩, _, ⟨hpost, rfl⟩, date, hdate, _,
      ⟨hrate, hrid, rfl⟩, _, ⟨words, hwords, rfl⟩, _, ⟨hcr, rfl⟩, _, ⟨hall, rfl⟩, rfl⟩

/-- What passes the checks of one bound allocation. -/
def CollectPaymentPayloadAllocation.Bound (a : CollectPaymentPayloadAllocation)
    (currency : String) : Prop :=
  a.realizedFxMinor = a.paymentBaseMinor - a.carryingReleasedMinor ∧
    (toUpperCase a.invoiceCurrency.toList = toUpperCase currency.toList →
      a.paymentAmountMinor = a.appliedMinor)

theorem boundBaseTotal_eq_ok {input : CollectPaymentPayloadInput} {r : ℤ} :
    boundBaseTotal input = .ok r ↔ (∀ a ∈ input.allocations, a.Bound input.currency) ∧
      (input.allocations.map (·.paymentBaseMinor)).sum = r := by
  have hstep : ∀ (baseTotal : ℤ) (a : CollectPaymentPayloadAllocation) (r : ℤ),
      (do
        refuseIf (a.realizedFxMinor ≠ a.paymentBaseMinor - a.carryingReleasedMinor)
          (invalid "realized must be payment_base - carrying_released")
        refuseIf (toUpperCase a.invoiceCurrency.toList = toUpperCase input.currency.toList ∧
            a.paymentAmountMinor ≠ a.appliedMinor)
          (invalid "a payment in the invoice currency pays exactly what it applies")
        pure (baseTotal + a.paymentBaseMinor) : ReceivableResult ℤ) = .ok r ↔
        a.Bound input.currency ∧ baseTotal + a.paymentBaseMinor = r := by
    intro baseTotal a r
    simp only [bind_eq_ok, refuseIf_eq_ok, exists_const, pure_eq_ok, not_not, ne_eq, not_and,
      CollectPaymentPayloadAllocation.Bound, and_assoc]
  rw [boundBaseTotal, foldlM_sum_eq_ok hstep, zero_add]

end Daftar.Inventory.Customer
