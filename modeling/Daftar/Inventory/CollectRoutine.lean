/-
  File: Daftar/Inventory/CollectRoutine.lean
  Subject: The database routine of a customer payment, up to what it inserts.

  * `CollectRequest` and `CollectFigures` are its arguments: what a request states, and the figures
    derived from it that its caller signed.
  * `customerCollectPayment`: the shape and the closure, the invoices, the facts of the payment, and
    the recomputation of every figure (`collectRecompute`).
  * `recomputeAllocation_eq_ok`, `recomputeLoop_eq_ok`, `collectRecompute_eq_ok`: what the
    recomputation asks of the figures.
-/

import Daftar.Accounting.Fingerprint
import Daftar.Inventory.InvoiceOutstanding
import Daftar.Inventory.SettlementGuards

namespace Daftar.Inventory.Receivables

open Accounting (CURRENCY_RE)
open Fallible
open Rounding
open Tables

/-! ## 1. Arguments and tables -/

/-- An allocation: what the request states of it, and the currency of its invoice. -/
structure CollectAllocation where
  allocationId : Uuid
  invoiceId : Uuid
  invoiceCurrency : String
  paymentAmountMinor : ℤ
  appliedMinor : ℤ
  deriving DecidableEq

/-- The arguments that are no derived figure. The arrays are read row by row, so they are of one
    length and hold no NULL. -/
structure CollectRequest where
  customerId : Uuid
  paymentMethodId : Uuid
  postingAccountId : Uuid
  paymentDate : ℤ
  currencyCode : String
  amountMinor : ℤ
  rateId : Option Uuid
  rate : ℚ
  rateSource : String
  rateAt : ℤ
  reference : Option String
  allocations : List CollectAllocation
  deriving DecidableEq

/-- The signed figures of an allocation. -/
structure AllocationFigures where
  paymentBaseMinor : ℤ
  releasedBeforeMinor : ℤ
  carryingReleasedMinor : ℤ
  arDustMinor : ℤ
  realizedMinor : ℤ
  deriving DecidableEq

/-- The signed figures of a payment, and its surplus credit. -/
structure CollectFigures where
  allocations : List AllocationFigures
  creditId : Option Uuid
  creditAmountMinor : Option ℤ
  creditCarryingBaseMinor : Option ℤ
  baseAmountMinor : ℤ
  deriving DecidableEq

structure CustomerRow where
  id : Uuid
  active : Bool

structure PaymentMethodRow where
  id : Uuid
  isActive : Bool
  postingAccountId : Uuid
  requiresReference : Bool

/-- The business as the routine reads it. -/
structure CollectDb extends ReceivableDb where
  baseCurrency : String
  currencies : Table CurrencyRecord.code
  customers : Table CustomerRow.id
  paymentMethods : Table PaymentMethodRow.id
  allocationIds : List Uuid
  creditIds : List Uuid

def CollectDb.minorUnits (db : CollectDb) (code : String) : Option ℤ :=
  (db.currencies.find? code).map CurrencyRecord.minorUnits

/-- A rate of the registry. -/
structure RateSnapshot where
  rateId : Option Uuid
  rate : ℚ
  source : String
  effectiveAt : ℤ
  deriving DecidableEq

/-- What the routine asks of accounting and of the clock. -/
structure CollectCatalog where
  today : ℤ
  settlementAccountEligibility : Uuid → String
  purchaseFxRate : String → ℤ → Routine RateSnapshot

/-! ## 2. Shape and closure -/

/-- The arguments of type BIGINT. -/
def bigintArguments (q : CollectRequest) (f : CollectFigures) : List ℤ :=
  [q.amountMinor, f.baseAmountMinor] ++ f.creditAmountMinor.toList ++
    f.creditCarryingBaseMinor.toList ++
    q.allocations.flatMap (fun a => [a.paymentAmountMinor, a.appliedMinor]) ++
    f.allocations.flatMap fun a => [a.paymentBaseMinor, a.releasedBeforeMinor,
      a.carryingReleasedMinor, a.arDustMinor, a.realizedMinor]

def allocationsShape : SqlError :=
  .raised ("customer_payment.allocations_invalid: a payment is allocated to 0..50 distinct open " ++
    "invoices in positive amounts, with an optional trimmed reference")

def closureInvalid : SqlError :=
  .raised ("customer_payment.closure_invalid: the allocated amounts and the surplus credit are " ++
    "exactly the payment amount")

def idsUsed : SqlError :=
  .raised ("customer_payment.allocations_invalid: an allocation id or the credit id is already " ++
    "used by another document")

/-- `btrim(text)`: without the spaces at both ends. -/
def btrim (text : String) : String :=
  String.ofList (((text.toList.dropWhile (· = ' ')).reverse.dropWhile (· = ' ')).reverse)

/-- A reference that is not trimmed or not of 1..100 characters. -/
def ReferenceInvalid (reference : String) : Prop :=
  reference ≠ btrim reference ∨ reference.length < 1 ∨ 100 < reference.length

instance (reference : String) : Decidable (ReferenceInvalid reference) :=
  inferInstanceAs (Decidable (_ ∨ _ ∨ _))

def collectShape (q : CollectRequest) (f : CollectFigures) : Routine Unit := do
  let n := q.allocations.length
  refuseIf (n > 50 ∨ f.allocations.length ≠ n ∨
    ¬ (q.allocations.map (·.allocationId)).Nodup ∨ ¬ (q.allocations.map (·.invoiceId)).Nodup ∨
    q.amountMinor ≤ 0 ∨ (∃ a ∈ q.allocations, a.paymentAmountMinor ≤ 0) ∨
    (∃ a ∈ q.allocations, a.appliedMinor ≤ 0) ∨
    ∃ r ∈ q.reference, ReferenceInvalid r) allocationsShape
  let sumPa := (q.allocations.map (·.paymentAmountMinor)).sum
  refuseIf (¬ (f.creditId = none ↔ f.creditAmountMinor = none) ∨
    ¬ (f.creditId = none ↔ f.creditCarryingBaseMinor = none) ∨
    (∃ c ∈ f.creditAmountMinor, c ≤ 0) ∨ (∃ c ∈ f.creditCarryingBaseMinor, c ≤ 0) ∨
    sumPa + f.creditAmountMinor.getD 0 ≠ q.amountMinor) closureInvalid

def collectIdsFree (db : CollectDb) (q : CollectRequest) (f : CollectFigures) : Routine Unit :=
  refuseIf ((∃ a ∈ q.allocations, a.allocationId ∈ db.allocationIds) ∨
    ∃ c ∈ f.creditId, c ∈ db.creditIds) idsUsed

/-! ## 3. Invoices and facts -/

def walkinNotSettleable : SqlError :=
  .raised ("invoice_settlement.walkin_not_settleable: a walk-in invoice carries no customer and " ++
    "is settled by nothing")

def customerMismatch : SqlError :=
  .raised ("invoice_settlement.customer_mismatch: a payment settles invoices of its own " ++
    "customer only")

def invoiceStateInvalid : SqlError :=
  .raised "customer_payment.invoice_state_invalid: only an open invoice is settled"

def cashNotSettleable : SqlError :=
  .raised ("invoice_settlement.cash_not_settleable: a cash-settled invoice carries no receivable " ++
    "and is settled by nothing")

def settlementChanged (what : String) : SqlError :=
  .raised ("customer_payment.settlement_changed: " ++ what)

/-- The checks of an allocated invoice, in array order. -/
def collectInvoice (db : CollectDb) (q : CollectRequest) (a : CollectAllocation) :
    Routine Unit := do
  let i ← someOr (db.invoices.find? a.invoiceId) invoiceNotFound
  refuseIf (i.customerId = none) walkinNotSettleable
  refuseIf (i.customerId ≠ some q.customerId) customerMismatch
  refuseIf (i.status ≠ .issued) invoiceStateInvalid
  refuseIf ((db.sales.find? i.saleId).map (·.settlementMode) = some .cash) cashNotSettleable
  refuseIf (i.currencyCode ≠ a.invoiceCurrency)
    (settlementChanged "an invoice changed since the payment was prepared")

def collectInvoices (db : CollectDb) (q : CollectRequest) : Routine Unit := do
  let ids := q.allocations.map (·.invoiceId)
  refuseIf ((db.invoices.rows.filter fun i => i.id ∈ ids).length ≠ ids.length) invoiceNotFound
  q.allocations.forM (collectInvoice db q)

def collectCustomer (db : CollectDb) (q : CollectRequest) : Routine Unit := do
  let c ← someOr (db.customers.find? q.customerId)
    (.raised "customer.not_found: the customer does not exist in this business")
  refuseIf (c.active = false)
    (.raised ("customer_payment.customer_inactive: a customer payment is collected from an " ++
      "active customer"))

def collectMethod (db : CollectDb) (cat : CollectCatalog) (q : CollectRequest) : Routine Unit := do
  let m ← someOr (db.paymentMethods.find? q.paymentMethodId)
    (.raised "payment_method.not_found: the payment method does not exist in this business")
  refuseIf (m.isActive = false)
    (.raised ("payment_method.inactive: a customer payment is collected through an active " ++
      "payment method"))
  refuseIf (m.postingAccountId ≠ q.postingAccountId)
    (settlementChanged ("the payment method's posting account changed since the payment was " ++
      "prepared"))
  refuseIf (cat.settlementAccountEligibility m.postingAccountId ≠ "eligible")
    (.raised ("payment_method.posting_account_ineligible: a payment method posts to an active " ++
      "settlement asset account of its business"))
  refuseIf (m.requiresReference = true ∧ q.reference = none)
    (.raised "customer_payment.reference_required: this payment method requires a reference")

def collectDates (db : CollectDb) (cat : CollectCatalog) (q : CollectRequest) : Routine Unit := do
  refuseIf (∃ i ∈ db.invoices.rows, i.id ∈ q.allocations.map (·.invoiceId) ∧
      i.issueDate > q.paymentDate)
    (.raised ("customer_payment.date_before_invoice: a payment is dated on or after every " ++
      "invoice it settles"))
  refuseIf (q.paymentDate > cat.today)
    (.raised ("customer_payment.date_in_future: a payment is dated on or before today in the " ++
      "business timezone"))

/-- The rate of the payment: a domestic one is 1, at midnight UTC. -/
def paymentRate (db : CollectDb) (cat : CollectCatalog) (q : CollectRequest) :
    Routine RateSnapshot :=
  if q.currencyCode = db.baseCurrency then .ok ⟨none, 1, "base", q.paymentDate * 86400⟩
  else cat.purchaseFxRate q.currencyCode q.paymentDate

/-- The rate of the payment, which the arguments must name. -/
def collectRate (db : CollectDb) (cat : CollectCatalog) (q : CollectRequest) : Routine ℚ := do
  refuseIf (CURRENCY_RE q.currencyCode.toList = false ∨ db.currencies.find? q.currencyCode = none)
    (.raised "purchase.currency_unknown: the payment currency is not a registered currency")
  let fx ← paymentRate db cat q
  refuseIf (q.rateId ≠ fx.rateId ∨ q.rate ≠ fx.rate ∨ q.rateSource ≠ fx.source ∨
      q.rateAt ≠ fx.effectiveAt)
    (.raised ("customer_payment.fx_rate_changed: the exchange rate changed since the payment was " ++
      "prepared"))
  pure fx.rate

/-! ## 4. The recomputation -/

def amountExceedsOutstanding : SqlError :=
  .raised ("customer_payment.amount_exceeds_outstanding: an allocation applies more than the " ++
    "invoice's outstanding amount")

def amountMismatch : SqlError :=
  .raised ("customer_payment.amount_mismatch: in the invoice's own currency the paid and applied " ++
    "amounts are equal")

def amountBelowBaseUnit (what : String) : SqlError :=
  .raised ("customer_payment.amount_below_base_unit: " ++ what ++
    " converts to less than one base minor unit")

def residueBelowBaseUnit : SqlError :=
  .raised ("customer_payment.residue_below_base_unit: an allocation would leave the invoice an " ++
    "outstanding amount converting to less than one base minor unit")

/-- `v_outs`: one call for all ids, its rows joined back to the ids in their order. -/
def allocatedOutstandings (db : ReceivableDb) (ids : List Uuid) : Routine (List ℤ) := do
  let rows ← invoiceOutstanding db ids
  pure (ids.flatMap fun id =>
    (rows.filter fun o => o.invoiceId = id).map (·.outstandingTxnMinor))

/-- One turn of the loop, `o` the array element of the allocation. A comparison with NULL refuses
    nothing; the arithmetic refuses a NULL. -/
def recomputeAllocation (db : CollectDb) (currency : String) (rate : ℚ) (a : CollectAllocation)
    (f : AllocationFigures) (o : Option ℤ) : Routine ℤ := do
  let q ← someOr (db.invoices.find? a.invoiceId) apReleaseNeeds
  refuseIf (∃ v ∈ o, a.appliedMinor > v) amountExceedsOutstanding
  refuseIf (currency = q.currencyCode ∧ a.paymentAmountMinor ≠ a.appliedMinor) amountMismatch
  let o ← someOr o apReleaseNeeds
  let x := q.totalTxnMinor - o
  let rel ← supplierApRelease q.totalBaseMinor q.totalTxnMinor x a.appliedMinor
  let et ← someOr (db.minorUnits q.currencyCode) conversionNeeds
  let eb ← someOr (db.minorUnits db.baseCurrency) conversionNeeds
  let conv ← supplierConvertBase a.appliedMinor q.sourceToBaseRate et eb
  let ep ← someOr (db.minorUnits currency) conversionNeeds
  let pb ← supplierConvertBase a.paymentAmountMinor rate ep eb
  refuseIf (conv = 0 ∨ pb = 0) (amountBelowBaseUnit "an allocated amount")
  residueGuard (o - a.appliedMinor) q.sourceToBaseRate et eb residueBelowBaseUnit
  refuseIf (f.releasedBeforeMinor ≠ x ∨ f.carryingReleasedMinor ≠ rel ∨
      f.arDustMinor ≠ rel - conv ∨ f.paymentBaseMinor ≠ pb ∨ f.realizedMinor ≠ pb - rel)
    (settlementChanged "an invoice's outstanding amount changed since the payment was prepared")
  pure pb

/-- The loop over the allocations, the sum of their payment bases carried along. -/
def recomputeLoop (db : CollectDb) (currency : String) (rate : ℚ) (outs : List ℤ)
    (rows : List (CollectAllocation × AllocationFigures)) : Routine ℤ :=
  rows.zipIdx.foldlM (fun sumPb p => do
    let pb ← recomputeAllocation db currency rate p.1.1 p.1.2 outs[p.2]?
    pure (sumPb + pb)) 0

/-- The base of the surplus credit, 0 without one. -/
def recomputeCredit (db : CollectDb) (currency : String) (rate : ℚ) (f : CollectFigures) :
    Routine ℤ :=
  if f.creditId = none then .ok 0
  else do
    let amount ← someOr f.creditAmountMinor conversionNeeds
    let ep ← someOr (db.minorUnits currency) conversionNeeds
    let eb ← someOr (db.minorUnits db.baseCurrency) conversionNeeds
    let cb ← supplierConvertBase amount rate ep eb
    refuseIf (cb = 0) (amountBelowBaseUnit "a surplus credit")
    refuseIf (∃ c ∈ f.creditCarryingBaseMinor, c ≠ cb)
      (settlementChanged ("the surplus credit's carrying base changed since the payment was " ++
        "prepared"))
    pure cb

/-- The recomputation of every figure, under the locks. -/
def collectRecompute (db : CollectDb) (rate : ℚ) (q : CollectRequest) (f : CollectFigures) :
    Routine Unit := do
  let outs ← allocatedOutstandings db.toReceivableDb (q.allocations.map (·.invoiceId))
  let sumPb ← recomputeLoop db q.currencyCode rate outs (q.allocations.zip f.allocations)
  let cb ← recomputeCredit db q.currencyCode rate f
  refuseIf (sumPb + cb ≠ f.baseAmountMinor)
    (settlementChanged ("the payment base is not the sum of its allocations' bases and its " ++
      "surplus credit's carrying base"))

/-- `customer_collect_payment` for a payment that is not recorded yet, up to its inserts. -/
def customerCollectPayment (db : CollectDb) (cat : CollectCatalog) (q : CollectRequest)
    (f : CollectFigures) : Routine Unit := do
  refuseIf (∃ v ∈ bigintArguments q f, ¬ IsBigint v) .bigintOutOfRange
  collectShape q f
  collectIdsFree db q f
  collectInvoices db q
  collectCustomer db q
  collectMethod db cat q
  collectDates db cat q
  let rate ← collectRate db cat q
  collectRecompute db rate q f

end Daftar.Inventory.Receivables
