/-
  File: Daftar/Inventory/CustomerSettlement.lean
  Subject: The customer-settlement arithmetic: the receivable mirror of the supplier plans.

  * The primitives are the supplier's; a refusal is either one of theirs or one of this module's
    own codes (`ReceivableRefusal`).
  * `arSide` and `creditSide` read the invoice and the credit as the supplier sides do
    (`InvoiceArState.ap`, `CustomerCreditState.note`); the entry lines have their sides flipped.
  * Plans: `planCustomerPaymentAllocation`, `planCustomerCreditCreation`,
    `planCustomerCreditApplication`, each a draft followed by `balanced`.
-/

import Daftar.Inventory.SupplierSettlement

namespace Daftar.Inventory.Customer

open Fallible
open Rounding
open DoubleEntry

/-! ## 1. Refusals and primitives -/

/-- A refusal of this arithmetic, or one raised by a primitive it calls. -/
inductive ReceivableRefusal
  | inventory (error : InventoryError)
  | receivable (code : InventoryErrorCode) (message : String)
  deriving DecidableEq, Repr

abbrev ReceivableResult (α : Type) := Except ReceivableRefusal α

/-- Calls a primitive of the inventory package. -/
def call {α : Type} : Result α → ReceivableResult α
  | .ok a => .ok a
  | .error e => .error (.inventory e)

@[simp] theorem call_eq_ok {α : Type} {x : Result α} {a : α} : call x = .ok a ↔ x = .ok a := by
  cases x with
  | ok b => simp [call]
  | error e => simp [call]

/-- An amount of this module, refused under its own code. -/
def assertMinor (v : ℤ) (what : String) (min : ℤ) : ReceivableResult Unit :=
  refuseIf (v < min ∨ v > VALUE_LIMIT_MINOR)
    (.receivable .customerPaymentArithmeticInvalid
      (what ++ " must be an integer amount within range"))

@[simp] theorem assertMinor_eq_ok {v min : ℤ} {what : String} {u : Unit} :
    assertMinor v what min = .ok u ↔ IsMinor min v := by
  simp [assertMinor, IsMinor]

/-- A stored FX snapshot: the same three numbers as a supplier document's. -/
abbrev ReceivableConversion := SettlementConversion

/-- An amount in base, at a stored snapshot. -/
def convert (x : ℤ) (c : ReceivableConversion) : ReceivableResult ℤ :=
  call (convertToBase x c.rateR10 c.txnExponent c.baseExponent)

/-- It accepts what the supplier module accepts. -/
theorem convert_eq_ok {x b : ℤ} {c : ReceivableConversion} :
    convert x c = .ok b ↔ IsMinor 0 x ∧ c.Valid ∧ c.base x = b :=
  call_eq_ok.trans Inventory.convert_eq_ok

/-- What remains would convert to nothing, and could never be paid. -/
def strands (remainingMinor : ℤ) (c : ReceivableConversion) : ReceivableResult Bool :=
  if remainingMinor > 0 then (fun b => decide (b = 0)) <$> convert remainingMinor c
  else .ok false

/-! ## 2. Sides -/

/-- The AR side of an invoice at the moment a reducer computes from it. -/
structure InvoiceArState where
  totalTxnMinor : ℤ
  totalBaseMinor : ℤ
  outstandingTxnMinor : ℤ
  conversion : ReceivableConversion
  deriving DecidableEq, Repr

/-- The credit side of a customer credit at the moment a consumer computes from it. -/
structure CustomerCreditState where
  originalMinor : ℤ
  originalCarryingMinor : ℤ
  remainingMinor : ℤ
  conversion : ReceivableConversion
  deriving DecidableEq, Repr

/-- An invoice's receivable read as a payable, and a customer credit as a credit note. -/
def InvoiceArState.ap (i : InvoiceArState) : PurchaseApState :=
  ⟨i.totalTxnMinor, i.totalBaseMinor, i.outstandingTxnMinor, i.conversion⟩

/-- The same of a credit. -/
def CustomerCreditState.note (c : CustomerCreditState) : CreditNoteState :=
  ⟨c.originalMinor, c.originalCarryingMinor, c.remainingMinor, c.conversion⟩

/-- What a reducer takes from an invoice, with its release and its dust. -/
structure ArSide where
  invoiceAmountAppliedMinor : ℤ
  arReleasedBeforeMinor : ℤ
  invoiceCarryingReleasedMinor : ℤ
  arConvertedMinor : ℤ
  arDustBaseMinor : ℤ
  deriving DecidableEq, Repr

/-- What a consumer takes from a credit, and what it leaves. -/
structure CreditSide where
  creditAmountConsumedMinor : ℤ
  creditRemainingBeforeMinor : ℤ
  creditCarryingReleasedMinor : ℤ
  creditConvertedMinor : ℤ
  creditDustBaseMinor : ℤ
  remainingAfterMinor : ℤ
  remainingCarryingAfterMinor : ℤ
  deriving DecidableEq, Repr

/-- The commands that reduce AR. -/
inductive ArDomain
  | customerPayment
  | customerCreditApplication
  deriving DecidableEq, Repr

namespace ArDomain

/-- Each command has codes of its own for the same three refusals. -/
def amountInvalid : ArDomain → InventoryErrorCode
  | .customerPayment => .customerPaymentAmountInvalid
  | .customerCreditApplication => .customerCreditApplicationAmountInvalid

def amountExceedsOutstanding : ArDomain → InventoryErrorCode
  | .customerPayment => .customerPaymentAmountExceedsOutstanding
  | .customerCreditApplication => .customerCreditApplicationAmountExceedsOutstanding

def amountBelowBaseUnit : ArDomain → InventoryErrorCode
  | .customerPayment => .customerPaymentAmountBelowBaseUnit
  | .customerCreditApplication => .customerCreditApplicationAmountBelowBaseUnit

end ArDomain

/-- The applied amount against the invoice: its carrying value, its conversion, and the dust. -/
def arSide (domain : ArDomain) (invoice : InvoiceArState) (appliedMinor : ℤ) :
    ReceivableResult ArSide := do
  assertMinor invoice.totalTxnMinor "an invoice txn total" 1
  assertMinor invoice.totalBaseMinor "an invoice base total" 0
  assertMinor invoice.outstandingTxnMinor "an outstanding AR" 0
  refuseIf (invoice.outstandingTxnMinor > invoice.totalTxnMinor)
    (.receivable .customerPaymentArithmeticInvalid
      "the outstanding AR exceeds the invoice total")
  refuseIf (appliedMinor ≤ 0)
    (.receivable domain.amountInvalid "an applied amount must be positive")
  refuseIf (appliedMinor > invoice.outstandingTxnMinor)
    (.receivable domain.amountExceedsOutstanding
      "the applied amount exceeds the outstanding AR of the invoice")
  let arReleasedBeforeMinor := invoice.totalTxnMinor - invoice.outstandingTxnMinor
  let invoiceCarryingReleasedMinor ← call (apRelease invoice.totalBaseMinor invoice.totalTxnMinor
    arReleasedBeforeMinor appliedMinor)
  let arConvertedMinor ← convert appliedMinor invoice.conversion
  refuseIf (arConvertedMinor = 0)
    (.receivable domain.amountBelowBaseUnit
      "the applied amount converts to less than one base minor unit")
  pure
    { invoiceAmountAppliedMinor := appliedMinor, arReleasedBeforeMinor
      invoiceCarryingReleasedMinor, arConvertedMinor
      arDustBaseMinor := invoiceCarryingReleasedMinor - arConvertedMinor }

/-- The consumed amount against the credit, likewise. -/
def creditSide (credit : CustomerCreditState) (consumedMinor : ℤ) :
    ReceivableResult CreditSide := do
  assertMinor credit.originalMinor "a credit original amount" 1
  assertMinor credit.originalCarryingMinor "a credit original carrying" 1
  assertMinor credit.remainingMinor "a credit remaining amount" 0
  refuseIf (credit.remainingMinor > credit.originalMinor)
    (.receivable .customerPaymentArithmeticInvalid
      "a remaining credit exceeds the original credit")
  refuseIf (credit.remainingMinor = 0)
    (.receivable .customerCreditApplicationCreditExhausted
      "the customer credit has nothing remaining")
  refuseIf (consumedMinor ≤ 0)
    (.receivable .customerCreditApplicationAmountInvalid "a consumed amount must be positive")
  refuseIf (consumedMinor > credit.remainingMinor)
    (.receivable .customerCreditApplicationAmountExceedsCredit
      "the consumed amount exceeds the remaining credit")
  let creditCarryingReleasedMinor ← call (creditRelease credit.originalMinor
    credit.originalCarryingMinor credit.remainingMinor consumedMinor)
  let creditConvertedMinor ← convert consumedMinor credit.conversion
  refuseIf (creditConvertedMinor = 0)
    (.receivable .customerCreditApplicationAmountBelowBaseUnit
      "the consumed amount converts to less than one base minor unit")
  let remainingAfterMinor := credit.remainingMinor - consumedMinor
  let remainingCarryingAfterMinor ← call (creditRemainingCarrying credit.originalMinor
    credit.originalCarryingMinor remainingAfterMinor)
  pure
    { creditAmountConsumedMinor := consumedMinor
      creditRemainingBeforeMinor := credit.remainingMinor, creditCarryingReleasedMinor
      creditConvertedMinor
      creditDustBaseMinor := creditCarryingReleasedMinor - creditConvertedMinor
      remainingAfterMinor, remainingCarryingAfterMinor }

/-- The sides as plain functions: the supplier's, under this module's names. -/
def InvoiceArState.side (i : InvoiceArState) (a : ℤ) : ArSide :=
  let s := i.ap.side a
  ⟨s.appliedMinor, s.releasedBeforeMinor, s.carryingReleasedMinor, s.apConvertedMinor,
    s.apDustBaseMinor⟩

/-- The same of a credit. -/
def CustomerCreditState.side (c : CustomerCreditState) (x : ℤ) : CreditSide :=
  let s := c.note.side x
  ⟨s.consumedMinor, s.remainingBeforeMinor, s.creditReleasedMinor, s.creditConvertedMinor,
    s.creditDustBaseMinor, s.remainingAfterMinor, s.remainingCarryingAfterMinor⟩

/-- **A side of an invoice is accepted** where its figures are in range, the amount is outstanding
    and it converts to something. -/
theorem arSide_eq_ok {d : ArDomain} {i : InvoiceArState} {a : ℤ} {s : ArSide} :
    arSide d i a = .ok s ↔ i.ap.InRange ∧ (0 < a ∧ a ≤ i.outstandingTxnMinor) ∧
      i.conversion.Valid ∧ i.conversion.base a ≠ 0 ∧ i.side a = s := by
  simp only [arSide, bind_eq_ok, assertMinor_eq_ok, refuseIf_eq_ok, exists_const, call_eq_ok,
    apRelease_eq_ok, convert_eq_ok, pure_eq_ok, not_lt, not_le, gt_iff_lt]
  constructor
  · rintro ⟨ht, hb, ho, hle, ha, hao, rel, ⟨_, _, _, _, _, rfl⟩, b, ⟨_, hc, rfl⟩, hne, rfl⟩
    exact ⟨⟨ht, hb, ho, hle⟩, ⟨ha, hao⟩, hc, hne, rfl⟩
  · rintro ⟨⟨ht, hb, ho, hle⟩, ⟨ha, hao⟩, hc, hne, rfl⟩
    have ht' : i.totalTxnMinor ≤ VALUE_LIMIT_MINOR := ht.2
    have ho1 : 0 ≤ i.outstandingTxnMinor := ho.1
    have hle' : i.outstandingTxnMinor ≤ i.totalTxnMinor := hle
    refine ⟨ht, hb, ho, hle, ha, hao, _, ⟨hb, ht, ⟨?_, ?_⟩, ⟨?_, ?_⟩, ?_, rfl⟩, _,
      ⟨⟨?_, ?_⟩, hc, rfl⟩, hne, rfl⟩ <;> omega

/-- **A side of a credit is accepted** under the same conditions. -/
theorem creditSide_eq_ok {n : CustomerCreditState} {c : ℤ} {s : CreditSide} :
    creditSide n c = .ok s ↔ n.note.InRange ∧ (0 < c ∧ c ≤ n.remainingMinor) ∧
      n.conversion.Valid ∧ n.conversion.base c ≠ 0 ∧ n.side c = s := by
  simp only [creditSide, bind_eq_ok, assertMinor_eq_ok, refuseIf_eq_ok, exists_const, call_eq_ok,
    creditRelease_eq_ok, creditRemainingCarrying_eq_ok, convert_eq_ok, pure_eq_ok, not_lt, not_le,
    gt_iff_lt]
  constructor
  · rintro ⟨ho, hc, hr, hle, _, hpos, hcr, rel, ⟨_, _, _, _, _, _, rfl⟩, b, ⟨_, hv, rfl⟩, hne, k,
      ⟨_, _, _, _, rfl⟩, rfl⟩
    exact ⟨⟨ho, hc, hr, hle⟩, ⟨hpos, hcr⟩, hv, hne, rfl⟩
  · rintro ⟨⟨ho, hc, hr, hle⟩, ⟨hpos, hcr⟩, hv, hne, rfl⟩
    have hr2 : n.remainingMinor ≤ VALUE_LIMIT_MINOR := hr.2
    have hle' : n.remainingMinor ≤ n.originalMinor := hle
    refine ⟨ho, hc, hr, hle, by omega, hpos, hcr, _, ⟨⟨by omega, by omega⟩, hcr, ho, hc, hr, hle,
      rfl⟩, _, ⟨⟨by omega, by omega⟩, hv, rfl⟩, hne, _, ⟨ho, hc, ⟨by omega, by omega⟩, by omega,
      rfl⟩, rfl⟩

/-! ## 3. Entry lines -/

/-- The accounts a settlement posts to. -/
inductive ReceivableAccount
  | accountsReceivable
  | customerCreditLiability
  | fxGain
  | fxLoss
  | postingAccount
  deriving DecidableEq, Repr

/-- Which document's currency a line is in. -/
inductive ReceivableCurrency
  | invoice
  | credit
  | payment
  | base
  deriving DecidableEq, Repr

/-- A line of the entry; its account and currency are roles, resolved when it is posted. -/
structure ReceivableEntryLine where
  account : ReceivableAccount
  side : Side
  currency : ReceivableCurrency
  txnAmountMinor : ℤ
  baseAmountMinor : ℤ
  deriving DecidableEq, Repr

/-- A line in base alone, as dust and differences are. -/
def baseLine (account : ReceivableAccount) (side : Side) (amount : ℤ) : ReceivableEntryLine :=
  ⟨account, side, .base, amount, amount⟩

/-- The lines as they are, if they are positive and balance. -/
def balanced (lines : List ReceivableEntryLine) : ReceivableResult (List ReceivableEntryLine) := do
  let balance ← runningBalance ReceivableEntryLine.side ReceivableEntryLine.baseAmountMinor
    (fun l => l.baseAmountMinor ≤ 0 ∨ l.txnAmountMinor ≤ 0)
    (.receivable .customerPaymentArithmeticInvalid "an entry line carries positive amounts") 0 lines
  refuseIf (balance ≠ 0)
    (.receivable .customerPaymentArithmeticInvalid "a settlement entry must balance")
  pure lines

/-- The receivable falls by what converts, and by the dust beside it. -/
def arLines (ar : ArSide) : List ReceivableEntryLine :=
  [⟨.accountsReceivable, .C, .invoice, ar.invoiceAmountAppliedMinor, ar.arConvertedMinor⟩] ++
    if ar.arDustBaseMinor ≠ 0 then
      [baseLine .accountsReceivable (if ar.arDustBaseMinor > 0 then .C else .D)
        |ar.arDustBaseMinor|]
    else []

/-- The liability falls by what converts, and by the dust beside it. -/
def creditLines (cr : CreditSide) : List ReceivableEntryLine :=
  [⟨.customerCreditLiability, .D, .credit, cr.creditAmountConsumedMinor,
      cr.creditConvertedMinor⟩] ++
    if cr.creditDustBaseMinor ≠ 0 then
      [baseLine .customerCreditLiability (if cr.creditDustBaseMinor > 0 then .D else .C)
        |cr.creditDustBaseMinor|]
    else []

/-- A difference of the two rates is a gain or a loss. -/
def realizedLines (realizedMinor : ℤ) : List ReceivableEntryLine :=
  if realizedMinor = 0 then []
  else
    [baseLine (if realizedMinor > 0 then .fxGain else .fxLoss)
      (if realizedMinor > 0 then .C else .D) |realizedMinor|]

/-! ## 4. The plans -/

/-- An amount paid, and what it settles of one invoice. -/
structure CustomerPaymentAllocationInput where
  invoice : InvoiceArState
  sameCurrency : Bool
  paymentAmountMinor : ℤ
  payment : ReceivableConversion
  appliedMinor : ℤ
  deriving DecidableEq, Repr

/-- The figures of an allocation and the lines that post it. -/
structure CustomerPaymentAllocationPlan extends ArSide where
  paymentAmountMinor : ℤ
  paymentBaseMinor : ℤ
  realizedFxMinor : ℤ
  entryLines : List ReceivableEntryLine
  deriving DecidableEq, Repr

/-- Everything `planCustomerPaymentAllocation` does before it balances the lines. -/
def customerPaymentAllocationDraft (input : CustomerPaymentAllocationInput) :
    ReceivableResult CustomerPaymentAllocationPlan := do
  let p := input.paymentAmountMinor
  refuseIf (p ≤ 0 ∨ p > VALUE_LIMIT_MINOR)
    (.receivable .customerPaymentAllocationsInvalid "a payment amount must be positive")
  refuseIf (input.sameCurrency ∧ p ≠ input.appliedMinor)
    (.receivable .customerPaymentAmountMismatch
      "a payment in the invoice currency pays exactly what it applies")
  let ar ← arSide .customerPayment input.invoice input.appliedMinor
  let paymentBaseMinor ← convert p input.payment
  refuseIf (paymentBaseMinor = 0)
    (.receivable .customerPaymentAmountBelowBaseUnit
      "the payment amount converts to less than one base minor unit")
  let stranded ← strands (input.invoice.outstandingTxnMinor - ar.invoiceAmountAppliedMinor)
    input.invoice.conversion
  refuseIf stranded
    (.receivable .customerPaymentResidueBelowBaseUnit
      ("the allocation would leave the invoice an amount converting to less than one " ++
        "base minor unit"))
  let realizedFxMinor := paymentBaseMinor - ar.invoiceCarryingReleasedMinor
  let lines := arLines ar ++ [⟨.postingAccount, .D, .payment, p, paymentBaseMinor⟩] ++
    realizedLines realizedFxMinor
  pure
    { toArSide := ar, paymentAmountMinor := p, paymentBaseMinor, realizedFxMinor
      entryLines := lines }

/-- The draft, and its lines balanced. -/
def planCustomerPaymentAllocation (input : CustomerPaymentAllocationInput) :
    ReceivableResult CustomerPaymentAllocationPlan := do
  let plan ← customerPaymentAllocationDraft input
  let entryLines ← balanced plan.entryLines
  pure { plan with entryLines }

/-- What a payment leaves over. -/
structure CustomerCreditCreationInput where
  surplusMinor : ℤ
  payment : ReceivableConversion
  deriving DecidableEq, Repr

/-- The credit that holds it. -/
structure CustomerCreditCreationPlan where
  originalAmountMinor : ℤ
  originalCarryingBaseMinor : ℤ
  entryLines : List ReceivableEntryLine
  deriving DecidableEq, Repr

/-- Everything `planCustomerCreditCreation` does before it balances the lines. -/
def customerCreditCreationDraft (input : CustomerCreditCreationInput) :
    ReceivableResult CustomerCreditCreationPlan := do
  let s := input.surplusMinor
  refuseIf (s ≤ 0 ∨ s > VALUE_LIMIT_MINOR)
    (.receivable .customerPaymentAllocationsInvalid "a surplus must be positive")
  let originalCarryingBaseMinor ← convert s input.payment
  refuseIf (originalCarryingBaseMinor = 0)
    (.receivable .customerPaymentCreditBelowBaseUnit
      "the surplus converts to less than one base minor unit")
  let born ← call (creditRemainingCarrying s originalCarryingBaseMinor s)
  refuseIf (born ≠ originalCarryingBaseMinor)
    (.receivable .customerPaymentArithmeticInvalid
      "a credit born at its own original pair must satisfy g(OA) = OB")
  let lines : List ReceivableEntryLine :=
    [⟨.postingAccount, .D, .payment, s, originalCarryingBaseMinor⟩,
      ⟨.customerCreditLiability, .C, .payment, s, originalCarryingBaseMinor⟩]
  pure { originalAmountMinor := s, originalCarryingBaseMinor, entryLines := lines }

/-- The draft, and its lines balanced. -/
def planCustomerCreditCreation (input : CustomerCreditCreationInput) :
    ReceivableResult CustomerCreditCreationPlan := do
  let plan ← customerCreditCreationDraft input
  let entryLines ← balanced plan.entryLines
  pure { plan with entryLines }

/-- An amount of a credit, and what it settles of one invoice. -/
structure CustomerCreditApplicationInput where
  invoice : InvoiceArState
  credit : CustomerCreditState
  sameCurrency : Bool
  consumedMinor : ℤ
  appliedMinor : ℤ
  deriving DecidableEq, Repr

/-- The figures of an application and the lines that post it. -/
structure CustomerCreditApplicationPlan extends ArSide, CreditSide where
  realizedFxMinor : ℤ
  entryLines : List ReceivableEntryLine
  deriving DecidableEq, Repr

/-- Everything `planCustomerCreditApplication` does before it balances the lines. -/
def customerCreditApplicationDraft (input : CustomerCreditApplicationInput) :
    ReceivableResult CustomerCreditApplicationPlan := do
  let cr ← creditSide input.credit input.consumedMinor
  refuseIf (input.sameCurrency ∧ cr.creditAmountConsumedMinor ≠ input.appliedMinor)
    (.receivable .customerCreditApplicationAmountMismatch
      "a credit in the invoice currency applies exactly what it consumes")
  let ar ← arSide .customerCreditApplication input.invoice input.appliedMinor
  let invoiceStranded ← strands (input.invoice.outstandingTxnMinor - ar.invoiceAmountAppliedMinor)
    input.invoice.conversion
  refuseIf invoiceStranded
    (.receivable .customerCreditApplicationResidueBelowBaseUnit
      ("the application would leave the invoice an amount converting to less than one " ++
        "base minor unit"))
  let creditStranded ← strands cr.remainingAfterMinor input.credit.conversion
  refuseIf creditStranded
    (.receivable .customerCreditApplicationResidueBelowBaseUnit
      ("the application would leave the credit a remainder converting to less than one " ++
        "base minor unit"))
  let realizedFxMinor := cr.creditCarryingReleasedMinor - ar.invoiceCarryingReleasedMinor
  let lines := creditLines cr ++ arLines ar ++ realizedLines realizedFxMinor
  pure { toArSide := ar, toCreditSide := cr, realizedFxMinor, entryLines := lines }

/-- The draft, and its lines balanced. -/
def planCustomerCreditApplication (input : CustomerCreditApplicationInput) :
    ReceivableResult CustomerCreditApplicationPlan := do
  let plan ← customerCreditApplicationDraft input
  let entryLines ← balanced plan.entryLines
  pure { plan with entryLines }

/-! ## 5. What the plans compute -/

/-- Debits less credits of an entry, and of one of its accounts, in base. -/
def entryBalance (lines : List ReceivableEntryLine) : ℤ :=
  balance ReceivableEntryLine.side ReceivableEntryLine.baseAmountMinor lines

def entryNet (a : ReceivableAccount) (lines : List ReceivableEntryLine) : ℤ :=
  balanceOf ReceivableEntryLine.side ReceivableEntryLine.baseAmountMinor
    ReceivableEntryLine.account a lines

@[simp] theorem entryBalance_nil : entryBalance [] = 0 := rfl

@[simp] theorem entryBalance_cons (l : ReceivableEntryLine) (ls : List ReceivableEntryLine) :
    entryBalance (l :: ls) = l.side.signed l.baseAmountMinor + entryBalance ls :=
  balance_cons _ _ l ls

@[simp] theorem entryBalance_append (ls ms : List ReceivableEntryLine) :
    entryBalance (ls ++ ms) = entryBalance ls + entryBalance ms :=
  balance_append _ _ ls ms

@[simp] theorem entryNet_nil (a : ReceivableAccount) : entryNet a [] = 0 := rfl

@[simp] theorem entryNet_cons (a : ReceivableAccount) (l : ReceivableEntryLine)
    (ls : List ReceivableEntryLine) : entryNet a (l :: ls) =
      (if l.account = a then l.side.signed l.baseAmountMinor else 0) + entryNet a ls :=
  balanceOf_cons _ _ _ a l ls

@[simp] theorem entryNet_append (a : ReceivableAccount) (ls ms : List ReceivableEntryLine) :
    entryNet a (ls ++ ms) = entryNet a ls + entryNet a ms :=
  balanceOf_append _ _ _ a ls ms

/-- Both amounts of a line are positive; its side says which way they go. -/
def ReceivableEntryLine.Positive (l : ReceivableEntryLine) : Prop :=
  0 < l.baseAmountMinor ∧ 0 < l.txnAmountMinor

/-- **What `balanced` accepts** is positive throughout, and its sides are equal. -/
theorem balanced_eq_ok {ls r : List ReceivableEntryLine} :
    balanced ls = .ok r ↔ (∀ l ∈ ls, l.Positive) ∧ entryBalance ls = 0 ∧ ls = r := by
  simp only [balanced, bind_eq_ok, runningBalance_eq_ok, refuseIf_eq_ok, exists_const, pure_eq_ok,
    zero_add, not_not, ne_eq, not_or, not_le]
  constructor
  · rintro ⟨b, ⟨hpos, rfl⟩, h0, rfl⟩
    exact ⟨hpos, h0, rfl⟩
  · rintro ⟨hpos, h0, rfl⟩
    exact ⟨_, ⟨hpos, rfl⟩, h0, rfl⟩

/-- An amount in base on the side its sign asks for, or no line for zero. -/
def signedBaseLine (account : ReceivableAccount) (up : Side) (v : ℤ) : List ReceivableEntryLine :=
  signedLine (baseLine account) up v

@[simp] theorem entryBalance_signedBaseLine (a : ReceivableAccount) (up : Side) (v : ℤ) :
    entryBalance (signedBaseLine a up v) = up.signed v :=
  balance_signedLine (baseLine a) (fun _ _ => rfl) (fun _ _ => rfl)

theorem entryNet_signedBaseLine_self (a : ReceivableAccount) (up : Side) (v : ℤ) :
    entryNet a (signedBaseLine a up v) = up.signed v :=
  balanceOf_signedLine_self (baseLine a) (fun _ _ => rfl) (fun _ _ => rfl) (fun _ _ => rfl)

theorem entryNet_signedBaseLine_of_ne {a b : ReceivableAccount} (up : Side) (v : ℤ) (hab : a ≠ b) :
    entryNet b (signedBaseLine a up v) = 0 :=
  balanceOf_signedLine_of_ne (baseLine a) (fun _ _ => rfl) hab

/-- The dust of a receivable is a credit while it is positive. -/
theorem arLines_eq (ar : ArSide) : arLines ar =
    [⟨.accountsReceivable, .C, .invoice, ar.invoiceAmountAppliedMinor, ar.arConvertedMinor⟩] ++
      signedBaseLine .accountsReceivable .C ar.arDustBaseMinor := rfl

/-- The dust of a liability is a debit while it is positive. -/
theorem creditLines_eq (cr : CreditSide) : creditLines cr =
    [⟨.customerCreditLiability, .D, .credit, cr.creditAmountConsumedMinor,
        cr.creditConvertedMinor⟩] ++
      signedBaseLine .customerCreditLiability .D cr.creditDustBaseMinor := rfl

/-- A gain is a credit, a loss a debit. -/
theorem realizedLines_eq (v : ℤ) :
    realizedLines v = signedBaseLine (if v > 0 then .fxGain else .fxLoss) .C v := by
  unfold realizedLines signedBaseLine signedLine
  by_cases hv : v = 0
  · simp [hv]
  · rw [if_neg hv, if_pos hv]
    rfl

end Daftar.Inventory.Customer
