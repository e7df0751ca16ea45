/-
  File: Daftar/Inventory/EntryBalance.lean
  Subject: Every settlement entry balances by construction, on the payable and the receivable side.

  * For the customer plans: what passes their guards (`Lawful`), the plan as a plain function, the
    balance of its lines and the accounts they net to.
  * `settlementPlans_balance`: in all seven plans the balance check never refuses, and the lines are
    positive, priced at the snapshots they name, and net to what the plan releases.
-/

import Daftar.Inventory.CustomerSettlement
import Daftar.Inventory.SettlementBalance

namespace Daftar.Inventory.Customer

open Fallible
open Rounding
open DoubleEntry

/-! ## 1. Lines of the customer plans -/

/-- The guard of the receivable side is the one of the payable side. -/
theorem strands_eq_ok {r : ℤ} {c : ReceivableConversion} {b : Bool} :
    strands r c = .ok b ↔ Inventory.strands r c = .ok b := by
  unfold strands Inventory.strands convert Inventory.convert
  split
  · rw [map_eq_ok, map_eq_ok]
    simp only [call_eq_ok]
  · simp

/-- A base line has equal amounts, and a foreign line's base is the conversion of its own amount. -/
def ReceivableEntryLine.Priced (snapshot : ReceivableCurrency → Option ReceivableConversion)
    (l : ReceivableEntryLine) : Prop :=
  if l.currency = .base then l.txnAmountMinor = l.baseAmountMinor
  else ∃ c, snapshot l.currency = some c ∧ convert l.txnAmountMinor c = .ok l.baseAmountMinor

section Lines

variable {snapshot : ReceivableCurrency → Option ReceivableConversion}

/-- A base line is positive, and its amounts are equal. -/
theorem signedBaseLine_lawful {a : ReceivableAccount} {up : Side} {v : ℤ} {l : ReceivableEntryLine}
    (h : l ∈ signedBaseLine a up v) : l.Positive ∧ l.Priced snapshot := by
  obtain ⟨s, x, hx, rfl⟩ := mem_signedLine h
  refine ⟨⟨hx, hx⟩, ?_⟩
  simp [ReceivableEntryLine.Priced, baseLine]

/-- A foreign line is positive, and its base what its amount converts to, where that is not zero. -/
theorem foreignLine_lawful {l : ReceivableEntryLine} {c : ReceivableConversion}
    (hcur : l.currency ≠ .base) (hsnap : snapshot l.currency = some c) (hc : c.Valid)
    (ht : 0 < l.txnAmountMinor ∧ l.txnAmountMinor ≤ VALUE_LIMIT_MINOR)
    (hne : c.base l.txnAmountMinor ≠ 0) (hb : l.baseAmountMinor = c.base l.txnAmountMinor) :
    l.Positive ∧ l.Priced snapshot := by
  refine ⟨⟨?_, ht.1⟩, ?_⟩
  · rw [hb]
    exact pos_of_base_ne_zero hc ht.1.le hne
  · rw [ReceivableEntryLine.Priced, if_neg hcur]
    exact ⟨c, hsnap, convert_eq_ok.mpr ⟨⟨ht.1.le, ht.2⟩, hc, hb.symm⟩⟩

theorem arLines_lawful {i : InvoiceArState} (hsnap : snapshot .invoice = some i.conversion)
    (hr : i.ap.InRange) {a : ℤ} (ha : 0 < a) (hle : a ≤ i.outstandingTxnMinor)
    (hc : i.conversion.Valid) (hne : i.conversion.base a ≠ 0) :
    ∀ l ∈ arLines (i.side a), l.Positive ∧ l.Priced snapshot := by
  intro l hl
  rw [arLines_eq, List.mem_append, List.mem_singleton] at hl
  rcases hl with rfl | hl
  · exact foreignLine_lawful nofun hsnap hc ⟨ha, hle.trans hr.outstanding.2⟩ hne rfl
  · exact signedBaseLine_lawful hl

theorem creditLines_lawful {n : CustomerCreditState} (hsnap : snapshot .credit = some n.conversion)
    (hr : n.note.InRange) {c : ℤ} (hpos : 0 < c) (hle : c ≤ n.remainingMinor)
    (hc : n.conversion.Valid) (hne : n.conversion.base c ≠ 0) :
    ∀ l ∈ creditLines (n.side c), l.Positive ∧ l.Priced snapshot := by
  intro l hl
  rw [creditLines_eq, List.mem_append, List.mem_singleton] at hl
  rcases hl with rfl | hl
  · exact foreignLine_lawful nofun hsnap hc ⟨hpos, hle.trans hr.remaining.2⟩ hne rfl
  · exact signedBaseLine_lawful hl

theorem realizedLines_lawful {v : ℤ} : ∀ l ∈ realizedLines v, l.Positive ∧ l.Priced snapshot := by
  intro l hl
  rw [realizedLines_eq] at hl
  exact signedBaseLine_lawful hl

end Lines

/-- The AR lines of a reducer credit the carrying base released, all of it on AR. -/
theorem entryBalance_arLines (i : InvoiceArState) (a : ℤ) :
    entryBalance (arLines (i.side a)) = -(i.side a).invoiceCarryingReleasedMinor := by
  simp only [arLines_eq, InvoiceArState.side, PurchaseApState.side, entryBalance_append,
    entryBalance_cons, entryBalance_nil, entryBalance_signedBaseLine, Side.signed_C]
  omega

theorem entryNet_arLines (i : InvoiceArState) (a : ℤ) :
    entryNet .accountsReceivable (arLines (i.side a)) =
      -(i.side a).invoiceCarryingReleasedMinor := by
  simp only [arLines_eq, InvoiceArState.side, PurchaseApState.side, entryNet_append,
    entryNet_cons, entryNet_nil, entryNet_signedBaseLine_self, Side.signed_C, if_true]
  omega

theorem entryNet_arLines_of_ne (ar : ArSide) {b : ReceivableAccount}
    (hb : .accountsReceivable ≠ b) : entryNet b (arLines ar) = 0 := by
  simp [arLines_eq, hb, entryNet_signedBaseLine_of_ne]

/-- The credit lines of a consumer debit the carrying released, all of it on the liability. -/
theorem entryBalance_creditLines (n : CustomerCreditState) (c : ℤ) :
    entryBalance (creditLines (n.side c)) = (n.side c).creditCarryingReleasedMinor := by
  simp only [creditLines_eq, CustomerCreditState.side, CreditNoteState.side, entryBalance_append,
    entryBalance_cons, entryBalance_nil, entryBalance_signedBaseLine, Side.signed_D]
  omega

theorem entryNet_creditLines (n : CustomerCreditState) (c : ℤ) :
    entryNet .customerCreditLiability (creditLines (n.side c)) =
      (n.side c).creditCarryingReleasedMinor := by
  simp only [creditLines_eq, CustomerCreditState.side, CreditNoteState.side, entryNet_append,
    entryNet_cons, entryNet_nil, entryNet_signedBaseLine_self, Side.signed_D, if_true]
  omega

theorem entryNet_creditLines_of_ne (cr : CreditSide) {b : ReceivableAccount}
    (hb : .customerCreditLiability ≠ b) : entryNet b (creditLines cr) = 0 := by
  simp [creditLines_eq, hb, entryNet_signedBaseLine_of_ne]

theorem entryBalance_realizedLines (v : ℤ) : entryBalance (realizedLines v) = -v := by
  rw [realizedLines_eq, entryBalance_signedBaseLine, Side.signed_C]

theorem entryNet_realizedLines {b : ReceivableAccount} (hg : .fxGain ≠ b) (hl : .fxLoss ≠ b)
    (v : ℤ) : entryNet b (realizedLines v) = 0 := by
  rw [realizedLines_eq]
  apply entryNet_signedBaseLine_of_ne
  split
  · exact hg
  · exact hl

/-! ## 2. Payment allocations -/

/-- The customer payment allocation as a plain function of its input. -/
def CustomerPaymentAllocationInput.plan (i : CustomerPaymentAllocationInput) :
    CustomerPaymentAllocationPlan :=
  let ar := i.invoice.side i.appliedMinor
  let pb := i.payment.base i.paymentAmountMinor
  let realized := pb - ar.invoiceCarryingReleasedMinor
  ⟨ar, i.paymentAmountMinor, pb, realized,
    arLines ar ++ [⟨.postingAccount, .D, .payment, i.paymentAmountMinor, pb⟩] ++
      realizedLines realized⟩

def CustomerPaymentAllocationInput.snapshot (i : CustomerPaymentAllocationInput) :
    ReceivableCurrency → Option ReceivableConversion
  | .invoice => some i.invoice.conversion
  | .payment => some i.payment
  | _ => none

/-- What passes every guard of a customer payment allocation. -/
structure CustomerPaymentAllocationInput.Lawful (i : CustomerPaymentAllocationInput) : Prop where
  payment_minor : IsMinor 1 i.paymentAmountMinor
  same : i.sameCurrency = true → i.paymentAmountMinor = i.appliedMinor
  range : i.invoice.ap.InRange
  applied_pos : 0 < i.appliedMinor
  applied_le : i.appliedMinor ≤ i.invoice.outstandingTxnMinor
  conversion : i.invoice.conversion.Valid
  converted : i.invoice.conversion.base i.appliedMinor ≠ 0
  payment_conversion : i.payment.Valid
  payment_converted : i.payment.base i.paymentAmountMinor ≠ 0
  residue : Inventory.strands (i.invoice.outstandingTxnMinor - i.appliedMinor)
    i.invoice.conversion = .ok false

theorem customerPaymentAllocationDraft_eq_ok {i : CustomerPaymentAllocationInput}
    {p : CustomerPaymentAllocationPlan} :
    customerPaymentAllocationDraft i = .ok p ↔ i.Lawful ∧ i.plan = p := by
  simp only [customerPaymentAllocationDraft, bind_eq_ok, refuseIf_eq_ok, exists_const, arSide_eq_ok,
    convert_eq_ok, strands_eq_ok, pure_eq_ok, not_or, not_le, not_lt, gt_iff_lt, not_and, not_not,
    ne_eq]
  constructor
  · rintro ⟨⟨hp0, hp1⟩, hsame, _, ⟨hr, ⟨ha0, ha1⟩, hc, hne, rfl⟩, _, ⟨_, hpc, rfl⟩, hpne, s, hs, hsf,
      rfl⟩
    have hs' : s = false := by simpa using hsf
    subst hs'
    exact ⟨⟨⟨hp0, hp1⟩, hsame, hr, ha0, ha1, hc, hne, hpc, hpne, hs⟩, rfl⟩
  · rintro ⟨⟨hp, hsame, hr, ha0, ha1, hc, hne, hpc, hpne, hs⟩, rfl⟩
    exact ⟨hp, hsame, _, ⟨hr, ⟨ha0, ha1⟩, hc, hne, rfl⟩, _, ⟨⟨by have := hp.1; omega, hp.2⟩, hpc, rfl⟩,
      hpne, false, hs, by simp, rfl⟩

/-- Debits and credits of an allocation are equal. -/
theorem CustomerPaymentAllocationInput.entryBalance_plan (i : CustomerPaymentAllocationInput) :
    entryBalance i.plan.entryLines = 0 := by
  simp only [CustomerPaymentAllocationInput.plan, entryBalance_append, entryBalance_cons,
    entryBalance_nil, entryBalance_arLines, entryBalance_realizedLines, Side.signed_D]
  omega

/-- AR is credited the carrying base released. -/
theorem CustomerPaymentAllocationInput.entryNet_plan (i : CustomerPaymentAllocationInput) :
    entryNet .accountsReceivable i.plan.entryLines = -i.plan.invoiceCarryingReleasedMinor := by
  simp only [CustomerPaymentAllocationInput.plan, entryNet_append, entryNet_cons, entryNet_nil,
    entryNet_arLines]
  rw [entryNet_realizedLines (by decide) (by decide)]
  simp

/-- The lines of an allocation are positive and priced at its snapshots. -/
theorem CustomerPaymentAllocationInput.Lawful.lines_lawful {i : CustomerPaymentAllocationInput}
    (h : i.Lawful) : ∀ l ∈ i.plan.entryLines, l.Positive ∧ l.Priced i.snapshot := by
  intro l hl
  rw [CustomerPaymentAllocationInput.plan, List.mem_append, List.mem_append,
    List.mem_singleton] at hl
  rcases hl with (hl | rfl) | hl
  · exact arLines_lawful rfl h.range h.applied_pos h.applied_le h.conversion h.converted l hl
  · exact foreignLine_lawful nofun rfl h.payment_conversion h.payment_minor h.payment_converted rfl
  · exact realizedLines_lawful l hl

theorem customerPaymentAllocationDraft_balanced {i : CustomerPaymentAllocationInput}
    {p : CustomerPaymentAllocationPlan} (hp : customerPaymentAllocationDraft i = .ok p) :
    balanced p.entryLines = .ok p.entryLines := by
  obtain ⟨hl, rfl⟩ := customerPaymentAllocationDraft_eq_ok.mp hp
  exact balanced_eq_ok.mpr ⟨fun l hl' => (hl.lines_lawful l hl').1, i.entryBalance_plan, rfl⟩

/-- The balance check of an allocation never refuses. -/
theorem planCustomerPaymentAllocation_eq_draft (i : CustomerPaymentAllocationInput) :
    planCustomerPaymentAllocation i = customerPaymentAllocationDraft i :=
  bind_check_eq_self (fun _ => rfl) fun _ hp => customerPaymentAllocationDraft_balanced hp

/-! ## 3. Credit creations -/

/-- The plan of a credit creation, as the guards leave it. -/
def CustomerCreditCreationInput.plan (i : CustomerCreditCreationInput) :
    CustomerCreditCreationPlan :=
  let ob := i.payment.base i.surplusMinor
  ⟨i.surplusMinor, ob, [⟨.postingAccount, .D, .payment, i.surplusMinor, ob⟩,
    ⟨.customerCreditLiability, .C, .payment, i.surplusMinor, ob⟩]⟩

def CustomerCreditCreationInput.snapshot (i : CustomerCreditCreationInput) :
    ReceivableCurrency → Option ReceivableConversion
  | .payment => some i.payment
  | _ => none

/-- What passes every guard of a credit creation. That a credit is born at its own pair is not a
    condition: it holds of every carrying in range. -/
structure CustomerCreditCreationInput.Lawful (i : CustomerCreditCreationInput) : Prop where
  surplus_minor : IsMinor 1 i.surplusMinor
  conversion : i.payment.Valid
  carrying_minor : IsMinor 1 (i.payment.base i.surplusMinor)

theorem customerCreditCreationDraft_eq_ok {i : CustomerCreditCreationInput}
    {p : CustomerCreditCreationPlan} :
    customerCreditCreationDraft i = .ok p ↔ i.Lawful ∧ i.plan = p := by
  simp only [customerCreditCreationDraft, bind_eq_ok, refuseIf_eq_ok, exists_const, call_eq_ok,
    creditRemainingCarrying_eq_ok, convert_eq_ok, pure_eq_ok, not_or, not_le, not_lt, gt_iff_lt,
    not_not, ne_eq]
  constructor
  · rintro ⟨⟨hs0, hs1⟩, _, ⟨_, hc, rfl⟩, _, _, ⟨_, hob, _, _, _⟩, _, rfl⟩
    exact ⟨⟨⟨hs0, hs1⟩, hc, hob⟩, rfl⟩
  · rintro ⟨⟨hs, hc, hob⟩, rfl⟩
    have hs0 : 0 < i.surplusMinor := hs.1
    have hob1 : 1 ≤ i.payment.base i.surplusMinor := hob.1
    exact ⟨⟨hs0, hs.2⟩, _, ⟨⟨hs0.le, hs.2⟩, hc, rfl⟩, by omega, _,
      ⟨hs, hob, ⟨hs0.le, hs.2⟩, le_rfl, rfl⟩, creditKept_original hs0 hob1, rfl⟩

/-- Both lines of a credit creation are positive and priced at its snapshot. -/
theorem CustomerCreditCreationInput.Lawful.lines_lawful {i : CustomerCreditCreationInput}
    (h : i.Lawful) : ∀ l ∈ i.plan.entryLines, l.Positive ∧ l.Priced i.snapshot := by
  have hne : i.payment.base i.surplusMinor ≠ 0 := by
    have := h.carrying_minor.1
    omega
  intro l hl
  rw [CustomerCreditCreationInput.plan, List.mem_cons, List.mem_singleton] at hl
  rcases hl with rfl | rfl
  · exact foreignLine_lawful nofun rfl h.conversion h.surplus_minor hne rfl
  · exact foreignLine_lawful nofun rfl h.conversion h.surplus_minor hne rfl

theorem customerCreditCreationDraft_balanced {i : CustomerCreditCreationInput}
    {p : CustomerCreditCreationPlan} (hp : customerCreditCreationDraft i = .ok p) :
    balanced p.entryLines = .ok p.entryLines := by
  obtain ⟨hl, rfl⟩ := customerCreditCreationDraft_eq_ok.mp hp
  refine balanced_eq_ok.mpr ⟨fun l hl' => (hl.lines_lawful l hl').1, ?_, rfl⟩
  simp [CustomerCreditCreationInput.plan]

/-- The balance check of a credit creation never refuses. -/
theorem planCustomerCreditCreation_eq_draft (i : CustomerCreditCreationInput) :
    planCustomerCreditCreation i = customerCreditCreationDraft i :=
  bind_check_eq_self (fun _ => rfl) fun _ hp => customerCreditCreationDraft_balanced hp

/-! ## 4. Credit applications -/

/-- The plan of a credit application, as the guards leave it. -/
def CustomerCreditApplicationInput.plan (i : CustomerCreditApplicationInput) :
    CustomerCreditApplicationPlan :=
  let ar := i.invoice.side i.appliedMinor
  let cr := i.credit.side i.consumedMinor
  let realized := cr.creditCarryingReleasedMinor - ar.invoiceCarryingReleasedMinor
  ⟨ar, cr, realized, creditLines cr ++ arLines ar ++ realizedLines realized⟩

def CustomerCreditApplicationInput.snapshot (i : CustomerCreditApplicationInput) :
    ReceivableCurrency → Option ReceivableConversion
  | .invoice => some i.invoice.conversion
  | .credit => some i.credit.conversion
  | _ => none

/-- What passes every guard of a credit application. -/
structure CustomerCreditApplicationInput.Lawful (i : CustomerCreditApplicationInput) : Prop where
  same : i.sameCurrency = true → i.consumedMinor = i.appliedMinor
  range : i.invoice.ap.InRange
  applied_pos : 0 < i.appliedMinor
  applied_le : i.appliedMinor ≤ i.invoice.outstandingTxnMinor
  conversion : i.invoice.conversion.Valid
  converted : i.invoice.conversion.base i.appliedMinor ≠ 0
  credit_range : i.credit.note.InRange
  consumed_pos : 0 < i.consumedMinor
  consumed_le : i.consumedMinor ≤ i.credit.remainingMinor
  credit_conversion : i.credit.conversion.Valid
  credit_converted : i.credit.conversion.base i.consumedMinor ≠ 0
  residue : Inventory.strands (i.invoice.outstandingTxnMinor - i.appliedMinor)
    i.invoice.conversion = .ok false
  credit_residue : Inventory.strands (i.credit.remainingMinor - i.consumedMinor)
    i.credit.conversion = .ok false

theorem customerCreditApplicationDraft_eq_ok {i : CustomerCreditApplicationInput}
    {p : CustomerCreditApplicationPlan} :
    customerCreditApplicationDraft i = .ok p ↔ i.Lawful ∧ i.plan = p := by
  simp only [customerCreditApplicationDraft, bind_eq_ok, refuseIf_eq_ok, exists_const, arSide_eq_ok,
    creditSide_eq_ok, strands_eq_ok, pure_eq_ok, not_and, not_not, ne_eq]
  constructor
  · rintro ⟨_, ⟨hn, ⟨hc0, hc1⟩, hnc, hnne, rfl⟩, hsame, _, ⟨hr, ⟨ha0, ha1⟩, hc, hne, rfl⟩, s, hs, hsf,
      u, hu, huf, rfl⟩
    have hs' : s = false := by simpa using hsf
    have hu' : u = false := by simpa using huf
    subst hs' hu'
    exact ⟨⟨hsame, hr, ha0, ha1, hc, hne, hn, hc0, hc1, hnc, hnne, hs, hu⟩, rfl⟩
  · rintro ⟨⟨hsame, hr, ha0, ha1, hc, hne, hn, hc0, hc1, hnc, hnne, hs, hu⟩, rfl⟩
    exact ⟨_, ⟨hn, ⟨hc0, hc1⟩, hnc, hnne, rfl⟩, hsame, _, ⟨hr, ⟨ha0, ha1⟩, hc, hne, rfl⟩, false, hs,
      by simp, false, hu, by simp, rfl⟩

/-- Debits and credits of a credit application are equal: the realized line closes what the two
    releases leave open. -/
theorem CustomerCreditApplicationInput.entryBalance_plan (i : CustomerCreditApplicationInput) :
    entryBalance i.plan.entryLines = 0 := by
  simp only [CustomerCreditApplicationInput.plan, entryBalance_append, entryBalance_arLines,
    entryBalance_creditLines, entryBalance_realizedLines]
  omega

/-- AR is credited the carrying base released, the liability debited the credit released. -/
theorem CustomerCreditApplicationInput.entryNet_plan (i : CustomerCreditApplicationInput) :
    entryNet .accountsReceivable i.plan.entryLines = -i.plan.invoiceCarryingReleasedMinor ∧
      entryNet .customerCreditLiability i.plan.entryLines =
        i.plan.creditCarryingReleasedMinor := by
  simp only [CustomerCreditApplicationInput.plan, entryNet_append, entryNet_arLines,
    entryNet_creditLines]
  constructor
  · rw [entryNet_creditLines_of_ne _ (by decide), entryNet_realizedLines (by decide) (by decide)]
    simp
  · rw [entryNet_arLines_of_ne _ (by decide), entryNet_realizedLines (by decide) (by decide)]
    simp

/-- The lines of a credit application are positive and priced at its snapshots. -/
theorem CustomerCreditApplicationInput.Lawful.lines_lawful {i : CustomerCreditApplicationInput}
    (h : i.Lawful) : ∀ l ∈ i.plan.entryLines, l.Positive ∧ l.Priced i.snapshot := by
  intro l hl
  rw [CustomerCreditApplicationInput.plan, List.mem_append, List.mem_append] at hl
  rcases hl with (hl | hl) | hl
  · exact creditLines_lawful rfl h.credit_range h.consumed_pos h.consumed_le h.credit_conversion
      h.credit_converted l hl
  · exact arLines_lawful rfl h.range h.applied_pos h.applied_le h.conversion h.converted l hl
  · exact realizedLines_lawful l hl

theorem customerCreditApplicationDraft_balanced {i : CustomerCreditApplicationInput}
    {p : CustomerCreditApplicationPlan} (hp : customerCreditApplicationDraft i = .ok p) :
    balanced p.entryLines = .ok p.entryLines := by
  obtain ⟨hl, rfl⟩ := customerCreditApplicationDraft_eq_ok.mp hp
  exact balanced_eq_ok.mpr ⟨fun l hl' => (hl.lines_lawful l hl').1, i.entryBalance_plan, rfl⟩

/-- The balance check of a credit application never refuses. -/
theorem planCustomerCreditApplication_eq_draft (i : CustomerCreditApplicationInput) :
    planCustomerCreditApplication i = customerCreditApplicationDraft i :=
  bind_check_eq_self (fun _ => rfl) fun _ hp => customerCreditApplicationDraft_balanced hp

/-! ## 5. All seven plans -/

/-- **Every settlement plan balances by construction.** For every input, once the guards before it
    pass, the balance check accepts the lines it is given, so a plan is its draft. All amounts are
    positive; base lines have equal amounts and foreign lines the conversion of their own amount;
    the obligation account nets to the carrying base released and the credit account to the credit
    carrying released, on the sides payables and receivables clear on. -/
theorem settlementPlans_balance :
    (∀ i, planPaymentAllocation i = paymentAllocationDraft i ∧
      ∀ p, paymentAllocationDraft i = .ok p → Inventory.balanced p.entryLines = .ok p.entryLines ∧
        (∀ l ∈ p.entryLines, l.Positive ∧ l.Priced i.snapshot) ∧
        Inventory.entryNet .accountsPayable p.entryLines = p.carryingReleasedMinor) ∧
    (∀ i, planCreditAllocation i = creditAllocationDraft i ∧
      ∀ p, creditAllocationDraft i = .ok p → Inventory.balanced p.entryLines = .ok p.entryLines ∧
        (∀ l ∈ p.entryLines, l.Positive ∧ l.Priced i.snapshot) ∧
        Inventory.entryNet .accountsPayable p.entryLines = p.carryingReleasedMinor ∧
        Inventory.entryNet .supplierReceivable p.entryLines = -p.creditReleasedMinor) ∧
    (∀ i, planRefund i = refundDraft i ∧
      ∀ p, refundDraft i = .ok p → Inventory.balanced p.entryLines = .ok p.entryLines ∧
        (∀ l ∈ p.entryLines, l.Positive ∧ l.Priced i.snapshot) ∧
        Inventory.entryNet .supplierReceivable p.entryLines = -p.creditReleasedMinor) ∧
    (∀ i, planSupplierReturn i = supplierReturnDraft i ∧
      ∀ p, supplierReturnDraft i = .ok p →
        supplierReturnEntryLines p.toSupplierReturnEntryAmounts = .ok p.entryLines ∧
        (∀ l ∈ p.entryLines, l.Lawful i.convert) ∧
        returnNet .accountsPayable p.entryLines = p.apBaseMinor ∧
        returnNet .supplierReceivable p.entryLines = p.creditBaseMinor) ∧
    (∀ i, planCustomerPaymentAllocation i = customerPaymentAllocationDraft i ∧
      ∀ p, customerPaymentAllocationDraft i = .ok p → balanced p.entryLines = .ok p.entryLines ∧
        (∀ l ∈ p.entryLines, l.Positive ∧ l.Priced i.snapshot) ∧
        entryNet .accountsReceivable p.entryLines = -p.invoiceCarryingReleasedMinor) ∧
    (∀ i, planCustomerCreditCreation i = customerCreditCreationDraft i ∧
      ∀ p, customerCreditCreationDraft i = .ok p → balanced p.entryLines = .ok p.entryLines ∧
        (∀ l ∈ p.entryLines, l.Positive ∧ l.Priced i.snapshot) ∧
        entryNet .customerCreditLiability p.entryLines = -p.originalCarryingBaseMinor) ∧
    (∀ i, planCustomerCreditApplication i = customerCreditApplicationDraft i ∧
      ∀ p, customerCreditApplicationDraft i = .ok p → balanced p.entryLines = .ok p.entryLines ∧
        (∀ l ∈ p.entryLines, l.Positive ∧ l.Priced i.snapshot) ∧
        entryNet .accountsReceivable p.entryLines = -p.invoiceCarryingReleasedMinor ∧
        entryNet .customerCreditLiability p.entryLines = p.creditCarryingReleasedMinor) := by
  refine ⟨fun i => ⟨planPaymentAllocation_eq_draft i, fun p hp => ?_⟩,
    fun i => ⟨planCreditAllocation_eq_draft i, fun p hp => ?_⟩,
    fun i => ⟨planRefund_eq_draft i, fun p hp => ?_⟩,
    fun i => ⟨planSupplierReturn_eq_draft i, fun p hp => ?_⟩,
    fun i => ⟨planCustomerPaymentAllocation_eq_draft i, fun p hp => ?_⟩,
    fun i => ⟨planCustomerCreditCreation_eq_draft i, fun p hp => ?_⟩,
    fun i => ⟨planCustomerCreditApplication_eq_draft i, fun p hp => ?_⟩⟩
  · have hbal := paymentAllocationDraft_balanced hp
    obtain ⟨hl, rfl⟩ := paymentAllocationDraft_eq_ok.mp hp
    exact ⟨hbal, hl.lines_lawful, i.entryNet_plan⟩
  · have hbal := creditAllocationDraft_balanced hp
    obtain ⟨hl, rfl⟩ := creditAllocationDraft_eq_ok.mp hp
    exact ⟨hbal, hl.lines_lawful, i.entryNet_plan⟩
  · have hbal := refundDraft_balanced hp
    obtain ⟨hl, rfl⟩ := refundDraft_eq_ok.mp hp
    exact ⟨hbal, hl.lines_lawful, i.entryNet_plan⟩
  · have hd := supplierReturnDraft_drafted hp
    exact ⟨supplierReturnDraft_balanced hp, hd.lines_lawful, hd.returnNet_lines⟩
  · have hbal := customerPaymentAllocationDraft_balanced hp
    obtain ⟨hl, rfl⟩ := customerPaymentAllocationDraft_eq_ok.mp hp
    exact ⟨hbal, hl.lines_lawful, i.entryNet_plan⟩
  · have hbal := customerCreditCreationDraft_balanced hp
    obtain ⟨hl, rfl⟩ := customerCreditCreationDraft_eq_ok.mp hp
    refine ⟨hbal, hl.lines_lawful, ?_⟩
    simp [CustomerCreditCreationInput.plan]
  · have hbal := customerCreditApplicationDraft_balanced hp
    obtain ⟨hl, rfl⟩ := customerCreditApplicationDraft_eq_ok.mp hp
    exact ⟨hbal, hl.lines_lawful, i.entryNet_plan⟩

/-- An invoice of 100 at 37 base, a credit of 80 at 31, applied one to the other in part. -/
def sampleApplication : CustomerCreditApplicationInput :=
  ⟨⟨100, 37, 60, ⟨3600000000, 2, 2⟩⟩, ⟨80, 31, 50, ⟨3900000000, 2, 2⟩⟩, true, 30, 30⟩

theorem settlementPlans_balance_sample :
    balanced sampleApplication.plan.entryLines = .ok sampleApplication.plan.entryLines ∧
      entryNet .accountsReceivable sampleApplication.plan.entryLines = -11 ∧
      entryNet .customerCreditLiability sampleApplication.plan.entryLines = 11 :=
  have h := (settlementPlans_balance.2.2.2.2.2.2 sampleApplication).2 sampleApplication.plan
    (by decide)
  ⟨h.1, h.2.2.1, h.2.2.2⟩

end Daftar.Inventory.Customer
