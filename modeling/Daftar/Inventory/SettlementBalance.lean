/-
  File: Daftar/Inventory/SettlementBalance.lean
  Subject: The supplier settlement entries balance by construction.

  * For each plan: the lines sum to nothing, each is positive, and each carries its amounts the way
    its currency asks for (`Priced`).
  * Hence the balance check never refuses, and a plan is its draft:
    `planPaymentAllocation_eq_draft`, `planCreditAllocation_eq_draft`, `planRefund_eq_draft`,
    `planSupplierReturn_eq_draft`.
-/

import Daftar.Inventory.SupplierReturn

namespace Daftar.Inventory

open Fallible
open Rounding
open DoubleEntry

/-! ## 1. Lines of the three settlement plans -/

/-- A base line has equal amounts, and a foreign line's base is the conversion of its own amount at
    the snapshot its currency names. -/
def SettlementEntryLine.Priced (snapshot : SettlementCurrency → Option SettlementConversion)
    (l : SettlementEntryLine) : Prop :=
  if l.currency = .base then l.txnAmountMinor = l.baseAmountMinor
  else ∃ c, snapshot l.currency = some c ∧ convert l.txnAmountMinor c = .ok l.baseAmountMinor

theorem pos_of_base_ne_zero {c : SettlementConversion} (hc : c.Valid) {x : ℤ} (hx : 0 ≤ x)
    (h : c.base x ≠ 0) : 0 < c.base x :=
  lt_of_le_of_ne (hc.base_nonneg hx) h.symm

section Lines

variable {snapshot : SettlementCurrency → Option SettlementConversion}

theorem signedBaseLine_lawful {a : SettlementAccount} {up : Side} {v : ℤ} {d : SettlementDimension}
    {l : SettlementEntryLine} (h : l ∈ signedBaseLine a up v d) :
    l.Positive ∧ l.Priced snapshot := by
  obtain ⟨s, x, hx, rfl⟩ := mem_signedLine h
  refine ⟨⟨hx, hx⟩, ?_⟩
  simp [SettlementEntryLine.Priced, baseLine]

/-- A foreign line of a lawful amount is positive and priced. -/
theorem foreignLine_lawful {l : SettlementEntryLine} {c : SettlementConversion}
    (hcur : l.currency ≠ .base) (hsnap : snapshot l.currency = some c) (hc : c.Valid)
    (ht : 0 < l.txnAmountMinor ∧ l.txnAmountMinor ≤ VALUE_LIMIT_MINOR)
    (hne : c.base l.txnAmountMinor ≠ 0) (hb : l.baseAmountMinor = c.base l.txnAmountMinor) :
    l.Positive ∧ l.Priced snapshot := by
  refine ⟨⟨?_, ht.1⟩, ?_⟩
  · rw [hb]
    exact pos_of_base_ne_zero hc ht.1.le hne
  · rw [SettlementEntryLine.Priced, if_neg hcur]
    exact ⟨c, hsnap, convert_eq_ok.mpr ⟨⟨ht.1.le, ht.2⟩, hc, hb.symm⟩⟩

end Lines

/-- The AP lines of a reducer come to the carrying base released, all of it on AP. -/
theorem entryBalance_apLines (p : PurchaseApState) (a : ℤ) :
    entryBalance (apLines (p.side a)) = (p.side a).carryingReleasedMinor := by
  simp [apLines_eq, PurchaseApState.side]

theorem entryNet_apLines (p : PurchaseApState) (a : ℤ) :
    entryNet .accountsPayable (apLines (p.side a)) = (p.side a).carryingReleasedMinor := by
  simp [apLines_eq, PurchaseApState.side, entryNet_signedBaseLine_self]

theorem entryNet_apLines_of_ne (ap : ApSide) {b : SettlementAccount} (hb : .accountsPayable ≠ b) :
    entryNet b (apLines ap) = 0 := by
  simp [apLines_eq, hb, entryNet_signedBaseLine_of_ne]

/-- The credit lines of a consumer come to the carrying released, all of it on the credit. -/
theorem entryBalance_creditLines (n : CreditNoteState) (c : ℤ) :
    entryBalance (creditLines (n.side c)) = -(n.side c).creditReleasedMinor := by
  simp only [creditLines_eq, CreditNoteState.side, entryBalance_append, entryBalance_cons,
    entryBalance_nil, entryBalance_signedBaseLine, Side.signed_C]
  omega

theorem entryNet_creditLines (n : CreditNoteState) (c : ℤ) :
    entryNet .supplierReceivable (creditLines (n.side c)) = -(n.side c).creditReleasedMinor := by
  simp only [creditLines_eq, CreditNoteState.side, entryNet_append, entryNet_cons, entryNet_nil,
    entryNet_signedBaseLine_self, Side.signed_C, if_true]
  omega

theorem entryNet_creditLines_of_ne (cr : CreditSide) {b : SettlementAccount}
    (hb : .supplierReceivable ≠ b) : entryNet b (creditLines cr) = 0 := by
  simp [creditLines_eq, hb, entryNet_signedBaseLine_of_ne]

/-- Realized FX touches the two FX accounts only. -/
theorem entryNet_realized {p : Prop} [Decidable p] {x y b : SettlementAccount} (hx : x ≠ b)
    (hy : y ≠ b) (up : Side) (v : ℤ) (d : SettlementDimension) :
    entryNet b (signedBaseLine (if p then x else y) up v d) = 0 := by
  apply entryNet_signedBaseLine_of_ne
  split
  · exact hx
  · exact hy

theorem apLines_lawful {snapshot : SettlementCurrency → Option SettlementConversion}
    {p : PurchaseApState} (hsnap : snapshot .purchase = some p.conversion) (hr : p.InRange) {a : ℤ}
    (ha : 0 < a) (hle : a ≤ p.outstandingTxnMinor) (hc : p.conversion.Valid)
    (hne : p.conversion.base a ≠ 0) :
    ∀ l ∈ apLines (p.side a), l.Positive ∧ l.Priced snapshot := by
  intro l hl
  rw [apLines_eq, List.mem_append, List.mem_singleton] at hl
  rcases hl with rfl | hl
  · exact foreignLine_lawful nofun hsnap hc ⟨ha, hle.trans hr.outstanding.2⟩ hne rfl
  · exact signedBaseLine_lawful hl

theorem creditLines_lawful {snapshot : SettlementCurrency → Option SettlementConversion}
    {n : CreditNoteState} (hsnap : snapshot .note = some n.conversion) (hr : n.InRange) {c : ℤ}
    (hpos : 0 < c) (hle : c ≤ n.remainingMinor) (hc : n.conversion.Valid)
    (hne : n.conversion.base c ≠ 0) :
    ∀ l ∈ creditLines (n.side c), l.Positive ∧ l.Priced snapshot := by
  intro l hl
  rw [creditLines_eq, List.mem_append, List.mem_singleton] at hl
  rcases hl with rfl | hl
  · exact foreignLine_lawful nofun hsnap hc ⟨hpos, hle.trans hr.remaining.2⟩ hne rfl
  · exact signedBaseLine_lawful hl

/-! ## 2. Payment allocations -/

/-- The snapshots the currencies of a payment allocation name. -/
def PaymentAllocationInput.snapshot (i : PaymentAllocationInput) :
    SettlementCurrency → Option SettlementConversion
  | .purchase => some i.purchase.conversion
  | .payment => some i.payment
  | _ => none

theorem PaymentAllocationInput.entryBalance_plan (i : PaymentAllocationInput) :
    entryBalance i.plan.entryLines = 0 := by
  simp only [PaymentAllocationInput.plan, entryBalance_append, entryBalance_cons, entryBalance_nil,
    entryBalance_apLines, entryBalance_signedBaseLine, Side.signed_C, Side.signed_D]
  omega

/-- The AP account is debited the carrying base released. -/
theorem PaymentAllocationInput.entryNet_plan (i : PaymentAllocationInput) :
    entryNet .accountsPayable i.plan.entryLines = i.plan.carryingReleasedMinor := by
  simp only [PaymentAllocationInput.plan, entryNet_append, entryNet_cons, entryNet_nil,
    entryNet_apLines]
  rw [entryNet_realized (by decide) (by decide)]
  simp

theorem PaymentAllocationInput.Lawful.lines_lawful {i : PaymentAllocationInput} (h : i.Lawful) :
    ∀ l ∈ i.plan.entryLines, l.Positive ∧ l.Priced i.snapshot := by
  intro l hl
  rw [PaymentAllocationInput.plan, List.mem_append, List.mem_append, List.mem_singleton] at hl
  rcases hl with (hl | rfl) | hl
  · exact apLines_lawful rfl h.range h.applied_pos h.applied_le h.conversion h.converted l hl
  · exact foreignLine_lawful nofun rfl h.payment_conversion h.payment_minor
      h.payment_converted rfl
  · exact signedBaseLine_lawful hl

/-- **The balance check of a payment allocation never refuses.** -/
theorem paymentAllocationDraft_balanced {i : PaymentAllocationInput} {p : PaymentAllocationPlan}
    (hp : paymentAllocationDraft i = .ok p) : balanced p.entryLines = .ok p.entryLines := by
  obtain ⟨hl, rfl⟩ := paymentAllocationDraft_eq_ok.mp hp
  exact balanced_eq_ok.mpr ⟨fun l hl' => (hl.lines_lawful l hl').1, i.entryBalance_plan, rfl⟩

theorem planPaymentAllocation_eq_draft (i : PaymentAllocationInput) :
    planPaymentAllocation i = paymentAllocationDraft i :=
  bind_check_eq_self (fun _ => rfl) fun _ hp => paymentAllocationDraft_balanced hp

theorem planPaymentAllocation_eq_ok {i : PaymentAllocationInput} {p : PaymentAllocationPlan} :
    planPaymentAllocation i = .ok p ↔ i.Lawful ∧ i.plan = p := by
  rw [planPaymentAllocation_eq_draft, paymentAllocationDraft_eq_ok]

/-! ## 3. Credit allocations -/

def CreditAllocationInput.snapshot (i : CreditAllocationInput) :
    SettlementCurrency → Option SettlementConversion
  | .purchase => some i.purchase.conversion
  | .note => some i.note.conversion
  | _ => none

theorem CreditAllocationInput.entryBalance_plan (i : CreditAllocationInput) :
    entryBalance i.plan.entryLines = 0 := by
  simp only [CreditAllocationInput.plan, entryBalance_append, entryBalance_apLines,
    entryBalance_creditLines, entryBalance_signedBaseLine, Side.signed_D]
  omega

/-- The AP account is debited the carrying base released, the note credited the credit released. -/
theorem CreditAllocationInput.entryNet_plan (i : CreditAllocationInput) :
    entryNet .accountsPayable i.plan.entryLines = i.plan.carryingReleasedMinor ∧
      entryNet .supplierReceivable i.plan.entryLines = -i.plan.creditReleasedMinor := by
  simp only [CreditAllocationInput.plan, entryNet_append, entryNet_apLines, entryNet_creditLines]
  constructor
  · rw [entryNet_creditLines_of_ne _ (by decide), entryNet_realized (by decide) (by decide)]
    simp
  · rw [entryNet_apLines_of_ne _ (by decide), entryNet_realized (by decide) (by decide)]
    simp

theorem CreditAllocationInput.Lawful.lines_lawful {i : CreditAllocationInput} (h : i.Lawful) :
    ∀ l ∈ i.plan.entryLines, l.Positive ∧ l.Priced i.snapshot := by
  intro l hl
  rw [CreditAllocationInput.plan, List.mem_append, List.mem_append] at hl
  rcases hl with (hl | hl) | hl
  · exact apLines_lawful rfl h.range h.applied_pos h.applied_le h.conversion h.converted l hl
  · exact creditLines_lawful rfl h.note_range h.consumed_pos h.consumed_le h.note_conversion
      h.note_converted l hl
  · exact signedBaseLine_lawful hl

/-- **The balance check of a credit allocation never refuses.** -/
theorem creditAllocationDraft_balanced {i : CreditAllocationInput} {p : CreditAllocationPlan}
    (hp : creditAllocationDraft i = .ok p) : balanced p.entryLines = .ok p.entryLines := by
  obtain ⟨hl, rfl⟩ := creditAllocationDraft_eq_ok.mp hp
  exact balanced_eq_ok.mpr ⟨fun l hl' => (hl.lines_lawful l hl').1, i.entryBalance_plan, rfl⟩

theorem planCreditAllocation_eq_draft (i : CreditAllocationInput) :
    planCreditAllocation i = creditAllocationDraft i :=
  bind_check_eq_self (fun _ => rfl) fun _ hp => creditAllocationDraft_balanced hp

theorem planCreditAllocation_eq_ok {i : CreditAllocationInput} {p : CreditAllocationPlan} :
    planCreditAllocation i = .ok p ↔ i.Lawful ∧ i.plan = p := by
  rw [planCreditAllocation_eq_draft, creditAllocationDraft_eq_ok]

/-! ## 4. Refunds -/

def RefundInput.snapshot (i : RefundInput) : SettlementCurrency → Option SettlementConversion
  | .note => some i.note.conversion
  | .receipt => some i.receipt
  | _ => none

theorem RefundInput.entryBalance_plan (i : RefundInput) : entryBalance i.plan.entryLines = 0 := by
  simp only [RefundInput.plan, entryBalance_append, entryBalance_cons, entryBalance_nil,
    entryBalance_creditLines, entryBalance_signedBaseLine, Side.signed_C, Side.signed_D]
  omega

/-- The note is credited the credit released. -/
theorem RefundInput.entryNet_plan (i : RefundInput) :
    entryNet .supplierReceivable i.plan.entryLines = -i.plan.creditReleasedMinor := by
  simp only [RefundInput.plan, entryNet_append, entryNet_cons, entryNet_nil, entryNet_creditLines]
  rw [entryNet_realized (by decide) (by decide)]
  simp

theorem RefundInput.Lawful.lines_lawful {i : RefundInput} (h : i.Lawful) :
    ∀ l ∈ i.plan.entryLines, l.Positive ∧ l.Priced i.snapshot := by
  intro l hl
  rw [RefundInput.plan, List.mem_append, List.mem_append, List.mem_singleton] at hl
  rcases hl with (rfl | hl) | hl
  · exact foreignLine_lawful nofun rfl h.receipt_conversion h.receipt_minor
      h.receipt_converted rfl
  · exact creditLines_lawful rfl h.note_range h.consumed_pos h.consumed_le h.note_conversion
      h.note_converted l hl
  · exact signedBaseLine_lawful hl

/-- **The balance check of a refund never refuses.** -/
theorem refundDraft_balanced {i : RefundInput} {p : RefundPlan}
    (hp : refundDraft i = .ok p) : balanced p.entryLines = .ok p.entryLines := by
  obtain ⟨hl, rfl⟩ := refundDraft_eq_ok.mp hp
  exact balanced_eq_ok.mpr ⟨fun l hl' => (hl.lines_lawful l hl').1, i.entryBalance_plan, rfl⟩

theorem planRefund_eq_draft (i : RefundInput) :
    planRefund i = refundDraft i :=
  bind_check_eq_self (fun _ => rfl) fun _ hp => refundDraft_balanced hp

theorem planRefund_eq_ok {i : RefundInput} {p : RefundPlan} :
    planRefund i = .ok p ↔ i.Lawful ∧ i.plan = p := by
  rw [planRefund_eq_draft, refundDraft_eq_ok]

/-! ## 5. Supplier returns -/

def returnBalance (lines : List SupplierReturnEntryLine) : ℤ :=
  balance SupplierReturnEntryLine.side SupplierReturnEntryLine.baseAmountMinor lines

def returnNet (a : SupplierReturnAccount) (lines : List SupplierReturnEntryLine) : ℤ :=
  balanceOf SupplierReturnEntryLine.side SupplierReturnEntryLine.baseAmountMinor
    SupplierReturnEntryLine.systemKey a lines

/-- Both amounts of a line are positive, and they are equal in base or converted by the caller's
    conversion. -/
def SupplierReturnEntryLine.Lawful (convert : ConvertTxnToBase) (l : SupplierReturnEntryLine) :
    Prop :=
  0 < l.baseAmountMinor ∧ 0 < l.txnAmountMinor ∧
    match l.currency with
    | .base => l.txnAmountMinor = l.baseAmountMinor
    | .purchase => convert l.txnAmountMinor = .ok l.baseAmountMinor

theorem checkReturnLines_eq_ok {ls r : List SupplierReturnEntryLine} :
    checkReturnLines ls = .ok r ↔ (∀ l ∈ ls, 0 < l.baseAmountMinor) ∧ returnBalance ls = 0 ∧
      (∃ l ∈ ls, l.side = .D) ∧ ls = r := by
  simp only [checkReturnLines, bind_eq_ok, runningBalance_eq_ok, refuseIf_eq_ok, exists_const,
    pure_eq_ok, zero_add, not_or, not_not, ne_eq, not_le, List.any_eq_true, decide_eq_true_eq]
  constructor
  · rintro ⟨b, ⟨hpos, rfl⟩, ⟨h0, hd⟩, rfl⟩
    exact ⟨hpos, h0, hd, rfl⟩
  · rintro ⟨hpos, h0, hd, rfl⟩
    exact ⟨_, ⟨hpos, rfl⟩, ⟨h0, hd⟩, rfl⟩

namespace SupplierReturnPlan.Drafted

variable {i : SupplierReturnPlanInput} {p : SupplierReturnPlan} (h : p.Drafted i)
include h

/-- Each converted amount, its presence aside, is the balance of its line. -/
theorem converted_or_zero :
    (p.apTxnMinor = 0 ∧ p.apConvertedMinor = 0 ∨
      p.apTxnMinor ≠ 0 ∧ i.convert p.apTxnMinor = .ok p.apConvertedMinor ∧ 0 < p.apConvertedMinor) ∧
    (p.creditTxnMinor = 0 ∧ p.creditBaseMinor = 0 ∨
      p.creditTxnMinor ≠ 0 ∧ i.convert p.creditTxnMinor = .ok p.creditBaseMinor ∧
        0 < p.creditBaseMinor) := by
  constructor
  · rcases convertPositive_eq_ok.mp h.apConverted with hz | ⟨hne, hc, hpos, _⟩
    · exact .inl hz
    · exact .inr ⟨hne, hc, hpos⟩
  · rcases convertPositive_eq_ok.mp h.creditBase with hz | ⟨hne, hc, hpos, _⟩
    · exact .inl hz
    · exact .inr ⟨hne, hc, hpos⟩

theorem lines_lawful : ∀ l ∈ p.entryLines, l.Lawful i.convert := by
  have hap := h.ap_nonneg
  have hcr := h.credit_nonneg
  have hinv := h.inventory.1
  obtain ⟨hac, hcb⟩ := h.converted_or_zero
  intro l hl
  rw [h.entry_eq] at hl
  simp only [supplierReturnLines, List.mem_append, List.mem_ite_nil_right, List.mem_singleton] at hl
  rcases hl with (((⟨hne, rfl⟩ | ⟨hne, rfl⟩) | ⟨hne, rfl⟩) | ⟨hne, rfl⟩) | ⟨hne, rfl⟩
  · rcases hac with ⟨hz, _⟩ | ⟨_, hc, hpos⟩
    · exact absurd hz hne
    · exact ⟨hpos, lt_of_le_of_ne hap (Ne.symm hne), hc⟩
  · exact ⟨abs_pos.mpr hne, abs_pos.mpr hne, rfl⟩
  · rcases hcb with ⟨hz, _⟩ | ⟨_, hc, hpos⟩
    · exact absurd hz hne
    · exact ⟨hpos, lt_of_le_of_ne hcr (Ne.symm hne), hc⟩
  · exact ⟨lt_of_le_of_ne hinv (Ne.symm hne), lt_of_le_of_ne hinv (Ne.symm hne), rfl⟩
  · exact ⟨abs_pos.mpr hne, abs_pos.mpr hne, rfl⟩

theorem ite_converted :
    (if p.apTxnMinor ≠ 0 then p.apConvertedMinor else 0) = p.apConvertedMinor ∧
      (if p.creditTxnMinor ≠ 0 then p.creditBaseMinor else 0) = p.creditBaseMinor := by
  obtain ⟨hac, hcb⟩ := h.converted_or_zero
  constructor
  · rcases hac with ⟨hz, hc⟩ | ⟨hne, _⟩
    · rw [if_neg (not_not.mpr hz), hc]
    · exact if_pos hne
  · rcases hcb with ⟨hz, hc⟩ | ⟨hne, _⟩
    · rw [if_neg (not_not.mpr hz), hc]
    · exact if_pos hne

/-- The entry sums to nothing: the released base and the credit against the goods and the
    variance. -/
theorem returnBalance_lines : returnBalance p.entryLines = 0 := by
  obtain ⟨hac, hcb⟩ := h.ite_converted
  have hdust : (if p.apDustBaseMinor ≠ 0 then
      (if p.apDustBaseMinor > 0 then Side.D else .C).signed |p.apDustBaseMinor| else 0) =
      p.apDustBaseMinor := ite_signed_sideFor .D _
  have hppv : (if p.ppvMinor ≠ 0 then
      (if p.ppvMinor > 0 then Side.C else .D).signed |p.ppvMinor| else 0) = -p.ppvMinor :=
    ite_signed_sideFor .C _
  have hinv : (if p.inventoryValueMinor ≠ 0 then -p.inventoryValueMinor else 0) =
      -p.inventoryValueMinor := by
    split <;> omega
  rw [h.entry_eq, supplierReturnLines]
  simp only [returnBalance, balance_append, balance_ite_singleton, Side.signed_C, Side.signed_D,
    hac, hcb, hdust, hppv, hinv]
  have := h.dust_eq
  have := h.ppv_eq
  omega

/-- The AP account is debited the base released, the receivable the credit. -/
theorem returnNet_lines : returnNet .accountsPayable p.entryLines = p.apBaseMinor ∧
    returnNet .supplierReceivable p.entryLines = p.creditBaseMinor := by
  obtain ⟨hac, hcb⟩ := h.ite_converted
  have hdust : (if p.apDustBaseMinor ≠ 0 then
      (if p.apDustBaseMinor > 0 then Side.D else .C).signed |p.apDustBaseMinor| else 0) =
      p.apDustBaseMinor := ite_signed_sideFor .D _
  have := h.dust_eq
  rw [h.entry_eq, supplierReturnLines]
  simp only [returnNet, balanceOf_append, balanceOf_ite_singleton, Side.signed_D, reduceCtorEq,
    if_true, if_false, hac, hcb, hdust]
  omega

/-- Something is returned, so the entry has a debit: AP, a credit note, or the variance. -/
theorem exists_debit : ∃ l ∈ p.entryLines, l.side = .D := by
  have hcr := h.credit_eq
  have hcn := h.credit_nonneg
  have hin := h.inventory.1
  have hppv := h.ppv_eq
  rw [h.entry_eq]
  by_cases hap : p.apTxnMinor = 0
  · by_cases hcz : p.creditTxnMinor = 0
    · -- Nothing is credited back, so goods of some value left, and the variance is debited.
      have hb := h.ap_zero hap
      have hcb : p.creditBaseMinor = 0 := by
        rcases h.converted_or_zero.2 with ⟨_, hz⟩ | ⟨hne, _⟩
        · exact hz
        · exact absurd hcz hne
      have hworth := h.worth
      have hneg : p.ppvMinor < 0 := by omega
      refine ⟨⟨.purchasePriceVariance, .D, .base, |p.ppvMinor|, |p.ppvMinor|, .return⟩, ?_, rfl⟩
      simp [supplierReturnLines, hneg.ne, not_lt.mpr hneg.le]
    · refine ⟨⟨.supplierReceivable, .D, .purchase, p.creditTxnMinor, p.creditBaseMinor, .purchase⟩,
        ?_, rfl⟩
      simp [supplierReturnLines, hcz]
  · refine ⟨⟨.accountsPayable, .D, .purchase, p.apTxnMinor, p.apConvertedMinor, .purchase⟩, ?_, rfl⟩
    simp [supplierReturnLines, hap]

end SupplierReturnPlan.Drafted

/-- **The balance check of a supplier return never refuses.** -/
theorem supplierReturnDraft_balanced {i : SupplierReturnPlanInput} {p : SupplierReturnPlan}
    (hp : supplierReturnDraft i = .ok p) :
    supplierReturnEntryLines p.toSupplierReturnEntryAmounts = .ok p.entryLines := by
  have h := supplierReturnDraft_drafted hp
  rw [supplierReturnEntryLines, ← h.entry_eq]
  exact checkReturnLines_eq_ok.mpr
    ⟨fun l hl => (h.lines_lawful l hl).1, h.returnBalance_lines, h.exists_debit, rfl⟩

theorem planSupplierReturn_eq_draft (i : SupplierReturnPlanInput) :
    planSupplierReturn i = supplierReturnDraft i := by
  unfold planSupplierReturn
  cases hdraft : supplierReturnDraft i with
  | error e => rfl
  | ok p =>
    rw [ok_bind, supplierReturnDraft_balanced hdraft]
    rfl

/-- An accepted return is a drafted one. -/
theorem planSupplierReturn_drafted {i : SupplierReturnPlanInput} {p : SupplierReturnPlan}
    (h : planSupplierReturn i = .ok p) : p.Drafted i :=
  supplierReturnDraft_drafted (planSupplierReturn_eq_draft i ▸ h)

end Daftar.Inventory
