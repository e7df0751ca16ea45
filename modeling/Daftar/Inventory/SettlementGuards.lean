/-
  File: Daftar/Inventory/SettlementGuards.lean
  Subject: The COMMIT-time guards of the three settlement tables.

  * `supplierPaymentAllocationValueComplete`, `supplierCreditAllocationValueComplete` and
    `supplierRefundValueComplete` judge a row `NEW` that is in its table already.
  * `PurchaseFacts` and `NoteFacts` say what the guards read of a purchase and of a credit note
    when the package computes from the same rows.
  * The `_eq_ok` lemma of a guard lists what it asks of the row: the AP side (`ApAccepted`), the
    credit side (`CreditAccepted`), the rest of the figures and the chains.
-/

import Daftar.Inventory.SettlementTables

namespace Daftar.Inventory

open Fallible
open Rounding
open Tables
open Tiling

/-! ## 1. The guards -/

/-- The remainder a row leaves is nothing or converts to at least one base unit. -/
def residueGuard (left : ℤ) (rate : ℚ) (txnExp baseExp : ℤ) (e : SqlError) : Routine Unit :=
  if 0 < left then do
    let converted ← supplierConvertBase left rate txnExp baseExp
    refuseIf (converted = 0) e
  else .ok ()

def paymentNeedsReceived : SqlError :=
  .raised "supplier_payment.purchase_state_invalid: only a received purchase is settled"

def paymentNeedsUnreversed : SqlError :=
  .raised "supplier_payment.purchase_reversed: a reversed purchase is not settled"

def allocationSettlesAtMost : SqlError :=
  .raised ("supplier_payment.settlement_inconsistent: an allocation settles at most its received " ++
    "purchase's total")

def allocationBelowBaseUnit : SqlError :=
  .raised ("supplier_payment.amount_below_base_unit: an allocated amount converts to at least one " ++
    "base unit")

def allocationResidue : SqlError :=
  .raised ("supplier_payment.residue_below_base_unit: an allocation leaves its purchase nothing " ++
    "outstanding or an amount converting to at least one base unit")

def allocationAmounts : SqlError :=
  .raised ("supplier_payment.settlement_inconsistent: an allocation's amounts are not the A-08 " ++
    "amounts of its purchase and payment")

/-- A rate that is NULL is refused by the conversion, as one that is not positive. -/
def supplierPaymentAllocationValueComplete (db : SettlementDb) (new : PaymentAllocationRow) :
    Routine Unit := do
  let p ← someOr (db.purchases.find? new.purchaseId) paymentNeedsReceived
  refuseIf (p.status ≠ .received) paymentNeedsReceived
  refuseIf (new.purchaseId ∈ db.purchaseReversals) paymentNeedsUnreversed
  let totalBase ← someOr p.totalBaseMinor allocationSettlesAtMost
  let h ← someOr (db.supplierPayments.find? new.paymentId) allocationSettlesAtMost
  let et ← someOr (db.minorUnits p.currencyCode) allocationSettlesAtMost
  let ep ← someOr (db.minorUnits h.currencyCode) allocationSettlesAtMost
  let eb ← someOr (db.minorUnits db.baseCurrency) allocationSettlesAtMost
  refuseIf (new.apReleasedBeforeTxnMinor + new.purchaseAmountAppliedMinor > p.totalTxnMinor)
    allocationSettlesAtMost
  let rate := p.sourceToBaseRate.getD 0
  let rel ← supplierApRelease totalBase p.totalTxnMinor new.apReleasedBeforeTxnMinor
    new.purchaseAmountAppliedMinor
  let conv ← supplierConvertBase new.purchaseAmountAppliedMinor rate et eb
  let pb ← supplierConvertBase new.paymentAmountMinor h.paymentToBaseRate ep eb
  refuseIf (conv = 0 ∨ pb = 0) allocationBelowBaseUnit
  residueGuard (p.totalTxnMinor - new.apReleasedBeforeTxnMinor - new.purchaseAmountAppliedMinor)
    rate et eb allocationResidue
  refuseIf (new.purchaseCurrency ≠ p.currencyCode ∨
    some new.purchaseHistoricalToBaseRate ≠ p.sourceToBaseRate ∨
    new.paymentCurrency ≠ h.currencyCode ∨ new.paymentToBaseRate ≠ h.paymentToBaseRate ∨
    new.purchaseCarryingBaseReleasedMinor ≠ rel ∨ new.apDustBaseMinor ≠ rel - conv ∨
    new.paymentBaseAmountMinor ≠ pb ∨ new.realizedFxGainLossMinor ≠ pb - rel) allocationAmounts
  purchaseSettlementVerify db new.purchaseId

def creditNeedsReceived : SqlError :=
  .raised ("supplier_credit_allocation.purchase_state_invalid: a supplier credit is applied to a " ++
    "received purchase only")

def creditNeedsUnreversed : SqlError :=
  .raised ("supplier_credit_allocation.purchase_reversed: a supplier credit is not applied to a " ++
    "reversed purchase")

def creditSettlesAtMost : SqlError :=
  .raised ("supplier_payment.settlement_inconsistent: a credit allocation settles at most its " ++
    "received purchase's total")

def creditConsumesWithin : SqlError :=
  .raised ("supplier_credit_note.consumption_inconsistent: a credit allocation consumes within its " ++
    "note's original amount")

def creditBelowBaseUnit : SqlError :=
  .raised ("supplier_credit_allocation.amount_below_base_unit: an applied or consumed amount " ++
    "converts to at least one base unit")

def creditResidue : SqlError :=
  .raised ("supplier_credit_allocation.residue_below_base_unit: an allocation leaves its purchase " ++
    "and its note each nothing outstanding or an amount converting to at least one base unit")

def creditApAmounts : SqlError :=
  .raised ("supplier_payment.settlement_inconsistent: a credit allocation's AP amounts are not the " ++
    "A-08 amounts of its purchase")

def creditAmounts : SqlError :=
  .raised ("supplier_credit_note.consumption_inconsistent: a credit allocation's credit amounts " ++
    "are not the A-10 amounts of its note")

def supplierCreditAllocationValueComplete (db : SettlementDb) (new : CreditAllocationRow) :
    Routine Unit := do
  let p ← someOr (db.purchases.find? new.purchaseId) creditNeedsReceived
  refuseIf (p.status ≠ .received) creditNeedsReceived
  refuseIf (new.purchaseId ∈ db.purchaseReversals) creditNeedsUnreversed
  let totalBase ← someOr p.totalBaseMinor creditSettlesAtMost
  let n ← someOr (db.supplierCreditNotes.find? new.creditNoteId) creditSettlesAtMost
  let et ← someOr (db.minorUnits p.currencyCode) creditSettlesAtMost
  let en ← someOr (db.minorUnits n.currencyCode) creditSettlesAtMost
  let eb ← someOr (db.minorUnits db.baseCurrency) creditSettlesAtMost
  refuseIf (new.apReleasedBeforeTxnMinor + new.purchaseAmountAppliedMinor > p.totalTxnMinor)
    creditSettlesAtMost
  refuseIf (new.creditRemainingBeforeMinor > n.originalMinor) creditConsumesWithin
  let rate := p.sourceToBaseRate.getD 0
  let rel ← supplierApRelease totalBase p.totalTxnMinor new.apReleasedBeforeTxnMinor
    new.purchaseAmountAppliedMinor
  let conv ← supplierConvertBase new.purchaseAmountAppliedMinor rate et eb
  let crConv ← supplierConvertBase new.creditAmountConsumedMinor n.sourceToBaseRate en eb
  refuseIf (conv = 0 ∨ crConv = 0) creditBelowBaseUnit
  residueGuard (p.totalTxnMinor - new.apReleasedBeforeTxnMinor - new.purchaseAmountAppliedMinor)
    rate et eb creditResidue
  residueGuard (new.creditRemainingBeforeMinor - new.creditAmountConsumedMinor) n.sourceToBaseRate
    en eb creditResidue
  refuseIf (new.purchaseCurrency ≠ p.currencyCode ∨
    some new.purchaseHistoricalToBaseRate ≠ p.sourceToBaseRate ∨
    new.purchaseCarryingBaseReleasedMinor ≠ rel ∨ new.apDustBaseMinor ≠ rel - conv) creditApAmounts
  let before ← supplierCreditRemainingCarrying n.originalMinor n.originalCarryingMinor
    new.creditRemainingBeforeMinor
  let after ← supplierCreditRemainingCarrying n.originalMinor n.originalCarryingMinor
    (new.creditRemainingBeforeMinor - new.creditAmountConsumedMinor)
  let crRel := before - after
  refuseIf (new.creditCurrency ≠ n.currencyCode ∨ new.creditToBaseRate ≠ n.sourceToBaseRate ∨
    new.creditCarryingBaseReleasedMinor ≠ crRel ∨ new.creditDustBaseMinor ≠ crRel - crConv ∨
    new.realizedFxGainLossMinor ≠ crRel - rel) creditAmounts
  purchaseSettlementVerify db new.purchaseId
  supplierCreditNoteVerify db new.creditNoteId

def refundConsumesExisting : SqlError :=
  .raised ("supplier_credit_note.consumption_inconsistent: a refund consumes an existing credit " ++
    "note")

def refundBelowBaseUnit : SqlError :=
  .raised ("supplier_refund.amount_below_base_unit: a consumed or received amount converts to at " ++
    "least one base unit")

def refundResidue : SqlError :=
  .raised ("supplier_refund.residue_below_base_unit: a refund leaves its note nothing or an amount " ++
    "converting to at least one base unit")

def refundAmounts : SqlError :=
  .raised ("supplier_credit_note.consumption_inconsistent: a refund's amounts are not the A-10 " ++
    "amounts of its note and receipt")

def supplierRefundValueComplete (db : SettlementDb) (new : RefundRow) : Routine Unit := do
  let n ← someOr (db.supplierCreditNotes.find? new.creditNoteId) refundConsumesExisting
  let en ← someOr (db.minorUnits n.currencyCode) refundConsumesExisting
  let er ← someOr (db.minorUnits new.receiptCurrency) refundConsumesExisting
  let eb ← someOr (db.minorUnits db.baseCurrency) refundConsumesExisting
  refuseIf (new.creditRemainingBeforeMinor > n.originalMinor) refundConsumesExisting
  let crConv ← supplierConvertBase new.sourceAmountConsumedMinor n.sourceToBaseRate en eb
  let mb ← supplierConvertBase new.receiptAmountMinor new.receiptToBaseRate er eb
  refuseIf (crConv = 0 ∨ mb = 0) refundBelowBaseUnit
  residueGuard (new.creditRemainingBeforeMinor - new.sourceAmountConsumedMinor) n.sourceToBaseRate
    en eb refundResidue
  let before ← supplierCreditRemainingCarrying n.originalMinor n.originalCarryingMinor
    new.creditRemainingBeforeMinor
  let after ← supplierCreditRemainingCarrying n.originalMinor n.originalCarryingMinor
    (new.creditRemainingBeforeMinor - new.sourceAmountConsumedMinor)
  let crRel := before - after
  refuseIf (new.sourceCurrency ≠ n.currencyCode ∨ new.sourceToBaseRate ≠ n.sourceToBaseRate ∨
    new.sourceCarryingBaseReleasedMinor ≠ crRel ∨ new.sourceDustBaseMinor ≠ crRel - crConv ∨
    new.receiptBaseAmountMinor ≠ mb ∨ new.realizedFxGainLossMinor ≠ mb - crRel) refundAmounts
  supplierCreditNoteVerify db new.creditNoteId

/-! ## 2. What the guards read -/

/-- The exponents of a currency and of the base currency are those of the snapshot. -/
structure SnapshotOf (db : SettlementDb) (currency : String) (c : SettlementConversion) : Prop where
  valid : c.Valid
  txnExponent : db.minorUnits currency = some c.txnExponent
  baseExponent : db.minorUnits db.baseCurrency = some c.baseExponent

/-- The stored purchase a reducer computes from. -/
structure PurchaseFacts (db : SettlementDb) (r : PurchaseRecord) (p : PurchaseApState) : Prop where
  stored : db.purchases.find? r.id = some r
  received : r.status = .received
  unreversed : r.id ∉ db.purchaseReversals
  total : r.totalTxnMinor = p.totalTxnMinor
  base : r.totalBaseMinor = some p.totalBaseMinor
  rate : r.sourceToBaseRate = some p.conversion.rate
  snapshot : SnapshotOf db r.currencyCode p.conversion

/-- The stored credit note a consumer computes from. -/
structure NoteFacts (db : SettlementDb) (r : CreditNoteRecord) (n : CreditNoteState) : Prop where
  stored : db.supplierCreditNotes.find? r.id = some r
  original : r.originalMinor = n.originalMinor
  carrying : r.originalCarryingMinor = n.originalCarryingMinor
  rate : r.sourceToBaseRate = n.conversion.rate
  snapshot : SnapshotOf db r.currencyCode n.conversion

/-- The stored payment an allocation belongs to. -/
structure PaymentFacts (db : SettlementDb) (r : SupplierPaymentRecord) (c : SettlementConversion) :
    Prop where
  stored : db.supplierPayments.find? r.id = some r
  rate : r.paymentToBaseRate = c.rate
  snapshot : SnapshotOf db r.currencyCode c

/-! ## 3. What the guards ask -/

/-- A remainder that passes the residue guard. -/
def LeavesUnit (c : SettlementConversion) (left : ℤ) : Prop :=
  0 < left → IsBigint (c.base left) ∧ c.base left ≠ 0

theorem residueGuard_eq_ok {c : SettlementConversion} (hc : c.Valid) {left : ℤ} {e : SqlError}
    {u : Unit} :
    residueGuard left c.rate c.txnExponent c.baseExponent e = .ok u ↔ LeavesUnit c left := by
  unfold residueGuard LeavesUnit
  by_cases hl : 0 < left
  · simp only [hl, if_true, forall_const, bind_eq_ok, supplierConvertBase_eq_ok hc, refuseIf_eq_ok]
    constructor
    · intro h
      obtain ⟨b, ⟨hfit, rfl⟩, hne⟩ := h
      exact ⟨hfit, hne⟩
    · intro h
      exact ⟨_, ⟨h.1, rfl⟩, h.2⟩
  · simp [hl]

/-- An amount that converts, within BIGINT, to something. -/
structure Converts (c : SettlementConversion) (x : ℤ) : Prop where
  fits : IsBigint (c.base x)
  nonzero : c.base x ≠ 0

/-- The AP side of a row: the amount `a` reduced from the level `x` on, its release and its dust. -/
structure ApAccepted (p : PurchaseApState) (x a rel dust : ℤ) : Prop where
  level : 0 ≤ x
  amount : 0 ≤ a
  within : x + a ≤ p.totalTxnMinor
  converted : Converts p.conversion a
  residue : LeavesUnit p.conversion (p.totalTxnMinor - x - a)
  released : rel = apShare p.totalBaseMinor p.totalTxnMinor (x + a) -
    apShare p.totalBaseMinor p.totalTxnMinor x
  dust : dust = rel - p.conversion.base a

/-- The credit side of a row: the amount `c` consumed from the remaining `rb`, its release and its
    dust. -/
structure CreditAccepted (n : CreditNoteState) (rb c rel dust : ℤ) : Prop where
  level : 0 ≤ rb
  remaining : rb ≤ n.originalMinor
  within : c ≤ rb
  after : rb - c ≤ n.originalMinor
  converted : Converts n.conversion c
  residue : LeavesUnit n.conversion (rb - c)
  released : rel = n.kept rb - n.kept (rb - c)
  dust : dust = rel - n.conversion.base c

/-- Both snapshots of a row end in the base currency. -/
theorem supplierConvertBase_shared {db : SettlementDb} {k k' : String} {c c' : SettlementConversion}
    (h : SnapshotOf db k c) (h' : SnapshotOf db k' c') {x b : ℤ} :
    supplierConvertBase x c.rate c.txnExponent c'.baseExponent = .ok b ↔
      IsBigint (c.base x) ∧ c.base x = b := by
  have heb : c'.baseExponent = c.baseExponent :=
    Option.some.inj (h'.baseExponent.symm.trans h.baseExponent)
  rw [heb]
  exact supplierConvertBase_eq_ok h.valid

theorem residueGuard_shared {db : SettlementDb} {k k' : String} {c c' : SettlementConversion}
    (h : SnapshotOf db k c) (h' : SnapshotOf db k' c') {left : ℤ} {e : SqlError} {u : Unit} :
    residueGuard left c.rate c.txnExponent c'.baseExponent e = .ok u ↔ LeavesUnit c left := by
  have heb : c'.baseExponent = c.baseExponent :=
    Option.some.inj (h'.baseExponent.symm.trans h.baseExponent)
  rw [heb]
  exact residueGuard_eq_ok h.valid

/-- **What the guard of a payment allocation asks** of a row. -/
theorem supplierPaymentAllocationValueComplete_eq_ok {db : SettlementDb} {r : PurchaseRecord}
    {p : PurchaseApState} {h : SupplierPaymentRecord} {c : SettlementConversion}
    {new : PaymentAllocationRow} (hp : PurchaseFacts db r p) (ht : IsMinor 1 p.totalTxnMinor)
    (hb : IsMinor 1 p.totalBaseMinor) (hh : PaymentFacts db h c) (hr : new.purchaseId = r.id)
    (hpay : new.paymentId = h.id) {u : Unit} :
    supplierPaymentAllocationValueComplete db new = .ok u ↔
      ApAccepted p new.apReleasedBeforeTxnMinor new.purchaseAmountAppliedMinor
        new.purchaseCarryingBaseReleasedMinor new.apDustBaseMinor ∧
      Converts c new.paymentAmountMinor ∧
      (new.purchaseCurrency = r.currencyCode ∧
        new.purchaseHistoricalToBaseRate = p.conversion.rate ∧
        new.paymentCurrency = h.currencyCode ∧ new.paymentToBaseRate = c.rate) ∧
      (new.paymentBaseAmountMinor = c.base new.paymentAmountMinor ∧
        new.realizedFxGainLossMinor =
          c.base new.paymentAmountMinor - new.purchaseCarryingBaseReleasedMinor) ∧
      purchaseSettlementVerify db r.id = .ok u := by
  unfold supplierPaymentAllocationValueComplete
  simp only [hr, hpay, hp.stored, hp.received, hp.unreversed, hp.total, hp.base, hp.rate, hh.stored,
    hh.rate, hp.snapshot.txnExponent, hp.snapshot.baseExponent, hh.snapshot.txnExponent,
    someOr_some, ok_bind, bind_eq_ok, refuseIf_eq_ok, exists_const, Option.getD_some,
    supplierConvertBase_eq_ok hp.snapshot.valid, supplierConvertBase_shared hh.snapshot hp.snapshot,
    residueGuard_eq_ok hp.snapshot.valid,
    supplierApRelease_minor_eq_ok ht hb, ne_eq, not_true_eq_false, not_false_eq_true, true_and,
    not_or, not_not, gt_iff_lt, not_lt, Option.some.injEq]
  constructor
  · intro hok
    obtain ⟨hle, rel, ⟨⟨hx, ha, _⟩, hrel⟩, _, ⟨hfit, rfl⟩, _, ⟨hpfit, rfl⟩, ⟨hne, hpne⟩, hres,
      ⟨hcur, hrate, hpcur, hprate, hrel', hdust, hbase, hreal⟩, hverify⟩ := hok
    obtain rfl := hrel'
    exact ⟨⟨hx, ha, hle, ⟨hfit, hne⟩, hres, hrel.symm, hdust⟩, ⟨hpfit, hpne⟩,
      ⟨hcur, hrate, hpcur, hprate⟩, ⟨hbase, hreal⟩, hverify⟩
  · intro hok
    obtain ⟨hap, hpay', ⟨hcur, hrate, hpcur, hprate⟩, ⟨hbase, hreal⟩, hverify⟩ := hok
    exact ⟨hap.within, _, ⟨⟨hap.level, hap.amount, hap.within⟩, hap.released.symm⟩, _,
      ⟨hap.converted.fits, rfl⟩, _, ⟨hpay'.fits, rfl⟩, ⟨hap.converted.nonzero, hpay'.nonzero⟩,
      hap.residue, ⟨hcur, hrate, hpcur, hprate, rfl, hap.dust, hbase, hreal⟩, hverify⟩

/-- **What the guard of a credit allocation asks** of a row. -/
theorem supplierCreditAllocationValueComplete_eq_ok {db : SettlementDb} {r : PurchaseRecord}
    {p : PurchaseApState} {k : CreditNoteRecord} {n : CreditNoteState} {new : CreditAllocationRow}
    (hp : PurchaseFacts db r p) (ht : IsMinor 1 p.totalTxnMinor) (hb : IsMinor 1 p.totalBaseMinor)
    (hn : NoteFacts db k n) (hoa : IsMinor 1 n.originalMinor)
    (hob : IsMinor 1 n.originalCarryingMinor) (hr : new.purchaseId = r.id)
    (hk : new.creditNoteId = k.id) {u : Unit} :
    supplierCreditAllocationValueComplete db new = .ok u ↔
      ApAccepted p new.apReleasedBeforeTxnMinor new.purchaseAmountAppliedMinor
        new.purchaseCarryingBaseReleasedMinor new.apDustBaseMinor ∧
      CreditAccepted n new.creditRemainingBeforeMinor new.creditAmountConsumedMinor
        new.creditCarryingBaseReleasedMinor new.creditDustBaseMinor ∧
      (new.purchaseCurrency = r.currencyCode ∧
        new.purchaseHistoricalToBaseRate = p.conversion.rate ∧
        new.creditCurrency = k.currencyCode ∧ new.creditToBaseRate = n.conversion.rate) ∧
      new.realizedFxGainLossMinor =
        new.creditCarryingBaseReleasedMinor - new.purchaseCarryingBaseReleasedMinor ∧
      purchaseSettlementVerify db r.id = .ok u ∧ supplierCreditNoteVerify db k.id = .ok u := by
  unfold supplierCreditAllocationValueComplete
  simp only [hr, hk, hp.stored, hp.received, hp.unreversed, hp.total, hp.base, hp.rate, hn.stored,
    hn.rate, hn.original, hn.carrying, hp.snapshot.txnExponent, hp.snapshot.baseExponent,
    hn.snapshot.txnExponent, someOr_some, ok_bind, bind_eq_ok, refuseIf_eq_ok, exists_const,
    Option.getD_some, supplierConvertBase_eq_ok hp.snapshot.valid,
    supplierConvertBase_shared hn.snapshot hp.snapshot, residueGuard_shared hn.snapshot hp.snapshot,
    residueGuard_eq_ok hp.snapshot.valid, supplierApRelease_minor_eq_ok ht hb,
    supplierCreditRemainingCarrying_minor_eq_ok hoa hob, ne_eq, not_true_eq_false,
    not_false_eq_true, true_and, not_or, not_not, gt_iff_lt, not_lt, Option.some.injEq]
  constructor
  · intro hok
    obtain ⟨hle, hrb, rel, ⟨⟨hx, ha, _⟩, hrel⟩, _, ⟨hfit, rfl⟩, _, ⟨hcfit, rfl⟩, ⟨hne, hcne⟩, hres,
      hcres, ⟨hcur, hrate, hrel', hdust⟩, before, ⟨⟨hlevel, _⟩, hbefore⟩, after,
      ⟨⟨hwithin, hafter⟩, hkept⟩, ⟨hccur, hcrate, hcrel, hcdust, hreal⟩, _, hverify, hcverify⟩ := hok
    obtain rfl := hrel'
    rw [← hcrel] at hcdust hreal
    rw [← hbefore, ← hkept] at hcrel
    exact ⟨⟨hx, ha, hle, ⟨hfit, hne⟩, hres, hrel.symm, hdust⟩,
      ⟨hlevel, hrb, sub_nonneg.mp hwithin, hafter, ⟨hcfit, hcne⟩, hcres, hcrel, hcdust⟩,
      ⟨hcur, hrate, hccur, hcrate⟩, hreal, hverify, hcverify⟩
  · intro hok
    obtain ⟨hap, hcr, ⟨hcur, hrate, hccur, hcrate⟩, hreal, hverify, hcverify⟩ := hok
    have hcdust := hcr.dust
    rw [hcr.released] at hcdust hreal
    exact ⟨hap.within, hcr.remaining, _, ⟨⟨hap.level, hap.amount, hap.within⟩, hap.released.symm⟩, _,
      ⟨hap.converted.fits, rfl⟩, _, ⟨hcr.converted.fits, rfl⟩,
      ⟨hap.converted.nonzero, hcr.converted.nonzero⟩, hap.residue, hcr.residue,
      ⟨hcur, hrate, rfl, hap.dust⟩, _, ⟨⟨hcr.level, hcr.remaining⟩, rfl⟩, _,
      ⟨⟨sub_nonneg.mpr hcr.within, hcr.after⟩, rfl⟩,
      ⟨hccur, hcrate, hcr.released, hcdust, hreal⟩, u, hverify, hcverify⟩

/-- **What the guard of a refund asks** of a row. -/
theorem supplierRefundValueComplete_eq_ok {db : SettlementDb} {k : CreditNoteRecord}
    {n : CreditNoteState} {c : SettlementConversion} {new : RefundRow} (hn : NoteFacts db k n)
    (hoa : IsMinor 1 n.originalMinor) (hob : IsMinor 1 n.originalCarryingMinor)
    (hc : SnapshotOf db new.receiptCurrency c) (hrate : new.receiptToBaseRate = c.rate)
    (hk : new.creditNoteId = k.id) {u : Unit} :
    supplierRefundValueComplete db new = .ok u ↔
      CreditAccepted n new.creditRemainingBeforeMinor new.sourceAmountConsumedMinor
        new.sourceCarryingBaseReleasedMinor new.sourceDustBaseMinor ∧
      Converts c new.receiptAmountMinor ∧
      (new.sourceCurrency = k.currencyCode ∧ new.sourceToBaseRate = n.conversion.rate) ∧
      (new.receiptBaseAmountMinor = c.base new.receiptAmountMinor ∧
        new.realizedFxGainLossMinor =
          c.base new.receiptAmountMinor - new.sourceCarryingBaseReleasedMinor) ∧
      supplierCreditNoteVerify db k.id = .ok u := by
  unfold supplierRefundValueComplete
  simp only [hk, hn.stored, hn.rate, hn.original, hn.carrying, hc.txnExponent, hc.baseExponent,
    hn.snapshot.txnExponent, hrate, someOr_some, ok_bind, bind_eq_ok, refuseIf_eq_ok, exists_const,
    supplierConvertBase_eq_ok hc.valid, supplierConvertBase_shared hn.snapshot hc,
    residueGuard_shared hn.snapshot hc, supplierCreditRemainingCarrying_minor_eq_ok hoa hob, ne_eq,
    not_or, not_not, gt_iff_lt, not_lt]
  constructor
  · intro hok
    obtain ⟨hrb, _, ⟨hcfit, rfl⟩, _, ⟨hmfit, rfl⟩, ⟨hcne, hmne⟩, hcres, before,
      ⟨⟨hlevel, _⟩, hbefore⟩, after, ⟨⟨hwithin, hafter⟩, hkept⟩,
      ⟨hcur, hcrate, hcrel, hcdust, hmb, hreal⟩, hverify⟩ := hok
    rw [← hcrel] at hcdust hreal
    rw [← hbefore, ← hkept] at hcrel
    exact ⟨⟨hlevel, hrb, sub_nonneg.mp hwithin, hafter, ⟨hcfit, hcne⟩, hcres, hcrel, hcdust⟩,
      ⟨hmfit, hmne⟩, ⟨hcur, hcrate⟩, ⟨hmb, hreal⟩, hverify⟩
  · intro hok
    obtain ⟨hcr, hm, ⟨hcur, hcrate⟩, ⟨hmb, hreal⟩, hverify⟩ := hok
    have hcdust := hcr.dust
    rw [hcr.released] at hcdust hreal
    exact ⟨hcr.remaining, _, ⟨hcr.converted.fits, rfl⟩, _, ⟨hm.fits, rfl⟩,
      ⟨hcr.converted.nonzero, hm.nonzero⟩, hcr.residue, _, ⟨⟨hcr.level, hcr.remaining⟩, rfl⟩, _,
      ⟨⟨sub_nonneg.mpr hcr.within, hcr.after⟩, rfl⟩,
      ⟨hcur, hcrate, hcr.released, hcdust, hmb, hreal⟩, hverify⟩

end Daftar.Inventory
