/-
  File: Daftar/Inventory/SettlementAgreement.lean
  Subject: The settlement plans of the package against the COMMIT-time guards of the database.

  * `PurchaseState` and `NoteState`: what a plan is computed from, read of rows that chain.
  * A plan stores its figures (`row`); the guards accept them exactly when the conversions they
    repeat fit a BIGINT (`Fits`).
  * What a plan refuses below a base unit or for its residue, the guards refuse whatever the
    figures (`plans_pass_guards`).
-/

import Daftar.Inventory.ChainVerifiers
import Daftar.Inventory.SettlementGuards
import Daftar.Inventory.SettlementRefusals

namespace Daftar.Inventory

open Fallible
open Rounding
open Tables
open Tiling

/-! ## 1. States and rows -/

namespace SettlementDb

variable (db : SettlementDb)

def insertPaymentAllocation (new : PaymentAllocationRow) : SettlementDb :=
  { db with supplierPaymentAllocations := new :: db.supplierPaymentAllocations }

/-- The note with what a consumer leaves of it. -/
def leaveNote (id : Uuid) (remaining carrying : ℤ) : SettlementDb :=
  { db with
    supplierCreditNotes := db.supplierCreditNotes.modify id
      (fun n => { n with remainingMinor := remaining, remainingCarryingMinor := carrying })
      fun _ => rfl }

def insertCreditAllocation (new : CreditAllocationRow) : SettlementDb :=
  { db with supplierCreditAllocations := new :: db.supplierCreditAllocations }

def insertRefund (new : RefundRow) : SettlementDb :=
  { db with supplierRefunds := new :: db.supplierRefunds }

end SettlementDb

theorem SnapshotOf.frame {db db' : SettlementDb} {k : String} {c : SettlementConversion}
    (h : SnapshotOf db k c) (hc : db'.currencies = db.currencies)
    (hb : db'.baseCurrency = db.baseCurrency) : SnapshotOf db' k c := by
  refine ⟨h.valid, ?_, ?_⟩
  · rw [SettlementDb.minorUnits, hc]
    exact h.txnExponent
  · rw [SettlementDb.minorUnits, hc, hb]
    exact h.baseExponent

theorem PurchaseFacts.frame {db db' : SettlementDb} {r : PurchaseRecord} {p : PurchaseApState}
    (h : PurchaseFacts db r p) (hp : db'.purchases = db.purchases)
    (hr : db'.purchaseReversals = db.purchaseReversals) (hc : db'.currencies = db.currencies)
    (hb : db'.baseCurrency = db.baseCurrency) : PurchaseFacts db' r p :=
  ⟨hp ▸ h.stored, h.received, hr ▸ h.unreversed, h.total, h.base, h.rate, h.snapshot.frame hc hb⟩

/-- The purchase a plan is computed from: its reducers chain, and this is what it still owes. -/
structure PurchaseState (db : StoredSettlement) (r : PurchaseRecord) (p : PurchaseApState) : Prop
    extends PurchaseFacts db.toSettlementDb r p where
  lawful : purchaseSettlementVerify db.toSettlementDb r.id = .ok ()
  outstanding : purchaseApOutstanding db.toSettlementDb r.id = .ok p.outstandingTxnMinor

/-- The credit note a plan is computed from: its consumers chain, and this is what remains. -/
structure NoteState (db : StoredSettlement) (r : CreditNoteRecord) (n : CreditNoteState) : Prop
    extends NoteFacts db.toSettlementDb r n where
  lawful : supplierCreditNoteVerify db.toSettlementDb r.id = .ok ()
  remaining : r.remainingMinor = n.remainingMinor

namespace PurchaseState

variable {db : StoredSettlement} {r : PurchaseRecord} {p : PurchaseApState}
  (h : PurchaseState db r p)
include h

theorem total_minor : IsMinor 1 p.totalTxnMinor :=
  h.total ▸ db.purchase_total r (Table.find?_eq_some.mp h.stored).1

theorem base_minor : IsMinor 1 p.totalBaseMinor :=
  db.purchase_base r (Table.find?_eq_some.mp h.stored).1 _ h.base

theorem chain : ReducersChain p.totalTxnMinor p.totalBaseMinor (db.reducers r.id) := by
  have hok := h.lawful
  rw [purchaseSettlementVerify_eq h.stored (h.total ▸ h.total_minor.1) h.base h.base_minor.1,
    h.total] at hok
  exact (reducersVerify_eq_ok h.total_minor h.base_minor (db.reducers_pos r.id)).mp hok

/-- What a purchase owes is what its reducers leave, unless it is written off. -/
theorem released_eq (ho : p.outstandingTxnMinor ≠ 0) :
    p.released = amountSum (db.reducers r.id) := by
  have hok := h.outstanding
  simp only [purchaseApOutstanding, h.stored, h.received, ne_eq, not_true_eq_false, h.unreversed,
    or_self, if_false, castBigint_int_eq_ok, h.total, db.amountSum_storedReducers] at hok
  obtain ⟨_, heq⟩ := hok
  cases hw : db.purchaseResidueWriteOffs.find? r.id with
  | none =>
    rw [hw] at heq
    have heq' : p.totalTxnMinor - amountSum (db.reducers r.id) - 0 = p.outstandingTxnMinor := heq
    show p.totalTxnMinor - p.outstandingTxnMinor = _
    omega
  | some w =>
    obtain ⟨hmem, hid⟩ := Table.find?_eq_some.mp hw
    have hclose := db.write_off w hmem r (Table.find?_eq_some.mp h.stored).1 hid.symm
    rw [h.total, db.amountSum_storedReducers] at hclose
    rw [hw] at heq
    have heq' : p.totalTxnMinor - amountSum (db.reducers r.id) - w.residueTxnMinor =
      p.outstandingTxnMinor := heq
    omega

/-- **What the verification asks of one more reducer.** -/
theorem verify_iff (db' : SettlementDb) (hstored : db'.purchases = db.purchases)
    {x : PurchaseChainRow} (hperm : (db'.reducers r.id).Perm (x :: db.reducers r.id))
    (hx : 0 < x.amountMinor) {u : Unit} :
    purchaseSettlementVerify db' r.id = .ok u ↔
      x.releasedBeforeMinor = amountSum (db.reducers r.id) ∧
        x.releasedBeforeMinor + x.amountMinor ≤ p.totalTxnMinor ∧
        x.ReleasesShare p.totalTxnMinor p.totalBaseMinor := by
  have hpos : ∀ y ∈ db'.reducers r.id, 0 < y.amountMinor := by
    intro y hy
    rcases List.mem_cons.mp (hperm.mem_iff.mp hy) with rfl | hy
    · exact hx
    · exact db.reducers_pos r.id y hy
  rw [purchaseSettlementVerify_eq (hstored ▸ h.stored) (h.total ▸ h.total_minor.1) h.base
      h.base_minor.1, h.total, reducersVerify_eq_ok h.total_minor h.base_minor hpos,
    ← h.chain.cons_iff (db.reducers_pos r.id) hx]
  exact ⟨fun hc => hc.perm hperm, fun hc => hc.perm hperm.symm⟩

end PurchaseState

namespace NoteState

variable {db : StoredSettlement} {r : CreditNoteRecord} {n : CreditNoteState}
  (h : NoteState db r n)
include h

theorem original_minor : IsMinor 1 n.originalMinor :=
  h.original ▸ db.note_original r (Table.find?_eq_some.mp h.stored).1

theorem carrying_minor : IsMinor 1 n.originalCarryingMinor :=
  h.carrying ▸ db.note_carrying r (Table.find?_eq_some.mp h.stored).1

theorem chain : ConsumersChain r.toStoredCreditNote (db.consumers r.id) := by
  have hok := h.lawful
  rw [supplierCreditNoteVerify_eq h.stored] at hok
  exact (consumersVerify_eq_ok (h.original ▸ h.original_minor) (h.carrying ▸ h.carrying_minor)
    (db.consumers_pos r.id)).mp hok

/-- The note once a consumer has left this of it. -/
theorem left_stored (remaining carrying : ℤ) :
    (db.leaveNote r.id remaining carrying).supplierCreditNotes.find? r.id =
      some { r with remainingMinor := remaining, remainingCarryingMinor := carrying } := by
  unfold SettlementDb.leaveNote
  rw [Table.find?_modify, if_pos rfl, h.stored]
  rfl

/-- **What the verification asks of one more consumer** and of what the note then stores. -/
theorem verify_iff (db' : SettlementDb) {remaining carrying : ℤ}
    (hstored : db'.supplierCreditNotes =
      (db.leaveNote r.id remaining carrying).supplierCreditNotes) {x : CreditChainRow}
    (hperm : (db'.consumers r.id).Perm (x :: db.consumers r.id)) (hx : 0 < x.consumedMinor)
    {u : Unit} :
    supplierCreditNoteVerify db' r.id = .ok u ↔
      (x.remainingBeforeMinor = n.remainingMinor ∧ x.consumedMinor ≤ x.remainingBeforeMinor ∧
        x.ReleasesKept n.originalMinor n.originalCarryingMinor) ∧
      remaining = n.remainingMinor - x.consumedMinor ∧
      carrying = creditKept n.originalMinor n.originalCarryingMinor remaining := by
  have hpos : ∀ y ∈ db'.consumers r.id, 0 < y.consumedMinor := by
    intro y hy
    rcases List.mem_cons.mp (hperm.mem_iff.mp hy) with rfl | hy
    · exact hx
    · exact db.consumers_pos r.id y hy
  have hleft := h.left_stored remaining carrying
  rw [← hstored] at hleft
  have hcons := @ConsumersChain.cons_iff _ _ h.chain (db.consumers_pos r.id) _ hx remaining carrying
  have hoa : IsMinor 1 r.originalMinor := h.original ▸ h.original_minor
  have hob : IsMinor 1 r.originalCarryingMinor := h.carrying ▸ h.carrying_minor
  have hverify := consumersVerify_eq_ok
    (n := ⟨r.originalMinor, r.originalCarryingMinor, remaining, carrying⟩) hoa hob hpos (u := u)
  rw [← h.original, ← h.carrying, ← h.remaining, supplierCreditNoteVerify_eq hleft, ← hcons]
  exact hverify.trans ⟨fun hc => hc.perm hperm, fun hc => hc.perm hperm.symm⟩

end NoteState

/-! ## 2. Inserted rows -/

section Inserted

variable (db : SettlementDb)

theorem reducers_insertPaymentAllocation {new : PaymentAllocationRow} {id : Uuid}
    (h : new.purchaseId = id) :
    ((db.insertPaymentAllocation new).reducers id).Perm (new.reducer :: db.reducers id) := by
  have hf := List.filter_cons_of_pos (p := fun a : PaymentAllocationRow => a.purchaseId = id)
    (l := db.supplierPaymentAllocations) (decide_eq_true h)
  rw [SettlementDb.reducers, SettlementDb.allocationReducers, SettlementDb.insertPaymentAllocation,
    hf]
  exact List.perm_middle

theorem reducers_insertCreditAllocation {new : CreditAllocationRow} {id : Uuid}
    (h : new.purchaseId = id) :
    ((db.insertCreditAllocation new).reducers id).Perm (new.reducer :: db.reducers id) := by
  have hf := List.filter_cons_of_pos (p := fun c : CreditAllocationRow => c.purchaseId = id)
    (l := db.supplierCreditAllocations) (decide_eq_true h)
  rw [SettlementDb.reducers, SettlementDb.allocationReducers, SettlementDb.insertCreditAllocation,
    hf, ← List.append_assoc]
  refine List.perm_middle.trans (.cons _ ?_)
  rw [List.append_assoc]
  exact .refl _

theorem consumers_insertCreditAllocation {new : CreditAllocationRow} {id : Uuid}
    (h : new.creditNoteId = id) :
    ((db.insertCreditAllocation new).consumers id).Perm (new.consumer :: db.consumers id) := by
  have hf := List.filter_cons_of_pos (p := fun a : CreditAllocationRow => a.creditNoteId = id)
    (l := db.supplierCreditAllocations) (decide_eq_true h)
  rw [SettlementDb.consumers, SettlementDb.insertCreditAllocation, hf]
  exact .refl _

theorem consumers_insertRefund {new : RefundRow} {id : Uuid} (h : new.creditNoteId = id) :
    ((db.insertRefund new).consumers id).Perm (new.consumer :: db.consumers id) := by
  have hf := List.filter_cons_of_pos (p := fun f : RefundRow => f.creditNoteId = id)
    (l := db.supplierRefunds) (decide_eq_true h)
  rw [SettlementDb.consumers, SettlementDb.insertRefund, hf]
  exact List.perm_middle

end Inserted

/-- The conversion of a positive remainder fits. -/
def RemainderFits (c : SettlementConversion) (left : ℤ) : Prop := 0 < left → IsBigint (c.base left)

theorem leavesUnit_iff {c : SettlementConversion} {left : ℤ} (h : strands left c = .ok false) :
    LeavesUnit c left ↔ RemainderFits c left := by
  refine forall_congr' fun hpos => ?_
  rcases strands_eq_false h with hle | ⟨_, hb⟩
  · omega
  · exact and_iff_left (by omega)

theorem not_leavesUnit {c : SettlementConversion} {left : ℤ} (h : Strands c left) :
    ¬ LeavesUnit c left := fun hl => (hl h.1).2 h.2

theorem PurchaseApState.owed_sub (p : PurchaseApState) (a : ℤ) :
    p.totalTxnMinor - p.released - a = p.outstandingTxnMinor - a := by
  unfold PurchaseApState.released
  omega

/-- The AP side of a plan is what a guard asks, as far as its conversions fit. -/
theorem apAccepted_iff {p : PurchaseApState} {a : ℤ} (hrange : p.InRange) (ha : 0 < a)
    (hle : a ≤ p.outstandingTxnMinor) (hne : p.conversion.base a ≠ 0)
    (hres : strands (p.outstandingTxnMinor - a) p.conversion = .ok false) :
    ApAccepted p (p.side a).releasedBeforeMinor a (p.side a).carryingReleasedMinor
        (p.side a).apDustBaseMinor ↔
      IsBigint (p.conversion.base a) ∧ RemainderFits p.conversion (p.outstandingTxnMinor - a) := by
  have hleft := p.owed_sub a
  have ho := hrange.outstanding_le
  constructor
  · intro h
    have hlast : LeavesUnit p.conversion (p.totalTxnMinor - p.released - a) := h.residue
    rw [hleft, leavesUnit_iff hres] at hlast
    exact ⟨h.converted.fits, hlast⟩
  · intro h
    refine ⟨?_, ha.le, ?_, ⟨h.1, hne⟩, ?_, rfl, rfl⟩
    · show 0 ≤ p.totalTxnMinor - p.outstandingTxnMinor
      omega
    · show p.totalTxnMinor - p.outstandingTxnMinor + a ≤ p.totalTxnMinor
      omega
    · show LeavesUnit p.conversion (p.totalTxnMinor - p.released - a)
      rw [hleft, leavesUnit_iff hres]
      exact h.2

/-- The credit side of a plan is what a guard asks, as far as its conversions fit. -/
theorem creditAccepted_iff {n : CreditNoteState} {c : ℤ} (hrange : n.InRange) (hc : 0 < c)
    (hle : c ≤ n.remainingMinor) (hne : n.conversion.base c ≠ 0)
    (hres : strands (n.remainingMinor - c) n.conversion = .ok false) :
    CreditAccepted n n.remainingMinor c (n.side c).creditReleasedMinor
        (n.side c).creditDustBaseMinor ↔
      IsBigint (n.conversion.base c) ∧ RemainderFits n.conversion (n.remainingMinor - c) := by
  have hro := hrange.remaining_le
  constructor
  · intro h
    exact ⟨h.converted.fits, (leavesUnit_iff hres).mp h.residue⟩
  · intro h
    exact ⟨hrange.remaining.1, hro, hle, by omega, ⟨h.1, hne⟩, (leavesUnit_iff hres).mpr h.2, rfl,
      rfl⟩

/-! ## 3. Payment allocations -/

/-- The row a payment allocation stores. -/
def PaymentAllocationPlan.row (plan : PaymentAllocationPlan) (r : PurchaseRecord)
    (h : SupplierPaymentRecord) : PaymentAllocationRow where
  paymentId := h.id
  purchaseId := r.id
  paymentCurrency := h.currencyCode
  paymentAmountMinor := plan.paymentAmountMinor
  paymentToBaseRate := h.paymentToBaseRate
  paymentBaseAmountMinor := plan.paymentBaseMinor
  purchaseCurrency := r.currencyCode
  purchaseAmountAppliedMinor := plan.appliedMinor
  purchaseHistoricalToBaseRate := r.sourceToBaseRate.getD 0
  apReleasedBeforeTxnMinor := plan.releasedBeforeMinor
  purchaseCarryingBaseReleasedMinor := plan.carryingReleasedMinor
  apDustBaseMinor := plan.apDustBaseMinor
  realizedFxGainLossMinor := plan.realizedMinor

/-- The conversions the guard repeats fit. -/
structure PaymentAllocationInput.Fits (i : PaymentAllocationInput) : Prop where
  applied : IsBigint (i.purchase.conversion.base i.appliedMinor)
  payment : IsBigint (i.payment.base i.paymentAmountMinor)
  remainder : RemainderFits i.purchase.conversion
    (i.purchase.outstandingTxnMinor - i.appliedMinor)

section PaymentAllocation

variable {db : StoredSettlement} {r : PurchaseRecord} {h : SupplierPaymentRecord}
  {i : PaymentAllocationInput} (hs : PurchaseState db r i.purchase)
  (hh : PaymentFacts db.toSettlementDb h i.payment)
include hs hh

/-- What the guard asks of an inserted allocation of a positive amount. -/
theorem paymentAllocation_inserted {new : PaymentAllocationRow} (hr : new.purchaseId = r.id)
    (hpay : new.paymentId = h.id) :
    supplierPaymentAllocationValueComplete (db.insertPaymentAllocation new) new = .ok () ↔
      ApAccepted i.purchase new.apReleasedBeforeTxnMinor new.purchaseAmountAppliedMinor
        new.purchaseCarryingBaseReleasedMinor new.apDustBaseMinor ∧
      Converts i.payment new.paymentAmountMinor ∧
      (new.purchaseCurrency = r.currencyCode ∧
        new.purchaseHistoricalToBaseRate = i.purchase.conversion.rate ∧
        new.paymentCurrency = h.currencyCode ∧ new.paymentToBaseRate = i.payment.rate) ∧
      (new.paymentBaseAmountMinor = i.payment.base new.paymentAmountMinor ∧
        new.realizedFxGainLossMinor = i.payment.base new.paymentAmountMinor -
          new.purchaseCarryingBaseReleasedMinor) ∧
      purchaseSettlementVerify (db.insertPaymentAllocation new) r.id = .ok () := by
  have hfacts : PurchaseFacts (db.insertPaymentAllocation new) r i.purchase :=
    hs.toPurchaseFacts.frame rfl rfl rfl rfl
  have hpayment : PaymentFacts (db.insertPaymentAllocation new) h i.payment :=
    ⟨hh.stored, hh.rate, hh.snapshot.frame rfl rfl⟩
  exact supplierPaymentAllocationValueComplete_eq_ok hfacts hs.total_minor hs.base_minor hpayment hr
    hpay

omit hh in
theorem paymentAllocation_verified {new : PaymentAllocationRow} (hr : new.purchaseId = r.id)
    (ha : 0 < new.purchaseAmountAppliedMinor) :
    purchaseSettlementVerify (db.insertPaymentAllocation new) r.id = .ok () ↔
      new.apReleasedBeforeTxnMinor = amountSum (db.reducers r.id) ∧
        new.apReleasedBeforeTxnMinor + new.purchaseAmountAppliedMinor ≤ i.purchase.totalTxnMinor ∧
        new.reducer.ReleasesShare i.purchase.totalTxnMinor i.purchase.totalBaseMinor :=
  hs.verify_iff (db.insertPaymentAllocation new) rfl (reducers_insertPaymentAllocation _ hr) ha

/-- **The guard accepts the row of a plan exactly when its conversions fit.** -/
theorem paymentAllocation_accepted {plan : PaymentAllocationPlan}
    (hplan : planPaymentAllocation i = .ok plan) :
    supplierPaymentAllocationValueComplete (db.insertPaymentAllocation (plan.row r h))
      (plan.row r h) = .ok () ↔ i.Fits := by
  obtain ⟨hl, rfl⟩ := planPaymentAllocation_eq_ok.mp hplan
  have hap := apAccepted_iff hl.range hl.applied_pos hl.applied_le hl.converted hl.residue
  have howed : i.purchase.outstandingTxnMinor ≠ 0 := by
    have := hl.applied_pos
    have := hl.applied_le
    omega
  rw [paymentAllocation_inserted hs hh rfl rfl]
  constructor
  · intro hok
    obtain ⟨hfit, hrem⟩ := hap.mp hok.1
    exact ⟨hfit, hok.2.1.fits, hrem⟩
  · intro hfits
    have haccepted := hap.mpr ⟨hfits.applied, hfits.remainder⟩
    refine ⟨haccepted, ⟨hfits.payment, hl.payment_converted⟩, ⟨rfl, ?_, rfl, hh.rate⟩, ⟨rfl, rfl⟩, ?_⟩
    · show r.sourceToBaseRate.getD 0 = _
      rw [hs.rate]
      rfl
    · exact (paymentAllocation_verified hs rfl hl.applied_pos).mpr
        ⟨hs.released_eq howed, haccepted.within, rfl⟩

/-- **The guard refuses what the plan refuses below a base unit**, whatever the figures. -/
theorem paymentAllocation_refused {e : InventoryError} (he : planPaymentAllocation i = .error e)
    (hcode : e.code ∈ paymentUnitCodes) {new : PaymentAllocationRow} (hr : new.purchaseId = r.id)
    (hpay : new.paymentId = h.id) (hp : new.paymentAmountMinor = i.paymentAmountMinor)
    (ha : new.purchaseAmountAppliedMinor = i.appliedMinor) :
    supplierPaymentAllocationValueComplete (db.insertPaymentAllocation new) new ≠ .ok () := by
  intro hok
  obtain ⟨hap, hpay', _, _, hverify⟩ := (paymentAllocation_inserted hs hh hr hpay).mp hok
  have hconv := hap.converted.nonzero
  have hpconv := hpay'.nonzero
  rw [ha] at hconv
  rw [hp] at hpconv
  rcases planPaymentAllocation_refuses i e he hcode with h0 | h0 | ⟨hpos, hle, hstr⟩
  · exact hconv h0
  · exact hpconv h0
  · obtain ⟨hx, _⟩ := (paymentAllocation_verified hs hr (ha ▸ hpos)).mp hverify
    have hres := hap.residue
    rw [hx, ← hs.released_eq (by omega), ha] at hres
    refine not_leavesUnit hstr ?_
    rw [← i.purchase.owed_sub]
    exact hres

end PaymentAllocation

/-! ## 4. Credit allocations -/

/-- The row a credit allocation stores. -/
def CreditAllocationPlan.row (plan : CreditAllocationPlan) (r : PurchaseRecord)
    (k : CreditNoteRecord) : CreditAllocationRow where
  creditNoteId := k.id
  purchaseId := r.id
  creditCurrency := k.currencyCode
  creditAmountConsumedMinor := plan.consumedMinor
  creditToBaseRate := k.sourceToBaseRate
  creditRemainingBeforeMinor := plan.remainingBeforeMinor
  creditCarryingBaseReleasedMinor := plan.creditReleasedMinor
  creditDustBaseMinor := plan.creditDustBaseMinor
  purchaseCurrency := r.currencyCode
  purchaseAmountAppliedMinor := plan.appliedMinor
  purchaseHistoricalToBaseRate := r.sourceToBaseRate.getD 0
  apReleasedBeforeTxnMinor := plan.releasedBeforeMinor
  purchaseCarryingBaseReleasedMinor := plan.carryingReleasedMinor
  apDustBaseMinor := plan.apDustBaseMinor
  realizedFxGainLossMinor := plan.realizedMinor

structure CreditAllocationInput.Fits (i : CreditAllocationInput) : Prop where
  applied : IsBigint (i.purchase.conversion.base i.appliedMinor)
  consumed : IsBigint (i.note.conversion.base i.consumedMinor)
  remainder : RemainderFits i.purchase.conversion
    (i.purchase.outstandingTxnMinor - i.appliedMinor)
  note_remainder : RemainderFits i.note.conversion (i.note.remainingMinor - i.consumedMinor)

/-- The state at COMMIT: the note left with a pair, the allocation inserted. -/
def SettlementDb.consumeByAllocation (db : SettlementDb) (new : CreditAllocationRow)
    (remaining carrying : ℤ) : SettlementDb :=
  (db.leaveNote new.creditNoteId remaining carrying).insertCreditAllocation new

section CreditAllocation

variable {db : StoredSettlement} {r : PurchaseRecord} {k : CreditNoteRecord}
  {i : CreditAllocationInput} (hs : PurchaseState db r i.purchase) (hn : NoteState db k i.note)

section Inserted

variable {new : CreditAllocationRow} {remaining carrying : ℤ} (hr : new.purchaseId = r.id)
  (hk : new.creditNoteId = k.id)

include hs hn hr hk in
/-- What the guard asks of an inserted credit allocation. -/
theorem creditAllocation_inserted :
    supplierCreditAllocationValueComplete (db.consumeByAllocation new remaining carrying) new =
        .ok () ↔
      ApAccepted i.purchase new.apReleasedBeforeTxnMinor new.purchaseAmountAppliedMinor
        new.purchaseCarryingBaseReleasedMinor new.apDustBaseMinor ∧
      CreditAccepted i.note new.creditRemainingBeforeMinor new.creditAmountConsumedMinor
        new.creditCarryingBaseReleasedMinor new.creditDustBaseMinor ∧
      (new.purchaseCurrency = r.currencyCode ∧
        new.purchaseHistoricalToBaseRate = i.purchase.conversion.rate ∧
        new.creditCurrency = k.currencyCode ∧ new.creditToBaseRate = i.note.conversion.rate) ∧
      new.realizedFxGainLossMinor =
        new.creditCarryingBaseReleasedMinor - new.purchaseCarryingBaseReleasedMinor ∧
      purchaseSettlementVerify (db.consumeByAllocation new remaining carrying) r.id = .ok () ∧
      supplierCreditNoteVerify (db.consumeByAllocation new remaining carrying) k.id = .ok () := by
  have hfacts : PurchaseFacts (db.consumeByAllocation new remaining carrying) r i.purchase :=
    hs.toPurchaseFacts.frame rfl rfl rfl rfl
  have hnote : NoteFacts (db.consumeByAllocation new remaining carrying)
      { k with remainingMinor := remaining, remainingCarryingMinor := carrying } i.note := by
    refine ⟨?_, hn.original, hn.carrying, hn.rate, hn.snapshot.frame rfl rfl⟩
    have hleft := hn.left_stored remaining carrying
    rw [← hk] at hleft
    exact hk ▸ hleft
  exact supplierCreditAllocationValueComplete_eq_ok hfacts hs.total_minor hs.base_minor hnote
    hn.original_minor hn.carrying_minor hr hk

include hs hr in
theorem creditAllocation_verified (ha : 0 < new.purchaseAmountAppliedMinor) :
    purchaseSettlementVerify (db.consumeByAllocation new remaining carrying) r.id = .ok () ↔
      new.apReleasedBeforeTxnMinor = amountSum (db.reducers r.id) ∧
        new.apReleasedBeforeTxnMinor + new.purchaseAmountAppliedMinor ≤ i.purchase.totalTxnMinor ∧
        new.reducer.ReleasesShare i.purchase.totalTxnMinor i.purchase.totalBaseMinor :=
  hs.verify_iff (db.consumeByAllocation new remaining carrying) rfl
    (reducers_insertCreditAllocation (db.leaveNote new.creditNoteId remaining carrying) hr) ha

include hn hk in
theorem creditAllocation_note_verified (hc : 0 < new.creditAmountConsumedMinor) :
    supplierCreditNoteVerify (db.consumeByAllocation new remaining carrying) k.id = .ok () ↔
      (new.creditRemainingBeforeMinor = i.note.remainingMinor ∧
        new.creditAmountConsumedMinor ≤ new.creditRemainingBeforeMinor ∧
        new.consumer.ReleasesKept i.note.originalMinor i.note.originalCarryingMinor) ∧
      remaining = i.note.remainingMinor - new.creditAmountConsumedMinor ∧
      carrying = creditKept i.note.originalMinor i.note.originalCarryingMinor remaining :=
  hn.verify_iff (db.consumeByAllocation new remaining carrying)
    (by rw [← hk]; rfl)
    (consumers_insertCreditAllocation (db.leaveNote new.creditNoteId remaining carrying) hk) hc

end Inserted

include hs hn

/-- **The guard accepts the row of a plan exactly when its conversions fit.** -/
theorem creditAllocation_accepted {plan : CreditAllocationPlan}
    (hplan : planCreditAllocation i = .ok plan) :
    supplierCreditAllocationValueComplete (db.consumeByAllocation (plan.row r k)
      plan.remainingAfterMinor plan.remainingCarryingAfterMinor) (plan.row r k) = .ok () ↔
        i.Fits := by
  obtain ⟨hl, rfl⟩ := planCreditAllocation_eq_ok.mp hplan
  have hap := apAccepted_iff hl.range hl.applied_pos hl.applied_le hl.converted hl.residue
  have hcr := creditAccepted_iff hl.note_range hl.consumed_pos hl.consumed_le hl.note_converted
    hl.note_residue
  have howed : i.purchase.outstandingTxnMinor ≠ 0 := by
    have := hl.applied_pos
    have := hl.applied_le
    omega
  rw [creditAllocation_inserted hs hn rfl rfl]
  constructor
  · intro hok
    obtain ⟨hfit, hrem⟩ := hap.mp hok.1
    obtain ⟨hcfit, hcrem⟩ := hcr.mp hok.2.1
    exact ⟨hfit, hcfit, hrem, hcrem⟩
  · intro hfits
    have haccepted := hap.mpr ⟨hfits.applied, hfits.remainder⟩
    have hconsumed := hcr.mpr ⟨hfits.consumed, hfits.note_remainder⟩
    refine ⟨haccepted, hconsumed, ⟨rfl, ?_, rfl, hn.rate⟩, rfl, ?_, ?_⟩
    · show r.sourceToBaseRate.getD 0 = _
      rw [hs.rate]
      rfl
    · exact (creditAllocation_verified hs rfl hl.applied_pos).mpr
        ⟨hs.released_eq howed, haccepted.within, rfl⟩
    · exact (creditAllocation_note_verified hn rfl hl.consumed_pos).mpr
        ⟨⟨rfl, hl.consumed_le, rfl⟩, rfl, rfl⟩

/-- **The guard refuses what the plan refuses below a base unit**, whatever the figures. -/
theorem creditAllocation_refused {e : InventoryError} (he : planCreditAllocation i = .error e)
    (hcode : e.code ∈ creditUnitCodes) {new : CreditAllocationRow} (hr : new.purchaseId = r.id)
    (hk : new.creditNoteId = k.id) (ha : new.purchaseAmountAppliedMinor = i.appliedMinor)
    (hc : new.creditAmountConsumedMinor = i.consumedMinor) (remaining carrying : ℤ) :
    supplierCreditAllocationValueComplete (db.consumeByAllocation new remaining carrying) new ≠
      .ok () := by
  intro hok
  obtain ⟨hap, hcr, _, _, hverify, hnverify⟩ := (creditAllocation_inserted hs hn hr hk).mp hok
  have hconv := hap.converted.nonzero
  have hcconv := hcr.converted.nonzero
  rw [ha] at hconv
  rw [hc] at hcconv
  rcases planCreditAllocation_refuses i e he hcode with h0 | h0 | ⟨⟨hpos, hle⟩, ⟨hcpos, _⟩, hstr⟩
  · exact hcconv h0
  · exact hconv h0
  · obtain ⟨hx, _⟩ := (creditAllocation_verified hs hr (ha ▸ hpos)).mp hverify
    obtain ⟨⟨hrb, _⟩, _⟩ := (creditAllocation_note_verified hn hk (hc ▸ hcpos)).mp hnverify
    have hres := hap.residue
    have hcres := hcr.residue
    rw [hx, ← hs.released_eq (by omega), ha] at hres
    rw [hrb, hc] at hcres
    rcases hstr with hstr | hstr
    · refine not_leavesUnit hstr ?_
      rw [← i.purchase.owed_sub]
      exact hres
    · exact not_leavesUnit hstr hcres

end CreditAllocation

/-! ## 5. Refunds -/

/-- The row a refund stores. -/
def RefundPlan.row (plan : RefundPlan) (k : CreditNoteRecord) (receiptCurrency : String)
    (receiptToBaseRate : ℚ) : RefundRow where
  creditNoteId := k.id
  sourceCurrency := k.currencyCode
  sourceAmountConsumedMinor := plan.consumedMinor
  sourceToBaseRate := k.sourceToBaseRate
  creditRemainingBeforeMinor := plan.remainingBeforeMinor
  sourceCarryingBaseReleasedMinor := plan.creditReleasedMinor
  sourceDustBaseMinor := plan.creditDustBaseMinor
  receiptCurrency := receiptCurrency
  receiptAmountMinor := plan.receiptAmountMinor
  receiptToBaseRate := receiptToBaseRate
  receiptBaseAmountMinor := plan.receiptBaseMinor
  realizedFxGainLossMinor := plan.realizedMinor

structure RefundInput.Fits (i : RefundInput) : Prop where
  consumed : IsBigint (i.note.conversion.base i.consumedMinor)
  received : IsBigint (i.receipt.base i.receiptAmountMinor)
  note_remainder : RemainderFits i.note.conversion (i.note.remainingMinor - i.consumedMinor)

/-- The state at COMMIT: the note left with a pair, the refund inserted. -/
def SettlementDb.consumeByRefund (db : SettlementDb) (new : RefundRow) (remaining carrying : ℤ) :
    SettlementDb :=
  (db.leaveNote new.creditNoteId remaining carrying).insertRefund new

section Refund

variable {db : StoredSettlement} {k : CreditNoteRecord} {i : RefundInput}
  (hn : NoteState db k i.note)
include hn

section Inserted

variable {new : RefundRow} {remaining carrying : ℤ} (hk : new.creditNoteId = k.id)
include hk

/-- What the guard asks of an inserted refund. -/
theorem refund_inserted (hc : SnapshotOf db.toSettlementDb new.receiptCurrency i.receipt)
    (hrate : new.receiptToBaseRate = i.receipt.rate) :
    supplierRefundValueComplete (db.consumeByRefund new remaining carrying) new = .ok () ↔
      CreditAccepted i.note new.creditRemainingBeforeMinor new.sourceAmountConsumedMinor
        new.sourceCarryingBaseReleasedMinor new.sourceDustBaseMinor ∧
      Converts i.receipt new.receiptAmountMinor ∧
      (new.sourceCurrency = k.currencyCode ∧ new.sourceToBaseRate = i.note.conversion.rate) ∧
      (new.receiptBaseAmountMinor = i.receipt.base new.receiptAmountMinor ∧
        new.realizedFxGainLossMinor =
          i.receipt.base new.receiptAmountMinor - new.sourceCarryingBaseReleasedMinor) ∧
      supplierCreditNoteVerify (db.consumeByRefund new remaining carrying) k.id = .ok () := by
  have hnote : NoteFacts (db.consumeByRefund new remaining carrying)
      { k with remainingMinor := remaining, remainingCarryingMinor := carrying } i.note := by
    refine ⟨?_, hn.original, hn.carrying, hn.rate, hn.snapshot.frame rfl rfl⟩
    have hleft := hn.left_stored remaining carrying
    rw [← hk] at hleft
    exact hk ▸ hleft
  have hsnap : SnapshotOf (db.consumeByRefund new remaining carrying) new.receiptCurrency
      i.receipt := hc.frame rfl rfl
  exact supplierRefundValueComplete_eq_ok hnote hn.original_minor hn.carrying_minor hsnap hrate hk

theorem refund_note_verified (hc : 0 < new.sourceAmountConsumedMinor) :
    supplierCreditNoteVerify (db.consumeByRefund new remaining carrying) k.id = .ok () ↔
      (new.creditRemainingBeforeMinor = i.note.remainingMinor ∧
        new.sourceAmountConsumedMinor ≤ new.creditRemainingBeforeMinor ∧
        new.consumer.ReleasesKept i.note.originalMinor i.note.originalCarryingMinor) ∧
      remaining = i.note.remainingMinor - new.sourceAmountConsumedMinor ∧
      carrying = creditKept i.note.originalMinor i.note.originalCarryingMinor remaining :=
  hn.verify_iff (db.consumeByRefund new remaining carrying) (by rw [← hk]; rfl)
    (consumers_insertRefund (db.leaveNote new.creditNoteId remaining carrying) hk) hc

end Inserted

/-- **The guard accepts the row of a plan exactly when its conversions fit.** -/
theorem refund_accepted {currency : String}
    (hc : SnapshotOf db.toSettlementDb currency i.receipt) {plan : RefundPlan}
    (hplan : planRefund i = .ok plan) :
    supplierRefundValueComplete (db.consumeByRefund (plan.row k currency i.receipt.rate)
      plan.remainingAfterMinor plan.remainingCarryingAfterMinor)
      (plan.row k currency i.receipt.rate) = .ok () ↔ i.Fits := by
  obtain ⟨hl, rfl⟩ := planRefund_eq_ok.mp hplan
  have hcr := creditAccepted_iff hl.note_range hl.consumed_pos hl.consumed_le hl.note_converted
    hl.note_residue
  rw [refund_inserted hn rfl hc rfl]
  constructor
  · intro hok
    obtain ⟨hcfit, hcrem⟩ := hcr.mp hok.1
    exact ⟨hcfit, hok.2.1.fits, hcrem⟩
  · intro hfits
    exact ⟨hcr.mpr ⟨hfits.consumed, hfits.note_remainder⟩, ⟨hfits.received, hl.receipt_converted⟩,
      ⟨rfl, hn.rate⟩, ⟨rfl, rfl⟩, (refund_note_verified hn rfl hl.consumed_pos).mpr
        ⟨⟨rfl, hl.consumed_le, rfl⟩, rfl, rfl⟩⟩

/-- **The guard refuses what the plan refuses below a base unit**, whatever the figures. -/
theorem refund_refused {e : InventoryError} (he : planRefund i = .error e)
    (hcode : e.code ∈ refundUnitCodes) {new : RefundRow} (hk : new.creditNoteId = k.id)
    (hsnap : SnapshotOf db.toSettlementDb new.receiptCurrency i.receipt)
    (hrate : new.receiptToBaseRate = i.receipt.rate)
    (hm : new.receiptAmountMinor = i.receiptAmountMinor)
    (hc : new.sourceAmountConsumedMinor = i.consumedMinor) (remaining carrying : ℤ) :
    supplierRefundValueComplete (db.consumeByRefund new remaining carrying) new ≠ .ok () := by
  intro hok
  obtain ⟨hcr, hmb, _, _, hnverify⟩ := (refund_inserted hn hk hsnap hrate).mp hok
  have hcconv := hcr.converted.nonzero
  have hmconv := hmb.nonzero
  rw [hc] at hcconv
  rw [hm] at hmconv
  rcases planRefund_refuses i e he hcode with h0 | h0 | ⟨hpos, _, hstr⟩
  · exact hcconv h0
  · exact hmconv h0
  · obtain ⟨⟨hrb, _⟩, _⟩ := (refund_note_verified hn hk (hc ▸ hpos)).mp hnverify
    have hcres := hcr.residue
    rw [hrb, hc] at hcres
    exact not_leavesUnit hstr hcres

end Refund

/-! ## 6. Plans against guards -/

/-- **Plans pass the guards.** The row of a payment allocation, a credit allocation or a refund that
    was planned from rows that chain is accepted exactly when the conversions the guard repeats fit
    a BIGINT; and what a plan refuses below a base unit or for its residue, the guard refuses for
    every choice of figures, the levels and the pair the note is left with included. -/
theorem plans_pass_guards (db : StoredSettlement) :
    (∀ (r : PurchaseRecord) (h : SupplierPaymentRecord) (i : PaymentAllocationInput),
      PurchaseState db r i.purchase → PaymentFacts db.toSettlementDb h i.payment →
        (∀ plan, planPaymentAllocation i = .ok plan →
          (supplierPaymentAllocationValueComplete (db.insertPaymentAllocation (plan.row r h))
            (plan.row r h) = .ok () ↔ i.Fits)) ∧
        ∀ e, planPaymentAllocation i = .error e → e.code ∈ paymentUnitCodes →
          ∀ new : PaymentAllocationRow, new.purchaseId = r.id → new.paymentId = h.id →
            new.paymentAmountMinor = i.paymentAmountMinor →
            new.purchaseAmountAppliedMinor = i.appliedMinor →
            supplierPaymentAllocationValueComplete (db.insertPaymentAllocation new) new ≠ .ok ()) ∧
    (∀ (r : PurchaseRecord) (k : CreditNoteRecord) (i : CreditAllocationInput),
      PurchaseState db r i.purchase → NoteState db k i.note →
        (∀ plan, planCreditAllocation i = .ok plan →
          (supplierCreditAllocationValueComplete (db.consumeByAllocation (plan.row r k)
            plan.remainingAfterMinor plan.remainingCarryingAfterMinor) (plan.row r k) = .ok () ↔
              i.Fits)) ∧
        ∀ e, planCreditAllocation i = .error e → e.code ∈ creditUnitCodes →
          ∀ new : CreditAllocationRow, new.purchaseId = r.id → new.creditNoteId = k.id →
            new.purchaseAmountAppliedMinor = i.appliedMinor →
            new.creditAmountConsumedMinor = i.consumedMinor → ∀ remaining carrying,
            supplierCreditAllocationValueComplete (db.consumeByAllocation new remaining carrying)
              new ≠ .ok ()) ∧
    (∀ (k : CreditNoteRecord) (i : RefundInput) (currency : String), NoteState db k i.note →
      SnapshotOf db.toSettlementDb currency i.receipt →
        (∀ plan, planRefund i = .ok plan →
          (supplierRefundValueComplete (db.consumeByRefund (plan.row k currency i.receipt.rate)
            plan.remainingAfterMinor plan.remainingCarryingAfterMinor)
            (plan.row k currency i.receipt.rate) = .ok () ↔ i.Fits)) ∧
        ∀ e, planRefund i = .error e → e.code ∈ refundUnitCodes →
          ∀ new : RefundRow, new.creditNoteId = k.id → new.receiptCurrency = currency →
            new.receiptToBaseRate = i.receipt.rate →
            new.receiptAmountMinor = i.receiptAmountMinor →
            new.sourceAmountConsumedMinor = i.consumedMinor → ∀ remaining carrying,
            supplierRefundValueComplete (db.consumeByRefund new remaining carrying) new ≠ .ok ()) := by
  refine ⟨fun r h i hs hh => ⟨fun plan => paymentAllocation_accepted hs hh, ?_⟩,
    fun r k i hs hn => ⟨fun plan => creditAllocation_accepted hs hn, ?_⟩,
    fun k i currency hn hc => ⟨fun plan => refund_accepted hn hc, ?_⟩⟩
  · intro e he hcode new hr hpay hp ha
    exact paymentAllocation_refused hs hh he hcode hr hpay hp ha
  · intro e he hcode new hr hk ha hconsumed remaining carrying
    exact creditAllocation_refused hs hn he hcode hr hk ha hconsumed remaining carrying
  · intro e he hcode new hk hcur hrate hm hconsumed remaining carrying
    subst hcur
    exact refund_refused hn he hcode hk hc hrate hm hconsumed remaining carrying

/-! ## 7. A purchase, a note and two payments -/

def sampleEuroPaymentId : Uuid := .sample 3

def sampleNoteId : Uuid := .sample 4

def sampleDollarPayment : SupplierPaymentRecord := ⟨samplePaymentId, "USD", 1⟩

def sampleEuroPayment : SupplierPaymentRecord := ⟨sampleEuroPaymentId, "EUR", 100⟩

def sampleNoteRecord : CreditNoteRecord :=
  { originalMinor := 100, originalCarryingMinor := 100, remainingMinor := 100
    remainingCarryingMinor := 100, id := sampleNoteId, currencyCode := "USD", sourceToBaseRate := 1 }

/-- Nothing paid or consumed yet. -/
def untouchedDb : StoredSettlement where
  toSettlementDb :=
    { offsetDb.toSettlementDb with
      currencies := ⟨[⟨"USD", 2⟩, ⟨"EUR", 2⟩], by decide +kernel⟩
      supplierPayments := ⟨[sampleDollarPayment, sampleEuroPayment], by decide +kernel⟩
      supplierPaymentAllocations := []
      supplierCreditNotes := ⟨[sampleNoteRecord], by decide +kernel⟩ }
  purchase_total := offsetDb.purchase_total
  purchase_base := offsetDb.purchase_base
  note_original := by
    intro n hn
    rw [List.mem_singleton.mp hn]
    decide
  note_carrying := by
    intro n hn
    rw [List.mem_singleton.mp hn]
    decide
  return_amount := offsetDb.return_amount
  payment_amount := fun _ h => absurd h List.not_mem_nil
  credit_amount := offsetDb.credit_amount
  credit_consumed := offsetDb.credit_consumed
  refund_consumed := offsetDb.refund_consumed
  write_off := fun _ h => absurd h List.not_mem_nil

def dollarConversion : SettlementConversion := ⟨1 * R10, 2, 2⟩

def euroConversion : SettlementConversion := ⟨100 * R10, 2, 2⟩

def samplePurchaseState : PurchaseApState := ⟨100, 100, 100, dollarConversion⟩

theorem dollarConversion_rate : dollarConversion.rate = 1 := by decide +kernel

theorem sampleConversion_valid {k : ℤ} (hk : 0 < k) :
    (⟨k * R10, 2, 2⟩ : SettlementConversion).Valid := by
  refine ⟨mul_pos hk (by decide), ?_, ?_⟩
  · show (0 : ℤ) ≤ 2 ∧ (2 : ℤ) ≤ 4
    decide
  · show (0 : ℤ) ≤ 2 ∧ (2 : ℤ) ≤ 4
    decide

theorem dollarConversion_of : SnapshotOf untouchedDb.toSettlementDb "USD" dollarConversion :=
  ⟨sampleConversion_valid one_pos, by decide +kernel, by decide +kernel⟩

theorem sample_purchaseState : PurchaseState untouchedDb samplePurchase samplePurchaseState where
  stored := Table.find?_of_mem (List.mem_singleton.mpr rfl)
  received := rfl
  unreversed := List.not_mem_nil
  total := rfl
  base := rfl
  rate := congrArg some dollarConversion_rate.symm
  snapshot := dollarConversion_of
  lawful := by
    have hstored : untouchedDb.toSettlementDb.purchases.find? samplePurchase.id =
        some samplePurchase := Table.find?_of_mem (List.mem_singleton.mpr rfl)
    have heq := purchaseSettlementVerify_eq hstored (by decide) rfl (by decide)
    refine heq.trans ((reducersVerify_eq_ok (by decide +kernel) (by decide +kernel)
      (untouchedDb.reducers_pos _)).mpr ?_)
    exact ⟨Tiles.tileable trivial, by decide, fun r hr => absurd hr List.not_mem_nil⟩
  outstanding := by decide +kernel

theorem sample_dollarFacts :
    PaymentFacts untouchedDb.toSettlementDb sampleDollarPayment dollarConversion :=
  ⟨Table.find?_of_mem List.mem_cons_self, dollarConversion_rate.symm, dollarConversion_of⟩

/-- 50 of the 100 owed, paid in dollars. -/
def sampleAllocation : PaymentAllocationInput := ⟨samplePurchaseState, true, 50, dollarConversion, 50⟩

theorem plans_pass_guards_sample :
    supplierPaymentAllocationValueComplete
        (untouchedDb.insertPaymentAllocation (sampleAllocation.plan.row samplePurchase
          sampleDollarPayment))
        (sampleAllocation.plan.row samplePurchase sampleDollarPayment) = .ok () ↔
      sampleAllocation.Fits :=
  ((plans_pass_guards untouchedDb).1 samplePurchase sampleDollarPayment sampleAllocation
    sample_purchaseState sample_dollarFacts).1 sampleAllocation.plan (by decide +kernel)

/-- 10 of the 100 owed, paid with 10^18 euro cents worth 100 each. -/
def sampleHugePayment : PaymentAllocationInput :=
  ⟨samplePurchaseState, false, 10 ^ 18, euroConversion, 10⟩

/-- A planned payment whose base amount does not fit: the guard refuses it. -/
theorem not_plans_pass_guards :
    PurchaseState untouchedDb samplePurchase sampleHugePayment.purchase ∧
      PaymentFacts untouchedDb.toSettlementDb sampleEuroPayment sampleHugePayment.payment ∧
      planPaymentAllocation sampleHugePayment = .ok sampleHugePayment.plan ∧
      supplierPaymentAllocationValueComplete
        (untouchedDb.insertPaymentAllocation (sampleHugePayment.plan.row samplePurchase
          sampleEuroPayment))
        (sampleHugePayment.plan.row samplePurchase sampleEuroPayment) ≠ .ok () := by
  have hfacts : PaymentFacts untouchedDb.toSettlementDb sampleEuroPayment euroConversion :=
    ⟨Table.find?_of_mem (List.mem_cons_of_mem _ (List.mem_singleton.mpr rfl)), by decide +kernel,
      ⟨sampleConversion_valid (by decide), by decide +kernel, by decide +kernel⟩⟩
  have hplan : planPaymentAllocation sampleHugePayment = .ok sampleHugePayment.plan := by
    decide +kernel
  refine ⟨sample_purchaseState, hfacts, hplan, fun hok => ?_⟩
  have hfits := (paymentAllocation_accepted (i := sampleHugePayment) sample_purchaseState hfacts
    hplan).mp hok
  exact absurd hfits.payment (by decide +kernel)

end Daftar.Inventory
