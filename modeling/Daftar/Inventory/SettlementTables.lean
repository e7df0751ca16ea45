/-
  File: Daftar/Inventory/SettlementTables.lean
  Subject: The settlement tables of a business and the two chain verifications over them.

  * `SettlementDb` holds the rows of one business; `StoredSettlement` adds what the CHECKs and the
    write-off guard of the tables promise of them.
  * `purchaseSettlementVerify` and `supplierCreditNoteVerify` are the verifications the guards of
    the tables end with; `purchaseApOutstanding` is what a purchase still owes.
  * `reducersVerify_eq_ok`, `consumersVerify_eq_ok`: a verification accepts the rows that tile
    within the total and release, each of them, its own share.
-/

import Daftar.Identifiers
import Daftar.Inventory.SettlementChains
import Daftar.Inventory.SqlNumeric
import Daftar.Library.Tables

namespace Daftar.Inventory

open Fallible
open Tables
open Tiling

/-! ## 1. Rows -/

inductive PurchaseStatus
  | draft
  | received
  | cancelled
  deriving DecidableEq, Repr

structure PurchaseRecord where
  id : Uuid
  status : PurchaseStatus
  currencyCode : String
  totalTxnMinor : ℤ
  totalBaseMinor : Option ℤ
  sourceToBaseRate : Option ℚ

structure CurrencyRecord where
  code : String
  minorUnits : ℤ

/-- The columns of a return that reduce AP. -/
structure SupplierReturnRow where
  purchaseId : Uuid
  apTxnMinor : ℤ
  apBaseMinor : ℤ
  apReleasedBeforeTxnMinor : ℤ

structure SupplierPaymentRecord where
  id : Uuid
  currencyCode : String
  paymentToBaseRate : ℚ

structure PaymentAllocationRow where
  paymentId : Uuid
  purchaseId : Uuid
  paymentCurrency : String
  paymentAmountMinor : ℤ
  paymentToBaseRate : ℚ
  paymentBaseAmountMinor : ℤ
  purchaseCurrency : String
  purchaseAmountAppliedMinor : ℤ
  purchaseHistoricalToBaseRate : ℚ
  apReleasedBeforeTxnMinor : ℤ
  purchaseCarryingBaseReleasedMinor : ℤ
  apDustBaseMinor : ℤ
  realizedFxGainLossMinor : ℤ

structure CreditAllocationRow where
  creditNoteId : Uuid
  purchaseId : Uuid
  creditCurrency : String
  creditAmountConsumedMinor : ℤ
  creditToBaseRate : ℚ
  creditRemainingBeforeMinor : ℤ
  creditCarryingBaseReleasedMinor : ℤ
  creditDustBaseMinor : ℤ
  purchaseCurrency : String
  purchaseAmountAppliedMinor : ℤ
  purchaseHistoricalToBaseRate : ℚ
  apReleasedBeforeTxnMinor : ℤ
  purchaseCarryingBaseReleasedMinor : ℤ
  apDustBaseMinor : ℤ
  realizedFxGainLossMinor : ℤ

structure RefundRow where
  creditNoteId : Uuid
  sourceCurrency : String
  sourceAmountConsumedMinor : ℤ
  sourceToBaseRate : ℚ
  creditRemainingBeforeMinor : ℤ
  sourceCarryingBaseReleasedMinor : ℤ
  sourceDustBaseMinor : ℤ
  receiptCurrency : String
  receiptAmountMinor : ℤ
  receiptToBaseRate : ℚ
  receiptBaseAmountMinor : ℤ
  realizedFxGainLossMinor : ℤ

structure CreditNoteRecord extends StoredCreditNote where
  id : Uuid
  currencyCode : String
  sourceToBaseRate : ℚ

structure ResidueWriteOffRow where
  purchaseId : Uuid
  residueTxnMinor : ℤ

/-- The rows of one business. -/
structure SettlementDb where
  baseCurrency : String
  currencies : Table CurrencyRecord.code
  purchases : Table PurchaseRecord.id
  purchaseReversals : List Uuid
  purchaseResidueWriteOffs : Table ResidueWriteOffRow.purchaseId
  supplierReturns : List SupplierReturnRow
  supplierPayments : Table SupplierPaymentRecord.id
  supplierPaymentAllocations : List PaymentAllocationRow
  supplierCreditNotes : Table CreditNoteRecord.id
  supplierCreditAllocations : List CreditAllocationRow
  supplierRefunds : List RefundRow

def SettlementDb.minorUnits (db : SettlementDb) (code : String) : Option ℤ :=
  (db.currencies.find? code).map CurrencyRecord.minorUnits

/-! ## 2. Reducers and consumers -/

def SupplierReturnRow.reducer (r : SupplierReturnRow) : PurchaseChainRow :=
  ⟨r.apReleasedBeforeTxnMinor, r.apTxnMinor, r.apBaseMinor⟩

def PaymentAllocationRow.reducer (a : PaymentAllocationRow) : PurchaseChainRow :=
  ⟨a.apReleasedBeforeTxnMinor, a.purchaseAmountAppliedMinor, a.purchaseCarryingBaseReleasedMinor⟩

def CreditAllocationRow.reducer (c : CreditAllocationRow) : PurchaseChainRow :=
  ⟨c.apReleasedBeforeTxnMinor, c.purchaseAmountAppliedMinor, c.purchaseCarryingBaseReleasedMinor⟩

def CreditAllocationRow.consumer (c : CreditAllocationRow) : CreditChainRow :=
  ⟨c.creditRemainingBeforeMinor, c.creditAmountConsumedMinor, c.creditCarryingBaseReleasedMinor⟩

def RefundRow.consumer (f : RefundRow) : CreditChainRow :=
  ⟨f.creditRemainingBeforeMinor, f.sourceAmountConsumedMinor, f.sourceCarryingBaseReleasedMinor⟩

namespace SettlementDb

variable (db : SettlementDb)

/-- The AP parts of the returns of a purchase, those of no amount included. -/
def returnReducers (purchaseId : Uuid) : List PurchaseChainRow :=
  (db.supplierReturns.filter fun r => r.purchaseId = purchaseId).map SupplierReturnRow.reducer

/-- The allocations of both kinds to a purchase. -/
def allocationReducers (purchaseId : Uuid) : List PurchaseChainRow :=
  (db.supplierPaymentAllocations.filter fun a => a.purchaseId = purchaseId).map
      PaymentAllocationRow.reducer ++
    (db.supplierCreditAllocations.filter fun c => c.purchaseId = purchaseId).map
      CreditAllocationRow.reducer

/-- Every AP reducer of a purchase as stored. -/
def storedReducers (purchaseId : Uuid) : List PurchaseChainRow :=
  db.returnReducers purchaseId ++ db.allocationReducers purchaseId

/-- The reducers a verification gathers: a return counts when it released AP. -/
def reducers (purchaseId : Uuid) : List PurchaseChainRow :=
  (db.returnReducers purchaseId).filter (fun r => r.amountMinor > 0) ++
    db.allocationReducers purchaseId

/-- The consumers of a credit note. -/
def consumers (creditNoteId : Uuid) : List CreditChainRow :=
  (db.supplierCreditAllocations.filter fun a => a.creditNoteId = creditNoteId).map
      CreditAllocationRow.consumer ++
    (db.supplierRefunds.filter fun f => f.creditNoteId = creditNoteId).map RefundRow.consumer

end SettlementDb

/-- What the tables promise of the rows that chain. -/
structure StoredSettlement extends SettlementDb where
  purchase_total : ∀ p ∈ purchases.rows, IsMinor 1 p.totalTxnMinor
  purchase_base : ∀ p ∈ purchases.rows, ∀ b ∈ p.totalBaseMinor, IsMinor 1 b
  note_original : ∀ n ∈ supplierCreditNotes.rows, IsMinor 1 n.originalMinor
  note_carrying : ∀ n ∈ supplierCreditNotes.rows, IsMinor 1 n.originalCarryingMinor
  return_amount : ∀ r ∈ supplierReturns, IsMinor 0 r.apTxnMinor
  payment_amount : ∀ a ∈ supplierPaymentAllocations, IsMinor 1 a.purchaseAmountAppliedMinor
  credit_amount : ∀ c ∈ supplierCreditAllocations, IsMinor 1 c.purchaseAmountAppliedMinor
  credit_consumed : ∀ c ∈ supplierCreditAllocations, IsMinor 1 c.creditAmountConsumedMinor
  refund_consumed : ∀ f ∈ supplierRefunds, IsMinor 1 f.sourceAmountConsumedMinor
  /-- A write-off closes what its purchase still owed. -/
  write_off : ∀ w ∈ purchaseResidueWriteOffs.rows, ∀ p ∈ purchases.rows, p.id = w.purchaseId →
    w.residueTxnMinor = p.totalTxnMinor - amountSum (toSettlementDb.storedReducers p.id)

/-! ## 3. The verifications -/

/-- `ORDER BY x, amount`. -/
def reducerOrder (a b : PurchaseChainRow) : Bool :=
  a.releasedBeforeMinor < b.releasedBeforeMinor ∨
    (a.releasedBeforeMinor = b.releasedBeforeMinor ∧ a.amountMinor ≤ b.amountMinor)

def settlementNeedsTotals : SqlError :=
  .raised "supplier_payment.settlement_inconsistent: a settled purchase needs its received totals"

def reducersDoNotChain : SqlError :=
  .raised ("supplier_payment.settlement_inconsistent: the purchase's AP reducers do not chain " ++
    "from zero to at most its total")

/-- Whether a reducer counts as bad, given the amounts ordered before it. The release is looked at
    only where it is defined. -/
def reducerBad (totalTxn totalBase : ℤ) (h : PurchaseChainRow × ℤ) : Routine Bool :=
  if h.1.releasedBeforeMinor ≠ h.2 ∨ h.1.releasedBeforeMinor + h.1.amountMinor > totalTxn then
    pure true
  else do
    let release ←
      supplierApRelease totalBase totalTxn h.1.releasedBeforeMinor h.1.amountMinor
    pure (h.1.releasedBaseMinor ≠ release)

/-- The verdict over the gathered reducers. -/
def reducersVerify (totalTxn totalBase : ℤ) (reducers : List PurchaseChainRow) : Routine Unit := do
  let chained := withBefore PurchaseChainRow.amountMinor 0 (reducers.mergeSort reducerOrder)
  let bad ← chained.mapM (reducerBad totalTxn totalBase)
  let sum := amountSum (chained.map Prod.fst)
  let rel := releasedSum (chained.map Prod.fst)
  let share ← inventoryHalfEven (totalBase * sum) totalTxn 0
  refuseIf (bad.count true > 0 ∨ sum > totalTxn ∨ (rel : ℚ) ≠ share) reducersDoNotChain

def purchaseSettlementVerify (db : SettlementDb) (purchaseId : Uuid) : Routine Unit := do
  match db.purchases.find? purchaseId with
  | some { totalTxnMinor, totalBaseMinor := some totalBase, .. } =>
    refuseIf (totalTxnMinor ≤ 0 ∨ totalBase ≤ 0) settlementNeedsTotals
    reducersVerify totalTxnMinor totalBase (db.reducers purchaseId)
  | _ => .error settlementNeedsTotals

/-- `ORDER BY rb DESC, amount`. -/
def consumerOrder (a b : CreditChainRow) : Bool :=
  a.remainingBeforeMinor > b.remainingBeforeMinor ∨
    (a.remainingBeforeMinor = b.remainingBeforeMinor ∧ a.consumedMinor ≤ b.consumedMinor)

def consumedNoteMustExist : SqlError :=
  .raised ("supplier_credit_note.consumption_inconsistent: a consumed supplier credit note must " ++
    "exist")

def consumersDoNotChain : SqlError :=
  .raised ("supplier_credit_note.consumption_inconsistent: the note's consumers do not chain " ++
    "from its original to its stored remaining values")

/-- Whether a consumer counts as bad, given the amounts ordered before it. -/
def consumerBad (original originalCarrying : ℤ) (h : CreditChainRow × ℤ) : Routine Bool :=
  if h.1.remainingBeforeMinor ≠ original - h.2 ∨ h.1.consumedMinor > h.1.remainingBeforeMinor then
    pure true
  else do
    let before ←
      supplierCreditRemainingCarrying original originalCarrying h.1.remainingBeforeMinor
    let after ← supplierCreditRemainingCarrying original originalCarrying
      (h.1.remainingBeforeMinor - h.1.consumedMinor)
    pure (h.1.releasedBaseMinor ≠ before - after)

/-- The verdict over the gathered consumers. -/
def consumersVerify (n : StoredCreditNote) (consumers : List CreditChainRow) : Routine Unit := do
  let chained := withBefore CreditChainRow.consumedMinor 0 (consumers.mergeSort consumerOrder)
  let bad ← chained.mapM (consumerBad n.originalMinor n.originalCarryingMinor)
  let sum := consumedSum (chained.map Prod.fst)
  let rel := creditReleasedSum (chained.map Prod.fst)
  refuseIf (bad.count true > 0 ∨ sum > n.originalMinor ∨ n.remainingMinor ≠ n.originalMinor - sum)
    consumersDoNotChain
  let g ← supplierCreditRemainingCarrying n.originalMinor n.originalCarryingMinor n.remainingMinor
  refuseIf (n.remainingCarryingMinor ≠ g ∨
    rel ≠ n.originalCarryingMinor - n.remainingCarryingMinor) consumersDoNotChain

def supplierCreditNoteVerify (db : SettlementDb) (creditNoteId : Uuid) : Routine Unit := do
  match db.supplierCreditNotes.find? creditNoteId with
  | none => .error consumedNoteMustExist
  | some n => consumersVerify n.toStoredCreditNote (db.consumers creditNoteId)

def purchaseNotFound : SqlError :=
  .raised "purchase.not_found: the purchase does not exist in this business"

/-- What a purchase still owes; nothing once it is reversed. -/
def purchaseApOutstanding (db : SettlementDb) (purchaseId : Uuid) : Routine ℤ :=
  match db.purchases.find? purchaseId with
  | none => .error purchaseNotFound
  | some p =>
    if p.status ≠ .received ∨ purchaseId ∈ db.purchaseReversals then pure 0
    else castBigint ((p.totalTxnMinor - amountSum (db.storedReducers purchaseId) -
      ((db.purchaseResidueWriteOffs.find? purchaseId).map
        ResidueWriteOffRow.residueTxnMinor).getD 0 : ℤ) : ℚ)

/-! ## 4. What the verifications accept -/

/-- The row releases the share of what it reduces, from its own level on. -/
def PurchaseChainRow.ReleasesShare (t b : ℤ) (r : PurchaseChainRow) : Prop :=
  r.releasedBaseMinor = apShare b t (r.releasedBeforeMinor + r.amountMinor) -
    apShare b t r.releasedBeforeMinor

instance (t b : ℤ) (r : PurchaseChainRow) : Decidable (r.ReleasesShare t b) :=
  inferInstanceAs (Decidable (_ = _))

abbrev ReducersTileable : ℤ → List PurchaseChainRow → Prop :=
  Tileable PurchaseChainRow.releasedBeforeMinor PurchaseChainRow.amountMinor

/-- The reducers tile what they reduce, within the total, and each releases its own share. -/
structure ReducersChain (t b : ℤ) (rows : List PurchaseChainRow) : Prop where
  tile : ReducersTileable 0 rows
  within : amountSum rows ≤ t
  released : ∀ r ∈ rows, r.ReleasesShare t b

/-- The releases of a chain are the share of what it reduces. -/
theorem releasedSum_of_share {t b : ℤ} {rows : List PurchaseChainRow}
    (htile : ReducersTileable 0 rows) (hrel : ∀ r ∈ rows, r.ReleasesShare t b) :
    releasedSum rows = apShare b t (amountSum rows) := by
  have h := htile.sum_release (apShare b t) PurchaseChainRow.releasedBaseMinor hrel
  rw [apShare_zero, sub_zero, zero_add] at h
  exact h

theorem amountSum_perm {rows rows' : List PurchaseChainRow} (h : rows.Perm rows') :
    amountSum rows = amountSum rows' := (h.map _).sum_eq

theorem releasedSum_perm {rows rows' : List PurchaseChainRow} (h : rows.Perm rows') :
    releasedSum rows = releasedSum rows' := (h.map _).sum_eq

theorem ReducersChain.perm {t b : ℤ} {rows rows' : List PurchaseChainRow}
    (h : ReducersChain t b rows) (hperm : rows.Perm rows') : ReducersChain t b rows' where
  tile := (tileable_perm hperm).mp h.tile
  within := amountSum_perm hperm ▸ h.within
  released := fun r hr => h.released r (hperm.mem_iff.mpr hr)

/-- **What a new reducer must be** for the reducers to stay one chain. -/
theorem ReducersChain.cons_iff {t b : ℤ} {rows : List PurchaseChainRow}
    (h : ReducersChain t b rows) (hpos : ∀ x ∈ rows, 0 < x.amountMinor) {r : PurchaseChainRow}
    (hr : 0 < r.amountMinor) :
    ReducersChain t b (r :: rows) ↔ r.releasedBeforeMinor = amountSum rows ∧
      r.releasedBeforeMinor + r.amountMinor ≤ t ∧ r.ReleasesShare t b := by
  have hstart := h.tile.cons_iff hpos hr
  rw [zero_add] at hstart
  have hsum : amountSum (r :: rows) = r.amountMinor + amountSum rows := List.sum_cons
  constructor
  · intro hc
    have hx : r.releasedBeforeMinor = amountSum rows := hstart.mp hc.tile
    have hle := hc.within
    exact ⟨hx, by omega, hc.released r List.mem_cons_self⟩
  · intro hc
    obtain ⟨hx, hle, hrel⟩ := hc
    refine ⟨hstart.mpr hx, by omega, fun x hx' => ?_⟩
    rcases List.mem_cons.mp hx' with rfl | hx'
    · exact hrel
    · exact h.released x hx'

theorem reducersTileable_iff {rows : List PurchaseChainRow}
    (hpos : ∀ r ∈ rows, 0 < r.amountMinor) :
    ReducersTileable 0 rows ↔ ReducersTile 0 (rows.mergeSort reducerOrder) := by
  refine tileable_iff_mergeSort hpos (fun a b c hab hbc => ?_) (fun a b => ?_) (fun a b hab => ?_)
  · simp only [reducerOrder, Bool.decide_or, Bool.decide_and, Bool.or_eq_true, Bool.and_eq_true,
      decide_eq_true_eq] at *
    omega
  · simp only [reducerOrder, Bool.decide_or, Bool.decide_and, Bool.or_eq_true, Bool.and_eq_true,
      decide_eq_true_eq]
    omega
  · simp only [reducerOrder, Bool.decide_or, Bool.decide_and, Bool.or_eq_true, Bool.and_eq_true,
      decide_eq_true_eq] at hab
    omega

theorem reducerBad_eq_false {t b : ℤ} {h : PurchaseChainRow × ℤ} :
    reducerBad t b h = .ok false ↔ h.1.releasedBeforeMinor = h.2 ∧
      h.1.releasedBeforeMinor + h.1.amountMinor ≤ t ∧
      supplierApRelease b t h.1.releasedBeforeMinor h.1.amountMinor =
        .ok h.1.releasedBaseMinor := by
  unfold reducerBad
  split
  · rename_i hbad
    simp only [pure_eq_ok, Bool.true_eq_false, false_iff]
    intro hok
    rcases hbad with hx | hx <;> omega
  · rename_i hgood
    rw [not_or, not_not, not_lt] at hgood
    simp only [bind_eq_ok, pure_eq_ok, ne_eq, decide_eq_false_iff_not, not_not]
    constructor
    · intro hok
      obtain ⟨release, hrel, heq⟩ := hok
      exact ⟨hgood.1, hgood.2, heq ▸ hrel⟩
    · intro hok
      exact ⟨_, hok.2.2, rfl⟩

/-- **A verification of reducers accepts the chains that release their shares.** -/
theorem reducersVerify_eq_ok {t b : ℤ} (ht : IsMinor 1 t) (hb : IsMinor 1 b)
    {rows : List PurchaseChainRow} (hpos : ∀ r ∈ rows, 0 < r.amountMinor) {u : Unit} :
    reducersVerify t b rows = .ok u ↔ ReducersChain t b rows := by
  have hperm := List.mergeSort_perm rows reducerOrder
  have hshare := inventoryHalfEven_int (b * amountSum rows) ht.1
  push_cast at hshare
  unfold reducersVerify
  simp only [map_fst_withBefore, amountSum_perm hperm, releasedSum_perm hperm, bind_eq_ok, hshare,
    Except.ok.injEq, exists_eq_left', refuseIf_eq_ok, not_or, not_lt, ne_eq, not_not, gt_iff_lt,
    Nat.le_zero, Int.cast_inj]
  constructor
  · intro h
    obtain ⟨bad, hmap, hcount, hle, _⟩ := h
    have hgood := mapM_count_true.mp ⟨bad, hmap, hcount⟩
    refine ⟨(reducersTileable_iff hpos).mpr (forall_withBefore.mp fun p hp => ?_), hle,
      fun r hr => ?_⟩
    · exact (reducerBad_eq_false.mp (hgood p hp)).1
    · obtain ⟨p, hp, rfl⟩ :=
        (mem_iff_withBefore PurchaseChainRow.amountMinor 0).mp (hperm.mem_iff.mpr hr)
      have hrel := (reducerBad_eq_false.mp (hgood p hp)).2.2
      exact (supplierApRelease_eq_ok.mp hrel).2.2.symm
  · intro h
    have hgood : ∀ p ∈ withBefore PurchaseChainRow.amountMinor 0 (rows.mergeSort reducerOrder),
        reducerBad t b p = .ok false := by
      intro p hp
      have hmem : p.1 ∈ rows := hperm.mem_iff.mp ((mem_iff_withBefore _ 0).mpr ⟨p, hp, rfl⟩)
      have hstart := forall_withBefore.mpr ((reducersTileable_iff hpos).mp h.tile) p hp
      obtain ⟨hlo, hhi⟩ := h.tile.bounds (fun r hr => (hpos r hr).le) hmem
      rw [zero_add] at hhi
      have hend := hhi.trans h.within
      have hrel := supplierApRelease_of_minor ht hb hlo (hpos p.1 hmem).le hend
      rw [← h.released p.1 hmem] at hrel
      exact reducerBad_eq_false.mpr ⟨hstart, hend, hrel⟩
    obtain ⟨bad, hmap, hcount⟩ := mapM_count_true.mpr hgood
    exact ⟨bad, hmap, hcount, h.within, releasedSum_of_share h.tile h.released⟩

/-- The row releases what its note no longer keeps. -/
def CreditChainRow.ReleasesKept (oa ob : ℤ) (r : CreditChainRow) : Prop :=
  r.releasedBaseMinor = creditKept oa ob r.remainingBeforeMinor -
    creditKept oa ob (r.remainingBeforeMinor - r.consumedMinor)

instance (oa ob : ℤ) (r : CreditChainRow) : Decidable (r.ReleasesKept oa ob) :=
  inferInstanceAs (Decidable (_ = _))

abbrev ConsumersTileable (oa : ℤ) : ℤ → List CreditChainRow → Prop :=
  Tileable (fun r => oa - r.remainingBeforeMinor) CreditChainRow.consumedMinor

/-- The consumers tile what they consume, within the original amount, each releases what the note
    no longer keeps, and the note stores what they leave. -/
structure ConsumersChain (n : StoredCreditNote) (rows : List CreditChainRow) : Prop where
  tile : ConsumersTileable n.originalMinor 0 rows
  within : consumedSum rows ≤ n.originalMinor
  released : ∀ r ∈ rows, r.ReleasesKept n.originalMinor n.originalCarryingMinor
  remaining : n.remainingMinor = n.originalMinor - consumedSum rows
  carrying : n.remainingCarryingMinor =
    creditKept n.originalMinor n.originalCarryingMinor n.remainingMinor

/-- The releases of a chain are what the note no longer keeps. -/
theorem creditReleasedSum_of_kept {oa ob : ℤ} (hoa : 0 < oa) (hob : 1 ≤ ob)
    {rows : List CreditChainRow} (htile : ConsumersTileable oa 0 rows)
    (hrel : ∀ r ∈ rows, r.ReleasesKept oa ob) :
    creditReleasedSum rows = ob - creditKept oa ob (oa - consumedSum rows) := by
  have h := htile.sum_release (fun x => -creditKept oa ob (oa - x))
    CreditChainRow.releasedBaseMinor fun r hr => by
      have := hrel r hr
      unfold CreditChainRow.ReleasesKept at this
      rw [this, sub_add_eq_sub_sub, sub_sub_cancel]
      omega
  rw [sub_zero, creditKept_original hoa hob, zero_add] at h
  unfold creditReleasedSum consumedSum
  omega

theorem consumedSum_perm {rows rows' : List CreditChainRow} (h : rows.Perm rows') :
    consumedSum rows = consumedSum rows' := (h.map _).sum_eq

theorem creditReleasedSum_perm {rows rows' : List CreditChainRow} (h : rows.Perm rows') :
    creditReleasedSum rows = creditReleasedSum rows' := (h.map _).sum_eq

theorem ConsumersChain.perm {n : StoredCreditNote} {rows rows' : List CreditChainRow}
    (h : ConsumersChain n rows) (hperm : rows.Perm rows') : ConsumersChain n rows' where
  tile := (tileable_perm hperm).mp h.tile
  within := consumedSum_perm hperm ▸ h.within
  released := fun r hr => h.released r (hperm.mem_iff.mpr hr)
  remaining := consumedSum_perm hperm ▸ h.remaining
  carrying := h.carrying

/-- **What a new consumer must be, and what the note must then store**, for the consumers to stay
    one chain. -/
theorem ConsumersChain.cons_iff {n : StoredCreditNote} {rows : List CreditChainRow}
    (h : ConsumersChain n rows) (hpos : ∀ x ∈ rows, 0 < x.consumedMinor) {r : CreditChainRow}
    (hr : 0 < r.consumedMinor) {remaining carrying : ℤ} :
    ConsumersChain { n with remainingMinor := remaining, remainingCarryingMinor := carrying }
        (r :: rows) ↔
      (r.remainingBeforeMinor = n.remainingMinor ∧ r.consumedMinor ≤ r.remainingBeforeMinor ∧
        r.ReleasesKept n.originalMinor n.originalCarryingMinor) ∧
      remaining = n.remainingMinor - r.consumedMinor ∧
      carrying = creditKept n.originalMinor n.originalCarryingMinor remaining := by
  have hstart := h.tile.cons_iff hpos hr
  rw [zero_add] at hstart
  have hsum : consumedSum (r :: rows) = r.consumedMinor + consumedSum rows := List.sum_cons
  have hrem := h.remaining
  constructor
  · intro hc
    have hx : n.originalMinor - r.remainingBeforeMinor = consumedSum rows := hstart.mp hc.tile
    have hle : consumedSum (r :: rows) ≤ n.originalMinor := hc.within
    have hrem' : remaining = n.originalMinor - consumedSum (r :: rows) := hc.remaining
    exact ⟨⟨by omega, by omega, hc.released r List.mem_cons_self⟩, by omega, hc.carrying⟩
  · intro hc
    obtain ⟨⟨hrb, hle, hrel⟩, hrem', hcarry⟩ := hc
    refine ⟨hstart.mpr (show n.originalMinor - r.remainingBeforeMinor = consumedSum rows by omega),
      show consumedSum (r :: rows) ≤ n.originalMinor by omega, fun x hx' => ?_,
      show remaining = n.originalMinor - consumedSum (r :: rows) by omega, hcarry⟩
    rcases List.mem_cons.mp hx' with rfl | hx'
    · exact hrel
    · exact h.released x hx'

theorem consumersTileable_iff {oa : ℤ} {rows : List CreditChainRow}
    (hpos : ∀ r ∈ rows, 0 < r.consumedMinor) :
    ConsumersTileable oa 0 rows ↔ ConsumersTile oa 0 (rows.mergeSort consumerOrder) := by
  refine tileable_iff_mergeSort hpos (fun a b c hab hbc => ?_) (fun a b => ?_) (fun a b hab => ?_)
  · simp only [consumerOrder, Bool.decide_or, Bool.decide_and, Bool.or_eq_true, Bool.and_eq_true,
      decide_eq_true_eq] at *
    omega
  · simp only [consumerOrder, Bool.decide_or, Bool.decide_and, Bool.or_eq_true, Bool.and_eq_true,
      decide_eq_true_eq]
    omega
  · simp only [consumerOrder, Bool.decide_or, Bool.decide_and, Bool.or_eq_true, Bool.and_eq_true,
      decide_eq_true_eq] at hab
    omega

theorem consumerBad_eq_false {oa ob : ℤ} {h : CreditChainRow × ℤ} :
    consumerBad oa ob h = .ok false ↔ h.1.remainingBeforeMinor = oa - h.2 ∧
      h.1.consumedMinor ≤ h.1.remainingBeforeMinor ∧
      ∃ before after, supplierCreditRemainingCarrying oa ob h.1.remainingBeforeMinor = .ok before ∧
        supplierCreditRemainingCarrying oa ob (h.1.remainingBeforeMinor - h.1.consumedMinor) =
          .ok after ∧ h.1.releasedBaseMinor = before - after := by
  unfold consumerBad
  split
  · rename_i hbad
    simp only [pure_eq_ok, Bool.true_eq_false, false_iff]
    intro hok
    rcases hbad with hx | hx <;> omega
  · rename_i hgood
    rw [not_or, not_not, not_lt] at hgood
    simp only [bind_eq_ok, pure_eq_ok, ne_eq, decide_eq_false_iff_not, not_not]
    constructor
    · intro hok
      obtain ⟨before, hb, after, ha, heq⟩ := hok
      exact ⟨hgood.1, hgood.2, before, after, hb, ha, heq⟩
    · intro hok
      obtain ⟨_, _, before, after, hb, ha, heq⟩ := hok
      exact ⟨before, hb, after, ha, heq⟩

/-- **A verification of consumers accepts the chains that release what the note no longer keeps**
    and that the note's stored pair closes. -/
theorem consumersVerify_eq_ok {n : StoredCreditNote} (hoa : IsMinor 1 n.originalMinor)
    (hob : IsMinor 1 n.originalCarryingMinor) {rows : List CreditChainRow}
    (hpos : ∀ r ∈ rows, 0 < r.consumedMinor) {u : Unit} :
    consumersVerify n rows = .ok u ↔ ConsumersChain n rows := by
  have hperm := List.mergeSort_perm rows consumerOrder
  have hsum0 : 0 ≤ consumedSum rows := List.sum_nonneg fun v hv => by
    obtain ⟨r, hr, rfl⟩ := List.mem_map.mp hv
    exact (hpos r hr).le
  unfold consumersVerify
  simp only [map_fst_withBefore, consumedSum_perm hperm, creditReleasedSum_perm hperm, bind_eq_ok,
    refuseIf_eq_ok, exists_const, not_or, not_lt, ne_eq, not_not, gt_iff_lt, Nat.le_zero]
  constructor
  · intro h
    obtain ⟨bad, hmap, ⟨hcount, hle, hrem⟩, g, hg, hcarry, _⟩ := h
    have hgood := mapM_count_true.mp ⟨bad, hmap, hcount⟩
    refine ⟨(consumersTileable_iff hpos).mpr (forall_withBefore.mp fun p hp => ?_), hle,
      fun r hr => ?_, hrem, ?_⟩
    · have := (consumerBad_eq_false.mp (hgood p hp)).1
      omega
    · obtain ⟨p, hp, rfl⟩ :=
        (mem_iff_withBefore CreditChainRow.consumedMinor 0).mp (hperm.mem_iff.mpr hr)
      obtain ⟨_, _, before, after, hb, ha, heq⟩ := consumerBad_eq_false.mp (hgood p hp)
      have hb' := (supplierCreditRemainingCarrying_eq_ok.mp hb).2.2
      have ha' := (supplierCreditRemainingCarrying_eq_ok.mp ha).2.2
      rw [CreditChainRow.ReleasesKept, heq, hb', ha']
    · rw [hcarry, (supplierCreditRemainingCarrying_eq_ok.mp hg).2.2]
  · intro h
    have hgood : ∀ p ∈ withBefore CreditChainRow.consumedMinor 0 (rows.mergeSort consumerOrder),
        consumerBad n.originalMinor n.originalCarryingMinor p = .ok false := by
      intro p hp
      have hmem : p.1 ∈ rows := hperm.mem_iff.mp ((mem_iff_withBefore _ 0).mpr ⟨p, hp, rfl⟩)
      have hstart := forall_withBefore.mpr ((consumersTileable_iff hpos).mp h.tile) p hp
      obtain ⟨hlo, hhi⟩ := h.tile.bounds (fun r hr => (hpos r hr).le) hmem
      have hpos_p := hpos p.1 hmem
      have hwithin := h.within
      have hb := supplierCreditRemainingCarrying_of_minor hoa hob
        (show 0 ≤ p.1.remainingBeforeMinor by unfold consumedSum at hwithin; omega)
        (show p.1.remainingBeforeMinor ≤ n.originalMinor by omega)
      have ha := supplierCreditRemainingCarrying_of_minor hoa hob
        (show 0 ≤ p.1.remainingBeforeMinor - p.1.consumedMinor by
          unfold consumedSum at hwithin; omega)
        (show p.1.remainingBeforeMinor - p.1.consumedMinor ≤ n.originalMinor by omega)
      refine consumerBad_eq_false.mpr ⟨by omega, by unfold consumedSum at hwithin; omega, _, _, hb,
        ha, h.released p.1 hmem⟩
    obtain ⟨bad, hmap, hcount⟩ := mapM_count_true.mpr hgood
    have hrem := h.remaining
    have hg := supplierCreditRemainingCarrying_of_minor hoa hob
      (show 0 ≤ n.remainingMinor by have := h.within; omega)
      (show n.remainingMinor ≤ n.originalMinor by omega)
    refine ⟨bad, hmap, ⟨hcount, h.within, hrem⟩, _, hg, h.carrying, ?_⟩
    rw [creditReleasedSum_of_kept hoa.1 hob.1 h.tile h.released, h.carrying, ← hrem]

/-! ## 5. Verifications of stored rows -/

theorem purchaseSettlementVerify_eq {db : SettlementDb} {p : PurchaseRecord} {b : ℤ}
    (hp : db.purchases.find? p.id = some p) (ht : 0 < p.totalTxnMinor)
    (hb : p.totalBaseMinor = some b) (hb0 : 0 < b) :
    purchaseSettlementVerify db p.id = reducersVerify p.totalTxnMinor b (db.reducers p.id) := by
  obtain ⟨id, status, currencyCode, t, base, rate⟩ := p
  obtain rfl : base = some b := hb
  unfold purchaseSettlementVerify
  simp only [hp]
  rw [refuseIf_of_not (not_or.mpr ⟨not_le.mpr ht, not_le.mpr hb0⟩)]
  rfl

theorem supplierCreditNoteVerify_eq {db : SettlementDb} {id : Uuid} {n : CreditNoteRecord}
    (hn : db.supplierCreditNotes.find? id = some n) :
    supplierCreditNoteVerify db id = consumersVerify n.toStoredCreditNote (db.consumers id) := by
  unfold supplierCreditNoteVerify
  simp only [hn]

namespace StoredSettlement

variable (db : StoredSettlement)

theorem allocationReducers_pos (purchaseId : Uuid) :
    ∀ r ∈ db.allocationReducers purchaseId, 0 < r.amountMinor := by
  intro r hr
  rcases List.mem_append.mp hr with hr | hr
  · obtain ⟨a, ha, rfl⟩ := List.mem_map.mp hr
    exact (db.payment_amount a (List.mem_of_mem_filter ha)).1
  · obtain ⟨c, hc, rfl⟩ := List.mem_map.mp hr
    exact (db.credit_amount c (List.mem_of_mem_filter hc)).1

theorem reducers_pos (purchaseId : Uuid) : ∀ r ∈ db.reducers purchaseId, 0 < r.amountMinor := by
  intro r hr
  rcases List.mem_append.mp hr with hr | hr
  · exact of_decide_eq_true (List.mem_filter.mp hr).2
  · exact db.allocationReducers_pos purchaseId r hr

/-- The gathered reducers are the stored ones of a positive amount. -/
theorem filter_storedReducers (purchaseId : Uuid) :
    (db.storedReducers purchaseId).filter (fun r => 0 < r.amountMinor) =
      db.reducers purchaseId := by
  rw [SettlementDb.storedReducers, List.filter_append, SettlementDb.reducers]
  congr 1
  exact List.filter_eq_self.mpr fun r hr =>
    decide_eq_true (db.allocationReducers_pos purchaseId r hr)

theorem storedReducers_nonneg (purchaseId : Uuid) :
    ∀ r ∈ db.storedReducers purchaseId, 0 ≤ r.amountMinor := by
  intro r hr
  rcases List.mem_append.mp hr with hr | hr
  · obtain ⟨x, hx, rfl⟩ := List.mem_map.mp hr
    exact (db.return_amount x (List.mem_of_mem_filter hx)).1
  · exact (db.allocationReducers_pos purchaseId r hr).le

/-- Returns of no AP change no sum. -/
theorem amountSum_storedReducers (purchaseId : Uuid) :
    amountSum (db.storedReducers purchaseId) = amountSum (db.reducers purchaseId) := by
  rw [← db.filter_storedReducers]
  refine (sum_filter_pos _ fun r hr hn => ?_).symm
  have := db.storedReducers_nonneg purchaseId r hr
  omega

theorem consumers_pos (creditNoteId : Uuid) :
    ∀ r ∈ db.consumers creditNoteId, 0 < r.consumedMinor := by
  intro r hr
  rcases List.mem_append.mp hr with hr | hr
  · obtain ⟨c, hc, rfl⟩ := List.mem_map.mp hr
    exact (db.credit_consumed c (List.mem_of_mem_filter hc)).1
  · obtain ⟨f, hf, rfl⟩ := List.mem_map.mp hr
    exact (db.refund_consumed f (List.mem_of_mem_filter hf)).1

end StoredSettlement

end Daftar.Inventory
