/-
  File: Daftar/Inventory/ChainVerifiers.lean
  Subject: The chain verdicts of the package beside the chain verifications of the database.

  * Both look for one chain of the same rows. The verifications also look at the release of each
    row, the verdicts only at the total of the releases (`verifyPurchaseChain_iff`,
    `verifyCreditChain_iff`).
  * `ReleasesOffset` and `KeptOffset`: rows that chain, with wrong releases that make up for each
    other. They are all that the two disagree on (`chain_verifiers_agree_iff`).
-/

import Daftar.Inventory.SettlementTables

namespace Daftar.Inventory

open Fallible
open Tables
open Tiling

/-! ## 1. The verdicts, in any order of the rows -/

/-- The reducers that count. -/
def countedReducers (rows : List PurchaseChainRow) : List PurchaseChainRow :=
  rows.filter fun r => 0 < r.amountMinor

theorem countedReducers_pos (rows : List PurchaseChainRow) :
    ∀ r ∈ countedReducers rows, 0 < r.amountMinor := fun _ hr =>
  of_decide_eq_true (List.mem_filter.mp hr).2

/-- The verdict over a purchase looks at the levels, the amounts and the total of the releases. -/
theorem verifyPurchaseChain_iff {t b : ℤ} (ht : IsMinor 1 t) (hb : IsMinor 1 b)
    {rows : List PurchaseChainRow} {u : Unit} :
    verifyPurchaseChain t b rows = .ok u ↔ ReducersTileable 0 (countedReducers rows) ∧
      amountSum (countedReducers rows) ≤ t ∧
      releasedSum (countedReducers rows) = apShare b t (amountSum (countedReducers rows)) := by
  have hb' : IsMinor 0 b := ⟨by have := hb.1; omega, hb.2⟩
  have hperm : (orderedReducers rows).Perm (countedReducers rows) := List.mergeSort_perm _ _
  have htile : ReducersTileable 0 (countedReducers rows) ↔ ReducersTile 0 (orderedReducers rows) := by
    refine tileable_iff_mergeSort (countedReducers_pos rows) (fun a b c hab hbc => ?_)
      (fun a b => ?_) fun a b hab => of_decide_eq_true hab
    · exact decide_eq_true ((of_decide_eq_true hab).trans (of_decide_eq_true hbc))
    · rw [Bool.or_eq_true, decide_eq_true_eq, decide_eq_true_eq]
      exact le_total _ _
  rw [verifyPurchaseChain_eq_ok, amountSum_perm hperm, releasedSum_perm hperm, htile]
  exact ⟨fun h => h.2.2, fun h => ⟨ht, hb', h⟩⟩

/-- The verdict over a note looks at the levels, the amounts, the stored pair and the total of the
    releases. -/
theorem verifyCreditChain_iff {n : StoredCreditNote} (hoa : IsMinor 1 n.originalMinor)
    (hob : IsMinor 1 n.originalCarryingMinor) {rows : List CreditChainRow}
    (hpos : ∀ r ∈ rows, 0 < r.consumedMinor) {u : Unit} :
    verifyCreditChain n rows = .ok u ↔ ConsumersTileable n.originalMinor 0 rows ∧
      consumedSum rows ≤ n.originalMinor ∧
      n.remainingMinor = n.originalMinor - consumedSum rows ∧
      n.remainingCarryingMinor =
        creditKept n.originalMinor n.originalCarryingMinor n.remainingMinor ∧
      creditReleasedSum rows = n.originalCarryingMinor - n.remainingCarryingMinor := by
  have hperm : (orderedConsumers rows).Perm rows := List.mergeSort_perm _ _
  have htile : ConsumersTileable n.originalMinor 0 rows ↔
      ConsumersTile n.originalMinor 0 (orderedConsumers rows) := by
    refine tileable_iff_mergeSort hpos (fun a b c hab hbc => ?_) (fun a b => ?_) fun a b hab => ?_
    · simp only [decide_eq_true_eq] at *
      omega
    · rw [Bool.or_eq_true, decide_eq_true_eq, decide_eq_true_eq]
      exact le_total _ _
    · rw [decide_eq_true_eq] at hab
      omega
  have hsum0 : 0 ≤ consumedSum rows := List.sum_nonneg fun v hv => by
    obtain ⟨r, hr, rfl⟩ := List.mem_map.mp hv
    exact (hpos r hr).le
  rw [verifyCreditChain_eq_ok, consumedSum_perm hperm, creditReleasedSum_perm hperm, htile,
    creditRemainingCarrying_eq_ok]
  have hmax := hoa.2
  constructor
  · intro h
    obtain ⟨_, ht, hle, hrem, ⟨_, _, _, _, hcarry⟩, hrel⟩ := h
    exact ⟨ht, hle, hrem, hcarry.symm, hrel⟩
  · intro h
    obtain ⟨ht, hle, hrem, hcarry, hrel⟩ := h
    exact ⟨hpos, ht, hle, hrem, ⟨hoa, hob, ⟨by omega, by omega⟩, by omega, hcarry.symm⟩, hrel⟩

/-- The order in which the reducers are given does not matter. -/
theorem verifyPurchaseChain_perm {t b : ℤ} (ht : IsMinor 1 t) (hb : IsMinor 1 b)
    {rows rows' : List PurchaseChainRow} (h : rows.Perm rows') :
    verifyPurchaseChain t b rows = .ok () ↔ verifyPurchaseChain t b rows' = .ok () := by
  have hcounted : (countedReducers rows).Perm (countedReducers rows') := h.filter _
  rw [verifyPurchaseChain_iff ht hb, verifyPurchaseChain_iff ht hb, amountSum_perm hcounted,
    releasedSum_perm hcounted]
  exact and_congr_left fun _ => tileable_perm hcounted

theorem verifyCreditChain_perm {n : StoredCreditNote} (hoa : IsMinor 1 n.originalMinor)
    (hob : IsMinor 1 n.originalCarryingMinor) {rows rows' : List CreditChainRow}
    (hpos : ∀ r ∈ rows', 0 < r.consumedMinor) (h : rows.Perm rows') :
    verifyCreditChain n rows = .ok () ↔ verifyCreditChain n rows' = .ok () := by
  rw [verifyCreditChain_iff hoa hob fun r hr => hpos r (h.mem_iff.mp hr),
    verifyCreditChain_iff hoa hob hpos, consumedSum_perm h, creditReleasedSum_perm h]
  exact and_congr_left fun _ => tileable_perm h

/-! ## 2. Where they part -/

/-- The reducers chain and their releases sum to the share of what they reduce, but some release
    is not its own share. -/
structure ReleasesOffset (t b : ℤ) (rows : List PurchaseChainRow) : Prop where
  tile : ReducersTileable 0 rows
  within : amountSum rows ≤ t
  total : releasedSum rows = apShare b t (amountSum rows)
  misreleased : ∃ r ∈ rows, ¬ r.ReleasesShare t b

/-- The consumers chain to the stored pair and their releases sum to what the note lost, but some
    release is not what its row took from the note. -/
structure KeptOffset (n : StoredCreditNote) (rows : List CreditChainRow) : Prop where
  tile : ConsumersTileable n.originalMinor 0 rows
  within : consumedSum rows ≤ n.originalMinor
  remaining : n.remainingMinor = n.originalMinor - consumedSum rows
  carrying : n.remainingCarryingMinor =
    creditKept n.originalMinor n.originalCarryingMinor n.remainingMinor
  total : creditReleasedSum rows = n.originalCarryingMinor - n.remainingCarryingMinor
  misreleased : ∃ r ∈ rows, ¬ r.ReleasesKept n.originalMinor n.originalCarryingMinor

theorem reducersVerify_agrees_iff {t b : ℤ} (ht : IsMinor 1 t) (hb : IsMinor 1 b)
    {rows : List PurchaseChainRow} :
    (verifyPurchaseChain t b rows = .ok () ↔ reducersVerify t b (countedReducers rows) = .ok ()) ↔
      ¬ ReleasesOffset t b (countedReducers rows) := by
  rw [verifyPurchaseChain_iff ht hb, reducersVerify_eq_ok ht hb (countedReducers_pos rows)]
  constructor
  · intro hagree hoff
    obtain ⟨r, hr, hne⟩ := hoff.misreleased
    exact hne ((hagree.mp ⟨hoff.tile, hoff.within, hoff.total⟩).released r hr)
  · intro hoff
    constructor
    · intro h
      obtain ⟨htile, hle, htotal⟩ := h
      refine ⟨htile, hle, fun r hr => ?_⟩
      by_contra hne
      exact hoff ⟨htile, hle, htotal, r, hr, hne⟩
    · intro h
      exact ⟨h.tile, h.within, releasedSum_of_share h.tile h.released⟩

theorem consumersVerify_agrees_iff {n : StoredCreditNote} (hoa : IsMinor 1 n.originalMinor)
    (hob : IsMinor 1 n.originalCarryingMinor) {rows : List CreditChainRow}
    (hpos : ∀ r ∈ rows, 0 < r.consumedMinor) :
    (verifyCreditChain n rows = .ok () ↔ consumersVerify n rows = .ok ()) ↔
      ¬ KeptOffset n rows := by
  rw [verifyCreditChain_iff hoa hob hpos, consumersVerify_eq_ok hoa hob hpos]
  constructor
  · intro hagree hoff
    obtain ⟨r, hr, hne⟩ := hoff.misreleased
    exact hne ((hagree.mp ⟨hoff.tile, hoff.within, hoff.remaining, hoff.carrying,
      hoff.total⟩).released r hr)
  · intro hoff
    constructor
    · intro h
      obtain ⟨htile, hle, hrem, hcarry, htotal⟩ := h
      refine ⟨htile, hle, fun r hr => ?_, hrem, hcarry⟩
      by_contra hne
      exact hoff ⟨htile, hle, hrem, hcarry, htotal, r, hr, hne⟩
    · intro h
      refine ⟨h.tile, h.within, h.remaining, h.carrying, ?_⟩
      rw [creditReleasedSum_of_kept hoa.1 hob.1 h.tile h.released, h.carrying, ← h.remaining]

/-! ## 3. Stored rows -/

/-- **The verdicts and the verifications agree on stored rows unless wrong releases make up for
    each other**, for purchases and for credit notes, in whatever order the rows are given. -/
theorem chain_verifiers_agree_iff (db : StoredSettlement) :
    (∀ p ∈ db.purchases.rows, ∀ b ∈ p.totalBaseMinor, ∀ rows,
      rows.Perm (db.storedReducers p.id) →
        ((verifyPurchaseChain p.totalTxnMinor b rows = .ok () ↔
            purchaseSettlementVerify db.toSettlementDb p.id = .ok ()) ↔
          ¬ ReleasesOffset p.totalTxnMinor b (db.reducers p.id))) ∧
    (∀ n ∈ db.supplierCreditNotes.rows, ∀ rows, rows.Perm (db.consumers n.id) →
        ((verifyCreditChain n.toStoredCreditNote rows = .ok () ↔
            supplierCreditNoteVerify db.toSettlementDb n.id = .ok ()) ↔
          ¬ KeptOffset n.toStoredCreditNote (db.consumers n.id))) := by
  constructor
  · intro p hp b hb rows hperm
    have ht := db.purchase_total p hp
    have hbase := db.purchase_base p hp b hb
    have hcounted : countedReducers (db.storedReducers p.id) = db.reducers p.id :=
      db.filter_storedReducers p.id
    rw [verifyPurchaseChain_perm ht hbase hperm,
      purchaseSettlementVerify_eq (Table.find?_of_mem hp) ht.1 hb hbase.1, ← hcounted]
    exact reducersVerify_agrees_iff ht hbase
  · intro n hn rows hperm
    have hoa := db.note_original n hn
    have hob := db.note_carrying n hn
    have hpos := db.consumers_pos n.id
    rw [verifyCreditChain_perm hoa hob hpos hperm,
      supplierCreditNoteVerify_eq (Table.find?_of_mem hn)]
    exact consumersVerify_agrees_iff hoa hob hpos

/-! ## 4. Two payments whose releases are one off, and make up for it -/

def samplePurchaseId : Uuid := .sample 1

def samplePaymentId : Uuid := .sample 2

/-- A received purchase of 100 at the rate 1. -/
def samplePurchase : PurchaseRecord :=
  { id := samplePurchaseId, status := .received, currencyCode := "USD", totalTxnMinor := 100
    totalBaseMinor := some 100, sourceToBaseRate := some 1 }

/-- 50 paid on the sample purchase from a level on, with the release as stored. -/
def samplePaid (before released : ℤ) : PaymentAllocationRow :=
  { paymentId := samplePaymentId, purchaseId := samplePurchaseId, paymentCurrency := "USD"
    paymentAmountMinor := 50, paymentToBaseRate := 1, paymentBaseAmountMinor := 50
    purchaseCurrency := "USD", purchaseAmountAppliedMinor := 50, purchaseHistoricalToBaseRate := 1
    apReleasedBeforeTxnMinor := before, purchaseCarryingBaseReleasedMinor := released
    apDustBaseMinor := released - 50, realizedFxGainLossMinor := 50 - released }

def offsetDb : StoredSettlement where
  baseCurrency := "USD"
  currencies := ⟨[⟨"USD", 2⟩], by decide +kernel⟩
  purchases := ⟨[samplePurchase], by decide +kernel⟩
  purchaseReversals := []
  purchaseResidueWriteOffs := Table.empty
  supplierReturns := []
  supplierPayments := ⟨[⟨samplePaymentId, "USD", 1⟩], by decide +kernel⟩
  supplierPaymentAllocations := [samplePaid 0 49, samplePaid 50 51]
  supplierCreditNotes := Table.empty
  supplierCreditAllocations := []
  supplierRefunds := []
  purchase_total := by decide +kernel
  purchase_base := by
    intro p hp b hb
    rw [List.mem_singleton.mp hp] at hb
    obtain rfl : 100 = b := Option.some.inj hb
    exact ⟨by decide, by decide⟩
  note_original := fun _ h => absurd h List.not_mem_nil
  note_carrying := fun _ h => absurd h List.not_mem_nil
  return_amount := fun _ h => absurd h List.not_mem_nil
  payment_amount := by decide +kernel
  credit_amount := fun _ h => absurd h List.not_mem_nil
  credit_consumed := fun _ h => absurd h List.not_mem_nil
  refund_consumed := fun _ h => absurd h List.not_mem_nil
  write_off := fun _ h => absurd h List.not_mem_nil

theorem chain_verifiers_agree_iff_offset :
    (verifyPurchaseChain 100 100 (offsetDb.storedReducers samplePurchaseId) = .ok () ↔
      purchaseSettlementVerify offsetDb.toSettlementDb samplePurchaseId = .ok ()) ↔
    ¬ ReleasesOffset 100 100 (offsetDb.reducers samplePurchaseId) :=
  (chain_verifiers_agree_iff offsetDb).1 samplePurchase (List.mem_singleton.mpr rfl) 100 rfl _
    (.refl _)

theorem offset_reducers : offsetDb.storedReducers samplePurchaseId = [⟨0, 50, 49⟩, ⟨50, 50, 51⟩] ∧
    offsetDb.reducers samplePurchaseId = [⟨0, 50, 49⟩, ⟨50, 50, 51⟩] := by
  decide +kernel

theorem offset_tile : ReducersTileable 0 [⟨0, 50, 49⟩, ⟨50, 50, 51⟩] :=
  Tiles.tileable ⟨rfl, rfl, trivial⟩

/-- The package accepts the two payments, the database does not. -/
theorem not_chain_verifiers_agree :
    verifyPurchaseChain 100 100 (offsetDb.storedReducers samplePurchaseId) = .ok () ∧
      purchaseSettlementVerify offsetDb.toSettlementDb samplePurchaseId ≠ .ok () := by
  have h100 : IsMinor 1 100 := by decide +kernel
  rw [offset_reducers.1]
  constructor
  · exact (verifyPurchaseChain_iff h100 h100).mpr ⟨offset_tile, by decide +kernel, by decide +kernel⟩
  · have heq : purchaseSettlementVerify offsetDb.toSettlementDb samplePurchaseId =
        reducersVerify 100 100 (offsetDb.reducers samplePurchaseId) :=
      purchaseSettlementVerify_eq (p := samplePurchase)
        (Table.find?_of_mem (List.mem_singleton.mpr rfl)) (by decide) rfl (by decide)
    rw [heq]
    intro hok
    have hchain := (reducersVerify_eq_ok h100 h100 (offsetDb.reducers_pos _)).mp hok
    rw [offset_reducers.2] at hchain
    exact absurd (hchain.released ⟨0, 50, 49⟩ List.mem_cons_self) (by decide +kernel)

end Daftar.Inventory
