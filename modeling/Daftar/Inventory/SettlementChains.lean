/-
  File: Daftar/Inventory/SettlementChains.lean
  Subject: The chain of AP reducers of a purchase and the chain of consumers of a credit note.

  * `verifyPurchaseChain` and `verifyCreditChain` are the two chain verdicts over stored rows.
  * `ApStep` and `CreditStep` are one accepted reducer or consumer, computed at the level the ones
    before it left, and the row it stores.
  * `purchaseChain_verdicts`, `creditChain_verdicts`: every chain so built is accepted in every
    storage order, its releases are exact, and two rows computed at one level are never accepted
    together.
-/

import Daftar.Inventory.SettlementBalance
import Daftar.Library.Runs
import Daftar.Library.Tiling

namespace Daftar.Inventory

open Fallible
open Rounding
open Runs
open Tiling

/-! ## 1. The verdicts -/

/-- One AP reducer of a purchase as stored. -/
structure PurchaseChainRow where
  releasedBeforeMinor : ℤ
  amountMinor : ℤ
  releasedBaseMinor : ℤ
  deriving DecidableEq, Repr

def settlementInconsistent : InventoryError :=
  ⟨.supplierPaymentSettlementInconsistent,
    "the AP reducers of the purchase do not form one chain"⟩

/-- The loop over the ordered rows: each starts at the sum of the amounts before it. -/
def purchaseChainFrom : ℤ → ℤ → List PurchaseChainRow → Result (ℤ × ℤ)
  | sum, released, [] => .ok (sum, released)
  | sum, released, r :: rs => do
    refuseIf (r.releasedBeforeMinor ≠ sum) settlementInconsistent
    purchaseChainFrom (sum + r.amountMinor) (released + r.releasedBaseMinor) rs

/-- The reducers with a positive amount, oldest first. -/
def orderedReducers (rows : List PurchaseChainRow) : List PurchaseChainRow :=
  (rows.filter fun r => 0 < r.amountMinor).mergeSort fun a b =>
    a.releasedBeforeMinor ≤ b.releasedBeforeMinor

def verifyPurchaseChain (totalTxnMinor totalBaseMinor : ℤ) (rows : List PurchaseChainRow) :
    Result Unit := do
  assertMinor totalTxnMinor "a purchase txn total" 1
  assertMinor totalBaseMinor "a purchase base total" 0
  let (sum, released) ← purchaseChainFrom 0 0 (orderedReducers rows)
  refuseIf (sum > totalTxnMinor) settlementInconsistent
  let share ← roundHalfEven (totalBaseMinor * sum) totalTxnMinor
  refuseIf (released ≠ share) settlementInconsistent

/-- One consumer of a credit note as stored. -/
structure CreditChainRow where
  remainingBeforeMinor : ℤ
  consumedMinor : ℤ
  releasedBaseMinor : ℤ
  deriving DecidableEq, Repr

/-- The note as stored: its original pair and its remaining pair. -/
structure StoredCreditNote where
  originalMinor : ℤ
  originalCarryingMinor : ℤ
  remainingMinor : ℤ
  remainingCarryingMinor : ℤ
  deriving DecidableEq, Repr

def consumptionInconsistent : InventoryError :=
  ⟨.supplierCreditNoteConsumptionInconsistent,
    "the consumers of the credit note do not form one chain"⟩

/-- The loop over the ordered rows: each starts where the earlier consumptions left the note. -/
def creditChainFrom (originalMinor : ℤ) : ℤ → ℤ → List CreditChainRow → Result (ℤ × ℤ)
  | consumed, released, [] => .ok (consumed, released)
  | consumed, released, r :: rs => do
    refuseIf (r.consumedMinor ≤ 0 ∨ r.remainingBeforeMinor ≠ originalMinor - consumed)
      consumptionInconsistent
    creditChainFrom originalMinor (consumed + r.consumedMinor) (released + r.releasedBaseMinor) rs

/-- The consumers, oldest first. -/
def orderedConsumers (rows : List CreditChainRow) : List CreditChainRow :=
  rows.mergeSort fun a b => b.remainingBeforeMinor ≤ a.remainingBeforeMinor

def verifyCreditChain (note : StoredCreditNote) (rows : List CreditChainRow) : Result Unit := do
  let (consumed, released) ← creditChainFrom note.originalMinor 0 0 (orderedConsumers rows)
  refuseIf (consumed > note.originalMinor ∨ note.remainingMinor ≠ note.originalMinor - consumed)
    consumptionInconsistent
  let g ← creditRemainingCarrying note.originalMinor note.originalCarryingMinor note.remainingMinor
  refuseIf (note.remainingCarryingMinor ≠ g ∨ released ≠ note.originalCarryingMinor - g)
    consumptionInconsistent

/-! ## 2. What the verdicts accept -/

abbrev ReducersTile : ℤ → List PurchaseChainRow → Prop :=
  Tiles PurchaseChainRow.releasedBeforeMinor PurchaseChainRow.amountMinor

def amountSum (rows : List PurchaseChainRow) : ℤ := (rows.map PurchaseChainRow.amountMinor).sum

def releasedSum (rows : List PurchaseChainRow) : ℤ :=
  (rows.map PurchaseChainRow.releasedBaseMinor).sum

theorem purchaseChainFrom_eq_ok {rows : List PurchaseChainRow} {s r : ℤ} {out : ℤ × ℤ} :
    purchaseChainFrom s r rows = .ok out ↔
      ReducersTile s rows ∧ (s + amountSum rows, r + releasedSum rows) = out := by
  induction rows generalizing s r with
  | nil => simp [purchaseChainFrom, amountSum, releasedSum]
  | cons x xs ih =>
    simp only [purchaseChainFrom, bind_eq_ok, refuseIf_eq_ok, exists_const, ih, ne_eq, not_not,
      tiles_cons, amountSum, releasedSum, List.map_cons, List.sum_cons, and_assoc, add_assoc]

theorem verifyPurchaseChain_eq_ok {t b : ℤ} {rows : List PurchaseChainRow} {u : Unit} :
    verifyPurchaseChain t b rows = .ok u ↔ IsMinor 1 t ∧ IsMinor 0 b ∧
      ReducersTile 0 (orderedReducers rows) ∧ amountSum (orderedReducers rows) ≤ t ∧
      releasedSum (orderedReducers rows) = apShare b t (amountSum (orderedReducers rows)) := by
  simp only [verifyPurchaseChain, bind_eq_ok, assertMinor_eq_ok, purchaseChainFrom_eq_ok,
    refuseIf_eq_ok, exists_const, zero_add, gt_iff_lt, not_lt, ne_eq, not_not]
  refine and_congr_right fun ht => and_congr_right fun _ => ?_
  have ht' : 0 < t := ht.1
  constructor
  · rintro ⟨_, ⟨htile, rfl⟩, hle, _, hr, hrel⟩
    rw [roundHalfEven_pos ht', Except.ok.injEq] at hr
    exact ⟨htile, hle, hrel.trans hr.symm⟩
  · rintro ⟨htile, hle, hrel⟩
    exact ⟨_, ⟨htile, rfl⟩, hle, _, roundHalfEven_pos ht', hrel⟩

abbrev ConsumersTile (oa : ℤ) : ℤ → List CreditChainRow → Prop :=
  Tiles (fun r => oa - r.remainingBeforeMinor) CreditChainRow.consumedMinor

def consumedSum (rows : List CreditChainRow) : ℤ := (rows.map CreditChainRow.consumedMinor).sum

def creditReleasedSum (rows : List CreditChainRow) : ℤ :=
  (rows.map CreditChainRow.releasedBaseMinor).sum

theorem creditChainFrom_eq_ok {oa : ℤ} {rows : List CreditChainRow} {s r : ℤ} {out : ℤ × ℤ} :
    creditChainFrom oa s r rows = .ok out ↔ (∀ x ∈ rows, 0 < x.consumedMinor) ∧
      ConsumersTile oa s rows ∧ (s + consumedSum rows, r + creditReleasedSum rows) = out := by
  induction rows generalizing s r with
  | nil => simp [creditChainFrom, consumedSum, creditReleasedSum]
  | cons x xs ih =>
    have hstart : x.remainingBeforeMinor = oa - s ↔ oa - x.remainingBeforeMinor = s := by omega
    simp only [creditChainFrom, bind_eq_ok, refuseIf_eq_ok, exists_const, ih, ne_eq, not_or, not_le,
      not_not, tiles_cons, consumedSum, creditReleasedSum, List.map_cons, List.sum_cons, add_assoc,
      List.forall_mem_cons, hstart]
    tauto

theorem verifyCreditChain_eq_ok {n : StoredCreditNote} {rows : List CreditChainRow} {u : Unit} :
    verifyCreditChain n rows = .ok u ↔ (∀ x ∈ rows, 0 < x.consumedMinor) ∧
      ConsumersTile n.originalMinor 0 (orderedConsumers rows) ∧
      consumedSum (orderedConsumers rows) ≤ n.originalMinor ∧
      n.remainingMinor = n.originalMinor - consumedSum (orderedConsumers rows) ∧
      creditRemainingCarrying n.originalMinor n.originalCarryingMinor n.remainingMinor =
        .ok n.remainingCarryingMinor ∧
      creditReleasedSum (orderedConsumers rows) =
        n.originalCarryingMinor - n.remainingCarryingMinor := by
  have hmem : (∀ x ∈ orderedConsumers rows, 0 < x.consumedMinor) ↔
      ∀ x ∈ rows, 0 < x.consumedMinor :=
    forall_congr' fun x => by rw [orderedConsumers, List.mem_mergeSort]
  simp only [verifyCreditChain, bind_eq_ok, creditChainFrom_eq_ok, refuseIf_eq_ok, exists_const,
    zero_add, gt_iff_lt, not_or, not_lt, ne_eq, not_not, hmem]
  constructor
  · rintro ⟨_, ⟨hpos, htile, rfl⟩, ⟨hle, hrem⟩, g, hg, rfl, hrel⟩
    exact ⟨hpos, htile, hle, hrem, hg, hrel⟩
  · rintro ⟨hpos, htile, hle, hrem, hg, hrel⟩
    exact ⟨_, ⟨hpos, htile, rfl⟩, ⟨hle, hrem⟩, _, hg, rfl, hrel⟩

/-! ## 3. The AP chain of a purchase -/

/-- The totals of a purchase, within the bounds of their columns. -/
structure PurchaseTotals where
  txn : ℤ
  base : ℤ
  txn_minor : IsMinor 1 txn
  base_minor : IsMinor 0 base

/-- A command that reduces the AP of a purchase. -/
inductive ApReducer
  | supplierReturn (input : SupplierReturnPlanInput)
  | payment (input : PaymentAllocationInput)
  | creditAllocation (input : CreditAllocationInput)

/-- The reducer is accepted at the outstanding amount `o` of the purchase and stores this row. -/
inductive ApReducer.Yields (t : PurchaseTotals) (o : ℤ) : ApReducer → PurchaseChainRow → Prop
  | supplierReturn {i : SupplierReturnPlanInput} {p : SupplierReturnPlan}
      (ht : i.totalTxnMinor = t.txn) (hb : i.totalBaseMinor = t.base)
      (ho : i.outstandingTxnMinor = o) (hok : planSupplierReturn i = .ok p) :
      Yields t o (.supplierReturn i) ⟨t.txn - o, p.apTxnMinor, p.apBaseMinor⟩
  | payment {i : PaymentAllocationInput} {p : PaymentAllocationPlan}
      (ht : i.purchase.totalTxnMinor = t.txn) (hb : i.purchase.totalBaseMinor = t.base)
      (ho : i.purchase.outstandingTxnMinor = o) (hok : planPaymentAllocation i = .ok p) :
      Yields t o (.payment i) ⟨t.txn - o, p.appliedMinor, p.carryingReleasedMinor⟩
  | creditAllocation {i : CreditAllocationInput} {p : CreditAllocationPlan}
      (ht : i.purchase.totalTxnMinor = t.txn) (hb : i.purchase.totalBaseMinor = t.base)
      (ho : i.purchase.outstandingTxnMinor = o) (hok : planCreditAllocation i = .ok p) :
      Yields t o (.creditAllocation i) ⟨t.txn - o, p.appliedMinor, p.carryingReleasedMinor⟩

/-- What any accepted reducer stores: its level, an amount the purchase still owes, and the
    cumulative share between the two levels. -/
structure ReducerRow (t : PurchaseTotals) (o : ℤ) (r : PurchaseChainRow) : Prop where
  level : r.releasedBeforeMinor = t.txn - o
  amount_nonneg : 0 ≤ r.amountMinor
  amount_le : r.amountMinor ≤ o
  released : r.releasedBaseMinor =
    apShare t.base t.txn (r.releasedBeforeMinor + r.amountMinor) -
      apShare t.base t.txn r.releasedBeforeMinor

theorem ApReducer.Yields.row {t : PurchaseTotals} {o : ℤ} {c : ApReducer} {r : PurchaseChainRow}
    (h : c.Yields t o r) : ReducerRow t o r := by
  cases h with
  | supplierReturn ht hb ho hok =>
    have hd := planSupplierReturn_drafted hok
    refine ⟨rfl, hd.ap_nonneg, ho ▸ hd.ap_le, ?_⟩
    show _ = apShare t.base t.txn (t.txn - o + _) - _
    rw [← ht, ← hb, ← ho]
    exact hd.apBase_eq
  | payment ht hb ho hok =>
    obtain ⟨hl, rfl⟩ := planPaymentAllocation_eq_ok.mp hok
    refine ⟨rfl, hl.applied_pos.le, ho ▸ hl.applied_le, ?_⟩
    rw [← ht, ← hb, ← ho]
    rfl
  | creditAllocation ht hb ho hok =>
    obtain ⟨hl, rfl⟩ := planCreditAllocation_eq_ok.mp hok
    refine ⟨rfl, hl.applied_pos.le, ho ▸ hl.applied_le, ?_⟩
    rw [← ht, ← hb, ← ho]
    rfl

/-- What a purchase still owes and the reducers stored so far. -/
structure ApChain where
  outstanding : ℤ
  rows : List PurchaseChainRow

/-- Everything owed, nothing stored. -/
def ApChain.start (t : PurchaseTotals) : ApChain := ⟨t.txn, []⟩

/-- One reducer, accepted against the outstanding amount the ones before it left. -/
inductive ApStep (t : PurchaseTotals) : ApChain → ApReducer → ApChain → Prop
  | reduce {s : ApChain} {c : ApReducer} {r : PurchaseChainRow} (h : c.Yields t s.outstanding r) :
      ApStep t s c ⟨s.outstanding - r.amountMinor, s.rows ++ [r]⟩

/-- The stored rows tile what was released, each releasing its share. -/
structure ApChain.Exact (t : PurchaseTotals) (s : ApChain) : Prop where
  outstanding_nonneg : 0 ≤ s.outstanding
  tile : ReducersTile 0 s.rows
  sum_eq : amountSum s.rows = t.txn - s.outstanding
  amount_nonneg : ∀ r ∈ s.rows, 0 ≤ r.amountMinor
  released : ∀ r ∈ s.rows, r.releasedBaseMinor =
    apShare t.base t.txn (r.releasedBeforeMinor + r.amountMinor) -
      apShare t.base t.txn r.releasedBeforeMinor

theorem apChain_start_exact (t : PurchaseTotals) : (ApChain.start t).Exact t where
  outstanding_nonneg := by
    have := t.txn_minor.1
    show 0 ≤ t.txn
    omega
  tile := trivial
  sum_eq := (sub_self t.txn).symm
  amount_nonneg := by simp [ApChain.start]
  released := by simp [ApChain.start]

/-- **A row at the level the chain has reached** keeps it exact. -/
theorem ApChain.Exact.append {t : PurchaseTotals} {s : ApChain} (hs : s.Exact t)
    {r : PurchaseChainRow} (hr : ReducerRow t s.outstanding r) :
    (⟨s.outstanding - r.amountMinor, s.rows ++ [r]⟩ : ApChain).Exact t := by
  have hle := hr.amount_le
  have hsum := hs.sum_eq
  refine ⟨?_, ?_, ?_, ?_, ?_⟩
  · show 0 ≤ s.outstanding - r.amountMinor
    omega
  · refine tiles_append.mpr ⟨hs.tile, ?_, trivial⟩
    rw [hr.level, ← hsum, zero_add]
    rfl
  · simp only [amountSum, List.map_append, List.sum_append] at hsum ⊢
    simp only [List.map_cons, List.map_nil, List.sum_cons, List.sum_nil]
    omega
  · intro x hx
    rcases List.mem_append.mp hx with hx | hx
    · exact hs.amount_nonneg x hx
    · rw [List.mem_singleton.mp hx]
      exact hr.amount_nonneg
  · intro x hx
    rcases List.mem_append.mp hx with hx | hx
    · exact hs.released x hx
    · rw [List.mem_singleton.mp hx]
      exact hr.released

theorem apChain_step_exact {t : PurchaseTotals} {s s' : ApChain} {c : ApReducer} (hs : s.Exact t)
    (h : ApStep t s c s') : s'.Exact t := by
  cases h with
  | reduce hy => exact hs.append hy.row

theorem apChain_run_exact {t : PurchaseTotals} {s : ApChain} {cs : List ApReducer}
    (h : Run (ApStep t) (.start t) cs s) : s.Exact t :=
  h.invariant (fun _ _ _ hs hstep => apChain_step_exact hs hstep) (apChain_start_exact t)

namespace ApChain.Exact

variable {t : PurchaseTotals} {s : ApChain} (h : s.Exact t)
include h

/-- The releases telescope to the share of what was released. -/
theorem releasedSum_eq : releasedSum s.rows = apShare t.base t.txn (t.txn - s.outstanding) := by
  have htel := h.tile.sum_release (apShare t.base t.txn) PurchaseChainRow.releasedBaseMinor
    h.released
  rw [apShare_zero, sub_zero, zero_add] at htel
  rw [releasedSum, htel, ← h.sum_eq]
  rfl

theorem released_nonneg : ∀ r ∈ s.rows, 0 ≤ r.releasedBaseMinor := by
  intro r hr
  have hn := h.amount_nonneg r hr
  have := apShare_mono t.base_minor.1 t.txn_minor.1
    (show r.releasedBeforeMinor ≤ r.releasedBeforeMinor + r.amountMinor by omega)
  rw [h.released r hr]
  omega

theorem releasedSum_le : releasedSum s.rows ≤ t.base := by
  have hle := apShare_mono t.base_minor.1 t.txn_minor.1
    (show t.txn - s.outstanding ≤ t.txn by have := h.outstanding_nonneg; omega)
  rw [apShare_total t.base t.txn_minor.1] at hle
  rw [h.releasedSum_eq]
  exact hle

/-- **Every storage order of the chain is accepted.** -/
theorem verified {stored : List PurchaseChainRow} (hperm : stored.Perm s.rows) :
    verifyPurchaseChain t.txn t.base stored = .ok () := by
  have hfilter : (stored.filter fun r => 0 < r.amountMinor).Perm
      (s.rows.filter fun r => 0 < r.amountMinor) := hperm.filter _
  have htile := h.tile.filter_pos h.amount_nonneg
  have hord : orderedReducers stored = s.rows.filter fun r => 0 < r.amountMinor := by
    refine htile.mergeSort_start_eq_of_perm ?_ hfilter _ fun _ _ => rfl
    intro r hr
    simpa using (List.mem_filter.mp hr).2
  have hamount : amountSum (orderedReducers stored) = t.txn - s.outstanding := by
    rw [hord, ← h.sum_eq]
    refine sum_filter_pos _ fun r hr hn => ?_
    have := h.amount_nonneg r hr
    omega
  have hrel : releasedSum (orderedReducers stored) =
      apShare t.base t.txn (t.txn - s.outstanding) := by
    rw [hord, ← h.releasedSum_eq]
    refine sum_filter_pos _ fun r hr hn => ?_
    have hz : r.amountMinor = 0 := by
      have := h.amount_nonneg r hr
      omega
    rw [h.released r hr, hz, add_zero, sub_self]
  rw [verifyPurchaseChain_eq_ok, hamount, hrel, hord]
  refine ⟨t.txn_minor, t.base_minor, htile, ?_, rfl⟩
  have := h.outstanding_nonneg
  omega

end ApChain.Exact

/-- Two rows with a positive amount at one level are never accepted together. -/
theorem verifyPurchaseChain_not_both {t b : ℤ} {r₁ r₂ : PurchaseChainRow}
    {stored rest : List PurchaseChainRow} (h₁ : 0 < r₁.amountMinor) (h₂ : 0 < r₂.amountMinor)
    (hlevel : r₁.releasedBeforeMinor = r₂.releasedBeforeMinor)
    (hperm : stored.Perm (r₁ :: r₂ :: rest)) : verifyPurchaseChain t b stored ≠ .ok () := by
  intro hok
  obtain ⟨_, _, htile, _⟩ := verifyPurchaseChain_eq_ok.mp hok
  have hperm' : (orderedReducers stored).Perm
      (r₁ :: r₂ :: rest.filter fun r => 0 < r.amountMinor) := by
    have := hperm.filter fun r => decide (0 < r.amountMinor)
    rw [List.filter_cons_of_pos (by simpa using h₁),
      List.filter_cons_of_pos (by simpa using h₂)] at this
    exact (List.mergeSort_perm _ _).trans this
  refine htile.not_both ?_ hperm' hlevel
  intro r hr
  rw [orderedReducers, List.mem_mergeSort] at hr
  simpa using (List.mem_filter.mp hr).2

/-- **The AP chain of a purchase.** After every run of accepted reducers (a prefix of a run is a
    run), every storage order of the rows is accepted, no release is negative, the releases sum to
    the share of what was released and never exceed the base total, and they are the base total
    when nothing is owed. Two reducers of a positive amount computed at one outstanding amount are
    in no set of rows that is accepted. -/
theorem purchaseChain_verdicts (t : PurchaseTotals) :
    (∀ (cs : List ApReducer) (s : ApChain), Run (ApStep t) (.start t) cs s →
      (∀ stored, stored.Perm s.rows → verifyPurchaseChain t.txn t.base stored = .ok ()) ∧
      (∀ r ∈ s.rows, 0 ≤ r.releasedBaseMinor) ∧
      roundHalfEven (t.base * (t.txn - s.outstanding)) t.txn = .ok (releasedSum s.rows) ∧
      0 ≤ t.base - releasedSum s.rows ∧
      (s.outstanding = 0 → releasedSum s.rows = t.base)) ∧
    (∀ (o : ℤ) (c₁ c₂ : ApReducer) (r₁ r₂ : PurchaseChainRow), c₁.Yields t o r₁ →
      c₂.Yields t o r₂ → 0 < r₁.amountMinor → 0 < r₂.amountMinor →
      ∀ stored rest, stored.Perm (r₁ :: r₂ :: rest) →
        verifyPurchaseChain t.txn t.base stored ≠ .ok ()) := by
  constructor
  · intro cs s hrun
    have h := apChain_run_exact hrun
    refine ⟨fun stored hperm => h.verified hperm, h.released_nonneg, ?_, ?_, ?_⟩
    · rw [roundHalfEven_pos t.txn_minor.1, h.releasedSum_eq]
      rfl
    · have := h.releasedSum_le
      omega
    · intro hz
      rw [h.releasedSum_eq, hz, sub_zero, apShare_total t.base t.txn_minor.1]
  · intro o c₁ c₂ r₁ r₂ hy₁ hy₂ h₁ h₂ stored rest hperm
    exact verifyPurchaseChain_not_both h₁ h₂ (hy₁.row.level.trans hy₂.row.level.symm) hperm

/-- A purchase of 100 at 37 base, at a rate of 0.37. -/
def sampleTotals : PurchaseTotals := ⟨100, 37, by decide, by decide⟩

/-- A payment in the purchase currency of an amount, at an outstanding amount. -/
def samplePayment (o a : ℤ) : PaymentAllocationInput :=
  ⟨⟨100, 37, o, ⟨3700000000, 2, 2⟩⟩, true, a, ⟨3700000000, 2, 2⟩, a⟩

theorem samplePayment_run : Run (ApStep sampleTotals) (.start sampleTotals)
    [.payment (samplePayment 100 33), .payment (samplePayment 67 67)]
    ⟨0, [⟨0, 33, 12⟩, ⟨33, 67, 25⟩]⟩ :=
  .cons (.reduce (.payment rfl rfl rfl (p := (samplePayment 100 33).plan) (by decide)))
    (.cons (.reduce (.payment rfl rfl rfl (p := (samplePayment 67 67).plan) (by decide))) (.nil _))

theorem purchaseChain_verdicts_sample :
    verifyPurchaseChain 100 37 [⟨33, 67, 25⟩, ⟨0, 33, 12⟩] = .ok () ∧
      verifyPurchaseChain 100 37 [⟨0, 33, 12⟩, ⟨0, 50, 18⟩] ≠ .ok () :=
  ⟨((purchaseChain_verdicts sampleTotals).1 _ _ samplePayment_run).1 _ (List.Perm.swap _ _ []),
    (purchaseChain_verdicts sampleTotals).2 100 (.payment (samplePayment 100 33))
      (.payment (samplePayment 100 50)) ⟨0, 33, 12⟩ ⟨0, 50, 18⟩
      (.payment rfl rfl rfl (p := (samplePayment 100 33).plan) (by decide))
      (.payment rfl rfl rfl (p := (samplePayment 100 50).plan) (by decide))
      (by decide) (by decide) _ [] (.refl _)⟩

/-! ## 4. The chain of a credit note -/

/-- The original pair of a credit note, within the bounds of its columns. -/
structure CreditTotals where
  original : ℤ
  carrying : ℤ
  original_minor : IsMinor 1 original
  carrying_minor : IsMinor 1 carrying

/-- A command that consumes a credit note. -/
inductive CreditConsumer
  | allocation (input : CreditAllocationInput)
  | refund (input : RefundInput)

/-- The note state a consumer computes from. -/
def CreditConsumer.note : CreditConsumer → CreditNoteState
  | .allocation i => i.note
  | .refund i => i.note

/-- The consumer's plan is accepted with this credit side. -/
inductive CreditConsumer.Accepted : CreditConsumer → CreditSide → Prop
  | allocation {i : CreditAllocationInput} {p : CreditAllocationPlan}
      (hok : planCreditAllocation i = .ok p) : Accepted (.allocation i) p.toCreditSide
  | refund {i : RefundInput} {p : RefundPlan}
      (hok : planRefund i = .ok p) : Accepted (.refund i) p.toCreditSide

/-- An accepted consumer consumes part of what remains, and its side is the note's. -/
theorem CreditConsumer.Accepted.side {c : CreditConsumer} {cr : CreditSide} (h : c.Accepted cr) :
    ∃ consumed, c.note.InRange ∧ 0 < consumed ∧ consumed ≤ c.note.remainingMinor ∧
      c.note.side consumed = cr := by
  cases h with
  | allocation hok =>
    rename_i i p
    obtain ⟨hl, rfl⟩ := planCreditAllocation_eq_ok.mp hok
    exact ⟨i.consumedMinor, hl.note_range, hl.consumed_pos, hl.consumed_le, rfl⟩
  | refund hok =>
    rename_i i p
    obtain ⟨hl, rfl⟩ := planRefund_eq_ok.mp hok
    exact ⟨i.consumedMinor, hl.note_range, hl.consumed_pos, hl.consumed_le, rfl⟩

/-- The row an accepted consumer stores. -/
def CreditSide.row (cr : CreditSide) : CreditChainRow :=
  ⟨cr.remainingBeforeMinor, cr.consumedMinor, cr.creditReleasedMinor⟩

/-- The stored remaining pair of a note and the consumers stored so far. -/
structure CreditChain where
  remaining : ℤ
  remainingCarrying : ℤ
  rows : List CreditChainRow

def CreditChain.start (t : CreditTotals) : CreditChain := ⟨t.original, t.carrying, []⟩

/-- The consumer computes from this note at the remaining amount `rb`. -/
def CreditConsumer.At (t : CreditTotals) (rb : ℤ) (c : CreditConsumer) : Prop :=
  c.note.originalMinor = t.original ∧ c.note.originalCarryingMinor = t.carrying ∧
    c.note.remainingMinor = rb

/-- One consumer, accepted at the remaining amount the ones before it left. -/
inductive CreditStep (t : CreditTotals) : CreditChain → CreditConsumer → CreditChain → Prop
  | consume {s : CreditChain} {c : CreditConsumer} {cr : CreditSide} (hat : c.At t s.remaining)
      (h : c.Accepted cr) :
      CreditStep t s c
        ⟨cr.remainingAfterMinor, cr.remainingCarryingAfterMinor, s.rows ++ [cr.row]⟩

/-- The stored rows tile what was consumed, and the stored pair is the note's at its level. -/
structure CreditChain.Exact (t : CreditTotals) (s : CreditChain) : Prop where
  remaining_nonneg : 0 ≤ s.remaining
  remaining_le : s.remaining ≤ t.original
  carrying_eq : s.remainingCarrying = creditKept t.original t.carrying s.remaining
  tile : ConsumersTile t.original 0 s.rows
  sum_eq : consumedSum s.rows = t.original - s.remaining
  consumed_pos : ∀ r ∈ s.rows, 0 < r.consumedMinor
  consumed_le : ∀ r ∈ s.rows, r.consumedMinor ≤ r.remainingBeforeMinor
  released : ∀ r ∈ s.rows, r.releasedBaseMinor =
    creditKept t.original t.carrying r.remainingBeforeMinor -
      creditKept t.original t.carrying (r.remainingBeforeMinor - r.consumedMinor)

theorem creditChain_start_exact (t : CreditTotals) : (CreditChain.start t).Exact t where
  remaining_nonneg := by
    have := t.original_minor.1
    show 0 ≤ t.original
    omega
  remaining_le := le_rfl
  carrying_eq := (creditKept_original t.original_minor.1 t.carrying_minor.1).symm
  tile := trivial
  sum_eq := (sub_self t.original).symm
  consumed_pos := by simp [CreditChain.start]
  consumed_le := by simp [CreditChain.start]
  released := by simp [CreditChain.start]

theorem creditChain_step_exact {t : CreditTotals} {s s' : CreditChain} {c : CreditConsumer}
    (hs : s.Exact t) (h : CreditStep t s c s') : s'.Exact t := by
  cases h with
  | consume hat hacc =>
    rename_i cr
    obtain ⟨consumed, hr, hpos, hle, rfl⟩ := hacc.side
    obtain ⟨hoa, hob, hrem⟩ := hat
    have hsum := hs.sum_eq
    have hrle := hs.remaining_le
    refine ⟨?_, ?_, ?_, ?_, ?_, ?_, ?_, ?_⟩
    · show 0 ≤ c.note.remainingMinor - consumed
      omega
    · show c.note.remainingMinor - consumed ≤ t.original
      omega
    · show creditKept _ _ _ = creditKept _ _ _
      rw [hoa, hob]
      rfl
    · refine tiles_append.mpr ⟨hs.tile, ?_, trivial⟩
      show t.original - c.note.remainingMinor = 0 + consumedSum s.rows
      omega
    · show consumedSum (s.rows ++ [(c.note.side consumed).row]) =
        t.original - (c.note.remainingMinor - consumed)
      simp only [consumedSum, List.map_append, List.sum_append, List.map_cons, List.map_nil,
        List.sum_cons, List.sum_nil] at hsum ⊢
      show _ + (consumed + 0) = _
      omega
    · intro x hx
      rcases List.mem_append.mp hx with hx | hx
      · exact hs.consumed_pos x hx
      · rw [List.mem_singleton.mp hx]
        exact hpos
    · intro x hx
      rcases List.mem_append.mp hx with hx | hx
      · exact hs.consumed_le x hx
      · rw [List.mem_singleton.mp hx]
        exact hle
    · intro x hx
      rcases List.mem_append.mp hx with hx | hx
      · exact hs.released x hx
      · rw [List.mem_singleton.mp hx, ← hoa, ← hob]
        rfl

theorem creditChain_run_exact {t : CreditTotals} {s : CreditChain} {cs : List CreditConsumer}
    (h : Run (CreditStep t) (.start t) cs s) : s.Exact t :=
  h.invariant (fun _ _ _ hs hstep => creditChain_step_exact hs hstep) (creditChain_start_exact t)

namespace CreditChain.Exact

variable {t : CreditTotals} {s : CreditChain} (h : s.Exact t)
include h

/-- The releases telescope to what the note no longer carries. -/
theorem releasedSum_eq :
    creditReleasedSum s.rows = t.carrying - creditKept t.original t.carrying s.remaining := by
  have htel := h.tile.sum_release (fun x => -creditKept t.original t.carrying (t.original - x))
    CreditChainRow.releasedBaseMinor (fun r hr => by
      rw [h.released r hr]
      simp only [sub_sub_cancel, sub_neg_eq_add,
        show t.original - (t.original - r.remainingBeforeMinor + r.consumedMinor) =
          r.remainingBeforeMinor - r.consumedMinor by omega]
      omega)
  have hsum : (s.rows.map CreditChainRow.consumedMinor).sum = t.original - s.remaining := h.sum_eq
  rw [hsum, zero_add, sub_zero, sub_sub_cancel,
    creditKept_original t.original_minor.1 t.carrying_minor.1] at htel
  rw [creditReleasedSum, htel]
  omega

theorem released_nonneg : ∀ r ∈ s.rows, 0 ≤ r.releasedBaseMinor := by
  intro r hr
  have hpos := h.consumed_pos r hr
  have hle := h.consumed_le r hr
  have hob := t.carrying_minor.1
  have := creditKept_mono t.original_minor.1 (show 0 ≤ t.carrying by omega)
    (show 0 ≤ r.remainingBeforeMinor - r.consumedMinor by omega)
    (show r.remainingBeforeMinor - r.consumedMinor ≤ r.remainingBeforeMinor by omega)
  rw [h.released r hr]
  omega

/-- While anything remains, between one base unit and the original carrying is kept. -/
theorem carrying_bounds (hpos : 0 < s.remaining) :
    1 ≤ s.remainingCarrying ∧ s.remainingCarrying ≤ t.carrying := by
  rw [h.carrying_eq]
  refine ⟨creditKept_pos hpos, ?_⟩
  have hob := t.carrying_minor.1
  have := creditKept_mono t.original_minor.1 (show 0 ≤ t.carrying by omega) hpos.le h.remaining_le
  rwa [creditKept_original t.original_minor.1 t.carrying_minor.1] at this

/-- **Every storage order of the chain is accepted, with the stored pair.** -/
theorem verified {stored : List CreditChainRow} (hperm : stored.Perm s.rows) :
    verifyCreditChain ⟨t.original, t.carrying, s.remaining, s.remainingCarrying⟩ stored =
      .ok () := by
  have hord : orderedConsumers stored = s.rows := by
    refine h.tile.mergeSort_start_eq_of_perm h.consumed_pos hperm _ fun a b => ?_
    rw [decide_eq_decide]
    omega
  have hrle := h.remaining_le
  have hrn := h.remaining_nonneg
  have hmax := t.original_minor.2
  rw [verifyCreditChain_eq_ok, hord]
  refine ⟨fun x hx => h.consumed_pos x (hperm.mem_iff.mp hx), h.tile, ?_, ?_, ?_, ?_⟩
  · rw [h.sum_eq]
    show t.original - s.remaining ≤ t.original
    omega
  · rw [h.sum_eq]
    show s.remaining = t.original - (t.original - s.remaining)
    omega
  · exact creditRemainingCarrying_eq_ok.mpr
      ⟨t.original_minor, t.carrying_minor, ⟨hrn, hrle.trans hmax⟩, hrle, h.carrying_eq.symm⟩
  · rw [h.releasedSum_eq, ← h.carrying_eq]

end CreditChain.Exact

/-- Two consumers at one remaining amount are never accepted together. -/
theorem verifyCreditChain_not_both {n : StoredCreditNote} {r₁ r₂ : CreditChainRow}
    {stored rest : List CreditChainRow} (hlevel : r₁.remainingBeforeMinor = r₂.remainingBeforeMinor)
    (hperm : stored.Perm (r₁ :: r₂ :: rest)) : verifyCreditChain n stored ≠ .ok () := by
  intro hok
  obtain ⟨hpos, htile, _⟩ := verifyCreditChain_eq_ok.mp hok
  have hperm' : (orderedConsumers stored).Perm (r₁ :: r₂ :: rest) :=
    (List.mergeSort_perm _ _).trans hperm
  refine htile.not_both ?_ hperm' (by rw [hlevel])
  intro r hr
  rw [orderedConsumers, List.mem_mergeSort] at hr
  exact hpos r hr

/-- **The chain of a credit note.** After every run of accepted consumers no release is negative;
    while anything remains the note carries between one base unit and its original carrying; the
    releases sum to what it no longer carries, and to all of it when nothing remains; the stored
    pair and the rows are accepted in every storage order. Two consumers computed at one remaining
    amount are in no set of rows that is accepted. -/
theorem creditChain_verdicts (t : CreditTotals) :
    (∀ (cs : List CreditConsumer) (s : CreditChain), Run (CreditStep t) (.start t) cs s →
      (∀ r ∈ s.rows, 0 ≤ r.releasedBaseMinor) ∧
      (0 < s.remaining → 1 ≤ s.remainingCarrying ∧ s.remainingCarrying ≤ t.carrying) ∧
      (∃ g, creditRemainingCarrying t.original t.carrying s.remaining = .ok g ∧
        creditReleasedSum s.rows = t.carrying - g) ∧
      (s.remaining = 0 → creditReleasedSum s.rows = t.carrying) ∧
      (∀ stored, stored.Perm s.rows → verifyCreditChain
        ⟨t.original, t.carrying, s.remaining, s.remainingCarrying⟩ stored = .ok ())) ∧
    (∀ (rb : ℤ) (c₁ c₂ : CreditConsumer) (cr₁ cr₂ : CreditSide), c₁.At t rb → c₂.At t rb →
      c₁.Accepted cr₁ → c₂.Accepted cr₂ → ∀ (n : StoredCreditNote) (stored rest),
        stored.Perm (cr₁.row :: cr₂.row :: rest) → verifyCreditChain n stored ≠ .ok ()) := by
  constructor
  · intro cs s hrun
    have h := creditChain_run_exact hrun
    have hmax := t.original_minor.2
    have hle := h.remaining_le
    refine ⟨h.released_nonneg, h.carrying_bounds, ⟨_, ?_, h.releasedSum_eq⟩, ?_,
      fun stored hperm => h.verified hperm⟩
    · exact creditRemainingCarrying_eq_ok.mpr
        ⟨t.original_minor, t.carrying_minor, ⟨h.remaining_nonneg, by omega⟩, hle, rfl⟩
    · intro hz
      rw [h.releasedSum_eq, hz, creditKept_zero, sub_zero]
  · intro rb c₁ c₂ cr₁ cr₂ hat₁ hat₂ hacc₁ hacc₂ n stored rest hperm
    refine verifyCreditChain_not_both ?_ hperm
    obtain ⟨_, _, _, _, rfl⟩ := hacc₁.side
    obtain ⟨_, _, _, _, rfl⟩ := hacc₂.side
    exact hat₁.2.2.trans hat₂.2.2.symm

/-- A note of 100 carrying 2. -/
def sampleCredit : CreditTotals := ⟨100, 2, by decide, by decide⟩

/-- A refund in the note currency of an amount, at a remaining amount. -/
def sampleRefund (rb c : ℤ) : RefundInput :=
  ⟨⟨100, 2, rb, ⟨200000000, 2, 2⟩⟩, true, c, c, ⟨200000000, 2, 2⟩⟩

theorem sampleRefund_run : Run (CreditStep sampleCredit) (.start sampleCredit)
    [.refund (sampleRefund 100 60), .refund (sampleRefund 40 40)]
    ⟨0, 0, [⟨100, 60, 1⟩, ⟨40, 40, 1⟩]⟩ :=
  .cons (.consume ⟨rfl, rfl, rfl⟩ (.refund (p := (sampleRefund 100 60).plan) (by decide)))
    (.cons (.consume ⟨rfl, rfl, rfl⟩ (.refund (p := (sampleRefund 40 40).plan) (by decide)))
      (.nil _))

theorem creditChain_verdicts_sample :
    verifyCreditChain ⟨100, 2, 0, 0⟩ [⟨40, 40, 1⟩, ⟨100, 60, 1⟩] = .ok () ∧
      verifyCreditChain ⟨100, 2, 0, 0⟩ [⟨100, 60, 1⟩, ⟨100, 40, 1⟩] ≠ .ok () :=
  ⟨((creditChain_verdicts sampleCredit).1 _ _ sampleRefund_run).2.2.2.2 _ (List.Perm.swap _ _ []),
    (creditChain_verdicts sampleCredit).2 100 (.refund (sampleRefund 100 60))
      (.refund (sampleRefund 100 40)) (sampleRefund 100 60).plan.toCreditSide
      (sampleRefund 100 40).plan.toCreditSide ⟨rfl, rfl, rfl⟩ ⟨rfl, rfl, rfl⟩
      (.refund (by decide)) (.refund (by decide)) _ _ [] (.refl _)⟩

end Daftar.Inventory
