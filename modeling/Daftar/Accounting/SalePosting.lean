/-
  File: Daftar/Accounting/SalePosting.lean
  Subject: The base shares of a sale's lines, and the entry of the cost of its goods.

  * `splitBaseByLargestRemainder` splits a converted base total over the lines' amounts; it is the
    inventory's `largestRemainder` at scale 0 within the money cap
    (`splitBaseByLargestRemainder_eq_ok_iff`).
  * `deriveSaleInvoiceBaseShares` splits in line-number order, so the order of the request is of no
    consequence (`deriveSaleInvoiceBaseShares_perm`).
  * `deriveSaleCogsEntryLines` books what the movements of the sale release; nothing released is
    no entry (`deriveSaleCogsEntryLines_amount`).
-/

import Daftar.Accounting.Fingerprint
import Daftar.Accounting.PostEntry
import Daftar.Inventory.Allocation

namespace Daftar.Accounting

open Fallible
open IsoInstant
open LargestRemainder
open Daftar.Inventory (largestRemainder unitsOf commonUnits maxScale ExactDecimal)

/-! ## 1. The split -/

def assertMinor (value : ℤ) (what : String) : Except AccountingError ℤ := do
  refuseIf (value < 0 ∨ value > MAX_MONEY_MINOR)
    (payloadInvalid (what ++ " must be a non-negative integer of minor units within the money cap"))
  pure value

def baseSplitResidueExceeded : AccountingError :=
  payloadInvalid "the base split residue exceeded the number of lines"

def splitBase (totalBaseMinor : ℤ) (lineTxnMinor : List ℤ) : Except AccountingError (List ℤ) :=
  if lineTxnMinor.sum = 0 then do
    refuseIf (totalBaseMinor ≠ 0)
      (payloadInvalid "a non-zero base total cannot be split over lines that sum to zero")
    pure (lineTxnMinor.map fun _ => 0)
  else do
    refuseIf ((split lineTxnMinor totalBaseMinor).2 ≠ 0) baseSplitResidueExceeded
    pure (split lineTxnMinor totalBaseMinor).1

def splitBaseByLargestRemainder (totalBaseMinor : ℤ) (lineTxnMinor : List ℤ) :
    Except AccountingError (List ℤ) := do
  let _ ← assertMinor totalBaseMinor "a base total"
  refuseIf (lineTxnMinor.length = 0) (payloadInvalid "a base total cannot be split over no lines")
  let _ ← lineTxnMinor.mapM fun t => assertMinor t "a line transaction amount"
  splitBase totalBaseMinor lineTxnMinor

structure SaleInvoiceLineFacts where
  lineNo : ℤ
  netTxnMinor : ℤ
  deriving DecidableEq, Repr

structure SaleInvoiceFacts where
  totalBaseMinor : ℤ
  lines : List SaleInvoiceLineFacts
  deriving DecidableEq, Repr

structure SaleInvoiceBaseShare where
  lineNo : ℤ
  shareMinor : ℤ
  deriving DecidableEq, Repr

def byLineNo (lines : List SaleInvoiceLineFacts) : List SaleInvoiceLineFacts :=
  lines.insertionSort fun a b => a.lineNo ≤ b.lineNo

def deriveSaleInvoiceBaseShares (facts : SaleInvoiceFacts) :
    Except AccountingError (List SaleInvoiceBaseShare) := do
  let ordered := byLineNo facts.lines
  refuseIf (¬ ordered.IsChain fun a b => b.lineNo ≠ a.lineNo)
    (payloadInvalid "two invoice lines claim the same line number, so no share can name its line")
  let shares ← splitBaseByLargestRemainder facts.totalBaseMinor (ordered.map (·.netTxnMinor))
  refuseIf (shares.sum ≠ facts.totalBaseMinor)
    (payloadInvalid "the invoice base shares do not sum to the invoice base total")
  pure (ordered.mapIdx fun i l => ⟨l.lineNo, shares.getD i 0⟩)

/-! ## 2. The one rule -/

@[simp] theorem assertMinor_eq_ok {value r : ℤ} {what : String} :
    assertMinor value what = .ok r ↔ (0 ≤ value ∧ value ≤ MAX_MONEY_MINOR) ∧ value = r := by
  simp [assertMinor, map_eq_ok]

theorem mapM_assertMinor_eq_ok {w r : List ℤ} {what : String} :
    (w.mapM fun t => assertMinor t what) = .ok r ↔
      (∀ u ∈ w, 0 ≤ u ∧ u ≤ MAX_MONEY_MINOR) ∧ w = r := by
  rw [mapM_eq_ok_map fun x y => assertMinor_eq_ok (r := y), List.map_id']

theorem splitBase_eq_ok {w : List ℤ} {t : ℤ} {shares : List ℤ} (h : ∀ u ∈ w, 0 ≤ u) :
    splitBase t w = .ok shares ↔
      (w.sum = 0 ∧ t = 0 ∧ w.map (fun _ => 0) = shares) ∨
        (0 < w.sum ∧ (split w t).1 = shares) := by
  unfold splitBase
  by_cases hsum : w.sum = 0
  · simp [hsum, map_eq_ok]
  · have hpos : 0 < w.sum := lt_of_le_of_ne (List.sum_nonneg h) (Ne.symm hsum)
    simp [hsum, hpos, split_residue hpos, map_eq_ok]

/-- Integer weights are their own units. -/
theorem unitsOf_integers (w : List ℤ) : unitsOf (w.map fun u => ⟨u, 0⟩) = w := by
  have hscale : ∀ v : List ℤ, maxScale (v.map fun u => ⟨u, 0⟩) 0 = 0 := by
    intro v
    induction v with
    | nil => rfl
    | cons u v ih => exact ih
  unfold unitsOf commonUnits
  rw [hscale, List.map_map]
  exact (List.map_congr_left fun u _ => by simp).trans (List.map_id w)

/-- **The two packages split alike**: the sale's split is `largestRemainder` at scale 0, where all
    amounts are within the money cap. -/
theorem splitBaseByLargestRemainder_eq_ok_iff {t : ℤ} {w shares : List ℤ} :
    splitBaseByLargestRemainder t w = .ok shares ↔
      t ≤ MAX_MONEY_MINOR ∧ (∀ u ∈ w, u ≤ MAX_MONEY_MINOR) ∧
        largestRemainder (w.map fun u => ⟨u, 0⟩) t = .ok shares := by
  have hweights : (∀ v ∈ w.map fun u => (⟨u, 0⟩ : ExactDecimal), v.Weight) ↔ ∀ u ∈ w, 0 ≤ u := by
    rw [List.forall_mem_map]
    exact forall₂_congr fun u _ => ⟨fun h => h.units, fun h => ⟨h, le_rfl, by norm_num⟩⟩
  unfold splitBaseByLargestRemainder
  simp only [bind_eq_ok, assertMinor_eq_ok, refuseIf_eq_ok, exists_const, mapM_assertMinor_eq_ok,
    Inventory.largestRemainder_eq_ok, unitsOf_integers, hweights, List.length_eq_zero_iff, ne_eq,
    List.map_eq_nil_iff]
  constructor
  · intro h
    obtain ⟨_, ⟨⟨h0, hcap⟩, rfl⟩, hne, _, ⟨hw, rfl⟩, hsplit⟩ := h
    have hnonneg : ∀ u ∈ w, 0 ≤ u := fun u hu => (hw u hu).1
    refine ⟨hcap, fun u hu => (hw u hu).2, hne, h0, hnonneg, ?_⟩
    exact (Inventory.splitUnits_eq_ok hnonneg).mpr ((splitBase_eq_ok hnonneg).mp hsplit)
  · intro h
    obtain ⟨hcap, hwcap, hne, h0, hnonneg, hsplit⟩ := h
    refine ⟨_, ⟨⟨h0, hcap⟩, rfl⟩, hne, _, ⟨fun u hu => ⟨hnonneg u hu, hwcap u hu⟩, rfl⟩, ?_⟩
    exact (splitBase_eq_ok hnonneg).mpr ((Inventory.splitUnits_eq_ok hnonneg).mp hsplit)

/-! ## 3. The shares of a sale -/

section Order

variable {lines lines' : List SaleInvoiceLineFacts}

instance : Std.Total fun a b : SaleInvoiceLineFacts => a.lineNo ≤ b.lineNo where
  total a b := le_total a.lineNo b.lineNo

instance : IsTrans SaleInvoiceLineFacts fun a b => a.lineNo ≤ b.lineNo where
  trans _ _ _ h h' := h.trans h'

theorem byLineNo_perm (lines : List SaleInvoiceLineFacts) : (byLineNo lines).Perm lines :=
  List.perm_insertionSort _ _

/-- Sorted lines with distinct neighbours are in strict order. -/
theorem byLineNo_strict (h : (byLineNo lines).IsChain fun a b => b.lineNo ≠ a.lineNo) :
    (byLineNo lines).Pairwise fun a b => a.lineNo < b.lineNo := by
  have hsorted : (byLineNo lines).IsChain fun a b => a.lineNo ≤ b.lineNo :=
    (List.pairwise_insertionSort _ _).isChain
  have hlt : (byLineNo lines).IsChain fun a b => a.lineNo < b.lineNo := by
    rw [List.isChain_iff_getElem] at hsorted h ⊢
    exact fun i hi => lt_of_le_of_ne (hsorted i hi) (h i hi).symm
  have : IsTrans SaleInvoiceLineFacts fun a b => a.lineNo < b.lineNo :=
    ⟨fun _ _ _ h h' => h.trans h'⟩
  exact hlt.pairwise

theorem distinct_iff : (byLineNo lines).IsChain (fun a b => b.lineNo ≠ a.lineNo) ↔
    (lines.map (·.lineNo)).Nodup := by
  rw [← ((byLineNo_perm lines).map _).nodup_iff, List.Nodup, List.pairwise_map]
  constructor
  · intro h
    exact (byLineNo_strict h).imp fun hlt => hlt.ne
  · intro h
    exact (h.imp fun hne => hne.symm).isChain

/-- **One order**, of whatever distinct lines. -/
theorem byLineNo_congr (hp : lines.Perm lines') (h : (lines.map (·.lineNo)).Nodup) :
    byLineNo lines = byLineNo lines' := by
  have hperm : (byLineNo lines).Perm (byLineNo lines') :=
    (byLineNo_perm lines).trans (hp.trans (byLineNo_perm lines').symm)
  have h' : (lines'.map (·.lineNo)).Nodup := (hp.map _).nodup_iff.mp h
  refine List.Perm.eq_of_pairwise (fun a b _ _ hab hba => absurd hab hba.not_gt)
    (byLineNo_strict (distinct_iff.mpr h)) (byLineNo_strict (distinct_iff.mpr h')) hperm

/-- **The order of the lines in the request does not count.** -/
theorem deriveSaleInvoiceBaseShares_perm {t : ℤ} (hp : lines.Perm lines') :
    deriveSaleInvoiceBaseShares ⟨t, lines⟩ = deriveSaleInvoiceBaseShares ⟨t, lines'⟩ := by
  by_cases hn : (lines.map (·.lineNo)).Nodup
  · rw [deriveSaleInvoiceBaseShares, byLineNo_congr hp hn]
    rfl
  · have hn' : ¬ (lines'.map (·.lineNo)).Nodup := fun h => hn ((hp.map _).nodup_iff.mpr h)
    dsimp only [deriveSaleInvoiceBaseShares]
    rw [refuseIf_of (mt distinct_iff.mp hn), refuseIf_of (mt distinct_iff.mp hn')]
    rfl

end Order

/-- A sale's base total and line nets are amounts, and its lines have numbers of their own. -/
structure SaleInvoiceFacts.Lawful (facts : SaleInvoiceFacts) : Prop where
  total : 0 ≤ facts.totalBaseMinor ∧ facts.totalBaseMinor ≤ MAX_MONEY_MINOR
  nets : ∀ l ∈ facts.lines, 0 ≤ l.netTxnMinor ∧ l.netTxnMinor ≤ MAX_MONEY_MINOR
  positive : 0 < (facts.lines.map (·.netTxnMinor)).sum
  distinct : (facts.lines.map (·.lineNo)).Nodup

section Shares

variable {facts : SaleInvoiceFacts} {shares : List SaleInvoiceBaseShare}

theorem mapIdx_shares {ordered : List SaleInvoiceLineFacts} {base : List ℤ}
    (h : base.length = ordered.length) :
    (ordered.mapIdx fun i l => (⟨l.lineNo, base.getD i 0⟩ : SaleInvoiceBaseShare)).map
      (·.shareMinor) = base := by
  refine List.ext_getElem (by simp [h]) fun i _ hi => ?_
  simp [hi]

theorem mapIdx_lineNos (ordered : List SaleInvoiceLineFacts) (base : List ℤ) :
    (ordered.mapIdx fun i l => (⟨l.lineNo, base.getD i 0⟩ : SaleInvoiceBaseShare)).map
      (·.lineNo) = ordered.map (·.lineNo) :=
  List.ext_getElem (by simp) fun i _ _ => by simp

/-- The shares are those of `largestRemainder` over the nets, each under its line's number. -/
theorem largestRemainder_of_derive (h : deriveSaleInvoiceBaseShares facts = .ok shares) :
    largestRemainder ((byLineNo facts.lines).map fun l => ⟨l.netTxnMinor, 0⟩)
        facts.totalBaseMinor = .ok (shares.map (·.shareMinor)) ∧
      shares.map (·.lineNo) = (byLineNo facts.lines).map (·.lineNo) := by
  simp only [deriveSaleInvoiceBaseShares, bind_eq_ok, refuseIf_eq_ok, exists_const, pure_eq_ok,
    splitBaseByLargestRemainder_eq_ok_iff, List.map_map] at h
  obtain ⟨_, base, ⟨_, _, hsplit⟩, _, rfl⟩ := h
  have hlen := (Inventory.largestRemainder_split hsplit).length
  rw [List.length_map] at hlen
  rw [mapIdx_shares hlen]
  exact ⟨hsplit, mapIdx_lineNos _ base⟩

/-- **Every lawful sale has its shares.** -/
theorem SaleInvoiceFacts.Lawful.derive (h : facts.Lawful) :
    ∃ shares, deriveSaleInvoiceBaseShares facts = .ok shares := by
  have hperm := (byLineNo_perm facts.lines).map (·.netTxnMinor)
  have hpos : 0 < ((byLineNo facts.lines).map (·.netTxnMinor)).sum := by
    rw [hperm.sum_eq]
    exact h.positive
  have hnets : ∀ u : ℤ, u ∈ (byLineNo facts.lines).map (·.netTxnMinor) →
      0 ≤ u ∧ u ≤ MAX_MONEY_MINOR := by
    intro u hu
    obtain ⟨l, hl, rfl⟩ := List.mem_map.mp (hperm.mem_iff.mp hu)
    exact h.nets l hl
  have hnonneg := fun u hu => (hnets u hu).1
  have hne : (byLineNo facts.lines).map (·.netTxnMinor) ≠ [] := by
    intro hnil
    rw [hnil] at hpos
    exact lt_irrefl _ hpos
  simp only [deriveSaleInvoiceBaseShares, bind_eq_ok, refuseIf_eq_ok, exists_const, pure_eq_ok,
    splitBaseByLargestRemainder, assertMinor_eq_ok, mapM_assertMinor_eq_ok]
  refine ⟨_, not_not.mpr (distinct_iff.mpr h.distinct), _,
    ⟨_, ⟨h.total, rfl⟩, by simpa using hne, _, ⟨hnets, rfl⟩,
      (splitBase_eq_ok hnonneg).mpr (.inr ⟨hpos, rfl⟩)⟩, ?_, rfl⟩
  exact not_not.mpr (sum_split hpos)

end Shares

/-- **One split**: the sale's rule is the inventory's, and each line number has one share, whatever
    the order of the request. -/
theorem saleBaseShares_spec :
    (∀ (t : ℤ) (w shares : List ℤ), splitBaseByLargestRemainder t w = .ok shares ↔
      t ≤ MAX_MONEY_MINOR ∧ (∀ u ∈ w, u ≤ MAX_MONEY_MINOR) ∧
        largestRemainder (w.map fun u => ⟨u, 0⟩) t = .ok shares) ∧
    (∀ (t : ℤ) (lines lines' : List SaleInvoiceLineFacts), lines.Perm lines' →
      deriveSaleInvoiceBaseShares ⟨t, lines⟩ = deriveSaleInvoiceBaseShares ⟨t, lines'⟩) ∧
    (∀ (facts : SaleInvoiceFacts) (shares : List SaleInvoiceBaseShare),
      deriveSaleInvoiceBaseShares facts = .ok shares →
        (∀ s ∈ shares, 0 ≤ s.shareMinor) ∧
        (shares.map (·.shareMinor)).sum = facts.totalBaseMinor ∧
        (shares.map (·.lineNo)).Perm (facts.lines.map (·.lineNo)) ∧
        (shares.map (·.lineNo)).Nodup) ∧
    (∀ facts : SaleInvoiceFacts, facts.Lawful →
      ∃ shares, deriveSaleInvoiceBaseShares facts = .ok shares) := by
  refine ⟨fun _ _ _ => splitBaseByLargestRemainder_eq_ok_iff,
    fun _ _ _ => deriveSaleInvoiceBaseShares_perm, fun facts shares h => ?_, fun _ h => h.derive⟩
  obtain ⟨hsplit, hnos⟩ := largestRemainder_of_derive h
  have hshares := Inventory.largestRemainder_split hsplit
  have hperm : (shares.map (·.lineNo)).Perm (facts.lines.map (·.lineNo)) :=
    hnos ▸ (byLineNo_perm facts.lines).map _
  simp only [deriveSaleInvoiceBaseShares, bind_eq_ok, refuseIf_eq_ok, not_not] at h
  obtain ⟨_, hdistinct, _⟩ := h
  exact ⟨List.forall_mem_map.mp hshares.nonneg, hshares.sum, hperm,
    hperm.nodup_iff.mpr (distinct_iff.mp hdistinct)⟩

/-- 11 over two equal nets, listed second line first. -/
theorem saleBaseShares_spec_sample :
    ∃ shares, deriveSaleInvoiceBaseShares ⟨11, [⟨2, 50⟩, ⟨1, 50⟩]⟩ = .ok shares :=
  saleBaseShares_spec.2.2.2 _
    ⟨by decide, by decide, by decide, by decide⟩

example : deriveSaleInvoiceBaseShares ⟨11, [⟨2, 50⟩, ⟨1, 50⟩]⟩ = .ok [⟨1, 6⟩, ⟨2, 5⟩] := by
  decide +kernel

/-! ## 4. The cost of the goods -/

structure SaleMovementFacts where
  sourceLineId : String
  valueDeltaBaseMinor : ℤ
  deriving DecidableEq, Repr

structure SaleCogsFacts where
  soldOn : String
  branchId : String
  warehouseId : String
  baseCurrency : String
  movements : List SaleMovementFacts
  deriving DecidableEq, Repr

/-- What the movements of a sale release, in the base currency. -/
def saleCogsReleasedBaseMinor (facts : SaleCogsFacts) : Except AccountingError ℤ := do
  refuseIf (facts.movements.length = 0)
    (payloadInvalid "a sale moves stock: a commit with no movements is not a sale")
  let total ← facts.movements.foldlM (fun total m => do
    refuseIf (m.valueDeltaBaseMinor > 0)
      (payloadInvalid "a sale movement releases stock: its value delta is never positive")
    pure (total - m.valueDeltaBaseMinor)) (0 : ℤ)
  refuseIf (total > MAX_MONEY_MINOR)
    (payloadInvalid "the released stock value of a sale exceeds the money cap")
  pure total

/-- The midnight of a date text, in UTC. -/
def midnightUtc (date : List Char) : Date :=
  let ms := (dayOfDate date + 10957) * 86400000
  if h : -MAX_TIME ≤ ms ∧ ms ≤ MAX_TIME then some ⟨ms, h⟩ else none

/-- A line of the entry, base to base. -/
def cogsLine (facts : SaleCogsFacts) (rateTimestamp : Date) (systemKey side : String)
    (total : ℤ) : PostingLineCommand where
  account := .system systemKey
  side := side
  baseAmountMinor := total
  baseCurrency := String.ofList (toUpperCase facts.baseCurrency.toList)
  txnAmountMinor := total
  txnCurrency := String.ofList (toUpperCase facts.baseCurrency.toList)
  fxRate := "1.0000000000"
  fxRateSource := "base"
  fxRateAt := rateTimestamp
  branchId := some facts.branchId
  warehouseId := some facts.warehouseId

def cogsEntry (facts : SaleCogsFacts) (total : ℤ) :
    Except AccountingError (List PostingLineCommand) := do
  let date ← canonicalDate facts.soldOn
  pure [cogsLine facts (midnightUtc date) "cogs" "D" total,
    cogsLine facts (midnightUtc date) "inventory" "C" total]

/-- The entry, or none for a sale that releases no value. -/
def deriveSaleCogsEntryLines (facts : SaleCogsFacts) :
    Except AccountingError (Option (List PostingLineCommand)) := do
  let total ← saleCogsReleasedBaseMinor facts
  if total = 0 then pure none else some <$> cogsEntry facts total

theorem released_eq (movements : List SaleMovementFacts) :
    -(movements.map (·.valueDeltaBaseMinor)).sum =
      (movements.map fun m => -m.valueDeltaBaseMinor).sum := by
  rw [List.sum_neg, List.map_map]
  rfl

theorem saleCogsReleasedBaseMinor_eq_ok {facts : SaleCogsFacts} {t : ℤ} :
    saleCogsReleasedBaseMinor facts = .ok t ↔ facts.movements ≠ [] ∧
      (∀ m ∈ facts.movements, m.valueDeltaBaseMinor ≤ 0) ∧
      -(facts.movements.map (·.valueDeltaBaseMinor)).sum = t ∧ t ≤ MAX_MONEY_MINOR := by
  have hstep : ∀ (s : ℤ) (m : SaleMovementFacts) (r : ℤ), (do
      refuseIf (m.valueDeltaBaseMinor > 0)
        (payloadInvalid "a sale movement releases stock: its value delta is never positive")
      pure (s - m.valueDeltaBaseMinor) : Except AccountingError ℤ) = .ok r ↔
        m.valueDeltaBaseMinor ≤ 0 ∧ s + -m.valueDeltaBaseMinor = r := by
    intro s m r
    simp only [bind_eq_ok, refuseIf_eq_ok, exists_const, pure_eq_ok, not_lt, gt_iff_lt,
      sub_eq_add_neg]
  unfold saleCogsReleasedBaseMinor
  simp only [bind_eq_ok, refuseIf_eq_ok, exists_const, foldlM_sum_eq_ok hstep, pure_eq_ok,
    ← released_eq, List.length_eq_zero_iff, not_lt, gt_iff_lt, zero_add, ne_eq]
  constructor
  · intro h
    obtain ⟨hne, _, ⟨hall, rfl⟩, hcap, rfl⟩ := h
    exact ⟨hne, hall, rfl, hcap⟩
  · intro h
    obtain ⟨hne, hall, rfl, hcap⟩ := h
    exact ⟨hne, _, ⟨hall, rfl⟩, hcap, rfl⟩

/-- **The entry books what the movements release**, on both sides. -/
theorem deriveSaleCogsEntryLines_amount {facts : SaleCogsFacts}
    {entry : Option (List PostingLineCommand)} (h : deriveSaleCogsEntryLines facts = .ok entry) :
    ∃ t, 0 ≤ t ∧ t = -(facts.movements.map (·.valueDeltaBaseMinor)).sum ∧
      ((t = 0 ∧ entry = none) ∨ (t ≠ 0 ∧ ∃ at', entry =
        some [cogsLine facts at' "cogs" "D" t, cogsLine facts at' "inventory" "C" t])) := by
  simp only [deriveSaleCogsEntryLines, bind_eq_ok, saleCogsReleasedBaseMinor_eq_ok] at h
  obtain ⟨t, ⟨_, hall, rfl, _⟩, h⟩ := h
  have hnonneg : 0 ≤ -(facts.movements.map (·.valueDeltaBaseMinor)).sum := by
    rw [released_eq]
    exact List.sum_nonneg (List.forall_mem_map.mpr fun m hm => neg_nonneg.mpr (hall m hm))
  refine ⟨_, hnonneg, rfl, ?_⟩
  split at h
  · next hz => exact .inl ⟨hz, (Except.ok.inj h).symm⟩
  · next hz =>
      simp only [map_eq_ok, cogsEntry, bind_eq_ok, pure_eq_ok] at h
      obtain ⟨_, ⟨date, _, rfl⟩, rfl⟩ := h
      exact .inr ⟨hz, midnightUtc date, rfl⟩

end Daftar.Accounting
