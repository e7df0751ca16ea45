/-
  File: Daftar/Inventory/PurchaseResidue.lean
  Subject: The write-off of a purchase's sub-unit residue.

  * `planResidueWriteOff` is the routine's verdict; `planResidueWriteOff_writeOff` says when it
    binds a write-off, and of what.
  * `residue_le_one`: an amount that converts to nothing releases at most one base unit.
  * `residueWriteOff_closes`: the write-off closes the chain, and it is there exactly for what no
    payment can clear.
-/

import Daftar.Inventory.Residues

namespace Daftar.Inventory

open DoubleEntry
open Fallible
open Rounding
open Tiling

/-! ## 1. The verdict -/

/-- A received purchase's AP state and its stored snapshot. -/
structure ResidueWriteOffState where
  totalTxnMinor : ℤ
  totalBaseMinor : ℤ
  outstandingTxnMinor : ℤ
  rateR10 : ℤ
  txnExponent : ℤ
  baseExponent : ℤ
  deriving DecidableEq, Repr

structure ResidueWriteOffBound where
  residueTxnMinor : ℤ
  releasedBeforeTxnMinor : ℤ
  residueBaseMinor : ℤ
  entryLines : List SettlementEntryLine
  deriving DecidableEq, Repr

inductive ResidueWriteOffPlan
  | nothingOutstanding
  | notBelowBaseUnit
  | writeOff (bound : ResidueWriteOffBound)
  deriving DecidableEq, Repr

/-- The lines of a write-off, none when it releases nothing. -/
def residueLines (rb : ℤ) : List SettlementEntryLine :=
  if rb = 0 then []
  else [baseLine .accountsPayable .D rb .purchase, baseLine .fxGain .C rb .purchase]

def planResidueWriteOff (s : ResidueWriteOffState) : Result ResidueWriteOffPlan := do
  refuseIf (s.outstandingTxnMinor < 0 ∨ s.outstandingTxnMinor > s.totalTxnMinor)
    ⟨.inventoryArithmeticInvalid, "an outstanding AP is between 0 and the purchase total"⟩
  if s.outstandingTxnMinor = 0 then pure .nothingOutstanding
  else do
    let base ← convertToBase s.outstandingTxnMinor s.rateR10 s.txnExponent s.baseExponent
    if base ≠ 0 then pure .notBelowBaseUnit
    else do
      let x := s.totalTxnMinor - s.outstandingTxnMinor
      let rb ← apRelease s.totalBaseMinor s.totalTxnMinor x s.outstandingTxnMinor
      pure (.writeOff ⟨s.outstandingTxnMinor, x, rb, residueLines rb⟩)

/-! ## 2. When it binds -/

/-- The snapshot of the state. -/
def ResidueWriteOffState.conversion (s : ResidueWriteOffState) : SettlementConversion :=
  ⟨s.rateR10, s.txnExponent, s.baseExponent⟩

/-- The base a write-off releases. -/
def ResidueWriteOffState.residue (s : ResidueWriteOffState) : ℤ :=
  apShare s.totalBaseMinor s.totalTxnMinor s.totalTxnMinor -
    apShare s.totalBaseMinor s.totalTxnMinor (s.totalTxnMinor - s.outstandingTxnMinor)

theorem planResidueWriteOff_writeOff {s : ResidueWriteOffState} {bound : ResidueWriteOffBound} :
    planResidueWriteOff s = .ok (.writeOff bound) ↔
      (IsMinor 0 s.totalBaseMinor ∧ IsMinor 1 s.totalTxnMinor) ∧
      (0 < s.outstandingTxnMinor ∧ s.outstandingTxnMinor ≤ s.totalTxnMinor) ∧
      s.conversion.Valid ∧ s.conversion.base s.outstandingTxnMinor = 0 ∧
      ⟨s.outstandingTxnMinor, s.totalTxnMinor - s.outstandingTxnMinor, s.residue,
        residueLines s.residue⟩ = bound := by
  have hconv : convertToBase s.outstandingTxnMinor s.rateR10 s.txnExponent s.baseExponent =
      convert s.outstandingTxnMinor s.conversion := rfl
  have hlast : s.totalTxnMinor - s.outstandingTxnMinor + s.outstandingTxnMinor = s.totalTxnMinor :=
    sub_add_cancel _ _
  unfold planResidueWriteOff
  simp only [hconv, bind_eq_ok, refuseIf_eq_ok, exists_const, not_or, not_lt, gt_iff_lt]
  by_cases ho : s.outstandingTxnMinor = 0
  · simp [ho]
  · simp only [if_neg ho, bind_eq_ok, convert_eq_ok]
    constructor
    · intro h
      obtain ⟨⟨h0, hle⟩, base, ⟨_, hvalid, rfl⟩, h⟩ := h
      by_cases hz : s.conversion.base s.outstandingTxnMinor = 0
      · simp only [hz, ne_eq, not_true_eq_false, if_false, bind_eq_ok, apRelease_eq_ok, hlast,
          pure_eq_ok, ResidueWriteOffPlan.writeOff.injEq] at h
        obtain ⟨rb, ⟨hb, ht, _, _, _, rfl⟩, rfl⟩ := h
        exact ⟨⟨hb, ht⟩, ⟨by omega, hle⟩, hvalid, hz, rfl⟩
      · simp [hz] at h
    · intro h
      obtain ⟨⟨hb, ht⟩, ⟨hpos, hle⟩, hvalid, hz, rfl⟩ := h
      have hcap := ht.2
      refine ⟨⟨hpos.le, hle⟩, 0, ⟨⟨hpos.le, by omega⟩, hvalid, hz⟩, ?_⟩
      simp only [ne_eq, not_true_eq_false, if_false, bind_eq_ok, apRelease_eq_ok, hlast, pure_eq_ok,
        ResidueWriteOffPlan.writeOff.injEq]
      exact ⟨s.residue, ⟨hb, ht, ⟨by omega, by omega⟩, ⟨hpos.le, by omega⟩, le_rfl, rfl⟩, rfl⟩

/-! ## 3. At most one base unit -/

/-- **An amount that converts to nothing** releases at most one base unit of its purchase: the
    rounding of the total and that of its share are each off by at most a half. -/
theorem residue_le_one {c : SettlementConversion} {t o : ℤ} (ht : 0 < t) (ho : 0 ≤ o) (hle : o ≤ t)
    (hz : c.base o = 0) : c.base t - apShare (c.base t) t (t - o) ≤ 1 := by
  by_contra hgt
  set b := c.base t with hb
  have hden := c.den_pos
  have hup : 2 * (b * c.den) ≤ 2 * (t * c.num) + c.den := two_mul_nearestEven_le _ hden
  have hzero : 2 * (o * c.num) ≤ c.den := by
    have h := le_two_mul_nearestEven (o * c.num) hden
    have hz' : nearestEven (o * c.num) c.den = 0 := hz
    rwa [hz', zero_mul, mul_zero, zero_add] at h
  have hshare : 2 * (b * (t - o)) ≤ 2 * (apShare b t (t - o) * t) + t :=
    le_two_mul_nearestEven _ ht
  have hfar : apShare b t (t - o) * t ≤ (b - 2) * t :=
    mul_le_mul_of_nonneg_right (by omega) ht.le
  -- Two units of the total would have to fit into one.
  have h3 : 3 * t ≤ 2 * (b * o) := by nlinarith
  have h2 : 2 * (b * o) * c.den ≤ 2 * t * c.den := by nlinarith
  have := le_of_mul_le_mul_right h2 hden
  omega

/-- The state of a purchase with a chain of reducers. -/
def residueState (t : PurchaseTotals) (c : SettlementConversion) (s : ApChain) :
    ResidueWriteOffState :=
  ⟨t.txn, t.base, s.outstanding, c.rateR10, c.txnExponent, c.baseExponent⟩

/-- The chain with the row a write-off stores. -/
def ApChain.writeOff (s : ApChain) (b : ResidueWriteOffBound) : ApChain :=
  ⟨s.outstanding - b.residueTxnMinor,
    s.rows ++ [⟨b.releasedBeforeTxnMinor, b.residueTxnMinor, b.residueBaseMinor⟩]⟩

/-- One payment of all that is owed, in the purchase's currency at its own snapshot. -/
def payOutstanding (t : PurchaseTotals) (c : SettlementConversion) (s : ApChain) :
    PaymentAllocationInput :=
  ⟨⟨t.txn, t.base, s.outstanding, c⟩, true, s.outstanding, c, s.outstanding⟩

section Chain

variable {t : PurchaseTotals} {c : SettlementConversion} {s : ApChain}

theorem ApChain.Exact.outstanding_le (h : s.Exact t) : s.outstanding ≤ t.txn := by
  have hsum : 0 ≤ amountSum s.rows := List.sum_nonneg fun x hx => by
    obtain ⟨r, hr, rfl⟩ := List.mem_map.mp hx
    exact h.amount_nonneg r hr
  have := h.sum_eq
  omega

theorem residue_bounds (hbase : c.base t.txn = t.base) (h : s.Exact t)
    (hz : c.base s.outstanding = 0) :
    (residueState t c s).residue = 0 ∨ (residueState t c s).residue = 1 := by
  have htotal := apShare_total t.base t.txn_minor.1
  have hle := residue_le_one t.txn_minor.1 h.outstanding_nonneg h.outstanding_le hz
  have hmono := apShare_mono t.base_minor.1 t.txn_minor.1
    (show t.txn - s.outstanding ≤ t.txn by have := h.outstanding_nonneg; omega)
  have hres : (residueState t c s).residue =
      apShare t.base t.txn t.txn - apShare t.base t.txn (t.txn - s.outstanding) := rfl
  rw [hbase] at hle
  omega

/-- The lines are there for one base unit, and they balance. -/
theorem residueLines_balanced {rb : ℤ} (h : rb = 0 ∨ rb = 1) :
    (residueLines rb ≠ [] ↔ rb = 1) ∧ balanced (residueLines rb) = .ok (residueLines rb) := by
  rcases h with rfl | rfl
  · exact ⟨by decide, by decide⟩
  · exact ⟨by decide, by decide⟩

/-- **The write-off takes the chain to its end.** -/
theorem writeOff_exact (h : s.Exact t) {bound : ResidueWriteOffBound}
    (hbound : planResidueWriteOff (residueState t c s) = .ok (.writeOff bound)) :
    (s.writeOff bound).Exact t ∧ (s.writeOff bound).outstanding = 0 := by
  obtain ⟨_, ⟨hpos, _⟩, _, _, rfl⟩ := planResidueWriteOff_writeOff.mp hbound
  have hlast : t.txn - s.outstanding + s.outstanding = t.txn := sub_add_cancel _ _
  have hrow : ReducerRow t s.outstanding
      ⟨t.txn - s.outstanding, s.outstanding, (residueState t c s).residue⟩ := by
    refine ⟨rfl, hpos.le, le_rfl, ?_⟩
    show _ = apShare t.base t.txn (t.txn - s.outstanding + s.outstanding) - _
    rw [hlast]
    rfl
  exact ⟨h.append hrow, sub_self _⟩

/-- What converts to nothing is written off. -/
theorem writeOff_iff (hvalid : c.Valid) (h : s.Exact t) (hpos : 0 < s.outstanding) :
    (∃ bound, planResidueWriteOff (residueState t c s) = .ok (.writeOff bound)) ↔
      c.base s.outstanding = 0 := by
  constructor
  · intro ⟨bound, hbound⟩
    exact (planResidueWriteOff_writeOff.mp hbound).2.2.2.1
  · intro hz
    exact ⟨_, planResidueWriteOff_writeOff.mpr
      ⟨⟨t.base_minor, t.txn_minor⟩, ⟨hpos, h.outstanding_le⟩, hvalid, hz, rfl⟩⟩

/-- The rest can be paid. -/
theorem payOutstanding_iff (hvalid : c.Valid) (h : s.Exact t) (hpos : 0 < s.outstanding) :
    (∃ p, planPaymentAllocation (payOutstanding t c s) = .ok p) ↔ c.base s.outstanding ≠ 0 := by
  constructor
  · intro ⟨p, hp⟩
    exact (planPaymentAllocation_eq_ok.mp hp).1.converted
  · intro hne
    have hone : 1 ≤ c.base s.outstanding := by
      have := hvalid.base_nonneg hpos.le
      omega
    have howed : Owed ⟨t, c⟩ s.outstanding := ⟨hpos.le, h.outstanding_le, .inr hone⟩
    have hminor : IsMinor 0 s.outstanding := ⟨hpos.le, h.outstanding_le.trans t.txn_minor.2⟩
    exact ⟨_, planPaymentAllocation_eq_ok.mpr ⟨howed.pay_all hpos hvalid
      ⟨_, convert_eq_ok.mpr ⟨hminor, hvalid, rfl⟩, hone⟩, rfl⟩⟩

end Chain

/-- **The residue write-off closes the chain, and only where nothing else can**: of what converts to
    nothing it releases the rest of the base, zero or one unit, in lines that balance, and all that
    is owed is either written off or payable at the purchase's own snapshot, never both. -/
theorem residueWriteOff_closes (t : PurchaseTotals) (c : SettlementConversion) (s : ApChain)
    (hbase : convertToBase t.txn c.rateR10 c.txnExponent c.baseExponent = .ok t.base)
    (h : s.Exact t) (hpos : 0 < s.outstanding) :
    (convertToBase s.outstanding c.rateR10 c.txnExponent c.baseExponent = .ok 0 →
      ∃ bound, planResidueWriteOff (residueState t c s) = .ok (.writeOff bound) ∧
        (bound.residueBaseMinor = 0 ∨ bound.residueBaseMinor = 1) ∧
        (s.writeOff bound).Exact t ∧ (s.writeOff bound).outstanding = 0 ∧
        releasedSum s.rows + bound.residueBaseMinor = t.base ∧
        (bound.entryLines ≠ [] ↔ bound.residueBaseMinor = 1) ∧
        balanced bound.entryLines = .ok bound.entryLines) ∧
    ((∃ bound, planResidueWriteOff (residueState t c s) = .ok (.writeOff bound)) ↔
      ¬ ∃ p, planPaymentAllocation (payOutstanding t c s) = .ok p) := by
  obtain ⟨_, hvalid, hB⟩ := convert_eq_ok.mp (show convert t.txn c = .ok t.base from hbase)
  constructor
  · intro hzero
    obtain ⟨_, _, hz⟩ := convert_eq_ok.mp (show convert s.outstanding c = .ok 0 from hzero)
    obtain ⟨bound, hbound⟩ := (writeOff_iff hvalid h hpos).mpr hz
    obtain ⟨hexact, hout⟩ := writeOff_exact h hbound
    have hsum : releasedSum (s.writeOff bound).rows = t.base := by
      rw [hexact.releasedSum_eq, hout, sub_zero, apShare_total t.base t.txn_minor.1]
    have hres := residue_bounds hB h hz
    have hlines := residueLines_balanced hres
    obtain ⟨_, _, _, _, rfl⟩ := planResidueWriteOff_writeOff.mp hbound
    refine ⟨_, hbound, hres, hexact, hout, ?_, hlines.1, hlines.2⟩
    simpa [ApChain.writeOff, releasedSum] using hsum
  · rw [writeOff_iff hvalid h hpos, payOutstanding_iff hvalid h hpos, not_not]

/-- A purchase of 3, its base 1. At a rate of 0.4, 2 of it paid, the last one is written off with no
    base left; at a rate of 0.25, 1 of it paid, the other two are written off with the base. -/
theorem residueWriteOff_closes_sample :
    (∃ bound, planResidueWriteOff ⟨3, 1, 1, 4000000000, 2, 2⟩ = .ok (.writeOff bound) ∧
        bound.residueBaseMinor = 0 ∧ bound.entryLines = []) ∧
      (∃ bound, planResidueWriteOff ⟨3, 1, 2, 2500000000, 2, 2⟩ = .ok (.writeOff bound) ∧
        bound.residueBaseMinor = 1 ∧ bound.entryLines ≠ [] ∧
        balanced bound.entryLines = .ok bound.entryLines) ∧
      ¬ ∃ p, planPaymentAllocation (payOutstanding ⟨3, 1, by decide, by decide⟩
        ⟨2500000000, 2, 2⟩ ⟨2, [⟨0, 1, 0⟩]⟩) = .ok p := by
  obtain ⟨hdust, _⟩ := residueWriteOff_closes ⟨3, 1, by decide, by decide⟩ ⟨4000000000, 2, 2⟩
    ⟨1, [⟨0, 2, 1⟩]⟩ (by decide) ⟨by decide, ⟨rfl, trivial⟩, by decide, by decide, by decide⟩
    (by decide)
  obtain ⟨hbase, hpayable⟩ := residueWriteOff_closes ⟨3, 1, by decide, by decide⟩
    ⟨2500000000, 2, 2⟩ ⟨2, [⟨0, 1, 0⟩]⟩ (by decide)
    ⟨by decide, ⟨rfl, trivial⟩, by decide, by decide, by decide⟩ (by decide)
  obtain ⟨dust, hplan, _, _, _, hsum, hlines, _⟩ := hdust (by decide)
  obtain ⟨one, hplan', _, _, _, hsum', hlines', hbalanced'⟩ := hbase (by decide)
  have hzero : dust.residueBaseMinor = 0 := by
    have hreleased : (1 : ℤ) + dust.residueBaseMinor = 1 := hsum
    omega
  have hone : one.residueBaseMinor = 1 := by
    have hreleased : (0 : ℤ) + one.residueBaseMinor = 1 := hsum'
    omega
  refine ⟨⟨dust, hplan, hzero, ?_⟩, ⟨one, hplan', hone, hlines'.mpr hone, hbalanced'⟩,
    hpayable.mp ⟨one, hplan'⟩⟩
  by_contra hne
  have := hlines.mp hne
  omega

end Daftar.Inventory
