/-
  File: Daftar/Inventory/StockRun.lean
  Subject: Many stock keys over a run of accepted requests.

  * `StockState.Lawful` is what a key satisfies between any two requests.
  * `simulateMovement_lawful`: an accepted request keeps it, and what it takes out was there.
  * `StockStep` is one accepted request on one key; a `transfer_in` copies a stored `transfer_out`
    leg of another key.
  * `stockRun_lawful`: every state of every run is lawful, every outbound movement took at most the
    value before it, and a key can always be emptied exactly.
-/

import Daftar.Inventory.Valuation
import Daftar.Library.Runs
import Mathlib.Logic.Function.Basic

namespace Daftar.Inventory

open Fallible
open Rounding
open Runs

/-! ## 1. One key -/

/-- A key between two requests. The average is the rounded quotient while stock is on hand, and any
    average, also one carried at zero, is a lawful unit cost. -/
structure StockState.Lawful (s : StockState) : Prop where
  onHand_nonneg : 0 ≤ s.onHand
  onHand_lt : s.onHand < QTY_LIMIT_Q4
  valuation_nonneg : 0 ≤ s.valuation
  valuation_le : s.valuation ≤ VALUE_LIMIT_MINOR
  empty_worthless : s.onHand = 0 → s.valuation = 0
  avg_eq : s.onHand ≠ 0 → s.avg = some (nearestEven (s.valuation * Q4_TIMES_C10) s.onHand)
  avg_range : ∀ a, s.avg = some a → 0 ≤ a ∧ a < COST_LIMIT_C10

theorem empty_lawful : EMPTY_STOCK_STATE.Lawful where
  onHand_nonneg := le_rfl
  onHand_lt := by decide
  valuation_nonneg := le_rfl
  valuation_le := by decide
  empty_worthless := fun _ => rfl
  avg_eq := fun h => absurd rfl h
  avg_range := by
    intro a ha
    cases ha

/-- A stored movement that leaves lawful sums leaves a lawful key. -/
theorem StockState.Lawful.of_applyMovement {s t : StockState} {q v : ℤ} (hs : s.Lawful)
    (hq : 0 ≤ s.onHand + q) (hv : 0 ≤ s.valuation + v)
    (h0 : s.onHand + q = 0 → s.valuation + v = 0) (h : applyMovement s q v = .ok t) :
    t.Lawful := by
  rw [applyMovement_eq_ok] at h
  obtain ⟨_, _, _, hval, hon, havg, rfl⟩ := h
  refine ⟨hq, (abs_lt.mp hon).2, hv, (abs_le.mp hval).2, h0, ?_, ?_⟩
  · intro hne
    exact derivedAverage_of_ne _ _ hne
  · intro a ha
    have hub := (abs_lt.mp (havg a ha)).2
    by_cases hz : s.onHand + q = 0
    · -- At zero the average is the carried one.
      have ha' : s.avg = some a := by simpa [hz] using ha
      exact hs.avg_range a ha'
    · have ha' : some (nearestEven ((s.valuation + v) * Q4_TIMES_C10) (s.onHand + q)) = some a := by
        rw [← derivedAverage_of_ne _ s.avg hz]
        exact ha
      rw [Option.some.injEq] at ha'
      have hpos : 0 < s.onHand + q := by omega
      have := nearestEven_nonneg hpos (mul_nonneg hv scale_pos.le)
      omega

/-- What an outbound movement takes is at most what the key is worth. -/
theorem StockState.Lawful.outboundAmount_bounds {s : StockState} (hs : s.Lawful) {taken a : ℤ}
    (ht : 0 < taken) (hle : taken ≤ s.onHand) (ha : s.avg = some a) :
    0 ≤ outboundAmount s taken a ∧ outboundAmount s taken a ≤ s.valuation := by
  unfold outboundAmount
  split
  · exact ⟨hs.valuation_nonneg, le_rfl⟩
  · rename_i hne
    have hlt : taken < s.onHand := lt_of_le_of_ne hle hne
    have havg := hs.avg_eq (by omega)
    rw [ha, Option.some.injEq] at havg
    have hscale : s.onHand < Q4_TIMES_C10 := hs.onHand_lt
    refine ⟨nearestEven_nonneg scale_pos (mul_nonneg ht.le (hs.avg_range a ha).1), ?_⟩
    rw [havg]
    exact nearestEven_share_le hs.valuation_nonneg ht.le hlt hscale

/-- A kind other than the value-only one changes the quantity. -/
theorem qty_ne_zero_of_allows {m : MovementInput}
    (hkind : m.kind ≠ .negativeInventoryCostAdjustment)
    (h : (MOVEMENT_KIND_QTY_SIGN m.kind).allows m.qtyQ4) : m.qtyQ4 ≠ 0 := by
  intro hz
  cases hk : m.kind <;>
    simp [hk, hz, MOVEMENT_KIND_QTY_SIGN, QtySign.allows] at h hkind

/-- **An accepted request keeps a key lawful, and takes out at most what is there.** The copied
    value of a `transfer_in` is the one thing that comes from outside the key. -/
theorem simulateMovement_lawful {s : StockState} {m : MovementInput} {r : SimulatedMovement}
    (hs : s.Lawful) (hkind : m.kind ≠ .negativeInventoryCostAdjustment)
    (hout : ∀ out, m.kind = .transferIn → m.pairedOut = some out → out.value ≤ 0)
    (h : simulateMovement s m = .ok r) :
    r.next.Lawful ∧ (m.qtyQ4 < 0 → 0 ≤ -r.value ∧ -r.value ≤ s.valuation) := by
  rw [simulateMovement_eq_ok] at h
  obtain ⟨_, hallow, p, hp, t, ht, rfl⟩ := h
  have hq := qty_ne_zero_of_allows hkind hallow
  have hon := hs.onHand_nonneg
  have hval := hs.valuation_nonneg
  rcases valueByClass_cases hq hp with ⟨out, hk, hpair, _, rfl⟩ | ⟨_, hrev⟩ | ⟨_, hneg, hov⟩ |
      ⟨_, hpos, hv⟩
  · -- transfer_in: the quantity is positive and the copied value is not negative.
    have hpos : 0 < m.qtyQ4 := by simpa [hk, MOVEMENT_KIND_QTY_SIGN, QtySign.allows] using hallow
    have hv := hout out hk hpair
    refine ⟨hs.of_applyMovement ?_ ?_ ?_ ht, fun hneg => absurd hneg (by omega)⟩
    · omega
    · show 0 ≤ s.valuation + -out.value
      omega
    · omega
  · -- purchase_reversal: its residue guard is the invariant.
    rw [purchaseReversalValue_eq_ok] at hrev
    obtain ⟨hneg, _, hle, pp, _, _, hpv, _, _, ⟨hz, hp0⟩, rfl⟩ := hrev
    have hnn : 0 ≤ s.valuation + -pp.value := by
      rcases eq_or_lt_of_le (show 0 ≤ s.onHand + m.qtyQ4 by omega) with heq | hlt
      · exact (hz heq.symm).ge
      · exact hp0 hlt
    refine ⟨hs.of_applyMovement (by omega) hnn hz ht, fun _ => ?_⟩
    show 0 ≤ - -pp.value ∧ - -pp.value ≤ s.valuation
    omega
  · -- outbound at the average, the flush included.
    rw [outboundValue_eq_ok] at hov
    obtain ⟨_, _, hle, a, ha, _, rfl⟩ := hov
    have hb := hs.outboundAmount_bounds (by omega) hle ha
    refine ⟨hs.of_applyMovement (by omega) ?_ ?_ ht, fun _ => ?_⟩
    · show 0 ≤ s.valuation + -outboundAmount s (-m.qtyQ4) a
      omega
    · intro hz
      have hflush : -m.qtyQ4 = s.onHand := by omega
      show s.valuation + -outboundAmount s (-m.qtyQ4) a = 0
      simp [outboundAmount, hflush]
    · show 0 ≤ - -outboundAmount s (-m.qtyQ4) a ∧ - -outboundAmount s (-m.qtyQ4) a ≤ s.valuation
      omega
  · -- inbound.
    exact ⟨hs.of_applyMovement (by omega) (by omega) (by omega) ht, fun hneg => absurd hneg (by omega)⟩

/-- The kinds that take stock out at the average. -/
def outboundKinds : List MovementKind :=
  [.damage, .transferOut, .supplierReturn, .adjustment, .stocktake]

/-- **A lawful key can be emptied exactly**, by every kind priced at the average. -/
theorem StockState.Lawful.exact_out {s : StockState} (hs : s.Lawful) (hpos : 0 < s.onHand)
    {m : MovementInput} (hkind : m.kind ∈ outboundKinds) (hq : m.qtyQ4 = -s.onHand)
    (hcost : m.costC10 = none) (hvalue : m.value = none) :
    ∃ r, simulateMovement s m = .ok r ∧ r.next.onHand = 0 ∧ r.next.valuation = 0 := by
  set a := nearestEven (s.valuation * Q4_TIMES_C10) s.onHand with ha
  have havg : s.avg = some a := hs.avg_eq hpos.ne'
  have harange := hs.avg_range a havg
  have hqrange : |m.qtyQ4| < QTY_LIMIT_Q4 := by
    rw [hq, abs_neg, abs_of_pos hpos]
    exact hs.onHand_lt
  have hneg : m.qtyQ4 < 0 := by omega
  have hallow : (MOVEMENT_KIND_QTY_SIGN m.kind).allows m.qtyQ4 := by
    simp only [outboundKinds, List.mem_cons, List.not_mem_nil, or_false] at hkind
    rcases hkind with hk | hk | hk | hk | hk <;>
      simp [hk, MOVEMENT_KIND_QTY_SIGN, QtySign.allows, hneg, hneg.ne]
  have hov : outboundValue s m.qtyQ4 = .ok ⟨-s.valuation, some a⟩ := by
    rw [outboundValue_eq_ok]
    refine ⟨hneg, hqrange, by omega, a, havg, harange.1, ?_⟩
    simp [outboundAmount, hq]
  have hclass : valueByClass s m = .ok ⟨-s.valuation, some a⟩ := by
    unfold valueByClass
    have hk1 : m.kind ≠ .transferIn := by rintro hk; simp [hk, outboundKinds] at hkind
    have hk2 : m.kind ≠ .purchaseReversal := by rintro hk; simp [hk, outboundKinds] at hkind
    simp only [hneg.ne, hk1, hk2, hneg, if_true, if_false, hcost, hvalue, ne_eq, not_true, or_self]
    exact hov
  have hv := hs.valuation_nonneg
  have hvle := hs.valuation_le
  have happly : applyMovement s m.qtyQ4 (-s.valuation) =
      .ok ⟨0, 0, some a, s.lastStockSeq + 1⟩ := by
    rw [applyMovement_eq_ok]
    refine ⟨by omega, hqrange, ?_, ?_, ?_, ?_, ?_⟩
    · rw [abs_neg, abs_of_nonneg hv]
      exact hvle
    · rw [add_neg_cancel]
      decide
    · rw [hq, add_neg_cancel]
      decide
    · intro b hb
      rw [hq, add_neg_cancel, add_neg_cancel, derivedAverage_zero] at hb
      obtain ⟨hb0, hb1⟩ := hs.avg_range b hb
      rwa [abs_of_nonneg hb0]
    · simp [hq, havg]
  refine ⟨⟨-s.valuation, some a, ⟨0, 0, some a, s.lastStockSeq + 1⟩⟩, ?_, rfl, rfl⟩
  rw [simulateMovement_eq_ok]
  exact ⟨hqrange, hallow, _, hclass, _, happly, rfl⟩

/-- With stock on hand the average is usable, so the defensive refusal does not occur. -/
theorem StockState.Lawful.outboundValue_not_arithmetic {s : StockState} (hs : s.Lawful)
    (hpos : 0 < s.onHand) {q : ℤ} {e : InventoryError} (h : outboundValue s q = .error e) :
    e.code ≠ .inventoryArithmeticInvalid := by
  intro hcode
  have havg := hs.avg_eq hpos.ne'
  have hneg := outboundValue_arithmetic_invalid h hcode _ havg
  have := (hs.avg_range _ havg).1
  omega

/-! ## 2. Many keys -/

/-- A request on record: its key, the key's state before it, and what it stored. -/
structure StoredMovement (κ : Type*) where
  key : κ
  before : StockState
  input : MovementInput
  result : SimulatedMovement

/-- The level of every key and every movement stored so far. -/
structure StockLedger (κ : Type*) where
  level : κ → StockState
  stored : List (StoredMovement κ)

namespace StockLedger

variable {κ : Type*}

/-- All keys empty, nothing stored. -/
def start : StockLedger κ := ⟨fun _ => EMPTY_STOCK_STATE, []⟩

/-- `out` is a `transfer_out` leg stored earlier on another key than `k`. -/
def HasLeg (l : StockLedger κ) (k : κ) (out : PairedMovement) : Prop :=
  ∃ s ∈ l.stored, s.key ≠ k ∧ s.input.kind = .transferOut ∧ s.result.value = out.value ∧
    s.result.unitCostSnapshot = some out.costC10 ∧ s.input.qtyQ4 = out.qtyQ4

variable [DecidableEq κ]

/-- Stores an accepted request. -/
def post (l : StockLedger κ) (k : κ) (m : MovementInput) (r : SimulatedMovement) :
    StockLedger κ :=
  ⟨Function.update l.level k r.next, ⟨k, l.level k, m, r⟩ :: l.stored⟩

end StockLedger

/-- One accepted request of a kind other than the value-only one, on one key. -/
inductive StockStep {κ : Type*} [DecidableEq κ] :
    StockLedger κ → κ × MovementInput → StockLedger κ → Prop
  | accept {l : StockLedger κ} {k : κ} {m : MovementInput} {r : SimulatedMovement}
      (hkind : m.kind ≠ .negativeInventoryCostAdjustment)
      (hpair : ∀ out, m.kind = .transferIn → m.pairedOut = some out → l.HasLeg k out)
      (hok : simulateMovement (l.level k) m = .ok r) :
      StockStep l (k, m) (l.post k m r)

/-- Every key is lawful and every outbound movement took a value that was there. -/
structure StockLedger.Lawful {κ : Type*} (l : StockLedger κ) : Prop where
  keys : ∀ k, (l.level k).Lawful
  outbound : ∀ s ∈ l.stored, s.input.qtyQ4 < 0 →
    0 ≤ -s.result.value ∧ -s.result.value ≤ s.before.valuation
  legs : ∀ s ∈ l.stored, s.input.kind = .transferOut → s.input.qtyQ4 < 0

section Run

variable {κ : Type*}

theorem stockLedger_start_lawful : (StockLedger.start : StockLedger κ).Lawful where
  keys := fun _ => empty_lawful
  outbound := by
    intro s hs
    cases hs
  legs := by
    intro s hs
    cases hs

variable [DecidableEq κ]

theorem stockLedger_step_lawful {l l' : StockLedger κ} {e : κ × MovementInput} (hl : l.Lawful)
    (h : StockStep l e l') : l'.Lawful := by
  cases h with
  | accept hkind hpair hok =>
    rename_i k m r
    have hout : ∀ out, m.kind = .transferIn → m.pairedOut = some out → out.value ≤ 0 := by
      intro out hk hp
      obtain ⟨s, hs, _, hso, hsv, _⟩ := hpair out hk hp
      have := (hl.outbound s hs (hl.legs s hs hso)).1
      omega
    obtain ⟨hnext, hbound⟩ := simulateMovement_lawful (hl.keys k) hkind hout hok
    refine ⟨?_, ?_, ?_⟩
    · intro k'
      by_cases hk : k' = k
      · subst hk
        simpa [StockLedger.post] using hnext
      · simpa [StockLedger.post, hk] using hl.keys k'
    · intro s hs hneg
      rcases List.mem_cons.mp hs with rfl | hs
      · exact hbound hneg
      · exact hl.outbound s hs hneg
    · intro s hs hk
      rcases List.mem_cons.mp hs with rfl | hs
      · rw [simulateMovement_eq_ok] at hok
        have hallow := hok.2.1
        simpa [show m.kind = .transferOut from hk, MOVEMENT_KIND_QTY_SIGN, QtySign.allows]
          using hallow
      · exact hl.legs s hs hk

/-- **Every run of accepted requests leaves a lawful ledger.** -/
theorem stockLedger_run_lawful {l : StockLedger κ} {es : List (κ × MovementInput)}
    (h : Run StockStep StockLedger.start es l) : l.Lawful :=
  h.invariant (fun _ _ _ hl hstep => stockLedger_step_lawful hl hstep) stockLedger_start_lawful

/-- **The stock keys over any run.** Quantities stay in range, values and averages stay usable and
    exact, nothing outbound took more than the key was worth, every key can be emptied exactly, and
    the refusal for want of an average does not occur while stock is on hand. -/
theorem stockRun_lawful {l : StockLedger κ} {es : List (κ × MovementInput)}
    (h : Run StockStep StockLedger.start es l) :
    (∀ k, 0 ≤ (l.level k).onHand ∧ (l.level k).onHand < 10 ^ 14 ∧ 0 ≤ (l.level k).valuation ∧
      ((l.level k).onHand = 0 → (l.level k).valuation = 0) ∧
      (0 < (l.level k).onHand → ∃ a, (l.level k).avg = some a ∧ 0 ≤ a ∧
        roundHalfEven ((l.level k).valuation * 10 ^ 14) (l.level k).onHand = .ok a)) ∧
    (∀ s ∈ l.stored, s.input.qtyQ4 < 0 →
      0 ≤ -s.result.value ∧ -s.result.value ≤ s.before.valuation) ∧
    (∀ k, 0 < (l.level k).onHand → ∀ m : MovementInput, m.kind ∈ outboundKinds →
      m.qtyQ4 = -(l.level k).onHand → m.costC10 = none → m.value = none →
      ∃ r, simulateMovement (l.level k) m = .ok r ∧ r.next.onHand = 0 ∧ r.next.valuation = 0) ∧
    (∀ k, 0 < (l.level k).onHand → ∀ q e, outboundValue (l.level k) q = .error e →
      e.code ≠ .inventoryArithmeticInvalid) := by
  have hl := stockLedger_run_lawful h
  refine ⟨fun k => ?_, hl.outbound, ?_, ?_⟩
  · have hk := hl.keys k
    refine ⟨hk.onHand_nonneg, hk.onHand_lt, hk.valuation_nonneg, hk.empty_worthless, ?_⟩
    intro hpos
    have havg := hk.avg_eq hpos.ne'
    exact ⟨_, havg, (hk.avg_range _ havg).1, roundHalfEven_pos hpos⟩
  · intro k hpos m hkind hq hcost hvalue
    exact (hl.keys k).exact_out hpos hkind hq hcost hvalue
  · intro k hpos q e herr
    exact (hl.keys k).outboundValue_not_arithmetic hpos herr

/-- Three units received at 10 minor units in all, one of them moved on to a second key. -/
def sampleReceipt : MovementInput := ⟨.purchase, 30000, some 33333333333, some 10, none, none⟩

def sampleTransferOut : MovementInput := ⟨.transferOut, -10000, none, none, none, none⟩

def sampleTransferIn : MovementInput :=
  ⟨.transferIn, 10000, none, none, some ⟨-3, 33333333333, -10000⟩, none⟩

def sampleLedger : StockLedger Bool :=
  ((StockLedger.start.post false sampleReceipt
      ⟨10, some 33333333333, ⟨30000, 10, some 33333333333, 1⟩⟩).post false sampleTransferOut
      ⟨-3, some 33333333333, ⟨20000, 7, some 35000000000, 2⟩⟩).post true sampleTransferIn
      ⟨3, some 33333333333, ⟨10000, 3, some 30000000000, 1⟩⟩

theorem sampleLedger_run : Run StockStep StockLedger.start
    [(false, sampleReceipt), (false, sampleTransferOut), (true, sampleTransferIn)]
    sampleLedger := by
  refine .cons (.accept (by decide) ?_ (by decide)) (.cons (.accept (by decide) ?_ (by decide))
    (.cons (.accept (by decide) ?_ (by decide)) (.nil _)))
  · intro out hk
    exact absurd hk (by decide)
  · intro out hk
    exact absurd hk (by decide)
  · intro out _ hp
    obtain rfl : (⟨-3, 33333333333, -10000⟩ : PairedMovement) = out := by
      simpa [sampleTransferIn] using hp
    exact ⟨_, List.mem_cons_self, by decide, rfl, rfl, rfl, rfl⟩

theorem stockRun_lawful_sample :
    (sampleLedger.level true).onHand = 10000 ∧
      ∃ r, simulateMovement (sampleLedger.level true)
        ⟨.damage, -10000, none, none, none, none⟩ = .ok r ∧
        r.next.onHand = 0 ∧ r.next.valuation = 0 :=
  ⟨rfl, (stockRun_lawful sampleLedger_run).2.2.1 true (by decide) _ (by decide) rfl rfl rfl⟩

end Run

end Daftar.Inventory
