/-
  File: Daftar/Inventory/PurchaseReversal.lean
  Subject: Reversing the receipts of a key.

  * `reversalLineVerdict` decides a reversal apart from the stock writer; `simulate_reversal` says
    the two decide alike on every key state.
  * `ReceiptStep` is one inbound movement, or the reversal of a receipt that is still there.
  * `reversals_undo`: in every run of them a reversal is refused only for its average, and what is
    left is what the movements still there add up to.
-/

import Daftar.Inventory.StockRun

namespace Daftar.Inventory

open Fallible
open Rounding
open Runs

/-! ## 1. The verdict -/

inductive ReversalLineVerdict
  | ok (valueMinor : ℤ) (stateAfter : StockState)
  | insufficientStock
  | valuationResidue
  deriving DecidableEq, Repr

def reversalLineVerdict (state : StockState) (qtyQ4 purchaseValueMinor : ℤ) :
    Result ReversalLineVerdict := do
  refuseIf (qtyQ4 ≤ 0) ⟨.inventoryPayloadInvalid, "a reversed quantity must be positive"⟩
  refuseIf (purchaseValueMinor < 0)
    ⟨.inventoryPayloadInvalid, "a purchase movement value must be a non-negative integer"⟩
  if state.onHand < qtyQ4 then pure .insufficientStock
  else do
    let onHandAfter := state.onHand - qtyQ4
    let valuationAfter := state.valuation - purchaseValueMinor
    if (onHandAfter = 0 ∧ valuationAfter ≠ 0) ∨ (onHandAfter > 0 ∧ valuationAfter < 0) then
      pure .valuationResidue
    else do
      let stateAfter ← applyMovement state (-qtyQ4) (-purchaseValueMinor)
      pure (.ok (-purchaseValueMinor) stateAfter)

/-- The request that reverses a receipt. -/
def reversalOf (receipt : PairedMovement) : MovementInput :=
  ⟨.purchaseReversal, -receipt.qtyQ4, none, none, none, some receipt⟩

def outboundInsufficient : InventoryError :=
  ⟨.inventoryInsufficientStock, "outbound quantity exceeds the quantity on hand"⟩

def unlawfulValuation : InventoryError :=
  ⟨.inventoryArithmeticInvalid, "removing the receipt value would leave an unlawful key valuation"⟩

/-- What the stock writer answers where this is the verdict. -/
def ReversalLineVerdict.simulated (costC10 : ℤ) : ReversalLineVerdict → Result SimulatedMovement
  | .ok valueMinor stateAfter => .ok ⟨valueMinor, some costC10, stateAfter⟩
  | .insufficientStock => .error outboundInsufficient
  | .valuationResidue => .error unlawfulValuation

/-- A stored receipt within the bounds of its columns. -/
structure PairedMovement.Receipt (p : PairedMovement) : Prop where
  qty : 0 < p.qtyQ4 ∧ p.qtyQ4 < QTY_LIMIT_Q4
  value : 0 ≤ p.value ∧ p.value ≤ VALUE_LIMIT_MINOR
  cost : 0 ≤ p.costC10 ∧ p.costC10 < COST_LIMIT_C10

/-- A reversal that would leave value on an empty key, or a negative one on stock. -/
def LeavesResidue (s : StockState) (q v : ℤ) : Prop :=
  (s.onHand - q = 0 ∧ s.valuation - v ≠ 0) ∨ (s.onHand - q > 0 ∧ s.valuation - v < 0)

instance (s : StockState) (q v : ℤ) : Decidable (LeavesResidue s q v) :=
  inferInstanceAs (Decidable (_ ∨ _))

section Receipt

variable (s : StockState) {p : PairedMovement} (hp : p.Receipt)
include hp

theorem PairedMovement.Receipt.abs_qty : |-p.qtyQ4| < QTY_LIMIT_Q4 := by
  rw [abs_neg, abs_of_pos hp.qty.1]
  exact hp.qty.2

theorem valueByClass_reversal :
    valueByClass s (reversalOf p) = purchaseReversalValue s (-p.qtyQ4) (some p) := by
  have hne : -p.qtyQ4 ≠ 0 := by have := hp.qty.1; omega
  simp [valueByClass, reversalOf, hne, refuseIf_of_not]

theorem purchaseReversalValue_receipt : purchaseReversalValue s (-p.qtyQ4) (some p) =
    if s.onHand < p.qtyQ4 then .error outboundInsufficient
    else if LeavesResidue s p.qtyQ4 p.value then .error unlawfulValuation
    else .ok ⟨-p.value, some p.costC10⟩ := by
  have hq := hp.qty.1
  have hrange := assertQuantityInRange_eq_ok (u := ()) |>.mpr hp.abs_qty
  have hvalue : assertValueInRange p.value = .ok () := by
    rw [assertValueInRange_eq_ok, abs_of_nonneg hp.value.1]
    exact hp.value.2
  have hcost : assertCost p.costC10 = .ok () := assertCost_eq_ok.mpr hp.cost
  unfold purchaseReversalValue
  rw [refuseIf_of_not (by omega), ok_bind, hrange, ok_bind]
  by_cases hstock : s.onHand < p.qtyQ4
  · rw [refuseIf_of (by omega), if_pos hstock]
    rfl
  · rw [refuseIf_of_not (by omega), if_neg hstock, ok_bind]
    simp only []
    rw [refuseIf_of_not (by omega), ok_bind, refuseIf_of_not (by have := hp.value.1; omega), ok_bind,
      hvalue, ok_bind, hcost, ok_bind]
    by_cases hres : LeavesResidue s p.qtyQ4 p.value
    · rw [refuseIf_of (by unfold LeavesResidue at hres; omega), if_pos hres]
      rfl
    · rw [refuseIf_of_not (by unfold LeavesResidue at hres; omega), if_neg hres]
      rfl

theorem reversalLineVerdict_receipt : reversalLineVerdict s p.qtyQ4 p.value =
    if s.onHand < p.qtyQ4 then .ok .insufficientStock
    else if LeavesResidue s p.qtyQ4 p.value then .ok .valuationResidue
    else ReversalLineVerdict.ok (-p.value) <$> applyMovement s (-p.qtyQ4) (-p.value) := by
  unfold reversalLineVerdict
  rw [refuseIf_of_not (by have := hp.qty.1; omega), ok_bind,
    refuseIf_of_not (by have := hp.value.1; omega), ok_bind]
  rfl

/-- **The verdict and the stock writer decide alike**, on every key state. -/
theorem simulate_reversal : simulateMovement s (reversalOf p) =
    reversalLineVerdict s p.qtyQ4 p.value >>= ReversalLineVerdict.simulated p.costC10 := by
  have hsign : ¬ ¬ (MOVEMENT_KIND_QTY_SIGN (reversalOf p).kind).allows (reversalOf p).qtyQ4 := by
    simpa [reversalOf, MOVEMENT_KIND_QTY_SIGN, QtySign.allows] using hp.qty.1
  have hrange : assertQuantityInRange (reversalOf p).qtyQ4 = .ok () :=
    assertQuantityInRange_eq_ok.mpr hp.abs_qty
  have hqty : (reversalOf p).qtyQ4 = -p.qtyQ4 := rfl
  unfold simulateMovement
  simp only []
  rw [hrange, ok_bind, refuseIf_of_not hsign, ok_bind, valueByClass_reversal s hp,
    purchaseReversalValue_receipt s hp, reversalLineVerdict_receipt s hp, hqty]
  split
  · rfl
  · split
    · rfl
    · rw [ok_bind]
      cases applyMovement s (-p.qtyQ4) (-p.value) <;> rfl

end Receipt

/-! ## 2. Runs -/

/-- A stored inbound movement that is still there. -/
structure StoredInbound where
  input : MovementInput
  value : ℤ
  unitCostSnapshot : Option ℤ
  deriving DecidableEq, Repr

/-- The stored movement as a reversal reads it. -/
def StoredInbound.receipt (x : StoredInbound) : PairedMovement :=
  ⟨x.value, x.unitCostSnapshot.getD 0, x.input.qtyQ4⟩

/-- The key, and the inbound movements that have not been reversed. -/
structure ReceiptRun where
  level : StockState
  kept : List StoredInbound

inductive ReceiptEvent
  | inbound (m : MovementInput)
  | reverse (i : ℕ)

/-- A stored `transfer_out` leg: a lawful key gave it out. -/
def TransferLeg (out : PairedMovement) : Prop :=
  ∃ (k : StockState) (m : MovementInput) (r : SimulatedMovement), k.Lawful ∧
    m.kind = .transferOut ∧ simulateMovement k m = .ok r ∧ r.value = out.value ∧
    r.unitCostSnapshot = some out.costC10 ∧ m.qtyQ4 = out.qtyQ4

/-- A request that adds to the key; a `transfer_in` copies a stored leg. -/
def MovementInput.Inbound (m : MovementInput) : Prop :=
  0 < m.qtyQ4 ∧ ∀ out, m.kind = .transferIn → m.pairedOut = some out → TransferLeg out

/-- One inbound movement, or the reversal of the receipt at a position. -/
inductive ReceiptStep : ReceiptRun → ReceiptEvent → ReceiptRun → Prop
  | inbound {s : ReceiptRun} {m : MovementInput} {r : SimulatedMovement} (hm : m.Inbound)
      (hok : simulateMovement s.level m = .ok r) :
      ReceiptStep s (.inbound m) ⟨r.next, s.kept ++ [⟨m, r.value, r.unitCostSnapshot⟩]⟩
  | reverse {s : ReceiptRun} {pre post : List StoredInbound} {x : StoredInbound}
      {r : SimulatedMovement} (hkept : s.kept = pre ++ x :: post)
      (hpurchase : x.input.kind = .purchase)
      (hok : simulateMovement s.level (reversalOf x.receipt) = .ok r) :
      ReceiptStep s (.reverse pre.length) ⟨r.next, pre ++ post⟩

/-! ## 3. What they keep -/

/-- An outbound transfer gives out a value. -/
theorem TransferLeg.value_nonpos {out : PairedMovement} (h : TransferLeg out) : out.value ≤ 0 := by
  obtain ⟨k, m, r, hk, hkind, hok, hv, _⟩ := h
  have hneg : m.qtyQ4 < 0 := by
    have hallow := (simulateMovement_eq_ok.mp hok).2.1
    simpa [hkind, MOVEMENT_KIND_QTY_SIGN, QtySign.allows] using hallow
  have hout : ∀ o, m.kind = .transferIn → m.pairedOut = some o → o.value ≤ 0 := by
    intro o ho
    rw [hkind] at ho
    cases ho
  have := ((simulateMovement_lawful hk (by rw [hkind]; decide) hout hok).2 hneg).1
  omega

/-- **The price of an inbound movement** depends on no level. -/
theorem valueByClass_inbound {m : MovementInput} (hq : 0 < m.qtyQ4)
    (hk : m.kind ≠ .purchaseReversal) (s s' : StockState) : valueByClass s m = valueByClass s' m := by
  unfold valueByClass
  simp only [hq.ne', hq.not_gt, hk, if_false]

theorem ne_reversal_of_allows {m : MovementInput} (hq : 0 < m.qtyQ4)
    (h : (MOVEMENT_KIND_QTY_SIGN m.kind).allows m.qtyQ4) : m.kind ≠ .purchaseReversal := by
  intro hk
  have hneg : m.qtyQ4 < 0 := by simpa [hk, MOVEMENT_KIND_QTY_SIGN, QtySign.allows] using h
  omega

/-- A stored inbound movement: a positive quantity, a value, and for a receipt its columns. -/
structure StoredInbound.Stored (x : StoredInbound) : Prop where
  qty_pos : 0 < x.input.qtyQ4
  priced : valueByClass EMPTY_STOCK_STATE x.input = .ok ⟨x.value, x.unitCostSnapshot⟩
  value_nonneg : 0 ≤ x.value
  receipt : x.input.kind = .purchase → x.receipt.Receipt

/-- A receipt snapshots a lawful cost. -/
theorem purchase_snapshot {s : StockState} {m : MovementInput} {r : PricedMovement}
    (hq : 0 < m.qtyQ4) (hk : m.kind = .purchase) (h : valueByClass s m = .ok r) :
    ∃ c, r.unitCostSnapshot = some c ∧ 0 ≤ c ∧ c < COST_LIMIT_C10 := by
  have h1 : m.kind ≠ .transferIn := by rw [hk]; decide
  have h2 : m.kind ≠ .purchaseReversal := by rw [hk]; decide
  simp only [valueByClass, hq.ne', hq.not_gt, h1, h2, if_false] at h
  cases hc : m.costC10 with
  | none => simp [hc] at h
  | some c =>
    simp only [hc, bind_eq_ok, assertCost_eq_ok, exists_const] at h
    obtain ⟨hcost, h⟩ := h
    cases hv : m.value with
    | some v =>
      simp only [hv, bind_eq_ok, refuseIf_eq_ok, exists_const, pure_eq_ok] at h
      obtain ⟨_, _, rfl⟩ := h
      exact ⟨c, rfl, hcost⟩
    | none =>
      simp only [hv, bind_eq_ok, pure_eq_ok] at h
      obtain ⟨_, _, rfl⟩ := h
      exact ⟨c, rfl, hcost⟩

/-- What an accepted inbound movement stores. -/
theorem inbound_stored {s : StockState} {m : MovementInput} {r : SimulatedMovement}
    (hm : m.Inbound) (hok : simulateMovement s m = .ok r) :
    StoredInbound.Stored ⟨m, r.value, r.unitCostSnapshot⟩ := by
  obtain ⟨hq, hallow, p, hp, t, ht, rfl⟩ := simulateMovement_eq_ok.mp hok
  have hpos := hm.1
  have hk := ne_reversal_of_allows hpos hallow
  have hvalue : 0 ≤ p.value := by
    rcases valueByClass_cases hpos.ne' hp with ⟨out, hkind, hpair, _, rfl⟩ | ⟨hrev, _⟩ |
        ⟨_, hneg, _⟩ | ⟨_, _, hv⟩
    · have := (hm.2 out hkind hpair).value_nonpos
      show 0 ≤ -out.value
      omega
    · exact absurd hrev hk
    · omega
    · exact hv
  refine ⟨hpos, (valueByClass_inbound hpos hk _ _).trans hp, hvalue, fun hpurchase => ?_⟩
  obtain ⟨c, hc, hcost⟩ := purchase_snapshot hpos hpurchase hp
  have hcap := (applyMovement_eq_ok.mp ht).2.2.1
  refine ⟨⟨hpos, (abs_lt.mp hq).2⟩, ⟨hvalue, (abs_le.mp hcap).2⟩, ?_⟩
  rw [StoredInbound.receipt, show p.unitCostSnapshot = some c from hc]
  exact hcost

/-- The quantity and the value of what is there. -/
def keptQty (kept : List StoredInbound) : ℤ := (kept.map (·.input.qtyQ4)).sum

def keptValue (kept : List StoredInbound) : ℤ := (kept.map (·.value)).sum

theorem kept_nonneg {kept : List StoredInbound} (h : ∀ x ∈ kept, x.Stored) :
    0 ≤ keptQty kept ∧ 0 ≤ keptValue kept ∧ (keptQty kept = 0 → keptValue kept = 0) := by
  induction kept with
  | nil => exact ⟨le_rfl, le_rfl, fun _ => rfl⟩
  | cons x kept ih =>
    rw [List.forall_mem_cons] at h
    obtain ⟨hq, hv, _⟩ := ih h.2
    have hx := h.1.qty_pos
    have hxv := h.1.value_nonneg
    have hqty : keptQty (x :: kept) = x.input.qtyQ4 + keptQty kept := List.sum_cons
    have hval : keptValue (x :: kept) = x.value + keptValue kept := List.sum_cons
    omega

theorem kept_middle (pre post : List StoredInbound) (x : StoredInbound) :
    keptQty (pre ++ x :: post) = keptQty (pre ++ post) + x.input.qtyQ4 ∧
      keptValue (pre ++ x :: post) = keptValue (pre ++ post) + x.value := by
  unfold keptQty keptValue
  simp only [List.map_append, List.map_cons, List.sum_append, List.sum_cons]
  exact ⟨by ring, by ring⟩

/-- A key a run may start from. -/
structure StockState.Sound (s : StockState) : Prop where
  onHand_nonneg : 0 ≤ s.onHand
  valuation_nonneg : 0 ≤ s.valuation
  empty_worthless : s.onHand = 0 → s.valuation = 0

/-- **The key is what it was and what is there**, within the bounds once anything has come. -/
structure ReceiptRun.Exact (s₀ : StockState) (s : ReceiptRun) : Prop where
  onHand : s.level.onHand = s₀.onHand + keptQty s.kept
  valuation : s.level.valuation = s₀.valuation + keptValue s.kept
  stored : ∀ x ∈ s.kept, x.Stored
  range : s.kept ≠ [] → |s.level.onHand| < QTY_LIMIT_Q4 ∧ |s.level.valuation| ≤ VALUE_LIMIT_MINOR

/-- Where an accepted movement takes the key. -/
theorem simulateMovement_next {s : StockState} {m : MovementInput} {r : SimulatedMovement}
    (h : simulateMovement s m = .ok r) :
    (r.next.onHand = s.onHand + m.qtyQ4 ∧ r.next.valuation = s.valuation + r.value) ∧
      |r.next.onHand| < QTY_LIMIT_Q4 ∧ |r.next.valuation| ≤ VALUE_LIMIT_MINOR := by
  obtain ⟨_, _, p, _, t, ht, rfl⟩ := simulateMovement_eq_ok.mp h
  obtain ⟨_, _, _, hval, hon, _, rfl⟩ := applyMovement_eq_ok.mp ht
  exact ⟨⟨rfl, rfl⟩, hon, hval⟩

/-- An accepted reversal takes out the value of its receipt. -/
theorem reversal_value {s : StockState} {p : PairedMovement} (hp : p.Receipt)
    {r : SimulatedMovement} (h : simulateMovement s (reversalOf p) = .ok r) : r.value = -p.value := by
  obtain ⟨_, _, v, hv, _, _, rfl⟩ := simulateMovement_eq_ok.mp h
  rw [valueByClass_reversal s hp, purchaseReversalValue_eq_ok] at hv
  obtain ⟨_, _, _, q, hq, _, _, _, _, _, rfl⟩ := hv
  obtain rfl := Option.some.inj hq
  rfl

theorem receiptStep_exact {s₀ : StockState} {s s' : ReceiptRun} {e : ReceiptEvent}
    (hs : s.Exact s₀) (h : ReceiptStep s e s') : s'.Exact s₀ := by
  have hon := hs.onHand
  have hval := hs.valuation
  cases h with
  | inbound hm hok =>
    rename_i m r
    obtain ⟨⟨hon', hval'⟩, hrange⟩ := simulateMovement_next hok
    have hstored := inbound_stored hm hok
    obtain ⟨hq, hv⟩ := kept_middle s.kept [] ⟨m, r.value, r.unitCostSnapshot⟩
    rw [List.append_nil] at hq hv
    dsimp only at hq hv
    refine ⟨?_, ?_, List.forall_mem_append.mpr ⟨hs.stored, List.forall_mem_singleton.mpr hstored⟩,
      fun _ => hrange⟩
    · show r.next.onHand = s₀.onHand + keptQty (s.kept ++ [_])
      omega
    · show r.next.valuation = s₀.valuation + keptValue (s.kept ++ [_])
      omega
  | reverse hkept hpurchase hok =>
    rename_i pre post x r
    have hx := hs.stored x (hkept ▸ List.mem_append_right pre List.mem_cons_self)
    obtain ⟨⟨hon', hval'⟩, hrange⟩ := simulateMovement_next hok
    have hvalue := reversal_value (hx.receipt hpurchase) hok
    obtain ⟨hq, hv⟩ := kept_middle pre post x
    rw [hkept] at hon hval
    have hqty : (reversalOf x.receipt).qtyQ4 = -x.input.qtyQ4 := rfl
    have hxv : x.receipt.value = x.value := rfl
    refine ⟨?_, ?_, fun y hy => hs.stored y ?_, fun _ => hrange⟩
    · show r.next.onHand = s₀.onHand + keptQty (pre ++ post)
      omega
    · show r.next.valuation = s₀.valuation + keptValue (pre ++ post)
      omega
    · rw [hkept]
      rcases List.mem_append.mp hy with hy | hy
      · exact List.mem_append_left _ hy
      · exact List.mem_append_right _ (List.mem_cons_of_mem _ hy)

theorem receiptRun_exact {s₀ : StockState} {s : ReceiptRun} {es : List ReceiptEvent}
    (h : Run ReceiptStep ⟨s₀, []⟩ es s) : s.Exact s₀ := by
  have hstart : ReceiptRun.Exact s₀ ⟨s₀, []⟩ := by
    refine ⟨?_, ?_, fun _ hx => absurd hx List.not_mem_nil, fun hne => absurd rfl hne⟩
    · show s₀.onHand = s₀.onHand + 0
      rw [add_zero]
    · show s₀.valuation = s₀.valuation + 0
      rw [add_zero]
  exact h.invariant (fun _ _ _ hs hstep => receiptStep_exact hs hstep) hstart

/-! ## 4. Undoing receipts -/

def averageOutOfRange : InventoryError :=
  ⟨.inventoryValueOutOfRange, "the resulting average cost is out of range"⟩

/-- A movement between sums in range is refused for its average alone. -/
theorem applyMovement_or_average {s : StockState} {q v : ℤ} (hne : ¬ (q = 0 ∧ v = 0))
    (hq : |q| < QTY_LIMIT_Q4) (hv : |v| ≤ VALUE_LIMIT_MINOR)
    (hval : |s.valuation + v| ≤ VALUE_LIMIT_MINOR) (hon : |s.onHand + q| < QTY_LIMIT_Q4) :
    (∃ t, applyMovement s q v = .ok t) ∨ applyMovement s q v = .error averageOutOfRange := by
  unfold applyMovement
  simp only []
  rw [refuseIf_of_not hne, ok_bind, assertQuantityInRange_eq_ok (u := ()) |>.mpr hq, ok_bind,
    assertValueInRange_eq_ok (u := ()) |>.mpr hv, ok_bind,
    assertValueInRange_eq_ok (u := ()) |>.mpr hval, ok_bind,
    assertQuantityInRange_eq_ok (u := ()) |>.mpr hon, ok_bind, averageUnitCost_eq, ok_bind]
  by_cases havg : (derivedAverage (s.valuation + v) (s.onHand + q) s.avg).any (|·| ≥ COST_LIMIT_C10)
  · rw [refuseIf_of havg]
    exact .inr rfl
  · rw [refuseIf_of_not havg]
    exact .inl ⟨_, rfl⟩

/-- **A reversal of what is there** is refused only for its average, by both alike. -/
theorem reversal_or_average {s₀ : StockState} (h₀ : s₀.Sound) {s : ReceiptRun} (hs : s.Exact s₀)
    {x : StoredInbound} (hx : x ∈ s.kept) (hpurchase : x.input.kind = .purchase) :
    (∃ r, simulateMovement s.level (reversalOf x.receipt) = .ok r ∧
      reversalLineVerdict s.level x.receipt.qtyQ4 x.receipt.value = .ok (.ok r.value r.next)) ∨
    (simulateMovement s.level (reversalOf x.receipt) = .error averageOutOfRange ∧
      reversalLineVerdict s.level x.receipt.qtyQ4 x.receipt.value = .error averageOutOfRange) := by
  obtain ⟨pre, post, hkept⟩ := List.append_of_mem hx
  have hp := (hs.stored x hx).receipt hpurchase
  have hrest : ∀ y ∈ pre ++ post, y.Stored := by
    intro y hy
    refine hs.stored y (hkept ▸ ?_)
    rcases List.mem_append.mp hy with hy | hy
    · exact List.mem_append_left _ hy
    · exact List.mem_append_right _ (List.mem_cons_of_mem _ hy)
  obtain ⟨hq0, hv0, hzero⟩ := kept_nonneg hrest
  obtain ⟨hq, hv⟩ := kept_middle pre post x
  have hon := hs.onHand
  have hval := hs.valuation
  rw [hkept] at hon hval
  obtain ⟨honr, hvalr⟩ := hs.range (List.ne_nil_of_mem hx)
  have hxq : x.receipt.qtyQ4 = x.input.qtyQ4 := rfl
  have hxv : x.receipt.value = x.value := rfl
  have h1 := h₀.onHand_nonneg
  have h2 := h₀.valuation_nonneg
  have h3 := h₀.empty_worthless
  have hpq := hp.qty
  have hpv := hp.value
  have hstock : ¬ s.level.onHand < x.receipt.qtyQ4 := by omega
  have hres : ¬ LeavesResidue s.level x.receipt.qtyQ4 x.receipt.value := by
    unfold LeavesResidue
    omega
  have hrange := abs_lt.mp honr
  have hvrange := abs_le.mp hvalr
  have happly := applyMovement_or_average (s := s.level) (q := -x.receipt.qtyQ4)
    (v := -x.receipt.value) (by omega) hp.abs_qty (abs_le.mpr ⟨by omega, by omega⟩)
    (abs_le.mpr ⟨by omega, by omega⟩) (abs_lt.mpr ⟨by omega, by omega⟩)
  rw [simulate_reversal s.level hp, reversalLineVerdict_receipt s.level hp, if_neg hstock,
    if_neg hres]
  rcases happly with ⟨t, ht⟩ | herr
  · rw [ht]
    exact .inl ⟨_, rfl, rfl⟩
  · rw [herr]
    exact .inr ⟨rfl, rfl⟩

/-- The value an inbound request stores, wherever it is stored. -/
def inboundAmount (m : MovementInput) : ℤ :=
  resultD ((·.value) <$> valueByClass EMPTY_STOCK_STATE m) 0

/-- What is there adds up over its requests alone. -/
theorem kept_inputs {kept : List StoredInbound} (h : ∀ x ∈ kept, x.Stored) :
    keptQty kept = ((kept.map (·.input)).map (·.qtyQ4)).sum ∧
      keptValue kept = ((kept.map (·.input)).map inboundAmount).sum := by
  rw [List.map_map, List.map_map]
  refine ⟨rfl, congrArg List.sum (List.map_congr_left fun x hx => ?_)⟩
  rw [Function.comp_apply, inboundAmount, (h x hx).priced]
  rfl

/-- **Two runs that leave the same requests there** leave the key alike. -/
theorem kept_perm {s₀ : StockState} {s s' : ReceiptRun} (hs : s.Exact s₀) (hs' : s'.Exact s₀)
    (hperm : (s.kept.map (·.input)).Perm (s'.kept.map (·.input))) :
    s.level.onHand = s'.level.onHand ∧ s.level.valuation = s'.level.valuation := by
  obtain ⟨hq, hv⟩ := kept_inputs hs.stored
  obtain ⟨hq', hv'⟩ := kept_inputs hs'.stored
  have hqty := (hperm.map (·.qtyQ4)).sum_eq
  have hval := (hperm.map inboundAmount).sum_eq
  rw [hs.onHand, hs'.onHand, hs.valuation, hs'.valuation, hq, hq', hv, hv', hqty, hval]
  exact ⟨rfl, rfl⟩

/-- A run of inbound movements leaves all of them there. -/
theorem inbound_kept {ms : List MovementInput} {s s' : ReceiptRun}
    (h : Run ReceiptStep s (ms.map .inbound) s') :
    s'.kept.map (·.input) = s.kept.map (·.input) ++ ms := by
  induction ms generalizing s with
  | nil =>
    obtain rfl := Run.nil_iff.mp h
    exact (List.append_nil _).symm
  | cons m ms ih =>
    obtain ⟨t, hstep, hrun⟩ := Run.cons_iff.mp h
    rw [ih hrun]
    cases hstep with
    | inbound hm hok => simp

/-- **Reversing receipts undoes them, in any order.** -/
theorem reversals_undo :
    (∀ (s₀ : StockState) (es : List ReceiptEvent) (s : ReceiptRun), s₀.Sound →
      Run ReceiptStep ⟨s₀, []⟩ es s →
      -- The reversal of any receipt that is there passes, or its average leaves the range.
      (∀ x ∈ s.kept, x.input.kind = .purchase →
        (∃ r, simulateMovement s.level (reversalOf x.receipt) = .ok r ∧
          reversalLineVerdict s.level x.receipt.qtyQ4 x.receipt.value = .ok (.ok r.value r.next)) ∨
        (simulateMovement s.level (reversalOf x.receipt) = .error averageOutOfRange ∧
          reversalLineVerdict s.level x.receipt.qtyQ4 x.receipt.value =
            .error averageOutOfRange)) ∧
      -- The key is what the other movements alone make of it.
      (s.level.onHand = s₀.onHand + keptQty s.kept ∧
        s.level.valuation = s₀.valuation + keptValue s.kept) ∧
      (∀ s', Run ReceiptStep ⟨s₀, []⟩ (s.kept.map fun x => .inbound x.input) s' →
        s.level.onHand = s'.level.onHand ∧ s.level.valuation = s'.level.valuation) ∧
      -- The order of the events does not count.
      (∀ es' s', Run ReceiptStep ⟨s₀, []⟩ es' s' →
        (s.kept.map (·.input)).Perm (s'.kept.map (·.input)) →
        s.level.onHand = s'.level.onHand ∧ s.level.valuation = s'.level.valuation)) ∧
    (∀ (s : StockState) (p : PairedMovement), p.Receipt →
      simulateMovement s (reversalOf p) =
        reversalLineVerdict s p.qtyQ4 p.value >>= ReversalLineVerdict.simulated p.costC10) := by
  refine ⟨fun s₀ es s h₀ hrun => ?_, fun s p hp => simulate_reversal s hp⟩
  have hs := receiptRun_exact hrun
  refine ⟨fun x hx hk => reversal_or_average h₀ hs hx hk, ⟨hs.onHand, hs.valuation⟩, ?_, ?_⟩
  · intro s' hrun'
    refine kept_perm hs (receiptRun_exact hrun') ?_
    have hinputs : Run ReceiptStep ⟨s₀, []⟩ ((s.kept.map (·.input)).map .inbound) s' := by
      rw [List.map_map]
      exact hrun'
    rw [inbound_kept hinputs]
    exact List.Perm.refl _
  · intro es' s' hrun' hperm
    exact kept_perm hs (receiptRun_exact hrun') hperm

/-- A unit found in a stocktake after a receipt of three. -/
def sampleFound : MovementInput := ⟨.stocktake, 10000, some 20000000000, none, none, none⟩

def sampleReceived : StoredInbound := ⟨sampleReceipt, 10, some 33333333333⟩

def sampleCounted : StoredInbound := ⟨sampleFound, 2, some 20000000000⟩

theorem sampleReceipts_inbound : sampleReceipt.Inbound ∧ sampleFound.Inbound :=
  ⟨⟨by decide, fun _ hk => absurd hk (by decide)⟩, by decide, fun _ hk => absurd hk (by decide)⟩

/-- The key after both. -/
def sampleInboundKey : StockState := ⟨40000, 12, some 30000000000, 2⟩

theorem sampleInbound_run : Run ReceiptStep ⟨EMPTY_STOCK_STATE, []⟩
    [.inbound sampleReceipt, .inbound sampleFound]
    ⟨sampleInboundKey, [sampleReceived, sampleCounted]⟩ :=
  .cons (.inbound (r := ⟨10, some 33333333333, ⟨30000, 10, some 33333333333, 1⟩⟩)
      sampleReceipts_inbound.1 (by decide))
    (.single (.inbound (r := ⟨2, some 20000000000, sampleInboundKey⟩) sampleReceipts_inbound.2
      (by decide)))

theorem sampleReversal_run : Run ReceiptStep ⟨EMPTY_STOCK_STATE, []⟩
    [.inbound sampleReceipt, .inbound sampleFound, .reverse 0]
    ⟨⟨10000, 2, some 20000000000, 3⟩, [sampleCounted]⟩ := by
  have hreverse := @ReceiptStep.reverse ⟨sampleInboundKey, [sampleReceived, sampleCounted]⟩ []
    [sampleCounted] sampleReceived ⟨-10, some 33333333333, ⟨10000, 2, some 20000000000, 3⟩⟩ rfl rfl
    (by decide)
  exact sampleInbound_run.trans (.single hreverse)

/-- The receipt can be reversed; what then is left is what the stocktake alone leaves, and every
    other run that keeps it alone; and the verdict is what the simulator says. -/
theorem reversals_undo_sample :
    (∃ r, simulateMovement sampleInboundKey (reversalOf sampleReceived.receipt) = .ok r ∧
        reversalLineVerdict sampleInboundKey 30000 10 = .ok (.ok r.value r.next)) ∧
      ((10000 : ℤ) = 0 + keptQty [sampleCounted] ∧ (2 : ℤ) = 0 + keptValue [sampleCounted]) ∧
      (∀ s', Run ReceiptStep ⟨EMPTY_STOCK_STATE, []⟩ [.inbound sampleFound] s' →
        10000 = s'.level.onHand ∧ 2 = s'.level.valuation) ∧
      (∀ es' s', Run ReceiptStep ⟨EMPTY_STOCK_STATE, []⟩ es' s' →
        [sampleFound].Perm (s'.kept.map (·.input)) →
        10000 = s'.level.onHand ∧ 2 = s'.level.valuation) ∧
      simulateMovement sampleInboundKey (reversalOf sampleReceived.receipt) =
        reversalLineVerdict sampleInboundKey 30000 10 >>=
          ReversalLineVerdict.simulated 33333333333 := by
  obtain ⟨hundo, htwin⟩ := reversals_undo
  have hempty : EMPTY_STOCK_STATE.Sound := ⟨le_rfl, le_rfl, fun _ => rfl⟩
  obtain ⟨hpasses, _⟩ := hundo EMPTY_STOCK_STATE _ _ hempty sampleInbound_run
  obtain ⟨_, htotals, halone, horder⟩ := hundo EMPTY_STOCK_STATE _ _ hempty sampleReversal_run
  have hpass := (hpasses sampleReceived List.mem_cons_self rfl).resolve_right fun h =>
    absurd h.1 (by decide)
  exact ⟨hpass, htotals, halone, horder,
    htwin sampleInboundKey sampleReceived.receipt ⟨by decide, by decide, by decide⟩⟩

end Daftar.Inventory
