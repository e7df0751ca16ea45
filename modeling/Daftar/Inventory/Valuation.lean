/-
  File: Daftar/Inventory/Valuation.lean
  Subject: Moving-weighted-average valuation of one stock key, one stored movement at a time.

  * `StockState` is a key's cached level; `simulateMovement` takes one request through its sign
    rule, its value by class (`valueByClass`) and the bounds of `applyMovement`.
  * One inversion lemma a function says everything an acceptance means: `outboundValue_eq_ok`,
    `purchaseReversalValue_eq_ok`, `applyMovement_eq_ok`, and over them `simulateMovement_cases`.
-/

import Daftar.Inventory.Rounding

namespace Daftar.Inventory

open Fallible
open Rounding

/-! ## 1. Data -/

inductive MovementKind
  | purchase
  | supplierReturn
  | adjustment
  | damage
  | transferOut
  | transferIn
  | stocktake
  | inventoryOpening
  | negativeInventoryCostAdjustment
  | purchaseReversal
  deriving DecidableEq, Repr

inductive QtySign
  | positive
  | negative
  | either
  | zero
  deriving DecidableEq, Repr

/-- The quantity sign of each kind. -/
def MOVEMENT_KIND_QTY_SIGN : MovementKind → QtySign
  | .purchase => .positive
  | .supplierReturn => .negative
  | .adjustment => .either
  | .damage => .negative
  | .transferOut => .negative
  | .transferIn => .positive
  | .stocktake => .either
  | .inventoryOpening => .positive
  | .negativeInventoryCostAdjustment => .zero
  | .purchaseReversal => .negative

/-- Whether a quantity has the sign its kind asks for. -/
def QtySign.allows (q : ℤ) : QtySign → Bool
  | .positive => q > 0
  | .negative => q < 0
  | .either => q ≠ 0
  | .zero => q = 0

/-- A key's cached level: quantity in Q4, valuation in minor units, average in C10. -/
structure StockState where
  onHand : ℤ
  valuation : ℤ
  avg : Option ℤ
  lastStockSeq : ℤ
  deriving DecidableEq, Repr

def EMPTY_STOCK_STATE : StockState := ⟨0, 0, none, 0⟩

/-- A stored movement another one is paired with: a `transfer_out` leg or a `purchase` receipt. -/
structure PairedMovement where
  value : ℤ
  costC10 : ℤ
  qtyQ4 : ℤ
  deriving DecidableEq, Repr

/-- One request to the stock writer. -/
structure MovementInput where
  kind : MovementKind
  qtyQ4 : ℤ
  costC10 : Option ℤ
  value : Option ℤ
  pairedOut : Option PairedMovement
  pairedPurchase : Option PairedMovement
  deriving DecidableEq, Repr

/-- The value a movement stores and the unit cost it snapshots. -/
structure PricedMovement where
  value : ℤ
  unitCostSnapshot : Option ℤ
  deriving DecidableEq, Repr

structure SimulatedMovement where
  value : ℤ
  unitCostSnapshot : Option ℤ
  next : StockState
  deriving DecidableEq, Repr

/-! ## 2. Guards -/

def shapeInvalid (message : String) : InventoryError := ⟨.inventoryMovementShapeInvalid, message⟩

def assertCost (costC10 : ℤ) : Result Unit :=
  refuseIf (costC10 < 0 ∨ costC10 ≥ COST_LIMIT_C10)
    ⟨.inventoryCostInvalid, "unit cost is negative or out of range"⟩

def assertQuantityInRange (q4 : ℤ) : Result Unit :=
  refuseIf (|q4| ≥ QTY_LIMIT_Q4) ⟨.inventoryQuantityOutOfRange, "quantity is out of range"⟩

def assertValueInRange (value : ℤ) : Result Unit :=
  refuseIf (|value| > VALUE_LIMIT_MINOR) ⟨.inventoryValueOutOfRange, "value is out of range"⟩

/-! ## 3. Values by class -/

/-- The derived average, or the carried one at zero quantity. -/
def averageUnitCost (valuation onHandQ4 : ℤ) (carried : Option ℤ) : Result (Option ℤ) :=
  if onHandQ4 ≠ 0 then some <$> roundHalfEven (valuation * Q4_TIMES_C10) onHandQ4
  else .ok carried

/-- An inbound movement with no supplied share: the quantity at the cost, rounded once. -/
def inboundValue (qtyQ4 costC10 : ℤ) : Result ℤ := do
  refuseIf (qtyQ4 ≤ 0) (shapeInvalid "an inbound quantity must be positive")
  assertQuantityInRange qtyQ4
  assertCost costC10
  roundHalfEven (qtyQ4 * costC10) Q4_TIMES_C10

/-- An outbound movement priced at the current average; exactly on hand takes the whole value. -/
def outboundValue (state : StockState) (qtyQ4 : ℤ) : Result PricedMovement := do
  refuseIf (qtyQ4 ≥ 0) (shapeInvalid "an outbound quantity must be negative")
  assertQuantityInRange qtyQ4
  let taken := -qtyQ4
  refuseIf (taken > state.onHand)
    ⟨.inventoryInsufficientStock, "outbound quantity exceeds the quantity on hand"⟩
  match state.avg with
  | none =>
    refuse .inventoryArithmeticInvalid "no usable average to price an outbound movement"
  | some avg =>
    refuseIf (avg < 0)
      ⟨.inventoryArithmeticInvalid, "no usable average to price an outbound movement"⟩
    if taken = state.onHand then pure ⟨-state.valuation, some avg⟩
    else
      let value ← roundHalfEven (taken * avg) Q4_TIMES_C10
      pure ⟨-value, some avg⟩

/-- A `transfer_in` copies the negated value of its `transfer_out`. -/
def transferInValue (transferOutValue : ℤ) : ℤ := -transferOutValue

/-- A `purchase_reversal` removes exactly what its receipt added, in the source's check order. -/
def purchaseReversalValue (state : StockState) (qtyQ4 : ℤ) (paired : Option PairedMovement) :
    Result PricedMovement := do
  refuseIf (qtyQ4 ≥ 0) (shapeInvalid "a purchase reversal quantity must be negative")
  assertQuantityInRange qtyQ4
  refuseIf (-qtyQ4 > state.onHand)
    ⟨.inventoryInsufficientStock, "outbound quantity exceeds the quantity on hand"⟩
  match paired with
  | none => .error (shapeInvalid "a purchase_reversal needs the purchase movement of the same line")
  | some paired =>
    refuseIf (paired.qtyQ4 ≠ -qtyQ4)
      (shapeInvalid "a reversal removes exactly the quantity its purchase movement added")
    refuseIf (paired.value < 0) (shapeInvalid "a purchase movement value is never negative")
    assertValueInRange paired.value
    assertCost paired.costC10
    let value := -paired.value
    let onHandAfter := state.onHand + qtyQ4
    let valuationAfter := state.valuation + value
    refuseIf ((onHandAfter = 0 ∧ valuationAfter ≠ 0) ∨ (onHandAfter > 0 ∧ valuationAfter < 0))
      ⟨.inventoryArithmeticInvalid,
        "removing the receipt value would leave an unlawful key valuation"⟩
    pure ⟨value, some paired.costC10⟩

/-- The catch-up value of one coverage; an actual cost above the provisional one takes value out. -/
def catchUpValue (qtyCoveredQ4 actualC10 provisionalC10 : ℤ) : Result ℤ := do
  refuseIf (qtyCoveredQ4 ≤ 0) (shapeInvalid "a covered quantity must be positive")
  assertQuantityInRange qtyCoveredQ4
  assertCost actualC10
  assertCost provisionalC10
  let value ← roundHalfEven (qtyCoveredQ4 * (actualC10 - provisionalC10)) Q4_TIMES_C10
  pure (-value)

/-! ## 4. One stored movement -/

/-- Adds one stored movement to a key, within the bounds. -/
def applyMovement (state : StockState) (qtyQ4 value : ℤ) : Result StockState := do
  refuseIf (qtyQ4 = 0 ∧ value = 0) (shapeInvalid "a movement must change quantity or value")
  assertQuantityInRange qtyQ4
  assertValueInRange value
  let onHand := state.onHand + qtyQ4
  let valuation := state.valuation + value
  assertValueInRange valuation
  assertQuantityInRange onHand
  let avg ← averageUnitCost valuation onHand state.avg
  refuseIf (avg.any (|·| ≥ COST_LIMIT_C10))
    ⟨.inventoryValueOutOfRange, "the resulting average cost is out of range"⟩
  pure ⟨onHand, valuation, avg, state.lastStockSeq + 1⟩

/-- The value and the snapshot of a request whose sign is lawful, by its class. -/
def valueByClass (state : StockState) (m : MovementInput) : Result PricedMovement :=
  let q := m.qtyQ4
  if q = 0 then
    match m.costC10, m.value with
    | none, some value => do
      refuseIf (value = 0) (shapeInvalid "a value-only movement needs a value and no cost")
      pure ⟨value, none⟩
    | _, _ => .error (shapeInvalid "a value-only movement needs a value and no cost")
  else if m.kind = .transferIn then do
    refuseIf (m.costC10 ≠ none ∨ m.value ≠ none)
      (shapeInvalid "a transfer_in carries no cost or value of its own")
    match m.pairedOut with
    | none => .error (shapeInvalid "a transfer_in needs its paired transfer_out")
    | some out =>
      refuseIf (out.qtyQ4 ≠ -q)
        ⟨.inventoryTransferPairMismatch, "transfer legs do not carry opposite quantities"⟩
      pure ⟨transferInValue out.value, some out.costC10⟩
  else if m.kind = .purchaseReversal then do
    refuseIf (m.costC10 ≠ none ∨ m.value ≠ none) (shapeInvalid
      "a purchase_reversal movement takes its cost and value from its purchase movement")
    purchaseReversalValue state q m.pairedPurchase
  else if q < 0 then do
    refuseIf (m.costC10 ≠ none ∨ m.value ≠ none)
      (shapeInvalid "an outbound movement is priced at the average")
    outboundValue state q
  else
    match m.costC10 with
    | none => .error (shapeInvalid "an inbound movement needs a unit cost")
    | some cost => do
      assertCost cost
      match m.value with
      | some value =>
        refuseIf (m.kind ≠ .purchase ∧ m.kind ≠ .inventoryOpening)
          (shapeInvalid "only a priced document supplies a value")
        refuseIf (value < 0) (shapeInvalid "a supplied inbound value must not be negative")
        pure ⟨value, some cost⟩
      | none =>
        let value ← inboundValue q cost
        pure ⟨value, some cost⟩

/-- One request through the sign rule, the value by class, the bounds and the next state. -/
def simulateMovement (state : StockState) (m : MovementInput) : Result SimulatedMovement := do
  let q := m.qtyQ4
  assertQuantityInRange q
  refuseIf (¬ (MOVEMENT_KIND_QTY_SIGN m.kind).allows q)
    (shapeInvalid "quantity sign is not allowed for this movement kind")
  let priced ← valueByClass state m
  let next ← applyMovement state q priced.value
  pure ⟨priced.value, priced.unitCostSnapshot, next⟩

/-! ## 5. What an acceptance means -/

@[simp] theorem assertCost_eq_ok {c : ℤ} {u : Unit} :
    assertCost c = .ok u ↔ 0 ≤ c ∧ c < COST_LIMIT_C10 := by
  simp [assertCost]

@[simp] theorem assertQuantityInRange_eq_ok {q : ℤ} {u : Unit} :
    assertQuantityInRange q = .ok u ↔ |q| < QTY_LIMIT_Q4 := by
  simp [assertQuantityInRange]

@[simp] theorem assertValueInRange_eq_ok {v : ℤ} {u : Unit} :
    assertValueInRange v = .ok u ↔ |v| ≤ VALUE_LIMIT_MINOR := by
  simp [assertValueInRange]

theorem scale_pos : 0 < Q4_TIMES_C10 := by decide

/-- The average as a plain function: the rounded quotient, or the carried average at zero. -/
def derivedAverage (valuation onHandQ4 : ℤ) (carried : Option ℤ) : Option ℤ :=
  if onHandQ4 = 0 then carried else some (nearestEven (valuation * Q4_TIMES_C10) onHandQ4)

@[simp] theorem derivedAverage_zero (v : ℤ) (c : Option ℤ) : derivedAverage v 0 c = c := rfl

theorem derivedAverage_of_ne {q : ℤ} (v : ℤ) (c : Option ℤ) (hq : q ≠ 0) :
    derivedAverage v q c = some (nearestEven (v * Q4_TIMES_C10) q) := if_neg hq

@[simp] theorem averageUnitCost_eq (v q : ℤ) (c : Option ℤ) :
    averageUnitCost v q c = .ok (derivedAverage v q c) := by
  unfold averageUnitCost derivedAverage
  by_cases hq : q = 0
  · simp [hq]
  · rw [if_pos hq, if_neg hq, roundHalfEven_eq_ok hq]
    rfl

theorem inboundValue_eq_ok {q c v : ℤ} :
    inboundValue q c = .ok v ↔ 0 < q ∧ |q| < QTY_LIMIT_Q4 ∧ (0 ≤ c ∧ c < COST_LIMIT_C10) ∧
      nearestEven (q * c) Q4_TIMES_C10 = v := by
  simp only [inboundValue, bind_eq_ok, refuseIf_eq_ok, exists_const, assertQuantityInRange_eq_ok,
    assertCost_eq_ok, roundHalfEven_pos scale_pos, Except.ok.injEq, not_le]

/-- What an outbound movement at an average stores: the whole value at the flush, else the rounded
    price of what is taken. -/
def outboundAmount (state : StockState) (taken avg : ℤ) : ℤ :=
  if taken = state.onHand then state.valuation else nearestEven (taken * avg) Q4_TIMES_C10

theorem outboundValue_eq_ok {s : StockState} {q : ℤ} {r : PricedMovement} :
    outboundValue s q = .ok r ↔ q < 0 ∧ |q| < QTY_LIMIT_Q4 ∧ -q ≤ s.onHand ∧
      ∃ a, s.avg = some a ∧ 0 ≤ a ∧ ⟨-outboundAmount s (-q) a, some a⟩ = r := by
  unfold outboundValue outboundAmount
  simp only [bind_eq_ok, refuseIf_eq_ok, exists_const, assertQuantityInRange_eq_ok, ge_iff_le,
    gt_iff_lt, not_le, not_lt]
  cases s.avg with
  | none => simp [refuse]
  | some a =>
    by_cases hflush : -q = s.onHand
    · simp [hflush, map_eq_ok]
    · simp [hflush, bind_eq_ok, roundHalfEven_pos scale_pos]

/-- The refusal for want of an average needs a key without a usable one. -/
theorem outboundValue_arithmetic_invalid {s : StockState} {q : ℤ} {e : InventoryError}
    (h : outboundValue s q = .error e) (hcode : e.code = .inventoryArithmeticInvalid) :
    ∀ a, s.avg = some a → a < 0 := by
  intro a ha
  by_contra hneg
  unfold outboundValue at h
  simp only [bind_eq_error, refuseIf_eq_error, refuseIf_eq_ok, exists_const, assertQuantityInRange,
    ha, hneg, roundHalfEven_pos scale_pos, false_and, false_or] at h
  rcases h with ⟨_, rfl⟩ | ⟨_, ⟨_, rfl⟩ | ⟨_, ⟨_, rfl⟩ | ⟨_, _, h⟩⟩⟩
  · exact absurd hcode (by decide)
  · exact absurd hcode (by decide)
  · exact absurd hcode (by decide)
  · split at h
    · simp [pure, Except.pure] at h
    · simp [pure, Except.pure] at h

theorem purchaseReversalValue_eq_ok {s : StockState} {q : ℤ} {paired : Option PairedMovement}
    {r : PricedMovement} :
    purchaseReversalValue s q paired = .ok r ↔ q < 0 ∧ |q| < QTY_LIMIT_Q4 ∧ -q ≤ s.onHand ∧
      ∃ p, paired = some p ∧ p.qtyQ4 = -q ∧ 0 ≤ p.value ∧ |p.value| ≤ VALUE_LIMIT_MINOR ∧
        (0 ≤ p.costC10 ∧ p.costC10 < COST_LIMIT_C10) ∧
        ((s.onHand + q = 0 → s.valuation + -p.value = 0) ∧
          (0 < s.onHand + q → 0 ≤ s.valuation + -p.value)) ∧ ⟨-p.value, some p.costC10⟩ = r := by
  unfold purchaseReversalValue
  cases paired with
  | none => simp [bind_eq_ok]
  | some p =>
    simp only [bind_eq_ok, refuseIf_eq_ok, exists_const, assertQuantityInRange_eq_ok,
      assertValueInRange_eq_ok, assertCost_eq_ok, pure_eq_ok, ge_iff_le, gt_iff_lt, ne_eq, not_or,
      not_and, not_not, not_lt, not_le, Option.some.injEq, exists_eq_left']

theorem applyMovement_eq_ok {s t : StockState} {q v : ℤ} :
    applyMovement s q v = .ok t ↔ ¬ (q = 0 ∧ v = 0) ∧ |q| < QTY_LIMIT_Q4 ∧ |v| ≤ VALUE_LIMIT_MINOR ∧
      |s.valuation + v| ≤ VALUE_LIMIT_MINOR ∧ |s.onHand + q| < QTY_LIMIT_Q4 ∧
      (∀ a, derivedAverage (s.valuation + v) (s.onHand + q) s.avg = some a → |a| < COST_LIMIT_C10) ∧
      ⟨s.onHand + q, s.valuation + v,
        derivedAverage (s.valuation + v) (s.onHand + q) s.avg, s.lastStockSeq + 1⟩ = t := by
  unfold applyMovement
  simp only [bind_eq_ok, refuseIf_eq_ok, exists_const, assertQuantityInRange_eq_ok,
    assertValueInRange_eq_ok, averageUnitCost_eq, Except.ok.injEq, exists_eq_left', pure_eq_ok]
  cases derivedAverage (s.valuation + v) (s.onHand + q) s.avg with
  | none => simp
  | some a => simp

/-- **Everything an accepted request other than the value-only kind can store.** It is an inbound
    value, a copied transfer value, a reversed receipt, or an outbound amount at the average. -/
theorem valueByClass_cases {s : StockState} {m : MovementInput} {r : PricedMovement}
    (hq : m.qtyQ4 ≠ 0) (h : valueByClass s m = .ok r) :
    (∃ out, m.kind = .transferIn ∧ m.pairedOut = some out ∧ out.qtyQ4 = -m.qtyQ4 ∧
        ⟨-out.value, some out.costC10⟩ = r) ∨
      (m.kind = .purchaseReversal ∧ purchaseReversalValue s m.qtyQ4 m.pairedPurchase = .ok r) ∨
      (m.kind ≠ .transferIn ∧ m.qtyQ4 < 0 ∧ outboundValue s m.qtyQ4 = .ok r) ∨
      (m.kind ≠ .transferIn ∧ 0 < m.qtyQ4 ∧ 0 ≤ r.value) := by
  unfold valueByClass at h
  simp only [hq, if_false] at h
  split at h
  · rename_i hkind
    simp only [bind_eq_ok, refuseIf_eq_ok, exists_const] at h
    cases hp : m.pairedOut with
    | none => simp [hp] at h
    | some out =>
      simp only [hp, bind_eq_ok, refuseIf_eq_ok, exists_const, pure_eq_ok, ne_eq, not_not,
        transferInValue] at h
      exact .inl ⟨out, hkind, rfl, h.2.1, h.2.2⟩
  · rename_i hkind
    split at h
    · rename_i hrev
      simp only [bind_eq_ok, refuseIf_eq_ok, exists_const] at h
      exact .inr (.inl ⟨hrev, h.2⟩)
    · split at h
      · rename_i hneg
        simp only [bind_eq_ok, refuseIf_eq_ok, exists_const] at h
        exact .inr (.inr (.inl ⟨hkind, hneg, h.2⟩))
      · refine .inr (.inr (.inr ⟨hkind, by omega, ?_⟩))
        cases hc : m.costC10 with
        | none => simp [hc] at h
        | some c =>
          simp only [hc, bind_eq_ok, assertCost_eq_ok, exists_const] at h
          obtain ⟨⟨hc0, _⟩, h⟩ := h
          cases hv : m.value with
          | some v =>
            simp only [hv, bind_eq_ok, refuseIf_eq_ok, exists_const, pure_eq_ok, not_lt] at h
            obtain ⟨_, hv0, rfl⟩ := h
            exact hv0
          | none =>
            simp only [hv, bind_eq_ok, inboundValue_eq_ok, pure_eq_ok] at h
            obtain ⟨v, ⟨hq0, _, _, rfl⟩, rfl⟩ := h
            exact nearestEven_nonneg scale_pos (mul_nonneg hq0.le hc0)

theorem simulateMovement_eq_ok {s : StockState} {m : MovementInput} {r : SimulatedMovement} :
    simulateMovement s m = .ok r ↔ |m.qtyQ4| < QTY_LIMIT_Q4 ∧
      (MOVEMENT_KIND_QTY_SIGN m.kind).allows m.qtyQ4 ∧
      ∃ p, valueByClass s m = .ok p ∧ ∃ t, applyMovement s m.qtyQ4 p.value = .ok t ∧
        ⟨p.value, p.unitCostSnapshot, t⟩ = r := by
  simp only [simulateMovement, bind_eq_ok, refuseIf_eq_ok, exists_const, assertQuantityInRange_eq_ok,
    pure_eq_ok, not_not]

end Daftar.Inventory
