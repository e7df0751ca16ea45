/-
  File: Daftar/Inventory/StockPrimitive.lean
  Subject: The stock writer of the database against the simulator of the package.

  * `applyStockMovement` is the writer on one locked key: the range of the quantity, its sign, the
    value by class, the bounds and the next level, in NUMERIC with a BIGINT sequence.
  * A key of the package is a level of the database by `StockState.level`, a request a request by
    `MovementInput.request`; no value is lost on the way.
  * `applyStockMovement_eq_ok`: apart from a receipt's reversal, the writer stores exactly what the
    simulator predicts, as long as the sequence number has a successor in its column.
  * `applyStockMovement_sale`: the writer takes a sale, a kind the package does not have, as it takes
    damage.
-/

import Daftar.Inventory.SqlNumeric
import Daftar.Inventory.StockRun

namespace Daftar.Inventory

open Fallible
open Rounding

/-! ## 1. Rows and requests -/

/-- The cached level of a key: a row of `stock_levels`. -/
structure StockLevel where
  onHand : ℚ
  valuationBaseMinor : ℤ
  avgUnitCostBaseMinor : Option ℚ
  lastStockSeq : ℤ
  deriving DecidableEq, Repr

/-- A row of `stock_movement_kinds`: a kind of the package, or the one a sale registers later. -/
inductive StockMovementKind
  | package (kind : MovementKind)
  | sale
  deriving DecidableEq, Repr

instance : Coe MovementKind StockMovementKind := ⟨.package⟩

/-- What a request of the writer says about the movement itself. -/
structure MovementRequest where
  movementKind : StockMovementKind
  qtyDelta : ℚ
  unitCostBaseMinor : Option ℚ
  valueDeltaBaseMinor : Option ℤ
  deriving DecidableEq, Repr

/-- What the writer reads of the stored `transfer_out` of the same source line. -/
structure TransferOutRow where
  qty : ℚ
  snap : Option ℚ
  val : ℤ
  deriving DecidableEq, Repr

/-- The movement and the level one accepted request writes. -/
structure WrittenMovement where
  valueDeltaBaseMinor : ℤ
  unitCostBaseMinor : Option ℚ
  level : StockLevel
  deriving DecidableEq, Repr

/-- The `qty_sign` column of `stock_movement_kinds`. -/
def stockMovementKinds : StockMovementKind → QtySign
  | .package .purchase => .positive
  | .package .supplierReturn => .negative
  | .package .adjustment => .either
  | .package .damage => .negative
  | .package .transferOut => .negative
  | .package .transferIn => .positive
  | .package .stocktake => .either
  | .package .inventoryOpening => .positive
  | .package .negativeInventoryCostAdjustment => .zero
  | .package .purchaseReversal => .negative
  | .sale => .negative

def stockValueLimit : ℤ := 10 ^ 18

def stockQtyLimit : ℤ := 10 ^ 10

/-! ## 2. The writer -/

/-- Step 4: the range of the requested quantity. -/
def assertRequestQuantity (qty : ℚ) : Routine Unit :=
  refuseIf (|qty| ≥ stockQtyLimit)
    (.raised "inventory.quantity_out_of_range: the quantity is outside the supported range")

/-- Step 6 b: the sign of the kind. -/
def assertQuantitySign (sign : QtySign) (qty : ℚ) : Routine Unit :=
  refuseIf ((sign = .positive ∧ qty ≤ 0) ∨ (sign = .negative ∧ qty ≥ 0) ∨
      (sign = .either ∧ qty = 0) ∨ (sign = .zero ∧ qty ≠ 0))
    (.raised ("inventory.quantity_sign_invalid: the quantity sign is not allowed for this " ++
      "movement kind"))

/-- Step 6 c for a zero quantity: the caller's value, no snapshot. -/
def valueOnlyMovement (req : MovementRequest) : Routine (ℚ × Option ℚ) := do
  refuseIf (req.unitCostBaseMinor ≠ none ∨ req.valueDeltaBaseMinor = none ∨
      req.valueDeltaBaseMinor = some 0)
    (.raised ("inventory.movement_shape_invalid: a value-only movement carries a non-zero value " ++
      "and no cost"))
  pure (req.valueDeltaBaseMinor.getD 0, none)

/-- Step 6 c for a `transfer_in`: exactly what the outgoing leg took out. -/
def transferInMovement (req : MovementRequest) (pair : Option TransferOutRow) :
    Routine (ℚ × Option ℚ) := do
  refuseIf (req.unitCostBaseMinor ≠ none ∨ req.valueDeltaBaseMinor ≠ none)
    (.raised ("inventory.movement_shape_invalid: a transfer_in movement takes its cost and value " ++
      "from its transfer_out"))
  let out ← someOr pair (.raised ("inventory.transfer_pair_missing: a transfer_in needs the " ++
    "transfer_out of the same source line"))
  refuseIf (out.qty ≠ -req.qtyDelta)
    (.raised ("inventory.transfer_pair_mismatch: a transfer moves the same variant and quantity " ++
      "between two warehouses"))
  pure (-out.val, out.snap)

/-- Step 6 c for an outbound quantity: priced at the average, or the whole valuation at the flush. -/
def outboundMovement (level : StockLevel) (req : MovementRequest) : Routine (ℚ × Option ℚ) := do
  refuseIf (req.unitCostBaseMinor ≠ none ∨ req.valueDeltaBaseMinor ≠ none)
    (.raised ("inventory.movement_shape_invalid: an outbound movement is valued at the current " ++
      "average, not by its caller"))
  refuseIf (|req.qtyDelta| > level.onHand)
    (.raised ("inventory.insufficient_stock: the warehouse does not hold enough of this variant"))
  let noAverage : SqlError :=
    .raised "inventory.arithmetic_invalid: the stock key has no usable average cost"
  let avg ← someOr level.avgUnitCostBaseMinor noAverage
  refuseIf (avg < 0) noAverage
  if |req.qtyDelta| = level.onHand then pure (-level.valuationBaseMinor, some avg)
  else
    let price ← inventoryHalfEven (|req.qtyDelta| * avg) 1 0
    pure (-price, some avg)

/-- Step 6 c for an inbound quantity: the supplied share of a priced document, or the quantity at
    its cost. -/
def inboundMovement (req : MovementRequest) : Routine (ℚ × Option ℚ) := do
  let shapeInvalid : SqlError :=
    .raised ("inventory.movement_shape_invalid: an inbound movement carries its unit cost, and " ++
      "only a priced document supplies its value")
  let cost ← someOr req.unitCostBaseMinor shapeInvalid
  refuseIf (req.valueDeltaBaseMinor ≠ none ∧
    req.movementKind ∉ [.package .purchase, .package .inventoryOpening]) shapeInvalid
  refuseIf (cost < 0 ∨ Int.fract (cost * 10 ^ 10) ≠ 0 ∨ cost ≥ stockValueLimit)
    (.raised ("inventory.cost_invalid: a unit cost is non-negative, below the limit and exact at " ++
      "10 decimal places"))
  match req.valueDeltaBaseMinor with
  | some value => do
    refuseIf (value < 0)
      (.raised "inventory.movement_shape_invalid: a supplied inbound value is not negative")
    pure (value, some cost)
  | none => do
    let value ← inventoryHalfEven (req.qtyDelta * cost) 1 0
    pure (value, some cost)

/-- Step 6 c: the stored value and the snapshot, by class. -/
def storedValue (level : StockLevel) (req : MovementRequest) (pair : Option TransferOutRow) :
    Routine (ℚ × Option ℚ) :=
  if req.qtyDelta = 0 then valueOnlyMovement req
  else if req.movementKind = .package .transferIn then transferInMovement req pair
  else if req.qtyDelta < 0 then outboundMovement level req
  else inboundMovement req

/-- The average of step 6 d: derived, and carried when the key reaches zero. -/
def nextAverage (value qty : ℚ) (carried : Option ℚ) : Routine (Option ℚ) :=
  if qty ≠ 0 then some <$> inventoryHalfEven value qty 10 else pure carried

/-- Steps 6 d and e: the bounds, and the columns written. -/
def writeMovement (level : StockLevel) (qty value : ℚ) (snapshot : Option ℚ) :
    Routine WrittenMovement := do
  refuseIf (|value| > stockValueLimit)
    (.raised "inventory.value_out_of_range: the movement value is outside the supported range")
  let nextValue := level.valuationBaseMinor + value
  refuseIf (|nextValue| > stockValueLimit)
    (.raised "inventory.value_out_of_range: the resulting valuation is outside the supported range")
  let nextQty := level.onHand + qty
  refuseIf (|nextQty| ≥ stockQtyLimit)
    (.raised "inventory.quantity_out_of_range: the resulting quantity is outside the supported range")
  let nextAvg ← nextAverage nextValue nextQty level.avgUnitCostBaseMinor
  refuseIf (nextAvg.any (|·| ≥ (stockValueLimit : ℚ)))
    (.raised ("inventory.value_out_of_range: the resulting average cost is outside the " ++
      "supported range"))
  let seq := level.lastStockSeq + 1
  refuseIf (¬ IsBigint seq) .bigintOutOfRange
  let storedValue ← castBigint value
  let storedValuation ← castBigint nextValue
  pure ⟨storedValue, snapshot, ⟨nextQty, storedValuation, nextAvg, seq⟩⟩

/-- One request of the writer against its locked level. -/
def applyStockMovement (level : StockLevel) (req : MovementRequest) (pair : Option TransferOutRow) :
    Routine WrittenMovement := do
  assertRequestQuantity req.qtyDelta
  assertQuantitySign (stockMovementKinds req.movementKind) req.qtyDelta
  let priced ← storedValue level req pair
  writeMovement level req.qtyDelta priced.1 priced.2

/-! ## 3. What the package says of the same key -/

def StockState.level (s : StockState) : StockLevel :=
  ⟨numericOf 4 s.onHand, s.valuation, s.avg.map (numericOf 10), s.lastStockSeq⟩

def MovementInput.request (m : MovementInput) : MovementRequest :=
  ⟨m.kind, numericOf 4 m.qtyQ4, m.costC10.map (numericOf 10), m.value⟩

def PairedMovement.transferOutRow (p : PairedMovement) : TransferOutRow :=
  ⟨numericOf 4 p.qtyQ4, some (numericOf 10 p.costC10), p.value⟩

def PricedMovement.stored (p : PricedMovement) : ℚ × Option ℚ :=
  (p.value, p.unitCostSnapshot.map (numericOf 10))

def SimulatedMovement.written (r : SimulatedMovement) : WrittenMovement :=
  ⟨r.value, r.unitCostSnapshot.map (numericOf 10), r.next.level⟩

theorem stockMovementKinds_eq (k : MovementKind) :
    stockMovementKinds k = MOVEMENT_KIND_QTY_SIGN k := by
  cases k <;> rfl

/-- A level keeps everything of its key. -/
theorem StockState.level_injective : Function.Injective StockState.level := by
  intro s t h
  obtain ⟨sq, sv, sa, sn⟩ := s
  obtain ⟨tq, tv, ta, tn⟩ := t
  simp only [level, StockLevel.mk.injEq, numericOf_inj] at h
  obtain ⟨rfl, rfl, havg, rfl⟩ := h
  rw [Option.map_injective (numericOf_injective 10) havg]

/-! ## 4. The same checks -/

theorem abs_numericOf_four_lt {q : ℤ} :
    |numericOf 4 q| < stockQtyLimit ↔ |q| < QTY_LIMIT_Q4 := by
  rw [abs_numericOf, numericOf_lt_iff]
  rfl

theorem abs_numericOf_ten_lt {c : ℤ} :
    |numericOf 10 c| < stockValueLimit ↔ |c| < COST_LIMIT_C10 := by
  rw [abs_numericOf, numericOf_lt_iff]
  rfl

theorem abs_cast_le_stockValueLimit {v : ℤ} :
    |(v : ℚ)| ≤ stockValueLimit ↔ |v| ≤ VALUE_LIMIT_MINOR := by
  rw [← Int.cast_abs, Int.cast_le]
  rfl

theorem assertRequestQuantity_eq_ok {q : ℤ} {u : Unit} :
    assertRequestQuantity (numericOf 4 q) = .ok u ↔ |q| < QTY_LIMIT_Q4 := by
  rw [assertRequestQuantity, refuseIf_eq_ok, ge_iff_le, not_le, abs_numericOf_four_lt]

theorem assertQuantitySign_eq_ok {k : MovementKind} {q : ℤ} {u : Unit} :
    assertQuantitySign (stockMovementKinds k) (numericOf 4 q) = .ok u ↔
      (MOVEMENT_KIND_QTY_SIGN k).allows q := by
  rw [stockMovementKinds_eq, assertQuantitySign, refuseIf_eq_ok]
  cases MOVEMENT_KIND_QTY_SIGN k <;> simp [QtySign.allows]

/-! ## 5. The same values -/

section Values

variable {s : StockState} {m : MovementInput} {x : ℚ × Option ℚ}

theorem valueOnlyMovement_eq_ok (hq : m.qtyQ4 = 0) :
    valueOnlyMovement m.request = .ok x ↔ ∃ p, valueByClass s m = .ok p ∧ p.stored = x := by
  unfold valueOnlyMovement valueByClass MovementInput.request
  simp only [hq, if_true]
  cases m.costC10 with
  | some c => simp [map_eq_ok]
  | none =>
    cases m.value with
    | none => simp [map_eq_ok]
    | some v => simp [map_eq_ok, PricedMovement.stored, and_assoc]

theorem transferInMovement_eq_ok (hq : m.qtyQ4 ≠ 0) (hk : m.kind = .transferIn) :
    transferInMovement m.request (m.pairedOut.map PairedMovement.transferOutRow) = .ok x ↔
      ∃ p, valueByClass s m = .ok p ∧ p.stored = x := by
  unfold transferInMovement valueByClass MovementInput.request
  simp only [hq, hk, if_true, if_false]
  cases m.pairedOut with
  | none => simp [bind_eq_ok]
  | some out =>
    simp [map_eq_ok, bind_eq_ok, PricedMovement.stored, PairedMovement.transferOutRow,
      neg_numericOf, transferInValue, and_assoc]

/-- Whatever the kind, what is taken out is valued as the package values it. -/
theorem outboundMovement_iff_outboundValue {req : MovementRequest} {q : ℤ}
    (hqty : req.qtyDelta = numericOf 4 q) (hneg : q < 0) (hrange : |q| < QTY_LIMIT_Q4) :
    outboundMovement s.level req = .ok x ↔
      ¬ (req.unitCostBaseMinor ≠ none ∨ req.valueDeltaBaseMinor ≠ none) ∧
        ∃ p, outboundValue s q = .ok p ∧ p.stored = x := by
  have htaken : |q| = -q := abs_of_neg hneg
  simp only [outboundValue_eq_ok, hneg, hrange, true_and]
  unfold outboundMovement StockState.level
  simp only [hqty, bind_eq_ok, refuseIf_eq_ok, exists_const, someOr_eq_ok, abs_numericOf, htaken,
    numericOf_le, numericOf_inj, gt_iff_lt, not_lt]
  refine and_congr_right fun _ => ?_
  cases s.avg with
  | none => simp
  | some a =>
    have htail : (if -q = s.onHand then pure (-(s.valuation : ℚ), some (numericOf 10 a))
        else do
          let price ← inventoryHalfEven (numericOf 4 (-q) * numericOf 10 a) 1 0
          pure (-price, some (numericOf 10 a)) : Routine (ℚ × Option ℚ)) =
        .ok (PricedMovement.stored ⟨-outboundAmount s (-q) a, some a⟩) := by
      unfold outboundAmount PricedMovement.stored
      by_cases hflush : -q = s.onHand
      · rw [if_pos hflush, if_pos hflush, Int.cast_neg]
        rfl
      · rw [if_neg hflush, if_neg hflush, inventoryHalfEven_price, ok_bind, Int.cast_neg]
        rfl
    simp only [Option.map_some, Option.some.injEq, exists_eq_left', numericOf_nonneg, htail,
      Except.ok.injEq, and_assoc, exists_and_left]

theorem outboundMovement_eq_ok (hneg : m.qtyQ4 < 0) (hrange : |m.qtyQ4| < QTY_LIMIT_Q4)
    (hk : m.kind ≠ .transferIn) (hrev : m.kind ≠ .purchaseReversal) :
    outboundMovement s.level m.request = .ok x ↔ ∃ p, valueByClass s m = .ok p ∧ p.stored = x := by
  have hclass : ∀ p, valueByClass s m = .ok p ↔ ¬ (m.costC10 ≠ none ∨ m.value ≠ none) ∧
      outboundValue s m.qtyQ4 = .ok p := by
    intro p
    unfold valueByClass
    simp only [hneg.ne, hk, hrev, hneg, if_true, if_false, bind_eq_ok, refuseIf_eq_ok, exists_const]
  have hshape : m.request.unitCostBaseMinor ≠ none ∨ m.request.valueDeltaBaseMinor ≠ none ↔
      m.costC10 ≠ none ∨ m.value ≠ none := by
    simp [MovementInput.request]
  have hqty : m.request.qtyDelta = numericOf 4 m.qtyQ4 := rfl
  simp only [outboundMovement_iff_outboundValue hqty hneg hrange, hshape, hclass, and_assoc,
    exists_and_left]

/-- A cost from C10 is exact at its ten places, so its two checks are the package's one. -/
theorem not_costInvalid_iff {c : ℤ} :
    ¬ (numericOf 10 c < 0 ∨ Int.fract (numericOf 10 c * 10 ^ 10) ≠ 0 ∨
        numericOf 10 c ≥ stockValueLimit) ↔ 0 ≤ c ∧ c < COST_LIMIT_C10 := by
  have hexact : Int.fract (numericOf 10 c * 10 ^ 10) = 0 := by
    rw [numericOf, div_mul_cancel₀ _ (by positivity), Int.fract_intCast]
  simp only [hexact, ne_eq, not_true, false_or, not_or, not_lt, ge_iff_le, not_le,
    numericOf_nonneg, numericOf_lt_iff]
  rfl

theorem inboundMovement_eq_ok (hpos : 0 < m.qtyQ4) (hrange : |m.qtyQ4| < QTY_LIMIT_Q4)
    (hk : m.kind ≠ .transferIn) (hrev : m.kind ≠ .purchaseReversal) :
    inboundMovement m.request = .ok x ↔ ∃ p, valueByClass s m = .ok p ∧ p.stored = x := by
  unfold inboundMovement valueByClass MovementInput.request
  simp only [hpos.ne', hk, hrev, hpos.not_gt, if_false]
  cases m.costC10 with
  | none => simp [bind_eq_ok]
  | some c =>
    simp only [Option.map_some, bind_eq_ok, someOr_some, ok_bind, refuseIf_eq_ok, exists_const,
      not_costInvalid_iff, assertCost_eq_ok]
    cases m.value with
    | some v =>
      simp only [bind_eq_ok, refuseIf_eq_ok, exists_const, pure_eq_ok, List.mem_cons,
        List.not_mem_nil, or_false, ne_eq, reduceCtorEq, not_false_eq_true, true_and, not_or,
        and_assoc, exists_and_left, exists_eq_left', PricedMovement.stored, Option.map_some,
        StockMovementKind.package.injEq]
      tauto
    | none =>
      have hprice := inventoryHalfEven_price m.qtyQ4 c
      simp only [hprice, ok_bind, bind_eq_ok, pure_eq_ok, inboundValue_eq_ok, hpos, hrange,
        ne_eq, not_true, false_and, not_false_eq_true, true_and, and_assoc, exists_and_left,
        exists_eq_left', PricedMovement.stored, Option.map_some, Q4_TIMES_C10]
      tauto

/-- **Each class of movement is valued alike**, a receipt's reversal apart. -/
theorem storedValue_eq_ok (hrev : m.kind ≠ .purchaseReversal) (hrange : |m.qtyQ4| < QTY_LIMIT_Q4) :
    storedValue s.level m.request (m.pairedOut.map PairedMovement.transferOutRow) = .ok x ↔
      ∃ p, valueByClass s m = .ok p ∧ p.stored = x := by
  have hzero : m.request.qtyDelta = 0 ↔ m.qtyQ4 = 0 := numericOf_eq_zero 4
  have hlt : m.request.qtyDelta < 0 ↔ m.qtyQ4 < 0 := numericOf_neg_iff 4
  have hkind : m.request.movementKind = m.kind := rfl
  unfold storedValue
  rw [hkind]
  by_cases hq : m.qtyQ4 = 0
  · rw [if_pos (hzero.mpr hq), valueOnlyMovement_eq_ok hq]
  · rw [if_neg (mt hzero.mp hq)]
    by_cases hk : m.kind = .transferIn
    · rw [if_pos (congrArg _ hk), transferInMovement_eq_ok hq hk]
    · rw [if_neg (mt StockMovementKind.package.inj hk)]
      rcases lt_or_gt_of_ne hq with hneg | hpos
      · rw [if_pos (hlt.mpr hneg), outboundMovement_eq_ok hneg hrange hk hrev]
      · rw [if_neg (mt hlt.mp hpos.not_gt), inboundMovement_eq_ok hpos hrange hk hrev]

end Values

/-! ## 6. The same levels -/

theorem nextAverage_eq (v q : ℤ) (carried : Option ℤ) :
    nextAverage v (numericOf 4 q) (carried.map (numericOf 10)) =
      .ok ((derivedAverage v q carried).map (numericOf 10)) := by
  unfold nextAverage
  by_cases hq : q = 0
  · rw [if_neg (by simp [hq]), hq, derivedAverage_zero]
    rfl
  · rw [if_pos (by simpa using hq), inventoryHalfEven_average v hq, derivedAverage_of_ne v carried hq]
    rfl

/-- A value within the bounds fits its column. -/
theorem isBigint_of_le_limit {v : ℤ} (h : |v| ≤ VALUE_LIMIT_MINOR) : IsBigint v := by
  have hle : |v| ≤ 10 ^ 18 := h
  rw [abs_le] at hle
  constructor <;> omega

/-- **A movement writes the next state of the package**, while its number fits the column. -/
theorem writeMovement_eq_ok {s : StockState} {q v : ℤ} {snapshot : Option ℚ} {w : WrittenMovement}
    (hne : ¬ (q = 0 ∧ v = 0)) (hrange : |q| < QTY_LIMIT_Q4) :
    writeMovement s.level (numericOf 4 q) v snapshot = .ok w ↔
      IsBigint (s.lastStockSeq + 1) ∧ ∃ t, applyMovement s q v = .ok t ∧
        ⟨v, snapshot, t.level⟩ = w := by
  have hany : ∀ a : Option ℤ, ¬ ((a.map (numericOf 10)).any (|·| ≥ (stockValueLimit : ℚ)) = true) ↔
      ∀ c, a = some c → |c| < COST_LIMIT_C10 := by
    intro a
    cases a with
    | none => simp
    | some c => simp [abs_numericOf_ten_lt]
  have hcast : (s.valuation : ℚ) + v = ((s.valuation + v : ℤ) : ℚ) := (Int.cast_add _ _).symm
  unfold writeMovement StockState.level
  simp only [bind_eq_ok, refuseIf_eq_ok, exists_const, hcast, numericOf_add, nextAverage_eq,
    Except.ok.injEq, exists_eq_left', hany, gt_iff_lt, not_lt, ge_iff_le, not_le, not_not,
    abs_cast_le_stockValueLimit, abs_numericOf_four_lt, castBigint_int_eq_ok, pure_eq_ok,
    applyMovement_eq_ok, hne, hrange, not_false_eq_true, true_and, and_assoc]
  constructor
  · intro h
    obtain ⟨hv, hval, hon, havg, hseq, _, _, rfl, _, _, rfl, rfl⟩ := h
    exact ⟨hseq, _, hv, hval, hon, havg, rfl, rfl⟩
  · intro h
    obtain ⟨hseq, _, hv, hval, hon, havg, rfl, rfl⟩ := h
    exact ⟨hv, hval, hon, havg, hseq, _, isBigint_of_le_limit hv, rfl, _,
      isBigint_of_le_limit hval, rfl, rfl⟩

/-! ## 7. The writer and the simulator -/

/-- A value that the package prices changes the quantity or the valuation. -/
theorem valueByClass_changes {s : StockState} {m : MovementInput} {p : PricedMovement}
    (h : valueByClass s m = .ok p) : ¬ (m.qtyQ4 = 0 ∧ p.value = 0) := by
  intro hzero
  obtain ⟨hq, hv⟩ := hzero
  unfold valueByClass at h
  simp only [hq, if_true] at h
  cases hc : m.costC10 with
  | some c => simp [hc] at h
  | none =>
    cases hval : m.value with
    | none => simp [hc, hval] at h
    | some v =>
      simp only [hc, hval, bind_eq_ok, refuseIf_eq_ok, exists_const, pure_eq_ok] at h
      obtain ⟨hne, rfl⟩ := h
      exact hne hv

/-- **The writer stores what the simulator predicts**, a receipt's reversal apart: it accepts
    exactly the requests that are accepted there and whose number fits the column. -/
theorem applyStockMovement_eq_ok {s : StockState} {m : MovementInput} {w : WrittenMovement}
    (hrev : m.kind ≠ .purchaseReversal) :
    applyStockMovement s.level m.request (m.pairedOut.map PairedMovement.transferOutRow) = .ok w ↔
      IsBigint (s.lastStockSeq + 1) ∧ ∃ r, simulateMovement s m = .ok r ∧ r.written = w := by
  have hqty : m.request.qtyDelta = numericOf 4 m.qtyQ4 := rfl
  have hkind : m.request.movementKind = m.kind := rfl
  unfold applyStockMovement
  simp only [bind_eq_ok, hqty, hkind, assertRequestQuantity_eq_ok, assertQuantitySign_eq_ok,
    exists_const, simulateMovement_eq_ok]
  constructor
  · intro h
    obtain ⟨hrange, hsign, x, hx, hw⟩ := h
    obtain ⟨p, hp, rfl⟩ := (storedValue_eq_ok hrev hrange).mp hx
    obtain ⟨hseq, t, ht, rfl⟩ := (writeMovement_eq_ok (valueByClass_changes hp) hrange).mp hw
    exact ⟨hseq, _, ⟨hrange, hsign, p, hp, t, ht, rfl⟩, rfl⟩
  · intro h
    obtain ⟨hseq, _, ⟨hrange, hsign, p, hp, t, ht, rfl⟩, rfl⟩ := h
    refine ⟨hrange, hsign, p.stored, (storedValue_eq_ok hrev hrange).mpr ⟨p, hp, rfl⟩, ?_⟩
    exact (writeMovement_eq_ok (valueByClass_changes hp) hrange).mpr ⟨hseq, t, ht, rfl⟩

/-! ## 8. The kind the package does not have -/

/-- The simulator asked for any registered kind. `MOVEMENT_KIND_QTY_SIGN` has no entry for `sale`,
    and a missing sign allows no quantity. -/
def simulateRegistered (state : StockState) (kind : StockMovementKind) (m : MovementInput) :
    Result SimulatedMovement :=
  match kind with
  | .package kind => simulateMovement state { m with kind := kind }
  | .sale => do
    assertQuantityInRange m.qtyQ4
    .error (shapeInvalid "quantity sign is not allowed for this movement kind")

/-- A request of any registered kind. -/
def MovementInput.registered (m : MovementInput) (kind : StockMovementKind) : MovementRequest :=
  { m.request with movementKind := kind }

theorem simulateRegistered_sale (s : StockState) (m : MovementInput) (r : SimulatedMovement) :
    simulateRegistered s .sale m ≠ .ok r := by
  intro h
  simp only [simulateRegistered, bind_eq_ok] at h
  obtain ⟨_, _, h⟩ := h
  cases h

/-- **The writer takes a sale as it takes damage**: a negative quantity, at the average. -/
theorem applyStockMovement_sale (level : StockLevel) (m : MovementInput)
    (pair : Option TransferOutRow) : applyStockMovement level (m.registered .sale) pair =
      applyStockMovement level (m.registered (.package .damage)) pair := by
  have hshape : (m.request.valueDeltaBaseMinor ≠ none ∧
        StockMovementKind.sale ∉ [.package .purchase, .package .inventoryOpening]) ↔
      (m.request.valueDeltaBaseMinor ≠ none ∧
        StockMovementKind.package .damage ∉ [.package .purchase, .package .inventoryOpening]) := by
    simp
  have hinbound : inboundMovement (m.registered .sale) =
      inboundMovement (m.registered (.package .damage)) := by
    unfold inboundMovement
    refine congrArg (someOr m.request.unitCostBaseMinor _ >>= ·) (funext fun cost => ?_)
    exact congrArg (· >>= _) (if_congr hshape rfl rfl)
  have hvalue : storedValue level (m.registered .sale) pair =
      storedValue level (m.registered (.package .damage)) pair := by
    unfold storedValue
    rw [hinbound]
    rfl
  unfold applyStockMovement
  rw [hvalue]
  rfl

/-! ## 9. One function -/

/-- Simulator and writer accept alike, and say the same of what they accept. -/
structure OneFunction (simulated : Result SimulatedMovement) (written : Routine WrittenMovement) :
    Prop where
  accepts : (∃ r, simulated = .ok r) ↔ ∃ w, written = .ok w
  stores : ∀ r w, simulated = .ok r → written = .ok w →
    w.valueDeltaBaseMinor = r.value ∧
      w.unitCostBaseMinor = r.unitCostSnapshot.map (numericOf 10) ∧
      w.level.onHand = numericOf 4 r.next.onHand ∧
      w.level.valuationBaseMinor = r.next.valuation ∧
      w.level.avgUnitCostBaseMinor = r.next.avg.map (numericOf 10) ∧
      w.level.lastStockSeq = r.next.lastStockSeq

theorem oneFunction_of_ne_reversal {s : StockState} {m : MovementInput}
    (hseq : IsBigint (s.lastStockSeq + 1)) (hrev : m.kind ≠ .purchaseReversal) :
    OneFunction (simulateMovement s m) (applyStockMovement s.level m.request
      (m.pairedOut.map PairedMovement.transferOutRow)) := by
  constructor <;> simp only [applyStockMovement_eq_ok hrev]
  · constructor
    · rintro ⟨r, hr⟩
      exact ⟨r.written, hseq, r, hr, rfl⟩
    · rintro ⟨_, _, r, hr, _⟩
      exact ⟨r, hr⟩
  · intro r w hr hw
    obtain ⟨_, r', hr', rfl⟩ := hw
    rw [hr, Except.ok.injEq] at hr'
    subst hr'
    exact ⟨rfl, rfl, rfl, rfl, rfl, rfl⟩

/-- **The simulator and the writer are one function** of the kinds of the package, while the number
    of the next movement fits its column. A sale the simulator refuses, and the writer takes for what
    the simulator says of damage. -/
theorem stockPrimitive_agrees {s : StockState} (m : MovementInput)
    (hseq : IsBigint (s.lastStockSeq + 1)) :
    (m.kind ≠ .purchaseReversal → OneFunction (simulateMovement s m)
        (applyStockMovement s.level m.request (m.pairedOut.map PairedMovement.transferOutRow))) ∧
      (∀ r, simulateRegistered s .sale m ≠ .ok r) ∧
      OneFunction (simulateMovement s { m with kind := .damage })
        (applyStockMovement s.level (m.registered .sale)
          (m.pairedOut.map PairedMovement.transferOutRow)) := by
  refine ⟨oneFunction_of_ne_reversal hseq, simulateRegistered_sale s m, ?_⟩
  rw [applyStockMovement_sale]
  have hdamage : ({ m with kind := .damage } : MovementInput).kind ≠ .purchaseReversal := nofun
  exact oneFunction_of_ne_reversal hseq hdamage

/-- The key after the sample receipt. -/
def sampleHeldKey : StockState := ⟨30000, 10, some 33333333333, 1⟩

def sampleIssue : MovementInput := ⟨.damage, -10000, none, none, none, none⟩

theorem sampleHeldKey_moves :
    simulateMovement EMPTY_STOCK_STATE sampleReceipt =
        .ok ⟨10, some 33333333333, sampleHeldKey⟩ ∧
      simulateMovement sampleHeldKey sampleIssue =
        .ok ⟨-3, some 33333333333, ⟨20000, 7, some 35000000000, 2⟩⟩ := by
  decide +kernel

/-- A receipt on an empty key, and one of the three units sold. -/
theorem stockPrimitive_agrees_on_receipt :
    (∃ w, applyStockMovement EMPTY_STOCK_STATE.level sampleReceipt.request none = .ok w ∧
        w.valueDeltaBaseMinor = 10 ∧ w.level.valuationBaseMinor = 10) ∧
      (∀ r, simulateRegistered sampleHeldKey .sale sampleIssue ≠ .ok r) ∧
      ∃ w, applyStockMovement sampleHeldKey.level (sampleIssue.registered .sale) none = .ok w ∧
        w.valueDeltaBaseMinor = -3 ∧ w.level.valuationBaseMinor = 7 ∧ w.level.lastStockSeq = 2 := by
  obtain ⟨hreceipt, _, _⟩ := stockPrimitive_agrees (s := EMPTY_STOCK_STATE) sampleReceipt (by decide)
  obtain ⟨_, hsale, hdamage⟩ := stockPrimitive_agrees (s := sampleHeldKey) sampleIssue (by decide)
  have hpackage := hreceipt (by decide)
  obtain ⟨w, hw⟩ := hpackage.accepts.mp ⟨_, sampleHeldKey_moves.1⟩
  obtain ⟨v, hv⟩ := hdamage.accepts.mp ⟨_, sampleHeldKey_moves.2⟩
  obtain ⟨hvalue, _, _, hval, _, _⟩ := hpackage.stores _ w sampleHeldKey_moves.1 hw
  obtain ⟨hvalue', _, _, hval', _, hseq'⟩ := hdamage.stores _ v sampleHeldKey_moves.2 hv
  exact ⟨⟨w, hw, hvalue, hval⟩, hsale, v, hv, hvalue', hval', hseq'⟩

/-- A lawful key whose last number is the largest of its column. -/
def fullSequenceKey : StockState := ⟨0, 0, none, 2 ^ 63 - 1⟩

/-- **On a full sequence the writer raises what the simulator accepts**, and of a sale it takes what
    the simulator refuses. -/
theorem not_stockPrimitive_agrees :
    (¬ ∀ (s : StockState) (m : MovementInput), s.Lawful → m.kind ≠ .purchaseReversal →
      ((∃ r, simulateMovement s m = .ok r) ↔ ∃ w, applyStockMovement s.level m.request
        (m.pairedOut.map PairedMovement.transferOutRow) = .ok w)) ∧
    ¬ ∀ (s : StockState) (m : MovementInput), s.Lawful → IsBigint (s.lastStockSeq + 1) →
      ((∃ r, simulateRegistered s .sale m = .ok r) ↔
        ∃ w, applyStockMovement s.level (m.registered .sale)
          (m.pairedOut.map PairedMovement.transferOutRow) = .ok w) := by
  constructor
  · intro h
    have hlawful : fullSequenceKey.Lawful :=
      ⟨le_rfl, by decide, le_rfl, by decide, fun _ => rfl, fun hne => absurd rfl hne, by
        intro a ha
        cases ha⟩
    have haccept : ∃ r, simulateMovement fullSequenceKey sampleReceipt = .ok r :=
      ⟨⟨10, some 33333333333, ⟨30000, 10, some 33333333333, 2 ^ 63⟩⟩, by decide +kernel⟩
    obtain ⟨w, hw⟩ := (h fullSequenceKey sampleReceipt hlawful (by decide)).mp haccept
    have hseq := ((applyStockMovement_eq_ok (by decide)).mp hw).1
    exact absurd hseq (by decide)
  · intro h
    have hlawful : sampleHeldKey.Lawful :=
      ⟨by decide, by decide, by decide, by decide, fun h0 => absurd h0 (by decide),
        fun _ => by decide +kernel, by
          intro a ha
          cases ha
          decide⟩
    have hsold : ∃ w, applyStockMovement sampleHeldKey.level (sampleIssue.registered .sale)
        none = .ok w := by
      rw [applyStockMovement_sale]
      exact ⟨_, (applyStockMovement_eq_ok (by decide)).mpr
        ⟨by decide, _, sampleHeldKey_moves.2, rfl⟩⟩
    obtain ⟨r, hr⟩ := (h sampleHeldKey sampleIssue hlawful (by decide)).mpr hsold
    exact simulateRegistered_sale _ _ r hr

end Daftar.Inventory
