/-
  File: Daftar/Inventory/StockRebuild.lean
  Subject: A stock key rebuilt from its stored movements, by the package and by the database.

  * `foldMovements` adds the movements one by one, as they were added when they were stored.
  * `inventoryStockFold` is the routine of the database: two sums, the average at the last movement
    after which stock was held, and the count against the smallest and the greatest number.
  * `StockKeyStep` is one accepted request on one key, of any kind; a run of them stores its
    movements under the numbers from 1 (`storedFrom`).
  * `stockRebuild_eq_run`: both rebuild the state the run ended in, the routine from its rows in any
    order; and it reports a gap for rows among which a number is missing.
-/

import Daftar.Inventory.StockPrimitive
import Daftar.Library.IntervalChains

namespace Daftar.Inventory

open Fallible
open IntervalChains
open Rounding
open Runs

/-! ## 1. The fold of the package -/

/-- A stored movement with its number on the key. -/
structure SequencedMovement where
  stockSeq : ℤ
  qtyQ4 : ℤ
  value : ℤ
  deriving DecidableEq, Repr

def foldMovement (state : StockState) (m : SequencedMovement) : Result StockState := do
  refuseIf (m.stockSeq ≠ state.lastStockSeq + 1)
    ⟨.inventoryRebuildSequenceInvalid, "stock_seq is not gapless and ascending from 1"⟩
  applyMovement state m.qtyQ4 m.value

/-- Folds movements given in the order of their numbers; any other sequence is refused. -/
def foldMovements (movements : List SequencedMovement) : Result StockState :=
  movements.foldlM foldMovement EMPTY_STOCK_STATE

/-! ## 2. The fold of the database -/

/-- What the routine reads of a row of `stock_movements`. -/
structure MovementRow where
  stockSeq : ℤ
  qtyDelta : ℚ
  valueDeltaBaseMinor : ℤ
  deriving DecidableEq, Repr

/-- What the routine returns. -/
structure StockFold where
  onHand : ℚ
  valuationBaseMinor : ℤ
  avgUnitCostBaseMinor : Option ℚ
  lastStockSeq : ℤ
  movementCount : ℤ
  sequenceGapless : Bool
  deriving DecidableEq, Repr

/-- The window of the routine: quantity and value up to and including each row. -/
def runningSums (qty : ℚ) (value : ℤ) : List MovementRow → List (ℚ × ℤ)
  | [] => []
  | m :: ms => (qty + m.qtyDelta, value + m.valueDeltaBaseMinor) ::
      runningSums (qty + m.qtyDelta) (value + m.valueDeltaBaseMinor) ms

/-- The last sums at which the quantity is not zero. -/
def lastHeld (sums : List (ℚ × ℤ)) : Option (ℚ × ℤ) := (sums.filter (·.1 ≠ 0)).getLast?

/-- The average at those sums, or what there is without any. -/
def heldAverage (held : Option (ℚ × ℤ)) (otherwise : Option ℚ) : Routine (Option ℚ) :=
  match held with
  | none => pure otherwise
  | some (qty, value) => some <$> inventoryHalfEven value qty 10

/-- `inventory_stock_fold` on the rows of the key. -/
def inventoryStockFold (rows : List MovementRow) : Routine StockFold := do
  let qty := (rows.map (·.qtyDelta)).sum
  let value : ℤ := (rows.map (·.valueDeltaBaseMinor)).sum
  let count : ℤ := rows.length
  let max := (rows.map (·.stockSeq)).max?
  let min := (rows.map (·.stockSeq)).min?
  let held := lastHeld (runningSums 0 0 (inOrder (·.stockSeq) rows))
  let valuation ← castBigint value
  let avg ← heldAverage held none
  pure ⟨qty, valuation, avg, max.getD 0, count, count = 0 ∨ (max = some count ∧ min = some 1)⟩

/-! ## 3. Runs on one key -/

/-- One accepted request on the key, with what it stored. -/
inductive StockKeyStep : StockState → MovementInput × SimulatedMovement → StockState → Prop
  | accept {s : StockState} {m : MovementInput} {r : SimulatedMovement}
      (h : simulateMovement s m = .ok r) : StockKeyStep s (m, r) r.next

/-- The movements of a run, numbered from the number after `seq`. -/
def storedFrom (seq : ℤ) : List (MovementInput × SimulatedMovement) → List SequencedMovement
  | [] => []
  | e :: es => ⟨seq + 1, e.1.qtyQ4, e.2.value⟩ :: storedFrom (seq + 1) es

/-- The row a movement is stored as. -/
def SequencedMovement.row (m : SequencedMovement) : MovementRow :=
  ⟨m.stockSeq, numericOf 4 m.qtyQ4, m.value⟩

/-- **What a step does to the state is what the fold does with the movement it stored.** -/
theorem StockKeyStep.applies {s t : StockState} {e : MovementInput × SimulatedMovement}
    (h : StockKeyStep s e t) : applyMovement s e.1.qtyQ4 e.2.value = .ok t := by
  obtain ⟨hok⟩ := h
  rw [simulateMovement_eq_ok] at hok
  obtain ⟨_, _, p, _, t, ht, rfl⟩ := hok
  exact ht

theorem StockKeyStep.lastStockSeq {s t : StockState} {e : MovementInput × SimulatedMovement}
    (h : StockKeyStep s e t) : t.lastStockSeq = s.lastStockSeq + 1 := by
  obtain ⟨_, _, _, _, _, _, rfl⟩ := applyMovement_eq_ok.mp h.applies
  rfl

theorem StockKeyStep.sums {s t : StockState} {e : MovementInput × SimulatedMovement}
    (h : StockKeyStep s e t) : t.onHand = s.onHand + e.1.qtyQ4 ∧
      t.valuation = s.valuation + e.2.value ∧
      t.avg = derivedAverage t.valuation t.onHand s.avg := by
  obtain ⟨_, _, _, _, _, _, rfl⟩ := applyMovement_eq_ok.mp h.applies
  exact ⟨rfl, rfl, rfl⟩

section Run

variable {s t : StockState} {es : List (MovementInput × SimulatedMovement)}

/-- **The fold over the movements of a run ends where the run ends.** -/
theorem foldlM_foldMovement_run (h : Run StockKeyStep s es t) :
    (storedFrom s.lastStockSeq es).foldlM foldMovement s = .ok t := by
  induction h with
  | nil s => rfl
  | cons hstep _ ih =>
    rw [hstep.lastStockSeq] at ih
    rw [storedFrom, List.foldlM_cons, foldMovement, refuseIf_of_not (by simp), ok_bind,
      hstep.applies]
    exact ih

theorem lastStockSeq_run (h : Run StockKeyStep s es t) :
    t.lastStockSeq = s.lastStockSeq + es.length := by
  induction h with
  | nil s => simp
  | cons hstep _ ih =>
    rw [ih, hstep.lastStockSeq, List.length_cons]
    push_cast
    ring

theorem sums_run (h : Run StockKeyStep s es t) :
    t.onHand = s.onHand + ((storedFrom s.lastStockSeq es).map (·.qtyQ4)).sum ∧
      t.valuation = s.valuation + ((storedFrom s.lastStockSeq es).map (·.value)).sum := by
  induction h with
  | nil s => simp [storedFrom]
  | cons hstep _ ih =>
    obtain ⟨hq, hv, _⟩ := hstep.sums
    rw [hstep.lastStockSeq, hq, hv] at ih
    simp only [storedFrom, List.map_cons, List.sum_cons, ← add_assoc]
    exact ih

/-- The numbers of the movements run on from the last one. -/
theorem chained_storedFrom (seq : ℤ) (es : List (MovementInput × SimulatedMovement)) :
    Chained MovementRow.stockSeq MovementRow.stockSeq
      ((storedFrom seq es).map SequencedMovement.row) := by
  induction es generalizing seq with
  | nil => exact List.IsChain.nil
  | cons e es ih =>
    refine Chained.cons (ih (seq + 1)) ?_
    intro q hq
    cases es with
    | nil => cases hq
    | cons e' es =>
      cases hq
      rfl

theorem map_stockSeq_storedFrom (seq : ℤ) (es : List (MovementInput × SimulatedMovement)) :
    ((storedFrom seq es).map SequencedMovement.row).map (·.stockSeq) =
      (List.range es.length).map fun i : ℕ => seq + 1 + i := by
  induction es generalizing seq with
  | nil => rfl
  | cons e es ih =>
    rw [storedFrom, List.map_cons, List.map_cons, ih, List.length_cons, List.range_succ_eq_map,
      List.map_cons, List.map_map]
    congr 1
    · simp [SequencedMovement.row]
    · refine List.map_congr_left fun i _ => ?_
      simp only [Function.comp_apply]
      push_cast
      ring

/-! ## 4. The average -/

theorem lastHeld_cons (x : ℚ × ℤ) (xs : List (ℚ × ℤ)) :
    lastHeld (x :: xs) = (lastHeld xs).or (if x.1 ≠ 0 then some x else none) := by
  unfold lastHeld
  by_cases hx : x.1 ≠ 0
  · rw [List.filter_cons_of_pos (by simpa using hx), List.getLast?_cons, if_pos hx]
    cases (xs.filter (·.1 ≠ 0)).getLast? <;> rfl
  · rw [List.filter_cons_of_neg (by simpa using hx), if_neg hx, Option.or_none]

/-- The average after a movement, from the sums after it. -/
theorem heldAverage_step (q v : ℤ) (a : Option ℤ) :
    heldAverage (if numericOf 4 q ≠ 0 then some (numericOf 4 q, v) else none)
      (a.map (numericOf 10)) = .ok ((derivedAverage v q a).map (numericOf 10)) := by
  by_cases hq : q = 0
  · rw [hq, if_neg (by simp)]
    rfl
  · rw [if_pos (by simpa using hq), heldAverage, inventoryHalfEven_average v hq,
      derivedAverage_of_ne v a hq]
    rfl

/-- **The average at the last sums with stock is the one the run ends with**, whatever was carried
    before them. -/
theorem heldAverage_run (h : Run StockKeyStep s es t) :
    heldAverage (lastHeld (runningSums (numericOf 4 s.onHand) s.valuation
        ((storedFrom s.lastStockSeq es).map SequencedMovement.row))) (s.avg.map (numericOf 10)) =
      .ok (t.avg.map (numericOf 10)) := by
  induction h with
  | nil s => rfl
  | @cons s u t e es hstep _ ih =>
    obtain ⟨hq, hv, havg⟩ := hstep.sums
    have hqty : numericOf 4 s.onHand + numericOf 4 e.1.qtyQ4 = numericOf 4 u.onHand := by
      rw [numericOf_add, hq]
    rw [hstep.lastStockSeq] at ih
    simp only [storedFrom, List.map_cons, runningSums, SequencedMovement.row, hqty, ← hv]
    rw [lastHeld_cons]
    cases hlast : lastHeld (runningSums (numericOf 4 u.onHand) u.valuation
        ((storedFrom (s.lastStockSeq + 1) es).map SequencedMovement.row)) with
    | some x =>
      rw [hlast] at ih
      exact ih
    | none =>
      -- Nothing is held after this movement, so the run ends with the average it left.
      rw [hlast] at ih
      have hend : u.avg.map (numericOf 10) = t.avg.map (numericOf 10) := Except.ok.inj ih
      rw [Option.none_or, heldAverage_step, ← havg, hend]

theorem valuation_run (h : Run StockKeyStep EMPTY_STOCK_STATE es t) :
    |t.valuation| ≤ VALUE_LIMIT_MINOR := by
  refine h.invariant (I := fun s : StockState => |s.valuation| ≤ VALUE_LIMIT_MINOR) ?_ (by decide)
  intro s e t _ hstep
  obtain ⟨_, _, _, hval, _, _, rfl⟩ := applyMovement_eq_ok.mp hstep.applies
  exact hval

/-! ## 5. The closed form -/

theorem sum_map_numericOf (k : ℕ) (l : List ℤ) : (l.map (numericOf k)).sum = numericOf k l.sum := by
  induction l with
  | nil => simp
  | cons n l ih => rw [List.map_cons, List.sum_cons, ih, numericOf_add, List.sum_cons]

/-- The numbers from 1 are counted by their greatest, and begin with 1. -/
theorem max_min_of_perm_range {l : List ℤ} {n : ℕ}
    (h : l.Perm ((List.range n).map fun i : ℕ => (0 : ℤ) + 1 + i)) :
    (l.max?.getD 0 = n) ∧ ((n : ℤ) = 0 ∨ (l.max? = some (n : ℤ) ∧ l.min? = some 1)) := by
  have hmem : ∀ x, x ∈ l ↔ 1 ≤ x ∧ x ≤ n := by
    intro x
    rw [h.mem_iff]
    simp only [List.mem_map, List.mem_range, zero_add]
    constructor
    · rintro ⟨i, hi, rfl⟩
      omega
    · intro hx
      exact ⟨(x - 1).toNat, by omega, by omega⟩
  rcases Nat.eq_zero_or_pos n with rfl | hn
  · have hnil : l = [] := List.perm_nil.mp h
    simp [hnil]
  · have hmax : l.max? = some (n : ℤ) := by
      rw [List.max?_eq_some_iff, hmem]
      exact ⟨by omega, fun x hx => ((hmem x).mp hx).2⟩
    have hmin : l.min? = some 1 := by
      rw [List.min?_eq_some_iff, hmem]
      exact ⟨by omega, fun x hx => ((hmem x).mp hx).1⟩
    exact ⟨by rw [hmax]; rfl, .inr ⟨hmax, hmin⟩⟩

/-- **The closed form rebuilds the state a run ends in**, from its rows in any order. -/
theorem inventoryStockFold_run (h : Run StockKeyStep EMPTY_STOCK_STATE es t)
    {rows : List MovementRow} (hrows : rows.Perm ((storedFrom 0 es).map SequencedMovement.row)) :
    inventoryStockFold rows = .ok ⟨numericOf 4 t.onHand, t.valuation, t.avg.map (numericOf 10),
      t.lastStockSeq, es.length, true⟩ := by
  obtain ⟨hq, hv⟩ := sums_run h
  have hqty : (rows.map (·.qtyDelta)).sum = numericOf 4 t.onHand := by
    rw [(hrows.map _).sum_eq, List.map_map, hq, show EMPTY_STOCK_STATE.onHand = 0 from rfl, zero_add,
      ← sum_map_numericOf, List.map_map]
    rfl
  have hvalue : (rows.map (·.valueDeltaBaseMinor)).sum = t.valuation := by
    rw [(hrows.map _).sum_eq, List.map_map, hv, show EMPTY_STOCK_STATE.valuation = 0 from rfl,
      zero_add]
    rfl
  have hlen : rows.length = es.length := by
    have hseq := congrArg List.length (map_stockSeq_storedFrom 0 es)
    rw [hrows.length_eq]
    simpa using hseq
  have horder : inOrder (·.stockSeq) rows = (storedFrom 0 es).map SequencedMovement.row :=
    inOrder_eq (chained_storedFrom 0 es) (fun _ _ => le_rfl) hrows.symm
  have hnumbers := hrows.map (·.stockSeq)
  rw [map_stockSeq_storedFrom] at hnumbers
  obtain ⟨hmax, hgapless⟩ := max_min_of_perm_range hnumbers
  have havg := heldAverage_run h
  rw [show EMPTY_STOCK_STATE.lastStockSeq = 0 from rfl,
    show numericOf 4 EMPTY_STOCK_STATE.onHand = 0 from numericOf_zero 4] at havg
  have hcast : castBigint t.valuation = .ok t.valuation :=
    castBigint_int_eq_ok.mpr ⟨isBigint_of_le_limit (valuation_run h), rfl⟩
  have hlast : t.lastStockSeq = es.length := by
    rw [lastStockSeq_run h, show EMPTY_STOCK_STATE.lastStockSeq = 0 from rfl, zero_add]
  have havg' : heldAverage (lastHeld (runningSums 0 0
      ((storedFrom 0 es).map SequencedMovement.row))) none = .ok (t.avg.map (numericOf 10)) := havg
  simp only [inventoryStockFold, hqty, hvalue, hlen, horder, hmax, hcast, havg', hlast, hgapless,
    ok_bind, decide_true]
  rfl

/-! ## 6. Missing movements -/

/-- Among the numbers of these rows one is missing: the first, or one below the greatest. -/
def MissesNumber (rows : List MovementRow) : Prop :=
  (∀ m ∈ rows, m.stockSeq ≠ 1) ∨
    ∃ k : ℤ, 1 ≤ k ∧ (∃ m ∈ rows, k < m.stockSeq) ∧ ∀ m ∈ rows, m.stockSeq ≠ k

/-- Some rows of a key carry different numbers from 1 on. -/
theorem numbers_of_subperm {rows : List MovementRow}
    (hrows : rows.Subperm ((storedFrom 0 es).map SequencedMovement.row)) :
    (rows.map (·.stockSeq)).Nodup ∧ ∀ x ∈ rows.map (·.stockSeq), 1 ≤ x := by
  obtain ⟨l, hl, hsub⟩ := hrows
  have hperm := hl.map MovementRow.stockSeq
  have hsub' := hsub.map MovementRow.stockSeq
  rw [map_stockSeq_storedFrom] at hsub'
  refine ⟨hperm.nodup_iff.mp (hsub'.nodup ?_), fun x hx => ?_⟩
  · exact List.nodup_range.map fun i j hij => by simpa using hij
  · obtain ⟨i, _, rfl⟩ := List.mem_map.mp (hsub'.subset (hperm.mem_iff.mpr hx))
    omega

/-- **Rows among which a number is missing are reported as a gap**, unless there are none. -/
theorem not_gapless_of_misses {rows : List MovementRow}
    (hrows : rows.Subperm ((storedFrom 0 es).map SequencedMovement.row)) (hne : rows ≠ [])
    (hmiss : MissesNumber rows) :
    ¬ ((rows.length : ℤ) = 0 ∨ ((rows.map (·.stockSeq)).max? = some (rows.length : ℤ) ∧
      (rows.map (·.stockSeq)).min? = some 1)) := by
  obtain ⟨hnodup, hpos⟩ := numbers_of_subperm hrows
  rintro (hlen | ⟨hmax, hmin⟩)
  · exact hne (List.length_eq_zero_iff.mp (by exact_mod_cast hlen))
  · rw [List.max?_eq_some_iff] at hmax
    have hfirst := (List.min?_eq_some_iff.mp hmin).1
    rcases hmiss with hone | ⟨k, hk, ⟨m, hm, hkm⟩, hmissing⟩
    · obtain ⟨m, hm, h1⟩ := List.mem_map.mp hfirst
      exact hone m hm h1
    · have hlast := hmax.2 m.stockSeq (List.mem_map_of_mem hm)
      have hmem := mem_of_length_eq_max hnodup hpos hmax.2 (by simp) hk (by omega)
      obtain ⟨m', hm', hk'⟩ := List.mem_map.mp hmem
      exact hmissing m' hm' hk'

/-- The average is computed wherever some sums hold a quantity. -/
theorem heldAverage_lastHeld (sums : List (ℚ × ℤ)) (otherwise : Option ℚ) :
    ∃ a, heldAverage (lastHeld sums) otherwise = .ok a := by
  cases hlast : lastHeld sums with
  | none => exact ⟨otherwise, rfl⟩
  | some x =>
    have hx : x.1 ≠ 0 := by
      have hmem := List.mem_of_getLast? hlast
      simpa using (List.mem_filter.mp hmem).2
    obtain ⟨q, hq, _⟩ := inventoryHalfEven_spec (n := x.2 * 10 ^ 10) hx
    refine ⟨some (q * (1 / 10 ^ 10)), ?_⟩
    rw [heldAverage, inventoryHalfEven_ten, hq]
    rfl

/-- What the routine returns for rows whose values fit the column, and what it raises for others. -/
theorem inventoryStockFold_cases (rows : List MovementRow) :
    (IsBigint (rows.map (·.valueDeltaBaseMinor)).sum ∧ ∃ f, inventoryStockFold rows = .ok f ∧
        (f.sequenceGapless = true ↔ ((rows.length : ℤ) = 0 ∨
          ((rows.map (·.stockSeq)).max? = some (rows.length : ℤ) ∧
            (rows.map (·.stockSeq)).min? = some 1)))) ∨
      (¬ IsBigint (rows.map (·.valueDeltaBaseMinor)).sum ∧
        inventoryStockFold rows = .error .bigintOutOfRange) := by
  unfold inventoryStockFold
  simp only [castBigint_int]
  by_cases hfits : IsBigint (rows.map (·.valueDeltaBaseMinor)).sum
  · refine .inl ⟨hfits, ?_⟩
    obtain ⟨a, ha⟩ := heldAverage_lastHeld (runningSums 0 0 (inOrder (·.stockSeq) rows)) none
    rw [if_pos hfits, ok_bind, ha, ok_bind]
    exact ⟨_, rfl, by simp⟩
  · exact .inr ⟨hfits, by rw [if_neg hfits]; rfl⟩

/-- **The rebuild of a key is the state its run ended in.** The fold of the package returns it, the
    closed form returns it from the rows in any order, and reports a gap for every nonempty part of
    the rows among which a number is missing, wherever the values of that part fit a BIGINT. -/
theorem stockRebuild_eq_run (h : Run StockKeyStep EMPTY_STOCK_STATE es t) :
    foldMovements (storedFrom 0 es) = .ok t ∧
      (∀ rows : List MovementRow, rows.Perm ((storedFrom 0 es).map SequencedMovement.row) →
        inventoryStockFold rows = .ok ⟨numericOf 4 t.onHand, t.valuation,
          t.avg.map (numericOf 10), t.lastStockSeq, es.length, true⟩) ∧
      ∀ rows : List MovementRow, rows.Subperm ((storedFrom 0 es).map SequencedMovement.row) →
        rows ≠ [] → MissesNumber rows →
          (IsBigint (rows.map (·.valueDeltaBaseMinor)).sum →
            ∃ f, inventoryStockFold rows = .ok f ∧ f.sequenceGapless = false) ∧
          (¬ IsBigint (rows.map (·.valueDeltaBaseMinor)).sum →
            inventoryStockFold rows = .error .bigintOutOfRange) := by
  refine ⟨foldlM_foldMovement_run h, fun rows hrows => inventoryStockFold_run h hrows, ?_⟩
  intro rows hrows hne hmiss
  have hgap := not_gapless_of_misses hrows hne hmiss
  rcases inventoryStockFold_cases rows with ⟨hfits, f, hf, hgapless⟩ | ⟨hover, herr⟩
  · refine ⟨fun _ => ⟨f, hf, ?_⟩, fun hover => absurd hfits hover⟩
    exact Bool.eq_false_iff.mpr fun htrue => hgap (hgapless.mp htrue)
  · exact ⟨fun hfits => absurd hfits hover, fun _ => herr⟩

/-- A receipt, and the damage of a third of it. -/
def sampleKeyRun : List (MovementInput × SimulatedMovement) :=
  [(sampleReceipt, ⟨10, some 33333333333, ⟨30000, 10, some 33333333333, 1⟩⟩),
    (⟨.damage, -10000, none, none, none, none⟩,
      ⟨-3, some 33333333333, ⟨20000, 7, some 35000000000, 2⟩⟩)]

theorem sampleKeyRun_run : Run StockKeyStep EMPTY_STOCK_STATE sampleKeyRun
    ⟨20000, 7, some 35000000000, 2⟩ :=
  .cons (.accept (by decide +kernel)) (.cons (.accept (by decide +kernel)) (.nil _))

/-- The rows of the receipt and of the damage. -/
theorem sampleKeyRun_rows : (storedFrom 0 sampleKeyRun).map SequencedMovement.row =
    [⟨1, numericOf 4 30000, 10⟩, ⟨2, numericOf 4 (-10000), -3⟩] := rfl

/-- Both folds return the key, one of them from the rows backwards; the second row alone has a
    gap. -/
theorem stockRebuild_eq_run_sample :
    foldMovements (storedFrom 0 sampleKeyRun) = .ok ⟨20000, 7, some 35000000000, 2⟩ ∧
      inventoryStockFold [⟨2, numericOf 4 (-10000), -3⟩, ⟨1, numericOf 4 30000, 10⟩] =
        .ok ⟨numericOf 4 20000, 7, some (numericOf 10 35000000000), 2, 2, true⟩ ∧
      ∃ f, inventoryStockFold [⟨2, numericOf 4 (-10000), -3⟩] = .ok f ∧
        f.sequenceGapless = false := by
  obtain ⟨hfold, hrows, hgaps⟩ := stockRebuild_eq_run sampleKeyRun_run
  rw [sampleKeyRun_rows] at hrows hgaps
  have hpart := hgaps [⟨2, numericOf 4 (-10000), -3⟩] (List.Sublist.subperm (by simp)) (by simp)
    (.inl (by simp))
  exact ⟨hfold, hrows _ (List.Perm.swap ..), hpart.1 (by decide)⟩

/-- **No row at all is a part without the number 1, and is not reported as a gap.** -/
theorem not_stockRebuild_reports_every_gap :
    ¬ ∀ (es : List (MovementInput × SimulatedMovement)) (t : StockState) (rows : List MovementRow),
      Run StockKeyStep EMPTY_STOCK_STATE es t →
      rows.Subperm ((storedFrom 0 es).map SequencedMovement.row) → rows.length < es.length →
      MissesNumber rows → ∃ f, inventoryStockFold rows = .ok f ∧ f.sequenceGapless = false := by
  intro h
  have hmiss : MissesNumber [] := .inl fun m hm => absurd hm List.not_mem_nil
  obtain ⟨f, hf, hgap⟩ := h sampleKeyRun _ [] sampleKeyRun_run (List.nil_subperm) (by decide) hmiss
  have hempty : inventoryStockFold [] = .ok ⟨0, 0, none, 0, 0, true⟩ := by decide +kernel
  rw [hempty, Except.ok.injEq] at hf
  rw [← hf] at hgap
  exact absurd hgap (by decide)

end Run

end Daftar.Inventory
