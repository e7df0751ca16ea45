/-
  File: Daftar/Pos/SaleMovements.lean
  Subject: The movements of a sale, as predicted before the stock keys are locked and as written.

  * `predictMovements` values each line from the levels read beforehand; `applySaleMovements` is
    the stock writer on the lines of the sale, one after the other.
  * `predictMovement_eq_written`: where the writer accepts a line at the level that was read, it
    stores the predicted value.
  * `predictMovements_written`: so the entry derived from the predictions books the cost of the
    sale, and the completion of the sale never finds it changed.
-/

import Daftar.Accounting.SalePosting
import Daftar.Inventory.StockPrimitive
import Daftar.Pos.SalePricing

namespace Daftar.Pos

open Fallible
open Rounding
open Inventory
open Accounting (SaleMovementFacts SaleCogsFacts PostingLineCommand cogsLine
  deriveSaleCogsEntryLines deriveSaleCogsEntryLines_amount)

/-! ## 1. The prediction -/

/-- The rows of `stock_levels` in the sale's warehouse, by variant. -/
abbrev StockLevels := Uuid → Option StockLevel

structure SaleStockLevel where
  onHandQ4 : ℤ
  valuationBaseMinor : ℤ
  avgUnitCostC10 : Option ℤ
  deriving DecidableEq

/-- `v::numeric(p,0)`: the nearest integer, halves away from zero. The precisions of the read are
    above those of its columns. -/
def castInteger (v : ℚ) : ℤ := if v < 0 then -⌊-v + 1 / 2⌋ else ⌊v + 1 / 2⌋

def readSaleStockLevels (rows : StockLevels) (variantId : Uuid) : Option SaleStockLevel :=
  (rows variantId).map fun l =>
    { onHandQ4 := castInteger (l.onHand * 10000)
      valuationBaseMinor := l.valuationBaseMinor
      avgUnitCostC10 := l.avgUnitCostBaseMinor.map fun a => castInteger (a * 10000000000) }

def predictMovement (levels : Uuid → Option SaleStockLevel) (l : PricedLine) : SaleMovementFacts :=
  match levels l.variantId with
  | none => ⟨l.lineId.text, 0⟩
  | some level =>
    if l.qtyQ4 = level.onHandQ4 then ⟨l.lineId.text, -level.valuationBaseMinor⟩
    else ⟨l.lineId.text, -halfEven (l.qtyQ4 * level.avgUnitCostC10.getD 0) (10 ^ 14)⟩

def predictMovements (lines : List PricedLine) (levels : Uuid → Option SaleStockLevel) :
    List SaleMovementFacts := lines.map (predictMovement levels)

/-! ## 2. The write -/

/-- The request of a line: its sign is the routine's, and both cost columns are NULL. -/
def saleRequest (l : PricedLine) : MovementRequest :=
  ⟨.sale, -numericOf 4 l.qtyQ4, none, none⟩

/-- The locked level of a key; a missing row is inserted first. -/
def lockedLevel (rows : StockLevels) (variantId : Uuid) : StockLevel :=
  (rows variantId).getD ⟨0, 0, none, 0⟩

/-- Each request in order, against its key. -/
def applySaleMovements :
    StockLevels → List PricedLine → Routine (List WrittenMovement × StockLevels)
  | rows, [] => .ok ([], rows)
  | rows, l :: lines => do
    let w ← applyStockMovement (lockedLevel rows l.variantId) (saleRequest l) none
    let (ws, final) ← applySaleMovements (Function.update rows l.variantId (some w.level)) lines
    pure (w :: ws, final)

/-- The cost `sale_commit` returns: what its movements took out. -/
def saleCostBaseMinor (ws : List WrittenMovement) : Routine ℤ :=
  castBigint (-(ws.map (·.valueDeltaBaseMinor)).sum : ℤ)

/-- The entry posted for a returned cost: none where nothing is released, else the derived one. -/
def completeCogs (actual : ℤ) (cogs : Option (List PostingLineCommand)) :
    Except Refusal (Option (List PostingLineCommand)) :=
  let released := if actual < 0 then -actual else actual
  if released = 0 then .ok none
  else
    match cogs with
    | none => .error (.sale .stateChanged)
    | some lines => do
      let signed := (lines.map fun l => if l.side = "D" then l.baseAmountMinor else 0).sum
      refuseIf (released ≠ signed) (.sale .stateChanged)
      pure (some lines)

/-! ## 3. One line -/

/-- Rows of fixed scale, in their units. -/
def rowsOf (levels : Uuid → Option StockState) : StockLevels :=
  fun v => (levels v).map StockState.level

theorem castInteger_numericOf {k : ℕ} {m : ℚ} (n : ℤ) (hm : m = 10 ^ k) :
    castInteger (numericOf k n * m) = n := by
  rw [numericOf, hm, div_mul_cancel₀ _ (by positivity)]
  exact roundHalfAway_int n

/-- **The read gives the units of the rows.** -/
theorem readSaleStockLevels_rowsOf (levels : Uuid → Option StockState) (v : Uuid) :
    readSaleStockLevels (rowsOf levels) v =
      (levels v).map fun s => ⟨s.onHand, s.valuation, s.avg⟩ := by
  unfold readSaleStockLevels rowsOf
  cases levels v with
  | none => rfl
  | some s =>
    have hqty : castInteger (numericOf 4 s.onHand * 10000) = s.onHand :=
      castInteger_numericOf _ (by norm_num)
    have havg : (s.avg.map (numericOf 10)).map (fun a => castInteger (a * 10000000000)) = s.avg := by
      cases s.avg with
      | none => rfl
      | some a => exact congrArg some (castInteger_numericOf _ (by norm_num))
    simp only [Option.map_some, StockState.level, hqty, havg]

theorem lockedLevel_rowsOf (levels : Uuid → Option StockState) (v : Uuid) :
    lockedLevel (rowsOf levels) v = ((levels v).getD EMPTY_STOCK_STATE).level := by
  unfold lockedLevel rowsOf
  cases levels v with
  | none => simp [StockState.level, EMPTY_STOCK_STATE]
  | some s => rfl

/-- What an accepted request of a sale stores. -/
theorem applyStockMovement_sale {s : StockState} {l : PricedLine} {w : WrittenMovement}
    (h : applyStockMovement s.level (saleRequest l) none = .ok w) :
    ∃ p, outboundValue s (-l.qtyQ4) = .ok p ∧ w.valueDeltaBaseMinor = p.value := by
  have hqty : (saleRequest l).qtyDelta = numericOf 4 (-l.qtyQ4) := neg_numericOf 4
  unfold applyStockMovement at h
  simp only [bind_eq_ok, hqty, assertRequestQuantity_eq_ok, exists_const] at h
  obtain ⟨hrange, _, hsign, x, hx, hw⟩ := h
  have hneg : -l.qtyQ4 < 0 := by
    simpa [saleRequest, stockMovementKinds, assertQuantitySign] using hsign
  have hlt : (saleRequest l).qtyDelta < 0 := by
    rw [hqty]
    exact (numericOf_neg_iff 4).mpr hneg
  have hkind : (saleRequest l).movementKind ≠ .package .transferIn := by
    intro heq
    cases heq
  rw [storedValue, if_neg hlt.ne, if_neg hkind, if_pos hlt,
    outboundMovement_iff_outboundValue hqty hneg hrange] at hx
  obtain ⟨_, p, hp, rfl⟩ := hx
  refine ⟨p, hp, ?_⟩
  obtain ⟨_, t, _, rfl⟩ := (writeMovement_eq_ok (by omega) hrange).mp hw
  rfl

/-- **The predicted value is the stored one**, also where the line empties its key. -/
theorem predictMovement_eq_written (levels : Uuid → Option StockState) {l : PricedLine}
    {w : WrittenMovement}
    (h : applyStockMovement (lockedLevel (rowsOf levels) l.variantId) (saleRequest l) none = .ok w) :
    (predictMovement (readSaleStockLevels (rowsOf levels)) l).valueDeltaBaseMinor =
      w.valueDeltaBaseMinor := by
  rw [lockedLevel_rowsOf] at h
  obtain ⟨p, hp, hw⟩ := applyStockMovement_sale h
  obtain ⟨hneg, _, hheld, a, ha, _, rfl⟩ := outboundValue_eq_ok.mp hp
  rw [hw, predictMovement, readSaleStockLevels_rowsOf]
  cases hlevel : levels l.variantId with
  | none =>
    -- A key without a row holds nothing, and the writer refuses.
    rw [hlevel] at hheld
    have hempty : (Option.getD none EMPTY_STOCK_STATE).onHand = 0 := rfl
    omega
  | some s =>
    rw [hlevel] at ha
    have hscale : (0 : ℤ) < 10 ^ 14 := by norm_num
    have ha' : s.avg = some a := ha
    simp only [Option.map_some, Option.getD_some, ha', halfEven_eq hscale, outboundAmount, neg_neg,
      Q4_TIMES_C10]
    split <;> rfl

/-! ## 4. The sale -/

/-- Keys that are not written keep their predictions. -/
theorem applySaleMovements_values {rows rows' final : StockLevels} {lines : List PricedLine}
    {ws : List WrittenMovement} (hsame : ∀ l ∈ lines, rows' l.variantId = rows l.variantId)
    (hkeys : (lines.map (·.variantId)).Nodup) (h : applySaleMovements rows' lines = .ok (ws, final)) :
    List.Forall₂ (fun l w =>
      applyStockMovement (lockedLevel rows l.variantId) (saleRequest l) none = .ok w) lines ws := by
  induction lines generalizing rows' ws with
  | nil =>
    obtain ⟨rfl, _⟩ := Prod.mk.inj (Except.ok.inj h)
    exact .nil
  | cons l lines ih =>
    rw [List.map_cons, List.nodup_cons] at hkeys
    rw [List.forall_mem_cons] at hsame
    simp only [applySaleMovements, bind_eq_ok, pure_eq_ok, Prod.mk.injEq] at h
    obtain ⟨w, hw, ⟨rest, final'⟩, hrest, rfl, rfl⟩ := h
    refine .cons (by rw [← hw, lockedLevel, lockedLevel, hsame.1]) ?_
    refine ih (fun l' hl' => ?_) hkeys.2 hrest
    -- The keys are distinct, so the write of this line is not read again.
    have hne : l'.variantId ≠ l.variantId := fun heq => hkeys.1 (heq ▸ List.mem_map_of_mem hl')
    rw [Function.update_of_ne hne, hsame.2 l' hl']

/-- **An entry derived from the stored values completes the sale.** -/
theorem completeCogs_of_amount {facts : SaleCogsFacts} {entry : Option (List PostingLineCommand)}
    {actual : ℤ} (hcost : -(facts.movements.map (·.valueDeltaBaseMinor)).sum = actual)
    (h : deriveSaleCogsEntryLines facts = .ok entry) : completeCogs actual entry = .ok entry := by
  obtain ⟨t, ht, hsum, hentry⟩ := deriveSaleCogsEntryLines_amount h
  obtain rfl : t = actual := hsum.trans hcost
  rcases hentry with ⟨rfl, rfl⟩ | ⟨hne, at', rfl⟩
  · rfl
  · have hreleased : (if t < 0 then -t else t) = t := if_neg ht.not_gt
    simp only [completeCogs, hreleased, if_neg hne]
    have hsigned : ([cogsLine facts at' "cogs" "D" t, cogsLine facts at' "inventory" "C" t].map
        fun l => if l.side = "D" then l.baseAmountMinor else 0).sum = t := by
      simp [cogsLine]
    rw [hsigned, refuseIf_of_not (not_not.mpr rfl)]
    rfl

/-- **Predicted movements are written movements.** Line by line the writer stores the value that was
    predicted from its level; a sale on distinct keys costs the sum of its predictions, which is
    what its entry books on both sides, and is completed with that entry. -/
theorem predictMovements_written (levels : Uuid → Option StockState) (lines : List PricedLine) :
    (∀ l ∈ lines, ∀ w,
      applyStockMovement (lockedLevel (rowsOf levels) l.variantId) (saleRequest l) none = .ok w →
      (predictMovement (readSaleStockLevels (rowsOf levels)) l).valueDeltaBaseMinor =
        w.valueDeltaBaseMinor) ∧
    ((lines.map (·.variantId)).Nodup → ∀ ws final,
      applySaleMovements (rowsOf levels) lines = .ok (ws, final) →
      (predictMovements lines (readSaleStockLevels (rowsOf levels))).map (·.valueDeltaBaseMinor) =
        ws.map (·.valueDeltaBaseMinor) ∧
      ∀ facts actual entry,
        facts.movements = predictMovements lines (readSaleStockLevels (rowsOf levels)) →
        saleCostBaseMinor ws = .ok actual → deriveSaleCogsEntryLines facts = .ok entry →
        actual = -(ws.map (·.valueDeltaBaseMinor)).sum ∧
        (∀ booked ∈ entry, ∀ b ∈ booked, b.baseAmountMinor = actual ∧ b.txnAmountMinor = actual) ∧
        (entry = none ↔ actual = 0) ∧ completeCogs actual entry = .ok entry) := by
  refine ⟨fun l _ w h => predictMovement_eq_written levels h, fun hkeys ws final h => ?_⟩
  have hwritten := applySaleMovements_values (fun _ _ => rfl) hkeys h
  have hvalues : (predictMovements lines (readSaleStockLevels (rowsOf levels))).map
      (·.valueDeltaBaseMinor) = ws.map (·.valueDeltaBaseMinor) := by
    rw [predictMovements, List.map_map]
    clear h hkeys
    induction hwritten with
    | nil => rfl
    | cons hw _ ih =>
      rw [List.map_cons, List.map_cons, ih]
      exact congrArg (· :: _) (predictMovement_eq_written levels hw)
  refine ⟨hvalues, fun facts actual entry hfacts hactual hentry => ?_⟩
  obtain ⟨_, hcost⟩ := castBigint_int_eq_ok.mp hactual
  have hpredicted : -(facts.movements.map (·.valueDeltaBaseMinor)).sum = actual := by
    rw [hfacts, hvalues, hcost]
  obtain ⟨t, _, hsum, hamount⟩ := deriveSaleCogsEntryLines_amount hentry
  obtain rfl : t = actual := hsum.trans hpredicted
  refine ⟨hcost.symm, ?_, ?_, completeCogs_of_amount hpredicted hentry⟩
  · rcases hamount with ⟨_, rfl⟩ | ⟨_, at', rfl⟩
    · exact nofun
    · intro booked hbooked b hb
      obtain rfl := Option.some.inj hbooked
      rcases List.mem_cons.mp hb with rfl | hb
      · exact ⟨rfl, rfl⟩
      · obtain rfl := List.mem_singleton.mp hb
        exact ⟨rfl, rfl⟩
  · rcases hamount with ⟨hz, rfl⟩ | ⟨hne, at', rfl⟩
    · exact ⟨fun _ => hz, fun _ => rfl⟩
    · exact ⟨nofun, fun hz => absurd hz hne⟩

/-- A line that leaves two units of its key, and one that empties its key. -/
def sampleTaken : Uuid := .sample 10

def sampleEmptied : Uuid := .sample 11

def sampleLevels (v : Uuid) : Option StockState :=
  if v = sampleTaken then some ⟨30000, 10, some 33333333333, 1⟩
  else if v = sampleEmptied then some ⟨20000, 7, some 35000000000, 1⟩
  else none

def samplePricedLine (v : Uuid) (qtyQ4 : ℤ) : PricedLine :=
  ⟨v, v, none, v, "tea", qtyQ4, 50000000000, 5, 5, 0, 5⟩

def sampleSaleLines : List PricedLine :=
  [samplePricedLine sampleTaken 10000, samplePricedLine sampleEmptied 20000]

def sampleCogsFacts : SaleCogsFacts :=
  ⟨"2026-01-05", "branch", "warehouse", "try",
    predictMovements sampleSaleLines (readSaleStockLevels (rowsOf sampleLevels))⟩

theorem predictMovements_written_sample :
    ∃ ws entry, saleCostBaseMinor ws = .ok 10 ∧ deriveSaleCogsEntryLines sampleCogsFacts = .ok entry ∧
      completeCogs 10 entry = .ok entry := by
  obtain ⟨⟨ws, final⟩, hwritten⟩ := exists_of_isOk
    (x := applySaleMovements (rowsOf sampleLevels) sampleSaleLines) (by decide +kernel)
  obtain ⟨entry, hentry⟩ := exists_of_isOk (x := deriveSaleCogsEntryLines sampleCogsFacts)
    (by decide +kernel)
  have hpredicted : (predictMovements sampleSaleLines (readSaleStockLevels (rowsOf sampleLevels))).map
      (·.valueDeltaBaseMinor) = [-3, -7] := by
    decide +kernel
  obtain ⟨_, hsale⟩ := predictMovements_written sampleLevels sampleSaleLines
  obtain ⟨hvalues, hentries⟩ := hsale (by decide +kernel) ws final hwritten
  have hcost : saleCostBaseMinor ws = .ok 10 := by
    rw [saleCostBaseMinor, ← hvalues, hpredicted]
    decide +kernel
  exact ⟨ws, entry, hcost, hentry, (hentries sampleCogsFacts 10 entry rfl hcost hentry).2.2.2⟩

end Daftar.Pos
