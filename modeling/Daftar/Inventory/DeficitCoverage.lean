/-
  File: Daftar/Inventory/DeficitCoverage.lean
  Subject: Covering the deficit layers of a key inside a purchase receipt.

  * `planCoverage` plans every line of a receipt: the purchase movement first, then its layers in
    `(deficit_seq, id)` order (`coverLayers`), the last coverage of an exact close as a flush.
  * `Covered` is first-in-first-out consumption; `coverLayers_spec` says that is what the loop does
    and where it leaves the key.
  * `planCoverage_spec`: the deficit is covered in order, the layers left match the key again, an
    exact close leaves nothing, and the internal check never fails. `planCoverage_perm`: the order
    the layers are supplied in does not count.
-/

import Daftar.Identifiers
import Daftar.Inventory.PurchaseShares
import Mathlib.Data.String.Basic

namespace Daftar.Inventory

open Fallible
open Rounding

/-! ## 1. The plan -/

/-- One open deficit layer of the receipt's warehouse. -/
structure DeficitLayer where
  deficitId : Uuid
  variantId : Uuid
  deficitSeq : ℤ
  uncoveredQ4 : ℤ
  provisionalC10 : ℤ
  deriving DecidableEq

structure CoverageLineInput where
  lineId : Uuid
  variantId : Uuid
  qtyQ4 : ℤ
  baseShareMinor : ℤ
  deriving DecidableEq

inductive CoverageStatus
  | partiallyCovered
  | closed
  deriving DecidableEq, Repr

structure PlannedCoverage where
  deficitId : Uuid
  deficitSeq : ℤ
  qtyCoveredQ4 : ℤ
  provisionalC10 : ℤ
  actualC10 : ℤ
  formulaMinor : ℤ
  valueMinor : ℤ
  flush : Bool
  movement : Bool
  uncoveredAfterQ4 : ℤ
  statusAfter : CoverageStatus
  deriving DecidableEq

structure CoverageLinePlan where
  lineId : Uuid
  variantId : Uuid
  qtyQ4 : ℤ
  baseShareMinor : ℤ
  actualC10 : ℤ
  coveredQ4 : ℤ
  catchUpMinor : ℤ
  coverages : List PlannedCoverage
  stateAfter : StockState
  deriving DecidableEq

structure CoveragePlan where
  lines : List CoverageLinePlan
  coveredQ4 : ℤ
  totalValueMinor : ℤ
  deriving DecidableEq

def deficitStateInvalid (message : String) : InventoryError := ⟨.inventoryDeficitStateInvalid, message⟩

/-- `(deficit_seq, id)`, canonical uuids as text. -/
def Fifo (a b : DeficitLayer) : Prop :=
  a.deficitSeq < b.deficitSeq ∨
    a.deficitSeq = b.deficitSeq ∧ a.deficitId.text ≤ b.deficitId.text

instance : DecidableRel Fifo := fun _ _ => inferInstanceAs (Decidable (_ ∨ _))

/-- The layers of a variant, first in first. -/
def layersOf (layers : List DeficitLayer) (variantId : Uuid) : List DeficitLayer :=
  (layers.filter fun l => l.variantId = variantId).insertionSort Fifo

/-- A movement that does not exist when its value is zero. -/
def storeCatchUp (state : StockState) (valueMinor : ℤ) : Result StockState :=
  if valueMinor ≠ 0 then applyMovement state 0 valueMinor else .ok state

/-- One coverage of `c` of a layer. -/
def coverageOf (layer : DeficitLayer) (c actualC10 formulaMinor valueMinor : ℤ) (flush : Bool) :
    PlannedCoverage :=
  let uncoveredAfterQ4 := layer.uncoveredQ4 - c
  { deficitId := layer.deficitId, deficitSeq := layer.deficitSeq, qtyCoveredQ4 := c
    provisionalC10 := layer.provisionalC10, actualC10, formulaMinor, valueMinor, flush
    movement := decide (valueMinor ≠ 0), uncoveredAfterQ4
    statusAfter := if uncoveredAfterQ4 = 0 then .closed else .partiallyCovered }

/-- The loop over the layers with the quantity that remains. -/
def coverLayers (actualC10 : ℤ) (closesAll : Bool) :
    List DeficitLayer → ℤ → StockState → Result (List PlannedCoverage × StockState)
  | [], _, state => .ok ([], state)
  | layer :: layers, remaining, state =>
    if remaining = 0 then .ok ([], state)
    else do
      let c := if layer.uncoveredQ4 < remaining then layer.uncoveredQ4 else remaining
      let formulaMinor ← catchUpValue c actualC10 layer.provisionalC10
      let flush := closesAll && decide (remaining - c = 0)
      let valueMinor := if flush then -state.valuation else formulaMinor
      let next ← storeCatchUp state valueMinor
      let (coverages, final) ← coverLayers actualC10 closesAll layers (remaining - c) next
      pure (coverageOf layer c actualC10 formulaMinor valueMinor flush :: coverages, final)

def checkLayer (layer : DeficitLayer) : Result Unit := do
  refuseIf (layer.uncoveredQ4 ≤ 0)
    (deficitStateInvalid "an open deficit layer must have an uncovered quantity")
  refuseIf (layer.provisionalC10 < 0 ∨ layer.provisionalC10 ≥ COST_LIMIT_C10)
    (deficitStateInvalid "a deficit layer must have a non-negative provisional cost")

/-- What the layers of a key hold. -/
def uncoveredSum (layers : List DeficitLayer) : ℤ := (layers.map (·.uncoveredQ4)).sum

/-- The deficit of a key with this on hand. -/
def deficitOf (onHand : ℤ) : ℤ := if onHand < 0 then -onHand else 0

def flushLeftValue : Fault := .defect "a zero-crossing flush left the key with value"

def planLine (line : CoverageLineInput) (layers : List DeficitLayer) (before : Option StockState) :
    Except Fault CoverageLinePlan := do
  let state := before.getD EMPTY_STOCK_STATE
  let _ ← typed (layers.mapM checkLayer)
  let deficitQ4 := uncoveredSum layers
  typed (refuseIf (deficitQ4 ≠ deficitOf state.onHand)
    (deficitStateInvalid "the open deficit layers do not hold the key deficit"))
  let actualC10 ← typed (unitCostC10 line.baseShareMinor line.qtyQ4)
  let received ← typed (applyMovement state line.qtyQ4 line.baseShareMinor)
  let closesAll := decide (0 < deficitQ4 ∧ line.qtyQ4 = deficitQ4)
  let (coverages, final) ← typed (coverLayers actualC10 closesAll layers line.qtyQ4 received)
  refuseIf (closesAll = true ∧ (final.onHand ≠ 0 ∨ final.valuation ≠ 0)) flushLeftValue
  pure
    { lineId := line.lineId, variantId := line.variantId, qtyQ4 := line.qtyQ4
      baseShareMinor := line.baseShareMinor, actualC10
      coveredQ4 := (coverages.map (·.qtyCoveredQ4)).sum
      catchUpMinor := (coverages.map (·.valueMinor)).sum
      coverages, stateAfter := final }

def planCoverage (layers : List DeficitLayer) (keyStates : Uuid → Option StockState)
    (lines : List CoverageLineInput) : Except Fault CoveragePlan := do
  refuseIf (¬ (lines.map (·.variantId)).Nodup)
    (.refused ⟨.inventoryDuplicateLine, "a receipt carries one line per variant"⟩)
  let planned ← lines.mapM fun line =>
    planLine line (layersOf layers line.variantId) (keyStates line.variantId)
  pure ⟨planned, (planned.map (·.coveredQ4)).sum, (planned.map (·.catchUpMinor)).sum⟩

/-! ## 2. First in, first out -/

/-- A quantity taken from layers in order, each one closed before the next is touched. -/
inductive Covered : List DeficitLayer → ℤ → List PlannedCoverage → Prop
  | none (r : ℤ) : Covered [] r []
  | done (layers : List DeficitLayer) : Covered layers 0 []
  | cover {l : DeficitLayer} {layers : List DeficitLayer} {r : ℤ} {c : PlannedCoverage}
      {cs : List PlannedCoverage} (hr : 0 < r) (hid : c.deficitId = l.deficitId)
      (hqty : c.qtyCoveredQ4 = min l.uncoveredQ4 r)
      (hafter : c.uncoveredAfterQ4 = l.uncoveredQ4 - c.qtyCoveredQ4)
      (hstatus : c.statusAfter = .closed ↔ c.uncoveredAfterQ4 = 0)
      (hrest : Covered layers (r - c.qtyCoveredQ4) cs) : Covered (l :: layers) r (c :: cs)

/-- The layers as a receipt leaves them: those it closed are gone. -/
def layersLeft : List DeficitLayer → List PlannedCoverage → List DeficitLayer
  | layers, [] => layers
  | [], _ :: _ => []
  | l :: layers, c :: cs =>
    if c.uncoveredAfterQ4 = 0 then layersLeft layers cs
    else { l with uncoveredQ4 := c.uncoveredAfterQ4 } :: layersLeft layers cs

theorem uncoveredSum_cons (l : DeficitLayer) (layers : List DeficitLayer) :
    uncoveredSum (l :: layers) = l.uncoveredQ4 + uncoveredSum layers := List.sum_cons

theorem uncoveredSum_nonneg {layers : List DeficitLayer} (h : ∀ l ∈ layers, 0 < l.uncoveredQ4) :
    0 ≤ uncoveredSum layers := by
  refine List.sum_nonneg fun x hx => ?_
  obtain ⟨l, hl, rfl⟩ := List.mem_map.mp hx
  exact (h l hl).le

/-- What the coverages take. -/
def coveredSum (cs : List PlannedCoverage) : ℤ := (cs.map (·.qtyCoveredQ4)).sum

theorem coveredSum_cons (c : PlannedCoverage) (cs : List PlannedCoverage) :
    coveredSum (c :: cs) = c.qtyCoveredQ4 + coveredSum cs := List.sum_cons

theorem layersLeft_nil (layers : List DeficitLayer) : layersLeft layers [] = layers := by
  cases layers <;> rfl

namespace Covered

variable {layers : List DeficitLayer} {r : ℤ} {cs : List PlannedCoverage}

/-- The quantity, or all there is. -/
theorem sum_eq (h : Covered layers r cs) (hpos : ∀ l ∈ layers, 0 < l.uncoveredQ4) (hr : 0 ≤ r) :
    coveredSum cs = min r (uncoveredSum layers) := by
  induction h with
  | none r =>
    have hmin : min r (uncoveredSum []) = 0 := min_eq_right hr
    exact hmin.symm
  | done layers =>
    have hmin : min 0 (uncoveredSum layers) = 0 := min_eq_left (uncoveredSum_nonneg hpos)
    exact hmin.symm
  | cover hr _ hqty _ _ _ ih =>
    rw [List.forall_mem_cons] at hpos
    have hrest := ih hpos.2 (by omega)
    have hl := hpos.1
    have hnonneg := uncoveredSum_nonneg hpos.2
    rw [uncoveredSum_cons, coveredSum_cons]
    omega

/-- Where a layer is touched, something was left to cover. -/
theorem pos_of_mem (h : Covered layers r cs) {c : PlannedCoverage} (hc : c ∈ cs) : 0 < r := by
  cases h with
  | none => cases hc
  | done => cases hc
  | cover hr => exact hr

/-- Only the last touched layer may stay open. -/
theorem closed (h : Covered layers r cs) : cs.Pairwise fun a _ => a.statusAfter = .closed := by
  induction h with
  | none r => exact .nil
  | done layers => exact .nil
  | cover hr _ hqty hafter hstatus hrest ih =>
    refine List.pairwise_cons.mpr ⟨fun b hb => hstatus.mpr ?_, ih⟩
    have hmore := hrest.pos_of_mem hb
    omega

/-- The touched layers are the first ones. -/
theorem inOrder (h : Covered layers r cs) :
    cs.map (·.deficitId) = (layers.take cs.length).map (·.deficitId) := by
  induction h with
  | none r => rfl
  | done layers => rfl
  | cover hr hid _ _ _ _ ih =>
    rw [List.map_cons, List.length_cons, List.take_succ_cons, List.map_cons, ih, hid]

/-- What is left is what was not taken. -/
theorem left_sum (h : Covered layers r cs) :
    uncoveredSum (layersLeft layers cs) = uncoveredSum layers - coveredSum cs := by
  induction h with
  | none r => rfl
  | done layers =>
    rw [layersLeft_nil]
    exact (sub_zero _).symm
  | cover hr _ _ hafter _ _ ih =>
    rw [layersLeft, uncoveredSum_cons, coveredSum_cons]
    split
    · omega
    · rw [uncoveredSum_cons]
      dsimp only
      omega

/-- What is left is open, at its provisional cost. -/
theorem left_open (h : Covered layers r cs) (hlayers : ∀ l ∈ layers, checkLayer l = .ok ()) :
    ∀ l ∈ layersLeft layers cs, checkLayer l = .ok () := by
  induction h with
  | none r => exact nofun
  | done layers => exact (layersLeft_nil layers).symm ▸ hlayers
  | cover hr _ hqty hafter _ _ ih =>
    rw [List.forall_mem_cons] at hlayers
    rw [layersLeft]
    split
    · exact ih hlayers.2
    · rw [List.forall_mem_cons]
      refine ⟨?_, ih hlayers.2⟩
      have hl := hlayers.1
      simp only [checkLayer, bind_eq_ok, refuseIf_eq_ok, exists_const, not_le] at hl ⊢
      exact ⟨by omega, hl.2⟩

end Covered

/-! ## 3. The loop -/

/-- A stored catch-up moves the value alone. -/
theorem storeCatchUp_next {s t : StockState} {v : ℤ} (h : storeCatchUp s v = .ok t) :
    t.onHand = s.onHand ∧ t.valuation = s.valuation + v := by
  unfold storeCatchUp at h
  split at h
  · obtain ⟨_, _, _, _, _, _, rfl⟩ := applyMovement_eq_ok.mp h
    exact ⟨add_zero _, rfl⟩
  · next hv =>
    obtain rfl := Except.ok.inj h
    exact ⟨rfl, by omega⟩

/-- One turn of the loop. -/
theorem coverLayers_cons {a : ℤ} {closes : Bool} {l : DeficitLayer} {layers : List DeficitLayer}
    {r : ℤ} {s t : StockState} {cs : List PlannedCoverage} (hr : r ≠ 0)
    (h : coverLayers a closes (l :: layers) r s = .ok (cs, t)) :
    ∃ f next rest, storeCatchUp s
        (if closes && decide (r - min l.uncoveredQ4 r = 0) then -s.valuation else f) = .ok next ∧
      coverLayers a closes layers (r - min l.uncoveredQ4 r) next = .ok (rest, t) ∧
      coverageOf l (min l.uncoveredQ4 r) a f
        (if closes && decide (r - min l.uncoveredQ4 r = 0) then -s.valuation else f)
        (closes && decide (r - min l.uncoveredQ4 r = 0)) :: rest = cs := by
  have hmin : (if l.uncoveredQ4 < r then l.uncoveredQ4 else r) = min l.uncoveredQ4 r := by
    rw [min_def]
    split <;> split <;> omega
  simp only [coverLayers, if_neg hr, hmin, bind_eq_ok, pure_eq_ok, Prod.mk.injEq] at h
  obtain ⟨f, _, next, hnext, ⟨rest, u⟩, hrest, rfl, rfl⟩ := h
  exact ⟨f, next, rest, hnext, hrest, rfl⟩

/-- **The loop covers first in first out**, and moves the value alone. -/
theorem coverLayers_spec {a : ℤ} {closes : Bool} {layers : List DeficitLayer} {r : ℤ}
    {s t : StockState} {cs : List PlannedCoverage} (hr : 0 ≤ r)
    (h : coverLayers a closes layers r s = .ok (cs, t)) :
    Covered layers r cs ∧ t.onHand = s.onHand ∧
      t.valuation = s.valuation + (cs.map (·.valueMinor)).sum := by
  induction layers generalizing r s cs with
  | nil =>
    obtain ⟨rfl, rfl⟩ := Prod.mk.inj (Except.ok.inj h)
    exact ⟨.none r, rfl, (add_zero _).symm⟩
  | cons l layers ih =>
    by_cases hz : r = 0
    · rw [coverLayers, if_pos hz] at h
      obtain ⟨rfl, rfl⟩ := Prod.mk.inj (Except.ok.inj h)
      exact ⟨hz ▸ .done _, rfl, (add_zero _).symm⟩
    · obtain ⟨f, next, rest, hnext, hrest, rfl⟩ := coverLayers_cons hz h
      obtain ⟨hon, hval⟩ := storeCatchUp_next hnext
      obtain ⟨hcovered, hon', hval'⟩ := ih (by omega) hrest
      refine ⟨.cover (by omega) rfl rfl rfl ?_ hcovered, hon'.trans hon, ?_⟩
      · simp [coverageOf]
      · rw [hval', hval, List.map_cons, List.sum_cons, ← add_assoc]
        rfl

/-- **An exact close flushes the key**: its last coverage takes what value is left. -/
theorem coverLayers_flush {a : ℤ} {layers : List DeficitLayer} {r : ℤ} {s t : StockState}
    {cs : List PlannedCoverage} (hpos : ∀ l ∈ layers, 0 < l.uncoveredQ4) (hr : 0 < r)
    (hsum : uncoveredSum layers = r) (h : coverLayers a true layers r s = .ok (cs, t)) :
    t.valuation = 0 := by
  induction layers generalizing r s cs with
  | nil =>
    have hzero : uncoveredSum [] = 0 := rfl
    omega
  | cons l layers ih =>
    obtain ⟨f, next, rest, hnext, hrest, rfl⟩ := coverLayers_cons hr.ne' h
    rw [List.forall_mem_cons] at hpos
    rw [uncoveredSum_cons] at hsum
    have hnonneg := uncoveredSum_nonneg hpos.2
    have hl := hpos.1
    have hleft : r - min l.uncoveredQ4 r = uncoveredSum layers := by omega
    rcases hnonneg.eq_or_lt with hzero | hmore
    · -- The last layer: its value is what the key is worth, and no other is covered.
      rw [hleft, ← hzero] at hnext hrest
      obtain ⟨_, hval⟩ := storeCatchUp_next hnext
      obtain ⟨hcovered, _, hval'⟩ := coverLayers_spec le_rfl hrest
      obtain rfl : rest = [] := List.eq_nil_iff_forall_not_mem.mpr fun c hc =>
        lt_irrefl 0 (hcovered.pos_of_mem hc)
      simpa [hval] using hval'
    · exact ih hpos.2 (by omega) hleft.symm hrest

/-! ## 4. A line -/

/-- The plan of a line against the layers of its key, first in first. -/
structure Covers (layers : List DeficitLayer) (before : StockState) (line : CoverageLineInput)
    (p : CoverageLinePlan) : Prop where
  ofLine : p.lineId = line.lineId ∧ p.variantId = line.variantId ∧ p.qtyQ4 = line.qtyQ4 ∧
    p.baseShareMinor = line.baseShareMinor
  fifo : Covered layers line.qtyQ4 p.coverages
  covered : coveredSum p.coverages = min line.qtyQ4 (uncoveredSum layers)
  coveredQ4 : p.coveredQ4 = coveredSum p.coverages
  inOrder : p.coverages.map (·.deficitId) = (layers.take p.coverages.length).map (·.deficitId)
  closed : p.coverages.Pairwise fun a _ => a.statusAfter = .closed
  leftOpen : ∀ l ∈ layersLeft layers p.coverages, checkLayer l = .ok ()
  leftSum : uncoveredSum (layersLeft layers p.coverages) = max 0 (-p.stateAfter.onHand)
  onHand : p.stateAfter.onHand = before.onHand + line.qtyQ4
  valuation : p.stateAfter.valuation =
    before.valuation + line.baseShareMinor + (p.coverages.map (·.valueMinor)).sum
  flushed : line.qtyQ4 = uncoveredSum layers →
    p.stateAfter.onHand = 0 ∧ p.stateAfter.valuation = 0

theorem checkLayers_eq_ok {layers : List DeficitLayer} {us : List Unit}
    (h : layers.mapM checkLayer = .ok us) : ∀ l ∈ layers, checkLayer l = .ok () := by
  intro l hl
  obtain ⟨_, hu⟩ := mapM_accepts h hl
  exact hu

theorem uncovered_pos {layers : List DeficitLayer} (h : ∀ l ∈ layers, checkLayer l = .ok ()) :
    ∀ l ∈ layers, 0 < l.uncoveredQ4 := by
  intro l hl
  have hchecked := h l hl
  simp only [checkLayer, bind_eq_ok, refuseIf_eq_ok, exists_const, not_le] at hchecked
  exact hchecked.1

theorem deficitOf_eq (q : ℤ) : deficitOf q = max 0 (-q) := by
  unfold deficitOf
  split <;> omega

section Line

variable {line : CoverageLineInput} {layers : List DeficitLayer} {state received final : StockState}
  {a : ℤ} {closes : Bool} {cs : List PlannedCoverage}

/-- A receipt of the whole deficit leaves neither stock nor value. -/
theorem exactClose_clean (hlayers : ∀ l ∈ layers, checkLayer l = .ok ())
    (hdeficit : uncoveredSum layers = deficitOf state.onHand) (hpos : 0 < uncoveredSum layers)
    (hqty : line.qtyQ4 = uncoveredSum layers)
    (happly : applyMovement state line.qtyQ4 line.baseShareMinor = .ok received)
    (hcover : coverLayers a true layers line.qtyQ4 received = .ok (cs, final)) :
    final.onHand = 0 ∧ final.valuation = 0 := by
  obtain ⟨_, hon, _⟩ := coverLayers_spec (hqty ▸ hpos.le) hcover
  obtain ⟨_, _, _, _, _, _, rfl⟩ := applyMovement_eq_ok.mp happly
  rw [deficitOf_eq] at hdeficit
  refine ⟨?_, coverLayers_flush (uncovered_pos hlayers) (hqty ▸ hpos) hqty.symm hcover⟩
  rw [hon]
  dsimp only
  omega

/-- **A planned line covers its key.** -/
theorem planLine_covers {before : Option StockState} {p : CoverageLinePlan}
    (h : planLine line layers before = .ok p) :
    Covers layers (before.getD EMPTY_STOCK_STATE) line p := by
  simp only [planLine, bind_eq_ok, typed_eq_ok, refuseIf_eq_ok, exists_const, pure_eq_ok,
    not_not] at h
  obtain ⟨_, hchecks, hdeficit, actual, hactual, received, happly, ⟨cs, final⟩, hcover, _, rfl⟩ := h
  have hlayers := checkLayers_eq_ok hchecks
  have hpos := uncovered_pos hlayers
  have hq := (unitCostC10_eq_ok.mp hactual).1.1
  obtain ⟨hfifo, hon, hval⟩ := coverLayers_spec hq.le hcover
  have hstate : received.onHand = (before.getD EMPTY_STOCK_STATE).onHand + line.qtyQ4 ∧
      received.valuation = (before.getD EMPTY_STOCK_STATE).valuation + line.baseShareMinor := by
    obtain ⟨_, _, _, _, _, _, rfl⟩ := applyMovement_eq_ok.mp happly
    exact ⟨rfl, rfl⟩
  have hleft := hfifo.left_sum
  have hsum := hfifo.sum_eq hpos hq.le
  refine
    { ofLine := ⟨rfl, rfl, rfl, rfl⟩, fifo := hfifo, covered := hsum, coveredQ4 := rfl
      inOrder := hfifo.inOrder, closed := hfifo.closed, leftOpen := hfifo.left_open hlayers
      leftSum := ?_, onHand := hon.trans hstate.1, valuation := by rw [hval, hstate.2]
      flushed := fun hqty => ?_ }
  · rw [deficitOf_eq] at hdeficit
    dsimp only
    omega
  · have hall : 0 < uncoveredSum layers := hqty ▸ hq
    rw [decide_eq_true ⟨hall, hqty⟩] at hcover
    exact exactClose_clean hlayers hdeficit hall hqty happly hcover

/-- **No line ends in the internal check.** -/
theorem planLine_refusesOnly (before : Option StockState) :
    RefusesOnly (fun f => ∃ e, f = .refused e) (planLine line layers before) := by
  refine (typed_refusesOnly _).bind fun _ hchecks => ?_
  refine (typed_refusesOnly _).bind fun _ hdeficit => ?_
  refine (typed_refusesOnly _).bind fun actual _ => ?_
  refine (typed_refusesOnly _).bind fun received happly => ?_
  refine (typed_refusesOnly _).bind fun (cs, final) hcover => ?_
  refine RefusesOnly.bind (refusesOnly_refuseIf fun hleft => ?_) fun _ _ => refusesOnly_pure _
  rw [typed_eq_ok, refuseIf_eq_ok, not_not] at hdeficit
  obtain ⟨hall, hqty⟩ := of_decide_eq_true hleft.1
  rw [typed_eq_ok, hleft.1] at hcover
  have hclean := exactClose_clean (checkLayers_eq_ok (typed_eq_ok.mp hchecks)) hdeficit hall hqty
    (typed_eq_ok.mp happly) hcover
  exact absurd hclean (by tauto)

end Line

/-! ## 5. The receipt -/

theorem fifo_total (a b : DeficitLayer) : Fifo a b ∨ Fifo b a := by
  rcases lt_trichotomy a.deficitSeq b.deficitSeq with hlt | heq | hlt
  · exact .inl (.inl hlt)
  · exact (le_total a.deficitId.text b.deficitId.text).imp (fun h => .inr ⟨heq, h⟩)
      fun h => .inr ⟨heq.symm, h⟩
  · exact .inr (.inl hlt)

/-- Layers that come first of each other have one id. -/
theorem fifo_antisymm {a b : DeficitLayer} (hab : Fifo a b) (hba : Fifo b a) :
    a.deficitId = b.deficitId := by
  rcases hab with hab | ⟨_, hab⟩ <;> rcases hba with hba | ⟨_, hba⟩
  · omega
  · omega
  · omega
  · exact Uuid.ext_text (le_antisymm hab hba)

theorem fifo_trans {a b c : DeficitLayer} (hab : Fifo a b) (hbc : Fifo b c) : Fifo a c := by
  rcases hab with hab | ⟨hab, htext⟩
  · exact .inl (by rcases hbc with hbc | ⟨hbc, _⟩ <;> omega)
  · rcases hbc with hbc | ⟨hbc, htext'⟩
    · exact .inl (by omega)
    · exact .inr ⟨by omega, htext.trans htext'⟩

instance : Std.Total Fifo := ⟨fifo_total⟩

instance : IsTrans DeficitLayer Fifo := ⟨fun _ _ _ => fifo_trans⟩

theorem layersOf_pairwise (layers : List DeficitLayer) (variantId : Uuid) :
    (layersOf layers variantId).Pairwise Fifo := List.pairwise_insertionSort _ _

theorem layersOf_perm (layers : List DeficitLayer) (variantId : Uuid) :
    (layersOf layers variantId).Perm (layers.filter fun l => l.variantId = variantId) :=
  List.perm_insertionSort _ _

/-- Ids are a primary key: one id names one layer. -/
def OneLayerPerId (layers : List DeficitLayer) : Prop :=
  ∀ a ∈ layers, ∀ b ∈ layers, a.deficitId = b.deficitId → a = b

/-- The layers of a key come out in one order. -/
theorem layersOf_of_perm {layers layers' : List DeficitLayer} (hids : OneLayerPerId layers)
    (hperm : layers.Perm layers') (variantId : Uuid) :
    layersOf layers variantId = layersOf layers' variantId := by
  have hmem : ∀ l ∈ layersOf layers variantId, l ∈ layers := fun l hl =>
    List.mem_of_mem_filter ((layersOf_perm layers variantId).mem_iff.mp hl)
  have hsame : (layersOf layers variantId).Perm (layersOf layers' variantId) :=
    (layersOf_perm _ _).trans ((hperm.filter _).trans (layersOf_perm _ _).symm)
  refine hsame.eq_of_pairwise (fun a b ha hb hab hba => ?_) (layersOf_pairwise _ _)
    (layersOf_pairwise _ _)
  exact hids a (hmem a ha) b (hmem b (hsame.mem_iff.mpr hb)) (fifo_antisymm hab hba)

theorem planCoverage_of_perm {layers layers' : List DeficitLayer} (hids : OneLayerPerId layers)
    (hperm : layers.Perm layers') (keyStates : Uuid → Option StockState)
    (lines : List CoverageLineInput) :
    planCoverage layers keyStates lines = planCoverage layers' keyStates lines := by
  simp only [planCoverage, layersOf_of_perm hids hperm]

theorem planCoverage_covers {layers : List DeficitLayer} {keyStates : Uuid → Option StockState}
    {lines : List CoverageLineInput} {plan : CoveragePlan}
    (h : planCoverage layers keyStates lines = .ok plan) :
    List.Forall₂ (fun line p => Covers (layersOf layers line.variantId)
        ((keyStates line.variantId).getD EMPTY_STOCK_STATE) line p) lines plan.lines := by
  simp only [planCoverage, bind_eq_ok, refuseIf_eq_ok, exists_const, pure_eq_ok] at h
  obtain ⟨_, planned, hplanned, rfl⟩ := h
  exact (mapM_eq_ok.mp hplanned).imp fun _ _ hline => planLine_covers hline

theorem planCoverage_no_defect (layers : List DeficitLayer) (keyStates : Uuid → Option StockState)
    (lines : List CoverageLineInput) :
    RefusesOnly (fun f => ∃ e, f = .refused e) (planCoverage layers keyStates lines) := by
  refine (refusesOnly_refuseIf fun _ => ⟨_, rfl⟩).bind fun _ _ => ?_
  refine (RefusesOnly.mapM fun line _ => planLine_refusesOnly _).bind fun _ _ => ?_
  exact refusesOnly_pure _

/-- **The coverage of a receipt**: each accepted line covers the layers of its key in
    `(deficit_seq, id)` order and leaves them matching the key again, a refusal is never the
    internal check, and the order the layers are supplied in does not count. -/
theorem planCoverage_spec (layers : List DeficitLayer) (keyStates : Uuid → Option StockState)
    (lines : List CoverageLineInput) :
    (∀ plan, planCoverage layers keyStates lines = .ok plan →
      List.Forall₂ (fun line p => Covers (layersOf layers line.variantId)
        ((keyStates line.variantId).getD EMPTY_STOCK_STATE) line p) lines plan.lines) ∧
    (∀ variantId, (layersOf layers variantId).Pairwise Fifo ∧
      (layersOf layers variantId).Perm (layers.filter fun l => l.variantId = variantId)) ∧
    planCoverage layers keyStates lines ≠ .error flushLeftValue ∧
    (∀ layers', OneLayerPerId layers → layers.Perm layers' →
      planCoverage layers' keyStates lines = planCoverage layers keyStates lines) := by
  refine ⟨fun plan h => planCoverage_covers h,
    fun v => ⟨layersOf_pairwise layers v, layersOf_perm layers v⟩, fun h => ?_,
    fun layers' hids hperm => (planCoverage_of_perm hids hperm keyStates lines).symm⟩
  obtain ⟨_, he⟩ := planCoverage_no_defect layers keyStates lines _ h
  cases he

/-- Two layers of a key supplied newest first, and a receipt of its whole deficit. -/
def sampleVariant : Uuid := ⟨"00000000-0000-0000-0000-00000000000a", by decide +kernel⟩

def sampleLayers : List DeficitLayer :=
  [⟨⟨"00000000-0000-0000-0000-0000000000b2", by decide +kernel⟩, sampleVariant, 2, 20000,
      5000000000⟩,
    ⟨⟨"00000000-0000-0000-0000-0000000000b1", by decide +kernel⟩, sampleVariant, 1, 10000,
      5000000000⟩]

def sampleReceiptLine : CoverageLineInput := ⟨sampleVariant, sampleVariant, 30000, 5⟩

def sampleKeyStates (_ : Uuid) : Option StockState := some ⟨-30000, -2, some 5000000000, 4⟩

theorem planCoverage_spec_sample :
    ∃ plan, planCoverage sampleLayers sampleKeyStates [sampleReceiptLine] = .ok plan ∧
      List.Forall₂ (fun line p => Covers (layersOf sampleLayers line.variantId)
        ⟨-30000, -2, some 5000000000, 4⟩ line p) [sampleReceiptLine] plan.lines ∧
      planCoverage sampleLayers.reverse sampleKeyStates [sampleReceiptLine] = .ok plan := by
  obtain ⟨hcovers, _, _, hperm⟩ :=
    planCoverage_spec sampleLayers sampleKeyStates [sampleReceiptLine]
  have hids : OneLayerPerId sampleLayers := by
    unfold OneLayerPerId
    decide +kernel
  obtain ⟨plan, hplan⟩ := exists_of_isOk (x := planCoverage sampleLayers sampleKeyStates
    [sampleReceiptLine]) (by decide +kernel)
  exact ⟨plan, hplan, hcovers plan hplan, (hperm _ hids (List.reverse_perm _).symm).trans hplan⟩

end Daftar.Inventory
