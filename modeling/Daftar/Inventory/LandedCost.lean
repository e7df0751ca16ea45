/-
  File: Daftar/Inventory/LandedCost.lean
  Subject: Purchase arithmetic: line nets, landed costs, totals, and what the receipt puts on stock.

  * `lineTotals` takes the lines and the landed costs to the purchase total `T`; `baseShares`
    splits the base amount over the line totals; `receiveLines` puts each share on its key.
  * `landedLines_sum`: the amounts per line and the amounts per cost are one table, added up by
    rows or by columns. So the internal check of `lineTotals` never fails.
  * `purchase_conserved`: no minor unit is lost from the costs to the valuations.
-/

import Daftar.Inventory.PurchaseShares
import Mathlib.Algebra.BigOperators.Group.Finset.Basic
import Mathlib.Logic.Function.Basic

namespace Daftar.Inventory.LandedCost

open Fallible
open Rounding

/-! ## 1. Definitions -/

inductive LandedCostMode
  | byValue
  | manual
  deriving DecidableEq, Repr

/-- A purchase has at most ten landed costs. -/
def MAX_LANDED_COSTS : ℕ := 10

/-- One purchase line, in `line_no` order. -/
structure PurchaseLineInput where
  qtyQ4 : ℤ
  unitPriceC10 : ℤ
  discountMinor : ℤ
  deriving DecidableEq

structure LandedCostInput where
  mode : LandedCostMode
  amountMinor : ℤ
  allocations : Option (List ℤ)
  deriving DecidableEq

/-- One line's amounts before the landed costs. -/
structure PurchaseLineNet where
  grossMinor : ℤ
  discountMinor : ℤ
  netMinor : ℤ
  deriving DecidableEq

structure PurchaseLineTotals extends PurchaseLineNet where
  landedMinor : ℤ
  totalMinor : ℤ
  deriving DecidableEq

structure PurchaseTotals where
  lines : List PurchaseLineTotals
  allocations : List (List ℤ)
  subtotalMinor : ℤ
  landedMinor : ℤ
  taxMinor : ℤ
  totalMinor : ℤ
  deriving DecidableEq

def landedCostInvalid (message : String) : InventoryError := ⟨.purchaseLandedCostInvalid, message⟩

def lineGross (qtyQ4 unitPriceC10 : ℤ) : Result ℤ := do
  refuseIf (qtyQ4 ≤ 0 ∨ qtyQ4 ≥ QTY_LIMIT_Q4)
    ⟨.inventoryQuantityInvalid, "a purchase quantity must be positive and within range"⟩
  refuseIf (unitPriceC10 < 0 ∨ unitPriceC10 ≥ COST_LIMIT_C10)
    ⟨.inventoryCostInvalid, "a unit price must be non-negative and within range"⟩
  roundHalfEven (qtyQ4 * unitPriceC10) Q4_TIMES_C10

def lineNet (grossMinor discountMinor : ℤ) : Result ℤ := do
  refuseIf (discountMinor < 0 ∨ discountMinor > grossMinor)
    ⟨.purchaseDiscountInvalid, "a line discount must be between zero and the line gross"⟩
  pure (grossMinor - discountMinor)

def assertLandedAmount (amountMinor : ℤ) : Result Unit :=
  refuseIf (amountMinor ≤ 0 ∨ amountMinor > VALUE_LIMIT_MINOR)
    (landedCostInvalid "a landed cost amount must be a positive integer within range")

/-- The amount over the line nets; there is no equal split to fall back on. -/
def allocateByValue (amountMinor : ℤ) (netsMinor : List ℤ) : Result (List ℤ) := do
  assertLandedAmount amountMinor
  refuseIf (netsMinor.length = 0) (landedCostInvalid "a landed cost needs at least one line")
  refuseIf (∃ n ∈ netsMinor, n < 0)
    (landedCostInvalid "a line net must be a non-negative integer")
  refuseIf (netsMinor.sum = 0) ⟨.purchaseLandedCostDenominatorZero,
    "a by-value landed cost needs lines whose nets are not all zero"⟩
  largestRemainder (netsMinor.map fun units => ⟨units, 0⟩) amountMinor

/-- The supplied allocations, unchanged. -/
def validateManual (amountMinor : ℤ) (allocationsMinor : List ℤ) (lineCount : ℕ) :
    Result (List ℤ) := do
  assertLandedAmount amountMinor
  refuseIf (allocationsMinor.length ≠ lineCount ∨ lineCount = 0)
    (landedCostInvalid "a manual landed cost allocates one amount per line")
  refuseIf (∃ a ∈ allocationsMinor, a < 0)
    (landedCostInvalid "a manual allocation must be a non-negative integer")
  refuseIf (allocationsMinor.sum ≠ amountMinor) ⟨.purchaseLandedCostAllocationMismatch,
    "the manual allocations do not add up to the landed cost exactly"⟩
  pure allocationsMinor

def netOfLine (l : PurchaseLineInput) : Result PurchaseLineNet := do
  let grossMinor ← lineGross l.qtyQ4 l.unitPriceC10
  let netMinor ← lineNet grossMinor l.discountMinor
  pure ⟨grossMinor, l.discountMinor, netMinor⟩

def allocateCost (nets : List ℤ) (lineCount : ℕ) (c : LandedCostInput) : Result (List ℤ) :=
  match c.mode, c.allocations with
  | .byValue, some _ => .error (landedCostInvalid "a by-value landed cost carries no allocations")
  | .byValue, none => allocateByValue c.amountMinor nets
  | .manual, none => .error (landedCostInvalid "a manual landed cost states its allocations")
  | .manual, some allocations => validateManual c.amountMinor allocations lineCount

/-- What the costs put on line `i`. -/
def landedOfLine (allocations : List (List ℤ)) (i : ℕ) : ℤ :=
  (allocations.map fun row => row.getD i 0).sum

def landedLines (nets : List PurchaseLineNet) (allocations : List (List ℤ)) :
    List PurchaseLineTotals :=
  nets.zipIdx.map fun (l, i) =>
    { l with
      landedMinor := landedOfLine allocations i
      totalMinor := l.netMinor + landedOfLine allocations i }

def totalsDoNotAddUp : Fault := .defect "purchase totals do not add up"

def lineTotals (lines : List PurchaseLineInput) (landedCosts : List LandedCostInput)
    (taxMinor : ℤ) : Except Fault PurchaseTotals := do
  typed (refuseIf (lines.length = 0)
    ⟨.inventoryLinesRequired, "a purchase needs at least one line"⟩)
  typed (refuseIf (landedCosts.length > MAX_LANDED_COSTS)
    (landedCostInvalid "a purchase has at most 10 landed costs"))
  typed (refuseIf (taxMinor ≠ 0)
    ⟨.inventoryPayloadInvalid, "a purchase tax other than zero is not supported (OD-03)"⟩)
  let nets ← typed (lines.mapM netOfLine)
  let allocations ← typed (landedCosts.mapM (allocateCost (nets.map (·.netMinor)) lines.length))
  let out := landedLines nets allocations
  let subtotalMinor := (nets.map (·.netMinor)).sum
  let landedMinor := (landedCosts.map (·.amountMinor)).sum
  let totalMinor := subtotalMinor + landedMinor + taxMinor
  refuseIf (totalMinor ≠ (out.map (·.totalMinor)).sum + taxMinor) totalsDoNotAddUp
  typed (refuseIf (totalMinor = 0) (purchaseTotalZero "a purchase total must be positive"))
  typed (refuseIf (totalMinor > VALUE_LIMIT_MINOR)
    ⟨.inventoryValueOutOfRange, "the purchase total is out of range"⟩)
  pure ⟨out, allocations, subtotalMinor, landedMinor, taxMinor, totalMinor⟩

/-! ## 2. One cost -/

/-- An amount handed out over `n` lines. -/
structure HandedOut (amount : ℤ) (n : ℕ) (row : List ℤ) : Prop where
  length : row.length = n
  nonneg : ∀ a ∈ row, 0 ≤ a
  sum : row.sum = amount

@[simp] theorem assertLandedAmount_eq_ok {a : ℤ} {u : Unit} :
    assertLandedAmount a = .ok u ↔ 0 < a ∧ a ≤ VALUE_LIMIT_MINOR := by
  simp [assertLandedAmount]

theorem split_handedOut {units : List ℤ} {t : ℤ} {row : List ℤ}
    (h : largestRemainder (units.map fun u => ⟨u, 0⟩) t = .ok row) :
    HandedOut t units.length row := by
  have hsplit := largestRemainder_split h
  exact ⟨by rw [hsplit.length, List.length_map], hsplit.nonneg, hsplit.sum⟩

/-- **Each cost is handed out in full.** -/
theorem allocateCost_handedOut {nets : List ℤ} {c : LandedCostInput} {row : List ℤ}
    (h : allocateCost nets nets.length c = .ok row) :
    HandedOut c.amountMinor nets.length row := by
  unfold allocateCost at h
  split at h
  · cases h
  · simp only [allocateByValue, bind_eq_ok, assertLandedAmount_eq_ok, refuseIf_eq_ok,
      exists_const] at h
    exact split_handedOut h.2.2.2.2
  · cases h
  · simp only [validateManual, bind_eq_ok, assertLandedAmount_eq_ok, refuseIf_eq_ok, exists_const,
      pure_eq_ok, not_or, not_not] at h
    obtain ⟨_, ⟨hlen, _⟩, hneg, hsum, rfl⟩ := h
    exact ⟨hlen, fun a ha => not_lt.mp fun hlt => hneg ⟨a, ha, hlt⟩, hsum⟩

/-! ## 3. The table of allocations -/

/-- A row read at each of its indices. -/
theorem map_getD_range (row : List ℤ) :
    (List.range row.length).map (fun i => row.getD i 0) = row := by
  refine List.ext_getElem (by simp) fun i _ hi => ?_
  rw [List.getElem_map, List.getElem_range, List.getD_eq_getElem _ _ hi]

theorem landedOfLine_cons (row : List ℤ) (rows : List (List ℤ)) (i : ℕ) :
    landedOfLine (row :: rows) i = row.getD i 0 + landedOfLine rows i := List.sum_cons

/-- **By columns or by rows**: what the lines carry is what the costs hand out. -/
theorem sum_landedOfLine {rows : List (List ℤ)} {n : ℕ} (h : ∀ row ∈ rows, row.length = n) :
    ((List.range n).map (landedOfLine rows)).sum = (rows.map List.sum).sum := by
  induction rows with
  | nil =>
    have hzero : (List.range n).map (landedOfLine []) = (List.range n).map fun _ => 0 :=
      List.map_congr_left fun _ _ => rfl
    rw [hzero, List.map_const', List.sum_replicate, nsmul_zero]
    rfl
  | cons row rows ih =>
    rw [List.forall_mem_cons] at h
    have hrow := map_getD_range row
    rw [h.1] at hrow
    have hcols : (List.range n).map (landedOfLine (row :: rows)) =
        (List.range n).map fun i => row.getD i 0 + landedOfLine rows i :=
      List.map_congr_left fun i _ => landedOfLine_cons row rows i
    rw [hcols, List.sum_map_add, hrow, ih h.2, List.map_cons, List.sum_cons]

/-- The line totals are the nets and the costs. -/
theorem landedLines_sum {nets : List PurchaseLineNet} {rows : List (List ℤ)}
    (h : ∀ row ∈ rows, row.length = nets.length) :
    ((landedLines nets rows).map (·.totalMinor)).sum =
      (nets.map (·.netMinor)).sum + (rows.map List.sum).sum := by
  have htotals : (landedLines nets rows).map (·.totalMinor) =
      nets.zipIdx.map fun p => p.1.netMinor + landedOfLine rows p.2 := by
    rw [landedLines, List.map_map]
    rfl
  have hnets : (nets.zipIdx.map fun p => p.1.netMinor) = nets.map (·.netMinor) := by
    have hfst := congrArg (List.map (·.netMinor)) (List.zipIdx_map_fst 0 nets)
    rw [List.map_map] at hfst
    exact hfst
  have hlanded : (nets.zipIdx.map fun p => landedOfLine rows p.2) =
      (List.range nets.length).map (landedOfLine rows) := by
    have hsnd := congrArg (List.map (landedOfLine rows)) (List.zipIdx_map_snd 0 nets)
    rw [List.map_map, ← List.range_eq_range'] at hsnd
    exact hsnd
  rw [htotals, List.sum_map_add, hnets, hlanded, sum_landedOfLine h]

/-! ## 4. The totals -/

theorem handedOut_rows {costs : List LandedCostInput} {rows : List (List ℤ)} {n : ℕ}
    (h : List.Forall₂ (fun c row => HandedOut c.amountMinor n row) costs rows) :
    (∀ row ∈ rows, row.length = n) ∧ (rows.map List.sum).sum = (costs.map (·.amountMinor)).sum := by
  constructor
  · intro row hrow
    obtain ⟨_, _, hout⟩ := forall₂_source h hrow
    exact hout.length
  · induction h with
    | nil => rfl
    | cons hout _ ih => rw [List.map_cons, List.map_cons, List.sum_cons, List.sum_cons, hout.sum, ih]

theorem length_mapM {α β ε : Type} {f : α → Except ε β} {xs : List α} {ys : List β}
    (h : xs.mapM f = .ok ys) : ys.length = xs.length := (mapM_eq_ok.mp h).length_eq.symm

section Totals

variable {lines : List PurchaseLineInput} {costs : List LandedCostInput}
  {nets : List PurchaseLineNet} {rows : List (List ℤ)}

/-- What the two loops of `lineTotals` leave. -/
theorem costs_handedOut (hnets : lines.mapM netOfLine = .ok nets)
    (hrows : costs.mapM (allocateCost (nets.map (·.netMinor)) lines.length) = .ok rows) :
    List.Forall₂ (fun c row => HandedOut c.amountMinor lines.length row) costs rows := by
  have hlen : (nets.map (·.netMinor)).length = lines.length := by
    rw [List.length_map, length_mapM hnets]
  rw [← hlen] at hrows ⊢
  exact (mapM_eq_ok.mp hrows).imp fun _ _ => allocateCost_handedOut

/-- **The totals add up**, whatever the modes of the costs. -/
theorem totals_addUp (hnets : lines.mapM netOfLine = .ok nets)
    (hrows : costs.mapM (allocateCost (nets.map (·.netMinor)) lines.length) = .ok rows) :
    ((landedLines nets rows).map (·.totalMinor)).sum =
      (nets.map (·.netMinor)).sum + (costs.map (·.amountMinor)).sum := by
  obtain ⟨hlen, hsum⟩ := handedOut_rows (costs_handedOut hnets hrows)
  rw [landedLines_sum fun row hrow => (hlen row hrow).trans (length_mapM hnets).symm, hsum]

end Totals

/-- **`lineTotals` never ends in its internal check.** -/
theorem lineTotals_refusesOnly (lines : List PurchaseLineInput) (costs : List LandedCostInput)
    (tax : ℤ) : RefusesOnly (fun f => ∃ e, f = .refused e) (lineTotals lines costs tax) := by
  refine (typed_refusesOnly _).bind fun _ _ => (typed_refusesOnly _).bind fun _ _ => ?_
  refine (typed_refusesOnly _).bind fun _ _ => (typed_refusesOnly _).bind fun nets hnets => ?_
  refine (typed_refusesOnly _).bind fun rows hrows => ?_
  refine RefusesOnly.bind (refusesOnly_refuseIf fun hne => ?_) fun _ _ => ?_
  · have hsum := totals_addUp (typed_eq_ok.mp hnets) (typed_eq_ok.mp hrows)
    exact absurd (by rw [hsum]) hne
  · exact (typed_refusesOnly _).bind fun _ _ => (typed_refusesOnly _).bind fun _ _ =>
      refusesOnly_pure _

/-- **What accepted totals are.** -/
theorem lineTotals_accepted {lines : List PurchaseLineInput} {costs : List LandedCostInput}
    {tax : ℤ} {totals : PurchaseTotals} (h : lineTotals lines costs tax = .ok totals) :
    List.Forall₂ (fun c row => HandedOut c.amountMinor lines.length row) costs totals.allocations ∧
      totals.lines.length = lines.length ∧
      (totals.lines.map (·.totalMinor)).sum = totals.totalMinor := by
  simp only [lineTotals, bind_eq_ok, typed_eq_ok, refuseIf_eq_ok, exists_const, pure_eq_ok,
    not_not] at h
  obtain ⟨_, _, htax, nets, hnets, rows, hrows, _, _, _, rfl⟩ := h
  refine ⟨costs_handedOut hnets hrows, ?_, ?_⟩
  · rw [landedLines, List.length_map, List.length_zipIdx, length_mapM hnets]
  · rw [totals_addUp hnets hrows, htax, add_zero]

/-! ## 5. The receipt -/

section Receipt

variable {κ : Type} [DecidableEq κ]

/-- The purchase movement of a line: its share is the value, its unit cost the snapshot. -/
def purchaseMovement (qtyQ4 baseShareMinor : ℤ) : Result MovementInput := do
  let cost ← unitCostC10 baseShareMinor qtyQ4
  pure
    { kind := .purchase, qtyQ4, costC10 := some cost, value := some baseShareMinor
      pairedOut := none, pairedPurchase := none }

/-- One line onto its key. -/
def receiveLine (states : κ → StockState) (line : (κ × PurchaseLineInput) × ℤ) :
    Result (κ → StockState) := do
  let m ← purchaseMovement line.1.2.qtyQ4 line.2
  let moved ← simulateMovement (states line.1.1) m
  pure (Function.update states line.1.1 moved.next)

/-- The lines in order, each with its share. -/
def receiveLines (states : κ → StockState) (lines : List ((κ × PurchaseLineInput) × ℤ)) :
    Result (κ → StockState) := lines.foldlM receiveLine states

/-- A purchase puts its share on the key. -/
theorem simulateMovement_purchase {s : StockState} {q share : ℤ} {m : MovementInput}
    {r : SimulatedMovement} (hm : purchaseMovement q share = .ok m)
    (h : simulateMovement s m = .ok r) : r.next.valuation = s.valuation + share := by
  simp only [purchaseMovement, bind_eq_ok, pure_eq_ok] at hm
  obtain ⟨cost, hcost, rfl⟩ := hm
  have hq := (unitCostC10_eq_ok.mp hcost).1.1
  obtain ⟨_, _, p, hp, t, ht, rfl⟩ := simulateMovement_eq_ok.mp h
  simp only [valueByClass, hq.ne', hq.not_gt, if_false, reduceCtorEq, bind_eq_ok, exists_const,
    assertCost_eq_ok, refuseIf_eq_ok, pure_eq_ok] at hp
  obtain ⟨_, _, _, rfl⟩ := hp
  obtain ⟨_, _, _, _, _, _, rfl⟩ := applyMovement_eq_ok.mp ht
  rfl

/-- What the keys are worth. -/
def worth (K : Finset κ) (states : κ → StockState) : ℤ := ∑ k ∈ K, (states k).valuation

theorem receiveLine_worth {states next : κ → StockState} {line : (κ × PurchaseLineInput) × ℤ}
    {K : Finset κ} (hK : line.1.1 ∈ K) (h : receiveLine states line = .ok next) :
    worth K next = worth K states + line.2 := by
  simp only [receiveLine, bind_eq_ok, pure_eq_ok] at h
  obtain ⟨m, hm, moved, hmoved, rfl⟩ := h
  have hval := simulateMovement_purchase hm hmoved
  unfold worth
  rw [← Finset.add_sum_erase _ _ hK, ← Finset.add_sum_erase _ (fun k => (states k).valuation) hK]
  have hothers : ∑ k ∈ K.erase line.1.1,
      (Function.update states line.1.1 moved.next k).valuation =
        ∑ k ∈ K.erase line.1.1, (states k).valuation :=
    Finset.sum_congr rfl fun k hk => by rw [Function.update_of_ne (Finset.ne_of_mem_erase hk)]
  rw [hothers, Function.update_self, hval]
  ring

/-- **A receipt puts its shares on the keys**, however many lines a key has. -/
theorem receiveLines_worth {states after : κ → StockState}
    {lines : List ((κ × PurchaseLineInput) × ℤ)} {K : Finset κ} (hK : ∀ l ∈ lines, l.1.1 ∈ K)
    (h : receiveLines states lines = .ok after) :
    worth K after = worth K states + (lines.map (·.2)).sum := by
  induction lines generalizing states with
  | nil =>
    obtain rfl := Except.ok.inj h
    exact (add_zero _).symm
  | cons line lines ih =>
    rw [List.forall_mem_cons] at hK
    rw [receiveLines, List.foldlM_cons, bind_eq_ok] at h
    obtain ⟨next, hnext, hrest⟩ := h
    rw [ih hK.2 hrest, receiveLine_worth hK.1 hnext, List.map_cons, List.sum_cons, add_assoc]

end Receipt

/-! ## 6. End to end -/

theorem baseShares_accepted {b : ℤ} {totals shares : List ℤ} (h : baseShares b totals = .ok shares) :
    HandedOut b totals.length shares ∧
      ∀ (i : ℕ) (s : ℤ), totals[i]? = some 0 → shares[i]? = some s → s = 0 := by
  simp only [baseShares, bind_eq_ok, refuseIf_eq_ok, exists_const] at h
  obtain ⟨_, _, _, _, hsplit⟩ := h
  refine ⟨split_handedOut hsplit, fun i s ht hs => ?_⟩
  refine (largestRemainder_split hsplit).zero i ⟨0, 0⟩ s ?_ hs ?_
  · rw [List.getElem?_map, ht]
    rfl
  · simp [ExactDecimal.value]

/-- **Purchase money is conserved end to end.** Each cost is handed out in full over the lines, the
    line totals add up to the purchase total, the base shares to the base amount, and the keys that
    receive the lines are worth that much more. -/
theorem purchase_conserved {κ : Type} [DecidableEq κ] (lines : List (κ × PurchaseLineInput))
    (costs : List LandedCostInput) (tax : ℤ) :
    lineTotals (lines.map (·.2)) costs tax ≠ .error totalsDoNotAddUp ∧
    ∀ totals, lineTotals (lines.map (·.2)) costs tax = .ok totals →
      List.Forall₂ (fun c row => HandedOut c.amountMinor lines.length row) costs
        totals.allocations ∧
      (totals.lines.map (·.totalMinor)).sum = totals.totalMinor ∧
      ∀ b shares, baseShares b (totals.lines.map (·.totalMinor)) = .ok shares →
        HandedOut b lines.length shares ∧
        (∀ (i : ℕ) (l : PurchaseLineTotals) (s : ℤ), totals.lines[i]? = some l →
          shares[i]? = some s → l.totalMinor = 0 → s = 0) ∧
        ∀ (before after : κ → StockState), receiveLines before (lines.zip shares) = .ok after →
          ∀ K : Finset κ, (∀ l ∈ lines, l.1 ∈ K) → worth K after = worth K before + b := by
  refine ⟨fun h => ?_, fun totals h => ?_⟩
  · obtain ⟨_, he⟩ := lineTotals_refusesOnly _ _ _ _ h
    cases he
  obtain ⟨hcosts, hlen, hsum⟩ := lineTotals_accepted h
  rw [List.length_map] at hcosts hlen
  refine ⟨hcosts, hsum, fun b shares hshares => ?_⟩
  obtain ⟨hout, hzero⟩ := baseShares_accepted hshares
  rw [List.length_map, hlen] at hout
  refine ⟨hout, fun i l s hl hs ht => hzero i s ?_ hs, fun before after hafter K hK => ?_⟩
  · rw [List.getElem?_map, hl, ← ht]
    rfl
  · have hkeys : ∀ l ∈ lines.zip shares, l.1.1 ∈ K := fun l hl => hK l.1 (List.of_mem_zip hl).1
    rw [receiveLines_worth hkeys hafter, List.map_snd_zip hout.length.le, hout.sum]

/-- Two lines of one key, the second one free of charge, and a line of another key. -/
def samplePurchaseLines : List (Bool × PurchaseLineInput) :=
  [(true, ⟨10000, 30000000000, 0⟩), (true, ⟨10000, 0, 0⟩), (false, ⟨20000, 25000000000, 1⟩)]

def sampleCosts : List LandedCostInput := [⟨.byValue, 5, none⟩, ⟨.manual, 2, some [0, 0, 2]⟩]

def sampleTotals : PurchaseTotals :=
  ⟨[⟨⟨3, 0, 3⟩, 2, 5⟩, ⟨⟨0, 0, 0⟩, 0, 0⟩, ⟨⟨5, 1, 4⟩, 5, 9⟩], [[2, 0, 3], [0, 0, 2]], 7, 7, 0, 14⟩

theorem purchase_conserved_sample :
    ∃ after : Bool → StockState,
      receiveLines (fun _ => EMPTY_STOCK_STATE) (samplePurchaseLines.zip [10, 0, 19]) = .ok after ∧
      worth {true, false} after = worth {true, false} (fun _ => EMPTY_STOCK_STATE) + 29 := by
  have htotals : lineTotals (samplePurchaseLines.map (·.2)) sampleCosts 0 = .ok sampleTotals := by
    decide +kernel
  have hshares : baseShares 29 (sampleTotals.lines.map (·.totalMinor)) = .ok [10, 0, 19] := by
    decide +kernel
  obtain ⟨after, hafter⟩ := exists_of_isOk (x := receiveLines (fun _ => EMPTY_STOCK_STATE)
    (samplePurchaseLines.zip [10, 0, 19])) (by decide +kernel)
  obtain ⟨_, hall⟩ := purchase_conserved samplePurchaseLines sampleCosts 0
  obtain ⟨_, _, hbase⟩ := hall sampleTotals htotals
  obtain ⟨_, _, hworth⟩ := hbase 29 _ hshares
  exact ⟨after, hafter, hworth _ _ hafter _ (by decide)⟩

end Daftar.Inventory.LandedCost
