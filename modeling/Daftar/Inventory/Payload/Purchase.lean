/-
  File: Daftar/Inventory/Payload/Purchase.lean
  Subject: The builders of a purchase: its draft, its cancellation and its receipt.

  * A draft and a cancellation are intent as a whole; a draft runs its arithmetic first
    (`lineTotals`).
  * A receipt's intent is its purchase, its warehouse and the revision of the draft: its lines are
    the draft's.
-/

import Daftar.Inventory.LandedCost
import Daftar.Inventory.Payload.Registry

namespace Daftar.Inventory.Payload

open Fallible
open LandedCost

/-! ## 1. Checked fields -/

/-- The revision of a document, at least `min`. -/
def documentRevision (revision : JsInteger) (what : String) (min : ℤ) :
    Result InventoryPayloadField :=
  safeIntegerField revision min MAX_REVISION
    (what ++ " must be an integer revision of at least " ++ toString min)

/-- The refusals of the line ids of a purchase. -/
def PURCHASE_LINE_MESSAGES : LineMessages where
  required := "a purchase needs at least one line"
  tooMany := "a purchase has at most 200 lines"
  duplicate := "a purchase has one line per variant, each with its own id"

/-! ## 2. Drafts -/

def landedCostModeText : LandedCostMode → String
  | .byValue => "by_value"
  | .manual => "manual"

/-- How long the texts of a purchase may be. -/
structure PurchaseTextMax where
  supplierReference : ℕ
  notes : ℕ
  landedDescription : ℕ

def PURCHASE_TEXT_MAX : PurchaseTextMax where
  supplierReference := 200
  notes := 1000
  landedDescription := 200

/-- A priced line with the variant it buys. -/
structure PurchaseDraftLine extends PurchaseLineInput where
  lineId : String
  variantId : String
  deriving DecidableEq

/-- A landed cost under its own id. -/
structure PurchaseDraftLandedCost extends LandedCostInput where
  landedCostId : String
  description : Option String
  deriving DecidableEq

/-- What a client states of a draft; revision 0 creates it. -/
structure PurchaseDraftPayloadInput extends CommandScope where
  purchaseId : String
  expectedRevision : JsInteger
  supplierId : String
  warehouseId : String
  previousWarehouseId : Option String
  currency : String
  documentDate : String
  supplierReference : Option String
  notes : Option String
  taxMinor : ℤ
  lines : List PurchaseDraftLine
  landedCosts : List PurchaseDraftLandedCost
  deriving DecidableEq

/-- `revision === 0`, which a negative zero also is. -/
def JsInteger.IsZero (v : JsInteger) : Prop := v = .number 0 ∨ v = .negativeZero

instance (v : JsInteger) : Decidable v.IsZero := inferInstanceAs (Decidable (_ ∨ _))

/-- The ids of lines and landed costs are apart, and a previous warehouse is another one. -/
def assertPurchaseDraft (input : PurchaseDraftPayloadInput) : Result Unit := do
  assertLineIds PURCHASE_LINE_MESSAGES (input.lines.map (·.lineId)) (input.lines.map (·.variantId))
  refuseIf (input.landedCosts.length > MAX_LANDED_COSTS)
    (payloadInvalid "a purchase has at most 10 landed costs")
  refuseIf (¬ (input.lines.map (·.lineId) ++ input.landedCosts.map (·.landedCostId)).Nodup)
    ⟨.inventoryDuplicateLine, "a line or landed cost id may not repeat within a purchase"⟩
  refuseIf (∃ w ∈ input.previousWarehouseId, input.expectedRevision.IsZero ∨ w = input.warehouseId)
    (payloadInvalid "a previous warehouse is named only when a replace moves the draft")

/-- The five fields of a draft's line. -/
def purchaseDraftLineFields (l : PurchaseDraftLine) : Result (List InventoryPayloadField) := do
  let lineId ← uuidField l.lineId "line_id"
  let variantId ← uuidField l.variantId "variant_id"
  pure [lineId, variantId, int l.qtyQ4, int l.unitPriceC10, int l.discountMinor]

/-- One allocation for each line, or as many NULLs. -/
def allocationFields (allocations : Option (List ℤ)) (lineCount : ℕ) :
    List InventoryPayloadField :=
  (List.range lineCount).map fun i => nullableInt (allocations.map fun a => a.getD i (-1))

/-- A landed cost, with an allocation for every line of the draft. -/
def purchaseLandedCostFields (lineCount : ℕ) (c : PurchaseDraftLandedCost) :
    Result (List InventoryPayloadField) := do
  let landedCostId ← uuidField c.landedCostId "landed_cost_id"
  let description ← wordFields c.description "landed cost description"
    ⟨1, PURCHASE_TEXT_MAX.landedDescription⟩
  pure ([landedCostId, .code (landedCostModeText c.mode), int c.amountMinor] ++ description ++
    allocationFields c.allocations lineCount)

/-- The fields of a draft: its header, its lines, its landed costs. -/
def purchaseDraftFields (input : PurchaseDraftPayloadInput) :
    Result (List InventoryPayloadField) := do
  let purchaseId ← uuidField input.purchaseId "purchase_id"
  let revision ← documentRevision input.expectedRevision "expected_revision" 0
  let supplierId ← uuidField input.supplierId "supplier_id"
  let warehouseId ← uuidField input.warehouseId "warehouse_id"
  let previousWarehouseId ← uuidOrNull input.previousWarehouseId "previous_warehouse_id"
  let currency ← currencyField input.currency
  let documentDate ← dateField input.documentDate
  let supplierReference ← wordFields input.supplierReference "supplier reference"
    ⟨1, PURCHASE_TEXT_MAX.supplierReference⟩
  let notes ← wordFields input.notes "notes" ⟨1, PURCHASE_TEXT_MAX.notes⟩
  let lines ← input.lines.mapM purchaseDraftLineFields
  let landedCosts ← input.landedCosts.mapM (purchaseLandedCostFields input.lines.length)
  pure ([purchaseId, revision, supplierId, warehouseId, previousWarehouseId, currency,
      documentDate] ++ supplierReference ++ notes ++
    [int input.taxMinor, .integer (.number input.lines.length)] ++ lines.flatten ++
    .integer (.number input.landedCosts.length) :: landedCosts.flatten)

/-- A draft's payload, and the amounts the routine will store. -/
abbrev PurchaseDraftPayload := MovementPayload × LandedCost.PurchaseTotals

/-- A draft whose arithmetic refuses is not signed. -/
def purchaseDraftPayload (input : PurchaseDraftPayloadInput) : Except Fault PurchaseDraftPayload := do
  typed (assertPurchaseDraft input)
  let totals ← lineTotals (input.lines.map (·.toPurchaseLineInput))
    (input.landedCosts.map (·.toLandedCostInput)) input.taxMinor
  let signed ← typed (signAll .purchaseDraft input.tenantId input.businessId
    (purchaseDraftFields input))
  pure (signed, totals)

/-- **A draft signs what it states**, as payload and as intent. -/
theorem purchaseDraftPayload_signed {input : PurchaseDraftPayloadInput} {r : MovementPayload}
    {totals : LandedCost.PurchaseTotals} (h : purchaseDraftPayload input = .ok (r, totals)) :
    ∃ fields, purchaseDraftFields input = .ok fields ∧
      Signed .purchaseDraft input.tenantId input.businessId fields fields r := by
  simp only [purchaseDraftPayload, bind_eq_ok, typed_eq_ok, pure_eq_ok] at h
  obtain ⟨_, _, _, _, signed, hsigned, hr⟩ := h
  cases hr
  exact signAll_signed (by decide +kernel) hsigned

/-! ## 3. Cancellations -/

/-- The draft a cancellation ends. -/
structure PurchaseCancelPayloadInput extends CommandScope where
  purchaseId : String
  warehouseId : String
  draftRevision : JsInteger
  deriving DecidableEq, Repr

/-- The purchase, its warehouse and the revision of its draft. -/
def draftFields (purchaseId warehouseId : String) (draftRevision : JsInteger) :
    Result (List InventoryPayloadField) := do
  let purchaseId ← uuidField purchaseId "purchase_id"
  let warehouseId ← uuidField warehouseId "warehouse_id"
  let draftRevision ← documentRevision draftRevision "draft_revision" 1
  pure [purchaseId, warehouseId, draftRevision]

def purchaseCancelFields (input : PurchaseCancelPayloadInput) :
    Result (List InventoryPayloadField) :=
  draftFields input.purchaseId input.warehouseId input.draftRevision

def purchaseCancelPayload (input : PurchaseCancelPayloadInput) : Result MovementPayload :=
  signAll .purchaseCancel input.tenantId input.businessId (purchaseCancelFields input)

/-! ## 4. Rates -/

/-- R10 of a rate of exactly 1. -/
def DOMESTIC_RATE_R10 : ℤ := 10 ^ 10

/-- Where a rate comes from: the base currency itself, or the registry. -/
inductive ReceiptRateSource
  | base | manual
  deriving DecidableEq, Repr

def ReceiptRateSource.text : ReceiptRateSource → String
  | base => "base"
  | manual => "manual"

/-- A bound FX snapshot. -/
structure ReceiptRate where
  rateId : Option String
  rateR10 : ℤ
  source : ReceiptRateSource
  rateAtEpochSeconds : ℤ
  deriving DecidableEq, Repr

/-- A rate of its source: exactly 1 when domestic, else positive. -/
def ReceiptRate.OffSource (r : ReceiptRate) : Prop :=
  if r.source = .base then r.rateR10 ≠ DOMESTIC_RATE_R10 else r.rateR10 ≤ 0

instance (r : ReceiptRate) : Decidable r.OffSource := by
  unfold ReceiptRate.OffSource
  infer_instance

/-- The checks of a receipt's and a sale's snapshot. -/
def assertSnapshot (r : ReceiptRate) : Result Unit := do
  refuseIf (¬ (r.source = .base ↔ r.rateId = none))
    (payloadInvalid "a domestic snapshot has no registry row, and a foreign one has one")
  refuseIf r.OffSource (payloadInvalid "a rate must be positive, and exactly 1 when domestic")

/-- The four fields of a snapshot. -/
def snapshotFields (r : ReceiptRate) : Result (List InventoryPayloadField) := do
  let rateId ← uuidOrNull r.rateId "rate_id"
  pure [rateId, int r.rateR10, .code r.source.text, int r.rateAtEpochSeconds]

theorem snapshotFields_eq_ok {r : ReceiptRate} {fs : List InventoryPayloadField}
    (h : snapshotFields r = .ok fs) : ∃ a b c d, fs = [a, b, c, d] := by
  obtain ⟨_, _, hfs⟩ := bind_eq_ok.mp h
  exact ⟨_, _, _, _, (Except.ok.inj hfs).symm⟩

/-! ## 5. Receipts -/

/-- A received line, with its share of the base total and what it covers of a deficit. -/
structure PurchaseReceiveLine where
  lineId : String
  variantId : String
  qtyQ4 : ℤ
  baseShareMinor : ℤ
  coveredQ4 : ℤ
  catchUpMinor : ℤ
  deriving DecidableEq, Repr

/-- What a client states of a receipt. -/
structure PurchaseReceiveIntentInput extends CommandScope where
  purchaseId : String
  warehouseId : String
  draftRevision : JsInteger
  deriving DecidableEq, Repr

/-- A receipt with what the server resolved for it. -/
structure PurchaseReceivePayloadInput extends PurchaseReceiveIntentInput where
  supplierId : String
  supplierRevision : JsInteger
  documentDate : String
  currency : String
  rate : ReceiptRate
  totalTxnMinor : ℤ
  totalBaseMinor : ℤ
  coverageAdjustmentId : Option String
  lines : List PurchaseReceiveLine
  deriving DecidableEq, Repr

def purchaseReceiveIntentFields (input : PurchaseReceiveIntentInput) :
    Result (List InventoryPayloadField) :=
  draftFields input.purchaseId input.warehouseId input.draftRevision

def purchaseReceiveIntentSha256 (input : PurchaseReceiveIntentInput) : Result String := do
  let fields ← purchaseReceiveIntentFields input
  inventoryIntentSha256 .purchaseReceive input.tenantId input.businessId fields

/-- The checks of one received line. -/
def assertReceiveLine (l : PurchaseReceiveLine) (i : ℕ) : Result Unit := do
  let what := lineLabel i
  refuseIf (l.qtyQ4 ≤ 0) (payloadInvalid (what ++ " quantity must be positive"))
  refuseIf (l.baseShareMinor < 0) (payloadInvalid (what ++ " base share must not be negative"))
  refuseIf (l.coveredQ4 < 0 ∨ l.coveredQ4 > l.qtyQ4)
    (payloadInvalid (what ++ " covers between zero and its quantity"))
  refuseIf (l.coveredQ4 = 0 ∧ l.catchUpMinor ≠ 0)
    (payloadInvalid (what ++ " covers nothing and carries no catch-up"))

/-- The shares add up to the total, and a coverage has its header. -/
def assertPurchaseReceive (input : PurchaseReceivePayloadInput) : Result Unit := do
  assertLineIds PURCHASE_LINE_MESSAGES (input.lines.map (·.lineId)) (input.lines.map (·.variantId))
  assertSnapshot input.rate
  refuseIf (input.totalTxnMinor ≤ 0 ∨ input.totalBaseMinor ≤ 0)
    ⟨.purchaseTotalZero, "a purchase total must be positive"⟩
  let _ ← input.lines.zipIdx.mapM fun p => assertReceiveLine p.1 p.2
  refuseIf ((input.lines.map (·.baseShareMinor)).sum ≠ input.totalBaseMinor)
    (payloadInvalid "the base shares must add up to the base total exactly")
  refuseIf (¬ ((input.lines.map (·.coveredQ4)).sum = 0 ↔ input.coverageAdjustmentId = none))
    (payloadInvalid "a coverage header id is bound iff the receipt covers a deficit")

/-- The six fields of a received line. -/
def receiveLineFields (l : PurchaseReceiveLine) : Result (List InventoryPayloadField) := do
  let lineId ← uuidField l.lineId "line_id"
  let variantId ← uuidField l.variantId "variant_id"
  pure [lineId, variantId, int l.qtyQ4, int l.baseShareMinor, int l.coveredQ4, int l.catchUpMinor]

/-- The fields of a receipt, its draft's three first. -/
def purchaseReceiveFields (input : PurchaseReceivePayloadInput) :
    Result (List InventoryPayloadField) := do
  let draft ← draftFields input.purchaseId input.warehouseId input.draftRevision
  let supplierId ← uuidField input.supplierId "supplier_id"
  let supplierRevision ← documentRevision input.supplierRevision "supplier_revision" 1
  let documentDate ← dateField input.documentDate
  let currency ← currencyField input.currency
  let rate ← snapshotFields input.rate
  let coverageAdjustmentId ← uuidOrNull input.coverageAdjustmentId "coverage_adjustment_id"
  let lines ← input.lines.mapM receiveLineFields
  pure (draft ++ [supplierId, supplierRevision, documentDate, currency] ++ rate ++
    [int input.totalTxnMinor, int input.totalBaseMinor, coverageAdjustmentId,
      .integer (.number input.lines.length)] ++ lines.flatten)

def purchaseReceivePayload (input : PurchaseReceivePayloadInput) : Result MovementPayload := do
  assertPurchaseReceive input
  let fields ← purchaseReceiveFields input
  let payload ← buildInventoryPayload .purchaseReceive input.tenantId input.businessId fields
  let intentSha256 ← purchaseReceiveIntentSha256 input.toPurchaseReceiveIntentInput
  pure (payload, intentSha256)

/-- **A receipt signs its figures beside its draft's three fields**, which are the intent. -/
theorem purchaseReceivePayload_signed {input : PurchaseReceivePayloadInput} {r : MovementPayload}
    (h : purchaseReceivePayload input = .ok r) :
    ∃ fields intentFields, purchaseReceiveFields input = .ok fields ∧
      purchaseReceiveIntentFields input.toPurchaseReceiveIntentInput = .ok intentFields ∧
      Signed .purchaseReceive input.tenantId input.businessId fields intentFields r := by
  simp only [purchaseReceivePayload, purchaseReceiveIntentSha256, bind_eq_ok, pure_eq_ok] at h
  obtain ⟨_, _, fields, hfields, payload, hp, sha, ⟨intentFields, hintent, hi⟩, rfl⟩ := h
  refine ⟨fields, intentFields, hfields, hintent, ?_⟩
  simp only [purchaseReceiveFields, bind_eq_ok, pure_eq_ok] at hfields
  obtain ⟨draft, hdraft, _, _, _, _, _, _, _, _, rate, hrate, _, _, lines, _, rfl⟩ := hfields
  -- The receipt's intent is the draft it begins with.
  obtain rfl : draft = intentFields := Except.ok.inj (hdraft.symm.trans hintent)
  obtain ⟨_, _, _, _, rfl⟩ := snapshotFields_eq_ok hrate
  simp only [draftFields, bind_eq_ok, pure_eq_ok] at hdraft
  obtain ⟨_, _, _, _, _, _, rfl⟩ := hdraft
  exact signed_header ([true, true, true] ++ List.replicate 12 false) rfl (by decide +kernel)
    (by decide +kernel) rfl rfl hp hi

end Daftar.Inventory.Payload
