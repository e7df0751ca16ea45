/-
  File: Daftar/Inventory/Payload/Sale.lean
  Subject: The builder of a sale's commit.

  * The intent is computed from the request alone, before any price, rate or stock is read: each
    line's id, product, variant, quantity and discount.
  * The payload adds what the server resolved, and its figures are checked before they are signed.
-/

import Daftar.Inventory.Payload.Purchase

namespace Daftar.Inventory.Payload

open Fallible

/-! ## 1. The intent -/

def SALE_LINE_MESSAGES : LineMessages where
  required := "a sale needs at least one line"
  tooMany := "a sale has at most 200 lines"
  duplicate := "a sale has one line per variant, each with its own id"

/-- How long the texts of a sale may be. -/
structure SalePayloadTextMax where
  notes : ℕ

def SALE_PAYLOAD_TEXT_MAX : SalePayloadTextMax where
  notes := 1000

/-- How a sale is settled: owed by a customer, or paid at once. -/
inductive SettlementMode
  | credit | cash
  deriving DecidableEq, Repr

def SettlementMode.text : SettlementMode → String
  | credit => "credit"
  | cash => "cash"

/-- The client's half of one line. -/
structure SaleCommitIntentLine where
  lineId : String
  productId : String
  merchantVariantId : Option String
  qtyQ4 : ℤ
  discountMinor : ℤ
  deriving DecidableEq, Repr

/-- What a client states of a sale, its lines apart. -/
structure SaleCommitHeader extends CommandScope where
  saleId : String
  settlementMode : SettlementMode
  customerId : Option String
  warehouseId : String
  documentDate : String
  dueDate : Option String
  taxMinor : ℤ
  notes : Option String
  deriving DecidableEq, Repr

/-- What a client states of a sale. -/
structure SaleCommitIntentInput extends SaleCommitHeader where
  lines : List SaleCommitIntentLine
  deriving DecidableEq, Repr

/-- The identity a line states: its product and its variant, if it names one. -/
def SaleCommitIntentLine.identity (l : SaleCommitIntentLine) : String :=
  l.productId ++ ":" ++ l.merchantVariantId.getD ""

/-- The checks of one line, each refusal naming the line and the field. -/
def assertSaleIntentLine (l : SaleCommitIntentLine) (i : ℕ) : Result Unit := do
  let what := lineLabel i
  let _ ← uuidField l.productId (what ++ " product_id")
  let _ ← uuidOrNull l.merchantVariantId (what ++ " variant_id")
  refuseIf (l.qtyQ4 ≤ 0) (payloadInvalid (what ++ " quantity must be positive"))
  refuseIf (l.discountMinor < 0) (payloadInvalid (what ++ " discount must not be negative"))

/-- The line ids first, then the lines in their order. -/
def assertIntentLines (lines : List SaleCommitIntentLine) : Result Unit := do
  assertLineIds SALE_LINE_MESSAGES (lines.map (·.lineId)) (lines.map (·.identity))
  let _ ← lines.zipIdx.mapM fun p => assertSaleIntentLine p.1 p.2
  pure ()

/-- A credit sale has its customer, a due date its credit sale, and there is no tax. -/
def assertSaleIntent (input : SaleCommitIntentInput) : Result Unit := do
  assertIntentLines input.lines
  refuseIf (input.settlementMode = .credit ∧ input.customerId = none)
    (payloadInvalid "a credit sale names the customer who owes it")
  refuseIf (input.dueDate ≠ none ∧ (input.customerId = none ∨ input.settlementMode ≠ .credit))
    (payloadInvalid "a due date belongs to a credit sale with a named customer")
  refuseIf (input.taxMinor ≠ 0)
    ⟨.saleTaxPolicyAbsent, "sales tax is structurally zero in this release"⟩

/-- The notes, or eight NULLs. -/
def notesWords (notes : Option String) : Result (List InventoryPayloadField) :=
  wordFields notes "notes" ⟨1, SALE_PAYLOAD_TEXT_MAX.notes⟩

/-- The five fields of a line in the intent. -/
def saleIntentLineFields (l : SaleCommitIntentLine) : Result (List InventoryPayloadField) := do
  let lineId ← uuidField l.lineId "line_id"
  let productId ← uuidField l.productId "product_id"
  let variantId ← uuidOrNull l.merchantVariantId "variant_id"
  pure [lineId, productId, variantId, int l.qtyQ4, int l.discountMinor]

/-- The fields of the intent, checked before any of them is read. -/
def saleIntentFields (input : SaleCommitIntentInput) : Result (List InventoryPayloadField) := do
  assertSaleIntent input
  let saleId ← uuidField input.saleId "sale_id"
  let customerId ← uuidOrNull input.customerId "customer_id"
  let warehouseId ← uuidField input.warehouseId "warehouse_id"
  let documentDate ← dateField input.documentDate
  let dueDate ← dateOrNull input.dueDate
  let notes ← notesWords input.notes
  let lines ← input.lines.mapM saleIntentLineFields
  pure ([saleId, .code input.settlementMode.text, customerId, warehouseId, documentDate, dueDate,
      int input.taxMinor] ++ notes ++ [int input.lines.length] ++ lines.flatten)

def saleCommitIntentSha256 (input : SaleCommitIntentInput) : Result String := do
  let fields ← saleIntentFields input
  inventoryIntentSha256 .saleCommit input.tenantId input.businessId fields

/-! ## 2. The payload -/

/-- A line with what the server resolved for it. -/
structure SaleCommitPayloadLine extends SaleCommitIntentLine where
  variantId : String
  unitPriceC10 : ℤ
  netTxnMinor : ℤ
  baseShareMinor : ℤ
  deriving DecidableEq, Repr

/-- The request with what the server resolved for the sale: its branch, its invoice, its rate and
    its totals. -/
structure SaleCommitPayloadInput extends SaleCommitHeader where
  branchId : String
  invoiceId : String
  currency : String
  rate : ReceiptRate
  subtotalTxnMinor : ℤ
  discountTxnMinor : ℤ
  totalTxnMinor : ℤ
  totalBaseMinor : ℤ
  lines : List SaleCommitPayloadLine
  deriving DecidableEq, Repr

/-- The request a payload binds. -/
def SaleCommitPayloadInput.intent (input : SaleCommitPayloadInput) : SaleCommitIntentInput :=
  ⟨input.toSaleCommitHeader, input.lines.map (·.toSaleCommitIntentLine)⟩

def assertNotNegative (v : ℤ) (what : String) : Result Unit :=
  refuseIf (v < 0) (payloadInvalid (what ++ " must not be negative"))

/-- The figures of one line. -/
def assertSaleLine (l : SaleCommitPayloadLine) (i : ℕ) : Result Unit := do
  assertNotNegative l.unitPriceC10 (lineLabel i ++ " unit price")
  assertNotNegative l.netTxnMinor (lineLabel i ++ " net")
  assertNotNegative l.baseShareMinor (lineLabel i ++ " base share")

/-- The figures of a sale: none negative, the totals those of the subtotal, and the lines adding up
    to them. -/
def assertSaleCommit (input : SaleCommitPayloadInput) : Result Unit := do
  assertSnapshot input.rate
  assertNotNegative input.subtotalTxnMinor "the subtotal"
  assertNotNegative input.discountTxnMinor "the discount"
  assertNotNegative input.totalTxnMinor "the total"
  assertNotNegative input.totalBaseMinor "the base total"
  refuseIf (input.discountTxnMinor > input.subtotalTxnMinor)
    (payloadInvalid "the discount must not exceed the subtotal")
  refuseIf (input.totalTxnMinor ≠ input.subtotalTxnMinor - input.discountTxnMinor + input.taxMinor)
    (payloadInvalid "the total must be the subtotal less the discount plus the tax, exactly")
  refuseIf (input.totalTxnMinor ≤ 0 ∨ input.totalBaseMinor ≤ 0)
    ⟨.saleTotalZero, "a sale total must be positive"⟩
  let _ ← input.lines.zipIdx.mapM fun p => assertSaleLine p.1 p.2
  refuseIf ((input.lines.map (·.baseShareMinor)).sum ≠ input.totalBaseMinor)
    (payloadInvalid "the base shares must add up to the base total exactly")
  refuseIf ((input.lines.map (·.netTxnMinor)).sum ≠ input.subtotalTxnMinor - input.discountTxnMinor)
    (payloadInvalid "the line nets must add up to the discounted subtotal exactly")

/-- The nine fields of a line in the payload. -/
def saleLineFields (l : SaleCommitPayloadLine) : Result (List InventoryPayloadField) := do
  let lineId ← uuidField l.lineId "line_id"
  let productId ← uuidField l.productId "product_id"
  let merchantVariantId ← uuidOrNull l.merchantVariantId "variant_id"
  let variantId ← uuidField l.variantId "variant_id"
  pure [lineId, productId, merchantVariantId, variantId, int l.qtyQ4, int l.discountMinor,
    int l.unitPriceC10, int l.netTxnMinor, int l.baseShareMinor]

def saleFields (input : SaleCommitPayloadInput) : Result (List InventoryPayloadField) := do
  let saleId ← uuidField input.saleId "sale_id"
  let customerId ← uuidOrNull input.customerId "customer_id"
  let warehouseId ← uuidField input.warehouseId "warehouse_id"
  let branchId ← uuidField input.branchId "branch_id"
  let invoiceId ← uuidField input.invoiceId "invoice_id"
  let documentDate ← dateField input.documentDate
  let dueDate ← dateOrNull input.dueDate
  let currency ← currencyField input.currency
  let rate ← snapshotFields input.rate
  let notes ← notesWords input.notes
  let lines ← input.lines.mapM saleLineFields
  pure ([saleId, .code input.settlementMode.text, customerId, warehouseId, branchId, invoiceId,
      documentDate, dueDate, currency] ++ rate ++
    [int input.subtotalTxnMinor, int input.discountTxnMinor, int input.taxMinor,
      int input.totalTxnMinor, int input.totalBaseMinor] ++ notes ++ [int input.lines.length] ++
    lines.flatten)

/-- The intent is hashed before the figures are looked at. -/
def saleCommitPayload (input : SaleCommitPayloadInput) : Result MovementPayload := do
  let intentSha256 ← saleCommitIntentSha256 input.intent
  assertSaleCommit input
  let fields ← saleFields input
  let payload ← buildInventoryPayload .saleCommit input.tenantId input.businessId fields
  pure (payload, intentSha256)

/-! ## 3. What a sale signs -/

/-- What a line's fields in the intent carry. -/
theorem saleIntentLineFields_eq_ok {l : SaleCommitIntentLine} {fs : List InventoryPayloadField}
    (h : saleIntentLineFields l = .ok fs) :
    fs = [.uuid l.lineId, .uuid l.productId, nullableUuid l.merchantVariantId, int l.qtyQ4,
      int l.discountMinor] := by
  simp only [saleIntentLineFields, bind_eq_ok, pure_eq_ok, uuidField_eq_ok, uuidOrNull_eq_ok] at h
  obtain ⟨_, ⟨_, rfl⟩, _, ⟨_, rfl⟩, _, ⟨_, rfl⟩, rfl⟩ := h
  rfl

/-- What a line's fields in the payload carry. -/
theorem saleLineFields_eq_ok {l : SaleCommitPayloadLine} {fs : List InventoryPayloadField}
    (h : saleLineFields l = .ok fs) :
    fs = [.uuid l.lineId, .uuid l.productId, nullableUuid l.merchantVariantId, .uuid l.variantId,
      int l.qtyQ4, int l.discountMinor, int l.unitPriceC10, int l.netTxnMinor,
      int l.baseShareMinor] := by
  simp only [saleLineFields, bind_eq_ok, pure_eq_ok, uuidField_eq_ok, uuidOrNull_eq_ok] at h
  obtain ⟨_, ⟨_, rfl⟩, _, ⟨_, rfl⟩, _, ⟨_, rfl⟩, _, ⟨_, rfl⟩, rfl⟩ := h
  rfl

/-- **A sale signs what the server resolved beside the client's request.** -/
theorem saleCommitPayload_signed {input : SaleCommitPayloadInput} {r : MovementPayload}
    (h : saleCommitPayload input = .ok r) :
    ∃ fields intentFields, saleFields input = .ok fields ∧
      saleIntentFields input.intent = .ok intentFields ∧
      Signed .saleCommit input.tenantId input.businessId fields intentFields r := by
  simp only [saleCommitPayload, saleCommitIntentSha256, bind_eq_ok, pure_eq_ok] at h
  obtain ⟨sha, ⟨intentFields, hintent, hi⟩, _, _, fields, hfields, payload, hp, rfl⟩ := h
  refine ⟨fields, intentFields, hfields, hintent, ?_⟩
  simp only [saleFields, bind_eq_ok, pure_eq_ok, uuidField_eq_ok, uuidOrNull_eq_ok] at hfields
  simp only [saleIntentFields, SaleCommitPayloadInput.intent, bind_eq_ok, pure_eq_ok,
    uuidField_eq_ok, uuidOrNull_eq_ok] at hintent
  obtain ⟨_, ⟨_, rfl⟩, _, ⟨_, rfl⟩, _, ⟨_, rfl⟩, _, ⟨_, rfl⟩, _, ⟨_, rfl⟩, date, hdate, due, hdue,
    currency, _, rate, hrate, notes, hnotes, lines, hlines, rfl⟩ := hfields
  obtain ⟨_, _, _, ⟨_, rfl⟩, _, ⟨_, rfl⟩, _, ⟨_, rfl⟩, date', hdate', due', hdue', notes', hnotes',
    lines', hlines', rfl⟩ := hintent
  obtain rfl : date = date' := Except.ok.inj (hdate.symm.trans hdate')
  obtain rfl : due = due' := Except.ok.inj (hdue.symm.trans hdue')
  obtain rfl : notes = notes' := Except.ok.inj (hnotes.symm.trans hnotes')
  obtain ⟨_, _, _, _, rfl⟩ := snapshotFields_eq_ok hrate
  obtain ⟨_, _, _, _, _, _, _, _, rfl⟩ := wordFields_eq_ok hnotes
  obtain rfl := mapM_eq_map hlines fun l fs => saleLineFields_eq_ok
  obtain rfl := mapM_eq_map hlines' fun l fs => saleIntentLineFields_eq_ok
  simp only [List.map_map, List.length_map] at hi ⊢
  exact signed_lines 26
    ([true, true, true, true, false, false, true, true] ++ List.replicate 7 false ++
      [true, false, false] ++ List.replicate 9 true)
    [true, true, true, false, true, true, false, false, false] rfl
    (by decide +kernel) (by decide +kernel) (by decide +kernel) (by decide +kernel) rfl
    (fun _ => rfl) rfl rfl (fun _ => rfl) hp hi

end Daftar.Inventory.Payload
