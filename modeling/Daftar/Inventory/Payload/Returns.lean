/-
  File: Daftar/Inventory/Payload/Returns.lean
  Subject: The builders of what undoes a purchase: its return, its reversal, the write-off of a
  residue.

  * The lines of a return are the client's, less their amounts; the lines of a reversal are the
    purchase's, so its intent ends with the reason.
  * A return is refused where its amounts do not hold together (`assertReturnAmounts`).
-/

import Daftar.Inventory.Payload.CheckedFields

namespace Daftar.Inventory.Payload

open Fallible

/-! ## 1. Supplier returns -/

/-- The keys of the lines are the purchase lines they return. -/
def RETURN_LINE_MESSAGES : LineMessages where
  required := "a return needs at least one line"
  tooMany := "a return has at most 200 lines"
  duplicate := "a return has one line per purchase line, each with its own id"

/-- How much of a purchase line goes back. -/
structure SupplierReturnIntentLine where
  returnLineId : String
  purchaseLineId : String
  qtyQ4 : ℤ
  deriving DecidableEq, Repr

/-- What a client states of a return, its lines apart. -/
structure SupplierReturnHeader extends CommandScope where
  returnId : String
  purchaseId : String
  warehouseId : String
  documentDate : String
  reason : Option String
  deriving DecidableEq, Repr

/-- What a client states of a return. -/
structure SupplierReturnIntentInput extends SupplierReturnHeader where
  lines : List SupplierReturnIntentLine
  deriving DecidableEq, Repr

/-- Every returned quantity is positive. -/
def assertReturnLines (lines : List SupplierReturnIntentLine) : Result Unit := do
  assertLineIds RETURN_LINE_MESSAGES (lines.map (·.returnLineId)) (lines.map (·.purchaseLineId))
  let _ ← lines.zipIdx.mapM fun p =>
    refuseIf (p.1.qtyQ4 ≤ 0) (payloadInvalid (lineLabel p.2 ++ " quantity must be positive"))
  pure ()

/-- A return's reason, or eight NULLs. -/
def supplierReturnReasonWords (reason : Option String) : Result (List InventoryPayloadField) :=
  wordFields reason "reason" ⟨1, REASON_MAX_CHARS⟩

def returnIntentLineFields (l : SupplierReturnIntentLine) :
    Result (List InventoryPayloadField) := do
  let returnLineId ← uuidField l.returnLineId "return_line_id"
  let purchaseLineId ← uuidField l.purchaseLineId "purchase_line_id"
  pure [returnLineId, purchaseLineId, int l.qtyQ4]

/-- The fields a return begins with. -/
def returnHeadFields (h : SupplierReturnHeader) : Result (List InventoryPayloadField) := do
  let returnId ← uuidField h.returnId "return_id"
  let purchaseId ← uuidField h.purchaseId "purchase_id"
  let warehouseId ← uuidField h.warehouseId "warehouse_id"
  let documentDate ← dateField h.documentDate
  let reason ← supplierReturnReasonWords h.reason
  pure ([returnId, purchaseId, warehouseId, documentDate] ++ reason)

/-- The client's fields: the head, and three of each line. -/
def supplierReturnIntentFields (input : SupplierReturnIntentInput) :
    Result (List InventoryPayloadField) := do
  assertReturnLines input.lines
  let head ← returnHeadFields input.toSupplierReturnHeader
  let lines ← input.lines.mapM returnIntentLineFields
  pure (head ++ [int input.lines.length] ++ lines.flatten)

def supplierReturnIntentSha256 (input : SupplierReturnIntentInput) : Result String := do
  let fields ← supplierReturnIntentFields input
  inventoryIntentSha256 .purchaseReturn input.tenantId input.businessId fields

/-- A returned line with its share of the cost and the value it takes from stock. -/
structure SupplierReturnPayloadLine extends SupplierReturnIntentLine where
  variantId : String
  carryingTxnMinor : ℤ
  valueOutMinor : ℤ
  deriving DecidableEq, Repr

/-- The amounts of a return: in the purchase currency, then in base. -/
structure SupplierReturnAmounts where
  carryingTxnMinor : ℤ
  apTxnMinor : ℤ
  apBaseMinor : ℤ
  creditTxnMinor : ℤ
  creditBaseMinor : ℤ
  inventoryValueMinor : ℤ
  ppvMinor : ℤ
  deriving DecidableEq, Repr

/-- A return with the amounts the server derived. -/
structure SupplierReturnPayloadInput extends SupplierReturnHeader, SupplierReturnAmounts where
  creditNoteId : Option String
  lines : List SupplierReturnPayloadLine
  deriving DecidableEq, Repr

/-- The request a payload binds. -/
def SupplierReturnPayloadInput.intent (input : SupplierReturnPayloadInput) :
    SupplierReturnIntentInput :=
  ⟨input.toSupplierReturnHeader, input.lines.map (·.toSupplierReturnIntentLine)⟩

def assertAmount (v : ℤ) (what : String) : Result Unit :=
  refuseIf (v < 0) (payloadInvalid (what ++ " must be a non-negative integer"))

/-- The amounts of a line. -/
def assertReturnLineAmounts (l : SupplierReturnPayloadLine) (i : ℕ) : Result Unit := do
  assertAmount l.carryingTxnMinor (lineLabel i ++ " carrying_txn")
  assertAmount l.valueOutMinor (lineLabel i ++ " value_out")

/-- The header's checks, before the signature. -/
def assertReturnAmounts (input : SupplierReturnPayloadInput) : Result Unit := do
  assertAmount input.carryingTxnMinor "carrying_txn"
  assertAmount input.apTxnMinor "ap_txn"
  assertAmount input.apBaseMinor "ap_base"
  assertAmount input.creditTxnMinor "credit_txn"
  assertAmount input.creditBaseMinor "credit_base"
  assertAmount input.inventoryValueMinor "inventory_value"
  let _ ← input.lines.zipIdx.mapM fun p => assertReturnLineAmounts p.1 p.2
  refuseIf ((input.lines.map (·.carryingTxnMinor)).sum ≠ input.carryingTxnMinor)
    (payloadInvalid "the header carrying value must be the sum of the line carrying values")
  refuseIf (input.apTxnMinor + input.creditTxnMinor ≠ input.carryingTxnMinor)
    (payloadInvalid "the carrying value must be the AP release plus the credit")
  refuseIf (¬ (input.creditTxnMinor = 0 ↔ input.creditBaseMinor = 0))
    (payloadInvalid "a credit has a txn and a base amount, or neither")
  refuseIf (¬ (input.creditTxnMinor = 0 ↔ input.creditNoteId = none))
    (payloadInvalid "a credit note id is bound iff the return issues a credit")
  refuseIf (input.apTxnMinor = 0 ∧ input.apBaseMinor ≠ 0)
    (payloadInvalid "no base AP is released without a txn AP release")
  refuseIf ((input.lines.map (·.valueOutMinor)).sum ≠ input.inventoryValueMinor)
    (payloadInvalid "the inventory value must be the sum of the line values out")
  refuseIf (input.ppvMinor ≠ input.apBaseMinor + input.creditBaseMinor - input.inventoryValueMinor)
    (payloadInvalid "ppv must be ap_base + credit_base - inventory_value")
  refuseIf (input.carryingTxnMinor = 0 ∧ input.inventoryValueMinor = 0)
    ⟨.supplierReturnValueZero,
      "a return with no carrying value and no inventory value posts nothing"⟩

def returnLineFields (l : SupplierReturnPayloadLine) : Result (List InventoryPayloadField) := do
  let returnLineId ← uuidField l.returnLineId "return_line_id"
  let purchaseLineId ← uuidField l.purchaseLineId "purchase_line_id"
  let variantId ← uuidField l.variantId "variant_id"
  pure [returnLineId, purchaseLineId, variantId, int l.qtyQ4, int l.carryingTxnMinor,
    int l.valueOutMinor]

/-- The amounts stand between the head and the lines. -/
def supplierReturnFields (input : SupplierReturnPayloadInput) :
    Result (List InventoryPayloadField) := do
  let head ← returnHeadFields input.toSupplierReturnHeader
  let creditNoteId ← uuidOrNull input.creditNoteId "credit_note_id"
  let lines ← input.lines.mapM returnLineFields
  pure (head ++ [creditNoteId, int input.carryingTxnMinor, int input.apTxnMinor,
    int input.apBaseMinor, int input.creditTxnMinor, int input.creditBaseMinor,
    int input.inventoryValueMinor, int input.ppvMinor, int input.lines.length] ++ lines.flatten)

/-- The lines are checked again when the intent is built. -/
def supplierReturnPayload (input : SupplierReturnPayloadInput) : Result MovementPayload := do
  assertReturnLines input.intent.lines
  assertReturnAmounts input
  let fields ← supplierReturnFields input
  let payload ← buildInventoryPayload .purchaseReturn input.tenantId input.businessId fields
  let intentSha256 ← supplierReturnIntentSha256 input.intent
  pure (payload, intentSha256)

/-- The head is twelve fields. -/
theorem returnHeadFields_eq_ok {h : SupplierReturnHeader} {fs : List InventoryPayloadField}
    (hok : returnHeadFields h = .ok fs) :
    ∃ f1 f2 f3 f4 a b c d e f g i, fs = [f1, f2, f3, f4] ++ [a, b, c, d, e, f, g, i] := by
  simp only [returnHeadFields, bind_eq_ok, pure_eq_ok] at hok
  obtain ⟨_, _, _, _, _, _, _, _, ws, hws, rfl⟩ := hok
  obtain ⟨_, _, _, _, _, _, _, _, rfl⟩ := wordFields_eq_ok hws
  exact ⟨_, _, _, _, _, _, _, _, _, _, _, _, rfl⟩

/-- The fields a client states of a line, all as given. -/
theorem returnIntentLineFields_eq_ok {l : SupplierReturnIntentLine}
    {fs : List InventoryPayloadField} (h : returnIntentLineFields l = .ok fs) :
    fs = [.uuid l.returnLineId, .uuid l.purchaseLineId, int l.qtyQ4] := by
  simp only [returnIntentLineFields, bind_eq_ok, pure_eq_ok, uuidField_eq_ok] at h
  obtain ⟨_, ⟨_, rfl⟩, _, ⟨_, rfl⟩, rfl⟩ := h
  rfl

/-- The fields of a line, all as given. -/
theorem returnLineFields_eq_ok {l : SupplierReturnPayloadLine} {fs : List InventoryPayloadField}
    (h : returnLineFields l = .ok fs) :
    fs = [.uuid l.returnLineId, .uuid l.purchaseLineId, .uuid l.variantId, int l.qtyQ4,
      int l.carryingTxnMinor, int l.valueOutMinor] := by
  simp only [returnLineFields, bind_eq_ok, pure_eq_ok, uuidField_eq_ok] at h
  obtain ⟨_, ⟨_, rfl⟩, _, ⟨_, rfl⟩, _, ⟨_, rfl⟩, rfl⟩ := h
  rfl

/-- **A return signs its amounts beside the client's lines.** -/
theorem supplierReturnPayload_signed {input : SupplierReturnPayloadInput} {r : MovementPayload}
    (h : supplierReturnPayload input = .ok r) :
    ∃ fields intentFields, supplierReturnFields input = .ok fields ∧
      supplierReturnIntentFields input.intent = .ok intentFields ∧
      Signed .purchaseReturn input.tenantId input.businessId fields intentFields r := by
  simp only [supplierReturnPayload, supplierReturnIntentSha256, bind_eq_ok, pure_eq_ok] at h
  obtain ⟨_, _, _, _, fields, hfields, payload, hp, sha, ⟨intentFields, hintent, hi⟩, rfl⟩ := h
  refine ⟨fields, intentFields, hfields, hintent, ?_⟩
  simp only [supplierReturnFields, bind_eq_ok, pure_eq_ok] at hfields
  simp only [supplierReturnIntentFields, bind_eq_ok, pure_eq_ok] at hintent
  obtain ⟨head, hhead, _, _, lines, hlines, rfl⟩ := hfields
  obtain ⟨_, _, head', hhead', lines', hlines', rfl⟩ := hintent
  obtain rfl : head = head' := Except.ok.inj (hhead.symm.trans hhead')
  obtain ⟨_, _, _, _, _, _, _, _, _, _, _, _, rfl⟩ := returnHeadFields_eq_ok hhead
  obtain rfl := mapM_eq_map hlines fun l fs => returnLineFields_eq_ok
  obtain rfl := mapM_eq_map hlines' fun l fs => returnIntentLineFields_eq_ok
  simp only [SupplierReturnPayloadInput.intent, List.map_map, List.length_map] at hi ⊢
  exact signed_lines 20 (List.replicate 12 true ++ List.replicate 8 false ++ [true])
    [true, true, false, true, false, false] rfl (by decide +kernel) (by decide +kernel)
    (by decide +kernel) (by decide +kernel) rfl (fun _ => rfl) rfl rfl (fun _ => rfl) hp hi

/-! ## 2. Purchase reversals -/

/-- The keys of the lines are their variants. -/
def REVERSAL_LINE_MESSAGES : LineMessages where
  required := "a reversal carries every line of its purchase"
  tooMany := "a purchase has at most 200 lines"
  duplicate := "a purchase has one line per variant, each with its own id"

/-- What a client states of a reversal. -/
structure PurchaseReverseIntentInput extends CommandScope where
  purchaseId : String
  warehouseId : String
  reversalDate : String
  reason : Option String
  deriving DecidableEq, Repr

/-- A line of the purchase, at the value it was received at. -/
structure PurchaseReverseLine where
  lineId : String
  variantId : String
  qtyQ4 : ℤ
  valueMinor : ℤ
  deriving DecidableEq, Repr

/-- A reversal with the entry it reverses and the lines it takes back. -/
structure PurchaseReversePayloadInput extends PurchaseReverseIntentInput where
  originalEntryId : String
  totalValueMinor : ℤ
  lines : List PurchaseReverseLine
  deriving DecidableEq, Repr

/-- A reversal states its reason, unlike a return. -/
def purchaseReversalReasonWords (reason : Option String) : Result (List InventoryPayloadField) :=
  requiredReasonFields reason "a purchase reversal must state a reason"

/-- The intent of a reversal has no lines. -/
def purchaseReverseIntentFields (input : PurchaseReverseIntentInput) :
    Result (List InventoryPayloadField) := do
  let purchaseId ← uuidField input.purchaseId "purchase_id"
  let warehouseId ← uuidField input.warehouseId "warehouse_id"
  let reversalDate ← dateField input.reversalDate
  let reason ← purchaseReversalReasonWords input.reason
  pure ([purchaseId, warehouseId, reversalDate] ++ reason)

def purchaseReverseIntentSha256 (input : PurchaseReverseIntentInput) : Result String := do
  let fields ← purchaseReverseIntentFields input
  inventoryIntentSha256 .purchaseReverse input.tenantId input.businessId fields

/-- The figures of a line. -/
def assertReverseLine (l : PurchaseReverseLine) (i : ℕ) : Result Unit := do
  refuseIf (l.qtyQ4 ≤ 0) (payloadInvalid (lineLabel i ++ " quantity must be positive"))
  refuseIf (l.valueMinor < 0)
    (payloadInvalid (lineLabel i ++ " value must be a non-negative integer"))

/-- The values of the lines are the total, to the unit. -/
def assertPurchaseReverse (input : PurchaseReversePayloadInput) : Result Unit := do
  assertLineIds REVERSAL_LINE_MESSAGES (input.lines.map (·.lineId)) (input.lines.map (·.variantId))
  refuseIf (input.totalValueMinor ≤ 0)
    (payloadInvalid "total_value must be a positive integer")
  let _ ← input.lines.zipIdx.mapM fun p => assertReverseLine p.1 p.2
  refuseIf ((input.lines.map (·.valueMinor)).sum ≠ input.totalValueMinor)
    (payloadInvalid "the line values must add up to the total value exactly")

def reverseLineFields (l : PurchaseReverseLine) : Result (List InventoryPayloadField) := do
  let lineId ← uuidField l.lineId "line_id"
  let variantId ← uuidField l.variantId "variant_id"
  pure [lineId, variantId, int l.qtyQ4, int l.valueMinor]

/-- The client's fields come first, so the intent is a prefix. -/
def purchaseReverseFields (input : PurchaseReversePayloadInput) :
    Result (List InventoryPayloadField) := do
  let intent ← purchaseReverseIntentFields input.toPurchaseReverseIntentInput
  let originalEntryId ← uuidField input.originalEntryId "original_entry_id"
  let lines ← input.lines.mapM reverseLineFields
  pure (intent ++ [originalEntryId, int input.totalValueMinor, int input.lines.length] ++
    lines.flatten)

def purchaseReversePayload (input : PurchaseReversePayloadInput) : Result MovementPayload := do
  assertPurchaseReverse input
  let fields ← purchaseReverseFields input
  let payload ← buildInventoryPayload .purchaseReverse input.tenantId input.businessId fields
  let intentSha256 ← purchaseReverseIntentSha256 input.toPurchaseReverseIntentInput
  pure (payload, intentSha256)

/-- The intent is eleven fields. -/
theorem purchaseReverseIntentFields_eq_ok {input : PurchaseReverseIntentInput}
    {fs : List InventoryPayloadField} (h : purchaseReverseIntentFields input = .ok fs) :
    ∃ f1 f2 f3 a b c d e f g i, fs = [f1, f2, f3] ++ [a, b, c, d, e, f, g, i] := by
  simp only [purchaseReverseIntentFields, bind_eq_ok, pure_eq_ok] at h
  obtain ⟨_, _, _, _, _, _, ws, hws, rfl⟩ := h
  obtain ⟨_, _, _, _, _, _, _, _, rfl⟩ := requiredReasonFields_eq_ok hws
  exact ⟨_, _, _, _, _, _, _, _, _, _, _, rfl⟩

/-- **A reversal signs its purchase's lines behind the client's fields.** -/
theorem purchaseReversePayload_signed {input : PurchaseReversePayloadInput} {r : MovementPayload}
    (h : purchaseReversePayload input = .ok r) :
    ∃ fields intentFields, purchaseReverseFields input = .ok fields ∧
      purchaseReverseIntentFields input.toPurchaseReverseIntentInput = .ok intentFields ∧
      Signed .purchaseReverse input.tenantId input.businessId fields intentFields r := by
  simp only [purchaseReversePayload, purchaseReverseIntentSha256, bind_eq_ok, pure_eq_ok] at h
  obtain ⟨_, _, fields, hfields, payload, hp, sha, ⟨intentFields, hintent, hi⟩, rfl⟩ := h
  refine ⟨fields, intentFields, hfields, hintent, ?_⟩
  simp only [purchaseReverseFields, bind_eq_ok, pure_eq_ok] at hfields
  obtain ⟨intent, hintent', _, _, lines, _, rfl⟩ := hfields
  obtain rfl : intent = intentFields := Except.ok.inj (hintent'.symm.trans hintent)
  obtain ⟨_, _, _, _, _, _, _, _, _, _, _, rfl⟩ := purchaseReverseIntentFields_eq_ok hintent
  exact signed_header (List.replicate 11 true ++ List.replicate 3 false) rfl (by decide +kernel)
    (by decide +kernel) rfl rfl hp hi

/-! ## 3. Residue write-offs -/

/-- What a client states of a write-off. -/
structure PurchaseResidueWriteOffIntentInput extends CommandScope where
  purchaseId : String
  writeOffDate : String
  reason : Option String
  residueTxnMinor : ℤ
  deriving DecidableEq, Repr

/-- A write-off with what had been released before it and the base that is left. -/
structure PurchaseResidueWriteOffPayloadInput extends PurchaseResidueWriteOffIntentInput where
  releasedBeforeTxnMinor : ℤ
  residueBaseMinor : ℤ
  deriving DecidableEq, Repr

def purchaseResidueReasonWords (reason : Option String) : Result (List InventoryPayloadField) :=
  requiredReasonFields reason "a residue write-off must state a reason"

/-- The client's fields; it states the residue it has seen. -/
def residueIntentFields (input : PurchaseResidueWriteOffIntentInput) :
    Result (List InventoryPayloadField) := do
  refuseIf (input.residueTxnMinor ≤ 0) (payloadInvalid "residue must be a positive integer")
  let purchaseId ← uuidField input.purchaseId "purchase_id"
  let writeOffDate ← dateField input.writeOffDate
  let reason ← purchaseResidueReasonWords input.reason
  pure ([purchaseId, writeOffDate] ++ reason ++ [int input.residueTxnMinor])

def purchaseResidueWriteOffIntentSha256 (input : PurchaseResidueWriteOffIntentInput) :
    Result String := do
  let fields ← residueIntentFields input
  inventoryIntentSha256 .purchaseWriteOffResidue input.tenantId input.businessId fields

/-- Two fields of the server's follow the client's. -/
def residueFields (input : PurchaseResidueWriteOffPayloadInput) :
    Result (List InventoryPayloadField) := do
  let intent ← residueIntentFields input.toPurchaseResidueWriteOffIntentInput
  pure (intent ++ [int input.releasedBeforeTxnMinor, int input.residueBaseMinor])

def purchaseResidueWriteOffPayload (input : PurchaseResidueWriteOffPayloadInput) :
    Result MovementPayload := do
  refuseIf (input.releasedBeforeTxnMinor ≤ 0)
    (payloadInvalid "released_before must be a positive integer")
  refuseIf (input.residueBaseMinor < 0)
    (payloadInvalid "residue_base must be a non-negative integer")
  let fields ← residueFields input
  let payload ← buildInventoryPayload .purchaseWriteOffResidue input.tenantId input.businessId fields
  let intentSha256 ←
    purchaseResidueWriteOffIntentSha256 input.toPurchaseResidueWriteOffIntentInput
  pure (payload, intentSha256)

theorem residueIntentFields_eq_ok {input : PurchaseResidueWriteOffIntentInput}
    {fs : List InventoryPayloadField} (h : residueIntentFields input = .ok fs) :
    ∃ f1 f2 a b c d e f g i f11, fs = [f1, f2] ++ [a, b, c, d, e, f, g, i] ++ [f11] := by
  simp only [residueIntentFields, bind_eq_ok, pure_eq_ok] at h
  obtain ⟨_, _, _, _, _, _, ws, hws, rfl⟩ := h
  obtain ⟨_, _, _, _, _, _, _, _, rfl⟩ := requiredReasonFields_eq_ok hws
  exact ⟨_, _, _, _, _, _, _, _, _, _, _, rfl⟩

/-- **A write-off signs what was released behind the client's fields.** -/
theorem purchaseResidueWriteOffPayload_signed {input : PurchaseResidueWriteOffPayloadInput}
    {r : MovementPayload} (h : purchaseResidueWriteOffPayload input = .ok r) :
    ∃ fields intentFields, residueFields input = .ok fields ∧
      residueIntentFields input.toPurchaseResidueWriteOffIntentInput = .ok intentFields ∧
      Signed .purchaseWriteOffResidue input.tenantId input.businessId fields intentFields r := by
  simp only [purchaseResidueWriteOffPayload, purchaseResidueWriteOffIntentSha256, bind_eq_ok,
    pure_eq_ok] at h
  obtain ⟨_, _, _, _, fields, hfields, payload, hp, sha, ⟨intentFields, hintent, hi⟩, rfl⟩ := h
  refine ⟨fields, intentFields, hfields, hintent, ?_⟩
  simp only [residueFields, bind_eq_ok, pure_eq_ok] at hfields
  obtain ⟨intent, hintent', rfl⟩ := hfields
  obtain rfl : intent = intentFields := Except.ok.inj (hintent'.symm.trans hintent)
  obtain ⟨_, _, _, _, _, _, _, _, _, _, _, rfl⟩ := residueIntentFields_eq_ok hintent
  exact signed_fixed (List.replicate 11 true ++ [false, false]) rfl (by decide +kernel) rfl hp hi

end Daftar.Inventory.Payload
