/-
  File: Daftar/Inventory/Payload/Movement.lean
  Subject: The builders of the seven stock documents.

  * An `Entry` is a field and whether the server derived it; `finish` signs every entry and digests
    the others as the intent.
  * Each `...Entries` checks a command and lists its entries; each `...Payload` is their `finish`.
  * `...Payload_signed`: the entries a builder does not mark are the client's part of what it signs.
-/

import Daftar.Inventory.Payload.CheckedFields
import Mathlib.Data.List.DropRight

namespace Daftar.Inventory.Payload

open Fallible
open Selection

/-! ## 1. Reasons -/

/-- `text.replace(/^ +| +$/g, '')` -/
def btrimSpaces (text : String) : List Char :=
  (text.toList.dropWhile fun c => c == ' ').rdropWhile fun c => c == ' '

/-- A `String` has no lone surrogate, which the source refuses beside NUL. -/
def assertStorableReason (reason : String) : Result Unit := do
  let trimmed := btrimSpaces reason
  refuseIf (trimmed.length = 0) ⟨.inventoryReasonRequired, "a reason is required"⟩
  refuseIf (trimmed.length > REASON_MAX_CHARS)
    (payloadInvalid "a reason is at most 500 characters")
  refuseIf (reason.toList.contains (Char.ofNat 0) = true)
    (payloadInvalid "a reason must be well-formed text without NUL")

/-- The words of a reason, exactly as given. -/
def reasonWords (reason : String) : Result (List ℤ) := do
  assertStorableReason reason
  pure (textWords reason)

/-- A reason is always eight fields, however long it is. -/
theorem length_reasonWords {reason : String} {ws : List ℤ} (h : reasonWords reason = .ok ws) :
    ws.length = 8 := by
  simp only [reasonWords, bind_eq_ok, pure_eq_ok] at h
  obtain ⟨_, _, rfl⟩ := h
  rfl

/-! ## 2. Entries -/

/-- A field, and whether the server derived it. -/
structure Entry where
  field : InventoryPayloadField
  derived : Bool
  deriving DecidableEq, Repr

namespace Entry

/-- An id the client gave. -/
def uuid (value : String) : Entry := ⟨.uuid value, false⟩

/-- A number the client gave. -/
def int (value : ℤ) : Entry := ⟨Payload.int value, false⟩

/-- A word of a closed list. -/
def code (value : String) : Entry := ⟨.code value, false⟩

/-- A field left out. -/
def nul : Entry := ⟨.null, false⟩

/-- The entry as one the server derived. -/
def byServer (e : Entry) : Entry := ⟨e.field, true⟩

/-- A number the client may leave out. -/
def intOrNull (value : Option ℤ) : Entry := ⟨nullableInt value, false⟩

/-- The client's reason, as the words of its digest. -/
def reason (text : String) : Result (List Entry) := (List.map int) <$> reasonWords text

end Entry

/-- Every entry is signed; the intent is what the client gave. -/
def finish (opCode : InventoryOperationCode) (tenantId businessId : String)
    (entries : List Entry) : Result MovementPayload :=
  finishWith opCode tenantId businessId (entries.map (·.field))
    ((entries.filter fun e => !e.derived).map (·.field))

/-! ## 3. Checks -/

/-- The end of a stocktake may have more lines than the other documents. -/
def MAX_STOCKTAKE_LINES : ℕ := 2000

/-- At least one line, and at most so many. -/
def assertLineCount (count max : ℕ) : Result Unit := do
  refuseIf (count = 0) ⟨.inventoryLinesRequired, "a document needs at least one line"⟩
  refuseIf (count > max)
    (payloadInvalid ("a document has at most " ++ toString max ++ " lines"))

/-- An id that is compared is checked first, with a message of its own. -/
def assertUuid (value what : String) : Result Unit :=
  refuseIf (CANONICAL_UUID_RE value = false)
    (payloadInvalid (what ++ " is not a canonical lowercase uuid"))

/-- No two lines of a document have one key. -/
def assertDistinct (keys : List String) : Result Unit :=
  refuseIf (¬ keys.Nodup) ⟨.inventoryDuplicateLine, "a line may not repeat within a document"⟩

/-- Stocktake lines stand in strictly ascending variant order. -/
def assertVariantOrder (variantIds : List String) : Result Unit := do
  let _ ← variantIds.zipIdx.mapM fun p => assertUuid p.1 (lineLabel p.2 ++ " variant")
  assertDistinct variantIds
  refuseIf (¬ variantIds.IsChain (· < ·))
    (payloadInvalid "stocktake lines must be in ascending variant order")

/-- The direction is the document's, so its quantities have no sign. -/
def assertPositive (q : ℤ) (what : String) : Result Unit :=
  refuseIf (q ≤ 0) (payloadInvalid (what ++ " must be positive"))

/-! ## 4. The documents -/

structure TransferLine where
  variantId : String
  qtyQ4 : ℤ
  deriving DecidableEq, Repr

/-- Stock moved from one warehouse to another. -/
structure TransferPayloadInput extends CommandScope where
  transferId : String
  sourceWarehouseId : String
  destinationWarehouseId : String
  lines : List TransferLine
  deriving DecidableEq, Repr

def TransferLine.entries (l : TransferLine) : List Entry := [.uuid l.variantId, .int l.qtyQ4]

def transferLineEntries (l : TransferLine) (i : ℕ) : Result (List Entry) := do
  assertPositive l.qtyQ4 (lineLabel i ++ " quantity")
  pure l.entries

/-- The server derives nothing of a transfer. -/
def transferEntries (input : TransferPayloadInput) : Result (List Entry) := do
  assertLineCount input.lines.length MAX_DOCUMENT_LINES
  refuseIf (input.sourceWarehouseId = input.destinationWarehouseId)
    (payloadInvalid "a transfer moves stock between two different warehouses")
  assertDistinct (input.lines.map (·.variantId))
  let lines ← input.lines.zipIdx.mapM fun p => transferLineEntries p.1 p.2
  pure ([.uuid input.transferId, .uuid input.sourceWarehouseId, .uuid input.destinationWarehouseId,
    .int input.lines.length] ++ lines.flatten)

def transferPayload (input : TransferPayloadInput) : Result MovementPayload := do
  let entries ← transferEntries input
  finish .inventoryTransfer input.tenantId input.businessId entries

structure AdjustLine where
  variantId : String
  qtyDeltaQ4 : ℤ
  unitCostC10 : Option ℤ
  expectedValue : ℤ
  deriving DecidableEq, Repr

/-- Gains and losses of one warehouse, with the reason for them. -/
structure AdjustPayloadInput extends CommandScope where
  adjustmentId : String
  warehouseId : String
  occurredOn : String
  reason : String
  lines : List AdjustLine
  deriving DecidableEq, Repr

/-- What a line that adds stock states: its cost, and a value that is not negative. -/
def assertGain (l : AdjustLine) (what : String) : Result Unit := do
  let cost ← someOr l.unitCostC10
    ⟨.inventoryUnitCostRequired, what ++ " is a gain and needs a unit cost"⟩
  refuseIf (cost < 0) (payloadInvalid (what ++ " unit cost must not be negative"))
  refuseIf (l.expectedValue < 0)
    (payloadInvalid (what ++ " is a gain and cannot carry a negative value"))

/-- A line that takes stock states no cost: it leaves at the average. -/
def assertLoss (l : AdjustLine) (what : String) : Result Unit := do
  refuseIf (l.unitCostC10 ≠ none)
    (payloadInvalid (what ++ " is a loss and is valued at the average, not at a stated cost"))
  refuseIf (l.expectedValue > 0)
    (payloadInvalid (what ++ " is a loss and cannot carry a positive value"))

/-- The value is the prediction of the server. -/
def AdjustLine.entries (l : AdjustLine) : List Entry :=
  [.uuid l.variantId, .int l.qtyDeltaQ4, .intOrNull l.unitCostC10,
    (Entry.int l.expectedValue).byServer]

def adjustLineEntries (l : AdjustLine) (i : ℕ) : Result (List Entry) := do
  let what := lineLabel i
  refuseIf (l.qtyDeltaQ4 = 0) (payloadInvalid (what ++ " quantity must not be zero"))
  if l.qtyDeltaQ4 > 0 then assertGain l what else assertLoss l what
  pure l.entries

def adjustEntries (input : AdjustPayloadInput) : Result (List Entry) := do
  assertLineCount input.lines.length MAX_DOCUMENT_LINES
  assertDistinct (input.lines.map (·.variantId))
  let occurredOn ← yyyymmdd input.occurredOn
  let reason ← Entry.reason input.reason
  let lines ← input.lines.zipIdx.mapM fun p => adjustLineEntries p.1 p.2
  pure ([.uuid input.adjustmentId, .uuid input.warehouseId, .int occurredOn] ++ reason ++
    [.int input.lines.length] ++ lines.flatten)

def adjustPayload (input : AdjustPayloadInput) : Result MovementPayload := do
  let entries ← adjustEntries input
  finish .inventoryAdjust input.tenantId input.businessId entries

structure DamageLine where
  variantId : String
  qtyQ4 : ℤ
  expectedValue : ℤ
  deriving DecidableEq, Repr

/-- Stock written off, with the reason for it. -/
structure DamagePayloadInput extends CommandScope where
  adjustmentId : String
  warehouseId : String
  occurredOn : String
  reason : String
  lines : List DamageLine
  deriving DecidableEq, Repr

/-- The value is the prediction of the server. -/
def DamageLine.entries (l : DamageLine) : List Entry :=
  [.uuid l.variantId, .int l.qtyQ4, (Entry.int l.expectedValue).byServer]

def damageLineEntries (l : DamageLine) (i : ℕ) : Result (List Entry) := do
  assertPositive l.qtyQ4 (lineLabel i ++ " quantity")
  refuseIf (l.expectedValue > 0)
    (payloadInvalid (lineLabel i ++ " is a write-off and cannot carry a positive value"))
  pure l.entries

def damageEntries (input : DamagePayloadInput) : Result (List Entry) := do
  assertLineCount input.lines.length MAX_DOCUMENT_LINES
  assertDistinct (input.lines.map (·.variantId))
  let occurredOn ← yyyymmdd input.occurredOn
  let reason ← Entry.reason input.reason
  let lines ← input.lines.zipIdx.mapM fun p => damageLineEntries p.1 p.2
  pure ([.uuid input.adjustmentId, .uuid input.warehouseId, .int occurredOn] ++ reason ++
    [.int input.lines.length] ++ lines.flatten)

def damagePayload (input : DamagePayloadInput) : Result MovementPayload := do
  let entries ← damageEntries input
  finish .inventoryDamage input.tenantId input.businessId entries

/-- The start of a count in one warehouse. -/
structure StocktakeOpenPayloadInput extends CommandScope where
  stocktakeId : String
  warehouseId : String
  deriving DecidableEq, Repr

def stocktakeOpenEntries (input : StocktakeOpenPayloadInput) : List Entry :=
  [.uuid input.stocktakeId, .uuid input.warehouseId]

def stocktakeOpenPayload (input : StocktakeOpenPayloadInput) : Result MovementPayload :=
  finish .inventoryStocktakeOpen input.tenantId input.businessId (stocktakeOpenEntries input)

structure StocktakeCountLine where
  variantId : String
  countedQ4 : ℤ
  deriving DecidableEq, Repr

/-- What was counted, so far. -/
structure StocktakeCountPayloadInput extends CommandScope where
  stocktakeId : String
  warehouseId : String
  lines : List StocktakeCountLine
  deriving DecidableEq, Repr

def StocktakeCountLine.entries (l : StocktakeCountLine) : List Entry :=
  [.uuid l.variantId, .int l.countedQ4]

def stocktakeCountLineEntries (l : StocktakeCountLine) (i : ℕ) : Result (List Entry) := do
  refuseIf (l.countedQ4 < 0)
    (payloadInvalid (lineLabel i ++ " counted quantity must not be negative"))
  pure l.entries

/-- A count states quantities alone, in the order of the variants. -/
def stocktakeCountEntries (input : StocktakeCountPayloadInput) : Result (List Entry) := do
  assertLineCount input.lines.length MAX_DOCUMENT_LINES
  assertVariantOrder (input.lines.map (·.variantId))
  let lines ← input.lines.zipIdx.mapM fun p => stocktakeCountLineEntries p.1 p.2
  pure ([.uuid input.stocktakeId, .uuid input.warehouseId, .int input.lines.length] ++
    lines.flatten)

def stocktakeCountPayload (input : StocktakeCountPayloadInput) : Result MovementPayload := do
  let entries ← stocktakeCountEntries input
  finish .inventoryStocktakeCount input.tenantId input.businessId entries

/-- How a count ends. -/
inductive StocktakeOutcome
  | finalized | cancelled
  deriving DecidableEq, Repr

def StocktakeOutcome.text : StocktakeOutcome → String
  | finalized => "finalized"
  | cancelled => "cancelled"

structure StocktakeFinalizeLine where
  variantId : String
  varianceQ4 : ℤ
  unitCostC10 : Option ℤ
  expectedValue : ℤ
  deriving DecidableEq, Repr

/-- The end of a count, with the variances the server has found. -/
structure StocktakeFinalizePayloadInput extends CommandScope where
  stocktakeId : String
  warehouseId : String
  outcome : StocktakeOutcome
  occurredOn : Option String
  lines : List StocktakeFinalizeLine
  deriving DecidableEq, Repr

/-- Only a finalized count has a date and lines. -/
def assertOutcome (input : StocktakeFinalizePayloadInput) : Result Unit :=
  match input.outcome with
  | .cancelled =>
    refuseIf (input.occurredOn ≠ none ∨ input.lines.length ≠ 0)
      (payloadInvalid "a cancelled stocktake carries no date and no line")
  | .finalized => do
    refuseIf (input.occurredOn = none) (payloadInvalid "a finalized stocktake needs its date")
    assertLineCount input.lines.length MAX_STOCKTAKE_LINES
    assertVariantOrder (input.lines.map (·.variantId))

/-- The value does not have the sign of its variance. -/
def StocktakeFinalizeLine.SignDiffers (l : StocktakeFinalizeLine) : Prop :=
  if l.varianceQ4 = 0 then l.expectedValue ≠ 0
  else if l.varianceQ4 > 0 then l.expectedValue < 0
  else l.expectedValue > 0

instance (l : StocktakeFinalizeLine) : Decidable l.SignDiffers := by
  unfold StocktakeFinalizeLine.SignDiffers
  infer_instance

/-- Variance and value are the server's, the cost of a surplus the client's. -/
def StocktakeFinalizeLine.entries (l : StocktakeFinalizeLine) : List Entry :=
  [.uuid l.variantId, (Entry.int l.varianceQ4).byServer, .intOrNull l.unitCostC10,
    (Entry.int l.expectedValue).byServer]

def stocktakeFinalizeLineEntries (l : StocktakeFinalizeLine) (i : ℕ) : Result (List Entry) := do
  refuseIf (∃ cost ∈ l.unitCostC10, l.varianceQ4 ≤ 0 ∨ cost < 0)
    (payloadInvalid
      (lineLabel i ++ " may carry a non-negative cost only for a positive variance"))
  refuseIf l.SignDiffers
    (payloadInvalid (lineLabel i ++ " value does not have the sign of its variance"))
  pure l.entries

def stocktakeFinalizeEntries (input : StocktakeFinalizePayloadInput) : Result (List Entry) := do
  assertOutcome input
  let occurredOn ← input.occurredOn.mapM yyyymmdd
  let lines ← input.lines.zipIdx.mapM fun p => stocktakeFinalizeLineEntries p.1 p.2
  pure ([.uuid input.stocktakeId, .uuid input.warehouseId, .code input.outcome.text,
    .intOrNull occurredOn, .int input.lines.length] ++ lines.flatten)

def stocktakeFinalizePayload (input : StocktakeFinalizePayloadInput) :
    Result MovementPayload := do
  let entries ← stocktakeFinalizeEntries input
  finish .inventoryStocktakeFinalize input.tenantId input.businessId entries

structure OpeningLine where
  warehouseId : String
  variantId : String
  qtyQ4 : ℤ
  unitCostC10 : ℤ
  deriving DecidableEq, Repr

/-- The stock a business starts with, and the position of its opening balance it fills. -/
structure OpeningPayloadInput extends CommandScope where
  openingId : String
  occurredOn : String
  openingBalanceId : Option String
  positionMinor : Option ℤ
  lines : List OpeningLine
  deriving DecidableEq, Repr

def OpeningLine.entries (l : OpeningLine) : List Entry :=
  [.uuid l.warehouseId, .uuid l.variantId, .int l.qtyQ4, .int l.unitCostC10]

def openingLineEntries (l : OpeningLine) (i : ℕ) : Result (List Entry) := do
  assertPositive l.qtyQ4 (lineLabel i ++ " quantity")
  refuseIf (l.unitCostC10 < 0)
    (payloadInvalid (lineLabel i ++ " unit cost must not be negative"))
  pure l.entries

/-- The position is the server's; a line is one variant in one warehouse. -/
def openingEntries (input : OpeningPayloadInput) : Result (List Entry) := do
  assertLineCount input.lines.length MAX_DOCUMENT_LINES
  refuseIf (¬ (input.openingBalanceId = none ↔ input.positionMinor = none))
    (payloadInvalid "an opening position is an opening balance id and its amount, or neither")
  assertDistinct (input.lines.map fun l => l.warehouseId ++ "|" ++ l.variantId)
  let occurredOn ← yyyymmdd input.occurredOn
  let lines ← input.lines.zipIdx.mapM fun p => openingLineEntries p.1 p.2
  pure ([.uuid input.openingId, .int occurredOn,
    (input.openingBalanceId.elim Entry.nul Entry.uuid).byServer,
    (Entry.intOrNull input.positionMinor).byServer, .int input.lines.length] ++ lines.flatten)

def openingPayload (input : OpeningPayloadInput) : Result MovementPayload := do
  let entries ← openingEntries input
  finish .inventoryOpening input.tenantId input.businessId entries

/-! ## 5. The client's entries -/

/-- What a builder does not mark. -/
def clientEntries (entries : List Entry) : List InventoryPayloadField :=
  (entries.filter fun e => !e.derived).map (·.field)

/-- The marks of the entries select what is not marked. -/
theorem select_entries (entries : List Entry) :
    select (entries.map fun e => !e.derived) (entries.map (·.field)) = clientEntries entries := by
  induction entries with
  | nil => rfl
  | cons e entries ih =>
    obtain ⟨field, derived⟩ := e
    cases derived with
    | true => exact ih
    | false => exact congrArg (field :: ·) ih

/-- The client's entries of a document are those of its head and of each line. -/
theorem clientEntries_lines {α : Type} (es : List Entry) (line : α → List Entry) (lines : List α) :
    clientEntries (es ++ (lines.map line).flatten) =
      clientEntries es ++ (lines.map fun l => clientEntries (line l)).flatten := by
  unfold clientEntries
  rw [List.filter_append, List.map_append, List.filter_flatten, List.map_flatten, List.map_map,
    List.map_map]
  rfl

theorem fields_lines {α : Type} (es : List Entry) (line : α → List Entry) (lines : List α) :
    (es ++ (lines.map line).flatten).map (·.field) =
      es.map (·.field) ++ (lines.map fun l => (line l).map (·.field)).flatten := by
  rw [List.map_append, List.map_flatten, List.map_map]
  rfl

/-- Eight entries of a client's text. -/
theorem reason_eq_ok {text : String} {es : List Entry} (h : Entry.reason text = .ok es) :
    ∃ a b c d e f g i : ℤ, es = [.int a, .int b, .int c, .int d, .int e, .int f, .int g, .int i] := by
  obtain ⟨ws, hws, rfl⟩ := map_eq_ok.mp h
  obtain ⟨a, b, c, d, e, f, g, i, rfl⟩ := exists_eight (length_reasonWords hws)
  exact ⟨a, b, c, d, e, f, g, i, rfl⟩

/-- **A document with lines is signed over all its entries, its intent over the client's**, when the
    schema keeps what the builder does not mark. -/
theorem finish_signed {op : InventoryOperationCode} {tenantId businessId : String}
    {r : MovementPayload} {α : Type} {header group : List InventoryPayloadFieldSpec}
    {countField : String} {hes : List Entry} {lines : List α} {line : α → List Entry} (k : ℕ)
    (marks lineMarks : List Bool)
    (hs : INVENTORY_PAYLOAD_SCHEMAS op = withGroup header countField group)
    (hkept : linesKept op = true) (hk : countIndex header countField = k)
    (hmarks : header.map (keep op) = marks) (hlineMarks : group.map (keep op) = lineMarks)
    (hes_marks : (hes.map fun e => !e.derived) = marks)
    (hline_marks : ∀ l, ((line l).map fun e => !e.derived) = lineMarks)
    (hcount : hes[k]? = some (.int lines.length))
    (h : finish op tenantId businessId (hes ++ (lines.map line).flatten) = .ok r) :
    Signed op tenantId businessId ((hes ++ (lines.map line).flatten).map (·.field))
      (clientEntries (hes ++ (lines.map line).flatten)) r := by
  obtain ⟨hp, hi⟩ := finishWith_eq_ok.mp h
  have hclient : ∀ es : List Entry, ∀ ms : List Bool, (es.map fun e => !e.derived) = ms →
      select ms (es.map (·.field)) = clientEntries es := by
    intro es ms hms
    rw [← hms, select_entries]
  have hlen : ∀ es : List Entry, ∀ ms : List Bool, (es.map fun e => !e.derived) = ms →
      (es.map (·.field)).length = ms.length := by
    intro es ms hms
    rw [← hms, List.length_map, List.length_map]
  have hi' : inventoryIntentSha256 op tenantId businessId
      (clientEntries (hes ++ (lines.map line).flatten)) = .ok r.2 := hi
  rw [clientEntries_lines] at hi' ⊢
  rw [fields_lines] at hp ⊢
  exact signed_lines k marks lineMarks hs hkept hk hmarks hlineMarks (hlen _ _ hes_marks)
    (fun l => hlen _ _ (hline_marks l)) (by rw [List.getElem?_map, hcount]; rfl)
    (hclient _ _ hes_marks) (fun l => hclient _ _ (hline_marks l)) hp hi'

/-! ## 6. What each document signs -/

/-- **A transfer** signs its entries, all of them the client's. -/
theorem transferPayload_signed {input : TransferPayloadInput} {r : MovementPayload}
    (h : transferPayload input = .ok r) : ∃ es, transferEntries input = .ok es ∧
      Signed .inventoryTransfer input.tenantId input.businessId (es.map (·.field))
        (clientEntries es) r := by
  obtain ⟨es, hes, hfin⟩ := bind_eq_ok.mp h
  refine ⟨es, hes, ?_⟩
  simp only [transferEntries, bind_eq_ok, pure_eq_ok] at hes
  obtain ⟨_, _, _, _, _, _, lines, hlines, rfl⟩ := hes
  have hstep : ∀ l i y, transferLineEntries l i = .ok y → y = l.entries := by
    intro l i y hy
    obtain ⟨_, _, hy⟩ := bind_eq_ok.mp hy
    exact (Except.ok.inj hy).symm
  obtain rfl := numbered_eq_map hlines hstep
  exact finish_signed 3 (List.replicate 4 true) [true, true] rfl rfl
    rfl rfl rfl rfl (fun _ => rfl) rfl hfin

/-- **An adjustment** signs its entries; the intent leaves out each predicted value. -/
theorem adjustPayload_signed {input : AdjustPayloadInput} {r : MovementPayload}
    (h : adjustPayload input = .ok r) : ∃ es, adjustEntries input = .ok es ∧
      Signed .inventoryAdjust input.tenantId input.businessId (es.map (·.field))
        (clientEntries es) r := by
  obtain ⟨es, hes, hfin⟩ := bind_eq_ok.mp h
  refine ⟨es, hes, ?_⟩
  simp only [adjustEntries, bind_eq_ok, pure_eq_ok] at hes
  obtain ⟨_, _, _, _, date, _, reason, hreason, lines, hlines, rfl⟩ := hes
  obtain ⟨_, _, _, _, _, _, _, _, rfl⟩ := reason_eq_ok hreason
  have hstep : ∀ l i y, adjustLineEntries l i = .ok y → y = l.entries := by
    intro l i y hy
    obtain ⟨_, _, hy⟩ := bind_eq_ok.mp hy
    split at hy
    · obtain ⟨_, _, hy⟩ := bind_eq_ok.mp hy
      exact (Except.ok.inj hy).symm
    · obtain ⟨_, _, hy⟩ := bind_eq_ok.mp hy
      exact (Except.ok.inj hy).symm
  obtain rfl := numbered_eq_map hlines hstep
  exact finish_signed 11 (List.replicate 12 true) [true, true, true, false] rfl rfl
    rfl rfl rfl rfl (fun _ => rfl) rfl hfin

/-- **A write-off** signs its entries; the intent leaves out each predicted value. -/
theorem damagePayload_signed {input : DamagePayloadInput} {r : MovementPayload}
    (h : damagePayload input = .ok r) : ∃ es, damageEntries input = .ok es ∧
      Signed .inventoryDamage input.tenantId input.businessId (es.map (·.field))
        (clientEntries es) r := by
  obtain ⟨es, hes, hfin⟩ := bind_eq_ok.mp h
  refine ⟨es, hes, ?_⟩
  simp only [damageEntries, bind_eq_ok, pure_eq_ok] at hes
  obtain ⟨_, _, _, _, date, _, reason, hreason, lines, hlines, rfl⟩ := hes
  obtain ⟨_, _, _, _, _, _, _, _, rfl⟩ := reason_eq_ok hreason
  have hstep : ∀ l i y, damageLineEntries l i = .ok y → y = l.entries := by
    intro l i y hy
    simp only [damageLineEntries, bind_eq_ok, pure_eq_ok] at hy
    obtain ⟨_, _, _, _, rfl⟩ := hy
    rfl
  obtain rfl := numbered_eq_map hlines hstep
  exact finish_signed 11 (List.replicate 12 true) [true, true, false] rfl rfl
    rfl rfl rfl rfl (fun _ => rfl) rfl hfin

/-- **The start of a count** signs its two ids. -/
theorem stocktakeOpenPayload_signed {input : StocktakeOpenPayloadInput} {r : MovementPayload}
    (h : stocktakeOpenPayload input = .ok r) :
    Signed .inventoryStocktakeOpen input.tenantId input.businessId
      ((stocktakeOpenEntries input).map (·.field)) (clientEntries (stocktakeOpenEntries input)) r :=
  signed_all rfl h

/-- **A count** signs its entries, all of them the client's. -/
theorem stocktakeCountPayload_signed {input : StocktakeCountPayloadInput} {r : MovementPayload}
    (h : stocktakeCountPayload input = .ok r) : ∃ es, stocktakeCountEntries input = .ok es ∧
      Signed .inventoryStocktakeCount input.tenantId input.businessId (es.map (·.field))
        (clientEntries es) r := by
  obtain ⟨es, hes, hfin⟩ := bind_eq_ok.mp h
  refine ⟨es, hes, ?_⟩
  simp only [stocktakeCountEntries, bind_eq_ok, pure_eq_ok] at hes
  obtain ⟨_, _, _, _, lines, hlines, rfl⟩ := hes
  have hstep : ∀ l i y, stocktakeCountLineEntries l i = .ok y → y = l.entries := by
    intro l i y hy
    obtain ⟨_, _, hy⟩ := bind_eq_ok.mp hy
    exact (Except.ok.inj hy).symm
  obtain rfl := numbered_eq_map hlines hstep
  exact finish_signed 2 (List.replicate 3 true) [true, true] rfl rfl
    rfl rfl rfl rfl (fun _ => rfl) rfl hfin

/-- **The end of a count** signs its entries; the intent keeps the costs alone of each line's
    figures. -/
theorem stocktakeFinalizePayload_signed {input : StocktakeFinalizePayloadInput}
    {r : MovementPayload} (h : stocktakeFinalizePayload input = .ok r) :
    ∃ es, stocktakeFinalizeEntries input = .ok es ∧
      Signed .inventoryStocktakeFinalize input.tenantId input.businessId (es.map (·.field))
        (clientEntries es) r := by
  obtain ⟨es, hes, hfin⟩ := bind_eq_ok.mp h
  refine ⟨es, hes, ?_⟩
  simp only [stocktakeFinalizeEntries, bind_eq_ok, pure_eq_ok] at hes
  obtain ⟨_, _, date, _, lines, hlines, rfl⟩ := hes
  have hstep : ∀ l i y, stocktakeFinalizeLineEntries l i = .ok y → y = l.entries := by
    intro l i y hy
    simp only [stocktakeFinalizeLineEntries, bind_eq_ok, pure_eq_ok] at hy
    obtain ⟨_, _, _, _, rfl⟩ := hy
    rfl
  obtain rfl := numbered_eq_map hlines hstep
  exact finish_signed 4 (List.replicate 5 true) [true, false, true, false] rfl rfl
    rfl rfl rfl rfl (fun _ => rfl) rfl hfin

/-- **An opening** signs its entries; the intent leaves out the position it fills. -/
theorem openingPayload_signed {input : OpeningPayloadInput} {r : MovementPayload}
    (h : openingPayload input = .ok r) : ∃ es, openingEntries input = .ok es ∧
      Signed .inventoryOpening input.tenantId input.businessId (es.map (·.field))
        (clientEntries es) r := by
  obtain ⟨es, hes, hfin⟩ := bind_eq_ok.mp h
  refine ⟨es, hes, ?_⟩
  simp only [openingEntries, bind_eq_ok, pure_eq_ok] at hes
  obtain ⟨_, _, _, _, _, _, date, _, lines, hlines, rfl⟩ := hes
  have hstep : ∀ l i y, openingLineEntries l i = .ok y → y = l.entries := by
    intro l i y hy
    simp only [openingLineEntries, bind_eq_ok, pure_eq_ok] at hy
    obtain ⟨_, _, _, _, rfl⟩ := hy
    rfl
  obtain rfl := numbered_eq_map hlines hstep
  exact finish_signed 4 [true, true, false, false, true] (List.replicate 4 true) rfl
    rfl rfl rfl rfl rfl
    (fun _ => rfl) rfl hfin

end Daftar.Inventory.Payload
