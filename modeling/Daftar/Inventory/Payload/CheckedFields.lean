/-
  File: Daftar/Inventory/Payload/CheckedFields.lean
  Subject: Fields a builder checks before it signs them.

  * Each builder file of the package has its own `uuid`, `revision` and `words`; they are one
    function here, with the bounds and the messages of each caller.
  * An accepted field is the value it was given (`uuidField_eq_ok`); a text is eight fields
    (`wordFields_eq_ok`).
  * `assertLineIds`: what every document checks of its lines before it reads them.
-/

import Daftar.Inventory.Payload.ClientPart
import Daftar.Inventory.Payload.Fields
import Daftar.Inventory.SupplierReturn

namespace Daftar.Inventory.Payload

open Accounting (CURRENCY_RE)
open Fallible

/-! ## 1. Checks -/

/-- A stored reason has 1..500 characters after trimming. -/
def REASON_MAX_CHARS : ℕ := 500

def payloadInvalid (message : String) : InventoryError := ⟨.inventoryPayloadInvalid, message⟩

def uuidField (value what : String) : Result InventoryPayloadField := do
  refuseIf (CANONICAL_UUID_RE value = false)
    (payloadInvalid (what ++ " is not a canonical lowercase uuid"))
  pure (.uuid value)

/-- An id, or NULL. -/
def nullableUuid : Option String → InventoryPayloadField
  | none => .null
  | some value => .uuid value

def uuidOrNull (value : Option String) (what : String) : Result InventoryPayloadField :=
  match value with
  | none => .ok .null
  | some value => uuidField value what

/-- A `number` that is a safe integer of a range. -/
def JsInteger.SafeWithin (lo hi : ℤ) : JsInteger → Prop
  | .number n => (-MAX_SAFE_INTEGER ≤ n ∧ n ≤ MAX_SAFE_INTEGER) ∧ lo ≤ n ∧ n ≤ hi
  | .negativeZero => lo ≤ 0 ∧ 0 ≤ hi
  | _ => False

instance (lo hi : ℤ) (v : JsInteger) : Decidable (v.SafeWithin lo hi) := by
  cases v <;> (unfold JsInteger.SafeWithin; infer_instance)

def safeIntegerField (value : JsInteger) (lo hi : ℤ) (message : String) :
    Result InventoryPayloadField := do
  refuseIf (¬ value.SafeWithin lo hi) (payloadInvalid message)
  pure (.integer value)

/-- The largest revision of a document. -/
def MAX_REVISION : ℤ := 2147483647

def dateField (date : String) : Result InventoryPayloadField := int <$> yyyymmdd date

def dateOrNull (date : Option String) : Result InventoryPayloadField :=
  match date with
  | none => .ok .null
  | some date => dateField date

/-- The bounds of a text, in characters after trimming. -/
structure TextBounds where
  min : ℕ
  max : ℕ
  deriving DecidableEq, Repr

/-- The words of a text within bounds, or eight NULLs. -/
def wordFields (text : Option String) (what : String) (bounds : TextBounds) :
    Result (List InventoryPayloadField) :=
  (List.map wordField) <$> documentTextWords text what bounds.min bounds.max

/-- The words of a reason that a document must state. -/
def requiredReasonFields (reason : Option String) (message : String) :
    Result (List InventoryPayloadField) := do
  refuseIf (reason = none) ⟨.inventoryReasonRequired, message⟩
  wordFields reason "reason" ⟨1, REASON_MAX_CHARS⟩

/-- The ISO code a routine takes, in lower case. -/
def currencyCode (currency : String) : Result String := do
  refuseIf (CURRENCY_RE currency.toList = false)
    (payloadInvalid "a currency is its uppercase three-letter ISO code")
  pure (String.ofList (currency.toList.map lowerChar))

def currencyField (currency : String) : Result InventoryPayloadField :=
  .code <$> currencyCode currency

/-- The tenant and the business of a command. -/
structure CommandScope where
  tenantId : String
  businessId : String
  deriving DecidableEq, Repr

/-- The name of a line in a message. -/
def lineLabel (i : ℕ) : String := "line " ++ toString (i + 1)

/-- What a document answers to no lines, to too many and to a repeated one. -/
structure LineMessages where
  required : String
  tooMany : String
  duplicate : String

/-- One to two hundred lines, each with its own id and its own key. -/
def assertLineIds (messages : LineMessages) (ids keys : List String) : Result Unit := do
  refuseIf (ids.length = 0) ⟨.inventoryLinesRequired, messages.required⟩
  refuseIf (ids.length > MAX_DOCUMENT_LINES) (payloadInvalid messages.tooMany)
  refuseIf (¬ (ids.Nodup ∧ keys.Nodup)) ⟨.inventoryDuplicateLine, messages.duplicate⟩

/-! ## 2. Accepted fields -/

@[simp] theorem uuidField_eq_ok {value what : String} {f : InventoryPayloadField} :
    uuidField value what = .ok f ↔ CANONICAL_UUID_RE value = true ∧ .uuid value = f := by
  simp only [uuidField, bind_eq_ok, refuseIf_eq_ok, exists_const, pure_eq_ok, Bool.not_eq_false]

@[simp] theorem uuidOrNull_eq_ok {value : Option String} {what : String}
    {f : InventoryPayloadField} : uuidOrNull value what = .ok f ↔
      (∀ v ∈ value, CANONICAL_UUID_RE v = true) ∧ nullableUuid value = f := by
  cases value with
  | none => simp [uuidOrNull, nullableUuid]
  | some v => simp [uuidOrNull, nullableUuid]

/-- A list of eight, written out. -/
theorem exists_eight {α : Type} {xs : List α} (h : xs.length = 8) :
    ∃ a b c d e f g i, xs = [a, b, c, d, e, f, g, i] := by
  match xs, h with
  | [a, b, c, d, e, f, g, i], _ => exact ⟨a, b, c, d, e, f, g, i, rfl⟩

/-- A text is eight fields. -/
theorem wordFields_eq_ok {text : Option String} {what : String} {bounds : TextBounds}
    {ws : List InventoryPayloadField} (h : wordFields text what bounds = .ok ws) :
    ∃ a b c d e f g i, ws = [a, b, c, d, e, f, g, i] := by
  obtain ⟨words, hwords, rfl⟩ := map_eq_ok.mp h
  exact exists_eight (by rw [List.length_map, length_documentTextWords hwords])

theorem requiredReasonFields_eq_ok {reason : Option String} {message : String}
    {ws : List InventoryPayloadField} (h : requiredReasonFields reason message = .ok ws) :
    ∃ a b c d e f g i, ws = [a, b, c, d, e, f, g, i] := by
  obtain ⟨_, _, hws⟩ := bind_eq_ok.mp h
  exact wordFields_eq_ok hws

/-- What a loop over numbered lines accepts, when the number stands in the messages alone. -/
theorem numbered_eq_map {α β : Type} {step : α → ℕ → Result β} {value : α → β} {lines : List α}
    {out : List β} (h : lines.zipIdx.mapM (fun p => step p.1 p.2) = .ok out)
    (hstep : ∀ l i y, step l i = .ok y → y = value l) : out = lines.map value := by
  have hfst := congrArg (List.map value) (List.zipIdx_map_fst 0 lines)
  rw [List.map_map] at hfst
  exact (mapM_eq_map h fun p y => hstep p.1 p.2 y).trans hfst

end Daftar.Inventory.Payload
