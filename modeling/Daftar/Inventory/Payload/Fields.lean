/-
  File: Daftar/Inventory/Payload/Fields.lean
  Subject: The values a builder puts into fields: civil dates, document texts, lower-case codes.

  * `yyyymmdd` is the integer of a date that exists.
  * `documentTextWords` are the eight words of a text's SHA-256, or eight NULLs.
-/

import Daftar.Accounting.Fingerprint
import Daftar.Inventory.Payload.Intent

namespace Daftar.Inventory.Payload

open Accounting (trim)
open Fallible
open Sha256

/-! ## 1. Dates -/

/-- The digits of `^(\d{4})-(\d{2})-(\d{2})$`. -/
def dateGroups (date : String) : Option (List Char × List Char × List Char) :=
  match date.toList with
  | [y1, y2, y3, y4, '-', m1, m2, '-', d1, d2] =>
    if [y1, y2, y3, y4, m1, m2, d1, d2].all Char.isDigit then
      some ([y1, y2, y3, y4], [m1, m2], [d1, d2])
    else none
  | _ => none

/-- The days of a month of a year, none for a month that is not. -/
def monthDays (year month : ℕ) : Option ℕ :=
  if month < 1 ∨ month > 12 then none
  else if month = 2 then
    some (if (year % 4 = 0 ∧ year % 100 ≠ 0) ∨ year % 400 = 0 then 29 else 28)
  else some (if month ∈ [4, 6, 9, 11] then 30 else 31)

def yyyymmdd (date : String) : Result ℤ := do
  let (y, m, d) ← someOr (dateGroups date)
    ⟨.inventoryPayloadInvalid, "a date must be YYYY-MM-DD"⟩
  let year := Nat.ofDigitChars 10 y 0
  let month := Nat.ofDigitChars 10 m 0
  let day := Nat.ofDigitChars 10 d 0
  refuseIf (year < 1 ∨ day < 1 ∨ ∀ days ∈ monthDays year month, days < day)
    ⟨.inventoryPayloadInvalid, "a date must be a real calendar date"⟩
  pure ((year * 10000 + month * 100 + day : ℕ) : ℤ)

/-! ## 2. Document texts -/

/-- The eight 32-bit words of a text's digest, most significant first. -/
def textWords (text : String) : List ℤ :=
  let h := Sha256.hash (utf8 text)
  [h.a, h.b, h.c, h.d, h.e, h.f, h.g, h.h].map fun w => (w : ℤ)

/-- The words of a text that is trimmed and in bounds. A `String` has no lone surrogate, which the
    source refuses beside NUL. -/
def documentTextWords (text : Option String) (what : String) (min max : ℕ) :
    Result (List (Option ℤ)) :=
  match text with
  | none => .ok (List.replicate 8 none)
  | some text => do
    refuseIf (text ≠ String.ofList (trim text) ∨ text.length = 0)
      ⟨.inventoryPayloadInvalid, what ++ " must be trimmed, non-empty text or NULL"⟩
    refuseIf (text.toList.contains (Char.ofNat 0) = true)
      ⟨.inventoryPayloadInvalid, what ++ " must be well-formed text without NUL"⟩
    refuseIf (text.length < min ∨ text.length > max)
      ⟨.inventoryPayloadInvalid,
        what ++ " must be " ++ toString min ++ ".." ++ toString max ++ " characters"⟩
    pure ((textWords text).map some)

/-- Eight words, NULL or not. -/
theorem length_documentTextWords {text : Option String} {what : String} {min max : ℕ}
    {ws : List (Option ℤ)} (h : documentTextWords text what min max = .ok ws) : ws.length = 8 := by
  cases text with
  | none =>
      cases h
      rfl
  | some text =>
      simp only [documentTextWords, bind_eq_ok, refuseIf_eq_ok, exists_const, pure_eq_ok] at h
      obtain ⟨_, _, _, rfl⟩ := h
      rfl

/-! ## 3. Fields -/

def int (value : ℤ) : InventoryPayloadField := .integer (.bigint value)

/-- The one character outside ASCII whose lower case a code admits is the Kelvin sign. -/
def lowerChar (c : Char) : Char := if c.toNat = 0x212a then 'k' else c.toLower

/-- `currency.toLowerCase()` as a registry code. -/
def code (currency : String) : InventoryPayloadField :=
  .code (String.ofList (currency.toList.map lowerChar))

/-- A word of a text, or NULL. -/
def wordField : Option ℤ → InventoryPayloadField
  | none => .null
  | some w => int w

/-- A figure, or NULL. -/
def nullableInt : Option ℤ → InventoryPayloadField
  | none => .null
  | some v => int v

end Daftar.Inventory.Payload
