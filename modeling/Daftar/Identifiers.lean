/-
  File: Daftar/Identifiers.lean
  Subject: Identifiers of rows.

  * A `Uuid` is kept as its canonical text, in lower case.
  * `Uuid.sample` numbers the identifiers of samples.
-/

import Daftar.Inventory.Payload.Decode

namespace Daftar

open AsciiText
open Inventory.Payload

/-- A canonical uuid. -/
structure Uuid where
  text : String
  canonical : CANONICAL_UUID_RE text = true
  deriving DecidableEq

theorem Uuid.length_text (u : Uuid) : u.text.toList.length = 36 := by
  have h := matchesEach_length u.canonical
  rw [h]
  rfl

theorem Uuid.printable (u : Uuid) : Printable u.text := printable_of_uuid u.canonical

theorem Uuid.ext_text {u v : Uuid} (h : u.text = v.text) : u = v := by
  cases u
  cases v
  cases h
  rfl

/-- The text of a sample identifier: all zero but its version, its variant and its last digit. -/
def sampleText (d : Fin 16) : String :=
  "00000000-0000-4000-8000-00000000000" ++ String.singleton (Nat.digitChar d)

theorem canonical_sampleText : ∀ d : Fin 16, CANONICAL_UUID_RE (sampleText d) = true := by
  decide +kernel

/-- The sample identifier of a number. -/
def Uuid.sample (d : ℕ) : Uuid := ⟨sampleText (Fin.ofNat 16 d), canonical_sampleText _⟩

end Daftar
