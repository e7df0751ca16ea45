/-
  File: Daftar/Library/AsciiText.lean
  Subject: Text as bytes, for formats that write ASCII.

  * `asciiBytes` keeps the low byte of every character, `asciiText` reads bytes back;
    `asciiText_asciiBytes` is the round trip on ASCII text.
  * `matchesEach` is a fixed-width pattern: one class of characters for each position.
  * `readDecimal` reads back what `toString` writes of an integer.
-/

import Mathlib.Data.List.Basic
import Mathlib.Data.Int.Basic

namespace AsciiText

/-! ## 1. Bytes -/

/-- The bytes of a text, one for each character, its low byte. -/
def asciiBytes (s : String) : List UInt8 :=
  s.toList.map fun c => UInt8.ofNat c.toNat

def asciiText (bs : List UInt8) : String :=
  String.ofList (bs.map fun b => Char.ofNat b.toNat)

/-- Printable ASCII: no control character, so neither a terminator nor a NUL. -/
def Printable (s : String) : Prop := ∀ c ∈ s.toList, 32 ≤ c.toNat ∧ c.toNat < 127

instance (s : String) : Decidable (Printable s) := List.decidableBAll _ s.toList

/-- A control character stands in no printable text. -/
theorem Printable.notMem {s : String} (h : Printable s) {c : Char} (hc : c.toNat < 32) :
    c ∉ s.toList := by
  intro hm
  have hp := h c hm
  omega

theorem charOfByte (c : Char) (h : c.toNat < 127) :
    Char.ofNat (UInt8.ofNat c.toNat).toNat = c := by
  have hb : (UInt8.ofNat c.toNat).toNat = c.toNat := by
    rw [UInt8.toNat_ofNat']
    omega
  rw [hb, Char.ofNat_toNat]

theorem asciiText_asciiBytes {s : String} (h : Printable s) : asciiText (asciiBytes s) = s := by
  unfold asciiText asciiBytes
  rw [List.map_map]
  have hid : s.toList.map ((fun b : UInt8 => Char.ofNat b.toNat) ∘ fun c => UInt8.ofNat c.toNat)
      = s.toList := by
    conv_rhs => rw [← List.map_id s.toList]
    apply List.map_congr_left
    intro c hc
    exact charOfByte c (h c hc).2
  rw [hid, String.ofList_toList]

theorem asciiBytes_mem {s : String} (h : Printable s) {b : UInt8} (hb : b ∈ asciiBytes s) :
    32 ≤ b.toNat := by
  unfold asciiBytes at hb
  rw [List.mem_map] at hb
  obtain ⟨c, hc, rfl⟩ := hb
  have := h c hc
  rw [UInt8.toNat_ofNat']
  omega

/-! ## 2. Fixed-width patterns -/

/-- Every position holds a character of its class, and there are no more positions. -/
def matchesEach : List (Char → Bool) → List Char → Bool
  | [], [] => true
  | p :: ps, c :: cs => p c && matchesEach ps cs
  | _, _ => false

theorem matchesEach_length : ∀ {ps : List (Char → Bool)} {cs : List Char},
    matchesEach ps cs = true → cs.length = ps.length
  | [], [], _ => rfl
  | p :: ps, c :: cs, h => by
      simp only [matchesEach, Bool.and_eq_true] at h
      simp [matchesEach_length h.2]

/-- A pattern is matched from the front. -/
theorem matchesEach_cons {p : Char → Bool} {ps : List (Char → Bool)} {cs : List Char} :
    matchesEach (p :: ps) cs = true ↔ ∃ d ds, cs = d :: ds ∧ p d = true ∧ matchesEach ps ds = true := by
  cases cs with
  | nil => exact ⟨nofun, nofun⟩
  | cons c cs =>
      rw [matchesEach, Bool.and_eq_true]
      exact ⟨fun h => ⟨c, cs, rfl, h⟩, fun ⟨_, _, heq, h⟩ => by cases heq; exact h⟩

theorem matchesEach_nil {cs : List Char} : matchesEach [] cs = true ↔ cs = [] := by
  cases cs with
  | nil => exact ⟨fun _ => rfl, fun _ => rfl⟩
  | cons c cs => exact ⟨nofun, nofun⟩

/-- What holds of every class holds of every character. -/
theorem matchesEach_forall {P : Char → Prop} : ∀ {ps : List (Char → Bool)} {cs : List Char},
    (∀ p ∈ ps, ∀ c, p c = true → P c) → matchesEach ps cs = true → ∀ c ∈ cs, P c
  | [], [], _, _, c, hc => by simp at hc
  | p :: ps, d :: cs, hp, h, c, hc => by
      simp only [matchesEach, Bool.and_eq_true] at h
      rcases List.mem_cons.mp hc with rfl | hc'
      · exact hp p List.mem_cons_self c h.1
      · exact matchesEach_forall (fun q hq => hp q (List.mem_cons_of_mem _ hq)) h.2 c hc'

/-! ## 3. Decimal integers -/

/-- Base ten with a leading `-` for a negative value. -/
def readDecimal : List Char → ℤ
  | '-' :: cs => -(Nat.ofDigitChars 10 cs 0 : ℤ)
  | cs => (Nat.ofDigitChars 10 cs 0 : ℤ)

theorem toList_toString_natCast (m : ℕ) : (toString (m : ℤ)).toList = Nat.toDigits 10 m := by
  show (toString m).toList = _
  rw [Nat.toString_eq_ofList_toDigits, String.toList_ofList]

theorem toList_toString_negSucc (m : ℕ) :
    (toString (Int.negSucc m)).toList = '-' :: Nat.toDigits 10 (m + 1) := by
  show ("-" ++ toString (m + 1)).toList = _
  rw [Nat.toString_eq_ofList_toDigits, String.toList_append, String.toList_ofList,
    String.toList_ofList]
  rfl

theorem readDecimal_toDigits (m : ℕ) : readDecimal (Nat.toDigits 10 m) = m := by
  have hr : Nat.ofDigitChars 10 (Nat.toDigits 10 m) 0 = m := Nat.ofDigitChars_ten_toDigits
  unfold readDecimal
  split
  · -- A digit is not a sign.
    rename_i cs heq
    have hd : ('-' : Char).isDigit = true :=
      Nat.isDigit_of_mem_toDigits (n := m) (by omega) (by omega) (heq ▸ List.mem_cons_self)
    exact absurd hd (by decide)
  · rw [hr]

/-- **An integer is read back from its decimal text.** -/
theorem readDecimal_toString (n : ℤ) : readDecimal (toString n).toList = n := by
  cases n with
  | ofNat m =>
      show readDecimal (toString (m : ℤ)).toList = m
      rw [toList_toString_natCast, readDecimal_toDigits]
  | negSucc m =>
      rw [toList_toString_negSucc]
      show -(Nat.ofDigitChars 10 (Nat.toDigits 10 (m + 1)) 0 : ℤ) = _
      rw [Nat.ofDigitChars_ten_toDigits]
      rfl

theorem printable_of_isDigit {c : Char} (h : c.isDigit = true) : 32 ≤ c.toNat ∧ c.toNat < 127 := by
  unfold Char.isDigit at h
  simp only [Bool.and_eq_true, decide_eq_true_eq, ge_iff_le, UInt32.le_iff_toNat_le] at h
  show 32 ≤ c.val.toNat ∧ c.val.toNat < 127
  have h1 : 48 ≤ c.val.toNat := h.1
  have h2 : c.val.toNat ≤ 57 := h.2
  omega

theorem printable_toString (n : ℤ) : Printable (toString n) := by
  have hdigits : ∀ m, ∀ c ∈ Nat.toDigits 10 m, 32 ≤ c.toNat ∧ c.toNat < 127 := by
    intro m c hc
    exact printable_of_isDigit (Nat.isDigit_of_mem_toDigits (by omega) (by omega) hc)
  cases n with
  | ofNat m =>
      intro c hc
      rw [show Int.ofNat m = (m : ℤ) from rfl, toList_toString_natCast] at hc
      exact hdigits m c hc
  | negSucc m =>
      intro c hc
      rw [toList_toString_negSucc] at hc
      rcases List.mem_cons.mp hc with rfl | hc'
      · decide
      · exact hdigits _ c hc'

end AsciiText
