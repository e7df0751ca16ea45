/-
  File: Daftar/Library/Base64Url.lean
  Subject: Bytes as text in the URL-safe base 64 alphabet, without padding.

  * `encode` writes three bytes as four letters, a rest of two as three and of one as two.
  * `decode` reads letters back; bits that fill no byte are dropped, and so is a letter alone.
  * `decode_encode`: bytes are read back. `length_encode` and `letters_encode` say how long and of
    what the text is.
-/

import Mathlib.Data.List.Basic

namespace Base64Url

/-! ## 1. Letters -/

def ALPHABET : List Char :=
  "ABCDEFGHIJKLMNOPQRSTUVWXYZabcdefghijklmnopqrstuvwxyz0123456789-_".toList

/-- `[A-Za-z0-9_-]` -/
def isLetter (c : Char) : Bool := ALPHABET.contains c

/-- The letter of six bits. -/
def letter (n : ℕ) : Char := ALPHABET.getD n 'A'

/-- The six bits of a letter. -/
def sextet (c : Char) : ℕ := ALPHABET.idxOf c

/-- The letters are 64, each with its own bits, and printable ASCII. -/
theorem ALPHABET_letters : (∀ n < 64, sextet (letter n) = n) ∧ 'A' ∈ ALPHABET ∧
    (ALPHABET.all fun c => 32 ≤ c.toNat ∧ c.toNat < 127) = true := by
  decide +kernel

theorem sextet_letter {n : ℕ} (h : n < 64) : sextet (letter n) = n := by
  obtain ⟨hsextet, _⟩ := ALPHABET_letters
  exact hsextet n h

theorem isLetter_letter (n : ℕ) : isLetter (letter n) = true := by
  obtain ⟨_, hfirst, _⟩ := ALPHABET_letters
  unfold isLetter letter
  rw [List.contains_iff_mem, List.getD_eq_getElem?_getD]
  cases h : ALPHABET[n]? with
  | none => exact hfirst
  | some c => exact List.mem_of_getElem? h

/-- A letter is printable ASCII. -/
theorem printable_of_isLetter {c : Char} (h : isLetter c = true) : 32 ≤ c.toNat ∧ c.toNat < 127 := by
  obtain ⟨_, _, hprintable⟩ := ALPHABET_letters
  rw [List.all_eq_true] at hprintable
  exact of_decide_eq_true (hprintable c (List.contains_iff_mem.mp h))

/-! ## 2. Texts -/

def encode : List UInt8 → List Char
  | a :: b :: c :: rest =>
      let n := a.toNat * 65536 + b.toNat * 256 + c.toNat
      letter (n / 262144) :: letter (n / 4096 % 64) :: letter (n / 64 % 64) :: letter (n % 64) ::
        encode rest
  | [a, b] =>
      let n := a.toNat * 1024 + b.toNat * 4
      [letter (n / 4096), letter (n / 64 % 64), letter (n % 64)]
  | [a] =>
      let n := a.toNat * 16
      [letter (n / 64), letter (n % 64)]
  | [] => []

def decode : List Char → List UInt8
  | w :: x :: y :: z :: rest =>
      let n := sextet w * 262144 + sextet x * 4096 + sextet y * 64 + sextet z
      UInt8.ofNat (n / 65536) :: UInt8.ofNat (n / 256) :: UInt8.ofNat n :: decode rest
  | [w, x, y] =>
      let n := sextet w * 4096 + sextet x * 64 + sextet y
      [UInt8.ofNat (n / 1024), UInt8.ofNat (n / 4)]
  | [w, x] =>
      let n := sextet w * 64 + sextet x
      [UInt8.ofNat (n / 16)]
  | _ => []

theorem ofNat_eq {a : UInt8} {n : ℕ} (h : n % 256 = a.toNat) : UInt8.ofNat n = a := by
  rw [← UInt8.toNat_inj, UInt8.toNat_ofNat', h]

/-- **Bytes are read back from their text.** -/
theorem decode_encode (bytes : List UInt8) : decode (encode bytes) = bytes := by
  fun_induction encode bytes with
  | case1 a b c rest n ih =>
      have ha := a.toNat_lt
      have hb := b.toNat_lt
      have hc := c.toNat_lt
      have hn : n = a.toNat * 65536 + b.toNat * 256 + c.toNat := rfl
      clear_value n
      have hw := sextet_letter (n := n / 262144) (by omega)
      have hx := sextet_letter (n := n / 4096 % 64) (by omega)
      have hy := sextet_letter (n := n / 64 % 64) (by omega)
      have hz := sextet_letter (n := n % 64) (by omega)
      have hbits : n / 262144 * 262144 + n / 4096 % 64 * 4096 + n / 64 % 64 * 64 + n % 64 = n := by
        omega
      simp only [decode, ih, hw, hx, hy, hz, hbits]
      rw [ofNat_eq (a := a) (by omega), ofNat_eq (a := b) (by omega), ofNat_eq (a := c) (by omega)]
  | case2 a b n =>
      have ha := a.toNat_lt
      have hb := b.toNat_lt
      have hn : n = a.toNat * 1024 + b.toNat * 4 := rfl
      clear_value n
      have hw := sextet_letter (n := n / 4096) (by omega)
      have hx := sextet_letter (n := n / 64 % 64) (by omega)
      have hy := sextet_letter (n := n % 64) (by omega)
      have hbits : n / 4096 * 4096 + n / 64 % 64 * 64 + n % 64 = n := by omega
      simp only [decode, hw, hx, hy, hbits]
      rw [ofNat_eq (a := a) (by omega), ofNat_eq (a := b) (by omega)]
  | case3 a n =>
      have ha := a.toNat_lt
      have hn : n = a.toNat * 16 := rfl
      clear_value n
      have hw := sextet_letter (n := n / 64) (by omega)
      have hx := sextet_letter (n := n % 64) (by omega)
      have hbits : n / 64 * 64 + n % 64 = n := by omega
      simp only [decode, hw, hx, hbits]
      rw [ofNat_eq (a := a) (by omega)]
  | case4 => rfl

theorem letters_encode {bytes : List UInt8} : ∀ c ∈ encode bytes, isLetter c = true := by
  fun_induction encode bytes with
  | case1 a b c rest n ih =>
      intro d hd
      simp only [List.mem_cons] at hd
      rcases hd with rfl | rfl | rfl | rfl | hd
      · exact isLetter_letter _
      · exact isLetter_letter _
      · exact isLetter_letter _
      · exact isLetter_letter _
      · exact ih d hd
  | case2 a b n =>
      intro d hd
      simp only [List.mem_cons, List.not_mem_nil, or_false] at hd
      rcases hd with rfl | rfl | rfl <;> exact isLetter_letter _
  | case3 a n =>
      intro d hd
      simp only [List.mem_cons, List.not_mem_nil, or_false] at hd
      rcases hd with rfl | rfl <;> exact isLetter_letter _
  | case4 => exact fun _ h => absurd h List.not_mem_nil

theorem length_encode (bytes : List UInt8) : (encode bytes).length = (4 * bytes.length + 2) / 3 := by
  fun_induction encode bytes with
  | case1 a b c rest n ih =>
      simp only [List.length_cons, ih]
      omega
  | case2 a b n => simp only [List.length_cons, List.length_nil]
  | case3 a n => simp only [List.length_cons, List.length_nil]
  | case4 => rfl

example : encode [0x66, 0x6f, 0x6f, 0x62] = "Zm9vYg".toList := by decide +kernel

end Base64Url
