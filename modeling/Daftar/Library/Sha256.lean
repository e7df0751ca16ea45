/-
  File: Daftar/Library/Sha256.lean
  Subject: SHA-256, and its digest as lower-case hexadecimal text.

  * Words are naturals below 2^32; every sum is reduced. A message is padded, cut into words, and
    compressed block by block.
  * `HEX_64` is the form of a digest; `hex_digest` says that every digest has it.
  * `CollisionFree` is what a proof may assume of the messages it talks about.
-/

import Daftar.Library.AsciiText
import Mathlib.Algebra.Group.Nat.Defs

namespace Sha256

open AsciiText

/-! ## 1. Words -/

def WORD : ℕ := 4294967296

def rotr (x n : ℕ) : ℕ := (x >>> n ||| x <<< (32 - n)) % WORD

def smallSigma0 (x : ℕ) : ℕ := rotr x 7 ^^^ rotr x 18 ^^^ (x >>> 3)

def smallSigma1 (x : ℕ) : ℕ := rotr x 17 ^^^ rotr x 19 ^^^ (x >>> 10)

def bigSigma0 (x : ℕ) : ℕ := rotr x 2 ^^^ rotr x 13 ^^^ rotr x 22

def bigSigma1 (x : ℕ) : ℕ := rotr x 6 ^^^ rotr x 11 ^^^ rotr x 25

def ch (x y z : ℕ) : ℕ := (x &&& y) ^^^ ((WORD - 1 - x) &&& z)

def maj (x y z : ℕ) : ℕ := (x &&& y) ^^^ (x &&& z) ^^^ (y &&& z)

/-! ## 2. Blocks -/

/-- The eight working words. -/
structure Words where
  a : ℕ
  b : ℕ
  c : ℕ
  d : ℕ
  e : ℕ
  f : ℕ
  g : ℕ
  h : ℕ

def H0 : Words :=
  ⟨0x6a09e667, 0xbb67ae85, 0x3c6ef372, 0xa54ff53a, 0x510e527f, 0x9b05688c, 0x1f83d9ab, 0x5be0cd19⟩

def K : List ℕ :=
  [ 0x428a2f98, 0x71374491, 0xb5c0fbcf, 0xe9b5dba5, 0x3956c25b, 0x59f111f1, 0x923f82a4, 0xab1c5ed5,
    0xd807aa98, 0x12835b01, 0x243185be, 0x550c7dc3, 0x72be5d74, 0x80deb1fe, 0x9bdc06a7, 0xc19bf174,
    0xe49b69c1, 0xefbe4786, 0x0fc19dc6, 0x240ca1cc, 0x2de92c6f, 0x4a7484aa, 0x5cb0a9dc, 0x76f988da,
    0x983e5152, 0xa831c66d, 0xb00327c8, 0xbf597fc7, 0xc6e00bf3, 0xd5a79147, 0x06ca6351, 0x14292967,
    0x27b70a85, 0x2e1b2138, 0x4d2c6dfc, 0x53380d13, 0x650a7354, 0x766a0abb, 0x81c2c92e, 0x92722c85,
    0xa2bfe8a1, 0xa81a664b, 0xc24b8b70, 0xc76c51a3, 0xd192e819, 0xd6990624, 0xf40e3585, 0x106aa070,
    0x19a4c116, 0x1e376c08, 0x2748774c, 0x34b0bcb5, 0x391c0cb3, 0x4ed8aa4a, 0x5b9cca4f, 0x682e6ff3,
    0x748f82ee, 0x78a5636f, 0x84c87814, 0x8cc70208, 0x90befffa, 0xa4506ceb, 0xbef9a3f7, 0xc67178f2 ]

def round (k w : ℕ) (s : Words) : Words :=
  let t1 := (s.h + bigSigma1 s.e + ch s.e s.f s.g + k + w) % WORD
  let t2 := (bigSigma0 s.a + maj s.a s.b s.c) % WORD
  ⟨(t1 + t2) % WORD, s.a, s.b, s.c, (s.d + t1) % WORD, s.e, s.f, s.g⟩

/-- The word sixteen places on in the message schedule. -/
def scheduled (window : List ℕ) : ℕ :=
  (window.getD 0 0 + smallSigma0 (window.getD 1 0) + window.getD 9 0 +
    smallSigma1 (window.getD 14 0)) % WORD

/-- The rounds of the constants, over a sliding window of sixteen scheduled words. -/
def rounds : List ℕ → List ℕ → Words → Words
  | [], _, s => s
  | k :: ks, window, s =>
      rounds ks (window.tail ++ [scheduled window]) (round k (window.headD 0) s)

def compress (s : Words) (block : List ℕ) : Words :=
  let r := rounds K block s
  ⟨(s.a + r.a) % WORD, (s.b + r.b) % WORD, (s.c + r.c) % WORD, (s.d + r.d) % WORD,
    (s.e + r.e) % WORD, (s.f + r.f) % WORD, (s.g + r.g) % WORD, (s.h + r.h) % WORD⟩

def compressAll : ℕ → List ℕ → Words → Words
  | 0, _, s => s
  | n + 1, words, s => compressAll n (words.drop 16) (compress s (words.take 16))

/-! ## 3. Messages -/

/-- The length in bits, as eight bytes. -/
def lengthBytes (bits : ℕ) : List ℕ := (List.range 8).map fun i => bits / 256 ^ (7 - i) % 256

def pad (message : List ℕ) : List ℕ :=
  message ++ 0x80 :: (List.replicate ((119 - message.length % 64) % 64) 0 ++
    lengthBytes (message.length * 8))

/-- Four bytes a word. -/
def words : List ℕ → List ℕ
  | b0 :: b1 :: b2 :: b3 :: rest => (((b0 * 256 + b1) * 256 + b2) * 256 + b3) :: words rest
  | _ => []

def hash (message : List UInt8) : Words :=
  let ws := words (pad (message.map UInt8.toNat))
  compressAll (ws.length / 16) ws H0

/-! ## 4. Hexadecimal text -/

def hexWord (w : ℕ) : List Char := (List.range 8).map fun i => Nat.digitChar (w / 16 ^ (7 - i) % 16)

def hexChars (s : Words) : List Char :=
  [s.a, s.b, s.c, s.d, s.e, s.f, s.g, s.h].flatMap hexWord

/-- `encode(digest(message, 'sha256'), 'hex')`. -/
def digest (message : List UInt8) : String := String.ofList (hexChars (hash message))

def hexLower (c : Char) : Bool := ('0' ≤ c && c ≤ '9') || ('a' ≤ c && c ≤ 'f')

/-- `^[0-9a-f]{64}$`. -/
def HEX_64 (s : String) : Bool := matchesEach (List.replicate 64 hexLower) s.toList

theorem matchesEach_replicate {p : Char → Bool} : ∀ {cs : List Char}, (∀ c ∈ cs, p c = true) →
    matchesEach (List.replicate cs.length p) cs = true
  | [], _ => rfl
  | c :: cs, h => by
      have ih := matchesEach_replicate fun d hd => h d (List.mem_cons_of_mem c hd)
      rw [List.length_cons, List.replicate_succ, matchesEach, h c List.mem_cons_self, ih]
      rfl

theorem hexLower_digitChar {n : ℕ} (h : n < 16) : hexLower (Nat.digitChar n) = true := by
  have hall : ∀ m : Fin 16, hexLower (Nat.digitChar m.val) = true := by decide
  exact hall ⟨n, h⟩

theorem hexLower_of_mem_hexChars {s : Words} {c : Char} (h : c ∈ hexChars s) :
    hexLower c = true := by
  obtain ⟨w, _, hw⟩ := List.mem_flatMap.mp h
  obtain ⟨i, _, rfl⟩ := List.mem_map.mp hw
  exact hexLower_digitChar (Nat.mod_lt _ (by omega))

/-- **A digest is sixty-four lower-case hexadecimal digits.** -/
theorem hex_digest (message : List UInt8) : HEX_64 (digest message) = true := by
  unfold HEX_64 digest
  rw [String.toList_ofList]
  exact matchesEach_replicate fun c hc => hexLower_of_mem_hexChars hc

/-- A digest is on one line. -/
theorem newline_notMem_of_hex {s : String} (h : HEX_64 s = true) : '\n' ∉ s.toList := by
  intro hn
  have hclass : ∀ p ∈ List.replicate 64 hexLower, ∀ c, p c = true → hexLower c = true := by
    intro p hp c hc
    rw [(List.mem_replicate.mp hp).2] at hc
    exact hc
  exact absurd (matchesEach_forall hclass h '\n' hn) (by decide)

/-! ## 5. Collisions -/

/-- No two of these messages have one digest. -/
def CollisionFree (messages : List (List UInt8)) : Prop :=
  ∀ x ∈ messages, ∀ y ∈ messages, digest x = digest y → x = y

theorem CollisionFree.mono {ms ns : List (List UInt8)} (h : CollisionFree ns) (hsub : ms ⊆ ns) :
    CollisionFree ms := fun x hx y hy => h x (hsub hx) y (hsub hy)

/-- The bytes of a text. -/
def utf8 (s : String) : List UInt8 := s.toUTF8.data.toList

theorem utf8_injective {s t : String} (h : utf8 s = utf8 t) : s = t := by
  unfold utf8 at h
  have hdata : s.toUTF8.data = t.toUTF8.data := Array.toList_inj.mp h
  exact String.toByteArray_inj.mp (ByteArray.ext hdata)

example : digest (utf8 "abc") = "ba7816bf8f01cfea414140de5dae2223b00361a396177a9cb410ff61f20015ad" := by
  decide +kernel

end Sha256
