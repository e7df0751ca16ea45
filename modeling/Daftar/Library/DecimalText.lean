/-
  File: Daftar/Library/DecimalText.lean
  Subject: Exact decimal literals: their grammar, the number they write, the text of a scale.

  * A `Literal` is a sign, a whole part without a leading zero, and perhaps a fraction.
    `readLiteral_eq_some`: a text is read as a literal exactly when it is the literal's text.
  * `value` is the number a literal writes, `units` the same number in units of `10^-scale`.
  * `fixed` writes a number of units with all the digits of its scale. `eq_fixed_of_canonical`: it is
    the only literal of that number with these digits and no sign on zero.
  * `FixedPoint` is what a parser and a formatter of one scale promise together.
-/

import Daftar.Library.CivilDate
import Mathlib.Algebra.Order.Field.Rat
import Mathlib.Data.Rat.Cast.Order
import Mathlib.Tactic.FieldSimp
import Mathlib.Tactic.Positivity
import Mathlib.Tactic.Ring

namespace DecimalText

open CivilDate

/-! ## 1. Literals -/

/-- `0|[1-9][0-9]*` -/
def isWhole : List Char → Bool
  | [] => false
  | c :: cs => c.isDigit && cs.all Char.isDigit && (c != '0' || cs.isEmpty)

/-- The groups of `^(-?)(0|[1-9][0-9]*)(?:\.([0-9]+))?$`, with an empty third group for none. -/
@[ext]
structure Literal where
  negative : Bool
  whole : List Char
  fraction : List Char
  whole_ok : isWhole whole = true
  fraction_ok : fraction.all Char.isDigit = true
  deriving DecidableEq

namespace Literal

theorem whole_digits (l : Literal) : ∀ c ∈ l.whole, c.isDigit = true := by
  have h := l.whole_ok
  revert h
  cases l.whole with
  | nil => exact nofun
  | cons c cs =>
      intro h
      simp only [isWhole, Bool.and_eq_true, List.all_eq_true] at h
      exact List.forall_mem_cons.mpr h.1

theorem fraction_digits (l : Literal) : ∀ c ∈ l.fraction, c.isDigit = true :=
  List.all_eq_true.mp l.fraction_ok

theorem whole_ne_nil (l : Literal) : l.whole ≠ [] := by
  intro h
  have hw := l.whole_ok
  rw [h] at hw
  cases hw

end Literal

/-- The text of a fraction, with its point. -/
def point (fraction : List Char) : List Char := if fraction = [] then [] else '.' :: fraction

def Literal.chars (l : Literal) : List Char :=
  (if l.negative then ['-'] else []) ++ (l.whole ++ point l.fraction)

def Literal.text (l : Literal) : String := String.ofList l.chars

/-- What follows the whole part: a point with something behind it, or nothing. -/
def readPoint : List Char → Option (List Char)
  | [] => some []
  | c :: fraction => if c = '.' ∧ fraction ≠ [] then some fraction else none

/-- A text after its sign. -/
def readUnsigned (negative : Bool) (cs : List Char) : Option Literal :=
  (readPoint (cs.dropWhile Char.isDigit)).bind fun fraction =>
    if h : isWhole (cs.takeWhile Char.isDigit) = true ∧ fraction.all Char.isDigit = true then
      some ⟨negative, cs.takeWhile Char.isDigit, fraction, h.1, h.2⟩
    else none

/-- The literal a text is. -/
def readLiteral : List Char → Option Literal
  | '-' :: cs => readUnsigned true cs
  | cs => readUnsigned false cs

theorem readPoint_eq_some {cs fraction : List Char} :
    readPoint cs = some fraction ↔ cs = point fraction := by
  unfold point
  cases cs with
  | nil =>
      by_cases hf : fraction = []
      · simp [readPoint, hf]
      · simp [readPoint, hf, eq_comm]
  | cons c cs =>
      by_cases hf : fraction = []
      · simp [readPoint, hf]
      · simp only [readPoint, hf, if_false, List.cons.injEq, Option.ite_none_right_eq_some,
          Option.some.injEq]
        constructor
        · intro h
          obtain ⟨⟨hc, _⟩, rfl⟩ := h
          exact ⟨hc, rfl⟩
        · intro h
          obtain ⟨hc, rfl⟩ := h
          exact ⟨⟨hc, hf⟩, rfl⟩

theorem readUnsigned_eq_some {negative : Bool} {cs : List Char} {l : Literal} :
    readUnsigned negative cs = some l ↔
      l.negative = negative ∧ l.whole ++ point l.fraction = cs := by
  have hdot : ¬ ('.' : Char).isDigit = true := by decide
  constructor
  · intro h
    obtain ⟨fraction, hpoint, h⟩ := Option.bind_eq_some_iff.mp h
    split at h
    · cases h
      refine ⟨rfl, ?_⟩
      rw [← readPoint_eq_some.mp hpoint]
      exact List.takeWhile_append_dropWhile
    · cases h
  · intro h
    obtain ⟨rfl, rfl⟩ := h
    have htake : (l.whole ++ point l.fraction).takeWhile Char.isDigit = l.whole := by
      rw [List.takeWhile_append_of_pos l.whole_digits]
      unfold point
      split
      · rw [List.takeWhile_nil, List.append_nil]
      · rw [List.takeWhile_cons_of_neg hdot, List.append_nil]
    have hdrop : (l.whole ++ point l.fraction).dropWhile Char.isDigit = point l.fraction := by
      rw [List.dropWhile_append_of_pos l.whole_digits]
      unfold point
      split
      · rfl
      · rw [List.dropWhile_cons_of_neg hdot]
    unfold readUnsigned
    rw [hdrop, readPoint_eq_some.mpr rfl, Option.bind_some]
    simp only [htake, l.whole_ok, l.fraction_ok, and_self, dite_true]

/-- **A text is read as a literal exactly when it is the literal's own text.** -/
theorem readLiteral_eq_some {cs : List Char} {l : Literal} :
    readLiteral cs = some l ↔ l.chars = cs := by
  unfold readLiteral Literal.chars
  split
  · rename_i cs
    rw [readUnsigned_eq_some]
    cases l.negative with
    | true => simp
    | false =>
        -- A whole part does not begin with a sign.
        refine iff_of_false (fun h => Bool.false_ne_true h.1) fun h => ?_
        cases hw : l.whole with
        | nil => exact l.whole_ne_nil hw
        | cons c ds =>
            rw [if_neg Bool.false_ne_true, List.nil_append, hw, List.cons_append] at h
            have hdigit := l.whole_digits c (hw ▸ List.mem_cons_self)
            rw [(List.cons.inj h).1] at hdigit
            exact absurd hdigit (by decide)
  · rename_i hsign
    rw [readUnsigned_eq_some]
    cases l.negative with
    | true =>
        refine iff_of_false (fun h => Bool.false_ne_true h.1.symm) fun h => ?_
        rw [if_pos rfl] at h
        exact hsign _ h.symm
    | false => simp

theorem readLiteral_text {s : String} {l : Literal} :
    readLiteral s.toList = some l ↔ l.text = s := by
  rw [readLiteral_eq_some, Literal.text]
  exact ⟨fun h => by rw [h, String.ofList_toList], fun h => by rw [← h, String.toList_ofList]⟩

theorem text_injective {l m : Literal} (h : l.text = m.text) : l = m := by
  have hl : readLiteral l.text.toList = some l := readLiteral_text.mpr rfl
  have hm : readLiteral l.text.toList = some m := readLiteral_text.mpr h.symm
  rw [hl] at hm
  exact Option.some.inj hm

/-! ## 2. Values -/

namespace Literal

variable (l : Literal)

def sign : ℤ := if l.negative then -1 else 1

/-- The number a literal writes. -/
def value : ℚ :=
  l.sign * (Nat.ofDigitChars 10 l.whole 0 +
    Nat.ofDigitChars 10 l.fraction 0 / 10 ^ l.fraction.length)

/-- The digits of a literal, filled up to a scale, as an integer with its sign. -/
def units (scale : ℕ) : ℤ :=
  l.sign * (Nat.ofDigitChars 10
    (l.whole ++ (l.fraction ++ List.replicate (scale - l.fraction.length) '0')) 0 : ℤ)

theorem ofDigitChars_filled {scale : ℕ} (h : l.fraction.length ≤ scale) :
    Nat.ofDigitChars 10 (l.whole ++ (l.fraction ++ List.replicate (scale - l.fraction.length) '0')) 0 =
      10 ^ scale * Nat.ofDigitChars 10 l.whole 0 +
        10 ^ (scale - l.fraction.length) * Nat.ofDigitChars 10 l.fraction 0 := by
  have hpow : 10 ^ (scale - l.fraction.length) * 10 ^ l.fraction.length = 10 ^ scale := by
    rw [← pow_add, Nat.sub_add_cancel h]
  rw [Nat.ofDigitChars_append, Nat.ofDigitChars_append, Nat.ofDigitChars_replicate_zero,
    Nat.ofDigitChars_eq_ofDigitChars_zero (l := l.fraction), Nat.mul_add, ← Nat.mul_assoc, hpow]

/-- **The units of a scale are the value, scaled.** -/
theorem units_eq {scale : ℕ} (h : l.fraction.length ≤ scale) :
    (l.units scale : ℚ) = l.value * 10 ^ scale := by
  have hpow : (10 : ℚ) ^ scale = 10 ^ (scale - l.fraction.length) * 10 ^ l.fraction.length := by
    rw [← pow_add, Nat.sub_add_cancel h]
  unfold units value
  rw [l.ofDigitChars_filled h]
  push_cast
  rw [hpow]
  field_simp

end Literal

/-! ## 3. The text of a scale -/

theorem one_le_digit {c : Char} (h : c.isDigit = true) (h0 : c ≠ '0') :
    1 ≤ c.toNat - '0'.toNat := by
  simp only [Char.isDigit, Bool.and_eq_true, decide_eq_true_eq, ge_iff_le,
    UInt32.le_iff_toNat_le] at h
  have h48 : 48 ≤ c.toNat := h.1
  have hne : c.toNat ≠ 48 := fun h48 => h0 (Char.toNat_inj.mp h48)
  have hzero : '0'.toNat = 48 := rfl
  omega

/-- A number is written without a zero in front of other digits. -/
theorem isWhole_take {cs : List Char} {n k : ℕ} (hd : ∀ c ∈ cs, c.isDigit = true)
    (hcs : cs = padded (k + 1) n) : isWhole (cs.take (cs.length - k)) = true := by
  subst hcs
  have hlen : k + 1 ≤ (padded (k + 1) n).length := by
    unfold padded
    rw [List.length_append, List.length_replicate]
    omega
  cases hp : padded (k + 1) n with
  | nil =>
      rw [hp] at hlen
      cases hlen
  | cons c cs =>
      rw [hp] at hlen hd
      have hsub : (c :: cs).length - k = cs.length - k + 1 := by
        rw [List.length_cons] at hlen ⊢
        omega
      rw [hsub, List.take_succ_cons]
      simp only [isWhole, Bool.and_eq_true, Bool.or_eq_true, bne_iff_ne, List.all_eq_true,
        List.isEmpty_iff]
      refine ⟨⟨hd c List.mem_cons_self, fun d hm =>
        hd d (List.mem_cons_of_mem c (List.mem_of_mem_take hm))⟩, ?_⟩
      by_cases hlong : cs.length ≤ k
      · rw [Nat.sub_eq_zero_of_le hlong, List.take_zero]
        exact .inr rfl
      · -- Longer than its padding: nothing was padded.
        left
        have hdigits : padded (k + 1) n = Nat.toDigits 10 n := by
          have hl := congrArg List.length hp
          unfold padded at hl ⊢
          rw [List.length_append, List.length_replicate, List.length_cons] at hl
          rw [show k + 1 - (Nat.toDigits 10 n).length = 0 by omega]
          rfl
        rw [hdigits] at hp
        refine toDigits_head ?_ hp
        by_contra h0
        rw [show n = 0 by omega, Nat.toDigits_zero] at hp
        cases hp
        exact hlong (Nat.zero_le k)

/-- The literal of a number of units, with every digit of the scale. -/
def fixed (scale : ℕ) (n : ℤ) : Literal where
  negative := decide (n < 0)
  whole := (padded (scale + 1) n.natAbs).take ((padded (scale + 1) n.natAbs).length - scale)
  fraction := (padded (scale + 1) n.natAbs).drop ((padded (scale + 1) n.natAbs).length - scale)
  whole_ok := isWhole_take (fun _ h => isDigit_of_mem_padded h) rfl
  fraction_ok := List.all_eq_true.mpr fun _ h => isDigit_of_mem_padded (List.mem_of_mem_drop h)

/-- All the digits of the scale are written, and no sign before zero. -/
def Literal.Canonical (scale : ℕ) (l : Literal) : Prop :=
  l.fraction.length = scale ∧ (l.negative = true → l.value ≠ 0)

theorem length_fraction_fixed (scale : ℕ) (n : ℤ) : (fixed scale n).fraction.length = scale := by
  have hlen : scale + 1 ≤ (padded (scale + 1) n.natAbs).length := by
    unfold padded
    rw [List.length_append, List.length_replicate]
    omega
  show ((padded (scale + 1) n.natAbs).drop _).length = scale
  rw [List.length_drop]
  omega

theorem units_fixed (scale : ℕ) (n : ℤ) : (fixed scale n).units scale = n := by
  have hdigits : (fixed scale n).whole ++ (fixed scale n).fraction = padded (scale + 1) n.natAbs :=
    List.take_append_drop ..
  have hsign : (fixed scale n).sign = if n < 0 then -1 else 1 := by
    show (if decide (n < 0) = true then (-1 : ℤ) else 1) = _
    simp only [decide_eq_true_eq]
  unfold Literal.units
  rw [length_fraction_fixed, Nat.sub_self, List.replicate_zero, List.append_nil, hdigits,
    ofDigitChars_padded, hsign]
  split <;> omega

theorem value_fixed (scale : ℕ) (n : ℤ) : (fixed scale n).value = n / 10 ^ scale := by
  have h := (fixed scale n).units_eq (length_fraction_fixed scale n).le
  rw [units_fixed] at h
  rw [h]
  field_simp

theorem canonical_fixed (scale : ℕ) (n : ℤ) : (fixed scale n).Canonical scale := by
  refine ⟨length_fraction_fixed scale n, fun hneg hzero => ?_⟩
  have hlt : n < 0 := of_decide_eq_true hneg
  rw [value_fixed, div_eq_zero_iff] at hzero
  rcases hzero with hzero | hzero
  · exact hlt.ne (Int.cast_eq_zero.mp hzero)
  · exact absurd hzero (by positivity)

/-- **A whole part is written by its value.** -/
theorem toDigits_ofDigitChars {cs : List Char} (h : isWhole cs = true) :
    Nat.toDigits 10 (Nat.ofDigitChars 10 cs 0) = cs := by
  cases cs with
  | nil => cases h
  | cons c cs =>
      simp only [isWhole, Bool.and_eq_true, Bool.or_eq_true, bne_iff_ne, List.all_eq_true,
        List.isEmpty_iff] at h
      obtain ⟨hdigits, hzero⟩ := h
      have hall : ∀ d ∈ c :: cs, d.isDigit = true := List.forall_mem_cons.mpr hdigits
      have hlt := ofDigitChars_lt hall 0
      rw [Nat.zero_add, Nat.one_mul] at hlt
      have hle : (Nat.toDigits 10 (Nat.ofDigitChars 10 (c :: cs) 0)).length ≤ (c :: cs).length :=
        (Nat.length_toDigits_le_iff (by decide) (Nat.succ_pos _)).mpr hlt
      have hge : (c :: cs).length ≤ (Nat.toDigits 10 (Nat.ofDigitChars 10 (c :: cs) 0)).length := by
        cases hcs : cs with
        | nil => exact Nat.length_toDigits_pos
        | cons d ds =>
            -- The first digit counts at its place.
            have hc : c ≠ '0' := hzero.resolve_right (hcs ▸ List.cons_ne_nil d ds)
            have hfirst := one_le_digit hdigits.1 hc
            rw [← hcs]
            by_contra hshort
            have hlen : (Nat.toDigits 10 (Nat.ofDigitChars 10 (c :: cs) 0)).length ≤ cs.length := by
              rw [List.length_cons] at hshort
              omega
            have hsmall := (Nat.length_toDigits_le_iff (by decide)
              (by rw [hcs]; exact Nat.succ_pos _)).mp hlen
            rw [Nat.ofDigitChars_cons, Nat.ofDigitChars_eq_ofDigitChars_zero, Nat.mul_zero,
              Nat.zero_add] at hsmall
            have hplace : 10 ^ cs.length * 1 ≤ 10 ^ cs.length * (c.toNat - '0'.toNat) :=
              Nat.mul_le_mul_left _ hfirst
            omega
      exact (ofDigitChars_inj (fun d hd => Nat.isDigit_of_mem_toDigits (by decide) (by decide) hd)
        hall (le_antisymm hle hge) Nat.ofDigitChars_ten_toDigits).2

theorem Literal.Canonical.units_eq_digits {scale : ℕ} {l : Literal} (h : l.Canonical scale) :
    l.units scale = l.sign * (10 ^ scale * Nat.ofDigitChars 10 l.whole 0 +
      Nat.ofDigitChars 10 l.fraction 0 : ℕ) := by
  unfold Literal.units
  rw [l.ofDigitChars_filled h.1.le, h.1, Nat.sub_self, pow_zero, Nat.one_mul]

/-- A canonical literal has a sign exactly when its number is below zero. -/
theorem Literal.Canonical.negative_iff {scale : ℕ} {l : Literal} (h : l.Canonical scale) :
    l.negative = true ↔ l.units scale < 0 := by
  have hunits := h.units_eq_digits
  unfold Literal.sign at hunits
  constructor
  · intro hneg
    have hne : l.units scale ≠ 0 := by
      intro hzero
      have hvalue := l.units_eq h.1.le
      rw [hzero, Int.cast_zero, eq_comm, mul_eq_zero] at hvalue
      rcases hvalue with hvalue | hvalue
      · exact h.2 hneg hvalue
      · exact absurd hvalue (by positivity)
    rw [if_pos hneg] at hunits
    omega
  · intro hlt
    by_contra hneg
    rw [if_neg hneg] at hunits
    omega

/-- **Canonical literals of one scale and one number are one literal.** -/
theorem Literal.Canonical.ext {scale : ℕ} {l m : Literal} (hl : l.Canonical scale)
    (hm : m.Canonical scale) (h : l.units scale = m.units scale) : l = m := by
  have hneg : l.negative = m.negative := by
    rw [Bool.eq_iff_iff, hl.negative_iff, hm.negative_iff, h]
  have hsign : l.sign = m.sign := by
    unfold Literal.sign
    rw [hneg]
  have hsign0 : m.sign ≠ 0 := by
    unfold Literal.sign
    split <;> decide
  rw [hl.units_eq_digits, hm.units_eq_digits, hsign] at h
  have hdigits := Int.natCast_inj.mp (mul_left_cancel₀ hsign0 h)
  have hfl := ofDigitChars_lt l.fraction_digits 0
  have hfm := ofDigitChars_lt m.fraction_digits 0
  rw [Nat.zero_add, Nat.one_mul, hl.1] at hfl
  rw [Nat.zero_add, Nat.one_mul, hm.1] at hfm
  have hpos : 0 < 10 ^ scale := Nat.pow_pos (by decide)
  have hwhole : Nat.ofDigitChars 10 l.whole 0 = Nat.ofDigitChars 10 m.whole 0 := by
    have hdiv := congrArg (· / 10 ^ scale) hdigits
    simpa only [Nat.mul_add_div hpos, Nat.div_eq_of_lt hfl, Nat.div_eq_of_lt hfm, Nat.add_zero]
      using hdiv
  have hfraction : Nat.ofDigitChars 10 l.fraction 0 = Nat.ofDigitChars 10 m.fraction 0 := by
    rw [hwhole] at hdigits
    omega
  refine Literal.ext hneg ?_ ?_
  · rw [← toDigits_ofDigitChars l.whole_ok, hwhole, toDigits_ofDigitChars m.whole_ok]
  · exact (ofDigitChars_inj l.fraction_digits m.fraction_digits (hl.1.trans hm.1.symm) hfraction).2

/-- **The canonical literal of a number of units is the one `fixed` writes.** -/
theorem eq_fixed_of_canonical {scale : ℕ} {l : Literal} {n : ℤ} (h : l.Canonical scale)
    (hvalue : l.value = n / 10 ^ scale) : l = fixed scale n := by
  have hunits := l.units_eq h.1.le
  rw [hvalue, div_mul_cancel₀ _ (by positivity), Int.cast_inj] at hunits
  exact h.ext (canonical_fixed scale n) (hunits.trans (units_fixed scale n).symm)

/-! ## 4. Parsers and formatters -/

/-- What a parser and a formatter of numbers with `scale` fraction digits promise together: the
    parser takes the literals in range, the formatter writes what is read back, and formatting what
    was read gives the one canonical literal of the number. -/
structure FixedPoint {ε : Type} (scale : ℕ) (InRange : ℚ → Prop) (parse : String → Except ε ℤ)
    (format : ℤ → String) : Prop where
  parse_iff : ∀ (s : String) (n : ℤ), parse s = .ok n ↔ ∃ l : Literal, l.text = s ∧
    l.fraction.length ≤ scale ∧ InRange l.value ∧ (n : ℚ) = l.value * 10 ^ scale
  parse_format : ∀ n : ℤ, InRange (n / 10 ^ scale) → parse (format n) = .ok n
  format_parse : ∀ (l : Literal) (n : ℤ), parse l.text = .ok n →
    ∃ c : Literal, c.text = format n ∧ (c.Canonical scale ∧ c.value = l.value) ∧
      ∀ d : Literal, d.Canonical scale → d.value = l.value → d = c

/-- **A parser that takes the literals in range, and `fixed` as its formatter, fit together.** -/
theorem FixedPoint.of_parse_iff {ε : Type} {scale : ℕ} {InRange : ℚ → Prop}
    {parse : String → Except ε ℤ} {format : ℤ → String}
    (hparse : ∀ (s : String) (n : ℤ), parse s = .ok n ↔ ∃ l : Literal, l.text = s ∧
      l.fraction.length ≤ scale ∧ InRange l.value ∧ (n : ℚ) = l.value * 10 ^ scale)
    (hformat : ∀ n, format n = (fixed scale n).text) :
    FixedPoint scale InRange parse format where
  parse_iff := hparse
  parse_format n hn := by
    refine (hparse _ _).mpr ⟨fixed scale n, (hformat n).symm, (length_fraction_fixed scale n).le,
      ?_, ?_⟩
    · rw [value_fixed]
      exact hn
    · rw [value_fixed, div_mul_cancel₀ _ (by positivity)]
  format_parse l n h := by
    obtain ⟨m, hm, _, _, hn⟩ := (hparse _ _).mp h
    obtain rfl := text_injective hm
    have hvalue : m.value = n / 10 ^ scale := by
      rw [hn, mul_div_cancel_right₀ _ (by positivity)]
    refine ⟨fixed scale n, (hformat n).symm, ⟨canonical_fixed scale n, ?_⟩, fun d hd hdv => ?_⟩
    · rw [value_fixed, hvalue]
    · exact eq_fixed_of_canonical hd (hdv.trans hvalue)

end DecimalText
