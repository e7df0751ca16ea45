/-
  File: Daftar/Inventory/FixedPoint.lean
  Subject: Quantities, unit costs and values as text.

  * A quantity counts units of 10^-4, a unit cost units of 10^-10, a value whole minor units. Text is
    parsed into such a count and formatted back digit by digit.
  * `rescaleDecimal_eq_some`: decimal text with no more fraction digits than the scale, as its value.
  * `fixedPoint_texts`: each parser takes exactly the literals in its range, each formatter writes
    what its parser reads back, and no number has two canonical texts.
-/

import Daftar.Inventory.Allocation
import Daftar.Inventory.Rounding
import Daftar.Library.DecimalText

namespace Daftar.Inventory

open AsciiText
open CivilDate (padded)
open DecimalText
open Fallible

/-! ## 1. Parsing -/

def QTY_SCALE : ℕ := 4

def COST_SCALE : ℕ := 10

/-- The domain of a `NUMERIC(18,4)` column. -/
def QTY_DOMAIN_Q4 : ℤ := 10 ^ 18

/-- The groups of `DECIMAL_RE`. -/
def splitDecimal (text : String) : Option Literal := readLiteral text.toList

/-- `^-?(0|[1-9][0-9]*)$` -/
def INTEGER_RE (text : String) : Bool :=
  match text.toList with
  | '-' :: cs => isWhole cs
  | cs => isWhole cs

def parseDecimal (text : String) : Result ExactDecimal := do
  let parts ← someOr (splitDecimal text)
    ⟨.inventoryArithmeticInvalid, "not an exact decimal literal"⟩
  let magnitude : ℤ := Nat.ofDigitChars 10 (parts.whole ++ parts.fraction) 0
  pure ⟨if parts.negative then -magnitude else magnitude, parts.fraction.length⟩

/-- `padEnd(width, '0')` -/
def padEnd (width : ℕ) (digits : List Char) : List Char :=
  digits ++ List.replicate (width - digits.length) '0'

/-- Trailing zeros are digits like any other. -/
def rescaleDecimal (text : String) (scale : ℕ) : Option ℤ :=
  match splitDecimal text with
  | none => none
  | some parts =>
    if parts.fraction.length > scale then none
    else
      let magnitude : ℤ := Nat.ofDigitChars 10 (parts.whole ++ padEnd scale parts.fraction) 0
      some (if parts.negative then -magnitude else magnitude)

def quantityRefusal : InventoryError :=
  ⟨.inventoryQuantityInvalid, "quantity is not a four-decimal value within range"⟩

def parseQuantity (text : String) : Result ℤ := do
  let q4 ← someOr (rescaleDecimal text QTY_SCALE) quantityRefusal
  refuseIf (|q4| ≥ QTY_DOMAIN_Q4) quantityRefusal
  pure q4

def costRefusal : InventoryError :=
  ⟨.inventoryCostInvalid, "unit cost is not a non-negative ten-decimal value within range"⟩

def parseUnitCost (text : String) : Result ℤ := do
  let c10 ← someOr (rescaleDecimal text COST_SCALE) costRefusal
  refuseIf (c10 < 0 ∨ c10 ≥ COST_LIMIT_C10) costRefusal
  pure c10

def valueRefusal : InventoryError :=
  ⟨.inventoryValueOutOfRange, "value is not an integer within range"⟩

def parseMinor (text : String) : Result ℤ := do
  refuseIf (INTEGER_RE text = false) valueRefusal
  let v := readDecimal text.toList
  refuseIf (|v| > VALUE_LIMIT_MINOR) valueRefusal
  pure v

/-! ## 2. Formatting -/

def formatFixed (units : ℤ) (scale : ℕ) : String :=
  let digits := padded (scale + 1) units.natAbs
  let whole := digits.take (digits.length - scale)
  let fraction := digits.drop (digits.length - scale)
  String.ofList ((if units < 0 then ['-'] else []) ++
    (whole ++ if scale > 0 then '.' :: fraction else []))

def formatQuantity (q4 : ℤ) : String := formatFixed q4 QTY_SCALE

def formatUnitCost (c10 : ℤ) : String := formatFixed c10 COST_SCALE

def formatMinor (v : ℤ) : String := toString v

/-! ## 3. What the parsers take -/

theorem units_eq_ite (l : Literal) (scale : ℕ) : l.units scale =
    if l.negative then
      -(Nat.ofDigitChars 10 (l.whole ++ padEnd scale l.fraction) 0 : ℤ)
    else (Nat.ofDigitChars 10 (l.whole ++ padEnd scale l.fraction) 0 : ℤ) := by
  unfold Literal.units Literal.sign padEnd
  split
  · rw [neg_one_mul]
  · rw [one_mul]

/-- **Decimal text is rescaled exactly**, when the scale has room for its fraction. -/
theorem rescaleDecimal_eq_some {text : String} {scale : ℕ} {n : ℤ} :
    rescaleDecimal text scale = some n ↔ ∃ l : Literal, l.text = text ∧
      l.fraction.length ≤ scale ∧ (n : ℚ) = l.value * 10 ^ scale := by
  unfold rescaleDecimal splitDecimal
  constructor
  · intro h
    cases hl : readLiteral text.toList with
    | none =>
        rw [hl] at h
        cases h
    | some l =>
        rw [hl] at h
        simp only [Option.ite_none_left_eq_some, not_lt, ← units_eq_ite, Option.some.injEq] at h
        obtain ⟨hlen, rfl⟩ := h
        exact ⟨l, readLiteral_text.mp hl, hlen, l.units_eq hlen⟩
  · intro h
    obtain ⟨l, htext, hlen, hn⟩ := h
    rw [← l.units_eq hlen, Int.cast_inj] at hn
    rw [readLiteral_text.mpr htext]
    simp only [Option.ite_none_left_eq_some, not_lt, ← units_eq_ite, Option.some.injEq]
    exact ⟨hlen, hn.symm⟩

/-- **Decimal text is read exactly**, at the scale of its own fraction. -/
theorem parseDecimal_eq_ok {text : String} {d : ExactDecimal} :
    parseDecimal text = .ok d ↔ ∃ l : Literal, l.text = text ∧ d.scale = l.fraction.length ∧
      d.value = l.value := by
  have hpad : ∀ l : Literal, padEnd l.fraction.length l.fraction = l.fraction := by
    intro l
    unfold padEnd
    rw [Nat.sub_self, List.replicate_zero, List.append_nil]
  have hunits : ∀ l : Literal, (if l.negative then
      -(Nat.ofDigitChars 10 (l.whole ++ l.fraction) 0 : ℤ)
      else (Nat.ofDigitChars 10 (l.whole ++ l.fraction) 0 : ℤ)) = l.units l.fraction.length := by
    intro l
    rw [units_eq_ite, hpad]
  have hvalue : ∀ (l : Literal) (units : ℤ),
      (⟨units, l.fraction.length⟩ : ExactDecimal).value = l.value ↔
        units = l.units l.fraction.length := by
    intro l units
    rw [← Int.cast_inj (α := ℚ), l.units_eq le_rfl]
    exact div_eq_iff (by positivity)
  simp only [parseDecimal, splitDecimal, bind_eq_ok, someOr_eq_ok, pure_eq_ok, readLiteral_text,
    hunits]
  constructor
  · intro h
    obtain ⟨l, htext, rfl⟩ := h
    exact ⟨l, htext, rfl, (hvalue l _).mpr rfl⟩
  · intro h
    obtain ⟨l, htext, hscale, hn⟩ := h
    obtain ⟨units, scale⟩ := d
    subst hscale
    exact ⟨l, htext, by rw [(hvalue l units).mp hn]⟩

/-- A bound on the units of a scale is a bound on the value. -/
theorem abs_units_lt_iff {n : ℤ} {v : ℚ} {scale : ℕ} (bound : ℕ) (hn : (n : ℚ) = v * 10 ^ scale) :
    |n| < 10 ^ (bound + scale) ↔ |v| < 10 ^ bound := by
  have hpos : (0 : ℚ) < 10 ^ scale := by positivity
  rw [← Int.cast_lt (R := ℚ), Int.cast_abs, hn, abs_mul, abs_of_pos hpos, Int.cast_pow, pow_add,
    Int.cast_ofNat, mul_lt_mul_iff_left₀ hpos]

theorem parseQuantity_eq_ok (text : String) (n : ℤ) :
    parseQuantity text = .ok n ↔ ∃ l : Literal, l.text = text ∧ l.fraction.length ≤ QTY_SCALE ∧
      |l.value| < 10 ^ 14 ∧ (n : ℚ) = l.value * 10 ^ QTY_SCALE := by
  simp only [parseQuantity, bind_eq_ok, someOr_eq_ok, refuseIf_eq_ok, exists_const, pure_eq_ok,
    rescaleDecimal_eq_some, not_le, ge_iff_le]
  constructor
  · intro h
    obtain ⟨_, ⟨l, htext, hlen, hn⟩, hrange, rfl⟩ := h
    exact ⟨l, htext, hlen, (abs_units_lt_iff 14 hn).mp hrange, hn⟩
  · intro h
    obtain ⟨l, htext, hlen, hrange, hn⟩ := h
    exact ⟨n, ⟨l, htext, hlen, hn⟩, (abs_units_lt_iff 14 hn).mpr hrange, rfl⟩

theorem parseUnitCost_eq_ok (text : String) (n : ℤ) :
    parseUnitCost text = .ok n ↔ ∃ l : Literal, l.text = text ∧ l.fraction.length ≤ COST_SCALE ∧
      (0 ≤ l.value ∧ l.value < 10 ^ 18) ∧ (n : ℚ) = l.value * 10 ^ COST_SCALE := by
  have hpos : (0 : ℚ) < 10 ^ COST_SCALE := by positivity
  have hrange : ∀ {v : ℚ}, (n : ℚ) = v * 10 ^ COST_SCALE →
      ((0 ≤ n ∧ n < COST_LIMIT_C10) ↔ (0 ≤ v ∧ v < 10 ^ 18)) := by
    intro v hn
    have hlimit : ((COST_LIMIT_C10 : ℤ) : ℚ) = 10 ^ 18 * 10 ^ COST_SCALE := by
      norm_num [COST_LIMIT_C10, COST_SCALE]
    rw [← Int.cast_le (R := ℚ), ← Int.cast_lt (R := ℚ), hlimit, hn, Int.cast_zero,
      mul_nonneg_iff_of_pos_right hpos, mul_lt_mul_iff_left₀ hpos]
  simp only [parseUnitCost, bind_eq_ok, someOr_eq_ok, refuseIf_eq_ok, exists_const, pure_eq_ok,
    rescaleDecimal_eq_some, not_or, not_lt, not_le, ge_iff_le]
  constructor
  · intro h
    obtain ⟨_, ⟨l, htext, hlen, hn⟩, hr, rfl⟩ := h
    exact ⟨l, htext, hlen, (hrange hn).mp hr, hn⟩
  · intro h
    obtain ⟨l, htext, hlen, hr, hn⟩ := h
    exact ⟨n, ⟨l, htext, hlen, hn⟩, (hrange hn).mpr hr, rfl⟩

/-- **Integer text is decimal text without a fraction**, and is read as its value. -/
theorem integer_eq_some {text : String} {n : ℤ} :
    (INTEGER_RE text = true ∧ readDecimal text.toList = n) ↔
      ∃ l : Literal, l.text = text ∧ l.fraction = [] ∧ n = l.units 0 := by
  have hunits : ∀ l : Literal, l.fraction = [] →
      l.units 0 = l.sign * (Nat.ofDigitChars 10 l.whole 0 : ℤ) := by
    intro l hl
    unfold Literal.units
    rw [hl, List.nil_append, List.length_nil, Nat.sub_self, List.replicate_zero, List.append_nil]
  constructor
  · intro h
    obtain ⟨hre, rfl⟩ := h
    unfold INTEGER_RE at hre
    split at hre
    · rename_i cs htext
      refine ⟨⟨true, cs, [], hre, rfl⟩, ?_, rfl, ?_⟩
      · rw [← readLiteral_text, readLiteral_eq_some, htext]
        simp [Literal.chars, point]
      · rw [hunits _ rfl, htext]
        simp [Literal.sign, readDecimal]
    · rename_i hsign
      refine ⟨⟨false, text.toList, [], hre, rfl⟩, ?_, rfl, ?_⟩
      · rw [← readLiteral_text, readLiteral_eq_some]
        simp [Literal.chars, point]
      · rw [hunits _ rfl]
        unfold readDecimal
        split
        · rename_i cs htext
          exact absurd htext (hsign cs)
        · simp [Literal.sign]
  · intro h
    obtain ⟨l, rfl, hl, rfl⟩ := h
    have hchars : l.text.toList = (if l.negative then ['-'] else []) ++ l.whole := by
      rw [Literal.text, String.toList_ofList, Literal.chars, point, if_pos hl, List.append_nil]
    rw [hunits l hl]
    unfold INTEGER_RE readDecimal Literal.sign
    rw [hchars]
    cases hneg : l.negative with
    | true => simp [l.whole_ok]
    | false =>
        rw [if_neg Bool.false_ne_true, if_neg Bool.false_ne_true, List.nil_append, one_mul]
        refine ⟨?_, ?_⟩
        · split
          · rename_i cs hw
            exact absurd (l.whole_digits '-' (hw ▸ List.mem_cons_self)) (by decide)
          · exact l.whole_ok
        · split
          · rename_i cs hw
            exact absurd (l.whole_digits '-' (hw ▸ List.mem_cons_self)) (by decide)
          · rfl

theorem parseMinor_eq_ok (text : String) (n : ℤ) :
    parseMinor text = .ok n ↔ ∃ l : Literal, l.text = text ∧ l.fraction.length ≤ 0 ∧
      |l.value| ≤ 10 ^ 18 ∧ (n : ℚ) = l.value * 10 ^ 0 := by
  have hrange : ∀ {l : Literal}, l.fraction.length ≤ 0 → (l.units 0 : ℚ) = l.value ∧
      (|l.units 0| ≤ VALUE_LIMIT_MINOR ↔ |l.value| ≤ 10 ^ 18) := by
    intro l hl
    have hunits := l.units_eq hl
    rw [pow_zero, mul_one] at hunits
    refine ⟨hunits, ?_⟩
    rw [← Int.cast_le (R := ℚ), Int.cast_abs, hunits]
    norm_num [VALUE_LIMIT_MINOR]
  have hshape : parseMinor text = .ok n ↔ (INTEGER_RE text = true ∧ readDecimal text.toList = n) ∧
      |n| ≤ VALUE_LIMIT_MINOR := by
    simp only [parseMinor, bind_eq_ok, refuseIf_eq_ok, exists_const, pure_eq_ok, not_lt, gt_iff_lt,
      Bool.not_eq_false]
    constructor
    · intro h
      obtain ⟨hre, hle, rfl⟩ := h
      exact ⟨⟨hre, rfl⟩, hle⟩
    · intro h
      obtain ⟨⟨hre, rfl⟩, hle⟩ := h
      exact ⟨hre, hle, rfl⟩
  rw [hshape, integer_eq_some, pow_zero]
  constructor
  · intro h
    obtain ⟨⟨l, htext, hl, rfl⟩, hle⟩ := h
    have hlen : l.fraction.length ≤ 0 := hl ▸ le_rfl
    obtain ⟨hunits, hiff⟩ := hrange hlen
    exact ⟨l, htext, hlen, hiff.mp hle, by rw [mul_one, hunits]⟩
  · intro h
    obtain ⟨l, htext, hlen, hle, hn⟩ := h
    obtain ⟨hunits, hiff⟩ := hrange hlen
    rw [mul_one, ← hunits, Int.cast_inj] at hn
    refine ⟨⟨l, htext, List.length_eq_zero_iff.mp (Nat.le_zero.mp hlen), hn⟩, ?_⟩
    rw [hn]
    exact hiff.mpr hle

/-! ## 4. What the formatters write -/

theorem formatFixed_eq (n : ℤ) (scale : ℕ) : formatFixed n scale = (fixed scale n).text := by
  have hlen := length_fraction_fixed scale n
  have hpoint : point (fixed scale n).fraction =
      if scale > 0 then '.' :: (fixed scale n).fraction else [] := by
    unfold point
    cases scale with
    | zero => rw [if_pos (List.length_eq_zero_iff.mp hlen), if_neg (lt_irrefl 0)]
    | succ k =>
        have hne : (fixed (k + 1) n).fraction ≠ [] := by
          intro h0
          rw [h0] at hlen
          cases hlen
        rw [if_neg hne, if_pos (Nat.succ_pos k)]
  unfold Literal.text Literal.chars
  rw [hpoint]
  unfold formatFixed fixed
  simp only [decide_eq_true_eq]

theorem formatMinor_eq (n : ℤ) : formatMinor n = (fixed 0 n).text := by
  have hpadded : ∀ m : ℕ, padded 1 m = Nat.toDigits 10 m := by
    intro m
    have hpos := Nat.length_toDigits_pos (b := 10) (n := m)
    unfold padded
    rw [Nat.sub_eq_zero_of_le hpos, List.replicate_zero, List.nil_append]
  rw [← formatFixed_eq, ← String.toList_inj]
  unfold formatFixed formatMinor
  simp only [String.toList_ofList, Nat.sub_zero, List.take_length, lt_irrefl, if_false,
    List.append_nil, hpadded]
  cases n with
  | ofNat m =>
      rw [if_neg (by exact not_lt.mpr (Int.natCast_nonneg m))]
      exact toList_toString_natCast m
  | negSucc m =>
      rw [if_pos (Int.negSucc_lt_zero m)]
      exact toList_toString_negSucc m

/-- **Fixed-point text round-trips exactly**: each parser takes the literals of its range with their
    value in units, each formatter writes what is read back, and formatting what was read gives the
    one canonical text of the number. -/
theorem fixedPoint_texts :
    FixedPoint QTY_SCALE (fun v => |v| < 10 ^ 14) parseQuantity formatQuantity ∧
      FixedPoint COST_SCALE (fun v => 0 ≤ v ∧ v < 10 ^ 18) parseUnitCost formatUnitCost ∧
      FixedPoint 0 (fun v => |v| ≤ 10 ^ 18) parseMinor formatMinor :=
  ⟨.of_parse_iff parseQuantity_eq_ok fun n => formatFixed_eq n QTY_SCALE,
    .of_parse_iff parseUnitCost_eq_ok fun n => formatFixed_eq n COST_SCALE,
    .of_parse_iff parseMinor_eq_ok formatMinor_eq⟩

example : (["-0", "0.50", "-3.0001", "12"].map fun text => (parseQuantity text).toOption) =
    [some 0, some 5000, some (-30001), some 120000] := by
  decide +kernel

example : [".5", "1.", "01", "+1", "1.00000", "1e3", ""].all fun text =>
    (parseQuantity text).isOk = false := by
  decide +kernel

end Daftar.Inventory
