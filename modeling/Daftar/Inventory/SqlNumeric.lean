/-
  File: Daftar/Inventory/SqlNumeric.lean
  Subject: The settlement arithmetic of the database routines, in exact NUMERIC with BIGINT results.

  * A NUMERIC is a rational; `castBigint` is `::bigint`, which raises outside the type.
  * `inventoryHalfEven` is the one rounding of the routines. On a ratio of integers it is the
    rounding of the package (`inventoryHalfEven_int`).
  * `numericOf` is the NUMERIC of a fixed-point column; prices and averages of such columns are the
    package's (`inventoryHalfEven_price`, `inventoryHalfEven_average`).
  * `supplierConvertBase`, `supplierApRelease`, `supplierCreditRemainingCarrying` are the three
    helpers; their `_eq` and `_eq_ok` lemmas say which plain function of the package each computes.
-/

import Daftar.Inventory.SupplierSettlement
import Mathlib.Data.Rat.Floor

namespace Daftar.Inventory

open Fallible
open Rounding

/-! ## 1. Values and refusals -/

/-- What a routine raises: a text of its own, or the overflow of a BIGINT or an INTEGER. -/
inductive SqlError
  | raised (message : String)
  | bigintOutOfRange
  | integerOutOfRange
  deriving DecidableEq, Repr

abbrev Routine (α : Type) := Except SqlError α

def IsBigint (v : ℤ) : Prop := -2 ^ 63 ≤ v ∧ v < 2 ^ 63

instance (v : ℤ) : Decidable (IsBigint v) := inferInstanceAs (Decidable (_ ∧ _))

/-- `v::bigint`: the nearest integer, halves away from zero. -/
def castBigint (v : ℚ) : Routine ℤ := do
  let rounded : ℤ := if v < 0 then -⌊-v + 1 / 2⌋ else ⌊v + 1 / 2⌋
  refuseIf (¬ IsBigint rounded) .bigintOutOfRange
  pure rounded

/-- Rounding halves away from zero leaves an integer as it is. -/
theorem roundHalfAway_int (k : ℤ) :
    (if (k : ℚ) < 0 then -⌊-(k : ℚ) + 1 / 2⌋ else ⌊(k : ℚ) + 1 / 2⌋) = k := by
  have hfloor : ∀ j : ℤ, ⌊(j : ℚ) + 1 / 2⌋ = j := by
    intro j
    rw [Int.floor_eq_iff]
    constructor <;> linarith
  split
  · rw [← Int.cast_neg, hfloor, neg_neg]
  · exact hfloor k

theorem castBigint_int (k : ℤ) :
    castBigint k = if IsBigint k then .ok k else .error .bigintOutOfRange := by
  unfold castBigint
  simp only [roundHalfAway_int]
  by_cases hk : IsBigint k
  · rw [if_pos hk, refuseIf_of_not (not_not.mpr hk)]
    rfl
  · rw [if_neg hk, refuseIf, if_pos hk]
    rfl

theorem castBigint_int_eq_ok {k j : ℤ} : castBigint k = .ok j ↔ IsBigint k ∧ k = j := by
  rw [castBigint_int]
  by_cases hk : IsBigint k
  · simp [hk]
  · simp [hk]

/-- An amount of a column fits. -/
theorem IsMinor.bigint {min v : ℤ} (h : IsMinor min v) (hmin : 0 ≤ min) : IsBigint v := by
  have hle : v ≤ 10 ^ 18 := h.2
  have := h.1
  constructor <;> omega

/-! ## 2. The rounding of the routines -/

def halfEvenNeeds : SqlError :=
  .raised ("inventory.arithmetic_invalid: HALF_EVEN needs a numerator, a non-zero denominator " ++
    "and a scale of 0 or 10")

/-- Half-even at scale 0 or 10, by integer division and remainder of the magnitudes. -/
def inventoryHalfEven (numerator denominator : ℚ) (scale : ℤ) : Routine ℚ := do
  refuseIf (denominator = 0 ∨ ¬ (scale = 0 ∨ scale = 10)) halfEvenNeeds
  let neg := decide (numerator < 0) != decide (denominator < 0)
  let n := |numerator| * (if scale = 10 then 10 ^ 10 else 1)
  let d := |denominator|
  let q := ⌊n / d⌋
  let r := n - q * d
  let q' := if d < 2 * r ∨ (2 * r = d ∧ q % 2 ≠ 0) then q + 1 else q
  let q'' := if neg then -q' else q'
  pure (if scale = 10 then q'' * (1 / 10 ^ 10) else q'')

/-- **At scale 0 the result is the nearest integer**, ties to even. -/
theorem inventoryHalfEven_spec {n d : ℚ} (hd : d ≠ 0) :
    ∃ q : ℤ, inventoryHalfEven n d 0 = .ok q ∧ IsNearestEven (n / d) q := by
  have hd' : 0 < |d| := abs_pos.mpr hd
  set q := ⌊|n| / |d|⌋ with hq
  set q' := if |d| < 2 * (|n| - q * |d|) ∨ (2 * (|n| - q * |d|) = |d| ∧ q % 2 ≠ 0) then q + 1 else q
    with hq'
  -- The bump condition, divided by the magnitude of the denominator.
  have hfrac : 2 * (|n| / |d| - q) * |d| = 2 * (|n| - q * |d|) := by
    field_simp
  have hpast : 1 < 2 * (|n| / |d| - q) ↔ |d| < 2 * (|n| - q * |d|) := by
    rw [← hfrac, lt_mul_iff_one_lt_left hd']
  have htie : 2 * (|n| / |d| - q) = 1 ↔ 2 * (|n| - q * |d|) = |d| := by
    rw [← hfrac, mul_eq_right₀ hd'.ne']
  have hmag : IsNearestEven (|n| / |d|) q' := by
    have h := isNearestEven_bump (Int.floor_le (|n| / |d|)) (Int.lt_floor_add_one (|n| / |d|))
    simp only [← hq, hpast, htie, Int.not_even_iff_odd, Int.odd_iff] at h
    simpa only [hq', Int.emod_two_ne_zero] using h
  refine ⟨if decide (n < 0) != decide (d < 0) then -q' else q', ?_, ?_⟩
  · unfold inventoryHalfEven
    rw [refuseIf_of_not (by simp [hd])]
    have hscale : ¬ (0 : ℤ) = 10 := by decide
    simp only [ok_bind, hscale, if_false, mul_one, ← hq]
    rw [pure_eq_ok]
  · rcases lt_or_ge n 0 with hn | hn
    · rcases lt_or_gt_of_ne hd with hdn | hdp
      · have : n / d = |n| / |d| := by rw [abs_of_neg hn, abs_of_neg hdn, neg_div_neg_eq]
        simpa [hn, hdn, this] using hmag
      · have : n / d = -(|n| / |d|) := by rw [abs_of_neg hn, abs_of_pos hdp, neg_div, neg_neg]
        simpa [hn, hdp.not_gt, this] using hmag.neg
    · rcases lt_or_gt_of_ne hd with hdn | hdp
      · have : n / d = -(|n| / |d|) := by rw [abs_of_nonneg hn, abs_of_neg hdn, div_neg, neg_neg]
        simpa [hn.not_gt, hdn, this] using hmag.neg
      · have : n / d = |n| / |d| := by rw [abs_of_nonneg hn, abs_of_pos hdp]
        simpa [hn.not_gt, hdp.not_gt, this] using hmag

/-- A result at scale 0 is the nearest integer, wherever the ratio is known to round to it. -/
theorem inventoryHalfEven_eq {n d : ℚ} {q : ℤ} (hd : d ≠ 0) (hq : IsNearestEven (n / d) q) :
    inventoryHalfEven n d 0 = .ok q := by
  obtain ⟨p, hp, hnear⟩ := inventoryHalfEven_spec (n := n) hd
  rw [hp, hnear.unique hq]

/-- **The routines round ratios of integers as the package does.** -/
theorem inventoryHalfEven_int (n : ℤ) {d : ℤ} (hd : 0 < d) :
    inventoryHalfEven n d 0 = .ok (nearestEven n d : ℤ) := by
  have hd' : (d : ℚ) ≠ 0 := by exact_mod_cast hd.ne'
  exact inventoryHalfEven_eq hd' (isNearestEven_nearestEven n hd)

/-- A result at scale 10 is the one at scale 0 of ten more digits. -/
theorem inventoryHalfEven_ten (n d : ℚ) :
    inventoryHalfEven n d 10 =
      (· * (1 / 10 ^ 10)) <$> inventoryHalfEven (n * 10 ^ 10) d 0 := by
  have hneg : decide (n * 10 ^ 10 < 0) = decide (n < 0) := by
    rw [decide_eq_decide]
    exact ⟨fun h => by linarith, fun h => by linarith⟩
  have habs : |n * 10 ^ 10| = |n| * 10 ^ 10 := by
    rw [abs_mul, abs_of_pos (by positivity : (0 : ℚ) < 10 ^ 10)]
  unfold inventoryHalfEven
  by_cases hd : d = 0
  · simp [hd, refuseIf]
  · rw [refuseIf_of_not (by simp [hd]), refuseIf_of_not (by simp [hd])]
    have hscale : ¬ (0 : ℤ) = 10 := by decide
    simp only [ok_bind, hneg, habs, hscale, if_true, if_false, mul_one]
    rfl

/-- The NUMERIC of a fixed-point integer with `scale` decimal digits. -/
def numericOf (scale : ℕ) (n : ℤ) : ℚ := n / 10 ^ scale

section NumericOf

variable (k : ℕ) {m n : ℤ}

theorem numericOf_injective : Function.Injective (numericOf k) := by
  intro m n h
  have hk : (10 : ℚ) ^ k ≠ 0 := by positivity
  rw [numericOf, numericOf, div_left_inj' hk] at h
  exact_mod_cast h

@[simp] theorem numericOf_inj : numericOf k m = numericOf k n ↔ m = n :=
  (numericOf_injective k).eq_iff

@[simp] theorem numericOf_zero : numericOf k 0 = 0 := by simp [numericOf]

@[simp] theorem numericOf_eq_zero : numericOf k n = 0 ↔ n = 0 := by simp [numericOf]

@[simp] theorem numericOf_le : numericOf k m ≤ numericOf k n ↔ m ≤ n := by
  unfold numericOf
  rw [div_le_div_iff_of_pos_right (by positivity), Int.cast_le]

@[simp] theorem numericOf_lt : numericOf k m < numericOf k n ↔ m < n := by
  unfold numericOf
  rw [div_lt_div_iff_of_pos_right (by positivity), Int.cast_lt]

@[simp] theorem numericOf_nonneg : 0 ≤ numericOf k n ↔ 0 ≤ n := by
  rw [← numericOf_zero k, numericOf_le]

@[simp] theorem numericOf_nonpos : numericOf k n ≤ 0 ↔ n ≤ 0 := by
  rw [← numericOf_zero k, numericOf_le]

@[simp] theorem numericOf_neg_iff : numericOf k n < 0 ↔ n < 0 := by
  rw [← numericOf_zero k, numericOf_lt]

theorem numericOf_add : numericOf k m + numericOf k n = numericOf k (m + n) := by
  simp [numericOf, add_div]

theorem neg_numericOf : -numericOf k n = numericOf k (-n) := by
  simp [numericOf, neg_div]

theorem abs_numericOf : |numericOf k n| = numericOf k |n| := by
  rw [numericOf, numericOf, abs_div, Int.cast_abs, abs_of_pos (by positivity : (0 : ℚ) < 10 ^ k)]

/-- A bound on the NUMERIC is the bound on the integer, scaled. -/
theorem numericOf_lt_iff {b : ℤ} : numericOf k n < b ↔ n < b * 10 ^ k := by
  rw [numericOf, div_lt_iff₀ (by positivity)]
  exact_mod_cast Iff.rfl

end NumericOf

/-- The price of a quantity at a unit cost, as the package rounds it. -/
theorem inventoryHalfEven_price (q c : ℤ) :
    inventoryHalfEven (numericOf 4 q * numericOf 10 c) 1 0 = .ok (nearestEven (q * c) (10 ^ 14) : ℤ) := by
  refine inventoryHalfEven_eq one_ne_zero ?_
  have h := isNearestEven_nearestEven (q * c) (d := 10 ^ 14) (by norm_num)
  have heq : numericOf 4 q * numericOf 10 c / 1 = ((q * c : ℤ) : ℚ) / ((10 ^ 14 : ℤ) : ℚ) := by
    unfold numericOf
    push_cast
    field_simp
    ring
  rwa [heq]

/-- The average of a valuation over a quantity, as the package rounds it. -/
theorem inventoryHalfEven_average (v : ℤ) {q : ℤ} (hq : q ≠ 0) :
    inventoryHalfEven v (numericOf 4 q) 10 = .ok (numericOf 10 (nearestEven (v * 10 ^ 14) q)) := by
  have hq' : (q : ℚ) ≠ 0 := by exact_mod_cast hq
  have h := isNearestEven_nearestEven_of_ne (v * 10 ^ 14) hq
  have heq : ((v * 10 ^ 14 : ℤ) : ℚ) / q = v * 10 ^ 10 / numericOf 4 q := by
    unfold numericOf
    push_cast
    field_simp
    norm_num
  rw [heq] at h
  rw [inventoryHalfEven_ten, inventoryHalfEven_eq (by simpa using hq) h]
  have hdigit : ((nearestEven (v * 10 ^ 14) q : ℤ) : ℚ) * (1 / 10 ^ 10) =
      numericOf 10 (nearestEven (v * 10 ^ 14) q) := (div_eq_mul_one_div _ _).symm
  exact congrArg Except.ok hdigit

/-! ## 3. The helpers -/

def conversionNeeds : SqlError :=
  .raised ("inventory.arithmetic_invalid: a conversion needs an amount, a positive rate and two " ++
    "currency exponents")

def supplierConvertBase (txn : ℤ) (rate : ℚ) (txnExp baseExp : ℤ) : Routine ℤ := do
  refuseIf (rate ≤ 0) conversionNeeds
  let v ← inventoryHalfEven (txn * rate * 10 ^ (max 0 (baseExp - txnExp)).toNat)
    (10 ^ (max 0 (txnExp - baseExp)).toNat) 0
  castBigint v

def apReleaseNeeds : SqlError :=
  .raised ("inventory.arithmetic_invalid: an AP release needs a purchase total and a " ++
    "released-before and applied amount within it")

def supplierApRelease (totalBase totalTxn before applied : ℤ) : Routine ℤ := do
  refuseIf (totalTxn ≤ 0 ∨ totalBase ≤ 0 ∨ before < 0 ∨ applied < 0 ∨ before + applied > totalTxn)
    apReleaseNeeds
  let upTo ← inventoryHalfEven (totalBase * (before + applied)) totalTxn 0
  let already ← inventoryHalfEven (totalBase * before) totalTxn 0
  castBigint (upTo - already)

def remainingCarryingNeeds : SqlError :=
  .raised ("inventory.arithmetic_invalid: a remaining carrying value needs a credit note and a " ++
    "remaining amount within it")

def supplierCreditRemainingCarrying (original originalCarrying remaining : ℤ) : Routine ℤ := do
  refuseIf (original ≤ 0 ∨ originalCarrying ≤ 0 ∨ remaining < 0 ∨ remaining > original)
    remainingCarryingNeeds
  if remaining = 0 then pure 0
  else
    let consumed ← inventoryHalfEven (originalCarrying * (original - remaining)) original 0
    castBigint (max 1 (originalCarrying - consumed))

/-! ## 4. What the helpers compute -/

/-- The rate of a snapshot, as the numeric its row stores. -/
def SettlementConversion.rate (c : SettlementConversion) : ℚ := c.rateR10 / R10

/-- **A conversion is the package's**, raised out of BIGINT where the package goes on. -/
theorem supplierConvertBase_eq {c : SettlementConversion} (hc : c.Valid) (x : ℤ) :
    supplierConvertBase x c.rate c.txnExponent c.baseExponent = castBigint (c.base x) := by
  have hR : (0 : ℚ) < R10 := by norm_num [R10]
  have hrate : 0 < c.rate := div_pos (by exact_mod_cast hc.1) hR
  set down : ℚ := 10 ^ (max 0 (c.txnExponent - c.baseExponent)).toNat with hdown
  have hdown' : down ≠ 0 := by positivity
  have hratio : x * c.rate * 10 ^ (max 0 (c.baseExponent - c.txnExponent)).toNat / down =
      ((x * c.num : ℤ) : ℚ) / c.den := by
    unfold SettlementConversion.rate SettlementConversion.num SettlementConversion.den
    push_cast
    rw [← hdown]
    field_simp
  have hnear := isNearestEven_nearestEven (x * c.num) c.den_pos
  rw [← hratio] at hnear
  unfold supplierConvertBase
  rw [refuseIf_of_not (not_le.mpr hrate), ok_bind, inventoryHalfEven_eq hdown' hnear]
  rfl

theorem supplierConvertBase_eq_ok {c : SettlementConversion} (hc : c.Valid) {x b : ℤ} :
    supplierConvertBase x c.rate c.txnExponent c.baseExponent = .ok b ↔
      IsBigint (c.base x) ∧ c.base x = b := by
  rw [supplierConvertBase_eq hc, castBigint_int_eq_ok]

theorem supplierApRelease_eq_ok {b t x a r : ℤ} :
    supplierApRelease b t x a = .ok r ↔ (0 < t ∧ 0 < b ∧ 0 ≤ x ∧ 0 ≤ a ∧ x + a ≤ t) ∧
      IsBigint (apShare b t (x + a) - apShare b t x) ∧
      apShare b t (x + a) - apShare b t x = r := by
  unfold supplierApRelease
  rw [bind_eq_ok]
  simp only [refuseIf_eq_ok, exists_const, not_or, not_le, not_lt, gt_iff_lt]
  refine and_congr_right fun h => ?_
  have hshare : ∀ y : ℤ, inventoryHalfEven (b * y) t 0 = .ok (apShare b t y : ℤ) := by
    intro y
    have := inventoryHalfEven_int (b * y) h.1
    push_cast at this
    exact this
  have hsum := hshare (x + a)
  push_cast at hsum
  rw [hsum, ok_bind, hshare x, ok_bind, ← Int.cast_sub, castBigint_int_eq_ok]

theorem supplierCreditRemainingCarrying_eq_ok {oa ob r k : ℤ} :
    supplierCreditRemainingCarrying oa ob r = .ok k ↔ (0 < oa ∧ 0 < ob ∧ 0 ≤ r ∧ r ≤ oa) ∧
      (r ≠ 0 → IsBigint (creditKept oa ob r)) ∧ creditKept oa ob r = k := by
  unfold supplierCreditRemainingCarrying
  rw [bind_eq_ok]
  simp only [refuseIf_eq_ok, exists_const, not_or, not_le, not_lt, gt_iff_lt]
  refine and_congr_right fun h => ?_
  by_cases hr : r = 0
  · simp [hr]
  · have hshare := inventoryHalfEven_int (ob * (oa - r)) h.1
    push_cast at hshare
    rw [if_neg hr, hshare, ok_bind, creditKept_of_ne hr]
    have hmax : max (1 : ℚ) (ob - (nearestEven (ob * (oa - r)) oa : ℤ)) =
        (max 1 (ob - apShare ob oa (oa - r)) : ℤ) := by
      push_cast
      rfl
    rw [hmax, castBigint_int_eq_ok]
    simp [hr]

/-- Within the bounds of the columns, a release fits. -/
theorem supplierApRelease_of_minor {b t x a : ℤ} (ht : IsMinor 1 t) (hb : IsMinor 1 b) (hx : 0 ≤ x)
    (ha : 0 ≤ a) (hle : x + a ≤ t) :
    supplierApRelease b t x a = .ok (apShare b t (x + a) - apShare b t x) := by
  have hb0 : 0 ≤ b := by have := hb.1; omega
  have hlo := apShare_mono hb0 ht.1 (show 0 ≤ x from hx)
  have hmid := apShare_mono hb0 ht.1 (show x ≤ x + a by omega)
  have hhi := apShare_mono hb0 ht.1 hle
  rw [apShare_zero] at hlo
  rw [apShare_total b ht.1] at hhi
  have hmax : b ≤ 10 ^ 18 := hb.2
  refine supplierApRelease_eq_ok.mpr ⟨⟨ht.1, hb.1, hx, ha, hle⟩, ⟨?_, ?_⟩, rfl⟩ <;> omega

theorem supplierApRelease_minor_eq_ok {b t x a r : ℤ} (ht : IsMinor 1 t) (hb : IsMinor 1 b) :
    supplierApRelease b t x a = .ok r ↔
      (0 ≤ x ∧ 0 ≤ a ∧ x + a ≤ t) ∧ apShare b t (x + a) - apShare b t x = r := by
  constructor
  · intro h
    obtain ⟨⟨_, _, hx, ha, hle⟩, _, hr⟩ := supplierApRelease_eq_ok.mp h
    exact ⟨⟨hx, ha, hle⟩, hr⟩
  · intro h
    obtain ⟨⟨hx, ha, hle⟩, rfl⟩ := h
    exact supplierApRelease_of_minor ht hb hx ha hle

/-- Within the bounds of the columns, a remaining carrying value fits. -/
theorem supplierCreditRemainingCarrying_of_minor {oa ob r : ℤ} (hoa : IsMinor 1 oa)
    (hob : IsMinor 1 ob) (hr : 0 ≤ r) (hle : r ≤ oa) :
    supplierCreditRemainingCarrying oa ob r = .ok (creditKept oa ob r) := by
  have hob0 : 0 ≤ ob := by have := hob.1; omega
  have hlo := creditKept_mono hoa.1 hob0 le_rfl hr
  have hhi := creditKept_mono hoa.1 hob0 hr hle
  rw [creditKept_zero] at hlo
  rw [creditKept_original hoa.1 hob.1] at hhi
  have hmax : ob ≤ 10 ^ 18 := hob.2
  refine supplierCreditRemainingCarrying_eq_ok.mpr
    ⟨⟨hoa.1, hob.1, hr, hle⟩, fun _ => ⟨?_, ?_⟩, rfl⟩ <;> omega

theorem supplierCreditRemainingCarrying_minor_eq_ok {oa ob r k : ℤ} (hoa : IsMinor 1 oa)
    (hob : IsMinor 1 ob) :
    supplierCreditRemainingCarrying oa ob r = .ok k ↔
      (0 ≤ r ∧ r ≤ oa) ∧ creditKept oa ob r = k := by
  constructor
  · intro h
    obtain ⟨⟨_, _, hr, hle⟩, _, hk⟩ := supplierCreditRemainingCarrying_eq_ok.mp h
    exact ⟨⟨hr, hle⟩, hk⟩
  · intro h
    obtain ⟨⟨hr, hle⟩, rfl⟩ := h
    exact supplierCreditRemainingCarrying_of_minor hoa hob hr hle

example : supplierConvertBase 150 (1 / 100) 2 2 = .ok 2 := by decide +kernel

end Daftar.Inventory
