/-
  File: Daftar/Library/NearestEven.lean
  Subject: Rounding a ratio of two integers to the nearest integer, ties to the even neighbour.

  * `IsNearestEven x q` says what rounding is for, in any ordered ring: `q` is at distance at most
    one half from `x`, and a tie goes to an even `q`. It has one solution and is monotone.
  * `nearestEven n d` computes it from the magnitudes of `n` and `d` and restores the sign.
  * What users need of it: `two_mul_nearestEven_le`, `le_two_mul_nearestEven`,
    `nearestEven_mono`, `nearestEven_mul_self`, `nearestEven_neg`, and the bound on a share of a
    rounded quotient, `nearestEven_share_le`.
-/

import Mathlib.Algebra.Order.Ring.Cast
import Mathlib.Algebra.Order.Field.Rat
import Mathlib.Algebra.Order.Field.Basic
import Mathlib.Algebra.Ring.Int.Parity
import Mathlib.Tactic.Ring
import Mathlib.Tactic.FieldSimp
import Mathlib.Tactic.Linarith
import Mathlib.Tactic.Zify

namespace Rounding

/-! ## 1. The specification -/

section Spec

variable {R : Type*} [CommRing R] [LinearOrder R] [IsStrictOrderedRing R]

/-- `q` is a nearest integer to `x`, and the even one of two equally near. Written with `2 * x`, so
    that it reads in rings without a half. -/
structure IsNearestEven (x : R) (q : ℤ) : Prop where
  lower : ((2 * q - 1 : ℤ) : R) ≤ 2 * x
  upper : 2 * x ≤ ((2 * q + 1 : ℤ) : R)
  even_of_tie : 2 * x = ((2 * q - 1 : ℤ) : R) ∨ 2 * x = ((2 * q + 1 : ℤ) : R) → Even q

/-- **Rounding is monotone.** Two out of order neighbours would both be ties, hence both even. -/
theorem IsNearestEven.mono {x y : R} {p q : ℤ} (hp : IsNearestEven x p) (hq : IsNearestEven y q)
    (hxy : x ≤ y) : p ≤ q := by
  by_contra hlt
  have hle : q + 1 ≤ p := by omega
  have h2 : 2 * x ≤ 2 * y := by linarith
  have hchain : ((2 * p - 1 : ℤ) : R) ≤ ((2 * q + 1 : ℤ) : R) :=
    hp.lower.trans (h2.trans hq.upper)
  have hpq : p = q + 1 := by
    have := Int.cast_le.mp hchain
    omega
  have hcast : ((2 * p - 1 : ℤ) : R) = ((2 * q + 1 : ℤ) : R) := by
    rw [hpq]; congr 1; ring
  have hx : 2 * x = ((2 * p - 1 : ℤ) : R) :=
    le_antisymm (h2.trans (hq.upper.trans hcast.ge)) hp.lower
  have hy : 2 * y = ((2 * q + 1 : ℤ) : R) :=
    le_antisymm hq.upper (hcast.ge.trans (hp.lower.trans h2))
  have ep : Even p := hp.even_of_tie (.inl hx)
  have eq : Even q := hq.even_of_tie (.inr hy)
  rw [hpq, Int.even_add_one] at ep
  exact ep eq

/-- The rounding of a number is unique. -/
theorem IsNearestEven.unique {x : R} {p q : ℤ} (hp : IsNearestEven x p) (hq : IsNearestEven x q) :
    p = q :=
  le_antisymm (hp.mono hq le_rfl) (hq.mono hp le_rfl)

theorem IsNearestEven.neg {x : R} {q : ℤ} (h : IsNearestEven x q) : IsNearestEven (-x) (-q) where
  lower := by
    have := h.upper
    push_cast at this ⊢
    linarith
  upper := by
    have := h.lower
    push_cast at this ⊢
    linarith
  even_of_tie := by
    intro ht
    refine Even.neg (h.even_of_tie ?_)
    push_cast at ht ⊢
    rcases ht with ht | ht
    · exact .inr (by linarith)
    · exact .inl (by linarith)

theorem isNearestEven_intCast (k : ℤ) : IsNearestEven (k : R) k where
  lower := by push_cast; linarith
  upper := by push_cast; linarith
  even_of_tie := by
    rintro (h | h)
    · have h' : 2 * k = 2 * k - 1 := by exact_mod_cast h
      omega
    · have h' : 2 * k = 2 * k + 1 := by exact_mod_cast h
      omega

/-- **The floor, bumped when the fraction is past the half**, or on it with an odd floor, is the
    rounding. -/
theorem isNearestEven_bump {x : R} {q : ℤ} (hq : (q : R) ≤ x) (hlt : x < q + 1) :
    IsNearestEven x (if 1 < 2 * (x - q) ∨ (2 * (x - q) = 1 ∧ ¬ Even q) then q + 1 else q) := by
  by_cases hb : 1 < 2 * (x - q) ∨ (2 * (x - q) = 1 ∧ ¬ Even q)
  · rw [if_pos hb]
    have hhalf : 1 ≤ 2 * (x - q) := by
      rcases hb with h | ⟨h, _⟩
      · exact h.le
      · exact h.ge
    refine ⟨by push_cast; linarith, by push_cast; linarith, fun ht => ?_⟩
    push_cast at ht
    rcases ht with ht | ht
    · rcases hb with h | ⟨_, h⟩
      · linarith
      · exact Int.even_add_one.mpr h
    · linarith
  · rw [if_neg hb]
    rw [not_or, not_lt, not_and_not_right] at hb
    refine ⟨by push_cast; linarith, by push_cast; linarith [hb.1], fun ht => ?_⟩
    push_cast at ht
    rcases ht with ht | ht
    · linarith
    · exact hb.2 (by linarith)

end Spec

/-! ## 2. The computation -/

/-- Nearest-even quotient of two magnitudes: the floor, bumped when the remainder is past the half,
    or on it with an odd floor. -/
def nearestEvenNat (n d : ℕ) : ℕ :=
  let q := n / d
  let twice := 2 * (n - q * d)
  if twice > d ∨ (twice = d ∧ q % 2 ≠ 0) then q + 1 else q

/-- `n / d` rounded to the nearest integer, ties to even, sign-symmetric; `0` for `d = 0`. -/
def nearestEven (n d : ℤ) : ℤ :=
  n.sign * d.sign * nearestEvenNat n.natAbs d.natAbs

theorem nearestEvenNat_bounds (n : ℕ) {d : ℕ} (hd : 0 < d) :
    2 * (nearestEvenNat n d * d) ≤ 2 * n + d ∧ 2 * n ≤ 2 * (nearestEvenNat n d * d) + d := by
  have hdiv : n / d * d + n % d = n := Nat.div_add_mod' n d
  have hmod : n % d < d := Nat.mod_lt n hd
  unfold nearestEvenNat
  simp only
  split
  · rename_i h
    have : (n / d + 1) * d = n / d * d + d := by ring
    rw [this]
    omega
  · rename_i h
    omega

theorem nearestEvenNat_even_of_tie (n : ℕ) {d : ℕ} (hd : 0 < d)
    (h : 2 * n = 2 * (nearestEvenNat n d * d) + d ∨ 2 * n + d = 2 * (nearestEvenNat n d * d)) :
    Even (nearestEvenNat n d) := by
  have hdiv : n / d * d + n % d = n := Nat.div_add_mod' n d
  have hmod : n % d < d := Nat.mod_lt n hd
  rw [Nat.even_iff]
  revert h
  unfold nearestEvenNat
  simp only
  split
  · rename_i hb
    have : (n / d + 1) * d = n / d * d + d := by ring
    rw [this]
    omega
  · rename_i hb
    omega

@[simp] theorem nearestEven_zero_left (d : ℤ) : nearestEven 0 d = 0 := by simp [nearestEven]

theorem nearestEven_neg (n d : ℤ) : nearestEven (-n) d = -nearestEven n d := by
  simp [nearestEven, Int.sign_neg]

theorem nearestEven_neg_right (n d : ℤ) : nearestEven n (-d) = -nearestEven n d := by
  simp [nearestEven, Int.sign_neg]

theorem nearestEven_of_nonneg {n d : ℤ} (hn : 0 ≤ n) (hd : 0 < d) :
    nearestEven n d = nearestEvenNat n.natAbs d.natAbs := by
  rcases hn.eq_or_lt with rfl | hn
  · have : 0 < d.natAbs := by omega
    simp [nearestEven, nearestEvenNat]
  · simp [nearestEven, Int.sign_eq_one_of_pos hn, Int.sign_eq_one_of_pos hd]

/-- Both halves of the distance bound and the tie rule, for a non-negative numerator. -/
private theorem nearestEven_spec_of_nonneg {n d : ℤ} (hn : 0 ≤ n) (hd : 0 < d) :
    2 * (nearestEven n d * d) ≤ 2 * n + d ∧ 2 * n ≤ 2 * (nearestEven n d * d) + d ∧
      (2 * n = 2 * (nearestEven n d * d) + d ∨ 2 * n + d = 2 * (nearestEven n d * d) →
        Even (nearestEven n d)) := by
  have hd' : 0 < d.natAbs := by omega
  have hb := nearestEvenNat_bounds n.natAbs hd'
  have ht := nearestEvenNat_even_of_tie n.natAbs hd'
  rw [nearestEven_of_nonneg hn hd]
  zify at hb ht
  rw [abs_of_nonneg hn, abs_of_pos hd] at hb ht
  exact ⟨hb.1, hb.2, fun h => by exact_mod_cast ht h⟩

/-- **The computed quotient is at distance at most one half**, in integers: `d` times it is at most
    `d / 2` away from `n`, and a tie is even. -/
theorem nearestEven_spec (n : ℤ) {d : ℤ} (hd : 0 < d) :
    2 * (nearestEven n d * d) ≤ 2 * n + d ∧ 2 * n ≤ 2 * (nearestEven n d * d) + d ∧
      (2 * n = 2 * (nearestEven n d * d) + d ∨ 2 * n + d = 2 * (nearestEven n d * d) →
        Even (nearestEven n d)) := by
  rcases le_total 0 n with hn | hn
  · exact nearestEven_spec_of_nonneg hn hd
  · obtain ⟨h1, h2, h3⟩ := nearestEven_spec_of_nonneg (n := -n) (by omega) hd
    rw [nearestEven_neg] at h1 h2 h3
    refine ⟨by linarith, by linarith, fun ht => ?_⟩
    refine even_neg.mp (h3 ?_)
    rcases ht with ht | ht
    · exact .inr (by linarith)
    · exact .inl (by linarith)

theorem two_mul_nearestEven_le (n : ℤ) {d : ℤ} (hd : 0 < d) :
    2 * (nearestEven n d * d) ≤ 2 * n + d := (nearestEven_spec n hd).1

theorem le_two_mul_nearestEven (n : ℤ) {d : ℤ} (hd : 0 < d) :
    2 * n ≤ 2 * (nearestEven n d * d) + d := (nearestEven_spec n hd).2.1

/-- **The computation meets the specification** at the rational number `n / d`. -/
theorem isNearestEven_nearestEven (n : ℤ) {d : ℤ} (hd : 0 < d) :
    IsNearestEven ((n : ℚ) / d) (nearestEven n d) := by
  obtain ⟨h1, h2, h3⟩ := nearestEven_spec n hd
  have hd' : (0 : ℚ) < d := by exact_mod_cast hd
  have hx : 2 * ((n : ℚ) / d) * d = 2 * n := by field_simp
  refine ⟨?_, ?_, fun ht => h3 ?_⟩
  · refine le_of_mul_le_mul_right ?_ hd'
    rw [hx]
    have : (2 * nearestEven n d - 1) * d ≤ 2 * n := by linarith
    exact_mod_cast this
  · refine le_of_mul_le_mul_right ?_ hd'
    rw [hx]
    have : 2 * n ≤ (2 * nearestEven n d + 1) * d := by linarith
    exact_mod_cast this
  · rcases ht with ht | ht <;> rw [ht] at hx
    · right
      have : (2 * nearestEven n d - 1) * d = 2 * n := by exact_mod_cast hx
      linarith
    · left
      have : (2 * nearestEven n d + 1) * d = 2 * n := by exact_mod_cast hx
      linarith

/-- The same for a divisor of either sign. -/
theorem isNearestEven_nearestEven_of_ne (n : ℤ) {d : ℤ} (hd : d ≠ 0) :
    IsNearestEven ((n : ℚ) / d) (nearestEven n d) := by
  rcases lt_or_gt_of_ne hd with hneg | hpos
  · have h := (isNearestEven_nearestEven n (d := -d) (by omega)).neg
    rwa [nearestEven_neg_right, neg_neg, Int.cast_neg, div_neg, neg_neg] at h
  · exact isNearestEven_nearestEven n hpos

/-! ## 3. Order and exactness -/

theorem nearestEven_mono {m n d : ℤ} (hd : 0 < d) (h : m ≤ n) :
    nearestEven m d ≤ nearestEven n d := by
  have hd' : (0 : ℚ) < d := by exact_mod_cast hd
  have hle : (m : ℚ) / d ≤ n / d :=
    div_le_div_of_nonneg_right (by exact_mod_cast h) hd'.le
  exact (isNearestEven_nearestEven m hd).mono (isNearestEven_nearestEven n hd) hle

/-- A multiple of the divisor is rounded to the factor. -/
@[simp] theorem nearestEven_mul_self (k : ℤ) {d : ℤ} (hd : 0 < d) : nearestEven (k * d) d = k := by
  have hd' : (d : ℚ) ≠ 0 := by exact_mod_cast hd.ne'
  have h := isNearestEven_nearestEven (k * d) hd
  have hk : ((k * d : ℤ) : ℚ) / d = k := by push_cast; field_simp
  rw [hk] at h
  exact h.unique (isNearestEven_intCast k)

theorem nearestEven_nonneg {n d : ℤ} (hd : 0 < d) (hn : 0 ≤ n) : 0 ≤ nearestEven n d := by
  simpa using nearestEven_mono hd hn

/-! ## 4. A share of a rounded quotient -/

/-- **A proper share priced at a rounded unit price never exceeds the whole.** With `a` the rounded
    price `v * s / h` of one of `h` units on the scale `s`, and fewer than `h` units taken, the
    rounded share `t * a / s` is at most `v`, provided the scale exceeds the count. -/
theorem nearestEven_share_le {v s h t : ℤ} (hv : 0 ≤ v) (ht : 0 ≤ t) (hth : t < h) (hhs : h < s) :
    nearestEven (t * nearestEven (v * s) h) s ≤ v := by
  have hh : 0 < h := by omega
  have hs : 0 < s := by omega
  set a := nearestEven (v * s) h
  -- The rounded price is at most half a unit above the exact one.
  have ha : 2 * (a * h) ≤ 2 * (v * s) + h := two_mul_nearestEven_le _ hh
  -- So the exact share is below `v + 1 / 2`, strictly, because `t < h < s`.
  have hshare : 2 * (t * a) < (2 * v + 1) * s := by
    have h1 : 2 * (t * a) * h ≤ t * (2 * (v * s) + h) := by nlinarith
    have h2 : t * (2 * (v * s) + h) ≤ h * (2 * (v * s)) + t * h := by
      have : t * (v * s) ≤ h * (v * s) :=
        mul_le_mul_of_nonneg_right hth.le (mul_nonneg hv hs.le)
      nlinarith
    have h3 : t * h < h * s := by nlinarith
    have h4 : 2 * (t * a) * h < (2 * v + 1) * s * h := by nlinarith
    exact lt_of_mul_lt_mul_right h4 hh.le
  have hr := two_mul_nearestEven_le (t * a) hs
  have hlt : nearestEven (t * a) s * s < (v + 1) * s := by nlinarith
  have := lt_of_mul_lt_mul_right hlt hs.le
  omega

end Rounding
