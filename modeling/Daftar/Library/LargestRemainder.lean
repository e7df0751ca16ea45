/-
  File: Daftar/Library/LargestRemainder.lean
  Subject: The largest-remainder split of an integer over integer weights, ties to the lower index.

  * `split`: the floors of the quotas, then one unit each to the largest remainders (`topUp`).
  * The residue is shared out among weights with a remainder (`remainder_pos_of_served`), so the
    shares add up to the total (`sum_split`) and each is its quota rounded down or up
    (`share_cases`).
  * `share_mono` and `share_tie`: a larger weight never gets less, equal ones differ by at most a
    unit. `split_mul`: only the proportions count.
-/

import Mathlib.Algebra.BigOperators.Ring.List
import Mathlib.Algebra.Order.BigOperators.Group.List
import Mathlib.Data.List.GetD
import Mathlib.Data.List.Sort
import Mathlib.Tactic.Linarith
import Mathlib.Tactic.Ring

namespace LargestRemainder

/-! ## 1. The method -/

def quotas (w : List ℤ) (t : ℤ) : List ℤ := w.map fun u => t * u / w.sum

def remainders (w : List ℤ) (t : ℤ) : List ℤ := w.map fun u => t * u % w.sum

/-- `i` is served no later than `j`: its remainder is larger, or as large at a lower index. -/
def Before (r : List ℤ) (i j : ℕ) : Prop :=
  r.getD j 0 < r.getD i 0 ∨ r.getD i 0 = r.getD j 0 ∧ i ≤ j

instance (r : List ℤ) : DecidableRel (Before r) := fun _ _ => inferInstanceAs (Decidable (_ ∨ _))

def order (r : List ℤ) : List ℕ := (List.range r.length).insertionSort (Before r)

/-- One unit to each index in turn, until the residue is used up. -/
def topUp : List ℕ → ℤ → List ℤ → List ℤ × ℤ
  | [], residue, shares => (shares, residue)
  | i :: order, residue, shares =>
      if residue = 0 then (shares, residue)
      else topUp order (residue - 1) (shares.modify i (· + 1))

/-- The shares of a total, and the residue that is left over. -/
def split (w : List ℤ) (t : ℤ) : List ℤ × ℤ :=
  topUp (order (remainders w t)) (t - (quotas w t).sum) (quotas w t)

/-! ## 2. Topping up -/

section TopUp

variable {o : List ℕ} {s : List ℤ}

theorem length_topUp (o : List ℕ) (x : ℤ) (s : List ℤ) : (topUp o x s).1.length = s.length := by
  induction o generalizing x s with
  | nil => rfl
  | cons i o ih =>
    unfold topUp
    split
    · rfl
    · rw [ih, List.length_modify]

theorem topUp_residue (k : ℕ) (s : List ℤ) (h : k ≤ o.length) : (topUp o k s).2 = 0 := by
  induction o generalizing k s with
  | nil =>
    obtain rfl : k = 0 := Nat.le_zero.mp h
    rfl
  | cons i o ih =>
    cases k with
    | zero => rfl
    | succ k =>
      have hne : ((k + 1 : ℕ) : ℤ) ≠ 0 := by omega
      have hpred : ((k + 1 : ℕ) : ℤ) - 1 = k := by omega
      rw [topUp, if_neg hne, hpred]
      exact ih k _ (Nat.le_of_succ_le_succ h)

theorem sum_modify {i : ℕ} (h : i < s.length) : (s.modify i (· + 1)).sum = s.sum + 1 := by
  induction s generalizing i with
  | nil => cases h
  | cons x s ih =>
    cases i with
    | zero =>
      rw [List.modify_zero_cons, List.sum_cons, List.sum_cons]
      ring
    | succ i =>
      rw [List.modify_succ_cons, List.sum_cons, List.sum_cons, ih (Nat.lt_of_succ_lt_succ h)]
      ring

/-- What is given out is taken from the residue. -/
theorem sum_topUp (x : ℤ) (h : ∀ i ∈ o, i < s.length) :
    (topUp o x s).1.sum + (topUp o x s).2 = s.sum + x := by
  induction o generalizing x s with
  | nil => rfl
  | cons i o ih =>
    rw [List.forall_mem_cons] at h
    unfold topUp
    split
    · rfl
    · rw [ih _ fun j hj => by rw [List.length_modify]; exact h.2 j hj, sum_modify h.1]
      ring

/-- **An index gets a unit** exactly when it is among the first ones. -/
theorem getD_topUp (k : ℕ) (ho : o.Nodup) (h : ∀ i ∈ o, i < s.length) (i : ℕ) :
    (topUp o k s).1.getD i 0 = s.getD i 0 + if i ∈ o.take k then 1 else 0 := by
  induction o generalizing k s with
  | nil => simp [topUp]
  | cons j o ih =>
    obtain ⟨hj, ho⟩ := List.nodup_cons.mp ho
    rw [List.forall_mem_cons] at h
    cases k with
    | zero => simp [topUp]
    | succ k =>
      have hne : ((k + 1 : ℕ) : ℤ) ≠ 0 := by omega
      have hpred : ((k + 1 : ℕ) : ℤ) - 1 = k := by omega
      rw [topUp, if_neg hne, hpred,
        ih k ho fun j' hj' => by rw [List.length_modify]; exact h.2 j' hj', List.take_succ_cons]
      have hrest : j ∉ o.take k := fun hmem => hj (List.mem_of_mem_take hmem)
      by_cases hij : i = j
      · subst hij
        simp [List.getD_eq_getElem?_getD, hrest, h.1]
      · simp [List.getD_eq_getElem?_getD, hij, Ne.symm hij]

end TopUp

/-! ## 3. The order -/

section Order

variable {r : List ℤ} {i j : ℕ}

theorem order_perm (r : List ℤ) : (order r).Perm (List.range r.length) :=
  List.perm_insertionSort _ _

theorem mem_order : i ∈ order r ↔ i < r.length := by
  rw [(order_perm r).mem_iff, List.mem_range]

theorem nodup_order (r : List ℤ) : (order r).Nodup :=
  (order_perm r).nodup_iff.mpr List.nodup_range

instance (r : List ℤ) : Std.Total (Before r) where
  total i j := by
    unfold Before
    omega

instance (r : List ℤ) : IsTrans ℕ (Before r) where
  trans i j k h h' := by
    unfold Before at *
    omega

theorem Before.antisymm (h : Before r i j) (h' : Before r j i) : i = j := by
  unfold Before at *
  omega

theorem pairwise_order (r : List ℤ) : (order r).Pairwise (Before r) :=
  List.pairwise_insertionSort _ _

/-- Who is served before a served index is served. -/
theorem served_of_before {k : ℕ} (hj : j ∈ (order r).take k) (hi : i < r.length)
    (h : Before r i j) : i ∈ (order r).take k := by
  have hmem : i ∈ (order r).take k ++ (order r).drop k := by
    rw [List.take_append_drop]
    exact mem_order.mpr hi
  rcases List.mem_append.mp hmem with hserved | hlater
  · exact hserved
  · have hpair := pairwise_order r
    rw [← List.take_append_drop k (order r), List.pairwise_append] at hpair
    rw [h.antisymm (hpair.2.2 j hj i hlater)]
    exact hj

end Order

/-! ## 4. The residue -/

theorem sum_div_mod (w : List ℤ) (t d : ℤ) :
    (w.map fun u => t * u / d).sum * d + (w.map fun u => t * u % d).sum = t * w.sum := by
  induction w with
  | nil => simp
  | cons u w ih =>
    have hu := Int.mul_ediv_add_emod (t * u) d
    simp only [List.map_cons, List.sum_cons]
    linarith

section Residue

variable {w : List ℤ} {t : ℤ}

def residue (w : List ℤ) (t : ℤ) : ℤ := t - (quotas w t).sum

theorem residue_mul (w : List ℤ) (t : ℤ) : residue w t * w.sum = (remainders w t).sum := by
  have h := sum_div_mod w t w.sum
  unfold residue quotas remainders
  linarith

theorem remainder_bounds (hw : 0 < w.sum) {r : ℤ} (hr : r ∈ remainders w t) :
    0 ≤ r ∧ r < w.sum := by
  obtain ⟨u, _, rfl⟩ := List.mem_map.mp hr
  exact ⟨Int.emod_nonneg _ hw.ne', Int.emod_lt_of_pos _ hw⟩

theorem length_remainders (w : List ℤ) (t : ℤ) : (remainders w t).length = w.length :=
  List.length_map _

/-- **The residue is a number of weights.** -/
theorem residue_eq (hw : 0 < w.sum) : ∃ k : ℕ, residue w t = k ∧ k ≤ w.length := by
  have hmul := residue_mul w t
  have hlo : 0 ≤ (remainders w t).sum :=
    List.sum_nonneg fun r hr => (remainder_bounds hw hr).1
  have hhi : (remainders w t).sum ≤ (remainders w t).length • w.sum :=
    List.sum_le_card_nsmul _ _ fun r hr => (remainder_bounds hw hr).2.le
  rw [length_remainders, nsmul_eq_mul] at hhi
  have h0 : 0 ≤ residue w t := nonneg_of_mul_nonneg_left (hmul ▸ hlo) hw
  have hn : residue w t ≤ w.length := le_of_mul_le_mul_right (hmul ▸ hhi) hw
  exact ⟨(residue w t).toNat, (Int.toNat_of_nonneg h0).symm, by omega⟩

theorem sum_getD_order (r : List ℤ) : ((order r).map fun i => r.getD i 0).sum = r.sum := by
  have hrange : (List.range r.length).map (fun i => r.getD i 0) = r := by
    refine List.ext_getElem (by simp) fun i h _ => ?_
    have hi : i < r.length := by simpa using h
    simp [hi]
  rw [((order_perm r).map _).sum_eq, hrange]

/-- **A served index has a remainder.** Were it zero, the ones served later would have none, and the
    ones served before could not make up the residue. -/
theorem remainder_pos_of_served (hw : 0 < w.sum) {k i : ℕ} (hk : residue w t = k)
    (hi : i ∈ (order (remainders w t)).take k) : 0 < (remainders w t).getD i 0 := by
  by_contra hzero
  set r := remainders w t with hr
  have hbounds : ∀ j ∈ order r, 0 ≤ r.getD j 0 ∧ r.getD j 0 < w.sum := by
    intro j hj
    have hlt := mem_order.mp hj
    rw [List.getD_eq_getElem _ _ hlt]
    exact remainder_bounds hw (List.getElem_mem hlt)
  have hpair := pairwise_order r
  rw [← List.take_append_drop k (order r), List.pairwise_append] at hpair
  have hlater : ((order r).drop k |>.map fun j => r.getD j 0).sum ≤ 0 := by
    refine (List.sum_le_card_nsmul _ 0 fun x hx => ?_).trans (nsmul_zero _).le
    obtain ⟨j, hj, rfl⟩ := List.mem_map.mp hx
    rcases hpair.2.2 i hi j hj with h | ⟨h, _⟩
    · omega
    · omega
  have hserved : ((order r).take k |>.map fun j => r.getD j 0).sum <
      ((order r).take k |>.map fun _ => w.sum).sum := by
    refine List.sum_lt_sum _ _ (fun j hj => (hbounds j (List.mem_of_mem_take hj)).2.le)
      ⟨i, hi, (hbounds i (List.mem_of_mem_take hi)).2⟩
  have hcard : ((order r).take k |>.map fun _ => w.sum).sum ≤ k * w.sum := by
    rw [List.map_const', List.sum_replicate, nsmul_eq_mul]
    refine mul_le_mul_of_nonneg_right ?_ hw.le
    exact_mod_cast List.length_take_le _ _
  have htotal := sum_getD_order r
  rw [← List.take_append_drop k (order r), List.map_append, List.sum_append] at htotal
  have hmul := residue_mul w t
  rw [hk, ← hr] at hmul
  omega

end Residue

/-! ## 5. The shares -/

section Shares

variable {w : List ℤ} {t : ℤ} {i j : ℕ}

/-- An index that gets a unit of the residue. -/
def Served (w : List ℤ) (t : ℤ) (i : ℕ) : Prop :=
  i ∈ (order (remainders w t)).take (residue w t).toNat

instance (w : List ℤ) (t : ℤ) (i : ℕ) : Decidable (Served w t i) :=
  inferInstanceAs (Decidable (_ ∈ _))

theorem mem_order_remainders : i ∈ order (remainders w t) ↔ i < w.length := by
  rw [mem_order, length_remainders]

theorem order_lt_quotas : ∀ i ∈ order (remainders w t), i < (quotas w t).length := by
  intro i hi
  rw [quotas, List.length_map]
  exact mem_order_remainders.mp hi

theorem length_split (w : List ℤ) (t : ℤ) : (split w t).1.length = w.length := by
  unfold split
  rw [length_topUp, quotas, List.length_map]

/-- **Nothing is left over.** -/
theorem split_residue (hw : 0 < w.sum) : (split w t).2 = 0 := by
  obtain ⟨k, hk, hle⟩ := residue_eq (t := t) hw
  have hlen : (order (remainders w t)).length = w.length := by
    rw [(order_perm _).length_eq, List.length_range, length_remainders]
  unfold split
  rw [← residue, hk]
  exact topUp_residue k _ (hlen ▸ hle)

/-- **The shares add up to the total.** -/
theorem sum_split (hw : 0 < w.sum) : (split w t).1.sum = t := by
  have h : (split w t).1.sum + (split w t).2 = (quotas w t).sum + (t - (quotas w t).sum) :=
    sum_topUp _ order_lt_quotas
  rw [split_residue hw] at h
  linarith

theorem getD_map_zero {f : ℤ → ℤ} (hf : f 0 = 0) (l : List ℤ) (i : ℕ) :
    (l.map f).getD i 0 = f (l.getD i 0) := by
  rw [List.getD_eq_getElem?_getD, List.getD_eq_getElem?_getD, List.getElem?_map]
  cases l[i]? with
  | none => exact hf.symm
  | some x => rfl

theorem remainders_getD (w : List ℤ) (t : ℤ) (i : ℕ) :
    (remainders w t).getD i 0 = t * w.getD i 0 % w.sum := getD_map_zero (by simp) w i

/-- **A share** is the floor of its quota, and one more if it is served. -/
theorem split_getD (hw : 0 < w.sum) (i : ℕ) :
    (split w t).1.getD i 0 = t * w.getD i 0 / w.sum + if Served w t i then 1 else 0 := by
  obtain ⟨k, hk, _⟩ := residue_eq (t := t) hw
  have hquota : (quotas w t).getD i 0 = t * w.getD i 0 / w.sum := getD_map_zero (by simp) w i
  have hserved : Served w t i ↔ i ∈ (order (remainders w t)).take k := by
    rw [Served, hk, Int.toNat_natCast]
  unfold split
  rw [← residue, hk, getD_topUp k (nodup_order _) order_lt_quotas, hquota]
  exact congrArg _ (if_congr hserved.symm rfl rfl)

theorem Served.remainder_pos (hw : 0 < w.sum) (h : Served w t i) :
    0 < t * w.getD i 0 % w.sum := by
  obtain ⟨k, hk, _⟩ := residue_eq (t := t) hw
  rw [← remainders_getD]
  refine remainder_pos_of_served hw hk ?_
  rwa [Served, hk, Int.toNat_natCast] at h

/-- A share is its quota, rounded down or, where it is no integer, up. -/
theorem share_cases (hw : 0 < w.sum) (i : ℕ) :
    (split w t).1.getD i 0 = t * w.getD i 0 / w.sum ∨
      (0 < t * w.getD i 0 % w.sum ∧ (split w t).1.getD i 0 = t * w.getD i 0 / w.sum + 1) := by
  rw [split_getD hw]
  by_cases h : Served w t i
  · exact .inr ⟨h.remainder_pos hw, by rw [if_pos h]⟩
  · exact .inl (by rw [if_neg h, add_zero])

theorem share_nonneg (hw : 0 < w.sum) (ht : 0 ≤ t) (hu : 0 ≤ w.getD i 0) :
    0 ≤ (split w t).1.getD i 0 := by
  have hq : 0 ≤ t * w.getD i 0 / w.sum := Int.ediv_nonneg (mul_nonneg ht hu) hw.le
  rcases share_cases (t := t) hw i with h | ⟨_, h⟩
  · omega
  · omega

/-- A zero weight gets nothing. -/
theorem share_zero (hw : 0 < w.sum) (hu : w.getD i 0 = 0) : (split w t).1.getD i 0 = 0 := by
  rcases share_cases (t := t) hw i with h | ⟨hr, _⟩
  · rw [h, hu, mul_zero, Int.zero_ediv]
  · rw [hu, mul_zero, Int.zero_emod] at hr
    exact absurd hr (lt_irrefl 0)

theorem Served.before (h : Served w t j) (hi : i < w.length)
    (hb : Before (remainders w t) i j) : Served w t i :=
  served_of_before h (by rwa [length_remainders]) hb

/-- **A larger weight never gets less.** -/
theorem share_mono (hw : 0 < w.sum) (ht : 0 ≤ t) (hi : i < w.length)
    (h : w.getD j 0 < w.getD i 0) : (split w t).1.getD j 0 ≤ (split w t).1.getD i 0 := by
  have hmul : t * w.getD j 0 ≤ t * w.getD i 0 := mul_le_mul_of_nonneg_left h.le ht
  have hq : t * w.getD j 0 / w.sum ≤ t * w.getD i 0 / w.sum := Int.ediv_le_ediv hw hmul
  rw [split_getD hw, split_getD hw]
  rcases hq.lt_or_eq with hlt | heq
  · split <;> split <;> omega
  · -- With equal floors the larger weight has the larger remainder, or there are none.
    have hr : t * w.getD j 0 % w.sum ≤ t * w.getD i 0 % w.sum := by
      rw [Int.emod_def, Int.emod_def, heq]
      omega
    by_cases hj : Served w t j
    · have hpos := hj.remainder_pos hw
      have hserved : Served w t i := by
        refine hj.before hi (.inl ?_)
        rw [remainders_getD, remainders_getD]
        refine lt_of_le_of_ne hr fun hsame => ?_
        have heqt : t * w.getD j 0 = t * w.getD i 0 := by
          have h1 := Int.mul_ediv_add_emod (t * w.getD j 0) w.sum
          have h2 := Int.mul_ediv_add_emod (t * w.getD i 0) w.sum
          rw [← h1, ← h2, heq, hsame]
        have ht0 : t = 0 := by
          by_contra hne
          exact h.ne (mul_left_cancel₀ hne heqt)
        rw [ht0, zero_mul, Int.zero_emod] at hpos
        exact lt_irrefl 0 hpos
      rw [if_pos hj, if_pos hserved, heq]
    · rw [if_neg hj, heq]
      split <;> omega

/-- **Equal weights** differ by at most one unit, which the lower index gets. -/
theorem share_tie (hw : 0 < w.sum) (hij : i ≤ j) (hi : i < w.length)
    (h : w.getD i 0 = w.getD j 0) :
    (split w t).1.getD j 0 ≤ (split w t).1.getD i 0 ∧
      (split w t).1.getD i 0 ≤ (split w t).1.getD j 0 + 1 := by
  have hserved : Served w t j → Served w t i := by
    intro hj
    refine hj.before hi (.inr ⟨?_, hij⟩)
    rw [remainders_getD, remainders_getD, h]
  rw [split_getD hw, split_getD hw, h]
  by_cases hj : Served w t j
  · rw [if_pos hj, if_pos (hserved hj)]
    omega
  · rw [if_neg hj]
    split <;> omega

end Shares

/-! ## 6. Proportions -/

theorem order_congr {r r' : List ℤ} (hlen : r'.length = r.length)
    (h : ∀ i j, Before r' i j ↔ Before r i j) : order r' = order r := by
  have hmap := List.map_insertionSort (Before r') (Before r) id (List.range r.length)
    fun i _ j _ => h i j
  unfold order
  rw [hlen]
  simpa using hmap

theorem sum_map_mul (w : List ℤ) (c : ℤ) : (w.map (c * ·)).sum = c * w.sum := by
  simpa using List.sum_map_mul_left w id c

/-- **Only the proportions of the weights count.** -/
theorem split_mul {w : List ℤ} {t c : ℤ} (hc : 0 < c) : split (w.map (c * ·)) t = split w t := by
  have hsum := sum_map_mul w c
  have hassoc : ∀ u : ℤ, t * (c * u) = c * (t * u) := fun u => by ring
  have hquotas : quotas (w.map (c * ·)) t = quotas w t := by
    unfold quotas
    rw [hsum, List.map_map]
    refine List.map_congr_left fun u _ => ?_
    rw [Function.comp_apply, hassoc, Int.mul_ediv_mul_of_pos _ _ hc]
  have hremainders : remainders (w.map (c * ·)) t = (remainders w t).map (c * ·) := by
    unfold remainders
    rw [hsum, List.map_map, List.map_map]
    refine List.map_congr_left fun u _ => ?_
    rw [Function.comp_apply, Function.comp_apply, hassoc, Int.mul_emod_mul_of_pos _ _ hc]
  have horder : order (remainders (w.map (c * ·)) t) = order (remainders w t) := by
    rw [hremainders]
    refine order_congr (List.length_map _) fun i j => ?_
    unfold Before
    rw [getD_map_zero (mul_zero c), getD_map_zero (mul_zero c), mul_lt_mul_iff_right₀ hc,
      mul_right_inj' hc.ne']
  unfold split
  rw [horder, hquotas]

end LargestRemainder
