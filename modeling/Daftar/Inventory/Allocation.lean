/-
  File: Daftar/Inventory/Allocation.lean
  Subject: The largest-remainder split of an amount over exact decimal weights.

  * `largestRemainder` brings the weights to one scale and splits by their units
    (`LargestRemainder.split`).
  * `largestRemainder_eq_ok`: what it accepts; its last refusal is never raised.
  * `largestRemainder_spec`: the shares add up, each is its quota rounded down or up, they follow
    the order of the weights, and only the proportions of the weights count.
-/

import Daftar.Inventory.Errors
import Daftar.Library.LargestRemainder
import Mathlib.Data.Rat.Floor

namespace Daftar.Inventory

open Fallible
open LargestRemainder

/-! ## 1. The split -/

/-- `units` at `scale` decimal digits. -/
structure ExactDecimal where
  units : ℤ
  scale : ℤ
  deriving DecidableEq, Repr

def allocationInvalid (message : String) : InventoryError := ⟨.inventoryAllocationInvalid, message⟩

def assertScale (scale : ℤ) : Result Unit :=
  refuseIf (scale < 0 ∨ scale > 64) (allocationInvalid "a weight scale must be an integer from 0 to 64")

def residueExceeded : InventoryError := allocationInvalid "the residue exceeded the number of lines"

/-- The split over weights that are units of one scale. -/
def splitUnits (units : List ℤ) (total : ℤ) : Result (List ℤ) :=
  if units.sum = 0 then do
    refuseIf (total ≠ 0)
      (allocationInvalid "a non-zero total cannot be split over weights that sum to zero")
    pure (units.map fun _ => 0)
  else do
    refuseIf ((split units total).2 ≠ 0) residueExceeded
    pure (split units total).1

/-- The units of the weights at a scale they all fit. -/
def commonUnits (weights : List ExactDecimal) (scale : ℤ) : List ℤ :=
  weights.map fun w => w.units * 10 ^ (scale - w.scale).toNat

def largestRemainder (weights : List ExactDecimal) (total : ℤ) : Result (List ℤ) := do
  refuseIf (weights.length = 0) (allocationInvalid "an allocation needs at least one weight")
  refuseIf (total < 0) (allocationInvalid "an allocated total must be a non-negative integer")
  let scale ← weights.foldlM (fun scale w => do
    refuseIf (w.units < 0) (allocationInvalid "a weight must be a non-negative exact decimal")
    assertScale w.scale
    pure (if w.scale > scale then w.scale else scale)) 0
  splitUnits (commonUnits weights scale) total

/-! ## 2. What it accepts -/

structure ExactDecimal.Weight (w : ExactDecimal) : Prop where
  units : 0 ≤ w.units
  scale : 0 ≤ w.scale ∧ w.scale ≤ 64

/-- The number an exact decimal stands for. -/
def ExactDecimal.value (w : ExactDecimal) : ℚ := w.units / 10 ^ w.scale.toNat

def maxScale (ws : List ExactDecimal) (s : ℤ) : ℤ :=
  ws.foldl (fun scale w => if w.scale > scale then w.scale else scale) s

/-- The units the split is computed from. -/
def unitsOf (ws : List ExactDecimal) : List ℤ := commonUnits ws (maxScale ws 0)

@[simp] theorem assertScale_eq_ok {scale : ℤ} {u : Unit} :
    assertScale scale = .ok u ↔ 0 ≤ scale ∧ scale ≤ 64 := by
  simp [assertScale]

theorem foldlM_scale_eq_ok {ws : List ExactDecimal} {s r : ℤ} :
    (ws.foldlM (fun scale w => do
      refuseIf (w.units < 0) (allocationInvalid "a weight must be a non-negative exact decimal")
      assertScale w.scale
      pure (if w.scale > scale then w.scale else scale)) s : Result ℤ) = .ok r ↔
      (∀ w ∈ ws, w.Weight) ∧ maxScale ws s = r := by
  induction ws generalizing s with
  | nil => simp [maxScale]
  | cons w ws ih =>
    simp only [List.foldlM_cons, bind_eq_ok, refuseIf_eq_ok, assertScale_eq_ok, exists_const,
      pure_eq_ok, ih, List.forall_mem_cons, maxScale, List.foldl_cons, not_lt]
    constructor
    · intro h
      obtain ⟨_, ⟨hu, ⟨h0, h64⟩, rfl⟩, hws, hr⟩ := h
      exact ⟨⟨⟨hu, h0, h64⟩, hws⟩, hr⟩
    · intro h
      obtain ⟨⟨hw, hws⟩, hr⟩ := h
      exact ⟨_, ⟨hw.units, hw.scale, rfl⟩, hws, hr⟩

theorem le_maxScale (ws : List ExactDecimal) (s : ℤ) :
    s ≤ maxScale ws s ∧ ∀ w ∈ ws, w.scale ≤ maxScale ws s := by
  induction ws generalizing s with
  | nil => exact ⟨le_rfl, nofun⟩
  | cons w ws ih =>
    obtain ⟨h, hws⟩ := ih (if w.scale > s then w.scale else s)
    have hw : s ≤ (if w.scale > s then w.scale else s) ∧
        w.scale ≤ (if w.scale > s then w.scale else s) := by
      split <;> omega
    exact ⟨hw.1.trans h, List.forall_mem_cons.mpr ⟨hw.2.trans h, hws⟩⟩

/-- Each unit is the weight's value at the common scale. -/
theorem commonUnits_value {w : ExactDecimal} {s : ℤ} (hw : w.Weight) (hs : w.scale ≤ s) :
    ((w.units * 10 ^ (s - w.scale).toNat : ℤ) : ℚ) = w.value * 10 ^ s.toNat := by
  have hpow : s.toNat = (s - w.scale).toNat + w.scale.toNat := by
    have := hw.scale.1
    omega
  unfold ExactDecimal.value
  rw [hpow, pow_add]
  push_cast
  field_simp

theorem unitsOf_nonneg {ws : List ExactDecimal} (h : ∀ w ∈ ws, w.Weight) :
    ∀ u ∈ unitsOf ws, 0 ≤ u := by
  intro u hu
  obtain ⟨w, hw, rfl⟩ := List.mem_map.mp hu
  exact mul_nonneg (h w hw).units (by positivity)

theorem splitUnits_eq_ok {units : List ℤ} {t : ℤ} {shares : List ℤ} (h : ∀ u ∈ units, 0 ≤ u) :
    splitUnits units t = .ok shares ↔
      (units.sum = 0 ∧ t = 0 ∧ units.map (fun _ => 0) = shares) ∨
        (0 < units.sum ∧ (split units t).1 = shares) := by
  unfold splitUnits
  by_cases hsum : units.sum = 0
  · simp [hsum, map_eq_ok]
  · have hpos : 0 < units.sum := lt_of_le_of_ne (List.sum_nonneg h) (Ne.symm hsum)
    simp [hsum, hpos, split_residue hpos, map_eq_ok]

/-- **What the split accepts, and what it returns.** -/
theorem largestRemainder_eq_ok {ws : List ExactDecimal} {t : ℤ} {shares : List ℤ} :
    largestRemainder ws t = .ok shares ↔ ws ≠ [] ∧ 0 ≤ t ∧ (∀ w ∈ ws, w.Weight) ∧
      splitUnits (unitsOf ws) t = .ok shares := by
  unfold largestRemainder
  simp only [bind_eq_ok, refuseIf_eq_ok, exists_const, foldlM_scale_eq_ok, List.length_eq_zero_iff,
    not_lt, ne_eq]
  constructor
  · intro h
    obtain ⟨hne, ht, _, ⟨hws, rfl⟩, hsplit⟩ := h
    exact ⟨hne, ht, hws, hsplit⟩
  · intro h
    obtain ⟨hne, ht, hws, hsplit⟩ := h
    exact ⟨hne, ht, _, ⟨hws, rfl⟩, hsplit⟩

/-- **The residue never exceeds the number of lines**, of whatever is given. -/
theorem largestRemainder_ne_residueExceeded (ws : List ExactDecimal) (t : ℤ) :
    largestRemainder ws t ≠ .error residueExceeded := by
  have hfold : RefusesOnly (· ≠ residueExceeded) (ws.foldlM (fun scale w => do
      refuseIf (w.units < 0) (allocationInvalid "a weight must be a non-negative exact decimal")
      assertScale w.scale
      pure (if w.scale > scale then w.scale else scale)) (0 : ℤ)) :=
    RefusesOnly.foldlM (fun _ _ _ => (refusesOnly_refuseIf fun _ => by decide).bind fun _ _ =>
      (refusesOnly_refuseIf fun _ => by decide).bind fun _ _ => refusesOnly_pure _) 0
  have hall : RefusesOnly (· ≠ residueExceeded) (largestRemainder ws t) := by
    refine (refusesOnly_refuseIf fun _ => by decide).bind fun _ _ =>
      (refusesOnly_refuseIf fun _ => by decide).bind fun _ _ => hfold.bind fun scale hscale => ?_
    obtain ⟨hws, rfl⟩ := foldlM_scale_eq_ok.mp hscale
    unfold splitUnits
    split
    · exact (refusesOnly_refuseIf fun _ => by decide).bind fun _ _ => refusesOnly_pure _
    · next hsum =>
        have hpos : 0 < (unitsOf ws).sum :=
          lt_of_le_of_ne (List.sum_nonneg (unitsOf_nonneg hws)) (Ne.symm hsum)
        exact (refusesOnly_refuseIf fun h => absurd (split_residue hpos) h).bind
          fun _ _ => refusesOnly_pure _
  exact fun h => hall _ h rfl

/-! ## 3. What it returns -/

/-- What a split of `total` over weights is. -/
structure LargestRemainderSplit (ws : List ExactDecimal) (total : ℤ) (shares : List ℤ) : Prop where
  length : shares.length = ws.length
  nonneg : ∀ s ∈ shares, 0 ≤ s
  sum : shares.sum = total
  quota : ∀ (i : ℕ) (w : ExactDecimal) (s : ℤ), ws[i]? = some w → shares[i]? = some s →
    s = ⌊total * w.value / (ws.map (·.value)).sum⌋ ∨ s = ⌈total * w.value / (ws.map (·.value)).sum⌉
  zero : ∀ (i : ℕ) (w : ExactDecimal) (s : ℤ), ws[i]? = some w → shares[i]? = some s → w.value = 0 → s = 0
  mono : ∀ (i j : ℕ) (v w : ExactDecimal) (r s : ℤ), ws[i]? = some v → ws[j]? = some w →
    shares[i]? = some r → shares[j]? = some s → w.value < v.value → s ≤ r
  tie : ∀ (i j : ℕ) (v w : ExactDecimal) (r s : ℤ), i < j → ws[i]? = some v → ws[j]? = some w →
    shares[i]? = some r → shares[j]? = some s → v.value = w.value → s ≤ r ∧ r ≤ s + 1
  proportional : ∀ (k : ℚ) (ws' : List ExactDecimal), 0 < k →
    List.Forall₂ (fun w w' => w'.Weight ∧ w'.value = k * w.value) ws ws' →
    largestRemainder ws' total = .ok shares

section Units

variable {ws : List ExactDecimal} (h : ∀ w ∈ ws, w.Weight)
include h

/-- The common power of ten. -/
theorem unitsOf_getD {i : ℕ} {w : ExactDecimal} (hw : ws[i]? = some w) :
    (((unitsOf ws).getD i 0 : ℤ) : ℚ) = w.value * 10 ^ (maxScale ws 0).toNat := by
  have hmem := List.mem_of_getElem? hw
  have hget : (unitsOf ws).getD i 0 = w.units * 10 ^ (maxScale ws 0 - w.scale).toNat := by
    rw [List.getD_eq_getElem?_getD, unitsOf, commonUnits, List.getElem?_map, hw]
    rfl
  rw [hget, commonUnits_value (h w hmem) ((le_maxScale ws 0).2 w hmem)]

theorem unitsOf_sum :
    (((unitsOf ws).sum : ℤ) : ℚ) = (ws.map (·.value)).sum * 10 ^ (maxScale ws 0).toNat := by
  have hsum : ∀ (vs : List ExactDecimal) (s : ℤ), (∀ w ∈ vs, w.Weight ∧ w.scale ≤ s) →
      (((commonUnits vs s).sum : ℤ) : ℚ) = (vs.map (·.value)).sum * 10 ^ s.toNat := by
    intro vs s hvs
    induction vs with
    | nil => simp [commonUnits]
    | cons w vs ih =>
      rw [List.forall_mem_cons] at hvs
      have hw := commonUnits_value hvs.1.1 hvs.1.2
      have hrest := ih hvs.2
      rw [commonUnits, List.map_cons, List.sum_cons, Int.cast_add, hw, ← commonUnits, hrest,
        List.map_cons, List.sum_cons, add_mul]
  exact hsum ws _ fun w hw => ⟨h w hw, (le_maxScale ws 0).2 w hw⟩

omit h in
theorem weight_of_proportional {ws' : List ExactDecimal} {k : ℚ}
    (hall : List.Forall₂ (fun w w' => w'.Weight ∧ w'.value = k * w.value) ws ws') :
    ∀ w' ∈ ws', w'.Weight := by
  intro w' hw'
  obtain ⟨w, _, hweight, _⟩ := forall₂_source hall hw'
  exact hweight

omit h in
theorem length_unitsOf (ws : List ExactDecimal) : (unitsOf ws).length = ws.length := by
  rw [unitsOf, commonUnits, List.length_map]

/-- Weights in proportion have units in proportion. -/
theorem unitsOf_proportional {ws' : List ExactDecimal} {k : ℚ} (hk : 0 < k)
    (hall : List.Forall₂ (fun w w' => w'.Weight ∧ w'.value = k * w.value) ws ws') :
    ∃ c d : ℤ, 0 < c ∧ 0 < d ∧ (unitsOf ws').map (c * ·) = (unitsOf ws).map (d * ·) ∧
      c * (unitsOf ws').sum = d * (unitsOf ws).sum := by
  have hws' := weight_of_proportional hall
  have hlen : (unitsOf ws').length = (unitsOf ws).length := by
    rw [length_unitsOf, length_unitsOf, hall.length_eq]
  have hden : (0 : ℤ) < k.den := by exact_mod_cast k.den_pos
  have hnum : 0 < k.num := Rat.num_pos.mpr hk
  obtain ⟨c, hc⟩ : ∃ c : ℤ, c = k.den * 10 ^ (maxScale ws 0).toNat := ⟨_, rfl⟩
  obtain ⟨d, hd⟩ : ∃ d : ℤ, d = k.num * 10 ^ (maxScale ws' 0).toNat := ⟨_, rfl⟩
  suffices hmap : (unitsOf ws').map (c * ·) = (unitsOf ws).map (d * ·) by
    have hsum := congrArg List.sum hmap
    rw [sum_map_mul, sum_map_mul] at hsum
    exact ⟨c, d, hc ▸ by positivity, hd ▸ by positivity, hmap, hsum⟩
  refine List.ext_getElem (by simp [hlen]) fun i hi _ => ?_
  have hi' : i < ws'.length := by simpa [length_unitsOf] using hi
  have hi0 : i < ws.length := hall.length_eq ▸ hi'
  have hpair := (List.forall₂_iff_get.mp hall).2 i hi0 hi'
  have hu' := unitsOf_getD hws' (List.getElem?_eq_getElem hi')
  have hu := unitsOf_getD h (List.getElem?_eq_getElem hi0)
  have hlt' : i < (unitsOf ws').length := by simpa [length_unitsOf] using hi'
  have hlt : i < (unitsOf ws).length := hlen ▸ hlt'
  rw [List.getD_eq_getElem _ _ hlt'] at hu'
  rw [List.getD_eq_getElem _ _ hlt] at hu
  have hvalue : ws'[i].value = k * ws[i].value := hpair.2
  have hk' : k * k.den = k.num := Rat.mul_den_eq_num k
  have hcast : (((k.den * 10 ^ (maxScale ws 0).toNat * (unitsOf ws')[i] : ℤ)) : ℚ) =
      ((k.num * 10 ^ (maxScale ws' 0).toNat * (unitsOf ws)[i] : ℤ) : ℚ) := by
    push_cast
    rw [hu', hu, hvalue, ← hk']
    ring
  rw [← hc, ← hd] at hcast
  rw [List.getElem_map, List.getElem_map]
  exact_mod_cast hcast

end Units

theorem floor_div_int (a : ℤ) {b : ℤ} (hb : 0 < b) : ⌊(a : ℚ) / b⌋ = a / b := by
  have hb' : (0 : ℚ) < b := by exact_mod_cast hb
  rw [Int.floor_eq_iff, le_div_iff₀ hb', div_lt_iff₀ hb']
  exact ⟨by exact_mod_cast Int.ediv_mul_le a hb.ne', by exact_mod_cast Int.lt_ediv_add_one_mul_self a hb⟩

theorem ceil_div_int {a b : ℤ} (hb : 0 < b) (hr : 0 < a % b) : ⌈(a : ℚ) / b⌉ = a / b + 1 := by
  have hb' : (0 : ℚ) < b := by exact_mod_cast hb
  have hdiv := Int.mul_ediv_add_emod a b
  have hlt : a / b * b < a := by linarith
  rw [Int.ceil_eq_iff, lt_div_iff₀ hb', div_le_iff₀ hb']
  refine ⟨?_, by exact_mod_cast (Int.lt_ediv_add_one_mul_self a hb).le⟩
  push_cast
  rw [add_sub_cancel_right]
  exact_mod_cast hlt

theorem getD_of_some {l : List ℤ} {i : ℕ} {x : ℤ} (h : l[i]? = some x) : l.getD i 0 = x := by
  rw [List.getD_eq_getElem?_getD, h, Option.getD_some]

theorem ne_nil_of_proportional {ws ws' : List ExactDecimal} {t : ℤ} {shares : List ℤ} {k : ℚ}
    (hok : largestRemainder ws t = .ok shares)
    (hall : List.Forall₂ (fun w w' => w'.Weight ∧ w'.value = k * w.value) ws ws') : ws' ≠ [] := by
  intro hnil
  rw [hnil, List.forall₂_nil_right_iff] at hall
  exact (largestRemainder_eq_ok.mp hok).1 hall

/-- A split over weights that are all zero gives nothing to each. -/
theorem split_zero {ws : List ExactDecimal} (hws : ∀ w ∈ ws, w.Weight)
    (hsum : (unitsOf ws).sum = 0) {shares : List ℤ}
    (hshares : (unitsOf ws).map (fun _ => 0) = shares) (hok : largestRemainder ws 0 = .ok shares) :
    LargestRemainderSplit ws 0 shares := by
  have hzero : ∀ s ∈ shares, s = 0 := by
    intro s hs
    obtain ⟨_, _, rfl⟩ := List.mem_map.mp (hshares ▸ hs)
    rfl
  have hget : ∀ {i : ℕ} {s : ℤ}, shares[i]? = some s → s = 0 := fun hs =>
    hzero _ (List.mem_of_getElem? hs)
  refine ⟨?_, fun s hs => (hzero s hs).ge, ?_, ?_, ?_, ?_, ?_, ?_⟩
  · rw [← hshares]
    simp [unitsOf, commonUnits]
  · rw [← hshares, List.map_const', List.sum_replicate, nsmul_zero]
  · intro i w s _ hs
    rw [hget hs]
    simp
  · intro i w s _ hs _
    exact hget hs
  · intro i j v w r s _ _ hr hs _
    rw [hget hr, hget hs]
  · intro i j v w r s _ _ _ hr hs _
    rw [hget hr, hget hs]
    exact ⟨le_rfl, zero_le_one⟩
  · intro k ws' hk hall
    obtain ⟨c, d, hc, _, _, hmul⟩ := unitsOf_proportional hws hk hall
    rw [hsum, mul_zero] at hmul
    have hsum' := (mul_eq_zero.mp hmul).resolve_left hc.ne'
    have hws' := weight_of_proportional hall
    refine largestRemainder_eq_ok.mpr ⟨ne_nil_of_proportional hok hall, le_rfl, hws',
      (splitUnits_eq_ok (unitsOf_nonneg hws')).mpr (.inl ⟨hsum', rfl, ?_⟩)⟩
    rw [← hshares, List.map_const', List.map_const', length_unitsOf, length_unitsOf,
      hall.length_eq]

/-- **Every accepted split** is a largest-remainder split. -/
theorem largestRemainder_split {ws : List ExactDecimal} {t : ℤ} {shares : List ℤ}
    (hok : largestRemainder ws t = .ok shares) : LargestRemainderSplit ws t shares := by
  obtain ⟨hne, ht, hws, hsplit⟩ := largestRemainder_eq_ok.mp hok
  have hU := unitsOf_nonneg hws
  rcases (splitUnits_eq_ok hU).mp hsplit with ⟨hsum, rfl, hshares⟩ | ⟨hpos, hshares⟩
  · exact split_zero hws hsum hshares hok
  have hget : ∀ {i : ℕ} {s : ℤ}, shares[i]? = some s → (split (unitsOf ws) t).1.getD i 0 = s := by
    intro i s hs
    rw [hshares]
    exact getD_of_some hs
  have hpow : (0 : ℚ) < 10 ^ (maxScale ws 0).toNat := by positivity
  have hlt : ∀ {i : ℕ} {w : ExactDecimal}, ws[i]? = some w → i < (unitsOf ws).length := by
    intro i w hw
    rw [unitsOf, commonUnits, List.length_map]
    exact (List.getElem?_eq_some_iff.mp hw).1
  have hzero : ∀ {i : ℕ} {w : ExactDecimal}, ws[i]? = some w → w.value = 0 →
      (unitsOf ws).getD i 0 = 0 := by
    intro i w hw hval
    have h := unitsOf_getD hws hw
    rw [hval, zero_mul] at h
    exact_mod_cast h
  refine ⟨?_, ?_, ?_, ?_, ?_, ?_, ?_, ?_⟩
  · rw [← hshares, length_split]
    simp [unitsOf, commonUnits]
  · intro s hs
    obtain ⟨i, hi⟩ := List.mem_iff_getElem?.mp hs
    have hi' : i < (unitsOf ws).length := by
      rw [← length_split _ t, hshares]
      exact (List.getElem?_eq_some_iff.mp hi).1
    rw [← hget hi]
    refine share_nonneg hpos ht ?_
    rw [List.getD_eq_getElem _ _ hi']
    exact hU _ (List.getElem_mem hi')
  · rw [← hshares, sum_split hpos]
  · intro i w s hw hs
    have hquota : (t : ℚ) * w.value / (ws.map (·.value)).sum =
        ((t * (unitsOf ws).getD i 0 : ℤ) : ℚ) / ((unitsOf ws).sum : ℤ) := by
      rw [Int.cast_mul, unitsOf_getD hws hw, unitsOf_sum hws, ← mul_assoc,
        mul_div_mul_right _ _ hpow.ne']
    rw [hquota, ← hget hs]
    rcases share_cases (t := t) hpos i with h | ⟨hr, h⟩
    · exact .inl (h.trans (floor_div_int _ hpos).symm)
    · exact .inr (h.trans (ceil_div_int hpos hr).symm)
  · intro i w s hw hs hval
    rw [← hget hs]
    exact share_zero hpos (hzero hw hval)
  · intro i j v w r s hv hw hr hs hval
    rw [← hget hr, ← hget hs]
    refine share_mono hpos ht (hlt hv) ?_
    have h : (((unitsOf ws).getD j 0 : ℤ) : ℚ) < (unitsOf ws).getD i 0 := by
      rw [unitsOf_getD hws hv, unitsOf_getD hws hw]
      exact mul_lt_mul_of_pos_right hval hpow
    exact_mod_cast h
  · intro i j v w r s hij hv hw hr hs hval
    rw [← hget hr, ← hget hs]
    refine share_tie hpos hij.le (hlt hv) ?_
    have h : (((unitsOf ws).getD i 0 : ℤ) : ℚ) = (unitsOf ws).getD j 0 := by
      rw [unitsOf_getD hws hv, unitsOf_getD hws hw, hval]
    exact_mod_cast h
  · intro k ws' hk hall
    obtain ⟨c, d, hc, hd, hmap, hmul⟩ := unitsOf_proportional hws hk hall
    have hws' := weight_of_proportional hall
    have hsame : split (unitsOf ws') t = split (unitsOf ws) t := by
      rw [← split_mul (w := unitsOf ws') hc, hmap, split_mul hd]
    have hpos' : 0 < (unitsOf ws').sum :=
      (mul_pos_iff_of_pos_left hc).mp (hmul ▸ mul_pos hd hpos)
    exact largestRemainder_eq_ok.mpr ⟨ne_nil_of_proportional hok hall, ht, hws',
      (splitUnits_eq_ok (unitsOf_nonneg hws')).mpr (.inr ⟨hpos', hsame ▸ hshares⟩)⟩

/-- **The largest-remainder split**: what it accepts is split so, and its last refusal is never
    raised. -/
theorem largestRemainder_spec (ws : List ExactDecimal) (t : ℤ) :
    (∀ shares, largestRemainder ws t = .ok shares → LargestRemainderSplit ws t shares) ∧
      largestRemainder ws t ≠ .error residueExceeded :=
  ⟨fun _ hok => largestRemainder_split hok, largestRemainder_ne_residueExceeded ws t⟩

/-- 11 over 0.5, 0 and 0.50: the odd unit goes to the first of the equal weights. -/
theorem largestRemainder_spec_sample :
    LargestRemainderSplit [⟨5, 1⟩, ⟨0, 0⟩, ⟨50, 2⟩] 11 [6, 0, 5] :=
  (largestRemainder_spec _ _).1 _ (by decide +kernel)

end Daftar.Inventory
