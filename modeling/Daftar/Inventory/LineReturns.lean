/-
  File: Daftar/Inventory/LineReturns.lean
  Subject: The returns of one purchase line, however it is split.

  * `returnsOfLine` prices each return after the quantity of those before it.
  * `returnsOfLine_spec`: no carrying value is negative, those of a first part add up to its rounded
    share, and those of the whole line to its total.
-/

import Daftar.Inventory.SupplierReturn
import Daftar.Library.Tiling

namespace Daftar.Inventory

open Fallible
open Rounding
open Tiling

/-- The carrying values of the returns of a line, each at the quantity already returned. -/
def returnsOfLine (lineTotalTxnMinor purchasedQ4 : ℤ) (returns : List ℤ) : Result (List ℤ) :=
  (withBefore id 0 returns).mapM fun r => carryingTxn lineTotalTxnMinor purchasedQ4 r.2 r.1

theorem assertQ4_eq_ok {v min : ℤ} {what : String} {u : Unit} :
    assertQ4 v what min = .ok u ↔ min ≤ v ∧ v < QTY_LIMIT_Q4 := by
  simp [assertQ4]

/-- The quantities a return is accepted at. -/
def Returnable (t q x r : ℤ) : Prop :=
  IsMinor 0 t ∧ (1 ≤ q ∧ q < QTY_LIMIT_Q4) ∧ (0 ≤ x ∧ x < QTY_LIMIT_Q4) ∧
    (1 ≤ r ∧ r < QTY_LIMIT_Q4) ∧ x + r ≤ q

theorem carryingTxn_eq_ok {t q x r c : ℤ} :
    carryingTxn t q x r = .ok c ↔
      Returnable t q x r ∧ apShare t q (x + r) - apShare t q x = c := by
  simp only [carryingTxn, bind_eq_ok, assertMinor_eq_ok, assertQ4_eq_ok, refuseIf_eq_ok,
    exists_const, not_lt, gt_iff_lt, Returnable, and_assoc]
  refine and_congr_right fun _ => and_congr_right fun hq => ?_
  have hq' : 0 < q := hq
  simp only [roundHalfEven_pos hq', Except.ok.injEq, exists_eq_left', pure_eq_ok, apShare]

theorem returnsOfLine_eq_ok {t q : ℤ} {rs cs : List ℤ} :
    returnsOfLine t q rs = .ok cs ↔ (∀ p ∈ withBefore id 0 rs, Returnable t q p.2 p.1) ∧
      (withBefore id 0 rs).map (fun p => apShare t q (p.2 + p.1) - apShare t q p.2) = cs :=
  mapM_eq_ok_map fun _ _ => carryingTxn_eq_ok

/-- Positive returns within the line are each returnable. -/
theorem returnable_withBefore {t q : ℤ} {rs : List ℤ} (ht : IsMinor 0 t)
    (hq : 1 ≤ q ∧ q < QTY_LIMIT_Q4) (hrs : ∀ r ∈ rs, 1 ≤ r) {x : ℤ} (hx : 0 ≤ x)
    (hsum : x + rs.sum ≤ q) : ∀ p ∈ withBefore id x rs, Returnable t q p.2 p.1 := by
  induction rs generalizing x with
  | nil => exact nofun
  | cons r rs ih =>
    rw [List.forall_mem_cons] at hrs
    rw [List.sum_cons] at hsum
    have hrest : 0 ≤ rs.sum := List.sum_nonneg fun s hs => by have := hrs.2 s hs; omega
    have hr := hrs.1
    rw [withBefore, List.forall_mem_cons]
    refine ⟨⟨ht, hq, ⟨hx, by omega⟩, ⟨hr, by omega⟩, by omega⟩, ih hrs.2 ?_ ?_⟩
    · show 0 ≤ x + r
      omega
    · show x + r + rs.sum ≤ q
      omega

/-- What is returned stays within the line. -/
theorem sum_le_of_returnable {t q : ℤ} {rs : List ℤ} {x : ℤ} (hx : x ≤ q)
    (h : ∀ p ∈ withBefore id x rs, Returnable t q p.2 p.1) : x + rs.sum ≤ q := by
  induction rs generalizing x with
  | nil => simpa using hx
  | cons r rs ih =>
    rw [withBefore, List.forall_mem_cons] at h
    have hr : x + r ≤ q := h.1.2.2.2.2
    rw [List.sum_cons, ← add_assoc]
    exact ih hr h.2

/-- **The first carrying values add up** to the rounded share of what they return. -/
theorem sum_take_carrying (t q : ℤ) (rs : List ℤ) (k : ℕ) :
    (((withBefore id 0 rs).map fun p => apShare t q (p.2 + p.1) - apShare t q p.2).take k).sum =
      apShare t q (rs.take k).sum := by
  have htiles : Tiles Prod.snd (fun p => id p.1) 0 (withBefore id 0 (rs.take k)) :=
    tiles_withBefore 0 (rs.take k)
  have hlen : (withBefore id 0 (rs.take k)).map (fun p => id p.1) = rs.take k :=
    map_fst_withBefore 0 (rs.take k)
  have hsum := htiles.sum_release (apShare t q)
    (fun p => apShare t q (p.2 + p.1) - apShare t q p.2) fun _ _ => rfl
  rw [← List.map_take, withBefore_take, hsum, hlen, zero_add, apShare_zero, sub_zero]

/-- **The returns of a line add up**, however it is split. -/
theorem returnsOfLine_spec (t q : ℤ) (rs : List ℤ) (ht : 0 ≤ t) (hq : 0 < q) :
    (∀ cs, returnsOfLine t q rs = .ok cs →
      (∀ c ∈ cs, 0 ≤ c) ∧
      (∀ k : ℕ, roundHalfEven (t * (rs.take k).sum) q = .ok (cs.take k).sum ∧
        (cs.take k).sum ≤ t) ∧
      (rs.sum = q → cs.sum = t)) ∧
    (t ≤ VALUE_LIMIT_MINOR → q < QTY_LIMIT_Q4 → (∀ r ∈ rs, 1 ≤ r) → rs.sum ≤ q →
      ∃ cs, returnsOfLine t q rs = .ok cs) := by
  constructor
  · intro cs h
    obtain ⟨hall, rfl⟩ := returnsOfLine_eq_ok.mp h
    have hsum := sum_take_carrying t q rs
    refine ⟨?_, fun k => ?_, fun hwhole => ?_⟩
    · intro c hc
      obtain ⟨p, hp, rfl⟩ := List.mem_map.mp hc
      have hr := (hall p hp).2.2.2.1.1
      exact sub_nonneg.mpr (apShare_mono ht hq (by omega))
    · rw [hsum k, roundHalfEven_pos hq]
      have hle : 0 + (rs.take k).sum ≤ q := by
        refine sum_le_of_returnable hq.le fun p hp => hall p ?_
        rw [← withBefore_take] at hp
        exact List.mem_of_mem_take hp
      rw [zero_add] at hle
      exact ⟨rfl, (apShare_mono ht hq hle).trans (apShare_total t hq).le⟩
    · have h := hsum rs.length
      rwa [List.take_length, hwhole, apShare_total t hq, List.take_of_length_le] at h
      exact (length_withBefore 0 rs).le.trans' (List.length_map _).le
  · intro htcap hqcap hrs hle
    exact ⟨_, returnsOfLine_eq_ok.mpr ⟨returnable_withBefore ⟨ht, htcap⟩ ⟨hq, hqcap⟩ hrs le_rfl
      (by omega), rfl⟩⟩

/-- A third at a time: 33, 34 and 33 of 100. -/
theorem returnsOfLine_spec_sample : ∃ cs, returnsOfLine 100 3 [1, 1, 1] = .ok cs ∧
    (∀ c ∈ cs, 0 ≤ c) ∧ roundHalfEven (100 * 2) 3 = .ok (cs.take 2).sum ∧ cs.sum = 100 := by
  obtain ⟨hlaws, haccepts⟩ := returnsOfLine_spec 100 3 [1, 1, 1] (by decide) (by decide)
  obtain ⟨cs, hcs⟩ := haccepts (by decide) (by decide) (by decide) (by decide)
  obtain ⟨hnonneg, hcut, hwhole⟩ := hlaws cs hcs
  exact ⟨cs, hcs, hnonneg, (hcut 2).1, hwhole rfl⟩

example : returnsOfLine 100 3 [1, 1, 1] = .ok [33, 34, 33] := by decide

end Daftar.Inventory
