/-
  File: Daftar/Library/IntervalChains.lean
  Subject: Integer intervals that follow one another without a gap.

  * `Chained` is a list of intervals in which each begins where the one before it ends.
  * `Chained.separated`: in a chain of nonempty intervals, an earlier one ends before a later one
    begins.
  * `inOrder_eq`: sorted by their beginnings, the intervals of a chain are that chain.
  * `gaps` are the places where a sorted list leaves one; `gaps_eq_nil`: a chain has none.
  * `mem_of_length_eq_max`: numbers counted by their greatest are all there.
-/

import Mathlib.Data.List.Chain
import Mathlib.Data.List.Pairwise
import Mathlib.Data.List.Sort
import Mathlib.Order.Interval.Finset.Nat
import Mathlib.Data.Int.Interval

namespace IntervalChains

variable {α : Type*} (lo hi : α → ℤ)

/-! ## 1. Chains -/

/-- The second interval begins right after the first. -/
def Adjacent (p q : α) : Prop := lo q = hi p + 1

def Chained (c : List α) : Prop := c.IsChain (Adjacent lo hi)

/-- The intervals by their beginnings. -/
def inOrder (l : List α) : List α := l.insertionSort fun p q => lo p ≤ lo q

/-- Neighbours between which a day is missing, or one is in both. -/
def gaps (l : List α) : List (α × α) :=
  ((inOrder lo l).zip (inOrder lo l).tail).filter fun pq => lo pq.2 ≠ hi pq.1 + 1

variable {lo hi} {c l : List α} {p q : α}

theorem Chained.tail (h : Chained lo hi (p :: c)) : Chained lo hi c := List.IsChain.tail h

/-- **In a chain, an earlier interval ends before a later one begins.** -/
theorem Chained.separated : ∀ {c : List α}, Chained lo hi c → (∀ p ∈ c, lo p ≤ hi p) →
    c.Pairwise fun p q => hi p < lo q
  | [], _, _ => List.Pairwise.nil
  | [p], _, _ => List.pairwise_singleton _ p
  | p :: q :: c, h, hle => by
      have ih := Chained.separated h.tail fun r hr => hle r (List.mem_cons_of_mem p hr)
      have hpq : lo q = hi p + 1 := (List.isChain_cons_cons.mp h).1
      have hq := hle q (List.mem_cons_of_mem p List.mem_cons_self)
      refine List.Pairwise.cons ?_ ih
      intro r hr
      rcases List.mem_cons.mp hr with rfl | hr
      · omega
      · have hqr := List.rel_of_pairwise_cons ih hr
        omega

theorem Chained.lo_lt (h : Chained lo hi c) (hle : ∀ p ∈ c, lo p ≤ hi p) :
    c.Pairwise fun p q => lo p < lo q := by
  refine (List.Pairwise.and_mem.mp (h.separated hle)).imp ?_
  intro p q hpq
  have := hle p hpq.1
  have := hpq.2.2
  omega

/-- A chain grows at its end. -/
theorem Chained.append_singleton (h : Chained lo hi c) (hq : ∀ p ∈ c.getLast?, lo q = hi p + 1) :
    Chained lo hi (c ++ [q]) := by
  refine List.isChain_append.mpr ⟨h, List.isChain_singleton q, ?_⟩
  intro p hp r hr
  rw [List.head?_cons, Option.mem_some_iff] at hr
  rw [← hr]
  exact hq p hp

/-- A chain grows at its beginning. -/
theorem Chained.cons (h : Chained lo hi c) (hp : ∀ q ∈ c.head?, lo q = hi p + 1) :
    Chained lo hi (p :: c) := by
  cases c with
  | nil => exact List.isChain_singleton p
  | cons q c => exact List.isChain_cons_cons.mpr ⟨hp q rfl, h⟩

/-- A map that keeps the bounds of the intervals keeps their chains. -/
theorem Chained.map {f : α → α} (h : Chained lo hi c) (hlo : ∀ p, lo (f p) = lo p)
    (hhi : ∀ p, hi (f p) = hi p) : Chained lo hi (c.map f) := by
  unfold Chained at h ⊢
  rw [List.isChain_map]
  refine h.imp ?_
  intro p q hpq
  show lo (f q) = hi (f p) + 1
  rw [hlo, hhi]
  exact hpq

/-! ## 2. Order -/

theorem perm_inOrder (l : List α) : (inOrder lo l).Perm l := List.perm_insertionSort _ l

theorem pairwise_inOrder (l : List α) : (inOrder lo l).Pairwise fun p q => lo p ≤ lo q :=
  haveI : Std.Total fun p q : α => lo p ≤ lo q := ⟨fun p q => Int.le_total (lo p) (lo q)⟩
  haveI : IsTrans α fun p q => lo p ≤ lo q := ⟨fun _ _ _ => Int.le_trans⟩
  List.pairwise_insertionSort _ l

/-- **The intervals of a chain, sorted, are the chain.** -/
theorem inOrder_eq (h : Chained lo hi c) (hle : ∀ p ∈ c, lo p ≤ hi p) (hp : c.Perm l) :
    inOrder lo l = c := by
  have hlt := h.lo_lt hle
  refine List.Perm.eq_of_pairwise ?_ (pairwise_inOrder l) (hlt.imp fun hpq => Int.le_of_lt hpq)
    ((perm_inOrder l).trans hp.symm)
  intro p q hpl hqc hpq hqp
  have hpc : p ∈ c := hp.mem_iff.mpr ((perm_inOrder l).mem_iff.mp hpl)
  by_contra hne
  -- Two intervals of a chain begin on different days.
  have hsym : c.Pairwise fun p q => lo p ≠ lo q := hlt.imp fun hpq => Int.ne_of_lt hpq
  have : Std.Symm fun p q : α => lo p ≠ lo q := ⟨fun _ _ h => h.symm⟩
  exact hsym.forall hpc hqc hne (Int.le_antisymm hpq hqp)

theorem chained_zip : ∀ {c : List α}, Chained lo hi c → ∀ pq ∈ c.zip c.tail, lo pq.2 = hi pq.1 + 1
  | [], _, pq, hpq => by cases hpq
  | [p], _, pq, hpq => by cases hpq
  | p :: q :: c, h, pq, hpq => by
      obtain ⟨hadj, hrest⟩ := List.isChain_cons_cons.mp h
      rcases List.mem_cons.mp hpq with rfl | hpq
      · exact hadj
      · exact chained_zip hrest pq hpq

theorem gaps_eq_nil (h : Chained lo hi (inOrder lo l)) : gaps lo hi l = [] := by
  unfold gaps
  rw [List.filter_eq_nil_iff]
  intro pq hpq
  simpa using chained_zip h pq hpq

/-! ## 3. Numbers without a gap -/

/-- **As many different positive numbers as the greatest of them leave none out.** -/
theorem mem_of_length_eq_max {l : List ℤ} {m : ℤ} (hnodup : l.Nodup) (hpos : ∀ x ∈ l, 1 ≤ x)
    (hmax : ∀ x ∈ l, x ≤ m) (hlen : (l.length : ℤ) = m) {k : ℤ} (hk : 1 ≤ k) (hkm : k ≤ m) :
    k ∈ l := by
  have hsub : l.toFinset ⊆ Finset.Icc 1 m := by
    intro x hx
    rw [List.mem_toFinset] at hx
    exact Finset.mem_Icc.mpr ⟨hpos x hx, hmax x hx⟩
  have hcard : (Finset.Icc 1 m).card ≤ l.toFinset.card := by
    rw [Int.card_Icc, List.toFinset_card_of_nodup hnodup]
    omega
  have heq := Finset.eq_of_subset_of_card_le hsub hcard
  rw [← List.mem_toFinset, heq]
  exact Finset.mem_Icc.mpr ⟨hk, hkm⟩

end IntervalChains
