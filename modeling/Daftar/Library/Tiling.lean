/-
  File: Daftar/Library/Tiling.lean
  Subject: Rows that consume a quantity one after the other, each from where the last one stopped.

  * `Tiles start len s rows`: the first row starts at `s`, and every other one at the end of the
    one before it.
  * Non-trivial tiles have distinct starts (`Tiles.pairwise_start_lt`), so two rows that start at
    one point are never both in a tiling (`Tiles.not_both`), and sorting recovers the tiling from
    any order its rows are kept in (`Tiles.mergeSort_eq_of_perm`).
  * A row that joins a tiling starts where it stopped (`Tiles.start_of_perm_cons`).
  * What rows release of a cumulative amount telescopes (`Tiles.sum_release`).
-/

import Mathlib.Algebra.BigOperators.Group.List.Basic
import Mathlib.Algebra.Order.Group.Defs
import Mathlib.Algebra.Order.BigOperators.Group.List
import Mathlib.Data.List.Pairwise
import Mathlib.Tactic.Abel

namespace Tiling

variable {ρ M : Type*} [AddCommGroup M] (start len : ρ → M)

/-- Each row starts where the one before it stopped, the first one at `s`. -/
def Tiles : M → List ρ → Prop
  | _, [] => True
  | s, r :: rs => start r = s ∧ Tiles (s + len r) rs

variable {start len}

@[simp] theorem tiles_nil (s : M) : Tiles start len s [] := trivial

@[simp] theorem tiles_cons {s : M} {r : ρ} {rs : List ρ} :
    Tiles start len s (r :: rs) ↔ start r = s ∧ Tiles start len (s + len r) rs := Iff.rfl

theorem tiles_append {s : M} {xs ys : List ρ} :
    Tiles start len s (xs ++ ys) ↔
      Tiles start len s xs ∧ Tiles start len (s + (xs.map len).sum) ys := by
  induction xs generalizing s with
  | nil => simp
  | cons x xs ih => simp [ih, and_assoc, add_assoc]

/-- **The releases of a cumulative amount telescope.** -/
theorem Tiles.sum_release {s : M} {rs : List ρ} (h : Tiles start len s rs) {N : Type*}
    [AddCommGroup N] (F : M → N) (released : ρ → N)
    (hrel : ∀ r ∈ rs, released r = F (start r + len r) - F (start r)) :
    (rs.map released).sum = F (s + (rs.map len).sum) - F s := by
  induction rs generalizing s with
  | nil => simp
  | cons r rs ih =>
    obtain ⟨hr, hrs⟩ := h
    have hhead := hrel r List.mem_cons_self
    have htail := ih hrs fun x hx => hrel x (List.mem_cons_of_mem _ hx)
    rw [List.map_cons, List.sum_cons, htail, hhead, hr, List.map_cons, List.sum_cons, add_assoc]
    abel

/-- Each row with the length of those before it. -/
def withBefore (len : ρ → M) : M → List ρ → List (ρ × M)
  | _, [] => []
  | s, r :: rs => (r, s) :: withBefore len (s + len r) rs

/-- **Rows tile when each starts at the length of those before it.** -/
theorem forall_withBefore {s : M} {rs : List ρ} :
    (∀ p ∈ withBefore len s rs, start p.1 = p.2) ↔ Tiles start len s rs := by
  induction rs generalizing s with
  | nil => simp [withBefore]
  | cons r rs ih =>
    rw [withBefore, List.forall_mem_cons, ih]
    rfl

theorem map_fst_withBefore (s : M) (rs : List ρ) : (withBefore len s rs).map Prod.fst = rs := by
  induction rs generalizing s with
  | nil => rfl
  | cons r rs ih => rw [withBefore, List.map_cons, ih]

theorem length_withBefore (s : M) (rs : List ρ) : (withBefore len s rs).length = rs.length := by
  rw [← List.length_map (f := Prod.fst), map_fst_withBefore]

theorem tiles_withBefore (s : M) (rs : List ρ) :
    Tiles Prod.snd (fun p => len p.1) s (withBefore len s rs) := by
  induction rs generalizing s with
  | nil => trivial
  | cons r rs ih => exact ⟨rfl, ih _⟩

theorem withBefore_take (s : M) (rs : List ρ) (k : ℕ) :
    (withBefore len s rs).take k = withBefore len s (rs.take k) := by
  induction rs generalizing s k with
  | nil => simp [withBefore]
  | cons r rs ih =>
    cases k with
    | zero => rfl
    | succ k => rw [withBefore, List.take_succ_cons, ih, List.take_succ_cons, withBefore]

theorem mem_iff_withBefore (len : ρ → M) (s : M) {rs : List ρ} {r : ρ} :
    r ∈ rs ↔ ∃ p ∈ withBefore len s rs, p.1 = r := by
  rw [← List.mem_map, map_fst_withBefore]

section Order

variable [LinearOrder M] [IsOrderedAddMonoid M]

/-- Rows of non-negative length start at or after the start of the tiling. -/
theorem Tiles.le_start {s : M} {rs : List ρ} (h : Tiles start len s rs)
    (hpos : ∀ r ∈ rs, 0 ≤ len r) : ∀ r ∈ rs, s ≤ start r := by
  induction rs generalizing s with
  | nil => simp
  | cons x xs ih =>
    intro r hr
    rcases List.mem_cons.mp hr with rfl | hr
    · exact h.1.ge
    · have hx := hpos x List.mem_cons_self
      have := ih h.2 (fun y hy => hpos y (List.mem_cons_of_mem _ hy)) r hr
      exact (le_add_of_nonneg_right hx).trans this

omit [IsOrderedAddMonoid M] in
/-- Rows of no length can be dropped. -/
theorem Tiles.filter_pos {s : M} {rs : List ρ} (h : Tiles start len s rs)
    (hpos : ∀ r ∈ rs, 0 ≤ len r) : Tiles start len s (rs.filter fun r => 0 < len r) := by
  induction rs generalizing s with
  | nil => trivial
  | cons x xs ih =>
    have htail := ih h.2 fun y hy => hpos y (List.mem_cons_of_mem _ hy)
    by_cases hx : 0 < len x
    · rw [List.filter_cons_of_pos (by simpa using hx)]
      exact ⟨h.1, htail⟩
    · have hz : len x = 0 := le_antisymm (not_lt.mp hx) (hpos x List.mem_cons_self)
      rw [List.filter_cons_of_neg (by simpa using hx)]
      rwa [hz, add_zero] at htail

omit [IsOrderedAddMonoid M] in
/-- Dropping rows whose length is not positive from rows of no negative length changes no sum of
    a quantity that such rows lack. -/
theorem sum_filter_pos {N : Type*} [AddCommMonoid N] (f : ρ → N) {rs : List ρ}
    (hzero : ∀ r ∈ rs, ¬ 0 < len r → f r = 0) :
    ((rs.filter fun r => 0 < len r).map f).sum = (rs.map f).sum := by
  induction rs with
  | nil => rfl
  | cons x xs ih =>
    have htail := ih fun y hy => hzero y (List.mem_cons_of_mem _ hy)
    by_cases hx : 0 < len x
    · rw [List.filter_cons_of_pos (by simpa using hx)]
      simp [htail]
    · rw [List.filter_cons_of_neg (by simpa using hx)]
      simp [htail, hzero x List.mem_cons_self hx]

/-- Rows of positive length start at different points, in order. -/
theorem Tiles.pairwise_start_lt {s : M} {rs : List ρ} (h : Tiles start len s rs)
    (hpos : ∀ r ∈ rs, 0 < len r) : rs.Pairwise (fun a b => start a < start b) := by
  induction rs generalizing s with
  | nil => exact List.Pairwise.nil
  | cons x xs ih =>
    have htail : ∀ r ∈ xs, 0 < len r := fun r hr => hpos r (List.mem_cons_of_mem _ hr)
    refine List.pairwise_cons.mpr ⟨fun b hb => ?_, ih h.2 htail⟩
    have hb' := h.2.le_start (fun r hr => (htail r hr).le) b hb
    have hx := hpos x List.mem_cons_self
    rw [h.1]
    exact (lt_add_of_pos_right s hx).trans_le hb'

/-- **Two rows that start at one point are never both in a tiling.** -/
theorem Tiles.not_both {s : M} {rs rest : List ρ} {r₁ r₂ : ρ} (h : Tiles start len s rs)
    (hpos : ∀ r ∈ rs, 0 < len r) (hperm : rs.Perm (r₁ :: r₂ :: rest)) :
    start r₁ ≠ start r₂ := by
  intro heq
  have hne : rs.Pairwise (fun a b => start a ≠ start b) :=
    (h.pairwise_start_lt hpos).imp fun hab => hab.ne
  have hne' := (hperm.pairwise_iff fun hab => Ne.symm hab).mp hne
  exact (List.pairwise_cons.mp hne').1 r₂ List.mem_cons_self heq

/-- **Sorting recovers a tiling** from any order its rows are kept in, by any order of rows that
    respects their starts. -/
theorem Tiles.mergeSort_eq_of_perm {s : M} {rs kept : List ρ} (h : Tiles start len s rs)
    (hpos : ∀ r ∈ rs, 0 < len r) (hperm : kept.Perm rs) {le : ρ → ρ → Bool}
    (htrans : ∀ a b c, le a b → le b c → le a c) (htotal : ∀ a b, le a b || le b a)
    (hle : ∀ a b, le a b → start a ≤ start b) : kept.mergeSort le = rs := by
  have hlt := h.pairwise_start_lt hpos
  have hsorted : (kept.mergeSort le).Pairwise (fun a b => start a ≤ start b) :=
    (List.pairwise_mergeSort htrans htotal kept).imp fun hab => hle _ _ hab
  have hperm' : (kept.mergeSort le).Perm rs := (List.mergeSort_perm kept le).trans hperm
  refine hperm'.eq_of_pairwise (fun a b ha hb hab hba => ?_) hsorted (hlt.imp le_of_lt)
  -- Equal starts within the tiling are one and the same row.
  by_contra hne
  have hsymm : Std.Symm (fun a b : ρ => start a ≠ start b) := ⟨fun _ _ hab => hab.symm⟩
  have hall := (hlt.imp fun hab => hab.ne : rs.Pairwise (fun a b => start a ≠ start b)).forall
  exact hall (hperm'.mem_iff.mp ha) hb hne (le_antisymm hab hba)

/-- Sorting by the start alone. -/
theorem Tiles.mergeSort_start_eq_of_perm {s : M} {rs kept : List ρ} (h : Tiles start len s rs)
    (hpos : ∀ r ∈ rs, 0 < len r) (hperm : kept.Perm rs) (le : ρ → ρ → Bool)
    (hle : ∀ a b, le a b = decide (start a ≤ start b)) : kept.mergeSort le = rs := by
  refine h.mergeSort_eq_of_perm hpos hperm (fun a b c hab hbc => ?_) (fun a b => ?_)
    (fun a b hab => ?_)
  · rw [hle, decide_eq_true_eq] at *
    exact hab.trans hbc
  · rw [hle, hle, Bool.or_eq_true, decide_eq_true_eq, decide_eq_true_eq]
    exact le_total _ _
  · rwa [hle, decide_eq_true_eq] at hab

/-- **A row that joins a tiling starts where the tiling stopped.** -/
theorem Tiles.start_of_perm_cons {s : M} {rs rs' : List ρ} {r : ρ} (h : Tiles start len s rs)
    (h' : Tiles start len s rs') (hpos : ∀ x ∈ rs', 0 < len x) (hperm : rs'.Perm (r :: rs)) :
    start r = s + (rs.map len).sum := by
  obtain ⟨pre, post, rfl⟩ := List.append_of_mem (hperm.mem_iff.mpr List.mem_cons_self)
  have hpos_rs : ∀ x ∈ rs, 0 < len x := fun x hx =>
    hpos x (hperm.mem_iff.mpr (List.mem_cons_of_mem _ hx))
  have hrest : (pre ++ post).Perm rs := (List.perm_middle.symm.trans hperm).cons_inv
  obtain ⟨hpre, hr, hpost⟩ := tiles_append.mp h'
  -- The rows but `r` are still ordered by their starts, so they are `rs` in its order.
  have hsub : (pre ++ post).Pairwise (fun a b => start a < start b) :=
    (h'.pairwise_start_lt hpos).sublist
      ((List.Sublist.refl pre).append (List.sublist_cons_self r post))
  have heq : pre ++ post = rs := by
    refine hrest.eq_of_pairwise (fun a b _ _ hab hba => ?_) hsub (h.pairwise_start_lt hpos_rs)
    exact absurd hba hab.not_gt
  subst heq
  cases post with
  | nil => rw [List.append_nil, hr]
  | cons x xs =>
      -- A row after `r` would start both where `r` starts and where `r` stops.
      have hx : start x = s + (pre.map len).sum := (tiles_append.mp h).2.1
      have hx' : start x = s + (pre.map len).sum + len r := hpost.1
      have hlen : len r = 0 := by
        rw [hx] at hx'
        exact left_eq_add.mp hx'
      have hr_pos := hpos r (List.mem_append_right _ List.mem_cons_self)
      exact absurd hlen hr_pos.ne'

/-! ## Rows kept in any order -/

/-- The rows tile in some order. -/
def Tileable (start len : ρ → M) (s : M) (rows : List ρ) : Prop :=
  ∃ rs, rs.Perm rows ∧ Tiles start len s rs

omit [LinearOrder M] [IsOrderedAddMonoid M] in
theorem Tiles.tileable {s : M} {rs : List ρ} (h : Tiles start len s rs) :
    Tileable start len s rs := ⟨rs, .refl rs, h⟩

omit [LinearOrder M] [IsOrderedAddMonoid M] in
theorem tileable_perm {s : M} {rows rows' : List ρ} (h : rows.Perm rows') :
    Tileable start len s rows ↔ Tileable start len s rows' := by
  constructor
  · intro ht
    obtain ⟨rs, hperm, htile⟩ := ht
    exact ⟨rs, hperm.trans h, htile⟩
  · intro ht
    obtain ⟨rs, hperm, htile⟩ := ht
    exact ⟨rs, hperm.trans h.symm, htile⟩

/-- Whether rows tile is decided in the order of their starts. -/
theorem tileable_iff_mergeSort {s : M} {rows : List ρ} (hpos : ∀ r ∈ rows, 0 < len r)
    {le : ρ → ρ → Bool} (htrans : ∀ a b c, le a b → le b c → le a c)
    (htotal : ∀ a b, le a b || le b a) (hle : ∀ a b, le a b → start a ≤ start b) :
    Tileable start len s rows ↔ Tiles start len s (rows.mergeSort le) := by
  constructor
  · intro h
    obtain ⟨rs, hperm, htile⟩ := h
    have hpos' : ∀ r ∈ rs, 0 < len r := fun r hr => hpos r (hperm.mem_iff.mp hr)
    rwa [htile.mergeSort_eq_of_perm hpos' hperm.symm htrans htotal hle]
  · intro h
    exact ⟨_, List.mergeSort_perm _ _, h⟩

namespace Tileable

variable {s : M} {rows : List ρ}

omit [LinearOrder M] [IsOrderedAddMonoid M] in
theorem sum_release (h : Tileable start len s rows) {N : Type*} [AddCommGroup N] (F : M → N)
    (released : ρ → N) (hrel : ∀ r ∈ rows, released r = F (start r + len r) - F (start r)) :
    (rows.map released).sum = F (s + (rows.map len).sum) - F s := by
  obtain ⟨rs, hperm, htile⟩ := h
  rw [← (hperm.map released).sum_eq, ← (hperm.map len).sum_eq]
  exact htile.sum_release F released fun r hr => hrel r (hperm.mem_iff.mp hr)

/-- Every row lies between the start of the tiling and its end. -/
theorem bounds (h : Tileable start len s rows) (hpos : ∀ r ∈ rows, 0 ≤ len r) {r : ρ}
    (hr : r ∈ rows) : s ≤ start r ∧ start r + len r ≤ s + (rows.map len).sum := by
  obtain ⟨rs, hperm, htile⟩ := h
  have hpos' : ∀ x ∈ rs, 0 ≤ len x := fun x hx => hpos x (hperm.mem_iff.mp hx)
  have hmem := hperm.mem_iff.mpr hr
  refine ⟨htile.le_start hpos' r hmem, ?_⟩
  obtain ⟨pre, post, rfl⟩ := List.append_of_mem hmem
  have hstart : start r = s + (pre.map len).sum := (tiles_append.mp htile).2.1
  have hpost : 0 ≤ (post.map len).sum := by
    refine List.sum_nonneg fun v hv => ?_
    obtain ⟨x, hx, rfl⟩ := List.mem_map.mp hv
    exact hpos' x (List.mem_append_right _ (List.mem_cons_of_mem _ hx))
  rw [hstart, ← (hperm.map len).sum_eq, List.map_append, List.sum_append, List.map_cons,
    List.sum_cons, ← add_assoc, ← add_assoc]
  exact le_add_of_nonneg_right hpost

/-- **A row joins rows that tile exactly when it starts where they stop.** -/
theorem cons_iff (h : Tileable start len s rows) (hpos : ∀ x ∈ rows, 0 < len x) {r : ρ}
    (hr : 0 < len r) :
    Tileable start len s (r :: rows) ↔ start r = s + (rows.map len).sum := by
  obtain ⟨rs, hperm, htile⟩ := h
  rw [← (hperm.map len).sum_eq]
  constructor
  · intro h'
    obtain ⟨rs', hperm', htile'⟩ := h'
    refine htile.start_of_perm_cons htile' (fun x hx => ?_) (hperm'.trans (hperm.symm.cons r))
    rcases List.mem_cons.mp (hperm'.mem_iff.mp hx) with rfl | hx
    · exact hr
    · exact hpos x hx
  · intro hstart
    refine ⟨rs ++ [r], ?_, tiles_append.mpr ⟨htile, hstart, trivial⟩⟩
    exact (List.perm_append_comm).trans (hperm.cons r)

end Tileable

end Order

end Tiling
