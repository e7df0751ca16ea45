/-
  File: Daftar/Library/Grouping.lean
  Subject: One entry a key, in order of first appearance.

  * `heads` keeps the first element of every key; `members` are the elements of one key.
  * `group` inserts the elements one by one into an insertion-ordered map, merging an element into
    the entry its key already has. `group_eq`: it is the heads, each with its members merged in.
  * `sum_heads`: a sum over the keys of what the members of a key sum to is the sum over all.
  * `groups` pairs every key with its members (`mem_groups`). `sum_keys`: it does not matter whether
    the elements are summed at once or key by key, over any list of keys that has them all.
-/

import Mathlib.Algebra.BigOperators.Group.List.Basic
import Mathlib.Data.List.Nodup

namespace Grouping

variable {α κ : Type*} [DecidableEq κ] (key : α → κ)

/-! ## 1. Heads and members -/

/-- The first element of every key, in order of first appearance. -/
def heads : List α → List α
  | [] => []
  | x :: xs => x :: (heads xs).filter fun y => decide (key y ≠ key x)

/-- The elements of the key of `h`. -/
def members (xs : List α) (h : α) : List α := xs.filter fun y => decide (key y = key h)

variable {key}

theorem mem_of_mem_heads : ∀ {xs : List α} {h : α}, h ∈ heads key xs → h ∈ xs
  | x :: xs, h, hh => by
      rcases List.mem_cons.mp hh with rfl | hh
      · exact List.mem_cons_self
      · exact List.mem_cons_of_mem _ (mem_of_mem_heads (List.mem_of_mem_filter hh))

theorem nodup_heads_key : ∀ xs : List α, ((heads key xs).map key).Nodup
  | [] => List.nodup_nil
  | x :: xs => by
      have ih := nodup_heads_key xs
      rw [heads, List.map_cons, List.nodup_cons]
      refine ⟨?_, ih.sublist (List.Sublist.map key List.filter_sublist)⟩
      intro hm
      obtain ⟨y, hy, hk⟩ := List.mem_map.mp hm
      exact of_decide_eq_true (List.mem_filter.mp hy).2 hk

theorem length_heads_le : ∀ xs : List α, (heads key xs).length ≤ xs.length
  | [] => Nat.le_refl _
  | x :: xs => by
      rw [heads, List.length_cons, List.length_cons]
      exact Nat.succ_le_succ (Nat.le_trans (List.length_filter_le _ _) (length_heads_le xs))

/-- Every key has its head. -/
theorem exists_head : ∀ {xs : List α} {x : α}, x ∈ xs → ∃ h ∈ heads key xs, key h = key x
  | y :: ys, x, hx => by
      by_cases hk : key y = key x
      · exact ⟨y, List.mem_cons_self, hk⟩
      · rcases List.mem_cons.mp hx with rfl | hx
        · exact absurd rfl hk
        · obtain ⟨h, hh, he⟩ := exists_head hx
          refine ⟨h, List.mem_cons_of_mem _ (List.mem_filter.mpr ⟨hh, ?_⟩), he⟩
          rw [he]
          exact decide_eq_true (Ne.symm hk)

theorem members_cons_of_eq {x h : α} {xs : List α} (hk : key x = key h) :
    members key (x :: xs) h = x :: members key xs h := by
  unfold members
  rw [List.filter_cons_of_pos (by simp [hk])]

theorem members_cons_of_ne {x h : α} {xs : List α} (hk : key x ≠ key h) :
    members key (x :: xs) h = members key xs h := by
  unfold members
  rw [List.filter_cons_of_neg (by simp [hk])]

/-- The head of a key is the first of its members. -/
theorem members_head : ∀ {xs : List α} {h : α}, h ∈ heads key xs →
    members key xs h = h :: (members key xs h).tail
  | x :: xs, h, hh => by
      rcases List.mem_cons.mp hh with rfl | hh
      · rw [members_cons_of_eq rfl]
        rfl
      · obtain ⟨hm, hne⟩ := List.mem_filter.mp hh
        rw [members_cons_of_ne (Ne.symm (of_decide_eq_true hne))]
        exact members_head hm

section Mapped

variable {β : Type*} (f : β → α)

theorem heads_map : ∀ xs : List β, heads key (xs.map f) = (heads (key ∘ f) xs).map f
  | [] => rfl
  | x :: xs => by
      rw [List.map_cons, heads, heads, heads_map xs, List.filter_map, List.map_cons]
      rfl

theorem members_map (xs : List β) (h : β) :
    members key (xs.map f) (f h) = (members (key ∘ f) xs h).map f := by
  unfold members
  rw [List.filter_map]
  rfl

end Mapped

/-! ## 2. The map -/

variable (key) (merge : α → α → α)

/-- Merges `x` into the entry of its key, or adds an entry at the end. -/
def insert (x : α) : List α → List α
  | [] => [x]
  | g :: gs => if key g = key x then merge g x :: gs else g :: insert x gs

def group (xs : List α) : List α := xs.foldl (fun gs x => insert key merge x gs) []

variable {key merge}

theorem insert_of_notMem : ∀ {gs : List α} {x : α}, (∀ g ∈ gs, key g ≠ key x) →
    insert key merge x gs = gs ++ [x]
  | [], _, _ => rfl
  | g :: gs, x, h => by
      rw [insert, if_neg (h g List.mem_cons_self), List.cons_append,
        insert_of_notMem fun g' hg' => h g' (List.mem_cons_of_mem _ hg')]

theorem insert_of_mem : ∀ {gs : List α} {x : α}, (gs.map key).Nodup → (∃ g ∈ gs, key g = key x) →
    insert key merge x gs = gs.map fun g => if key g = key x then merge g x else g
  | g :: gs, x, hn, hm => by
      rw [List.map_cons, List.nodup_cons] at hn
      rw [insert, List.map_cons]
      by_cases hk : key g = key x
      · rw [if_pos hk, if_pos hk]
        congr 1
        -- No other entry has the key.
        conv_lhs => rw [← List.map_id gs]
        apply List.map_congr_left
        intro g' hg'
        have hne : key g' ≠ key x := by
          intro he
          exact hn.1 (List.mem_map.mpr ⟨g', hg', he.trans hk.symm⟩)
        rw [if_neg hne]
        rfl
      · rw [if_neg hk, if_neg hk]
        obtain ⟨g', hg', he⟩ := hm
        rcases List.mem_cons.mp hg' with rfl | hg'
        · exact absurd he hk
        · rw [insert_of_mem hn.2 ⟨g', hg', he⟩]

/-- What an entry becomes when the elements of its key are merged in, in order. -/
def absorb (key : α → κ) (merge : α → α → α) (xs : List α) (g : α) : α :=
  (members key xs g).foldl merge g

section Merging

variable (hkey : ∀ a b, key (merge a b) = key a)
include hkey

theorem absorb_cons_of_eq {x g : α} {xs : List α} (hk : key x = key g) :
    absorb key merge (x :: xs) g = absorb key merge xs (merge g x) := by
  unfold absorb
  rw [members_cons_of_eq hk, List.foldl_cons]
  congr 1
  unfold members
  rw [hkey]

/-- The map after more elements: its entries absorb theirs, and the new keys follow. -/
theorem foldl_insert : ∀ (xs acc : List α), (acc.map key).Nodup →
    xs.foldl (fun gs x => insert key merge x gs) acc =
      acc.map (absorb key merge xs) ++
        ((heads key xs).filter fun h => decide (key h ∉ acc.map key)).map fun h =>
          (members key xs h).tail.foldl merge h
  | [], acc, _ => by
      rw [List.foldl_nil, heads, List.filter_nil, List.map_nil, List.append_nil]
      conv_lhs => rw [← List.map_id acc]
      rfl
  | x :: xs, acc, hn => by
      rw [List.foldl_cons]
      by_cases hm : ∃ g ∈ acc, key g = key x
      · -- The key is known: only its entry changes.
        have hxm : key x ∈ acc.map key := by
          obtain ⟨g, hg, he⟩ := hm
          exact List.mem_map.mpr ⟨g, hg, he⟩
        have hkeys : (acc.map fun g => if key g = key x then merge g x else g).map key
            = acc.map key := by
          rw [List.map_map]
          apply List.map_congr_left
          intro g _
          show key (if key g = key x then merge g x else g) = key g
          split
          · exact hkey g x
          · rfl
        rw [insert_of_mem hn hm, foldl_insert xs _ (hkeys ▸ hn), hkeys, List.map_map, heads,
          List.filter_cons_of_neg (by simpa using hxm), List.filter_filter]
        congr 1
        · apply List.map_congr_left
          intro g _
          show absorb key merge xs (if key g = key x then merge g x else g) = _
          split
          · rename_i hk
            rw [absorb_cons_of_eq hkey hk.symm]
          · rename_i hk
            unfold absorb
            rw [members_cons_of_ne (Ne.symm hk)]
        · have hf : (heads key xs).filter (fun h => decide (key h ∉ acc.map key))
              = (heads key xs).filter
                (fun h => decide (key h ∉ acc.map key) && decide (key h ≠ key x)) := by
            apply List.filter_congr
            intro h _
            by_cases hh : key h ∈ acc.map key
            · simp [hh]
            · have hne : key h ≠ key x := fun he => hh (he ▸ hxm)
              simp [hne]
          rw [hf]
          apply List.map_congr_left
          intro h hh
          have hhx := (List.mem_filter.mp hh).2
          rw [Bool.and_eq_true] at hhx
          rw [members_cons_of_ne (Ne.symm (of_decide_eq_true hhx.2))]
      · -- A new key: its entry is the element.
        have hnm : ∀ g ∈ acc, key g ≠ key x := fun g hg he => hm ⟨g, hg, he⟩
        have hxm : key x ∉ acc.map key := by
          intro h
          obtain ⟨g, hg, he⟩ := List.mem_map.mp h
          exact hnm g hg he
        have hn' : ((acc ++ [x]).map key).Nodup := by
          rw [List.map_append, List.nodup_append]
          refine ⟨hn, List.nodup_singleton _, ?_⟩
          intro a ha b hb he
          exact hxm (by rwa [← List.mem_singleton.mp hb, ← he])
        rw [insert_of_notMem hnm, foldl_insert xs _ hn', heads,
          List.filter_cons_of_pos (by simpa using hxm), List.filter_filter, List.map_append,
          List.map_singleton, List.append_assoc, List.map_cons]
        congr 1
        · apply List.map_congr_left
          intro g hg
          unfold absorb
          rw [members_cons_of_ne (Ne.symm (hnm g hg))]
        · rw [List.singleton_append, members_cons_of_eq rfl, List.tail_cons]
          congr 1
          have hf : (heads key xs).filter (fun h => decide (key h ∉ (acc ++ [x]).map key))
              = (heads key xs).filter
                (fun h => decide (key h ∉ acc.map key) && decide (key h ≠ key x)) := by
            apply List.filter_congr
            intro h _
            simp only [List.map_append, List.map_singleton, List.mem_append, List.mem_singleton,
              not_or, Bool.decide_and]
          rw [hf]
          apply List.map_congr_left
          intro h hh
          have hhx := (List.mem_filter.mp hh).2
          rw [Bool.and_eq_true] at hhx
          rw [members_cons_of_ne (Ne.symm (of_decide_eq_true hhx.2))]

/-- **The map is the heads, each with the rest of its members merged in.** -/
theorem group_eq (xs : List α) :
    group key merge xs = (heads key xs).map fun h => (members key xs h).tail.foldl merge h := by
  unfold group
  rw [foldl_insert hkey xs [] List.nodup_nil, List.map_nil, List.nil_append]
  congr 1
  exact List.filter_eq_self.mpr (by simp)

end Merging

/-! ## 3. Sums -/

variable {M : Type*} [AddCommMonoid M]

/-- A weight that merging adds is, after merging, the sum over the merged. -/
theorem weight_foldl {w : α → M} (hw : ∀ a b, w (merge a b) = w a + w b) :
    ∀ (ys : List α) (g : α), w (ys.foldl merge g) = w g + (ys.map w).sum
  | [], g => by rw [List.foldl_nil, List.map_nil, List.sum_nil, add_zero]
  | y :: ys, g => by
      rw [List.foldl_cons, weight_foldl hw ys, hw, List.map_cons, List.sum_cons, add_assoc]

theorem weight_head {w : α → M} (hw : ∀ a b, w (merge a b) = w a + w b) {xs : List α} {h : α}
    (hh : h ∈ heads key xs) :
    w ((members key xs h).tail.foldl merge h) = ((members key xs h).map w).sum := by
  rw [weight_foldl hw, ← List.sum_cons, ← List.map_cons, ← members_head hh]

/-- What merging keeps of an entry stays. -/
theorem keep_foldl {β : Type*} {f : α → β} (hf : ∀ a b, f (merge a b) = f a) :
    ∀ (ys : List α) (g : α), f (ys.foldl merge g) = f g
  | [], _ => rfl
  | y :: ys, g => by rw [List.foldl_cons, keep_foldl hf ys, hf]

theorem sum_filter_add_not (w : α → M) (p : α → Bool) : ∀ xs : List α,
    ((xs.filter p).map w).sum + ((xs.filter fun x => !p x).map w).sum = (xs.map w).sum
  | [] => by simp
  | x :: xs => by
      have ih := sum_filter_add_not w p xs
      cases hp : p x with
      | true =>
          rw [List.filter_cons_of_pos hp, List.filter_cons_of_neg (by simp [hp]), List.map_cons,
            List.map_cons, List.sum_cons, List.sum_cons, add_assoc, ih]
      | false =>
          rw [List.filter_cons_of_neg (by simp [hp]), List.filter_cons_of_pos (by simp [hp]),
            List.map_cons, List.map_cons, List.sum_cons, List.sum_cons, add_left_comm, ih]

/-- What weighs nothing can be left out. -/
theorem sum_filter_of_zero {w : α → M} {p : α → Bool} {xs : List α}
    (h : ∀ x ∈ xs, p x = false → w x = 0) : ((xs.filter p).map w).sum = (xs.map w).sum := by
  have hrest : ((xs.filter fun x => !p x).map w).sum = 0 := by
    refine List.sum_eq_zero fun y hy => ?_
    obtain ⟨x, hx, rfl⟩ := List.mem_map.mp hy
    obtain ⟨hmem, hp⟩ := List.mem_filter.mp hx
    exact h x hmem (by rwa [Bool.not_eq_true'] at hp)
  rw [← sum_filter_add_not w p xs, hrest, add_zero]

variable (key) in
/-- Over the keys that satisfy `p`: the members sum to the elements. -/
theorem sum_heads_filter (w : α → M) : ∀ (xs : List α) (p : κ → Bool),
    (((heads key xs).filter fun h => p (key h)).map fun h => ((members key xs h).map w).sum).sum
      = ((xs.filter fun x => p (key x)).map w).sum
  | [], _ => rfl
  | x :: xs, p => by
      have ih := sum_heads_filter w xs fun k => p k && decide (k ≠ key x)
      have hrest : ((((heads key xs).filter fun y => decide (key y ≠ key x)).filter
            fun h => p (key h)).map fun h => ((members key (x :: xs) h).map w).sum).sum
          = ((xs.filter fun y => p (key y) && decide (key y ≠ key x)).map w).sum := by
        rw [← ih, List.filter_filter]
        congr 1
        apply List.map_congr_left
        intro h hh
        have hhx := (List.mem_filter.mp hh).2
        rw [Bool.and_eq_true] at hhx
        rw [members_cons_of_ne (Ne.symm (of_decide_eq_true hhx.2))]
      rw [heads]
      cases hp : p (key x) with
      | true =>
          rw [List.filter_cons_of_pos (p := fun y => p (key y)) hp,
            List.filter_cons_of_pos (p := fun y => p (key y)) hp, List.map_cons, List.map_cons,
            List.sum_cons, List.sum_cons, hrest, members_cons_of_eq rfl, List.map_cons,
            List.sum_cons, add_assoc]
          congr 1
          -- Split the rest by whether the key is that of the element.
          rw [← sum_filter_add_not w (fun y => decide (key y = key x))
            (xs.filter fun y => p (key y)), List.filter_filter, List.filter_filter]
          congr 3
          · unfold members
            apply List.filter_congr
            intro y _
            by_cases hy : key y = key x
            · simp [hy, hp]
            · simp [hy]
          · apply List.filter_congr
            intro y _
            rw [Bool.and_comm, decide_not]
      | false =>
          rw [List.filter_cons_of_neg (p := fun y => p (key y)) (by simp [hp]),
            List.filter_cons_of_neg (p := fun y => p (key y)) (by simp [hp]), hrest]
          congr 2
          apply List.filter_congr
          intro y _
          by_cases hy : key y = key x
          · simp [hy, hp]
          · simp [hy]

variable (key) in
/-- **A sum over the keys of their members' sums is the sum over all.** -/
theorem sum_heads (w : α → M) (xs : List α) :
    ((heads key xs).map fun h => ((members key xs h).map w).sum).sum = (xs.map w).sum := by
  have h := sum_heads_filter key w xs fun _ => true
  rwa [List.filter_eq_self.mpr (by simp), List.filter_eq_self.mpr (by simp)] at h

/-! ## 4. Groups -/

variable (key) in
/-- Every key with its elements. -/
def groups (xs : List α) : List (κ × List α) :=
  (heads key xs).map fun h => (key h, members key xs h)

theorem mem_groups {xs : List α} {g : κ × List α} : g ∈ groups key xs ↔
    (∃ x ∈ xs, key x = g.1) ∧ g.2 = xs.filter fun x => key x = g.1 := by
  unfold groups
  rw [List.mem_map]
  constructor
  · intro hg
    obtain ⟨h, hh, rfl⟩ := hg
    exact ⟨⟨h, mem_of_mem_heads hh, rfl⟩, rfl⟩
  · intro hg
    obtain ⟨⟨x, hx, hkey⟩, hrows⟩ := hg
    have hhead : ∃ h ∈ heads key xs, key h = key x := exists_head hx
    obtain ⟨h, hh, hk⟩ := hhead
    have hkey : key h = g.1 := hk.trans hkey
    refine ⟨h, hh, Prod.ext hkey ?_⟩
    rw [hrows, ← hkey]
    rfl

theorem nodup_groups_key (xs : List α) : ((groups key xs).map Prod.fst).Nodup := by
  unfold groups
  rw [List.map_map]
  exact nodup_heads_key xs

theorem groups_map {β : Type*} (f : β → α) (xs : List β) :
    groups key (xs.map f) = (groups (key ∘ f) xs).map fun g => (g.1, g.2.map f) := by
  unfold groups
  rw [heads_map, List.map_map, List.map_map]
  apply List.map_congr_left
  intro h _
  rw [Function.comp_apply, members_map]
  rfl

variable (key) in
/-- What the groups of some keys sum to is the sum over the elements of these keys. -/
theorem sum_groups_filter (w : α → M) (xs : List α) (p : κ → Bool) :
    (((groups key xs).filter fun g => p g.1).map fun g => (g.2.map w).sum).sum =
      ((xs.filter fun x => p (key x)).map w).sum := by
  unfold groups
  rw [List.filter_map, List.map_map]
  exact sum_heads_filter key w xs p

variable (key) in
theorem sum_groups (w : α → M) (xs : List α) :
    ((groups key xs).map fun g => (g.2.map w).sum).sum = (xs.map w).sum := by
  unfold groups
  rw [List.map_map]
  exact sum_heads key w xs

/-- **Elements are summed key by key**, also over keys that no element has. -/
theorem sum_keys (w : α → M) {ks : List κ} (hks : ks.Nodup) {xs : List α}
    (hall : ∀ x ∈ xs, key x ∈ ks) :
    (ks.map fun k => ((xs.filter fun x => decide (key x = k)).map w).sum).sum = (xs.map w).sum := by
  induction ks generalizing xs with
  | nil =>
      have hempty : xs = [] := List.eq_nil_iff_forall_not_mem.mpr fun x hx => by
        exact absurd (hall x hx) List.not_mem_nil
      rw [hempty]
      rfl
  | cons k ks ih =>
      obtain ⟨hk, hks⟩ := List.nodup_cons.mp hks
      have hrest : ∀ x ∈ xs.filter fun x => !decide (key x = k), key x ∈ ks := by
        intro x hx
        obtain ⟨hmem, hne⟩ := List.mem_filter.mp hx
        rcases List.mem_cons.mp (hall x hmem) with heq | hin
        · simp [heq] at hne
        · exact hin
      rw [List.map_cons, List.sum_cons, ← sum_filter_add_not w (fun x => decide (key x = k)) xs,
        ← ih hks hrest]
      congr 2
      apply List.map_congr_left
      intro k' hk'
      -- The elements of another key are all in the rest.
      rw [List.filter_filter]
      congr 2
      apply List.filter_congr
      intro x _
      by_cases hx : key x = k'
      · have hne : key x ≠ k := fun h => hk (h ▸ hx ▸ hk')
        rw [decide_eq_true hx, decide_eq_false hne]
        rfl
      · rw [decide_eq_false hx]
        rfl

end Grouping
