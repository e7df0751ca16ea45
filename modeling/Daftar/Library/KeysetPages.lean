/-
  File: Daftar/Library/KeysetPages.lean
  Subject: Rows read page by page, each page behind the key of the last row before it.

  * `ordered` is the sort by a key. Where no two rows have one key it is strict, and it does not
    matter whether rows are sorted or filtered first (`ordered_filter`).
  * `filter_append_filter_not` cuts an order in two; `filter_beyond_last`: a cut behind the last of
    the first rows leaves the rows that follow them.
  * `chunkScan` looks for the first rows of a kind a chunk at a time. `chunkScan_eq`: whatever the
    size of a chunk, it finds the first rows of this kind behind the cursor.
  * `Walk` follows the cursor each report gives. `Walk.rows_eq`: where every page is a front of what
    its cursor leaves, a walk reads it all, once and in order; `exists_walk`: there is one.
-/

import Mathlib.Data.List.Chain
import Mathlib.Data.List.Pairwise
import Mathlib.Data.List.Sort

namespace KeysetPages

/-! ## 1. Rows in the order of a key -/

section Order

variable {α κ : Type*} [LinearOrder κ] (key : α → κ)

/-- The rows by their keys. -/
def ordered (rows : List α) : List α := rows.insertionSort fun a b => key a ≤ key b

instance totalByKey : Std.Total fun a b : α => key a ≤ key b := ⟨fun a b => le_total (key a) (key b)⟩

instance transByKey : IsTrans α fun a b => key a ≤ key b := ⟨fun _ _ _ => le_trans⟩

/-- Every row stands before the rows of greater keys, and no two have one key. -/
def Strict (l : List α) : Prop := l.Pairwise fun a b => key a < key b

variable {key} {l rows : List α} {p : α → Bool}

theorem perm_ordered (rows : List α) : (ordered key rows).Perm rows := List.perm_insertionSort _ rows

theorem mem_ordered {a : α} : a ∈ ordered key rows ↔ a ∈ rows := (perm_ordered rows).mem_iff

theorem ordered_map {β : Type*} {f : β → α} {xs : List β} :
    ordered key (xs.map f) = (ordered (key ∘ f) xs).map f :=
  (List.map_insertionSort _ _ f xs fun _ _ _ _ => Iff.rfl).symm

theorem strict_ordered (h : (rows.map key).Nodup) : Strict key (ordered key rows) := by
  have hle : (ordered key rows).Pairwise fun a b => key a ≤ key b :=
    List.pairwise_insertionSort _ _
  have hne : (ordered key rows).Pairwise fun a b => key a ≠ key b :=
    List.pairwise_map.mp (((perm_ordered rows).map key).nodup_iff.mpr h)
  exact (hle.and hne).imp fun hab => lt_of_le_of_ne hab.1 hab.2

/-- Two strict orders of the same rows are one. -/
theorem Strict.eq_of_perm {m : List α} (hl : Strict key l) (hm : Strict key m) (h : l.Perm m) :
    l = m :=
  h.eq_of_pairwise (fun _ _ _ _ hab hba => absurd (hab.trans hba) (lt_irrefl _)) hl hm

/-- **The rows that are kept have the order they have among all rows.** -/
theorem ordered_filter (h : (rows.map key).Nodup) :
    ordered key (rows.filter p) = (ordered key rows).filter p := by
  have hsub : ((rows.filter p).map key).Nodup := h.sublist (List.filter_sublist.map key)
  exact (strict_ordered hsub).eq_of_perm ((strict_ordered h).filter p)
    ((perm_ordered _).trans ((perm_ordered rows).filter p).symm)

/-- **A condition that passes to smaller keys holds on a front of the rows.** -/
theorem filter_append_filter_not (h : Strict key l)
    (hp : ∀ a b, key a < key b → p b = true → p a = true) :
    l.filter p ++ l.filter (fun a => !p a) = l := by
  induction l with
  | nil => rfl
  | cons a l ih =>
      obtain ⟨ha, hl⟩ := List.pairwise_cons.mp h
      by_cases hpa : p a = true
      · rw [List.filter_cons_of_pos hpa, List.filter_cons_of_neg (by rw [hpa]; decide),
          List.cons_append, ih hl]
      · -- Behind a row it fails for, it fails for all.
        have hnone : ∀ b ∈ a :: l, ¬ p b = true := by
          intro b hb
          rcases List.mem_cons.mp hb with rfl | hb
          · exact hpa
          · exact fun hpb => hpa (hp a b (ha b hb) hpb)
        rw [List.filter_eq_nil_iff.mpr hnone, List.nil_append, List.filter_eq_self]
        intro b hb
        rw [Bool.eq_false_of_not_eq_true (hnone b hb)]
        rfl

/-- **What stands behind the last of the first rows is what follows them.** -/
theorem filter_beyond_last (h : Strict key l) {n : ℕ} {x : α} (hx : (l.take n).getLast? = some x) :
    l.filter (fun a => key x < key a) = l.drop n := by
  obtain ⟨front, hfront⟩ := List.getLast?_eq_some_iff.mp hx
  have hcut : l = (front ++ [x]) ++ l.drop n := by rw [← hfront, List.take_append_drop]
  have hstrict : Strict key ((front ++ [x]) ++ l.drop n) := hcut ▸ h
  obtain ⟨hpage, _, hcross⟩ := List.pairwise_append.mp hstrict
  have hbefore : (front ++ [x]).filter (fun a => key x < key a) = [] := by
    rw [List.filter_eq_nil_iff]
    intro a ha hlt
    rcases List.mem_append.mp ha with ha | ha
    · exact lt_asymm (of_decide_eq_true hlt)
        ((List.pairwise_append.mp hpage).2.2 a ha x (List.mem_singleton_self x))
    · rw [List.mem_singleton.mp ha] at hlt
      exact lt_irrefl _ (of_decide_eq_true hlt)
  have hafter : (l.drop n).filter (fun a => key x < key a) = l.drop n := by
    rw [List.filter_eq_self]
    intro a ha
    exact decide_eq_true (hcross x (List.mem_append_right _ (List.mem_singleton_self x)) a ha)
  conv_lhs => rw [hcut]
  rw [List.filter_append, hbefore, hafter, List.nil_append]

end Order

/-! ## 2. A page read with one row more -/

section LookAhead

variable {α : Type*} {l : List α} {n : ℕ}

theorem take_lookAhead (l : List α) (n : ℕ) : (l.take (n + 1)).take n = l.take n := by
  rw [List.take_take, min_eq_left (Nat.le_succ n)]

/-- The row more was there exactly when rows follow the page. -/
theorem lt_length_lookAhead : n < (l.take (n + 1)).length ↔ l.drop n ≠ [] := by
  rw [List.length_take, ne_eq, List.drop_eq_nil_iff]
  omega

/-- A page that rows follow has a last one, if it holds any. -/
theorem getLast?_take_of_lt (hn : 1 ≤ n) (h : l.drop n ≠ []) : ∃ x, (l.take n).getLast? = some x := by
  have hlen : n < l.length := by
    by_contra hle
    exact h (List.drop_eq_nil_of_le (not_lt.mp hle))
  have hne : l.take n ≠ [] := by
    intro hnil
    have := List.length_take (i := n) (l := l)
    rw [hnil, List.length_nil] at this
    omega
  exact ⟨_, List.getLast?_eq_some_getLast hne⟩

end LookAhead

/-! ## 3. Rows looked for in chunks -/

section Chunks

variable {α κ : Type*} [LinearOrder κ] (key : α → κ)

/-- The rows behind a cursor; without one, all of them. -/
def beyond : Option κ → α → Bool
  | none, _ => true
  | some c, a => c < key a

/-- A scan of ordered rows for the first that are kept, a chunk at a time. The cursor of a turn is
    the last row of the chunk before, kept or not. With its turns used up it has no result. -/
def chunkScan (rows : List α) (keep : α → Bool) (limit chunk : ℕ) :
    ℕ → Option κ → ℕ → Option (List α)
  | 0, _, _ => none
  | turns + 1, cursor, emitted =>
      let got := (rows.filter (beyond key cursor)).take chunk
      let added := (got.filter keep).take (limit - emitted)
      if got.length = 0 then some []
      else if limit ≤ emitted + added.length ∨ got.length < chunk then some added
      else
        (chunkScan rows keep limit chunk turns (got.getLast?.map key) (emitted + added.length)).map
          (added ++ ·)

variable {key} {rows : List α} {keep : α → Bool} {limit chunk : ℕ}

/-- What a chunk leaves is what stands behind its last row. -/
theorem filter_beyond_chunk (h : Strict key rows) (cursor : Option κ) {x : α}
    (hx : ((rows.filter (beyond key cursor)).take chunk).getLast? = some x) :
    rows.filter (beyond key (some (key x))) = (rows.filter (beyond key cursor)).drop chunk := by
  have hmem : x ∈ rows.filter (beyond key cursor) := List.mem_of_mem_take (List.mem_of_getLast? hx)
  have hbeyond := (List.mem_filter.mp hmem).2
  rw [← filter_beyond_last (h.filter _) hx, List.filter_filter]
  apply List.filter_congr
  intro a _
  cases cursor with
  | none => exact (Bool.and_true _).symm
  | some c =>
      simp only [beyond, decide_eq_true_eq] at hbeyond ⊢
      rw [Bool.eq_iff_iff, Bool.and_eq_true, decide_eq_true_eq, decide_eq_true_eq]
      exact ⟨fun hlt => ⟨hlt, hbeyond.trans hlt⟩, fun hlt => hlt.1⟩

/-- **A scan finds the first rows that are kept**, in more turns than there are rows. -/
theorem chunkScan_eq (h : Strict key rows) (hchunk : 1 ≤ chunk) {turns : ℕ} {cursor : Option κ}
    {emitted : ℕ} (hturns : (rows.filter (beyond key cursor)).length < turns) :
    chunkScan key rows keep limit chunk turns cursor emitted =
      some (((rows.filter (beyond key cursor)).filter keep).take (limit - emitted)) := by
  induction turns generalizing cursor emitted with
  | zero => cases hturns
  | succ turns ih =>
      have hcut := List.take_append_drop chunk (rows.filter (beyond key cursor))
      rw [chunkScan]
      generalize hgot : (rows.filter (beyond key cursor)).take chunk = got at hcut
      generalize hrest : (rows.filter (beyond key cursor)).drop chunk = rest at hcut
      have hfilter : ((rows.filter (beyond key cursor)).filter keep).take (limit - emitted) =
          (got.filter keep).take (limit - emitted) ++
            (rest.filter keep).take (limit - emitted - (got.filter keep).length) := by
        rw [← hcut, List.filter_append, List.take_append]
      have hlen := List.length_take (i := chunk) (l := rows.filter (beyond key cursor))
      have hdrop := List.length_drop (i := chunk) (l := rows.filter (beyond key cursor))
      rw [hgot] at hlen
      rw [hrest] at hdrop
      rw [hfilter]
      split
      · rename_i hnil
        rw [hnil] at hlen
        have hempty : rest = [] := List.length_eq_zero_iff.mp (by omega)
        rw [List.length_eq_zero_iff.mp hnil, hempty]
        simp
      · split
        · rename_i hne hdone
          -- The page is full, or no row is behind the chunk.
          rcases hdone with hfull | hshort
          · rw [List.length_take] at hfull
            have hnone : limit - emitted - (got.filter keep).length = 0 := by omega
            rw [hnone, List.take_zero, List.append_nil]
          · have hempty : rest = [] := List.length_eq_zero_iff.mp (by omega)
            rw [hempty, List.filter_nil, List.take_nil, List.append_nil]
        · rename_i hne hmore
          obtain ⟨hroom, hfull⟩ := not_or.mp hmore
          have hall : (got.filter keep).length ≤ limit - emitted := by
            rw [List.length_take] at hroom
            omega
          obtain ⟨x, hx⟩ : ∃ x, got.getLast? = some x := by
            cases hlast : got.getLast? with
            | none => exact absurd (List.length_eq_zero_iff.mpr (List.getLast?_eq_none_iff.mp hlast)) hne
            | some x => exact ⟨x, rfl⟩
          have hnext : rows.filter (beyond key (some (key x))) = rest := by
            rw [filter_beyond_chunk h cursor (hgot ▸ hx), hrest]
          rw [hx, Option.map_some, ih (by rw [hnext]; omega), hnext, Option.map_some,
            List.take_of_length_le hall, Nat.sub_add_eq]

end Chunks

/-! ## 4. Walks -/

section Walks

variable {γ ρ α : Type*}

/-- The reports one gets by asking again with the cursor of each, until one has none. -/
inductive Walk (step : Option γ → ρ → Prop) (next : ρ → Option γ) : Option γ → List ρ → Prop
  | last {c : Option γ} {r : ρ} (h : step c r) (hnext : next r = none) : Walk step next c [r]
  | more {c : Option γ} {c' : γ} {r : ρ} {rs : List ρ} (h : step c r) (hnext : next r = some c')
      (hrest : Walk step next (some c') rs) : Walk step next c (r :: rs)

/-- Every page is a front of the rows its cursor leaves. With a cursor of its own it has a row and
    leaves the others to that cursor; without one it has them all. -/
def Fronts (step : Option γ → ρ → Prop) (next : ρ → Option γ) (rows : ρ → List α)
    (Leaves : Option γ → List α → Prop) : Prop :=
  ∀ c l r, Leaves c l → step c r → ∃ rest, l = rows r ++ rest ∧ (next r = none → rest = []) ∧
    ∀ c', next r = some c' → rows r ≠ [] ∧ Leaves (some c') rest

variable {step : Option γ → ρ → Prop} {next : ρ → Option γ} {rows : ρ → List α}
  {Leaves : Option γ → List α → Prop} {c : Option γ} {rs : List ρ} {l : List α}

/-- **A walk reads all rows its first cursor leaves, each one once and in order.** -/
theorem Walk.rows_eq (hfront : Fronts step next rows Leaves) (h : Walk step next c rs)
    (hl : Leaves c l) : rs.flatMap rows = l := by
  induction h generalizing l with
  | last h hnext =>
      obtain ⟨rest, hcut, hnone, _⟩ := hfront _ _ _ hl h
      rw [hcut, hnone hnext, List.flatMap_singleton, List.append_nil]
  | more h hnext _ ih =>
      obtain ⟨rest, hcut, _, hsome⟩ := hfront _ _ _ hl h
      rw [List.flatMap_cons, ih (hsome _ hnext).2, hcut]

/-- **There is a walk**, for every page but the last one has a row. -/
theorem exists_walk (hfront : Fronts step next rows Leaves)
    (hstep : ∀ c l, Leaves c l → ∃ r, step c r) (hl : Leaves c l) : ∃ rs, Walk step next c rs := by
  induction hn : l.length using Nat.strong_induction_on generalizing c l with
  | _ n ih =>
      obtain ⟨r, hr⟩ := hstep c l hl
      obtain ⟨rest, hcut, _, hsome⟩ := hfront c l r hl hr
      cases hnext : next r with
      | none => exact ⟨[r], .last hr hnext⟩
      | some c' =>
          obtain ⟨hrow, hleaves⟩ := hsome c' hnext
          have hpos := List.length_pos_iff.mpr hrow
          have hlt : rest.length < n := by
            rw [← hn, hcut, List.length_append]
            omega
          obtain ⟨rs, hrs⟩ := ih rest.length hlt hleaves rfl
          exact ⟨r :: rs, .more hr hnext hrs⟩

/-- Where a cursor has one page, it has one walk. -/
theorem Walk.unique (hfun : ∀ c r r', step c r → step c r' → r = r') {rs' : List ρ}
    (h : Walk step next c rs) (h' : Walk step next c rs') : rs = rs' := by
  induction h generalizing rs' with
  | last h hnext =>
      cases h' with
      | last h₂ _ => rw [hfun _ _ _ h h₂]
      | more h₂ hnext₂ _ =>
          rw [hfun _ _ _ h h₂, hnext₂] at hnext
          cases hnext
  | more h hnext _ ih =>
      cases h' with
      | last h₂ hnext₂ =>
          rw [hfun _ _ _ h h₂, hnext₂] at hnext
          cases hnext
      | more h₂ hnext₂ hrest₂ =>
          obtain rfl := hfun _ _ _ h h₂
          rw [hnext] at hnext₂
          cases hnext₂
          rw [ih hrest₂]

/-- A walk begins with a page of its cursor. -/
theorem Walk.head (h : Walk step next c rs) : ∃ r rest, rs = r :: rest ∧ step c r := by
  cases h with
  | last h _ => exact ⟨_, _, rfl, h⟩
  | more h _ _ => exact ⟨_, _, rfl, h⟩

/-- **What holds between a page and the page of its cursor holds along a walk.** -/
theorem Walk.isChain {R : ρ → ρ → Prop} (hfront : Fronts step next rows Leaves)
    (hR : ∀ c l r c' r', Leaves c l → step c r → next r = some c' → step (some c') r' → R r r')
    (h : Walk step next c rs) (hl : Leaves c l) : rs.IsChain R := by
  induction h generalizing l with
  | last _ _ => exact List.isChain_singleton _
  | more h hnext hrest ih =>
      obtain ⟨rest, _, _, hsome⟩ := hfront _ _ _ hl h
      have htail := ih (hsome _ hnext).2
      obtain ⟨r', tail, rfl, hr'⟩ := hrest.head
      exact List.isChain_cons_cons.mpr ⟨hR _ _ _ _ _ hl h hnext hr', htail⟩

/-- **A walk ends with a page that has no cursor**, asked with one that leaves rows. -/
theorem Walk.getLast (hfront : Fronts step next rows Leaves) (h : Walk step next c rs)
    (hl : Leaves c l) :
    ∃ c' l' r, rs.getLast? = some r ∧ Leaves c' l' ∧ step c' r ∧ next r = none := by
  induction h generalizing l with
  | @last c r h hnext => exact ⟨c, l, r, rfl, hl, h, hnext⟩
  | more h hnext hrest ih =>
      obtain ⟨rest, _, _, hsome⟩ := hfront _ _ _ hl h
      obtain ⟨c', l', r, hlast, hr⟩ := ih (hsome _ hnext).2
      obtain ⟨r', tail, rfl, _⟩ := hrest.head
      exact ⟨c', l', r, by rw [List.getLast?_cons_cons, hlast], hr⟩

end Walks

end KeysetPages
