/-
  File: Daftar/Library/Tables.lean
  Subject: Tables of rows under a unique key.

  * A `Table` holds its key constraint, so a lookup determines its row (`find?_eq_some`).
  * `insert` and `modify` are read back through lookups: `find?_insert`, `find?_modify`.
  * `fullJoin` pairs the rows of two tables under one key, and keeps those without a partner.
-/

import Mathlib.Data.List.Basic
import Mathlib.Data.List.Nodup

namespace Tables

variable {ρ κ : Type*} [DecidableEq κ] {key : ρ → κ}

/-- **A row is found by its key.** -/
theorem find?_key {rows : List ρ} (hkeys : (rows.map key).Nodup) {k : κ} {x : ρ} :
    rows.find? (fun y => key y = k) = some x ↔ x ∈ rows ∧ key x = k := by
  constructor
  · intro h
    exact ⟨List.mem_of_find?_eq_some h, by simpa using List.find?_some h⟩
  · intro h
    cases hf : rows.find? fun y => key y = k with
    | none => exact absurd (decide_eq_true h.2) (List.find?_eq_none.mp hf x h.1)
    | some y =>
        have hy : key y = k := by simpa using List.find?_some hf
        rw [List.inj_on_of_nodup_map hkeys (List.mem_of_find?_eq_some hf) h.1 (hy.trans h.2.symm)]

/-- One row has the key of a row. -/
theorem filter_key {rows : List ρ} (hkeys : (rows.map key).Nodup) {x : ρ} (hx : x ∈ rows) :
    rows.filter (fun y => key y = key x) = [x] := by
  induction rows with
  | nil => cases hx
  | cons y rows ih =>
      obtain ⟨hy, hrows⟩ := List.nodup_cons.mp hkeys
      rcases List.mem_cons.mp hx with rfl | hx
      · have hrest : rows.filter (fun y => key y = key x) = [] := by
          rw [List.filter_eq_nil_iff]
          intro z hz hk
          exact hy (List.mem_map.mpr ⟨z, hz, of_decide_eq_true hk⟩)
        rw [List.filter_cons, if_pos (decide_eq_true rfl), hrest]
      · have hne : key y ≠ key x := fun h => hy (h ▸ List.mem_map_of_mem hx)
        rw [List.filter_cons_of_neg (by rw [decide_eq_true_eq]; exact hne), ih hrows hx]

structure Table (key : ρ → κ) where
  rows : List ρ
  keys : (rows.map key).Nodup

namespace Table

def empty : Table key := ⟨[], List.nodup_nil⟩

def find? (t : Table key) (k : κ) : Option ρ := t.rows.find? fun r => key r = k

/-- The table with one more row, if its key is free. -/
def insert (t : Table key) (r : ρ) : Table key :=
  if h : key r ∉ t.rows.map key then ⟨r :: t.rows, List.nodup_cons.mpr ⟨h, t.keys⟩⟩ else t

omit [DecidableEq κ] in
theorem keys_map {rows : List ρ} {g : ρ → ρ} (hg : ∀ r, key (g r) = key r) :
    (rows.map g).map key = rows.map key := by
  rw [List.map_map]
  exact List.map_congr_left fun r _ => hg r

omit [DecidableEq κ] in
theorem key_ite {f : ρ → ρ} (hf : ∀ r, key (f r) = key r) (p : ρ → Prop) [DecidablePred p] (r : ρ) :
    key (if p r then f r else r) = key r := by
  split
  · exact hf r
  · rfl

/-- The table with one row changed, but for its key. -/
def modify (t : Table key) (k : κ) (f : ρ → ρ) (hf : ∀ r, key (f r) = key r) : Table key where
  rows := t.rows.map fun r => if key r = k then f r else r
  keys := by
    rw [keys_map (key_ite hf _)]
    exact t.keys

/-- The table with the rows under some keys changed, but for these keys. -/
def modifyAll (t : Table key) (ks : List κ) (f : ρ → ρ) (hf : ∀ r, key (f r) = key r) : Table key where
  rows := t.rows.map fun r => if key r ∈ ks then f r else r
  keys := by
    rw [keys_map (key_ite hf _)]
    exact t.keys

/-- The table without the row of a key. -/
def delete (t : Table key) (k : κ) : Table key where
  rows := t.rows.filter fun r => key r ≠ k
  keys := (t.keys.sublist ((List.filter_sublist ..).map key))

variable {t : Table key} {k j : κ} {r : ρ} {f : ρ → ρ}

theorem find?_eq_some : t.find? k = some r ↔ r ∈ t.rows ∧ key r = k := find?_key t.keys

theorem key_of_find? (h : t.find? k = some r) : key r = k := (find?_eq_some.mp h).2

theorem find?_of_mem (h : r ∈ t.rows) : t.find? (key r) = some r := find?_eq_some.mpr ⟨h, rfl⟩

theorem find?_eq_none : t.find? k = none ↔ k ∉ t.rows.map key := by
  unfold find?
  rw [List.find?_eq_none]
  simp

theorem find?_insert (h : t.find? (key r) = none) :
    (t.insert r).find? k = if key r = k then some r else t.find? k := by
  unfold insert
  rw [dif_pos (find?_eq_none.mp h)]
  by_cases hk : key r = k
  · rw [if_pos hk]
    exact List.find?_cons_of_pos (decide_eq_true hk)
  · rw [if_neg hk]
    exact List.find?_cons_of_neg (mt of_decide_eq_true hk)

theorem find?_insert_of_ne (hk : key r ≠ k) : (t.insert r).find? k = t.find? k := by
  unfold insert
  split
  · exact List.find?_cons_of_neg (mt of_decide_eq_true hk)
  · rfl

theorem mem_insert {s : ρ} (h : s ∈ (t.insert r).rows) : s = r ∨ s ∈ t.rows := by
  unfold insert at h
  split at h
  · exact List.mem_cons.mp h
  · exact .inr h

theorem mem_insert_of_mem {s : ρ} (h : s ∈ t.rows) : s ∈ (t.insert r).rows := by
  unfold insert
  split
  · exact List.mem_cons_of_mem r h
  · exact h

theorem mem_insert_self (h : t.find? (key r) = none) : r ∈ (t.insert r).rows := by
  unfold insert
  rw [dif_pos (find?_eq_none.mp h)]
  exact List.mem_cons_self

theorem mem_delete {s : ρ} : s ∈ (t.delete k).rows ↔ s ∈ t.rows ∧ key s ≠ k := by
  unfold delete
  rw [List.mem_filter, decide_eq_true_eq]

theorem find?_delete_of_ne (h : j ≠ k) : (t.delete k).find? j = t.find? j := by
  cases hj : t.find? j with
  | none =>
      rw [find?_eq_none] at hj ⊢
      intro hm
      obtain ⟨r, hr, rfl⟩ := List.mem_map.mp hm
      exact hj (List.mem_map_of_mem (mem_delete.mp hr).1)
  | some r =>
      obtain ⟨hr, rfl⟩ := find?_eq_some.mp hj
      exact find?_of_mem (mem_delete.mpr ⟨hr, h⟩)

theorem find?_delete_self : (t.delete k).find? k = none := by
  rw [find?_eq_none]
  intro hm
  obtain ⟨r, hr, hk⟩ := List.mem_map.mp hm
  exact (mem_delete.mp hr).2 hk

/-- An insert leaves the rows there are. -/
theorem find?_insert_of_some (h : t.find? k = some r) {s : ρ} : (t.insert s).find? k = some r := by
  by_cases hk : key s = k
  · have hused : key s ∈ t.rows.map key := by
      obtain ⟨hr, rfl⟩ := find?_eq_some.mp h
      rw [hk]
      exact List.mem_map_of_mem hr
    unfold insert
    rw [dif_neg (not_not.mpr hused)]
    exact h
  · rw [find?_insert_of_ne hk]
    exact h

theorem find?_map {rows : List ρ} {g : ρ → ρ} (hg : ∀ r, key (g r) = key r) :
    (rows.map g).find? (fun r => key r = k) = (rows.find? fun r => key r = k).map g := by
  rw [List.find?_map]
  congr 2
  funext r
  exact congrArg (fun c => decide (c = k)) (hg r)

theorem find?_modify (hf : ∀ r, key (f r) = key r) :
    (t.modify k f hf).find? j = if j = k then (t.find? j).map f else t.find? j := by
  refine (find?_map (key_ite hf _)).trans ?_
  show (t.find? j).map _ = _
  cases hj : t.find? j with
  | none => exact (ite_self none).symm
  | some r => simp only [Option.map_some, key_of_find? hj, apply_ite some]

theorem find?_modifyAll (hf : ∀ r, key (f r) = key r) (ks : List κ) :
    (t.modifyAll ks f hf).find? j = if j ∈ ks then (t.find? j).map f else t.find? j := by
  refine (find?_map (key_ite hf _)).trans ?_
  show (t.find? j).map _ = _
  cases hj : t.find? j with
  | none => exact (ite_self none).symm
  | some r => simp only [Option.map_some, key_of_find? hj, apply_ite some]

theorem find?_modify_of_ne (hf : ∀ r, key (f r) = key r) (h : k ≠ j) :
    (t.modify k f hf).find? j = t.find? j := by
  rw [find?_modify, if_neg h.symm]

theorem of_find?_modify (hf : ∀ r, key (f r) = key r) (h : (t.modify k f hf).find? j = some r) :
    ∃ r₀, t.find? j = some r₀ := by
  rw [find?_modify] at h
  cases hj : t.find? j with
  | none =>
      rw [hj] at h
      split at h <;> cases h
  | some r₀ => exact ⟨r₀, rfl⟩

end Table

section Join

variable {α β : Type*} {kl : α → κ} {kr : β → κ}

/-- Every row on the left with its partners on the right, and the rows of either side that have
    none. -/
def fullJoin (kl : α → κ) (kr : β → κ) (left : List α) (right : List β) :
    List (Option α × Option β) :=
  (left.flatMap fun a =>
    match right.filter fun b => kr b = kl a with
    | [] => [(some a, none)]
    | bs => bs.map fun b => (some a, some b)) ++
  (right.filter fun b => kr b ∉ left.map kl).map fun b => (none, some b)

/-- **No row of a full join stands alone** where each has a partner, the right one under its key. -/
theorem fullJoin_eq {left : List α} {right : List β} {partner : α → β}
    (hkeys : (right.map kr).Nodup)
    (hpartner : ∀ a ∈ left, partner a ∈ right ∧ kr (partner a) = kl a)
    (hcover : ∀ b ∈ right, kr b ∈ left.map kl) :
    fullJoin kl kr left right = left.map fun a => (some a, some (partner a)) := by
  have hlone : right.filter (fun b => kr b ∉ left.map kl) = [] := by
    rw [List.filter_eq_nil_iff]
    intro b hb
    rw [decide_eq_true_eq, not_not]
    exact hcover b hb
  have hone : ∀ a ∈ left, (match right.filter fun b => kr b = kl a with
      | [] => [(some a, none)]
      | bs => bs.map fun b => (some a, some b)) = [(some a, some (partner a))] := by
    intro a ha
    obtain ⟨hmem, hkey⟩ := hpartner a ha
    rw [← hkey, filter_key hkeys hmem]
    rfl
  unfold fullJoin
  rw [hlone, List.map_nil, List.append_nil, List.flatMap_congr hone, List.map_eq_flatMap]

end Join

end Tables
