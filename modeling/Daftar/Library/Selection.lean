/-
  File: Daftar/Library/Selection.lean
  Subject: The part of a list that a list of marks selects.

  * `select` keeps the elements whose mark is true; what stands past the last mark goes.
  * A selection is taken apart at a join (`select_append`), group by group (`select_flatten`), and
    commutes with a map (`select_map`).
  * `forall₂_select_getElem`: under marks that begin alike, two related selections are related at
    each position marked in that beginning.
-/

import Mathlib.Data.List.Forall2

namespace Selection

variable {α β : Type}

/-- The elements whose mark is true. -/
def select (marks : List Bool) (xs : List α) : List α :=
  ((marks.zip xs).filter fun p => p.1).map fun p => p.2

@[simp] theorem select_nil (xs : List α) : select [] xs = [] := rfl

@[simp] theorem select_true (marks : List Bool) (x : α) (xs : List α) :
    select (true :: marks) (x :: xs) = x :: select marks xs := rfl

@[simp] theorem select_of_nil : ∀ marks : List Bool, select marks ([] : List α) = []
  | [] => rfl
  | _ :: _ => rfl

/-- Two stretches are selected apart. -/
theorem select_append {marks more : List Bool} {xs ys : List α} (h : marks.length = xs.length) :
    select (marks ++ more) (xs ++ ys) = select marks xs ++ select more ys := by
  unfold select
  rw [List.zip_append h, List.filter_append, List.map_append]

/-- What stands past the marks goes. -/
theorem select_append_right {marks : List Bool} {xs ys : List α} (h : marks.length = xs.length) :
    select marks (xs ++ ys) = select marks xs := by
  have happ := @select_append α marks [] xs ys h
  rwa [List.append_nil, select_nil, List.append_nil] at happ

theorem select_map (f : α → β) : ∀ (marks : List Bool) (xs : List α),
    select marks (xs.map f) = (select marks xs).map f
  | [], _ => rfl
  | _ :: _, [] => rfl
  | true :: marks, x :: xs => congrArg (f x :: ·) (select_map f marks xs)
  | false :: marks, _ :: xs => select_map f marks xs

/-- Where every mark is true, everything is selected. -/
theorem select_of_all : ∀ {marks : List Bool} {xs : List α}, (∀ m ∈ marks, m = true) →
    xs.length = marks.length → select marks xs = xs
  | _, [], _, _ => select_of_nil _
  | m :: marks, x :: xs, hall, hlen => by
      rw [List.forall_mem_cons] at hall
      rw [hall.1, select_true, select_of_all hall.2 (Nat.succ.inj hlen)]

/-- Groups of one length are selected one by one. -/
theorem select_flatten {marks : List Bool} : ∀ {groups : List (List α)},
    (∀ g ∈ groups, g.length = marks.length) →
      select (List.replicate groups.length marks).flatten groups.flatten =
        (groups.map (select marks)).flatten
  | [], _ => rfl
  | g :: groups, h => by
      rw [List.forall_mem_cons] at h
      rw [List.length_cons, List.replicate_succ, List.flatten_cons, List.flatten_cons,
        select_append h.1.symm, select_flatten h.2, List.map_cons, List.flatten_cons]

/-- **Related selections are related at each mark they share from the start.** -/
theorem forall₂_select_getElem {R : α → β → Prop} {more more' : List Bool} :
    ∀ {marks : List Bool} {xs : List α} {ys : List β} {k : ℕ} {x : α} {y : β},
      List.Forall₂ R (select (marks ++ more) xs) (select (marks ++ more') ys) →
        marks[k]? = some true → xs[k]? = some x → ys[k]? = some y → R x y
  | true :: _, a :: _, b :: _, 0, x, y, h, _, hx, hy => by
      obtain rfl : a = x := Option.some.inj hx
      obtain rfl : b = y := Option.some.inj hy
      exact (List.forall₂_cons.mp h).1
  | true :: _, _ :: _, _ :: _, k + 1, _, _, h, hk, hx, hy =>
      forall₂_select_getElem (List.forall₂_cons.mp h).2 hk hx hy
  | false :: marks, _ :: xs, _ :: ys, k + 1, _, _, h, hk, hx, hy => by
      have hrest : List.Forall₂ R (select (marks ++ more) xs) (select (marks ++ more') ys) := h
      exact forall₂_select_getElem (k := k) hrest hk hx hy

end Selection
