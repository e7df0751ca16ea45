/-
  File: Daftar/Library/JsonTree.lean
  Subject: JSON values as trees: where their keys and their containers stand.

  * A tree is a scalar, an array or an object; what a scalar is stays open.
  * `KeyAt t d k`: an object `d` levels below the root has a member `k`. `ContainerAt t d`: an array
    or an object stands there.
  * `Rearranged`: the same tree up to the values of scalars and the order of elements and members.
    It moves no key and no container to another level.
-/

import Mathlib.Data.List.Basic

/-- A JSON value over scalars of a type, the members of an object in enumeration order. -/
inductive JsonTree (σ : Type)
  | scalar (value : σ)
  | array (elements : List (JsonTree σ))
  | object (members : List (String × JsonTree σ))

namespace JsonTree

variable {σ : Type}

/-! ## 1. Keys and containers by level -/

inductive KeyAt : JsonTree σ → ℕ → String → Prop
  | member {ms : List (String × JsonTree σ)} {m : String × JsonTree σ} (h : m ∈ ms) :
      KeyAt (.object ms) 0 m.1
  | inElement {es : List (JsonTree σ)} {e : JsonTree σ} {d : ℕ} {k : String} (h : e ∈ es)
      (below : KeyAt e d k) : KeyAt (.array es) (d + 1) k
  | inMember {ms : List (String × JsonTree σ)} {m : String × JsonTree σ} {d : ℕ} {k : String}
      (h : m ∈ ms) (below : KeyAt m.2 d k) : KeyAt (.object ms) (d + 1) k

inductive ContainerAt : JsonTree σ → ℕ → Prop
  | array {es : List (JsonTree σ)} : ContainerAt (.array es) 0
  | object {ms : List (String × JsonTree σ)} : ContainerAt (.object ms) 0
  | inElement {es : List (JsonTree σ)} {e : JsonTree σ} {d : ℕ} (h : e ∈ es)
      (below : ContainerAt e d) : ContainerAt (.array es) (d + 1)
  | inMember {ms : List (String × JsonTree σ)} {m : String × JsonTree σ} {d : ℕ} (h : m ∈ ms)
      (below : ContainerAt m.2 d) : ContainerAt (.object ms) (d + 1)

section Levels

variable {es : List (JsonTree σ)} {ms : List (String × JsonTree σ)} {v : σ} {d : ℕ} {k : String}

theorem not_keyAt_scalar : ¬ KeyAt (.scalar v) d k := nofun

theorem not_containerAt_scalar : ¬ ContainerAt (.scalar v) d := nofun

theorem not_keyAt_array_zero : ¬ KeyAt (.array es) 0 k := nofun

theorem keyAt_array_succ : KeyAt (.array es) (d + 1) k ↔ ∃ e ∈ es, KeyAt e d k := by
  constructor
  · intro h
    cases h with
    | inElement he hk => exact ⟨_, he, hk⟩
  · intro h
    obtain ⟨e, he, hk⟩ := h
    exact .inElement he hk

theorem keyAt_object_zero : KeyAt (.object ms) 0 k ↔ ∃ m ∈ ms, m.1 = k := by
  constructor
  · intro h
    cases h with
    | member hm => exact ⟨_, hm, rfl⟩
  · intro h
    obtain ⟨m, hm, rfl⟩ := h
    exact .member hm

theorem keyAt_object_succ : KeyAt (.object ms) (d + 1) k ↔ ∃ m ∈ ms, KeyAt m.2 d k := by
  constructor
  · intro h
    cases h with
    | inMember hm hk => exact ⟨_, hm, hk⟩
  · intro h
    obtain ⟨m, hm, hk⟩ := h
    exact .inMember hm hk

theorem containerAt_array_succ : ContainerAt (.array es) (d + 1) ↔ ∃ e ∈ es, ContainerAt e d := by
  constructor
  · intro h
    cases h with
    | inElement he hc => exact ⟨_, he, hc⟩
  · intro h
    obtain ⟨e, he, hc⟩ := h
    exact .inElement he hc

theorem containerAt_object_succ :
    ContainerAt (.object ms) (d + 1) ↔ ∃ m ∈ ms, ContainerAt m.2 d := by
  constructor
  · intro h
    cases h with
    | inMember hm hc => exact ⟨_, hm, hc⟩
  · intro h
    obtain ⟨m, hm, hc⟩ := h
    exact .inMember hm hc

end Levels

/-! ## 2. Scalars and order -/

/-- Another value for a scalar, another order of elements or members, anywhere and any number of
    times. -/
inductive Rearranged : JsonTree σ → JsonTree σ → Prop
  | scalar (v w : σ) : Rearranged (.scalar v) (.scalar w)
  | elements {es fs : List (JsonTree σ)} (h : es.Perm fs) : Rearranged (.array es) (.array fs)
  | members {ms ns : List (String × JsonTree σ)} (h : ms.Perm ns) :
      Rearranged (.object ms) (.object ns)
  | inElement {e f : JsonTree σ} (before after : List (JsonTree σ)) (h : Rearranged e f) :
      Rearranged (.array (before ++ e :: after)) (.array (before ++ f :: after))
  | inMember {v w : JsonTree σ} (before after : List (String × JsonTree σ)) (key : String)
      (h : Rearranged v w) :
      Rearranged (.object (before ++ (key, v) :: after)) (.object (before ++ (key, w) :: after))
  | trans {t u w : JsonTree σ} (h : Rearranged t u) (h' : Rearranged u w) : Rearranged t w

/-- What one place of a list has, the list has wherever that place is. -/
theorem exists_mem_insert {α : Type} {P : α → Prop} {before after : List α} {x : α} :
    (∃ y ∈ before ++ x :: after, P y) ↔ P x ∨ ∃ y ∈ before ++ after, P y := by
  simp only [List.mem_append, List.mem_cons]
  constructor
  · intro h
    obtain ⟨y, hb | rfl | ha, hy⟩ := h
    · exact .inr ⟨y, .inl hb, hy⟩
    · exact .inl hy
    · exact .inr ⟨y, .inr ha, hy⟩
  · intro h
    rcases h with hx | ⟨y, hb | ha, hy⟩
    · exact ⟨x, .inr (.inl rfl), hx⟩
    · exact ⟨y, .inl hb, hy⟩
    · exact ⟨y, .inr (.inr ha), hy⟩

/-- **A rearrangement keeps every key at its level.** -/
theorem Rearranged.keyAt_iff {t u : JsonTree σ} (h : Rearranged t u) :
    ∀ {d : ℕ} {k : String}, KeyAt t d k ↔ KeyAt u d k := by
  induction h with
  | scalar v w => exact iff_of_false not_keyAt_scalar not_keyAt_scalar
  | elements h =>
      intro d k
      cases d with
      | zero => exact iff_of_false not_keyAt_array_zero not_keyAt_array_zero
      | succ d => simp only [keyAt_array_succ, h.mem_iff]
  | members h =>
      intro d k
      cases d with
      | zero => simp only [keyAt_object_zero, h.mem_iff]
      | succ d => simp only [keyAt_object_succ, h.mem_iff]
  | inElement before after _ ih =>
      intro d k
      cases d with
      | zero => exact iff_of_false not_keyAt_array_zero not_keyAt_array_zero
      | succ d => rw [keyAt_array_succ, keyAt_array_succ, exists_mem_insert, exists_mem_insert, ih]
  | inMember before after key _ ih =>
      intro d k
      cases d with
      | zero =>
          rw [keyAt_object_zero, keyAt_object_zero, exists_mem_insert, exists_mem_insert]
      | succ d =>
          rw [keyAt_object_succ, keyAt_object_succ, exists_mem_insert, exists_mem_insert, ih]
  | trans _ _ ih ih' => exact ih.trans ih'

/-- **A rearrangement keeps every container at its level.** -/
theorem Rearranged.containerAt_iff {t u : JsonTree σ} (h : Rearranged t u) :
    ∀ {d : ℕ}, ContainerAt t d ↔ ContainerAt u d := by
  induction h with
  | scalar v w => exact iff_of_false not_containerAt_scalar not_containerAt_scalar
  | elements h =>
      intro d
      cases d with
      | zero => exact iff_of_true .array .array
      | succ d => simp only [containerAt_array_succ, h.mem_iff]
  | members h =>
      intro d
      cases d with
      | zero => exact iff_of_true .object .object
      | succ d => simp only [containerAt_object_succ, h.mem_iff]
  | inElement before after _ ih =>
      intro d
      cases d with
      | zero => exact iff_of_true .array .array
      | succ d =>
          rw [containerAt_array_succ, containerAt_array_succ, exists_mem_insert, exists_mem_insert,
            ih]
  | inMember before after key _ ih =>
      intro d
      cases d with
      | zero => exact iff_of_true .object .object
      | succ d =>
          rw [containerAt_object_succ, containerAt_object_succ, exists_mem_insert,
            exists_mem_insert, ih]
  | trans _ _ ih ih' => exact ih.trans ih'

end JsonTree
