/-
  File: Daftar/Library/Runs.lean
  Subject: Labelled transition systems, their runs and their invariants.

  * `Run step s es t`: the labels `es` lead from `s` to `t`, one step each.
  * `Run.invariant` is the induction every safety statement needs once: what the start satisfies
    and every step keeps holds after any run.
  * `of_update`: what holds of every process of a state holds after one process has moved.
-/

import Mathlib.Data.List.Basic
import Mathlib.Logic.Function.Basic

namespace Runs

variable {σ ε : Type*}

/-- A finite run of a labelled transition system, one step for each label. -/
inductive Run (step : σ → ε → σ → Prop) : σ → List ε → σ → Prop
  | nil (s : σ) : Run step s [] s
  | cons {s t u : σ} {e : ε} {es : List ε} (h : step s e t) (hrun : Run step t es u) :
      Run step s (e :: es) u

namespace Run

variable {step : σ → ε → σ → Prop} {s t u : σ} {e : ε} {es fs : List ε}

@[simp] theorem nil_iff : Run step s [] t ↔ s = t := by
  constructor
  · rintro ⟨⟩
    rfl
  · rintro rfl
    exact .nil s

theorem cons_iff : Run step s (e :: es) u ↔ ∃ t, step s e t ∧ Run step t es u := by
  constructor
  · rintro ⟨⟩
    exact ⟨_, ‹_›, ‹_›⟩
  · rintro ⟨t, h, hrun⟩
    exact .cons h hrun

theorem append_iff : Run step s (es ++ fs) u ↔ ∃ t, Run step s es t ∧ Run step t fs u := by
  induction es generalizing s with
  | nil => simp
  | cons e es ih =>
    simp only [List.cons_append, cons_iff, ih]
    constructor
    · rintro ⟨t, h, v, h1, h2⟩
      exact ⟨v, ⟨t, h, h1⟩, h2⟩
    · rintro ⟨v, ⟨t, h, h1⟩, h2⟩
      exact ⟨t, h, v, h1, h2⟩

theorem single (h : step s e t) : Run step s [e] t := .cons h (.nil t)

theorem trans (h1 : Run step s es t) (h2 : Run step t fs u) : Run step s (es ++ fs) u :=
  append_iff.mpr ⟨t, h1, h2⟩

theorem mono {step' : σ → ε → σ → Prop} (h : ∀ s e t, step s e t → step' s e t)
    (hrun : Run step s es t) : Run step' s es t := by
  induction hrun with
  | nil s => exact .nil s
  | cons hstep _ ih => exact .cons (h _ _ _ hstep) ih

/-- **What every step keeps, every run keeps.** The label may be used by the step lemma. -/
theorem invariant {I : σ → Prop} (hstep : ∀ s e t, I s → step s e t → I t)
    (hrun : Run step s es t) (hs : I s) : I t := by
  induction hrun with
  | nil s => exact hs
  | cons h _ ih => exact ih (hstep _ _ _ hs h)

end Run

/-- Processes in numbered slots: after one slot is set, what held of every process and holds of the
    new one holds of all. -/
theorem of_update {α : Type*} {f : ℕ → Option α} {i : ℕ} {v : Option α} {P : α → Prop}
    (hf : ∀ j x, j ≠ i → f j = some x → P x) (hv : ∀ x, v = some x → P x) (j : ℕ) (x : α)
    (h : Function.update f i v j = some x) : P x := by
  by_cases hji : j = i
  · rw [hji, Function.update_self] at h
    exact hv x h
  · rw [Function.update_of_ne hji] at h
    exact hf j x hji h

end Runs
