/-
  File: Daftar/Library/Histories.lean
  Subject: Histories of calls on one store, and the log of what the calls did.

  * A refused call leaves the store as it is (`after`).
  * `effects`: what the accepted calls of a history report to have done, in order.
  * `Driven`: a call applies what it reports to a part of the store. `Logged`: that part is a log,
    and `Logged.log_afterAll`: it holds exactly the effects of the history.
-/

import Daftar.Library.Fallible

namespace Histories

open Fallible

variable {σ κ ρ ω υ ε : Type}

/-! ## 1. Calls and what they leave -/

section Calls

variable (call : σ → κ → Except ε (σ × ρ))

/-- The store after a call: a refused call is rolled back. -/
def after (s : σ) (c : κ) : σ :=
  match call s c with
  | .ok (t, _) => t
  | .error _ => s

def afterAll (s : σ) (cs : List κ) : σ := cs.foldl (after call) s

/-- What a call reports to have done. -/
def effect (report : κ → ρ → Option ω) (s : σ) (c : κ) : List ω :=
  match call s c with
  | .ok (_, r) => (report c r).toList
  | .error _ => []

def effects (report : κ → ρ → Option ω) : σ → List κ → List ω
  | _, [] => []
  | s, c :: cs => effect call report s c ++ effects report (after call s c) cs

variable {call} {report : κ → ρ → Option ω} {s t : σ} {c : κ} {r : ρ}

theorem after_of_ok (h : call s c = .ok (t, r)) : after call s c = t := by
  unfold after
  rw [h]

theorem after_of_error {e : ε} (h : call s c = .error e) : after call s c = s := by
  unfold after
  rw [h]

theorem effect_of_ok (h : call s c = .ok (t, r)) :
    effect call report s c = (report c r).toList := by
  unfold effect
  rw [h]

theorem effect_of_error {e : ε} (h : call s c = .error e) : effect call report s c = [] := by
  unfold effect
  rw [h]

/-- **What every accepted call keeps, a history keeps.** -/
theorem afterAll_invariant {I : σ → Prop} {cs : List κ}
    (hcall : ∀ s, ∀ c ∈ cs, ∀ t r, I s → call s c = .ok (t, r) → I t) (hs : I s) :
    I (afterAll call s cs) := by
  induction cs generalizing s with
  | nil => exact hs
  | cons c cs ih =>
      refine ih (fun s d hd => hcall s d (List.mem_cons_of_mem _ hd)) ?_
      cases hc : call s c with
      | error e =>
          rw [after_of_error hc]
          exact hs
      | ok x =>
          obtain ⟨t, r⟩ := x
          rw [after_of_ok hc]
          exact hcall s c List.mem_cons_self t r hs hc

/-- What every accepted call reports under an invariant, every effect of a history has. -/
theorem effects_forall {I : σ → Prop} {P : ω → Prop} {cs : List κ}
    (hcall : ∀ s, ∀ c ∈ cs, ∀ t r, I s → call s c = .ok (t, r) → I t ∧ ∀ w, report c r = some w → P w)
    (hs : I s) : ∀ w ∈ effects call report s cs, P w := by
  induction cs generalizing s with
  | nil => exact fun w hw => absurd hw List.not_mem_nil
  | cons c cs ih =>
      have htail := fun s d (hd : d ∈ cs) => hcall s d (List.mem_cons_of_mem c hd)
      intro w hw
      rcases List.mem_append.mp hw with hw | hw
      · cases hc : call s c with
        | error e =>
            rw [effect_of_error hc] at hw
            exact absurd hw List.not_mem_nil
        | ok x =>
            obtain ⟨t, r⟩ := x
            rw [effect_of_ok hc] at hw
            exact (hcall s c List.mem_cons_self t r hs hc).2 w (Option.mem_toList.mp hw)
      · cases hc : call s c with
        | error e =>
            rw [after_of_error hc] at hw
            exact ih htail hs w hw
        | ok x =>
            obtain ⟨t, r⟩ := x
            rw [after_of_ok hc] at hw
            exact ih htail (hcall s c List.mem_cons_self t r hs hc).1 w hw

end Calls

/-! ## 2. Logs -/

section Logs

variable {call : σ → κ → Except ε (σ × ρ)} {report : κ → ρ → Option ω}

/-- Every accepted call applies what it reports to one part of the store. -/
def Driven (call : σ → κ → Except ε (σ × ρ)) (report : κ → ρ → Option ω) (part : σ → υ)
    (apply : υ → ω → Except ε υ) : Prop :=
  ∀ s c t r, call s c = .ok (t, r) → (report c r).toList.foldlM apply (part s) = .ok (part t)

/-- **The part is what the effects of the history make of it, in order.** -/
theorem Driven.part_afterAll {part : σ → υ} {apply : υ → ω → Except ε υ}
    (h : Driven call report part apply) (s : σ) (cs : List κ) :
    (effects call report s cs).foldlM apply (part s) = .ok (part (afterAll call s cs)) := by
  induction cs generalizing s with
  | nil => rfl
  | cons c cs ih =>
      have hstep : (effect call report s c).foldlM apply (part s) = .ok (part (after call s c)) := by
        cases hc : call s c with
        | error e =>
            rw [effect_of_error hc, after_of_error hc]
            rfl
        | ok x =>
            obtain ⟨t, r⟩ := x
            rw [effect_of_ok hc, after_of_ok hc]
            exact h s c t r hc
      rw [effects, List.foldlM_append, hstep]
      exact ih (after call s c)

/-- Every accepted call puts a row for what it reports at the head of the store's log. -/
def Logged (call : σ → κ → Except ε (σ × ρ)) (report : κ → ρ → Option ω) (log : σ → List υ)
    (row : ω → υ) : Prop :=
  ∀ s c t r, call s c = .ok (t, r) → log t = (report c r).toList.map row ++ log s

theorem Logged.driven {log : σ → List υ} {row : ω → υ} (h : Logged call report log row) :
    Driven call report log fun rows w => .ok (row w :: rows) := by
  intro s c t r hc
  rw [h s c t r hc]
  cases report c r <;> rfl

theorem foldlM_cons (row : ω → υ) (ws : List ω) (rows : List υ) :
    ws.foldlM (fun rows w => (.ok (row w :: rows) : Except ε (List υ))) rows =
      .ok ((ws.map row).reverse ++ rows) := by
  induction ws generalizing rows with
  | nil => rfl
  | cons w ws ih =>
      rw [List.foldlM_cons, ok_bind, ih, List.map_cons, List.reverse_cons, List.append_assoc]
      rfl

/-- **The log holds a row for each effect of the history, the latest first.** -/
theorem Logged.log_afterAll {log : σ → List υ} {row : ω → υ} (h : Logged call report log row)
    (s : σ) (cs : List κ) : log (afterAll call s cs) =
      ((effects call report s cs).map row).reverse ++ log s := by
  have hfold := h.driven.part_afterAll s cs
  rw [foldlM_cons] at hfold
  exact (Except.ok.inj hfold).symm

end Logs

end Histories
