/-
  File: Daftar/Library/Fallible.lean
  Subject: Computations that may refuse: `Except ε` with a guard, and what an outcome says about
  the steps that led to it.

  * `refuseIf c e` is the guard `if (c) refuse(e)`; everything after it runs under `¬ c`.
  * `someOr o e` reads a value that may be missing.
  * An accepted sequence is read from the front: `bind_eq_ok`, `refuseIf_eq_ok`.
  * A final check that accepts what it is given leaves a computation as it is: `bind_check_eq_self`.
  * A refused sequence names the step that refused: `bind_eq_error`, `refuseIf_eq_error`;
    `RefusesOnly` says what all its refusals have in common.
-/

import Mathlib.Algebra.Group.Defs
import Mathlib.Data.List.Forall2
import Mathlib.Logic.Basic

namespace Fallible

variable {ε : Type*} {α β : Type}

/-- Refuses with `e` when `c` holds, and does nothing otherwise. -/
def refuseIf (c : Prop) [Decidable c] (e : ε) : Except ε Unit :=
  if c then .error e else .ok ()

/-- The value there is, or a refusal for none. -/
def someOr {α : Type} (o : Option α) (e : ε) : Except ε α :=
  match o with
  | some a => .ok a
  | none => .error e

/-! ## 1. Accepted computations -/

section Accepted

variable {c : Prop} [Decidable c] {e : ε}

@[simp] theorem refuseIf_eq_ok {u : Unit} : refuseIf c e = .ok u ↔ ¬ c := by
  unfold refuseIf
  split <;> simp_all

@[simp] theorem someOr_eq_ok {o : Option α} {a : α} : someOr o e = .ok a ↔ o = some a := by
  cases o <;> simp [someOr]

@[simp] theorem someOr_some {a : α} : someOr (some a) e = .ok a := rfl

theorem refuseIf_of (h : c) : refuseIf c e = .error e := if_pos h

theorem refuseIf_of_not (h : ¬ c) : refuseIf c e = .ok () := refuseIf_eq_ok.mpr h

theorem bind_eq_ok {x : Except ε α} {f : α → Except ε β} {b : β} :
    (x >>= f) = .ok b ↔ ∃ a, x = .ok a ∧ f a = .ok b := by
  rcases x with _ | a
  · exact ⟨nofun, nofun⟩
  · exact ⟨fun h => ⟨a, rfl, h⟩, fun ⟨_, ha, h⟩ => Except.ok.inj ha ▸ h⟩

theorem map_eq_ok {x : Except ε α} {f : α → β} {b : β} :
    (f <$> x) = .ok b ↔ ∃ a, x = .ok a ∧ f a = b := by
  rcases x with _ | a
  · exact ⟨nofun, nofun⟩
  · exact ⟨fun h => ⟨a, rfl, Except.ok.inj h⟩, fun ⟨_, ha, h⟩ => by rw [← h, ← Except.ok.inj ha]; rfl⟩

@[simp] theorem mapError_eq_ok {ε' : Type*} {f : ε → ε'} {x : Except ε α} {a : α} :
    x.mapError f = .ok a ↔ x = .ok a := by
  cases x <;> simp [Except.mapError]

@[simp] theorem ok_bind (a : α) (f : α → Except ε β) : ((.ok a : Except ε α) >>= f) = f a := rfl

@[simp] theorem pure_eq_ok (a b : α) : (pure a : Except ε α) = .ok b ↔ a = b := by
  simp [pure, Except.pure]

@[simp] theorem error_bind (e : ε) (f : α → Except ε β) :
    ((.error e : Except ε α) >>= f) = .error e := rfl

/-- **A check that accepts what a computation returned changes nothing**, when storing the checked
    part back is the identity. -/
theorem bind_check_eq_self {γ : Type} {x : Except ε α} {get : α → γ} {check : γ → Except ε γ}
    {set : α → γ → α} (hset : ∀ a, set a (get a) = a)
    (hcheck : ∀ a, x = .ok a → check (get a) = .ok (get a)) :
    (x >>= fun a => check (get a) >>= fun v => pure (set a v)) = x := by
  rcases x with e | a
  · rfl
  · rw [ok_bind, hcheck a rfl, ok_bind, hset]
    rfl

end Accepted

/-! ## 2. Loops -/

section Loops

/-- A loop over a list that may refuse at each element accepts exactly when every element does. -/
theorem mapM_eq_ok {f : α → Except ε β} {xs : List α} {ys : List β} :
    xs.mapM f = .ok ys ↔ List.Forall₂ (fun x y => f x = .ok y) xs ys := by
  induction xs generalizing ys with
  | nil =>
    rw [List.mapM_nil, pure_eq_ok, List.forall₂_nil_left_iff, eq_comm]
  | cons x xs ih =>
    rw [List.mapM_cons, bind_eq_ok]
    simp only [bind_eq_ok, pure_eq_ok, ih]
    constructor
    · rintro ⟨y, hy, zs, hzs, rfl⟩
      exact .cons hy hzs
    · rintro (_ | ⟨hy, hzs⟩)
      exact ⟨_, hy, _, hzs, rfl⟩

/-- A loop that adds up over elements it checks accepts when all are checked, with the sum. -/
theorem foldlM_sum_eq_ok {M : Type} [AddMonoid M] {f : M → α → Except ε M} {P : α → Prop}
    {g : α → M} (hf : ∀ s x r, f s x = .ok r ↔ P x ∧ s + g x = r) {xs : List α} {s r : M} :
    xs.foldlM f s = .ok r ↔ (∀ x ∈ xs, P x) ∧ s + (xs.map g).sum = r := by
  induction xs generalizing s with
  | nil => simp
  | cons x xs ih =>
    simp only [List.foldlM_cons, bind_eq_ok, hf, ih, List.forall_mem_cons, List.map_cons,
      List.sum_cons, ← add_assoc]
    constructor
    · intro h
      obtain ⟨_, ⟨hx, rfl⟩, hxs, rfl⟩ := h
      exact ⟨⟨hx, hxs⟩, rfl⟩
    · intro h
      obtain ⟨⟨hx, hxs⟩, rfl⟩ := h
      exact ⟨_, ⟨hx, rfl⟩, hxs, rfl⟩

/-- An accepted loop accepted each element. -/
theorem mapM_accepts {f : α → Except ε β} {xs : List α} {ys : List β} (h : xs.mapM f = .ok ys)
    {x : α} (hx : x ∈ xs) : ∃ y, f x = .ok y := by
  have hall := mapM_eq_ok.mp h
  clear h
  induction hall with
  | nil => cases hx
  | cons hxy _ ih =>
    rcases List.mem_cons.mp hx with rfl | hx
    · exact ⟨_, hxy⟩
    · exact ih hx

/-- Each value of an accepted loop is of an element, and each element has its value there. -/
theorem mapM_mem {f : α → Except ε β} {xs : List α} {ys : List β} (h : xs.mapM f = .ok ys)
    {x : α} (hx : x ∈ xs) {y : β} (hy : f x = .ok y) : y ∈ ys := by
  have hall := mapM_eq_ok.mp h
  clear h
  induction hall with
  | nil => cases hx
  | cons hxy _ ih =>
    rcases List.mem_cons.mp hx with rfl | hx
    · rw [hy] at hxy
      exact Except.ok.inj hxy ▸ List.mem_cons_self
    · exact List.mem_cons_of_mem _ (ih hx)

/-- A loop that asks a question of each element answers no throughout. -/
theorem mapM_count_true {f : α → Except ε Bool} {xs : List α} :
    (∃ ys, xs.mapM f = .ok ys ∧ ys.count true = 0) ↔ ∀ x ∈ xs, f x = .ok false := by
  induction xs with
  | nil => simp
  | cons x xs ih =>
    rw [List.forall_mem_cons, ← ih]
    simp only [List.mapM_cons, bind_eq_ok, pure_eq_ok]
    constructor
    · intro h
      obtain ⟨_, ⟨y, hy, ys, hys, rfl⟩, hcount⟩ := h
      cases y with
      | true => simp at hcount
      | false => exact ⟨hy, ys, hys, by simpa using hcount⟩
    · intro h
      obtain ⟨hx, ys, hys, hcount⟩ := h
      exact ⟨_, ⟨false, hx, ys, hys, rfl⟩, by simpa using hcount⟩

theorem forall₂_source {R : α → β → Prop} {xs : List α} {ys : List β} (h : List.Forall₂ R xs ys)
    {y : β} (hy : y ∈ ys) : ∃ x ∈ xs, R x y := by
  induction h with
  | nil => cases hy
  | cons hxy _ ih =>
    rcases List.mem_cons.mp hy with rfl | hy
    · exact ⟨_, List.mem_cons_self, hxy⟩
    · obtain ⟨x, hx, hfx⟩ := ih hy
      exact ⟨x, List.mem_cons_of_mem _ hx, hfx⟩

theorem forall₂_target {R : α → β → Prop} {xs : List α} {ys : List β} (h : List.Forall₂ R xs ys)
    {x : α} (hx : x ∈ xs) : ∃ y ∈ ys, R x y := by
  obtain ⟨y, hy, hxy⟩ := forall₂_source h.flip hx
  exact ⟨y, hy, hxy⟩

theorem mapM_source {f : α → Except ε β} {xs : List α} {ys : List β} (h : xs.mapM f = .ok ys)
    {y : β} (hy : y ∈ ys) : ∃ x ∈ xs, f x = .ok y := forall₂_source (mapM_eq_ok.mp h) hy

/-- A loop whose accepted values are known is a map. -/
theorem mapM_eq_map {f : α → Except ε β} {g : α → β} {xs : List α} {ys : List β}
    (h : xs.mapM f = .ok ys) (hfg : ∀ x y, f x = .ok y → y = g x) : ys = xs.map g := by
  have hall := mapM_eq_ok.mp h
  clear h
  induction hall with
  | nil => rfl
  | cons hxy _ ih => rw [List.map_cons, ← ih, hfg _ _ hxy]

/-- A loop whose steps have a known condition and value accepts where every condition holds, with
    the values in order. -/
theorem mapM_eq_ok_map {f : α → Except ε β} {P : α → Prop} {g : α → β}
    (hf : ∀ x y, f x = .ok y ↔ P x ∧ g x = y) {xs : List α} {ys : List β} :
    xs.mapM f = .ok ys ↔ (∀ x ∈ xs, P x) ∧ xs.map g = ys := by
  constructor
  · intro h
    refine ⟨fun x hx => ?_, (mapM_eq_map h fun x y hxy => ((hf x y).mp hxy).2.symm).symm⟩
    obtain ⟨y, hy⟩ := mapM_accepts h hx
    exact ((hf x y).mp hy).1
  · intro h
    obtain ⟨hall, rfl⟩ := h
    rw [mapM_eq_ok, List.forall₂_map_right_iff, List.forall₂_same]
    exact fun x hx => (hf x _).mpr ⟨hall x hx, rfl⟩

/-- Two accepted loops over one list are one loop over it. -/
theorem mapM_bind_eq_ok {γ : Type} {f : α → Except ε β} {g : β → Except ε γ} {xs : List α}
    {ys : List β} {zs : List γ} (hf : xs.mapM f = .ok ys) (hg : ys.mapM g = .ok zs) :
    (xs.mapM fun x => f x >>= g) = .ok zs := by
  have hall := mapM_eq_ok.mp hf
  clear hf
  induction hall generalizing zs with
  | nil => exact hg
  | cons hxy _ ih =>
      rw [List.mapM_cons, bind_eq_ok] at hg ⊢
      obtain ⟨z, hz, hrest⟩ := hg
      obtain ⟨zs', hzs', hzs⟩ := bind_eq_ok.mp hrest
      exact ⟨z, bind_eq_ok.mpr ⟨_, hxy, hz⟩, bind_eq_ok.mpr ⟨zs', ih hzs', hzs⟩⟩

/-- What is matched one by one with an ordered list is ordered accordingly. -/
theorem pairwise_of_forall₂ {R : α → β → Prop} {S : β → β → Prop} {T : α → α → Prop} {xs : List α}
    {ys : List β} (h : List.Forall₂ R xs ys) (hys : ys.Pairwise S)
    (hT : ∀ x y x' y', R x y → R x' y' → S y y' → T x x') : xs.Pairwise T := by
  induction h with
  | nil => exact .nil
  | cons hxy hrest ih =>
      obtain ⟨hfirst, hys⟩ := List.pairwise_cons.mp hys
      refine List.pairwise_cons.mpr ⟨fun x' hx' => ?_, ih hys⟩
      obtain ⟨y', hy', hxy'⟩ := forall₂_target hrest hx'
      exact hT _ _ _ _ hxy hxy' (hfirst y' hy')

/-- A loop that reads an array at its own index runs over the two in step. -/
theorem foldlM_zipIdx_getElem? {σ : Type} {f : σ → α → Option β → Except ε σ} {xs : List α}
    {ys : List β} (hlen : xs.length = ys.length) (s : σ) :
    xs.zipIdx.foldlM (fun s p => f s p.1 ys[p.2]?) s =
      (xs.zip ys).foldlM (fun s p => f s p.1 (some p.2)) s := by
  -- What is read already stands in front of the array.
  have hrest : ∀ (xs : List α) (zs ys : List β) (s : σ), xs.length = ys.length →
      (xs.zipIdx zs.length).foldlM (fun s p => f s p.1 (zs ++ ys)[p.2]?) s =
        (xs.zip ys).foldlM (fun s p => f s p.1 (some p.2)) s := by
    intro xs
    induction xs with
    | nil => intro zs ys s _; rfl
    | cons x xs ih =>
        intro zs ys s hlen
        cases ys with
        | nil => cases hlen
        | cons y ys =>
            have hstep := fun s => ih (zs ++ [y]) ys s (Nat.succ.inj hlen)
            simp only [List.append_assoc, List.singleton_append, List.length_append,
              List.length_singleton] at hstep
            have hhere : (zs ++ y :: ys)[zs.length]? = some y := by simp
            simp only [List.zipIdx_cons, List.zip_cons_cons, List.foldlM_cons, hhere, hstep]
  exact hrest xs [] ys s hlen

/-- A loop accepts when every element does. -/
theorem mapM_of_forall {f : α → Except ε β} {xs : List α} (h : ∀ x ∈ xs, ∃ y, f x = .ok y) :
    ∃ ys, xs.mapM f = .ok ys := by
  induction xs with
  | nil => exact ⟨[], rfl⟩
  | cons x xs ih =>
    obtain ⟨y, hy⟩ := h x List.mem_cons_self
    obtain ⟨ys, hys⟩ := ih fun z hz => h z (List.mem_cons_of_mem _ hz)
    exact ⟨y :: ys, mapM_eq_ok.mpr (.cons hy (mapM_eq_ok.mp hys))⟩

/-- A loop with known values is a map. -/
theorem mapM_eq_map_of {f : α → Except ε β} {g : α → β} {xs : List α}
    (h : ∀ x ∈ xs, f x = .ok (g x)) : xs.mapM f = .ok (xs.map g) := by
  induction xs with
  | nil => rfl
  | cons x xs ih =>
    rw [List.forall_mem_cons] at h
    rw [List.mapM_cons, h.1, ok_bind, ih h.2]
    rfl

end Loops

/-! ## 3. Evaluated computations -/

/-- What a computation returns, or a value for a refused one. -/
def resultD (x : Except ε α) (d : α) : α :=
  match x with
  | .ok a => a
  | .error _ => d

theorem eq_ok_resultD {x : Except ε α} {d : α} (h : x.isOk = true) : x = .ok (resultD x d) := by
  cases x with
  | error e => cases h
  | ok a => rfl

/-- A computation with a known outcome beside its state. -/
theorem eq_ok_of_snd {x : Except ε (α × β)} {d : α × β} {b : β}
    (h : x.toOption.map Prod.snd = some b) :
    x = .ok ((resultD x d).1, b) := by
  cases x with
  | error e => cases h
  | ok r =>
    cases h
    rfl

/-- A computation known to accept returns something. -/
theorem exists_of_isOk {x : Except ε α} (h : x.isOk = true) : ∃ a, x = .ok a := by
  cases x with
  | error e => cases h
  | ok a => exact ⟨a, rfl⟩

theorem eq_error_of_refusal {x : Except ε α} {e : ε}
    (h : (match x with | .ok _ => none | .error e => some e) = some e) : x = .error e := by
  cases x with
  | ok a => cases h
  | error e =>
    cases h
    rfl

/-! ## 4. Refused computations -/

section Refused

variable {c : Prop} [Decidable c] {e e' : ε}

@[simp] theorem refuseIf_eq_error : refuseIf c e = .error e' ↔ c ∧ e = e' := by
  unfold refuseIf
  split <;> simp_all

theorem pure_ne_error (a : α) : (pure a : Except ε α) ≠ .error e := nofun

theorem bind_eq_error {x : Except ε α} {f : α → Except ε β} :
    (x >>= f) = .error e ↔ x = .error e ∨ ∃ a, x = .ok a ∧ f a = .error e := by
  rcases x with e' | a
  · exact ⟨fun h => .inl (congrArg _ (Except.error.inj h)),
      fun h => h.elim (fun he => congrArg _ (Except.error.inj he)) nofun⟩
  · exact ⟨fun h => .inr ⟨a, rfl, h⟩, fun h => h.elim nofun fun ⟨_, ha, h⟩ => Except.ok.inj ha ▸ h⟩

/-- Every refusal of the computation is as stated. -/
def RefusesOnly (P : ε → Prop) (x : Except ε α) : Prop := ∀ e, x = .error e → P e

section RefusesOnly

variable {P Q : ε → Prop} {x : Except ε α}

theorem RefusesOnly.mono (h : RefusesOnly P x) (hPQ : ∀ e, P e → Q e) : RefusesOnly Q x :=
  fun e he => hPQ e (h e he)

/-- **A sequence refuses as its steps do**, the second one after what the first one returned. -/
theorem RefusesOnly.bind {f : α → Except ε β} (hx : RefusesOnly P x)
    (hf : ∀ a, x = .ok a → RefusesOnly P (f a)) : RefusesOnly P (x >>= f) := by
  intro e he
  rcases bind_eq_error.mp he with he | ⟨a, ha, he⟩
  · exact hx e he
  · exact hf a ha e he

theorem RefusesOnly.map {f : α → β} (hx : RefusesOnly P x) : RefusesOnly P (f <$> x) := by
  intro e he
  cases x with
  | error e' => exact hx e (congrArg _ (Except.error.inj he))
  | ok a => cases he

theorem RefusesOnly.mapM {f : α → Except ε β} {xs : List α}
    (hf : ∀ x ∈ xs, RefusesOnly P (f x)) : RefusesOnly P (xs.mapM f) := by
  induction xs with
  | nil => exact fun _ h => absurd h (pure_ne_error [])
  | cons x xs ih =>
    rw [List.forall_mem_cons] at hf
    rw [List.mapM_cons]
    exact hf.1.bind fun _ _ => (ih hf.2).bind fun _ _ _ h => absurd h (pure_ne_error _)

theorem RefusesOnly.foldlM {σ : Type} {f : σ → α → Except ε σ} {xs : List α}
    (hf : ∀ s, ∀ x ∈ xs, RefusesOnly P (f s x)) (s : σ) : RefusesOnly P (xs.foldlM f s) := by
  induction xs generalizing s with
  | nil => exact fun _ h => absurd h (pure_ne_error s)
  | cons x xs ih =>
    rw [List.foldlM_cons]
    exact (hf s x List.mem_cons_self).bind fun s' _ =>
      ih (fun s y hy => hf s y (List.mem_cons_of_mem _ hy)) s'

theorem refusesOnly_refuseIf (h : c → P e) : RefusesOnly P (refuseIf c e) := by
  intro e' he
  obtain ⟨hc, rfl⟩ := refuseIf_eq_error.mp he
  exact h hc

theorem refusesOnly_pure (a : α) : RefusesOnly P (pure a : Except ε α) :=
  fun _ h => absurd h (pure_ne_error a)

end RefusesOnly

end Refused

end Fallible
