/-
  File: Daftar/Library/LockedTransactions.lean
  Subject: Transactions over one database that lock what they read and keep their locks to the end.

  * A statement takes its locks and reads the committed database in one step, once no other
    transaction holds a conflicting lock. Its effects wait in the transaction until the commit.
  * A transaction may abort at any step: a refusal, a deadlock's victim, a lost connection.
  * `Exclusive`: locks held by two transactions never conflict.
  * `Outline` is a proof outline: what each transaction may assume of the database at each point,
    kept by its own statements and stable under the commits of others whose locks do not conflict
    with its own. `Outline.sound`: it holds in every reachable state.
  * `OutlineWhen` is an outline for the runs whose commits all meet a condition, on the database and
    on the other transactions at work.
-/

import Daftar.Library.Runs

namespace LockedTransactions

open Runs

variable {Db Tx Lock ε : Type*}

/-! ## 1. The system -/

/-- Transactions, point by point: what the next statement locks and does, which points are starts
    or may commit, and what a commit makes of the database. -/
structure System (Db Tx Lock ε : Type*) where
  starts : Tx → Prop
  exec : Db → Tx → List Lock × Except ε Tx
  ready : Tx → Prop
  commit : Db → Tx → Db
  conflicts : Lock → Lock → Prop
  conflicts_symm : ∀ {a b}, conflicts a b → conflicts b a

/-- The committed database, and each running transaction with the locks it holds. -/
structure State (Db Tx Lock : Type*) where
  db : Db
  running : ℕ → Option (Tx × List Lock)

/-- A database nobody is using. -/
def State.idle (db : Db) : State Db Tx Lock := ⟨db, fun _ => none⟩

inductive Event
  | start (i : ℕ)
  | statement (i : ℕ)
  | abort (i : ℕ)
  | commit (i : ℕ)
  deriving DecidableEq

namespace System

variable (S : System Db Tx Lock ε)

/-- No lock of one list conflicts with a lock of the other. -/
def Compatible (as bs : List Lock) : Prop := ∀ a ∈ as, ∀ b ∈ bs, ¬ S.conflicts a b

/-- No other transaction holds a lock that conflicts with one of these. -/
def Grantable (s : State Db Tx Lock) (i : ℕ) (locks : List Lock) : Prop :=
  ∀ j u held, j ≠ i → s.running j = some (u, held) → S.Compatible locks held

inductive Step : State Db Tx Lock → Event → State Db Tx Lock → Prop
  | start {s : State Db Tx Lock} {i : ℕ} {t : Tx} (hfree : s.running i = none) (ht : S.starts t) :
      Step s (.start i) { s with running := Function.update s.running i (some (t, [])) }
  | statement {s : State Db Tx Lock} {i : ℕ} {t t' : Tx} {held locks : List Lock}
      (hi : s.running i = some (t, held)) (hexec : S.exec s.db t = (locks, .ok t'))
      (hgrant : S.Grantable s i locks) :
      Step s (.statement i)
        { s with running := Function.update s.running i (some (t', locks ++ held)) }
  | abort {s : State Db Tx Lock} {i : ℕ} (hi : s.running i ≠ none) :
      Step s (.abort i) { s with running := Function.update s.running i none }
  | commit {s : State Db Tx Lock} {i : ℕ} {t : Tx} {held : List Lock}
      (hi : s.running i = some (t, held)) (hready : S.ready t) :
      Step s (.commit i)
        { db := S.commit s.db t
          running := Function.update s.running i none }

variable {S} {s u : State Db Tx Lock} {e : Event} {i : ℕ}

/-! ## 2. Reading a step -/

theorem Compatible.symm {as bs : List Lock} (h : S.Compatible as bs) : S.Compatible bs as :=
  fun b hb a ha hc => h a ha b hb (S.conflicts_symm hc)

theorem Compatible.append_left {as bs cs : List Lock} (ha : S.Compatible as cs)
    (hb : S.Compatible bs cs) : S.Compatible (as ++ bs) cs := by
  intro a h
  rcases List.mem_append.mp h with h | h
  · exact ha a h
  · exact hb a h

/-- **Only a commit changes the database.** -/
theorem Step.db_eq (h : S.Step s e u) (he : ∀ i, e ≠ .commit i) : u.db = s.db := by
  cases h with
  | start => rfl
  | statement => rfl
  | abort => rfl
  | commit => exact absurd rfl (he _)

theorem Step.commit_inv (h : S.Step s (.commit i) u) :
    ∃ t held, s.running i = some (t, held) ∧ S.ready t ∧ u.db = S.commit s.db t := by
  cases h with
  | commit hi hready => exact ⟨_, _, hi, hready, rfl⟩

/-! ## 3. Exclusion -/

/-- Locks of two running transactions never conflict. -/
def Exclusive (S : System Db Tx Lock ε) (s : State Db Tx Lock) : Prop :=
  ∀ i j t held u held', i ≠ j → s.running i = some (t, held) → s.running j = some (u, held') →
    S.Compatible held held'

theorem Exclusive.idle (db : Db) : S.Exclusive (.idle db) := by
  intro i j t held u held' _ hi
  cases hi

/-- One entry changes, to one whose locks are compatible with all others'. -/
theorem Exclusive.update (h : S.Exclusive s) {v : Option (Tx × List Lock)} {db : Db}
    (hv : ∀ t held, v = some (t, held) → S.Grantable s i held) :
    S.Exclusive ⟨db, Function.update s.running i v⟩ := by
  intro j k t held u held' hjk hj hk
  by_cases hji : j = i
  · subst hji
    simp only [Function.update_self] at hj
    simp only [Function.update_of_ne hjk.symm] at hk
    exact hv t held hj k u held' hjk.symm hk
  · simp only [Function.update_of_ne hji] at hj
    by_cases hki : k = i
    · subst hki
      simp only [Function.update_self] at hk
      exact (hv u held' hk j t held hjk hj).symm
    · simp only [Function.update_of_ne hki] at hk
      exact h j k t held u held' hjk hj hk

theorem Exclusive.grantable (h : S.Exclusive s) {t : Tx} {held : List Lock}
    (hi : s.running i = some (t, held)) : S.Grantable s i held :=
  fun j u held' hji hj => h i j t held u held' hji.symm hi hj

theorem Exclusive.step (h : S.Exclusive s) (hstep : S.Step s e u) : S.Exclusive u := by
  cases hstep with
  | start hfree ht =>
      refine h.update fun t held hv => ?_
      cases hv
      exact fun _ _ _ _ _ a ha => absurd ha List.not_mem_nil
  | statement hi hexec hgrant =>
      refine h.update fun t held hv => ?_
      cases hv
      exact fun j v held' hji hj =>
        (hgrant j v held' hji hj).append_left (h.grantable hi j v held' hji hj)
  | abort hi => exact h.update fun t held hv => by cases hv
  | commit hi hready => exact h.update fun t held hv => by cases hv

/-! ## 4. Proof outlines -/

/-- `I` holds of the committed database, and `G` is what a transaction at some point, with some
    locks, may assume of it. -/
structure Outline (S : System Db Tx Lock ε) (I : Db → Prop) (G : Db → Tx → List Lock → Prop) :
    Prop where
  start : ∀ {db t}, I db → S.starts t → G db t []
  statement : ∀ {db t held locks t'}, I db → G db t held → S.exec db t = (locks, .ok t') →
    G db t' (locks ++ held)
  stable : ∀ {db t held u held'}, I db → G db t held → G db u held' → S.ready u →
    S.Compatible held held' → G (S.commit db u) t held
  commit : ∀ {db t held}, I db → G db t held → S.ready t → I (S.commit db t)

/-- A state an outline describes. -/
structure Described (S : System Db Tx Lock ε) (I : Db → Prop) (G : Db → Tx → List Lock → Prop)
    (s : State Db Tx Lock) : Prop where
  db : I s.db
  exclusive : S.Exclusive s
  running : ∀ i t held, s.running i = some (t, held) → G s.db t held

/-- The commits of a step meet a condition on the database, and one on every other transaction. -/
def Allowed (P : Db → Tx → Prop) (Q : Tx → Tx → Prop) (s : State Db Tx Lock) (e : Event) : Prop :=
  ∀ i t held, e = .commit i → s.running i = some (t, held) →
    P s.db t ∧ ∀ j u held', j ≠ i → s.running j = some (u, held') → Q t u

def StepWhen (S : System Db Tx Lock ε) (P : Db → Tx → Prop) (Q : Tx → Tx → Prop)
    (s : State Db Tx Lock) (e : Event) (u : State Db Tx Lock) : Prop := S.Step s e u ∧ Allowed P Q s e

/-- An outline that rests on the conditions of the commits. -/
structure OutlineWhen (S : System Db Tx Lock ε) (P : Db → Tx → Prop) (Q : Tx → Tx → Prop)
    (I : Db → Prop) (G : Db → Tx → List Lock → Prop) : Prop where
  start : ∀ {db t}, I db → S.starts t → G db t []
  statement : ∀ {db t held locks t'}, I db → G db t held → S.exec db t = (locks, .ok t') →
    G db t' (locks ++ held)
  stable : ∀ {db t held u held'}, I db → G db t held → G db u held' → S.ready u → P db u → Q u t →
    S.Compatible held held' → G (S.commit db u) t held
  commit : ∀ {db t held}, I db → G db t held → S.ready t → P db t → I (S.commit db t)

section Outlines

variable {I : Db → Prop} {G : Db → Tx → List Lock → Prop} {P : Db → Tx → Prop} {Q : Tx → Tx → Prop}

theorem Described.idle {db : Db} (h : I db) : S.Described I G (.idle db) where
  db := h
  exclusive := .idle db
  running _ _ _ hi := by cases hi

theorem allowed_of_not_commit (he : ∀ i, e ≠ .commit i) : Allowed P Q s e :=
  fun i _ _ hi _ => absurd hi (he i)

theorem OutlineWhen.step (o : S.OutlineWhen P Q I G) (h : S.Described I G s)
    (hstep : S.StepWhen P Q s e u) : S.Described I G u := by
  obtain ⟨hstep, hallowed⟩ := hstep
  refine ⟨?_, h.exclusive.step hstep, ?_⟩
  · cases hstep with
    | start => exact h.db
    | statement => exact h.db
    | abort => exact h.db
    | commit hi hready =>
        exact o.commit h.db (h.running _ _ _ hi) hready (hallowed _ _ _ rfl hi).1
  · suffices ∀ j x, u.running j = some x → G u.db x.1 x.2 from
      fun j t held hj => this j (t, held) hj
    cases hstep with
    | @start i t hfree ht =>
        refine of_update (fun j x _ hj => h.running j x.1 x.2 hj) fun x hx => ?_
        cases hx
        exact o.start h.db ht
    | @statement i t t' held locks hi hexec hgrant =>
        refine of_update (fun j x _ hj => h.running j x.1 x.2 hj) fun x hx => ?_
        cases hx
        exact o.statement h.db (h.running i t held hi) hexec
    | abort hi =>
        exact of_update (fun j x _ hj => h.running j x.1 x.2 hj) fun x hx => by cases hx
    | @commit i t held hi hready =>
        refine of_update (fun j x hji hj => ?_) fun x hx => by cases hx
        obtain ⟨hP, hQ⟩ := hallowed i t held rfl hi
        exact o.stable h.db (h.running j x.1 x.2 hj) (h.running i t held hi) hready hP
          (hQ j x.1 x.2 hji hj) (h.exclusive j i x.1 x.2 t held hji hj hi)

/-- **It describes every state a run reaches whose commits meet the conditions.** -/
theorem OutlineWhen.sound (o : S.OutlineWhen P Q I G) {es : List Event}
    (hrun : Run (S.StepWhen P Q) s es u) (h : S.Described I G s) : S.Described I G u :=
  hrun.invariant (fun _ _ _ hs hstep => o.step hs hstep) h

theorem Outline.when (o : S.Outline I G) :
    S.OutlineWhen (fun _ _ => True) (fun _ _ => True) I G where
  start := o.start
  statement := o.statement
  stable hI ht hu hready _ _ hc := o.stable hI ht hu hready hc
  commit hI ht hready _ := o.commit hI ht hready

theorem Outline.step (o : S.Outline I G) (h : S.Described I G s) (hstep : S.Step s e u) :
    S.Described I G u :=
  o.when.step h ⟨hstep, fun _ _ _ _ _ => ⟨trivial, fun _ _ _ _ _ => trivial⟩⟩

/-- **An outline describes every state a run reaches.** -/
theorem Outline.sound (o : S.Outline I G) {es : List Event} (hrun : Run S.Step s es u)
    (h : S.Described I G s) : S.Described I G u :=
  hrun.invariant (fun _ _ _ hs hstep => o.step hs hstep) h

end Outlines

/-! ## 5. A transaction alone -/

/-- So many statements of a transaction, nothing else committing in between. -/
def execs (S : System Db Tx Lock ε) (db : Db) : ℕ → Tx → Except ε Tx
  | 0, t => .ok t
  | n + 1, t =>
    match (S.exec db t).2 with
    | .ok t' => execs S db n t'
    | .error e => .error e

theorem execs_succ {db : Db} {t t' : Tx} {n : ℕ} (h : (S.exec db t).2 = .ok t') :
    S.execs db (n + 1) t = S.execs db n t' := by
  rw [execs, h]

/-- One running transaction. -/
def alone (db : Db) (x : Tx × List Lock) : State Db Tx Lock :=
  ⟨db, Function.update (fun _ => none) 0 (some x)⟩

theorem running_alone (db : Db) (x : Tx × List Lock) : (alone db x).running 0 = some x := by
  simp only [alone, Function.update_self]

theorem update_alone (db db' : Db) (x y : Tx × List Lock) :
    (⟨db', Function.update (alone db x).running 0 (some y)⟩ : State Db Tx Lock) = alone db' y := by
  simp only [alone, Function.update_idem]

theorem idle_of_alone (db db' : Db) (x : Tx × List Lock) :
    (⟨db', Function.update (alone db x).running 0 none⟩ : State Db Tx Lock) = .idle db' := by
  simp only [alone, State.idle, Function.update_idem]
  rw [Function.update_eq_self_iff.mpr rfl]

/-- A statement that computes and then moves on. -/
theorem execs_of_bind {Tx α : Type} {S : System Db Tx Lock ε} {db : Db} {n : ℕ} {t : Tx}
    {x : Except ε α} {f : α → Tx} (h : (S.exec db t).2 = x >>= fun a => pure (f a)) :
    S.execs db (n + 1) t = x >>= fun a => S.execs db n (f a) := by
  rw [execs, h]
  cases x <;> rfl

/-- The locks so many statements of a transaction take, the latest first. -/
def takes (S : System Db Tx Lock ε) (db : Db) : ℕ → Tx → List Lock
  | 0, _ => []
  | n + 1, t =>
    match S.exec db t with
    | (locks, .ok t') => takes S db n t' ++ locks
    | (_, .error _) => []

theorem takes_eq_nil {db : Db} {t : Tx} (h : (S.exec db t).1 = []) : S.takes db 1 t = [] := by
  cases hexec : S.exec db t with
  | mk locks outcome =>
      rw [hexec] at h
      rw [takes, hexec]
      cases outcome with
      | error e => rfl
      | ok t' => exact h

/-- **A transaction runs its statements among others whose locks do not conflict with the ones it
    takes.** -/
theorem run_among {P : Db → Tx → Prop} {Q : Tx → Tx → Prop} {n : ℕ} {t t' : Tx} {held : List Lock}
    (hothers : ∀ j u held', j ≠ i → s.running j = some (u, held') →
      S.Compatible (S.takes s.db n t) held')
    (hi : s.running i = some (t, held)) (h : S.execs s.db n t = .ok t') :
    Run (S.StepWhen P Q) s (List.replicate n (.statement i))
      ⟨s.db, Function.update s.running i (some (t', S.takes s.db n t ++ held))⟩ := by
  induction n generalizing s t held with
  | zero =>
      cases h
      rw [takes, List.nil_append, ← hi, Function.update_eq_self]
      exact .nil _
  | succ n ih =>
      rw [execs] at h
      cases hexec : S.exec s.db t with
      | mk locks outcome =>
          rw [hexec] at h
          cases outcome with
          | error e => cases h
          | ok t₁ =>
              have htakes : S.takes s.db (n + 1) t = S.takes s.db n t₁ ++ locks := by
                rw [takes, hexec]
              rw [htakes] at hothers ⊢
              have hgrant : S.Grantable s i locks := fun j u held' hj hu a ha =>
                hothers j u held' hj hu a (List.mem_append_right _ ha)
              have hstep := Step.statement hi hexec hgrant
              have hrun := ih (s := { s with
                running := Function.update s.running i (some (t₁, locks ++ held)) })
                (fun j u held' hj hu a ha => hothers j u held' hj
                  ((Function.update_of_ne hj _ _).symm.trans hu) a (List.mem_append_left _ ha))
                (Function.update_self ..) h
              rw [Function.update_idem, ← List.append_assoc] at hrun
              exact .cons ⟨hstep, allowed_of_not_commit fun _ => Event.noConfusion⟩ hrun

theorem Compatible.of_nil {as bs : List Lock} (h : bs = []) : S.Compatible as bs := by
  rw [h]
  exact fun _ _ _ hb => absurd hb List.not_mem_nil

/-- It commits among them, if its commit meets the conditions. -/
theorem run_commit {P : Db → Tx → Prop} {Q : Tx → Tx → Prop} {n : ℕ} {t t' : Tx} {held : List Lock}
    (hothers : ∀ j u held', j ≠ i → s.running j = some (u, held') →
      S.Compatible (S.takes s.db n t) held')
    (hi : s.running i = some (t, held)) (h : S.execs s.db n t = .ok t') (hready : S.ready t')
    (hP : P s.db t') (hQ : ∀ j u held', j ≠ i → s.running j = some (u, held') → Q t' u) :
    ∃ es, Run (S.StepWhen P Q) s es ⟨S.commit s.db t', Function.update s.running i none⟩ := by
  have hrun := run_among (P := P) (Q := Q) hothers hi h
  generalize S.takes s.db n t ++ held = held' at hrun
  have hstep := Step.commit (s := ⟨s.db, Function.update s.running i (some (t', held'))⟩)
    (Function.update_self ..) hready
  rw [Function.update_idem] at hstep
  refine ⟨_, hrun.trans (.single ⟨hstep, fun k u held₂ hk hu => ?_⟩)⟩
  cases hk
  have heq : (t', held') = (u, held₂) :=
    Option.some.inj ((Function.update_self i _ s.running).symm.trans hu)
  cases heq
  exact ⟨hP, fun j v held₃ hj hv => hQ j v held₃ hj ((Function.update_of_ne hj _ _).symm.trans hv)⟩

/-- From its start to its commit. -/
theorem run_whole {P : Db → Tx → Prop} {Q : Tx → Tx → Prop} {n : ℕ} {t t' : Tx}
    (hothers : ∀ j u held', j ≠ i → s.running j = some (u, held') →
      S.Compatible (S.takes s.db n t) held')
    (hfree : s.running i = none) (ht : S.starts t) (h : S.execs s.db n t = .ok t')
    (hready : S.ready t') (hP : P s.db t')
    (hQ : ∀ j u held', j ≠ i → s.running j = some (u, held') → Q t' u) :
    ∃ es, Run (S.StepWhen P Q) s es ⟨S.commit s.db t', s.running⟩ := by
  have hstart := Step.start hfree ht
  obtain ⟨es, hrun⟩ := run_commit (P := P) (Q := Q)
    (s := { s with running := Function.update s.running i (some (t, [])) })
    (fun j u held' hj hu => hothers j u held' hj ((Function.update_of_ne hj _ _).symm.trans hu))
    (Function.update_self ..) h hready hP
    (fun j u held' hj hu => hQ j u held' hj ((Function.update_of_ne hj _ _).symm.trans hu))
  have hidle : Function.update s.running i none = s.running :=
    Function.update_eq_self_iff.mpr hfree.symm
  simp only [Function.update_idem, hidle] at hrun
  exact ⟨_, .cons ⟨hstart, allowed_of_not_commit fun _ => Event.noConfusion⟩ hrun⟩

theorem StepWhen.run {P : Db → Tx → Prop} {Q : Tx → Tx → Prop} {es : List Event}
    (h : Run (S.StepWhen P Q) s es u) : Run S.Step s es u :=
  h.mono fun _ _ _ hstep => hstep.1

theorem others_alone {db : Db} {x : Tx × List Lock} {j : ℕ} {u : Tx} {held : List Lock}
    (hj : j ≠ 0) (hu : (alone db x).running j = some (u, held)) : False := by
  simp only [alone, Function.update_of_ne hj] at hu
  cases hu

theorem run_statements {db : Db} {n : ℕ} {t t' : Tx} (held : List Lock)
    (h : S.execs db n t = .ok t') :
    Run S.Step (alone db (t, held)) (List.replicate n (.statement 0))
      (alone db (t', S.takes db n t ++ held)) := by
  have hrun := run_among (P := fun _ _ => True) (Q := fun _ _ => True)
    (fun _ _ _ hj hu => (others_alone hj hu).elim) (running_alone db (t, held)) h
  rw [update_alone] at hrun
  exact StepWhen.run hrun

/-- **A transaction on an idle database runs to its commit.** -/
theorem run_alone {db : Db} {n : ℕ} {t t' : Tx} (ht : S.starts t) (h : S.execs db n t = .ok t')
    (hr : S.ready t') : ∃ es held, Run S.Step (.idle db) es (alone db (t', held)) ∧
      S.Step (alone db (t', held)) (.commit 0) (.idle (S.commit db t')) := by
  have hrun := run_statements [] h
  have hstep := Step.commit (running_alone db (t', S.takes db n t ++ [])) hr
  rw [idle_of_alone] at hstep
  exact ⟨_, _, .cons (.start rfl ht) hrun, hstep⟩

/-- **A transaction is overtaken by another**, which starts after some of its statements and commits
    before the rest of them. -/
theorem run_overtaken {db : Db} {n k m : ℕ} {t t₁ t' u u' : Tx} (ht : S.starts t)
    (h₁ : S.execs db n t = .ok t₁) (hu : S.starts u) (h : S.execs db k u = .ok u')
    (hready : S.ready u') (hc : S.Compatible (S.takes db k u) (S.takes db n t))
    (h₂ : S.execs (S.commit db u') m t₁ = .ok t') (hready' : S.ready t') :
    ∃ es, Run S.Step (.idle db) es (.idle (S.commit (S.commit db u') t')) := by
  have hfirst : Run S.Step (.idle db) _ (alone db (t₁, S.takes db n t ++ [])) :=
    .cons (.start rfl ht) (run_statements [] h₁)
  obtain ⟨es, hother⟩ := run_whole (P := fun _ _ => True) (Q := fun _ _ => True) (i := 1)
    (s := alone db (t₁, S.takes db n t ++ [])) (fun j v held hj hv => by
      by_cases hj0 : j = 0
      · subst hj0
        cases (running_alone db (t₁, S.takes db n t ++ [])).symm.trans hv
        rw [List.append_nil]
        exact hc
      · exact (others_alone hj0 hv).elim) rfl hu h hready trivial fun _ _ _ _ _ => trivial
  obtain ⟨fs, hlast⟩ := run_commit (P := fun _ _ => True) (Q := fun _ _ => True) (i := 0)
    (s := alone (S.commit db u') (t₁, S.takes db n t ++ []))
    (fun j v held hj hv => (others_alone hj hv).elim) (running_alone ..) h₂ hready' trivial
    fun _ _ _ _ _ => trivial
  rw [idle_of_alone] at hlast
  exact ⟨_, (hfirst.trans (StepWhen.run hother)).trans (StepWhen.run hlast)⟩

end System

end LockedTransactions
