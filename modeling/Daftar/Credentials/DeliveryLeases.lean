/-
  File: Daftar/Credentials/DeliveryLeases.lean
  Subject: What any interleaving of drains keeps of a delivery.

  * `Secrets`: the secret of a row is wiped exactly in its terminal states, after any run.
  * `Settles`: terminal rows keep their status and no attempt is taken back. It holds of every run
    whose finalizations are `Fenced`: the row was not claimed again since.
  * A worker that outlives its lease finalizes a row another has finished: `not_settles_stale_drain`.
-/

import Daftar.Credentials.DeliveryOutbox

namespace Daftar.Credentials

open Fallible
open Runs
open Tables

/-! ## 1. The statement -/

/-- The secret is null exactly in the terminal states. -/
def Secrets (db : DeliveryDb) : Prop :=
  ∀ d ∈ db.deliveries.rows, d.secretCiphertext = none ↔ d.status.IsTerminal

/-- What every later database keeps of a row. -/
def Settles (db db' : DeliveryDb) : Prop :=
  ∀ id d, db.deliveries.find? id = some d → ∃ d', db'.deliveries.find? id = some d' ∧
    d.attempts ≤ d'.attempts ∧ (d.status.IsTerminal → d'.status = d.status)

/-- A row is finalized while the claim of its job is its last. -/
def Fenced (s : Outbox) (e : Event) : Prop :=
  ∀ i job err jobs result, e = .finalize i → s.drains i = some (.finalizing job err jobs result) →
    ∀ d, s.db.deliveries.find? job.id = some d → d.claims = job.claim

def FencedStep (s : Outbox) (e : Event) (t : Outbox) : Prop := Step s e t ∧ Fenced s e

/-! ## 2. What a drain may assume -/

/-- Which claim of which row a job comes from. -/
def Job.source (job : Job) : Uuid × ℕ := (job.id, job.claim)

/-- While no other claim came, the row is as the claim left it. -/
def Held (db : DeliveryDb) (job : Job) : Prop :=
  ∃ d, db.deliveries.find? job.id = some d ∧ job.claim ≤ d.claims ∧
    (job.claim = d.claims → d.status = .processing ∧ d.attempts = job.attempts)

/-- A claim is worked on by one drain, once. -/
structure Described (s : Outbox) : Prop where
  held : ∀ i d, s.drains i = some d → ∀ job ∈ d.jobs, Held s.db job
  batch : ∀ i d, s.drains i = some d → (d.jobs.map Job.source).Nodup
  apart : ∀ i j d e, i ≠ j → s.drains i = some d → s.drains j = some e →
    ∀ a ∈ d.jobs, ∀ b ∈ e.jobs, a.source ≠ b.source

section Rows

variable {db db' : DeliveryDb} {d : Delivery} {job : Job} {err : Option DeliveryErrorCode} {now : ℤ}
  {worker : String} {id : Uuid} {ids : List Uuid}

theorem not_isTerminal_of_due (h : d.Due now) : ¬ d.status.IsTerminal := by
  intro ht
  rcases h with ⟨hstatus | hstatus, _⟩ | ⟨hstatus, _⟩
  all_goals
    rw [hstatus] at ht
    exact ht

theorem find?_claim (db : DeliveryDb) (worker : String) (now : ℤ) (ids : List Uuid) (id : Uuid) :
    (db.claim worker now ids).deliveries.find? id =
      if id ∈ ids then (db.deliveries.find? id).map (Delivery.claim worker now)
      else db.deliveries.find? id :=
  Table.find?_modifyAll (Delivery.id_claim worker now) ids

theorem find?_claim_of_mem (hid : id ∈ ids) (hd : db.deliveries.find? id = some d) :
    (db.claim worker now ids).deliveries.find? id = some (d.claim worker now) := by
  rw [find?_claim, if_pos hid, hd]
  rfl

theorem find?_claim_of_not_mem (hid : id ∉ ids) :
    (db.claim worker now ids).deliveries.find? id = db.deliveries.find? id := by
  rw [find?_claim, if_neg hid]

theorem finalize_eq_ok : db.finalize job err now = .ok db' ↔
    (∀ d, db.deliveries.find? job.id = some d → (d.finalize job err now).PayloadRequired) ∧
      db' = { deliveries := db.deliveries.modify job.id _ (Delivery.id_finalize job err now)
              mirrors := Function.update db.mirrors job.parent
                ⟨job.finalStatus err, job.attempts + 1, err⟩ } := by
  simp only [DeliveryDb.finalize, bind_eq_ok, refuseIf_eq_ok, exists_const, pure_eq_ok, not_not,
    Option.mem_def]
  exact and_congr_right fun _ => eq_comm

theorem find?_finalize (hok : db.finalize job err now = .ok db') (id : Uuid) :
    db'.deliveries.find? id =
      if id = job.id then (db.deliveries.find? id).map (Delivery.finalize job err now)
      else db.deliveries.find? id := by
  rw [(finalize_eq_ok.mp hok).2]
  exact Table.find?_modify (Delivery.id_finalize job err now)

theorem find?_finalize_self (hok : db.finalize job err now = .ok db') (hid : id = job.id)
    (hd : db.deliveries.find? id = some d) :
    db'.deliveries.find? id = some (d.finalize job err now) := by
  rw [find?_finalize hok, if_pos hid, hd]
  rfl

theorem find?_finalize_of_ne (hok : db.finalize job err now = .ok db') (hid : id ≠ job.id) :
    db'.deliveries.find? id = db.deliveries.find? id := by
  rw [find?_finalize hok, if_neg hid]

end Rows

/-! ## 3. Secrets -/

section Secrecy

variable {s t : Outbox} {e : Event}

theorem secrets_iff {db : DeliveryDb} : Secrets db ↔ ∀ id d, db.deliveries.find? id = some d →
    (d.secretCiphertext = none ↔ d.status.IsTerminal) := by
  constructor
  · exact fun h id d hd => h d (Table.find?_eq_some.mp hd).1
  · exact fun h d hd => h d.id d (Table.find?_of_mem hd)

/-- **Every step wipes the secret exactly in terminal states**: the CHECK refuses a row that is to be
    sent again without one. -/
theorem Secrets.step (h : Secrets s.db) (hstep : Step s e t) : Secrets t.db := by
  cases hstep with
  | @enqueue d hnew =>
      intro d' hd'
      rcases Table.mem_insert hd' with rfl | hold
      · obtain ⟨secret, hsecret⟩ := Option.isSome_iff_exists.mp hnew.payload.1
        rw [hsecret, hnew.status]
        exact ⟨fun hn => absurd hn (Option.some_ne_none secret), False.elim⟩
      · exact h d' hold
  | @claim i worker now claimed hfree hdue hnodup =>
      rw [secrets_iff] at h ⊢
      intro id d' hd'
      rw [find?_claim] at hd'
      by_cases hid : id ∈ claimed.map Delivery.id
      · rw [if_pos hid] at hd'
        obtain ⟨d, hd, rfl⟩ := Option.map_eq_some_iff.mp hd'
        obtain ⟨c, hc, rfl⟩ := List.mem_map.mp hid
        rw [Table.find?_of_mem (hdue c hc).1] at hd
        obtain rfl : c = d := Option.some.inj hd
        have hsecret := (h _ c (Table.find?_of_mem (hdue c hc).1)).not.mpr
          (not_isTerminal_of_due (hdue c hc).2)
        exact ⟨fun hn => absurd hn hsecret, False.elim⟩
      · rw [if_neg hid] at hd'
        exact h id d' hd'
  | send hi => exact h
  | @finalize i job err jobs result now db hi hok =>
      rw [secrets_iff] at h ⊢
      intro id d' hd'
      rw [find?_finalize hok] at hd'
      by_cases hid : id = job.id
      · rw [if_pos hid] at hd'
        obtain ⟨d, hd, rfl⟩ := Option.map_eq_some_iff.mp hd'
        have hcheck := (finalize_eq_ok.mp hok).1 d (hid ▸ hd)
        show (if (job.finalStatus err).IsTerminal then none else d.secretCiphertext) = none ↔
          (job.finalStatus err).IsTerminal
        by_cases hterminal : (job.finalStatus err).IsTerminal
        · exact ⟨fun _ => hterminal, fun _ => if_pos hterminal⟩
        · rw [if_neg hterminal]
          have hpayload := (hcheck.resolve_left hterminal).1
          simp only [Delivery.finalize, if_neg hterminal] at hpayload
          refine ⟨fun hn => ?_, fun ht => absurd ht hterminal⟩
          rw [hn] at hpayload
          cases hpayload
      · rw [if_neg hid] at hd'
        exact h id d' hd'
  | refused hi herror => exact h
  | stop hi => exact h

end Secrecy

/-! ## 4. Fenced steps -/

section Fencing

variable {s t : Outbox} {e : Event} {db db' : DeliveryDb} {job job' : Job} {i : ℕ}

theorem Held.enqueue (h : Held db job) (d : Delivery) :
    Held { db with deliveries := db.deliveries.insert d } job := by
  obtain ⟨d', hd', hclaims⟩ := h
  exact ⟨d', Table.find?_insert_of_some hd', hclaims⟩

/-- A new claim leaves the jobs of older ones behind. -/
theorem Held.claim (h : Held db job) (worker : String) (now : ℤ) (ids : List Uuid) :
    Held (db.claim worker now ids) job := by
  obtain ⟨d, hd, hle, heq⟩ := h
  by_cases hid : job.id ∈ ids
  · refine ⟨d.claim worker now, find?_claim_of_mem hid hd, Nat.le_succ_of_le hle, fun hnew => ?_⟩
    have hnew' : job.claim = d.claims + 1 := hnew
    omega
  · exact ⟨d, (find?_claim_of_not_mem hid).trans hd, hle, heq⟩

/-- Finalizing a job leaves what other claims may assume. -/
theorem Held.finalize {err : Option DeliveryErrorCode} {now : ℤ} (h : Held db job)
    (hne : job.source ≠ job'.source)
    (hfence : ∀ d, db.deliveries.find? job'.id = some d → d.claims = job'.claim)
    (hok : db.finalize job' err now = .ok db') : Held db' job := by
  obtain ⟨d, hd, hle, heq⟩ := h
  by_cases hid : job.id = job'.id
  · refine ⟨d.finalize job' err now, find?_finalize_self hok hid hd, hle, fun hlast => ?_⟩
    have hclaim : job.claim = job'.claim := hlast.trans (hfence d (hid ▸ hd))
    exact absurd (Prod.ext hid hclaim) hne
  · exact ⟨d, (find?_finalize_of_ne hok hid).trans hd, hle, heq⟩

/-- One drain goes on with fewer jobs. -/
theorem Described.shrink (h : Described s) {v : Option Drain}
    (hv : ∀ d, v = some d → ∃ d₀, s.drains i = some d₀ ∧ d.jobs.Sublist d₀.jobs)
    (hheld : ∀ j d, Function.update s.drains i v j = some d → ∀ job ∈ d.jobs, Held db' job) :
    Described ⟨db', Function.update s.drains i v⟩ := by
  have hbefore : ∀ j d, Function.update s.drains i v j = some d →
      ∃ d₀, s.drains j = some d₀ ∧ d.jobs.Sublist d₀.jobs := by
    intro j d hd
    by_cases hj : j = i
    · subst hj
      rw [Function.update_self] at hd
      exact hv d hd
    · rw [Function.update_of_ne hj] at hd
      exact ⟨d, hd, List.Sublist.refl _⟩
  refine ⟨hheld, fun j d hd => ?_, fun j k d e hjk hd he a ha b hb => ?_⟩
  · obtain ⟨d₀, hd₀, hsub⟩ := hbefore j d hd
    exact (h.batch j d₀ hd₀).sublist (hsub.map _)
  · obtain ⟨d₀, hd₀, hsub⟩ := hbefore j d hd
    obtain ⟨e₀, he₀, hsub'⟩ := hbefore k e he
    exact h.apart j k d₀ e₀ hjk hd₀ he₀ a (hsub.subset ha) b (hsub'.subset hb)

/-- The database stays, and one drain goes on with fewer jobs. -/
theorem Described.shrink_of_db (h : Described s) {v : Option Drain}
    (hv : ∀ d, v = some d → ∃ d₀, s.drains i = some d₀ ∧ d.jobs.Sublist d₀.jobs) :
    Described { s with drains := Function.update s.drains i v } := by
  refine h.shrink hv fun j d hd job hjob => ?_
  by_cases hj : j = i
  · subst hj
    rw [Function.update_self] at hd
    obtain ⟨d₀, hd₀, hsub⟩ := hv d hd
    exact h.held j d₀ hd₀ job (hsub.subset hjob)
  · rw [Function.update_of_ne hj] at hd
    exact h.held j d hd job hjob

theorem Described.enqueue (h : Described s) (d : Delivery) :
    Described { s with db := { s.db with deliveries := s.db.deliveries.insert d } } where
  held i d' hd' job hjob := (h.held i d' hd' job hjob).enqueue d
  batch := h.batch
  apart := h.apart

/-- **A claim starts a drain whose jobs are the last claims of their rows.** -/
theorem Described.claim (h : Described s) {worker : String} {now : ℤ} {claimed : List Delivery}
    (hfree : s.drains i = none) (hrows : ∀ d ∈ claimed, d ∈ s.db.deliveries.rows)
    (hnodup : (claimed.map Delivery.id).Nodup) {result : DrainResult} :
    Described
      { db := s.db.claim worker now (claimed.map Delivery.id)
        drains := Function.update s.drains i
          (some (.sending (claimed.map fun d => (d.claim worker now).job) result)) } := by
  have hnew : ∀ j d, j ≠ i → s.drains j = some d → ∀ a ∈ d.jobs,
      ∀ b ∈ claimed.map fun d => (d.claim worker now).job, a.source ≠ b.source := by
    intro j d _ hd a ha b hb hsame
    obtain ⟨c, hc, rfl⟩ := List.mem_map.mp hb
    obtain ⟨d₀, hd₀, hle, _⟩ := h.held j d hd a ha
    have hid : a.id = c.id := congrArg Prod.fst hsame
    have hclaim : a.claim = c.claims + 1 := congrArg Prod.snd hsame
    rw [hid, Table.find?_of_mem (hrows c hc)] at hd₀
    cases hd₀
    omega
  refine ⟨fun j d hd job hjob => ?_, fun j d hd => ?_, fun j k d e hjk hd he a ha b hb => ?_⟩
  · by_cases hj : j = i
    · subst hj
      simp only [Function.update_self, Option.some.injEq] at hd
      subst hd
      obtain ⟨c, hc, rfl⟩ := List.mem_map.mp hjob
      have hfound := Table.find?_of_mem (hrows c hc)
      have hmem : c.id ∈ claimed.map Delivery.id := List.mem_map_of_mem hc
      exact ⟨c.claim worker now, find?_claim_of_mem hmem hfound, le_rfl, fun _ => ⟨rfl, rfl⟩⟩
    · simp only [Function.update_of_ne hj] at hd
      exact (h.held j d hd job hjob).claim worker now _
  · by_cases hj : j = i
    · subst hj
      simp only [Function.update_self, Option.some.injEq] at hd
      subst hd
      refine List.Nodup.of_map Prod.fst ?_
      have hids : ((claimed.map fun d => (d.claim worker now).job).map Job.source).map Prod.fst =
          claimed.map Delivery.id := by
        rw [List.map_map, List.map_map]
        rfl
      show (((claimed.map fun d => (d.claim worker now).job).map Job.source).map Prod.fst).Nodup
      rw [hids]
      exact hnodup
    · simp only [Function.update_of_ne hj] at hd
      exact h.batch j d hd
  · by_cases hj : j = i
    · subst hj
      simp only [Function.update_self, Option.some.injEq] at hd
      simp only [Function.update_of_ne hjk.symm] at he
      subst hd
      exact (hnew k e hjk.symm he b hb a ha).symm
    · simp only [Function.update_of_ne hj] at hd
      by_cases hk : k = i
      · subst hk
        simp only [Function.update_self, Option.some.injEq] at he
        subst he
        exact hnew j d hj hd a ha b hb
      · simp only [Function.update_of_ne hk] at he
        exact h.apart j k d e hjk hd he a ha b hb

/-- **A fenced step keeps what every drain may assume.** -/
theorem Described.step (h : Described s) (hstep : FencedStep s e t) : Described t := by
  obtain ⟨hstep, hfenced⟩ := hstep
  cases hstep with
  | enqueue hnew => exact h.enqueue _
  | claim hfree hdue hnodup => exact h.claim hfree (fun d hd => (hdue d hd).1) hnodup
  | send hi =>
      refine h.shrink_of_db fun d hd => ?_
      cases hd
      exact ⟨_, hi, List.Sublist.refl _⟩
  | @finalize i job err jobs result now db hi hok =>
      have hfence := hfenced i job err jobs result rfl hi
      refine h.shrink (fun d hd => ?_) fun j d hd a ha => ?_
      · cases hd
        exact ⟨_, hi, List.sublist_cons_self _ _⟩
      · by_cases hj : j = i
        · subst hj
          rw [Function.update_self] at hd
          cases hd
          have hbatch := h.batch j _ hi
          have hne : a.source ≠ job.source := fun he =>
            (List.nodup_cons.mp hbatch).1 (he ▸ List.mem_map_of_mem ha)
          exact (h.held j _ hi a (List.mem_cons_of_mem _ ha)).finalize hne hfence hok
        · rw [Function.update_of_ne hj] at hd
          have hne := h.apart j i d _ hj hd hi a ha job List.mem_cons_self
          exact (h.held j d hd a ha).finalize hne hfence hok
  | refused hi herror =>
      refine h.shrink_of_db fun d hd => ?_
      cases hd
  | stop hi =>
      refine h.shrink_of_db fun d hd => ?_
      cases hd

theorem Settles.refl (db : DeliveryDb) : Settles db db :=
  fun _ d hd => ⟨d, hd, le_rfl, fun _ => rfl⟩

theorem Settles.trans {db'' : DeliveryDb} (h : Settles db db') (h' : Settles db' db'') :
    Settles db db'' := by
  intro id d hd
  obtain ⟨d', hd', hle, hstatus⟩ := h id d hd
  obtain ⟨d'', hd'', hle', hstatus'⟩ := h' id d' hd'
  refine ⟨d'', hd'', hle.trans hle', fun ht => ?_⟩
  have hsame := hstatus ht
  exact (hstatus' (hsame ▸ ht)).trans hsame

/-- **A fenced step takes no attempt back and leaves terminal rows.** -/
theorem Described.settles (h : Described s) (hstep : FencedStep s e t) : Settles s.db t.db := by
  obtain ⟨hstep, hfenced⟩ := hstep
  cases hstep with
  | enqueue hnew => exact fun id d hd => ⟨d, Table.find?_insert_of_some hd, le_rfl, fun _ => rfl⟩
  | @claim i worker now claimed hfree hdue hnodup =>
      intro id d hd
      by_cases hid : id ∈ claimed.map Delivery.id
      · refine ⟨d.claim worker now, find?_claim_of_mem hid hd, le_rfl, fun ht => ?_⟩
        obtain ⟨c, hc, rfl⟩ := List.mem_map.mp hid
        rw [Table.find?_of_mem (hdue c hc).1] at hd
        obtain rfl : c = d := Option.some.inj hd
        exact absurd ht (not_isTerminal_of_due (hdue c hc).2)
      · exact ⟨d, (find?_claim_of_not_mem hid).trans hd, le_rfl, fun _ => rfl⟩
  | send hi => exact .refl s.db
  | @finalize i job err jobs result now db hi hok =>
      intro id d hd
      by_cases hid : id = job.id
      · subst hid
        obtain ⟨d₀, hd₀, _, hlast⟩ := h.held i _ hi job List.mem_cons_self
        rw [hd] at hd₀
        obtain rfl : d = d₀ := Option.some.inj hd₀
        obtain ⟨hprocessing, hattempts⟩ := hlast (hfenced i job err jobs result rfl hi d hd).symm
        refine ⟨d.finalize job err now, find?_finalize_self hok rfl hd, ?_, fun ht => ?_⟩
        · show d.attempts ≤ job.attempts + 1
          omega
        · rw [hprocessing] at ht
          exact absurd ht id
      · exact ⟨d, (find?_finalize_of_ne hok hid).trans hd, le_rfl, fun _ => rfl⟩
  | refused hi herror => exact .refl s.db
  | stop hi => exact .refl s.db

end Fencing

/-! ## 5. Every run -/

section Every

variable {db : DeliveryDb} {s u : Outbox} {es fs : List Event}

theorem Described.idle (db : DeliveryDb) : Described (.idle db) where
  held i d hd := by cases hd
  batch i d hd := by cases hd
  apart i j d e hij hd := by cases hd

theorem Described.run (h : Described s) (hrun : Run FencedStep s es u) :
    Described u ∧ Settles s.db u.db :=
  hrun.invariant (I := fun t => Described t ∧ Settles s.db t.db)
    (fun _ _ _ ht hstep => ⟨ht.1.step hstep, ht.2.trans (ht.1.settles hstep)⟩) ⟨h, .refl s.db⟩

theorem Secrets.run (h : Secrets s.db) (hrun : Run Step s es u) : Secrets u.db :=
  hrun.invariant (I := fun t => Secrets t.db) (fun _ _ _ ht hstep => ht.step hstep) h

theorem FencedStep.run (hrun : Run FencedStep s es u) : Run Step s es u :=
  hrun.mono fun _ _ _ hstep => hstep.1

/-- What the deliveries of one state are in a later one. -/
structure DeliveredOnce (db db' : DeliveryDb) : Prop where
  /-- A sent or dead row keeps its status. -/
  final : ∀ id d, db.deliveries.find? id = some d → d.status = .sent ∨ d.status = .dead →
    ∃ d', db'.deliveries.find? id = some d' ∧ d'.status = d.status
  /-- The secret is null exactly when the status is terminal. -/
  secret : ∀ d ∈ db'.deliveries.rows, d.secretCiphertext = none ↔ d.status.IsTerminal
  /-- A row that is sent is neither failed nor dead later. -/
  sent : ∀ id d d', db.deliveries.find? id = some d → d.status = .sent →
    db'.deliveries.find? id = some d' → d'.status ≠ .failed ∧ d'.status ≠ .dead
  /-- No attempt is taken back. -/
  attempts : ∀ id d d', db.deliveries.find? id = some d → db'.deliveries.find? id = some d' →
    d.attempts ≤ d'.attempts

theorem Settles.deliveredOnce {db db' : DeliveryDb} (h : Settles db db') (hsecrets : Secrets db') :
    DeliveredOnce db db' where
  final id d hd hstatus := by
    obtain ⟨d', hd', _, hkeep⟩ := h id d hd
    refine ⟨d', hd', hkeep ?_⟩
    rcases hstatus with hstatus | hstatus
    all_goals
      rw [hstatus]
      trivial
  secret := hsecrets
  sent id d d' hd hsent hd' := by
    obtain ⟨d'', hd'', _, hkeep⟩ := h id d hd
    rw [hd'] at hd''
    obtain rfl : d' = d'' := Option.some.inj hd''
    have hsame := hkeep (by rw [hsent]; trivial)
    rw [hsame, hsent]
    exact ⟨DeliveryStatus.noConfusion, DeliveryStatus.noConfusion⟩
  attempts id d d' hd hd' := by
    obtain ⟨d'', hd'', hle, _⟩ := h id d hd
    rw [hd'] at hd''
    obtain rfl : d' = d'' := Option.some.inj hd''
    exact hle

/-- **A delivery reaches a terminal state once**, in every run whose rows are finalized while the
    claim of their drain is the last. -/
theorem delivered_once (hdb : Secrets db) (hrun : Run FencedStep (.idle db) es s)
    (hlater : Run FencedStep s fs u) : DeliveredOnce s.db u.db := by
  have hs := (Described.idle db).run hrun
  have hsecrets : Secrets u.db := hdb.run (FencedStep.run (hrun.trans hlater))
  exact (hs.1.run hlater).2.deliveredOnce hsecrets

/-! ## 6. One delivery and two drains -/

/-- Four attempts have failed. -/
def sampleDelivery : Delivery where
  id := .sample 1
  parent := .passwordReset (.sample 2)
  email := "owner"
  secretCiphertext := some "ciphertext"
  secretNonce := some "nonce"
  keyVersion := some "1"
  status := .failed
  attempts := 4
  nextAttemptAt := 0
  lastError := some .smtpTimeout
  lockedBy := none
  leaseUntil := none
  claims := 0

def sampleDb : DeliveryDb where
  deliveries := ⟨[sampleDelivery], List.nodup_singleton _⟩
  mirrors _ := ⟨.failed, 4, some .smtpTimeout⟩

section Sample

theorem sampleDb_secrets : Secrets sampleDb := by
  intro d hd
  obtain rfl := List.mem_singleton.mp hd
  exact ⟨fun hn => absurd hn (Option.some_ne_none _), False.elim⟩

theorem sampleDelivery_found : sampleDb.deliveries.find? sampleDelivery.id = some sampleDelivery :=
  Table.find?_of_mem List.mem_cons_self

def firstClaim : Delivery := sampleDelivery.claim "first" 0

/-- One drain has the row. -/
def claimedOnce : Outbox where
  db := sampleDb.claim "first" 0 [sampleDelivery.id]
  drains := Function.update (fun _ => none) 0 (some (.sending [firstClaim.job] ⟨0, 0, 0⟩))

theorem claimedOnce_step : Step (.idle sampleDb) (.claim 0) claimedOnce := by
  have hdue : ∀ d ∈ [sampleDelivery], d ∈ sampleDb.deliveries.rows ∧ d.Due 0 := by
    intro d hd
    obtain rfl := List.mem_singleton.mp hd
    exact ⟨List.mem_cons_self, .inl ⟨.inr rfl, le_rfl⟩⟩
  exact @Step.claim (.idle sampleDb) 0 "first" 0 [sampleDelivery] rfl hdue (List.nodup_singleton _)

theorem firstClaim_found : claimedOnce.db.deliveries.find? sampleDelivery.id = some firstClaim :=
  find?_claim_of_mem List.mem_cons_self sampleDelivery_found

/-- A job is sent, and finalized with a terminal status. -/
theorem finish_job {s : Outbox} {i : ℕ} {job : Job} {jobs : List Job} {result : DrainResult}
    (sent : Option DeliveryErrorCode) (hi : s.drains i = some (.sending (job :: jobs) result))
    (hterminal : (job.finalStatus (job.outcome sent)).IsTerminal) :
    ∃ t u, Step s (.send i) t ∧ Step t (.finalize i) u ∧ t.db = s.db ∧
      t.drains i = some (.finalizing job (job.outcome sent) jobs result) ∧
      s.db.finalize job (job.outcome sent) 0 = .ok u.db ∧ ∀ j, j ≠ i → u.drains j = s.drains j := by
  have hok : s.db.finalize job (job.outcome sent) 0 = .ok _ :=
    finalize_eq_ok.mpr ⟨fun d _ => .inl hterminal, rfl⟩
  have hsent : Function.update s.drains i (some (Drain.finalizing job (job.outcome sent) jobs result)) i =
      some (.finalizing job (job.outcome sent) jobs result) := Function.update_self ..
  refine ⟨_, _, .send hi, .finalize hsent hok, rfl, hsent, hok, fun j hj => ?_⟩
  exact (Function.update_of_ne hj _ _).trans (Function.update_of_ne hj _ _)

theorem claimedOnce_drain : claimedOnce.drains 0 = some (.sending [firstClaim.job] ⟨0, 0, 0⟩) := rfl

/-- One drain sends the message. -/
theorem delivered_once_sample : ∃ u : Outbox, DeliveredOnce claimedOnce.db u.db ∧
    ∃ d, u.db.deliveries.find? sampleDelivery.id = some d ∧ d.status = .sent := by
  obtain ⟨t, u, hsend, hfinalize, hdb, hdrain, hok, _⟩ := finish_job none claimedOnce_drain trivial
  have hfenced : Fenced t (.finalize 0) := by
    intro i job err jobs result hi hjob d hd
    cases hi
    rw [hdrain] at hjob
    cases hjob
    rw [hdb, show firstClaim.job.id = sampleDelivery.id from rfl, firstClaim_found] at hd
    cases hd
    rfl
  have hclaim : FencedStep (.idle sampleDb) (.claim 0) claimedOnce :=
    ⟨claimedOnce_step, fun _ _ _ _ _ h => by cases h⟩
  have hsend' : FencedStep claimedOnce (.send 0) t := ⟨hsend, fun _ _ _ _ _ h => by cases h⟩
  have hsafe := delivered_once sampleDb_secrets (.single hclaim)
    (.cons hsend' (.single ⟨hfinalize, hfenced⟩))
  exact ⟨u, hsafe, _, find?_finalize_self hok rfl firstClaim_found, rfl⟩

def secondClaim : Delivery := firstClaim.claim "second" 120001

/-- The lease of the first drain is over. -/
theorem secondClaim_step : ∃ t, Step claimedOnce (.claim 1) t ∧
    t.db.deliveries.find? sampleDelivery.id = some secondClaim ∧
    t.drains 0 = some (.sending [firstClaim.job] ⟨0, 0, 0⟩) ∧
    t.drains 1 = some (.sending [secondClaim.job] ⟨0, 0, 0⟩) := by
  have hdue : ∀ d ∈ [firstClaim], d ∈ claimedOnce.db.deliveries.rows ∧ d.Due 120001 := by
    intro d hd
    obtain rfl := List.mem_singleton.mp hd
    exact ⟨(Table.find?_eq_some.mp firstClaim_found).1, .inr ⟨rfl, 120000, rfl, by decide⟩⟩
  have hstep := @Step.claim claimedOnce 1 "second" 120001 [firstClaim] rfl hdue (List.nodup_singleton _)
  refine ⟨_, hstep, find?_claim_of_mem List.mem_cons_self firstClaim_found, rfl, rfl⟩

/-- **A drain that outlives its lease finalizes what another has sent.** -/
theorem not_settles_stale_drain : ∃ es fs s u, Secrets sampleDb ∧
    Run Step (.idle sampleDb) es s ∧ Run Step s fs u ∧ ¬ DeliveredOnce s.db u.db := by
  obtain ⟨s₁, hclaim, hfound, hfirst, hsecond⟩ := secondClaim_step
  obtain ⟨s₂, s₃, hsend, hfinalize, _, _, hok, hothers⟩ := finish_job none hsecond trivial
  have hrow := find?_finalize_self hok rfl hfound
  have hfirst' := (hothers 0 Nat.zero_ne_one).trans hfirst
  obtain ⟨s₄, s₅, hsend', hfinalize', _, _, hok', _⟩ :=
    finish_job (some .smtpTimeout) hfirst' (by decide)
  have hrow' := find?_finalize_self hok' rfl hrow
  refine ⟨_, _, s₃, s₅, sampleDb_secrets, .cons claimedOnce_step (.cons hclaim (.cons hsend (.single hfinalize))),
    .cons hsend' (.single hfinalize'), fun h => ?_⟩
  exact (h.sent _ _ _ hrow rfl hrow').2 rfl

end Sample

end Every

end Daftar.Credentials
