/-
  File: Daftar/Tenancy/TenancySteps.lean
  Subject: What a statement establishes.

  * `within_rolesFor`: a member who is no owner has the permissions of safe roles alone.
  * `otherOwner_of_count`: two rows of the owner count are two owners.
  * `Leads`: a statement leads to a point whose assumptions hold; here those of a request and of the
    commands on members.
-/

import Mathlib.Data.List.Dedup
import Daftar.Tenancy.TenancyAssumptions

namespace Daftar.Tenancy

open Fallible
open LockedTransactions
open Tables

section Reads

variable {P : String → Prop} {O Actor : Uuid → Prop} {db : TenancyDb} {lower : String → String}
  {held locks : List Lock} {written ws : List TenancyWrite} {t t' : Tx} {next p : Point}
  {u r : Uuid} {m : MembershipContext} {w : TenancyWrite}

/-! ## 1. Outcomes -/

theorem exec_eq_ok (h : exec lower db t = (locks, .ok t')) : ∃ next ws,
    statement lower (db.applyAll t.written) t.point = (locks, .ok (next, ws)) ∧
      t' = ⟨next, t.written ++ ws⟩ := by
  unfold exec at h
  obtain ⟨hlocks, hnext⟩ := Prod.ext_iff.mp h
  cases hout : statement lower (db.applyAll t.written) t.point with
  | mk ls outcome =>
      rw [hout] at hlocks hnext
      cases outcome with
      | error e => cases hnext
      | ok x =>
          cases hlocks
          cases hnext
          exact ⟨x.1, x.2, rfl, rfl⟩

theorem reads_eq_ok {outcome : Except TenancyRefusal Point} :
    reads outcome = (locks, .ok (next, ws)) ↔ locks = [] ∧ ws = [] ∧ outcome = .ok next := by
  unfold reads
  cases outcome with
  | error e => simp [Except.map]
  | ok q =>
      simp only [Except.map, Prod.mk.injEq, Except.ok.injEq]
      constructor
      · rintro ⟨rfl, rfl, rfl⟩
        exact ⟨rfl, rfl, rfl⟩
      · rintro ⟨rfl, rfl, rfl⟩
        exact ⟨rfl, rfl, rfl⟩

theorem locked_eq_ok {ls : List Lock} {outcome : Except TenancyRefusal Point} :
    ((ls, outcome.map fun p => (p, [])) : Outcome) = (locks, .ok (next, ws)) ↔
      locks = ls ∧ ws = [] ∧ outcome = .ok next := by
  cases outcome with
  | error e => simp [Except.map]
  | ok q =>
      simp only [Except.map, Prod.mk.injEq, Except.ok.injEq]
      constructor
      · rintro ⟨rfl, rfl, rfl⟩
        exact ⟨rfl, rfl, rfl⟩
      · rintro ⟨rfl, rfl, rfl⟩
        exact ⟨rfl, rfl, rfl⟩

theorem writes_eq_ok {v : TenancyDb} (h : writes lower v w p = (locks, .ok (next, ws))) :
    locks = w.locks lower ∧ ws = [w] ∧ next = p ∧ check lower v w = .ok () := by
  unfold writes at h
  cases hc : check lower v w with
  | error e =>
      rw [hc] at h
      cases h
  | ok x =>
      rw [hc] at h
      cases h
      exact ⟨rfl, rfl, rfl, rfl⟩

/-! ## 2. Authority -/

/-- What the ceiling lets pass is within the bound. -/
theorem within_of_ceiling {ps : List String} {x : Unit} (hm : Within P m)
    (h : assertDelegationCeiling m ps = .ok x) : ∀ p ∈ ps, P p := by
  unfold assertDelegationCeiling at h
  have hbeyond := not_not.mp (refuseIf_eq_ok.mp h)
  exact fun p hp => hm p (hasPermission_of_not_beyond hbeyond hp)

/-- **The loaded roles of a member grant what the bound allows**, unless the member is an owner. -/
theorem within_rolesFor (hs : Sound P O db) (hu : O u → ∀ p, P p) :
    Within P ⟨u, db.rolesFor u⟩ := by
  intro p hp
  obtain ⟨role, hrole, hgrants⟩ := hasPermission_iff.mp hp
  unfold TenancyDb.rolesFor at hrole
  split at hrole
  · obtain ⟨row, hrow, hfound⟩ := List.mem_filterMap.mp hrole
    obtain ⟨hmem, hid⟩ := mem_rolesOf.mp hrow
    cases hr : db.roles.find? row.roleId with
    | none =>
        rw [hr] at hfound
        cases hfound
    | some b =>
        rw [hr] at hfound
        cases hfound
        have hb : b.id = row.roleId := Table.key_of_find? hr
        have howner : db.isOwnerRole row.roleId = b.isOwner := by
          rw [← hb]
          exact isOwnerRole_of_mem (Table.find?_eq_some.mp hr).1
        by_cases hb' : b.isOwner = true
        · exact hu (hs.owners u (isOwnerMember_iff.mpr ⟨row, hmem, hid, howner.trans hb'⟩)) p
        · rcases hs.held row hmem with hheld | hsafe
          · exact absurd (howner.symm.trans hheld) hb'
          · rcases hgrants with hsys | hperm
            · exact absurd hsys hb'
            · rw [← hb] at hsafe
              exact hsafe p hperm
  · cases hrole

/-- No member is counted twice. -/
theorem nodup_ownerRows (hs : Sound P O db) : db.ownerRows.Nodup := by
  have hrows : ∀ u : Uuid,
      (((db.rolesOf u).filter fun r => db.isOwnerRole r.roleId).map fun _ => u).Nodup := by
    intro u
    have hnodup : ((db.rolesOf u).filter fun r => db.isOwnerRole r.roleId).Nodup := by
      have hkeys := db.memberRoles.keys
      rw [List.map_id] at hkeys
      exact (hkeys.filter _).filter _
    have hsame : ∀ x ∈ (db.rolesOf u).filter fun r => db.isOwnerRole r.roleId,
        ∀ y ∈ (db.rolesOf u).filter fun r => db.isOwnerRole r.roleId, x = y := by
      intro x hx y hy
      obtain ⟨hx, hxo⟩ := List.mem_filter.mp hx
      obtain ⟨hy, hyo⟩ := List.mem_filter.mp hy
      have huser := (mem_rolesOf.mp hx).2.trans (mem_rolesOf.mp hy).2.symm
      have hrole := hs.oneOwner _ _ hxo hyo
      cases x
      cases y
      cases huser
      cases hrole
      rfl
    cases hl : (db.rolesOf u).filter fun r => db.isOwnerRole r.roleId with
    | nil => exact List.nodup_nil
    | cons x xs =>
        cases xs with
        | nil => exact List.nodup_singleton u
        | cons y ys =>
            rw [hl] at hnodup hsame
            have hne : x ≠ y := fun he => (List.nodup_cons.mp hnodup).1 (he ▸ List.mem_cons_self)
            have hy : y ∈ x :: y :: ys := List.mem_cons_of_mem x List.mem_cons_self
            exact absurd (hsame x List.mem_cons_self y hy) hne
  refine List.nodup_flatMap.mpr ⟨fun m _ => hrows m.userId, ?_⟩
  have hmembers : (db.members.rows.filter fun m => m.status = .active).Pairwise
      fun a b => a.userId ≠ b.userId :=
    List.Pairwise.filter _ (List.pairwise_map.mp db.members.keys)
  refine hmembers.imp fun {a b} hne => ?_
  intro x hx hy
  obtain ⟨_, _, rfl⟩ := List.mem_map.mp hx
  obtain ⟨_, _, he⟩ := List.mem_map.mp hy
  exact hne he.symm

theorem activeOwner_of_mem (h : u ∈ db.ownerRows) : ActiveOwner db u := by
  obtain ⟨m, hm, hu⟩ := List.mem_flatMap.mp h
  obtain ⟨row, hrow, rfl⟩ := List.mem_map.mp hu
  obtain ⟨hmem, hstatus⟩ := List.mem_filter.mp hm
  obtain ⟨hrow, howner⟩ := List.mem_filter.mp hrow
  obtain ⟨hrow, hid⟩ := mem_rolesOf.mp hrow
  exact ⟨isActive_iff.mpr ⟨m, Table.find?_of_mem hmem, of_decide_eq_true hstatus⟩,
    isOwnerMember_iff.mpr ⟨row, hrow, hid, howner⟩⟩

/-- **Where more than one owner is counted there is another.** -/
theorem otherOwner_of_count (hs : Sound P O db) (h : ¬ db.ownerRows.length ≤ 1) (u : Uuid) :
    OtherOwner db u := by
  have hnodup := nodup_ownerRows hs
  cases hl : db.ownerRows with
  | nil =>
      rw [hl] at h
      exact absurd (Nat.zero_le 1) h
  | cons a as =>
      cases as with
      | nil =>
          rw [hl] at h
          exact absurd (Nat.le_refl 1) h
      | cons b bs =>
          have ha : a ∈ db.ownerRows := by simp [hl]
          have hb : b ∈ db.ownerRows := by simp [hl]
          rw [hl] at hnodup
          by_cases hau : a = u
          · have hne : b ≠ u := by
              rintro rfl
              exact (List.nodup_cons.mp hnodup).1 (hau ▸ List.mem_cons_self)
            exact ⟨b, hne, activeOwner_of_mem hb⟩
          · exact ⟨a, hau, activeOwner_of_mem ha⟩

/-- Someone else owns a business that a member does not. -/
theorem otherOwner_of_not (hs : Sound P O db) (h : db.isOwnerMember u = false) :
    OtherOwner db u := by
  obtain ⟨u', hu'⟩ := hs.owned
  refine ⟨u', ?_, hu'⟩
  rintro rfl
  rw [hu'.2] at h
  cases h

end Reads

/-! ## 3. Points -/

/-- From a point every statement leads to a point whose assumptions hold. -/
def Leads (P : String → Prop) (Actor : Uuid → Prop) (lower : String → String) (db : TenancyDb)
    (held : List Lock) (written : List TenancyWrite) (point : Point) : Prop :=
  ∀ locks next ws, statement lower (db.applyAll written) point = (locks, .ok (next, ws)) →
    Expects P Actor db ⟨next, written ++ ws⟩ (locks ++ held)

section Points

variable {P : String → Prop} {O Actor : Uuid → Prop} {db : TenancyDb} {lower : String → String}
  {held : List Lock} {written ws todo : List TenancyWrite} {next : Point} {u r : Uuid}
  {m : MembershipContext} {w : TenancyWrite}

/-- A point where nothing is written or planned. -/
theorem expects_nil (htodo : next.todo = []) (hok : PointOk P Actor db held [] next) :
    Expects P Actor db ⟨next, []⟩ held := by
  refine ⟨?_, hok⟩
  rw [htodo]
  exact planned_nil

/-- A point after invitations were closed. -/
theorem expects_quiet (htodo : next.todo = []) (hquiet : Quiet written)
    (hok : PointOk P Actor db held written next) : Expects P Actor db ⟨next, written⟩ held := by
  refine ⟨?_, hok⟩
  rw [htodo]
  exact planned_quiet hquiet

theorem quiet_nil : Quiet [] := fun _ hw => absurd hw List.not_mem_nil

theorem quiet_append {ids : List Uuid} {status : InvitationStatus} (h : Quiet written)
    (hstatus : status ≠ .pending) :
    Quiet (written ++ ids.map fun id => .closeInvitation id status) := by
  intro w hw
  rcases List.mem_append.mp hw with hw | hw
  · exact h w hw
  · obtain ⟨id, _, rfl⟩ := List.mem_map.mp hw
    exact ⟨id, status, rfl, hstatus⟩

theorem leads_request {actor : Uuid} {c : Command}
    (hok : PointOk P Actor db held written (.request actor c)) :
    Leads P Actor lower db held written (.request actor c) := by
  obtain ⟨rfl, hactor⟩ := hok
  intro locks next ws hst
  obtain ⟨rfl, rfl, hnext⟩ := reads_eq_ok.mp hst
  split at hnext
  · cases hnext
    exact expects_nil rfl ⟨rfl, hactor⟩
  · cases hnext

/-- What a command checks before its transaction bounds what it may delegate. -/
theorem expects_start {c : Command} (hm : Within P m) (h : start m c = .ok next) :
    Expects P Actor db ⟨next, []⟩ held := by
  cases c with
  | addMember email user roleKey now =>
      simp only [start, bind_eq_ok, refuseIf_eq_ok, exists_const, someOr_eq_ok, pure_eq_ok] at h
      obtain ⟨_, userId, _, rfl⟩ := h
      exact expects_nil rfl ⟨rfl, hm⟩
  | createRole id key name permissions =>
      simp only [start, bind_eq_ok, refuseIf_eq_ok, exists_const, pure_eq_ok] at h
      obtain ⟨_, _, _, _, hceiling, rfl⟩ := h
      have hsafe := within_of_ceiling hm hceiling
      refine ⟨planned_nil.light fun w hw => ?_, trivial⟩
      rcases List.mem_cons.mp hw with rfl | hw
      · exact ⟨rfl, trivial⟩
      · obtain ⟨p, hp, rfl⟩ := List.mem_map.mp hw
        exact ⟨hsafe p hp, trivial⟩
  | updateRole roleId name permissions =>
      cases permissions with
      | none =>
          cases h
          exact expects_nil rfl ⟨rfl, fun ps hps => by cases hps⟩
      | some ps =>
          simp only [start, bind_eq_ok, pure_eq_ok] at h
          obtain ⟨_, _, _, hceiling, rfl⟩ := h
          refine expects_nil rfl ⟨rfl, fun ps' hps => ?_⟩
          cases hps
          exact within_of_ceiling hm hceiling
  | deleteRole roleId replacementRoleKey =>
      cases h
      exact expects_nil rfl ⟨rfl, hm⟩
  | removeMember target =>
      cases h
      exact expects_nil rfl ⟨rfl, trivial⟩
  | suspendMember target =>
      cases h
      exact expects_nil rfl ⟨rfl, trivial⟩
  | reactivateMember target =>
      cases h
      exact expects_nil rfl ⟨rfl, trivial⟩
  | setMemberRoles target roleKeys =>
      simp only [start, bind_eq_ok, refuseIf_eq_ok, exists_const, pure_eq_ok] at h
      obtain ⟨_, rfl⟩ := h
      exact expects_nil rfl ⟨rfl, hm⟩
  | list now =>
      cases h
      exact expects_nil rfl ⟨rfl, trivial⟩
  | invite i =>
      simp only [start, bind_eq_ok, refuseIf_eq_ok, exists_const, pure_eq_ok] at h
      obtain ⟨_, rfl⟩ := h
      exact expects_nil rfl ⟨rfl, hm⟩
  | cancel invitationId =>
      cases h
      exact expects_nil rfl trivial
  | resend r =>
      cases h
      exact expects_nil rfl ⟨rfl, trivial⟩

theorem leads_authorize {actor : Uuid} {c : Command} (hs : Sound P O db)
    (hactor : ∀ u, Actor u → O u → ∀ p, P p)
    (hok : PointOk P Actor db held written (.authorize actor c)) :
    Leads P Actor lower db held written (.authorize actor c) := by
  obtain ⟨rfl, ha⟩ := hok
  intro locks next ws hst
  obtain ⟨rfl, rfl, hnext⟩ := reads_eq_ok.mp hst
  unfold authorize at hnext
  simp only [bind_eq_ok, refuseIf_eq_ok, exists_const] at hnext
  exact expects_start (within_rolesFor hs (hactor actor ha)) hnext.2

/-! ### Members -/

theorem leads_addRole {a : Addition} {roleKey : String}
    (hok : PointOk P Actor db held written (.addRole m a roleKey)) :
    Leads P Actor lower db held written (.addRole m a roleKey) := by
  obtain ⟨rfl, hm⟩ := hok
  intro locks next ws hst
  obtain ⟨rfl, rfl, hnext⟩ := reads_eq_ok.mp hst
  simp only [bind_eq_ok, pure_eq_ok] at hnext
  obtain ⟨role, _, rfl⟩ := hnext
  exact expects_nil rfl ⟨rfl, hm⟩

theorem leads_addCeiling {a : Addition}
    (hok : PointOk P Actor db held written (.addCeiling m a r)) :
    Leads P Actor lower db held written (.addCeiling m a r) := by
  obtain ⟨rfl, hm⟩ := hok
  intro locks next ws hst
  obtain ⟨rfl, rfl, hnext⟩ := reads_eq_ok.mp hst
  simp only [bind_eq_ok, pure_eq_ok] at hnext
  obtain ⟨_, hceiling, rfl⟩ := hnext
  exact expects_nil rfl ⟨rfl, within_of_ceiling hm hceiling⟩

theorem leads_lockAuthority {j : MemberJob}
    (hok : PointOk P Actor db held written (.lockAuthority j)) :
    Leads P Actor lower db held written (.lockAuthority j) := by
  obtain ⟨rfl, hj⟩ := hok
  intro locks next ws hst
  cases hst
  exact expects_nil rfl ⟨rfl, hj, List.mem_cons_self⟩

/-- A member that is neither seated nor suspended is removed. -/
theorem removed_of_not {status : MembershipStatus} (hnot : ¬ (status = .active ∨ status = .invited))
    (hsuspended : status ≠ .suspended) : status = .removed := by
  cases status with
  | invited => exact absurd (.inr rfl) hnot
  | active => exact absurd (.inl rfl) hnot
  | suspended => exact absurd rfl hsuspended
  | removed => rfl

/-- The status under the lock says what the member is. -/
theorem expects_underMemberLock {j : MemberJob} {row : Membership} (hj : j.Ok P db)
    (hauth : .authority ∈ held) (hlock : .member j.target ∈ held)
    (hrow : db.members.find? j.target = some row)
    (h : underMemberLock j row.status = .ok next) : Expects P Actor db ⟨next, []⟩ held := by
  have hdemoting : row.status = .active → Demoting db held j.target := by
    intro hactive
    refine ⟨hauth, hlock, row, hrow, ?_⟩
    rw [hactive]
    exact MembershipStatus.noConfusion
  cases j with
  | add a roleId =>
      simp only [underMemberLock, bind_eq_ok, refuseIf_eq_ok, exists_const, pure_eq_ok] at h
      obtain ⟨hnot, hsuspended, rfl⟩ := h
      exact expects_nil rfl ⟨rfl, hj, hlock, row, hrow, removed_of_not hnot hsuspended⟩
  | setRoles m target roleKeys =>
      simp only [underMemberLock, bind_eq_ok, refuseIf_eq_ok, exists_const, pure_eq_ok, ne_eq,
        not_not] at h
      obtain ⟨hactive, rfl⟩ := h
      exact expects_nil rfl ⟨rfl, hj, hdemoting hactive, fun _ hr => absurd hr List.not_mem_nil⟩
  | remove target =>
      simp only [underMemberLock, bind_eq_ok, refuseIf_eq_ok, exists_const, pure_eq_ok, ne_eq,
        not_not] at h
      obtain ⟨hactive, rfl⟩ := h
      exact expects_nil rfl ⟨rfl, hdemoting hactive, trivial⟩
  | suspend target =>
      simp only [underMemberLock, bind_eq_ok, refuseIf_eq_ok, exists_const, pure_eq_ok, ne_eq,
        not_not] at h
      obtain ⟨hactive, rfl⟩ := h
      exact expects_nil rfl ⟨rfl, hdemoting hactive, trivial⟩
  | reactivate target =>
      simp only [underMemberLock, bind_eq_ok, refuseIf_eq_ok, exists_const, pure_eq_ok] at h
      obtain ⟨_, rfl⟩ := h
      exact ⟨planned_status hlock MembershipStatus.noConfusion (.inl rfl), trivial⟩

theorem leads_lockMember {j : MemberJob} (hok : PointOk P Actor db held written (.lockMember j)) :
    Leads P Actor lower db held written (.lockMember j) := by
  obtain ⟨rfl, hj, hauth⟩ := hok
  intro locks next ws hst
  have hst : statement lower db (.lockMember j) = (locks, .ok (next, ws)) := hst
  cases hrow : db.members.find? j.target with
  | none =>
      simp only [statement, hrow] at hst
      obtain ⟨rfl, rfl, hnext⟩ := reads_eq_ok.mp hst
      cases j with
      | add a roleId =>
          cases hnext
          exact expects_nil rfl ⟨rfl, hj⟩
      | _ => cases hnext
  | some row =>
      simp only [statement, hrow] at hst
      obtain ⟨rfl, rfl, hnext⟩ := locked_eq_ok.mp hst
      exact expects_underMemberLock hj (List.mem_cons_of_mem _ hauth) List.mem_cons_self hrow hnext

theorem leads_findRoles {target : Uuid} {keys : List String} {found : List BusinessRole}
    (hok : PointOk P Actor db held written (.findRoles m target keys found)) :
    Leads P Actor lower db held written (.findRoles m target keys found) := by
  obtain ⟨rfl, hm, hd, hfound⟩ := hok
  intro locks next ws hst
  cases keys with
  | nil =>
      obtain ⟨rfl, rfl, hnext⟩ := reads_eq_ok.mp hst
      cases hnext
      exact expects_nil rfl ⟨rfl, hd, hm, hfound⟩
  | cons key todo =>
      obtain ⟨rfl, rfl, hnext⟩ := reads_eq_ok.mp hst
      simp only [bind_eq_ok, pure_eq_ok] at hnext
      obtain ⟨role, hrole, rfl⟩ := hnext
      have hmem : role ∈ db.roles.rows := findRole_eq_ok hrole
      refine expects_nil rfl ⟨rfl, hm, hd, fun role' hrole' howner => ?_⟩
      rcases List.mem_append.mp hrole' with hrole' | hrole'
      · exact hfound role' hrole' howner
      · rw [List.mem_singleton.mp hrole'] at howner ⊢
        exact (isOwnerRole_of_mem hmem).trans howner

/-- A demotion goes on where another owner is left, or where it grants the owner role again. -/
theorem expects_proceed {target : Uuid} {d : Demotion} (hd : Demoting db held target)
    (hok : d.Ok P db) (hother : OtherOwner db target ∨ ∃ m roles, d = .setRoles m roles ∧
      ∃ role ∈ roles, db.isOwnerRole role.id = true) :
    Expects P Actor db ⟨d.proceed target, []⟩ held := by
  cases d with
  | setRoles m roles =>
      refine expects_nil rfl ⟨rfl, hok.1, hd, ?_⟩
      rcases hother with hother | ⟨m', roles', he, howner⟩
      · exact .inl hother
      · cases he
        exact .inr howner
  | remove =>
      rcases hother with hother | ⟨m', roles', he, _⟩
      · exact expects_nil rfl ⟨quiet_nil, hd.member, .remove hd.authority hother⟩
      · cases he
  | suspend =>
      rcases hother with hother | ⟨m', roles', he, _⟩
      · exact ⟨planned_status hd.member MembershipStatus.noConfusion (.inr ⟨hd.authority, hother⟩),
          trivial⟩
      · cases he

theorem leads_owner {target : Uuid} {d : Demotion} (hs : Sound P O db)
    (hok : PointOk P Actor db held written (.owner target d)) :
    Leads P Actor lower db held written (.owner target d) := by
  obtain ⟨rfl, hd, hdok⟩ := hok
  intro locks next ws hst
  obtain ⟨rfl, rfl, hnext⟩ := reads_eq_ok.mp hst
  have hnext : checkOwner db target d = .ok next := hnext
  have hcount : Expects P Actor db ⟨.ownerCount target d, []⟩ held :=
    expects_nil rfl ⟨rfl, hd, hdok⟩
  have hnone : db.isOwnerMember target = false → Expects P Actor db ⟨d.proceed target, []⟩ held :=
    fun hnot => expects_proceed hd hdok (.inl (otherOwner_of_not hs hnot))
  cases d with
  | setRoles m roles =>
      simp only [checkOwner] at hnext
      split at hnext
      · cases hnext
        exact hcount
      · rename_i hfirst
        split at hnext
        · cases hnext
        · cases hnext
          by_cases hhad : db.isOwnerMember target = true
          · have hkeeps : roles.any BusinessRole.isOwner = true := by
              by_contra hnot
              exact hfirst ⟨hhad, by simpa using hnot⟩
            obtain ⟨role, hrole, howner⟩ := List.any_eq_true.mp hkeeps
            exact expects_proceed hd hdok
              (.inr ⟨m, roles, rfl, role, hrole, hdok.2 role hrole howner⟩)
          · exact hnone (by simpa using hhad)
  | _ =>
      simp only [checkOwner] at hnext
      split at hnext
      · cases hnext
        exact hcount
      · rename_i hhad
        cases hnext
        exact hnone (by simpa using hhad)

theorem Demoting.mono {held' : List Lock} (h : Demoting db held u) (hh : held ⊆ held') :
    Demoting db held' u :=
  ⟨hh h.authority, hh h.member, h.seated⟩

theorem leads_ownerCount {target : Uuid} {d : Demotion} (hs : Sound P O db)
    (hok : PointOk P Actor db held written (.ownerCount target d)) :
    Leads P Actor lower db held written (.ownerCount target d) := by
  obtain ⟨rfl, hd, hdok⟩ := hok
  intro locks next ws hst
  have hst : statement lower db (.ownerCount target d) = (locks, .ok (next, ws)) := hst
  simp only [statement, Prod.mk.injEq] at hst
  obtain ⟨rfl, hnext⟩ := hst
  split at hnext
  · cases hnext
  · rename_i hcount
    cases hnext
    exact expects_proceed (hd.mono fun l hl => List.mem_append_right _ hl) hdok
      (.inl (otherOwner_of_count hs hcount target))

theorem leads_rolesCeiling {target : Uuid} {roles : List BusinessRole}
    (hok : PointOk P Actor db held written (.rolesCeiling m target roles)) :
    Leads P Actor lower db held written (.rolesCeiling m target roles) := by
  obtain ⟨rfl, hm, hd, hother⟩ := hok
  intro locks next ws hst
  obtain ⟨rfl, rfl, hnext⟩ := reads_eq_ok.mp hst
  simp only [bind_eq_ok, pure_eq_ok] at hnext
  obtain ⟨_, hceiling, rfl⟩ := hnext
  have hwithin := within_of_ceiling hm hceiling
  have hsafe : ∀ r ∈ roles.map BusinessRole.id, SafeRole P db r := by
    intro r hr p hp
    obtain ⟨role, hrole, rfl⟩ := List.mem_map.mp hr
    exact hwithin p (List.mem_dedup.mpr (List.mem_flatMap.mpr ⟨role, hrole, hp⟩))
  have hclear : Clearing P db held target
      ((roles.map BusinessRole.id).map fun r => .grant ⟨target, r⟩ false) := by
    refine .assign _ hd.seated hsafe ?_
    rcases hother with hother | ⟨role, hrole, howner⟩
    · exact .inl ⟨hd.authority, hother⟩
    · exact .inr ⟨role.id, List.mem_map_of_mem hrole, howner⟩
  rw [List.map_map] at hclear
  exact expects_nil rfl ⟨quiet_nil, hd.member, hclear⟩

theorem leads_purge {a : Addition} (hs : Sound P O db)
    (hok : PointOk P Actor db held written (.purge a r)) :
    Leads P Actor lower db held written (.purge a r) := by
  obtain ⟨rfl, hsafe, _, hremoved⟩ := hok
  intro locks next ws hst
  have hst : revokeAll (db.rolesOf a.userId) (.cancelPending a r) = (locks, .ok (next, ws)) := hst
  rw [rolesOf_removed hs hremoved] at hst
  cases hst
  exact expects_nil rfl ⟨rfl, hsafe⟩

theorem leads_cancelPending {a : Addition}
    (hok : PointOk P Actor db held written (.cancelPending a r)) :
    Leads P Actor lower db held written (.cancelPending a r) := by
  obtain ⟨rfl, hsafe⟩ := hok
  intro locks next ws hst
  cases hst
  have hquiet := @quiet_append [] (openInvitations lower db a.email a.now) .cancelled quiet_nil
    InvitationStatus.noConfusion
  exact expects_quiet rfl hquiet ⟨hquiet, hsafe⟩

theorem leads_upsert (hok : PointOk P Actor db held written (.upsert u r)) :
    Leads P Actor lower db held written (.upsert u r) := by
  obtain ⟨hquiet, hsafe⟩ := hok
  intro locks next ws hst
  simp only [statement, (quiet_applyAll hquiet).2.2.1, Prod.mk.injEq, Except.ok.injEq] at hst
  obtain ⟨rfl, rfl, rfl⟩ := hst
  have hfalse : false = true → db.isOwnerRole r = false := fun h => absurd h Bool.false_ne_true
  refine ⟨?_, trivial⟩
  cases hu : db.members.find? u with
  | none =>
      have hseated := seated_insertMember hu ⟨u, r⟩ false
      exact planned_seat hquiet List.mem_cons_self (.inr rfl) hseated hsafe hfalse
  | some row =>
      have hmember : db.members.find? u ≠ none := by
        rw [hu]
        exact Option.some_ne_none row
      have hseated := seated_setStatus hmember ⟨u, r⟩ false
      exact planned_seat hquiet List.mem_cons_self (.inl rfl) hseated hsafe hfalse

theorem leads_clear (hs : Sound P O db) (hok : PointOk P Actor db held written (.clear u todo)) :
    Leads P Actor lower db held written (.clear u todo) := by
  obtain ⟨hquiet, hlock, hclear⟩ := hok
  intro locks next ws hst
  have hroles : (db.applyAll written).rolesOf u = db.rolesOf u := by
    unfold TenancyDb.rolesOf
    rw [(quiet_applyAll hquiet).2.2.2]
  simp only [statement, revokeAll, hroles, Prod.mk.injEq, Except.ok.injEq] at hst
  obtain ⟨rfl, rfl, rfl⟩ := hst
  exact ⟨planned_clear hs hquiet hlock hclear, trivial⟩

end Points

end Daftar.Tenancy
