/-
  File: Daftar/Tenancy/TenancyStatements.lean
  Subject: What the statements on roles and invitations establish, and with them every statement.

  * A role under its lock is no system role, and what replaces it is no owner role.
  * An invitation offers what its sender may delegate; what is accepted was offered.
  * `Expects.statement`: every statement leads to a point whose assumptions hold.
-/

import Daftar.Tenancy.TenancySteps

namespace Daftar.Tenancy

open Fallible
open LockedTransactions
open Tables

section Points

variable {P : String → Prop} {O Actor : Uuid → Prop} {db : TenancyDb} {lower : String → String}
  {held : List Lock} {written ws todo : List TenancyWrite} {next : Point} {u r : Uuid}
  {m : MembershipContext} {w : TenancyWrite}

/-! ## 1. Roles -/

/-- A role that may be changed is no system role. -/
theorem expects_underRoleLock {role : BusinessRole} {j : RoleJob} (hj : j.Ok P)
    (hrow : role ∈ db.roles.rows) (h : underRoleLock role j = .ok next) :
    Expects P Actor db ⟨next, []⟩ held := by
  cases j with
  | update name permissions =>
      simp only [underRoleLock, bind_eq_ok, refuseIf_eq_ok, exists_const, pure_eq_ok] at h
      obtain ⟨_, rfl⟩ := h
      exact expects_nil rfl ⟨rfl, hj⟩
  | delete m replacementRoleKey =>
      simp only [underRoleLock, bind_eq_ok, refuseIf_eq_ok, exists_const, pure_eq_ok,
        Bool.not_eq_true] at h
      obtain ⟨hsystem, rfl⟩ := h
      have howner : db.isOwnerRole role.id = false :=
        (isOwnerRole_of_mem hrow).trans (TenancyDb.isOwner_of_not_system hsystem)
      exact expects_nil rfl ⟨rfl, hj, howner⟩

/-- The row that is locked is the one the command goes on with. -/
theorem leads_lockRole {j : RoleJob} (hok : PointOk P Actor db held written (.lockRole r j)) :
    Leads P Actor lower db held written (.lockRole r j) := by
  obtain ⟨rfl, hj⟩ := hok
  intro locks next ws hst
  have hst : statement lower db (.lockRole r j) = (locks, .ok (next, ws)) := hst
  cases hrow : db.roles.find? r with
  | none =>
      simp only [statement, hrow] at hst
      cases (reads_eq_ok.mp hst).2.2
  | some role =>
      simp only [statement, hrow] at hst
      obtain ⟨rfl, rfl, hnext⟩ := locked_eq_ok.mp hst
      exact expects_underRoleLock hj (Table.find?_eq_some.mp hrow).1 hnext

/-- Renaming is the first write of an update; the permissions that follow are within bounds. -/
theorem leads_rename {name : String} {permissions : Option (List String)}
    (hok : PointOk P Actor db held written (.rename r name permissions)) :
    Leads P Actor lower db held written (.rename r name permissions) := by
  obtain ⟨rfl, hperms⟩ := hok
  intro locks next ws hst
  obtain ⟨rfl, rfl, rfl, _⟩ := writes_eq_ok hst
  have hplan : Planned P db (TenancyWrite.locks lower (.renameRole r name) ++ held)
      ([] ++ [.renameRole r name]) [] := by
    refine planned_nil.light fun w hw => ?_
    rw [List.mem_singleton.mp hw]
    exact ⟨trivial, trivial⟩
  cases permissions with
  | none => exact ⟨hplan, trivial⟩
  | some ps =>
      refine ⟨hplan, fun w hw => ?_⟩
      obtain ⟨p, hp, rfl⟩ := List.mem_map.mp hw
      exact ⟨hperms ps rfl p hp, trivial⟩

/-- A role without holders is deleted, one with holders needs a replacement. -/
theorem leads_assigned {key : Option String}
    (hok : PointOk P Actor db held written (.assigned m r key)) :
    Leads P Actor lower db held written (.assigned m r key) := by
  obtain ⟨rfl, hm, howner⟩ := hok
  intro locks next ws hst
  obtain ⟨rfl, rfl, hnext⟩ := reads_eq_ok.mp hst
  have hnext : checkAssigned db m r key = .ok next := hnext
  simp only [checkAssigned] at hnext
  split at hnext
  · simp only [bind_eq_ok, someOr_eq_ok, pure_eq_ok] at hnext
    obtain ⟨k, _, rfl⟩ := hnext
    exact expects_nil rfl ⟨rfl, hm, howner⟩
  · cases hnext
    refine expects_nil rfl fun w hw => ?_
    rw [List.mem_singleton.mp hw]
    exact ⟨howner, trivial⟩

/-- The replacement is another role, and not the owner's. -/
theorem leads_replacement {key : String}
    (hok : PointOk P Actor db held written (.replacement m r key)) :
    Leads P Actor lower db held written (.replacement m r key) := by
  obtain ⟨rfl, hm, howner⟩ := hok
  intro locks next ws hst
  obtain ⟨rfl, rfl, hnext⟩ := reads_eq_ok.mp hst
  simp only [bind_eq_ok, refuseIf_eq_ok, exists_const, pure_eq_ok] at hnext
  obtain ⟨role, _, _, _, rfl⟩ := hnext
  exact expects_nil rfl ⟨rfl, hm, howner⟩

/-- What the replacement permits is within what the actor may grant. -/
theorem leads_replacementCeiling {replacement : Uuid}
    (hok : PointOk P Actor db held written (.replacementCeiling m r replacement)) :
    Leads P Actor lower db held written (.replacementCeiling m r replacement) := by
  obtain ⟨rfl, hm, howner⟩ := hok
  intro locks next ws hst
  obtain ⟨rfl, rfl, hnext⟩ := reads_eq_ok.mp hst
  simp only [bind_eq_ok, pure_eq_ok] at hnext
  obtain ⟨_, hceiling, rfl⟩ := hnext
  exact expects_nil rfl ⟨rfl, howner, within_of_ceiling hm hceiling⟩

/-- Rows of the role go where their member has the replacement already. -/
theorem leads_dropDuplicates {replacement : Uuid}
    (hok : PointOk P Actor db held written (.dropDuplicates r replacement)) :
    Leads P Actor lower db held written (.dropDuplicates r replacement) := by
  obtain ⟨rfl, howner, hsafe⟩ := hok
  intro locks next ws hst
  have hrows : ∀ row ∈ (db.holdersOf r).filter fun x =>
      (db.memberRoles.find? ⟨x.userId, replacement⟩).isSome, row.roleId = r :=
    fun row hrow => (mem_holdersOf.mp (List.mem_filter.mp hrow).1).2
  cases hst
  refine ⟨planned_moves howner hsafe ?_, ?_, howner, hsafe⟩
  · intro w hw
    obtain ⟨row, hrow, rfl⟩ := List.mem_map.mp hw
    exact .inl ⟨row, rfl, hrows row hrow, List.mem_append_left _ (List.mem_map_of_mem hrow)⟩
  · intro w hw
    obtain ⟨row, hrow, rfl⟩ := List.mem_map.mp hw
    exact ⟨row, rfl, hrows row hrow⟩

/-- Each row left becomes one of the replacement, under the lock of the row. -/
theorem leads_reassign {replacement : Uuid} (hplan : Planned P db held written [])
    (hok : PointOk P Actor db held written (.reassign r replacement)) :
    Leads P Actor lower db held written (.reassign r replacement) := by
  obtain ⟨hwritten, howner, hsafe⟩ := hok
  intro locks next ws hst
  have hst : reassignRows (db.applyAll written) r replacement = (locks, .ok (next, ws)) := hst
  have hrows : ∀ row ∈ (db.applyAll written).holdersOf r,
      row ∈ db.memberRoles.rows ∧ row.roleId = r := by
    intro row hrow
    obtain ⟨hmem, hid⟩ := mem_holdersOf.mp hrow
    refine ⟨?_, hid⟩
    rcases TenancyDb.mem_memberRoles_applyAll hmem with ⟨trusted, hgrant⟩ | ⟨hold, _⟩
    · obtain ⟨row', he, _⟩ := hwritten _ hgrant
      cases he
    · exact hold
  simp only [reassignRows, Prod.mk.injEq, bind_eq_ok, refuseIf_eq_ok, exists_const, pure_eq_ok,
    isOwnerRole_writes hplan.written_safe] at hst
  obtain ⟨rfl, hnotOwner, _, _, rfl, rfl⟩ := hst
  refine ⟨planned_moves howner hsafe fun w hw => ?_, ?_⟩
  · rcases List.mem_append.mp hw with hw | hw
    · obtain ⟨row, rfl, hid⟩ := hwritten w hw
      exact .inl ⟨row, rfl, hid, List.mem_append_right _
        (hplan.ordered.revoked row (List.mem_append_left _ hw))⟩
    · obtain ⟨row, hrow, hw⟩ := List.mem_flatMap.mp hw
      obtain ⟨hold, hid⟩ := hrows row hrow
      have hlock : Lock.memberRole row ∈ (((db.applyAll written).holdersOf r).flatMap fun r =>
          [.memberRole r, .memberRole ⟨r.userId, replacement⟩, .roleKey replacement]) ++ held :=
        List.mem_append_left _ (List.mem_flatMap.mpr ⟨row, hrow, List.mem_cons_self⟩)
      have hreplacement : db.isOwnerRole replacement = false := by
        by_contra hnot
        exact hnotOwner ⟨List.ne_nil_of_mem hrow, by simpa using hnot⟩
      rcases List.mem_cons.mp hw with rfl | hw
      · exact .inl ⟨row, rfl, hid, hlock⟩
      · rw [List.mem_singleton.mp hw]
        exact .inr ⟨row, hold, rfl, hlock, hreplacement⟩
  · intro w hw
    rw [List.mem_singleton.mp hw]
    exact ⟨howner, trivial⟩

/-- Deleting permissions puts nothing into circulation. -/
theorem leads_clearPermissions (hplan : Planned P db held written [])
    (hok : PointOk P Actor db held written (.clearPermissions r todo)) :
    Leads P Actor lower db held written (.clearPermissions r todo) := by
  have hok : ∀ w ∈ todo, WriteSafe P db w ∧ IsLight w := hok
  intro locks next ws hst
  cases hst
  refine ⟨(hplan.light fun w hw => ?_).mono fun l hl => List.mem_append_right _ hl, trivial⟩
  rcases List.mem_append.mp hw with hw | hw
  · obtain ⟨p, _, rfl⟩ := List.mem_map.mp hw
    exact ⟨trivial, trivial⟩
  · exact hok w hw

/-! ## 2. Invitations -/

theorem leads_invitee {i : Invite} (hok : PointOk P Actor db held written (.invitee m i)) :
    Leads P Actor lower db held written (.invitee m i) := by
  obtain ⟨rfl, hm⟩ := hok
  intro locks next ws hst
  obtain ⟨rfl, rfl, hnext⟩ := reads_eq_ok.mp hst
  split at hnext
  · cases hnext
  · cases hnext
    exact expects_nil rfl ⟨rfl, hm⟩

theorem leads_sweep {now : ℤ} {s : Sweep} (hok : PointOk P Actor db held written (.sweep now s)) :
    Leads P Actor lower db held written (.sweep now s) := by
  obtain ⟨rfl, hsweep⟩ := hok
  intro locks next ws hst
  have hquiet := @quiet_append [] (expiredInvitations db now) .expired quiet_nil
    InvitationStatus.noConfusion
  cases s with
  | list =>
      cases hst
      exact expects_quiet rfl hquiet trivial
  | invite m i =>
      cases hst
      exact expects_quiet rfl hquiet ⟨hquiet, hsweep⟩
  | resend x =>
      cases hst
      exact expects_quiet rfl hquiet trivial

/-- A system role is never offered, so the owner's is not. -/
theorem leads_inviteRole {i : Invite} (hok : PointOk P Actor db held written (.inviteRole m i)) :
    Leads P Actor lower db held written (.inviteRole m i) := by
  obtain ⟨hquiet, hm⟩ := hok
  intro locks next ws hst
  obtain ⟨rfl, rfl, hnext⟩ := reads_eq_ok.mp hst
  simp only [bind_eq_ok, refuseIf_eq_ok, exists_const, pure_eq_ok, Bool.not_eq_true] at hnext
  obtain ⟨role, hrole, hsystem, rfl⟩ := hnext
  have hmem := findRole_eq_ok hrole
  rw [(quiet_applyAll hquiet).1] at hmem
  have howner : db.isOwnerRole role.id = false :=
    (isOwnerRole_of_mem hmem).trans (TenancyDb.isOwner_of_not_system hsystem)
  rw [List.append_nil]
  exact expects_quiet rfl hquiet ⟨hquiet, hm, howner⟩

/-- The view of a transaction that has closed invitations has the roles and members there are. -/
theorem safeRole_quiet (hquiet : Quiet written) :
    (∀ p ∈ (db.applyAll written).permissionsOf r, P p) ↔ SafeRole P db r := by
  unfold TenancyDb.permissionsOf SafeRole
  rw [(quiet_applyAll hquiet).2.1]
  exact Iff.rfl

/-- What is offered is within what the actor may grant. -/
theorem leads_inviteCeiling {i : Invite}
    (hok : PointOk P Actor db held written (.inviteCeiling m i r)) :
    Leads P Actor lower db held written (.inviteCeiling m i r) := by
  obtain ⟨hquiet, hm, howner⟩ := hok
  intro locks next ws hst
  obtain ⟨rfl, rfl, hnext⟩ := reads_eq_ok.mp hst
  simp only [bind_eq_ok, pure_eq_ok] at hnext
  obtain ⟨_, hceiling, rfl⟩ := hnext
  rw [List.append_nil]
  exact expects_quiet rfl hquiet
    ⟨hquiet, howner, (safeRole_quiet hquiet).mp (within_of_ceiling hm hceiling)⟩

theorem leads_inviteDuplicate {i : Invite}
    (hok : PointOk P Actor db held written (.inviteDuplicate i r)) :
    Leads P Actor lower db held written (.inviteDuplicate i r) := by
  obtain ⟨hquiet, howner, hsafe⟩ := hok
  intro locks next ws hst
  obtain ⟨rfl, rfl, hnext⟩ := reads_eq_ok.mp hst
  simp only [bind_eq_ok, refuseIf_eq_ok, exists_const, pure_eq_ok] at hnext
  obtain ⟨_, rfl⟩ := hnext
  have hplan : Planned P db held written [] := planned_quiet hquiet
  refine ⟨hplan.light fun w hw => ?_, trivial⟩
  rw [List.mem_singleton.mp hw]
  exact ⟨⟨howner, hsafe⟩, trivial⟩

/-- A write on no member is the last of a transaction. -/
theorem expects_light (hplan : Planned P db held written []) (hw : WriteSafe P db w)
    (hlight : IsLight w) :
    Expects P Actor db ⟨.write [], written ++ [w]⟩ (w.locks lower ++ held) := by
  refine ⟨(hplan.light fun v hv => ?_).mono fun l hl => List.mem_append_right _ hl, trivial⟩
  rw [List.mem_singleton.mp hv]
  exact ⟨hw, hlight⟩

/-- A transaction that has made its writes. -/
theorem expects_done (hplan : Planned P db held written []) (htodo : next.todo = [])
    (hok : PointOk P Actor db held written next) :
    Expects P Actor db ⟨next, written ++ []⟩ ([] ++ held) := by
  rw [List.append_nil]
  refine ⟨?_, hok⟩
  rw [htodo]
  exact hplan

theorem leads_cancel {id : Uuid} (hplan : Planned P db held written []) :
    Leads P Actor lower db held written (.cancel id) := by
  intro locks next ws hst
  simp only [statement] at hst
  split at hst
  · obtain ⟨rfl, rfl, rfl, _⟩ := writes_eq_ok hst
    exact expects_light hplan (fun he => by cases he) trivial
  · cases (reads_eq_ok.mp hst).2.2

theorem leads_resend {x : Resend} (hplan : Planned P db held written []) :
    Leads P Actor lower db held written (.resend x) := by
  intro locks next ws hst
  obtain ⟨rfl, rfl, hnext⟩ := reads_eq_ok.mp hst
  simp only [bind_eq_ok, someOr_eq_ok, refuseIf_eq_ok, exists_const, pure_eq_ok] at hnext
  obtain ⟨i, _, _, rfl⟩ := hnext
  exact expects_done hplan rfl trivial

theorem leads_rotate {x : Resend} (hplan : Planned P db held written []) :
    Leads P Actor lower db held written (.rotate x) := by
  intro locks next ws hst
  simp only [statement] at hst
  split at hst
  · obtain ⟨rfl, rfl, rfl, _⟩ := writes_eq_ok hst
    exact expects_light hplan trivial trivial
  · cases (reads_eq_ok.mp hst).2.2

theorem leads_expire {id : Uuid} (hplan : Planned P db held written []) :
    Leads P Actor lower db held written (.expire id) := by
  intro locks next ws hst
  simp only [statement] at hst
  split at hst
  · obtain ⟨rfl, rfl, rfl, _⟩ := writes_eq_ok hst
    exact expects_light hplan (fun he => by cases he) trivial
  · obtain ⟨rfl, rfl, hnext⟩ := reads_eq_ok.mp hst
    cases hnext
    exact expects_done hplan rfl trivial

theorem leads_peek {a : Acceptance} (hok : PointOk P Actor db held written (.peek a)) :
    Leads P Actor lower db held written (.peek a) := by
  obtain rfl : written = [] := hok
  intro locks next ws hst
  obtain ⟨rfl, rfl, hnext⟩ := reads_eq_ok.mp hst
  simp only [bind_eq_ok, someOr_eq_ok, pure_eq_ok] at hnext
  obtain ⟨i, _, rfl⟩ := hnext
  split
  · exact expects_nil rfl trivial
  · exact expects_nil rfl rfl

/-- What is accepted was offered, and no owner role is. -/
theorem leads_acceptToken {a : Acceptance} (hs : Sound P O db)
    (hok : PointOk P Actor db held written (.acceptToken a)) :
    Leads P Actor lower db held written (.acceptToken a) := by
  obtain rfl : written = [] := hok
  intro locks next ws hst
  have hst : acceptToken lower db a = (locks, .ok (next, ws)) := hst
  unfold acceptToken at hst
  cases hi : pendingByToken db a.tokenHash with
  | none =>
      rw [hi] at hst
      cases hst
  | some i =>
      rw [hi] at hst
      simp only [Prod.mk.injEq, bind_eq_ok, someOr_eq_ok, refuseIf_eq_ok, exists_const,
        pure_eq_ok] at hst
      obtain ⟨rfl, email, _, _, rfl, rfl⟩ := hst
      have hfound := List.find?_some hi
      simp only [decide_eq_true_eq] at hfound
      have hoffered := hs.offered i (List.mem_of_find?_eq_some hi) hfound.2
      have hquiet := @quiet_append [] [i.id] .accepted quiet_nil InvitationStatus.noConfusion
      exact expects_quiet rfl hquiet ⟨hquiet, hoffered⟩

/-- A removed member takes its seat again under the offered role alone. -/
theorem leads_acceptMember (hok : PointOk P Actor db held written (.acceptMember u r)) :
    Leads P Actor lower db held written (.acceptMember u r) := by
  obtain ⟨hquiet, howner, hsafe⟩ := hok
  intro locks next ws hst
  have hst : acceptMember (db.applyAll written) u r = (locks, .ok (next, ws)) := hst
  unfold acceptMember at hst
  rw [(quiet_applyAll hquiet).2.2.1] at hst
  cases hu : db.members.find? u with
  | none =>
      rw [hu] at hst
      cases hst
      rw [List.append_nil]
      exact expects_quiet rfl hquiet ⟨hquiet, howner, hsafe⟩
  | some row =>
      rw [hu] at hst
      simp only [Prod.mk.injEq, bind_eq_ok, refuseIf_eq_ok, exists_const, pure_eq_ok] at hst
      obtain ⟨rfl, hnot, hsuspended, rfl, rfl⟩ := hst
      have hremoved : Removed db u := ⟨row, hu, removed_of_not hnot hsuspended⟩
      rw [List.append_nil]
      exact expects_quiet rfl hquiet
        ⟨hquiet, List.mem_cons_self, .rejoin r hremoved howner hsafe⟩

/-- A new member joins under the offered role. -/
theorem leads_join (hok : PointOk P Actor db held written (.join u r)) :
    Leads P Actor lower db held written (.join u r) := by
  obtain ⟨hquiet, howner, hsafe⟩ := hok
  intro locks next ws hst
  obtain ⟨rfl, rfl, rfl, hcheck⟩ := writes_eq_ok hst
  have hfree : ¬ ((db.applyAll written).members.find? u).isSome = true := refuseIf_eq_ok.mp hcheck
  rw [(quiet_applyAll hquiet).2.2.1] at hfree
  have hu : db.members.find? u = none := by simpa using hfree
  exact ⟨planned_seat hquiet List.mem_cons_self (.inr rfl) (seated_insertMember hu _ _) hsafe
    fun _ => howner, trivial⟩

/-- A listed write was safe when it was listed, and no commit in between has changed that. -/
theorem leads_write (hplan : Planned P db held written todo) :
    Leads P Actor lower db held written (.write todo) := by
  intro locks next ws hst
  cases todo with
  | nil =>
      obtain ⟨rfl, rfl, hnext⟩ := reads_eq_ok.mp hst
      cases hnext
      exact expects_done hplan rfl trivial
  | cons w todo =>
      obtain ⟨rfl, rfl, rfl, hcheck⟩ := writes_eq_ok hst
      exact ⟨hplan.write hcheck, trivial⟩

/-! ## 3. Statements -/

/-- **Every statement leads to a point whose assumptions hold**, whoever acts being bound. -/
theorem Expects.statement {t t' : Tx} {locks : List Lock} (hs : Sound P O db)
    (hactor : ∀ u, Actor u → O u → ∀ p, P p) (h : Expects P Actor db t held)
    (hexec : exec lower db t = (locks, .ok t')) : Expects P Actor db t' (locks ++ held) := by
  obtain ⟨next, ws, hst, rfl⟩ := exec_eq_ok hexec
  obtain ⟨point, written⟩ := t
  have hplan := h.planned
  have hok := h.point
  have hleads : Leads P Actor lower db held written point := by
    cases point with
    | request actor c => exact leads_request hok
    | authorize actor c => exact leads_authorize hs hactor hok
    | addRole m a roleKey => exact leads_addRole hok
    | addCeiling m a roleId => exact leads_addCeiling hok
    | lockAuthority j => exact leads_lockAuthority hok
    | lockMember j => exact leads_lockMember hok
    | findRoles m target keys found => exact leads_findRoles hok
    | owner target d => exact leads_owner hs hok
    | ownerCount target d => exact leads_ownerCount hs hok
    | rolesCeiling m target roles => exact leads_rolesCeiling hok
    | purge a roleId => exact leads_purge hs hok
    | cancelPending a roleId => exact leads_cancelPending hok
    | upsert userId roleId => exact leads_upsert hok
    | clear userId todo => exact leads_clear hs hok
    | lockRole roleId j => exact leads_lockRole hok
    | rename roleId name permissions => exact leads_rename hok
    | assigned m roleId key => exact leads_assigned hok
    | replacement m roleId key => exact leads_replacement hok
    | replacementCeiling m roleId replacement => exact leads_replacementCeiling hok
    | dropDuplicates roleId replacement => exact leads_dropDuplicates hok
    | reassign roleId replacement => exact leads_reassign hplan hok
    | clearPermissions roleId todo => exact leads_clearPermissions hplan hok
    | invitee m i => exact leads_invitee hok
    | sweep now s => exact leads_sweep hok
    | inviteRole m i => exact leads_inviteRole hok
    | inviteCeiling m i roleId => exact leads_inviteCeiling hok
    | inviteDuplicate i roleId => exact leads_inviteDuplicate hok
    | cancel id => exact leads_cancel hplan
    | resend x => exact leads_resend hplan
    | rotate x => exact leads_rotate hplan
    | peek a => exact leads_peek hok
    | expire id => exact leads_expire hplan
    | acceptToken a => exact leads_acceptToken hs hok
    | acceptMember userId roleId => exact leads_acceptMember hok
    | join userId roleId => exact leads_join hok
    | write todo => exact leads_write hplan
  exact hleads locks next ws hst

end Points

end Daftar.Tenancy
