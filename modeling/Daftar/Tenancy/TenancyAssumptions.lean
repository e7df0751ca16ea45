/-
  File: Daftar/Tenancy/TenancyAssumptions.lean
  Subject: What holds at every point of a command, under its locks.

  * `PointOk` names, point by point, what the checks before it have established.
  * `Expects.stable`: it survives the commits of others.
  * Member writes are planned in one of four ways, `planned_member` is what they share.
-/

import Daftar.Tenancy.TenancyOutline

namespace Daftar.Tenancy

open Fallible
open LockedTransactions
open Tables

/-! ## 1. Points -/

/-- The roles of the one who acts grant only what the bound allows. -/
def Within (P : String → Prop) (m : MembershipContext) : Prop :=
  ∀ p, hasPermission m.roles p = true → P p

def OtherOwner (db : TenancyDb) (u : Uuid) : Prop := ∃ u', u' ≠ u ∧ ActiveOwner db u'

def Removed (db : TenancyDb) (u : Uuid) : Prop :=
  ∃ m, db.members.find? u = some m ∧ m.status = .removed

/-- Only invitations are closed. -/
def Quiet (written : List TenancyWrite) : Prop :=
  ∀ w ∈ written, ∃ id status, w = .closeInvitation id status ∧ status ≠ .pending

/-- A write that is on no member. -/
def IsLight : TenancyWrite → Prop
  | .insertMember _ => False
  | .setStatus _ _ => False
  | .grant _ _ => False
  | .revoke _ => False
  | _ => True

/-- The member of a job is locked, and so are the owners. -/
structure Demoting (db : TenancyDb) (held : List Lock) (target : Uuid) : Prop where
  authority : .authority ∈ held
  member : .member target ∈ held
  seated : Seated db target

/-- Roles that were found as owner roles are. -/
def Found (db : TenancyDb) (roles : List BusinessRole) : Prop :=
  ∀ role ∈ roles, role.isOwner = true → db.isOwnerRole role.id = true

/-- What is written once the roles of a member are cleared. -/
inductive Clearing (P : String → Prop) (db : TenancyDb) (held : List Lock) (u : Uuid) :
    List TenancyWrite → Prop
  | remove (hlock : .authority ∈ held) (hother : OtherOwner db u) :
      Clearing P db held u [.setStatus u .removed]
  | assign (roles : List Uuid) (hseated : Seated db u) (hsafe : ∀ r ∈ roles, SafeRole P db r)
      (hother : (.authority ∈ held ∧ OtherOwner db u) ∨ ∃ r ∈ roles, db.isOwnerRole r = true) :
      Clearing P db held u (roles.map fun r => .grant ⟨u, r⟩ false)
  | rejoin (r : Uuid) (hremoved : Removed db u) (hrole : db.isOwnerRole r = false)
      (hsafe : SafeRole P db r) :
      Clearing P db held u [.setStatus u .active, .grant ⟨u, r⟩ true]

def MemberJob.Ok (P : String → Prop) (db : TenancyDb) : MemberJob → Prop
  | add _ roleId => SafeRole P db roleId
  | setRoles m _ _ => Within P m
  | _ => True

def Demotion.Ok (P : String → Prop) (db : TenancyDb) : Demotion → Prop
  | setRoles m roles => Within P m ∧ Found db roles
  | _ => True

def RoleJob.Ok (P : String → Prop) : RoleJob → Prop
  | update _ permissions => ∀ ps, permissions = some ps → ∀ p ∈ ps, P p
  | delete m _ => Within P m

def Sweep.Ok (P : String → Prop) : Sweep → Prop
  | invite m _ => Within P m
  | _ => True

def PointOk (P : String → Prop) (Actor : Uuid → Prop) (db : TenancyDb) (held : List Lock)
    (written : List TenancyWrite) : Point → Prop
  | .request actor _ => written = [] ∧ Actor actor
  | .authorize actor _ => written = [] ∧ Actor actor
  | .addRole m _ _ => written = [] ∧ Within P m
  | .addCeiling m _ _ => written = [] ∧ Within P m
  | .lockAuthority j => written = [] ∧ j.Ok P db
  | .lockMember j => written = [] ∧ j.Ok P db ∧ .authority ∈ held
  | .findRoles m target _ found =>
    written = [] ∧ Within P m ∧ Demoting db held target ∧ Found db found
  | .owner target d => written = [] ∧ Demoting db held target ∧ d.Ok P db
  | .ownerCount target d => written = [] ∧ Demoting db held target ∧ d.Ok P db
  | .rolesCeiling m target roles => written = [] ∧ Within P m ∧ Demoting db held target ∧
      (OtherOwner db target ∨ ∃ role ∈ roles, db.isOwnerRole role.id = true)
  | .purge a roleId =>
    written = [] ∧ SafeRole P db roleId ∧ .member a.userId ∈ held ∧ Removed db a.userId
  | .cancelPending _ roleId => written = [] ∧ SafeRole P db roleId
  | .upsert _ roleId => Quiet written ∧ SafeRole P db roleId
  | .clear u todo => Quiet written ∧ .member u ∈ held ∧ Clearing P db held u todo
  | .lockRole _ j => written = [] ∧ j.Ok P
  | .rename _ _ permissions => written = [] ∧ ∀ ps, permissions = some ps → ∀ p ∈ ps, P p
  | .assigned m roleId _ => written = [] ∧ Within P m ∧ db.isOwnerRole roleId = false
  | .replacement m roleId _ => written = [] ∧ Within P m ∧ db.isOwnerRole roleId = false
  | .replacementCeiling m roleId _ => written = [] ∧ Within P m ∧ db.isOwnerRole roleId = false
  | .dropDuplicates roleId replacement =>
    written = [] ∧ db.isOwnerRole roleId = false ∧ SafeRole P db replacement
  | .reassign roleId replacement => (∀ w ∈ written, ∃ row, w = .revoke row ∧ row.roleId = roleId) ∧
      db.isOwnerRole roleId = false ∧ SafeRole P db replacement
  | .clearPermissions _ todo => ∀ w ∈ todo, WriteSafe P db w ∧ IsLight w
  | .invitee m _ => written = [] ∧ Within P m
  | .sweep _ next => written = [] ∧ next.Ok P
  | .inviteRole m _ => Quiet written ∧ Within P m
  | .inviteCeiling m _ roleId => Quiet written ∧ Within P m ∧ db.isOwnerRole roleId = false
  | .inviteDuplicate _ roleId =>
    Quiet written ∧ db.isOwnerRole roleId = false ∧ SafeRole P db roleId
  | .acceptToken _ => written = []
  | .peek _ => written = []
  | .acceptMember _ roleId => Quiet written ∧ db.isOwnerRole roleId = false ∧ SafeRole P db roleId
  | .join _ roleId => Quiet written ∧ db.isOwnerRole roleId = false ∧ SafeRole P db roleId
  | _ => True

/-- What a transaction may assume of the committed database. -/
structure Expects (P : String → Prop) (Actor : Uuid → Prop) (db : TenancyDb) (t : Tx)
    (held : List Lock) : Prop where
  planned : Planned P db held t.written t.point.todo
  point : PointOk P Actor db held t.written t.point

section Stable

variable {P : String → Prop} {Actor : Uuid → Prop} {db db' : TenancyDb} {held : List Lock} {t : Tx}
  {u : Uuid} {written todo : List TenancyWrite}

theorem Demoting.stable (h : Demoting db held u) (hb : Beside P held db db') :
    Demoting db' held u :=
  ⟨h.authority, h.member, seated_congr (hb.member u h.member) h.seated⟩

theorem OtherOwner.stable (hlock : .authority ∈ held) (h : OtherOwner db u)
    (hb : Beside P held db db') : OtherOwner db' u := by
  obtain ⟨u', hne, hu'⟩ := h
  exact ⟨u', hne, hb.active hlock u' hu'⟩

theorem Removed.stable (hlock : .member u ∈ held) (h : Removed db u) (hb : Beside P held db db') :
    Removed db' u := by
  obtain ⟨m, hm, hstatus⟩ := h
  exact ⟨m, (hb.member u hlock).trans hm, hstatus⟩

theorem Found.stable {roles : List BusinessRole} (h : Found db roles) (hb : Beside P held db db') :
    Found db' roles :=
  fun role hrole howner => (hb.owner _).trans (h role hrole howner)

theorem Clearing.stable (hlock : .member u ∈ held) (h : Clearing P db held u todo)
    (hb : Beside P held db db') : Clearing P db' held u todo := by
  cases h with
  | remove hauth hother => exact .remove hauth (hother.stable hauth hb)
  | assign roles hseated hsafe hother =>
      refine .assign roles (seated_congr (hb.member u hlock) hseated)
        (fun r hr => hb.safe r (hsafe r hr)) ?_
      rcases hother with ⟨hauth, hother⟩ | ⟨r, hr, howner⟩
      · exact .inl ⟨hauth, hother.stable hauth hb⟩
      · exact .inr ⟨r, hr, (hb.owner r).trans howner⟩
  | rejoin r hremoved hrole hsafe =>
      exact .rejoin r (hremoved.stable hlock hb) ((hb.owner r).trans hrole) (hb.safe r hsafe)

theorem MemberJob.Ok.stable {j : MemberJob} (h : j.Ok P db) (hb : Beside P held db db') :
    j.Ok P db' := by
  cases j with
  | add a roleId => exact hb.safe roleId h
  | setRoles m target roleKeys => exact h
  | _ => trivial

theorem Demotion.Ok.stable {d : Demotion} (h : d.Ok P db) (hb : Beside P held db db') :
    d.Ok P db' := by
  cases d with
  | setRoles m roles => exact ⟨h.1, h.2.stable hb⟩
  | _ => trivial

/-- **What a transaction may assume survives the commits of others.** -/
theorem Expects.stable (h : Expects P Actor db t held) (hb : Beside P held db db') :
    Expects P Actor db' t held := by
  obtain ⟨point, written⟩ := t
  refine ⟨h.planned.stable hb, ?_⟩
  have hok := h.point
  cases point with
  | lockAuthority j => exact ⟨hok.1, hok.2.stable hb⟩
  | lockMember j => exact ⟨hok.1, hok.2.1.stable hb, hok.2.2⟩
  | findRoles m target todo found =>
      exact ⟨hok.1, hok.2.1, hok.2.2.1.stable hb, hok.2.2.2.stable hb⟩
  | owner target d => exact ⟨hok.1, hok.2.1.stable hb, hok.2.2.stable hb⟩
  | ownerCount target d => exact ⟨hok.1, hok.2.1.stable hb, hok.2.2.stable hb⟩
  | rolesCeiling m target roles =>
      obtain ⟨hwritten, hm, hd, hother⟩ := hok
      refine ⟨hwritten, hm, hd.stable hb, ?_⟩
      rcases hother with hother | ⟨role, hrole, howner⟩
      · exact .inl (hother.stable hd.authority hb)
      · exact .inr ⟨role, hrole, (hb.owner _).trans howner⟩
  | purge a roleId => exact ⟨hok.1, hb.safe _ hok.2.1, hok.2.2.1, hok.2.2.2.stable hok.2.2.1 hb⟩
  | cancelPending a roleId => exact ⟨hok.1, hb.safe _ hok.2⟩
  | upsert userId roleId => exact ⟨hok.1, hb.safe _ hok.2⟩
  | clear userId todo => exact ⟨hok.1, hok.2.1, hok.2.2.stable hok.2.1 hb⟩
  | assigned m roleId key => exact ⟨hok.1, hok.2.1, (hb.owner _).trans hok.2.2⟩
  | replacement m roleId key => exact ⟨hok.1, hok.2.1, (hb.owner _).trans hok.2.2⟩
  | replacementCeiling m roleId replacement => exact ⟨hok.1, hok.2.1, (hb.owner _).trans hok.2.2⟩
  | dropDuplicates roleId replacement =>
      exact ⟨hok.1, (hb.owner _).trans hok.2.1, hb.safe _ hok.2.2⟩
  | reassign roleId replacement => exact ⟨hok.1, (hb.owner _).trans hok.2.1, hb.safe _ hok.2.2⟩
  | clearPermissions roleId todo =>
      exact fun w hw => ⟨(hok w hw).1.of_safe hb.safe hb.owner, (hok w hw).2⟩
  | inviteCeiling m i roleId => exact ⟨hok.1, hok.2.1, (hb.owner _).trans hok.2.2⟩
  | inviteDuplicate i roleId => exact ⟨hok.1, (hb.owner _).trans hok.2.1, hb.safe _ hok.2.2⟩
  | acceptMember userId roleId => exact ⟨hok.1, (hb.owner _).trans hok.2.1, hb.safe _ hok.2.2⟩
  | join userId roleId => exact ⟨hok.1, (hb.owner _).trans hok.2.1, hb.safe _ hok.2.2⟩
  | _ => exact hok

end Stable

/-! ## 2. Plans -/

section Plans

variable {P : String → Prop} {O : Uuid → Prop} {db : TenancyDb} {held : List Lock}
  {written ws todo rest : List TenancyWrite} {u : Uuid}

theorem planned_nil : Planned P db held [] [] where
  ordered :=
    { safe := fun _ hw => absurd hw List.not_mem_nil
      status := fun _ hw => absurd hw List.not_mem_nil
      revoked := fun _ hw => absurd hw List.not_mem_nil
      emptied := fun _ hw => absurd hw List.not_mem_nil
      seated := fun _ _ hw => absurd hw List.not_mem_nil }
  spared := .inl fun _ hw => absurd hw List.not_mem_nil
  granted _ _ hw := absurd hw List.not_mem_nil
  trusted _ hw := absurd hw List.not_mem_nil

theorem applyAll_append (db : TenancyDb) (ws vs : List TenancyWrite) :
    db.applyAll (ws ++ vs) = (db.applyAll ws).applyAll vs := List.foldl_append

theorem IsLight.member {w : TenancyWrite} (h : IsLight w) : w.member? = none := by
  cases w with
  | insertMember u => exact h.elim
  | setStatus u status => exact h.elim
  | _ => rfl

theorem IsLight.not_unowns {w : TenancyWrite} (h : IsLight w) : ¬ Unowns db u w := by
  cases w with
  | setStatus v status => exact h.elim
  | revoke row => exact h.elim
  | _ => exact id

/-- **Writes on no member may be added to a plan.** -/
theorem Planned.light (h : Planned P db held written [])
    (hlight : ∀ w ∈ ws ++ todo, WriteSafe P db w ∧ IsLight w) :
    Planned P db held (written ++ ws) todo := by
  have hord := h.ordered
  rw [List.append_nil] at hord
  have hplan : written ++ ws ++ todo = written ++ (ws ++ todo) := List.append_assoc ..
  have hold : ∀ w, ¬ IsLight w → w ∈ written ++ (ws ++ todo) → w ∈ written := by
    intro w hw hm
    rcases List.mem_append.mp hm with hm | hm
    · exact hm
    · exact absurd (hlight w hm).2 hw
  have hmembers : ∀ u, Seated (db.applyAll written) u →
      Seated (db.applyAll (written ++ (ws ++ todo))) u := by
    intro u hseat
    rw [applyAll_append]
    refine seated_congr (TenancyDb.member_applyAll_of_ne fun w hw he => ?_) hseat
    rw [(hlight w hw).2.member] at he
    cases he
  refine ⟨?_, ?_, ?_, ?_⟩
  · rw [hplan]
    refine ⟨?_, ?_, ?_, ?_, ?_⟩
    · intro w hw
      rcases List.mem_append.mp hw with hw | hw
      · exact hord.safe w hw
      · exact (hlight w hw).1
    · intro w hw u hu
      rcases List.mem_append.mp hw with hw | hw
      · exact hord.status w hw u hu
      · rw [(hlight w hw).2.member] at hu
        cases hu
    · exact fun row hrow => hord.revoked row (hold _ id hrow)
    · intro u hu
      obtain ⟨hrows, hgrants⟩ := hord.emptied u (hold _ id hu)
      exact ⟨fun row hrow hid => List.mem_append_left _ (hrows row hrow hid),
        fun row trusted hrow => hgrants row trusted (hold _ id hrow)⟩
    · intro row trusted hrow
      rcases hord.seated row trusted (hold _ id hrow) with ⟨hlock, hseat⟩ | ⟨hmoved, hnot⟩
      · exact .inl ⟨hlock, hmembers _ hseat⟩
      · exact .inr ⟨hmoved, fun hw => hnot (hold _ id hw)⟩
  · rw [hplan]
    have hspare : ∀ u, (∀ w ∈ written, ¬ Unowns db u w) →
        ∀ w ∈ written ++ (ws ++ todo), ¬ Unowns db u w := by
      intro u hnone w hw
      rcases List.mem_append.mp hw with hw | hw
      · exact hnone w hw
      · exact (hlight w hw).2.not_unowns
    rcases h.spared_written with hnone | ⟨hlock, u, hu, hnone⟩
    · exact .inl fun w hw u => hspare u (fun w hw => hnone w hw u) w hw
    · exact .inr (.inl ⟨hlock, u, hu, hspare u hnone⟩)
  · intro row trusted hrow
    rcases List.mem_append.mp hrow with hrow | hrow
    · exact h.granted row trusted hrow
    · exact (hlight _ (List.mem_append_left _ hrow)).2.elim
  · exact fun row hrow => (hlight _ (List.mem_append_right _ hrow)).2.elim

/-- A planned write is made, past its triggers. -/
theorem Planned.write {lower : String → String} {w : TenancyWrite}
    (h : Planned P db held written (w :: todo))
    (hcheck : check lower (db.applyAll written) w = .ok ()) :
    Planned P db (w.locks lower ++ held) (written ++ [w]) todo := by
  have hplan : written ++ [w] ++ todo = written ++ w :: todo := by simp
  have hsafe : ∀ v ∈ written, WriteSafe P db v :=
    fun v hv => h.ordered.safe v (List.mem_append_left _ hv)
  -- the trigger refuses the owner role, which the roles of the view are still those of the database
  have hgrant : ∀ row trusted, w = .grant row trusted → db.isOwnerRole row.roleId = false := by
    intro row trusted hw
    subst hw
    cases trusted with
    | true => exact h.trusted row List.mem_cons_self
    | false =>
        simp only [check, protectOwnerGrant, bind_eq_ok, refuseIf_eq_ok, exists_const,
          isOwnerRole_writes hsafe, true_and, Bool.not_eq_true] at hcheck
        exact hcheck.1
  refine Planned.mono ?_ fun l hl => List.mem_append_right _ hl
  refine ⟨?_, ?_, ?_, fun row hrow => h.trusted row (List.mem_cons_of_mem w hrow)⟩
  · rw [hplan]
    exact h.ordered
  · rw [hplan]
    rcases h.spared with hnone | hone | ⟨row, hrow, howner⟩
    · exact .inl hnone
    · exact .inr (.inl hone)
    · rcases List.mem_cons.mp hrow with he | hrow
      · rw [hgrant row false he.symm] at howner
        cases howner
      · exact .inr (.inr ⟨row, hrow, howner⟩)
  · intro row trusted hrow
    rcases List.mem_append.mp hrow with hrow | hrow
    · exact h.granted row trusted hrow
    · exact hgrant row trusted (List.mem_singleton.mp hrow).symm

/-- A write of a plan may be made later. -/
theorem Planned.postpone {w : TenancyWrite} (h : Planned P db held (written ++ [w]) todo)
    (hw : ∀ row, w ≠ .grant row true) : Planned P db held written (w :: todo) := by
  have hplan : written ++ [w] ++ todo = written ++ w :: todo := by simp
  have hord := h.ordered
  have hspared := h.spared
  rw [hplan] at hord hspared
  refine ⟨hord, ?_, fun row trusted hrow => h.granted row trusted (List.mem_append_left _ hrow), ?_⟩
  · rcases hspared with hnone | hone | ⟨row, hrow, howner⟩
    · exact .inl hnone
    · exact .inr (.inl hone)
    · exact .inr (.inr ⟨row, List.mem_cons_of_mem w hrow, howner⟩)
  · intro row hrow
    rcases List.mem_cons.mp hrow with he | hrow
    · exact absurd he.symm (hw row)
    · exact h.trusted row hrow

/-- A transaction that closes invitations plans nothing on members. -/
theorem planned_quiet (h : Quiet written) : Planned P db held written [] := by
  have hlight : ∀ w ∈ written ++ [], WriteSafe P db w ∧ IsLight w := by
    intro w hw
    rw [List.append_nil] at hw
    obtain ⟨id, status, rfl, hstatus⟩ := h w hw
    exact ⟨hstatus, trivial⟩
  have hnil : Planned P db held [] [] := planned_nil
  exact hnil.light hlight

/-- Closing invitations leaves members and roles. -/
theorem quiet_applyAll (h : Quiet written) :
    (db.applyAll written).roles = db.roles ∧ (db.applyAll written).permissions = db.permissions ∧
      (db.applyAll written).members = db.members ∧
      (db.applyAll written).memberRoles = db.memberRoles := by
  induction written generalizing db with
  | nil => exact ⟨rfl, rfl, rfl, rfl⟩
  | cons w ws ih =>
      obtain ⟨id, status, rfl, _⟩ := h w List.mem_cons_self
      exact @ih (db.apply (.closeInvitation id status)) fun v hv => h v (List.mem_cons_of_mem _ hv)

/-- A write on one member and its role rows, which are locked. -/
def OnMember (P : String → Prop) (db : TenancyDb) (held : List Lock) (u : Uuid) :
    TenancyWrite → Prop
  | .insertMember v => v = u
  | .setStatus v _ => v = u
  | .grant row _ => row.userId = u ∧ SafeRole P db row.roleId
  | .revoke row => row.userId = u ∧ .memberRole row ∈ held
  | _ => False

theorem OnMember.safe {w : TenancyWrite} (h : OnMember P db held u w) : WriteSafe P db w := by
  cases w with
  | grant row trusted => exact h.2
  | insertMember v => trivial
  | setStatus v status => trivial
  | revoke row => trivial
  | _ => exact h.elim

theorem OnMember.member {w : TenancyWrite} (h : OnMember P db held u w) {v : Uuid}
    (hv : w.member? = some v) : v = u := by
  cases w with
  | insertMember v' =>
      cases hv
      exact h
  | setStatus v' status =>
      cases hv
      exact h
  | _ => cases hv

/-- **A plan on one member**, under its lock. -/
theorem planned_member (hquiet : Quiet written) (hlock : .member u ∈ held)
    (hon : ∀ w ∈ ws ++ todo, OnMember P db held u w)
    (hremoved : .setStatus u .removed ∈ ws ++ todo →
      (∀ row ∈ db.memberRoles.rows, row.userId = u → .revoke row ∈ ws ++ todo) ∧
        ∀ row trusted, .grant row trusted ∉ ws ++ todo)
    (hseated : (∃ row trusted, .grant row trusted ∈ ws ++ todo) →
      Seated (db.applyAll (ws ++ todo)) u)
    (hspared : Spared db held (ws ++ todo) todo)
    (hgranted : ∀ row trusted, .grant row trusted ∉ ws)
    (htrusted : ∀ row, .grant row true ∈ todo → db.isOwnerRole row.roleId = false) :
    Planned P db held (written ++ ws) todo := by
  have hplan : written ++ ws ++ todo = written ++ (ws ++ todo) := List.append_assoc ..
  have hnew : ∀ w, (∀ id status, w ≠ .closeInvitation id status) → w ∈ written ++ (ws ++ todo) →
      w ∈ ws ++ todo := by
    intro w hw hm
    rcases List.mem_append.mp hm with hm | hm
    · obtain ⟨id, status, rfl, _⟩ := hquiet w hm
      exact absurd rfl (hw id status)
    · exact hm
  have hspare : ∀ u, (∀ w ∈ ws ++ todo, ¬ Unowns db u w) →
      ∀ w ∈ written ++ (ws ++ todo), ¬ Unowns db u w := by
    intro u hnone w hw
    rcases List.mem_append.mp hw with hw | hw
    · obtain ⟨id, status, rfl, _⟩ := hquiet w hw
      exact fun hun => hun
    · exact hnone w hw
  refine ⟨?_, ?_, ?_, htrusted⟩
  · rw [hplan]
    refine ⟨?_, ?_, ?_, ?_, ?_⟩
    · intro w hw
      rcases List.mem_append.mp hw with hw | hw
      · obtain ⟨id, status, rfl, hstatus⟩ := hquiet w hw
        exact hstatus
      · exact (hon w hw).safe
    · intro w hw v hv
      rcases List.mem_append.mp hw with hw | hw
      · obtain ⟨id, status, rfl, _⟩ := hquiet w hw
        cases hv
      · rw [(hon w hw).member hv]
        exact hlock
    · exact fun row hrow => (hon _ (hnew _ (fun _ _ => TenancyWrite.noConfusion) hrow)).2
    · intro v hv
      have hv := hnew _ (fun _ _ => TenancyWrite.noConfusion) hv
      obtain rfl : v = u := hon _ hv
      obtain ⟨hrows, hnone⟩ := hremoved hv
      exact ⟨fun row hrow hid => List.mem_append_right _ (hrows row hrow hid),
        fun row trusted hrow => absurd (hnew _ (fun _ _ => TenancyWrite.noConfusion) hrow)
          (hnone row trusted)⟩
    · intro row trusted hrow
      have hrow := hnew _ (fun _ _ => TenancyWrite.noConfusion) hrow
      have hid : row.userId = u := (hon _ hrow).1
      refine .inl ⟨hid ▸ hlock, ?_⟩
      rw [hid, applyAll_append]
      refine seated_congr ?_ (hseated ⟨row, trusted, hrow⟩)
      refine TenancyDb.member_applyAll_congr ?_
      rw [(quiet_applyAll hquiet).2.2.1]
  · rw [hplan]
    rcases hspared with h | ⟨hauth, v, hv, h⟩ | h
    · exact .inl fun w hw v => hspare v (fun w hw => h w hw v) w hw
    · exact .inr (.inl ⟨hauth, v, hv, hspare v h⟩)
    · exact .inr (.inr h)
  · intro row trusted hrow
    rcases List.mem_append.mp hrow with hrow | hrow
    · obtain ⟨id, status, he, _⟩ := hquiet _ hrow
      cases he
    · exact absurd hrow (hgranted row trusted)

theorem rolesOf_removed (hs : Sound P O db) (h : Removed db u) : db.rolesOf u = [] := by
  refine List.eq_nil_iff_forall_not_mem.mpr fun row hrow => ?_
  obtain ⟨hmem, hid⟩ := mem_rolesOf.mp hrow
  obtain ⟨m, hm, hstatus⟩ := h
  obtain ⟨m', hm', hnot⟩ := hs.seated row hmem
  rw [hid, hm] at hm'
  cases hm'
  exact hnot hstatus

theorem seated_setStatus (hm : db.members.find? u ≠ none) (row : MembershipRole) (trusted : Bool) :
    Seated (db.applyAll [.setStatus u .active, .grant row trusted]) u := by
  cases hu : db.members.find? u with
  | none => exact absurd hu hm
  | some m =>
      refine ⟨m.setStatus .active, ?_, MembershipStatus.noConfusion⟩
      show (db.members.modify u _ (Membership.userId_setStatus .active)).find? u = _
      rw [Table.find?_modify, if_pos rfl, hu]
      rfl

theorem seated_insertMember (hm : db.members.find? u = none) (row : MembershipRole)
    (trusted : Bool) : Seated (db.applyAll [.insertMember u, .grant row trusted]) u := by
  refine ⟨⟨u, .active⟩, ?_, MembershipStatus.noConfusion⟩
  show (db.members.insert ⟨u, .active⟩).find? u = _
  rw [Table.find?_insert hm, if_pos rfl]

/-- A member gets a seat and one role. -/
theorem planned_seat {w : TenancyWrite} {r : Uuid} {trusted : Bool} (hquiet : Quiet written)
    (hlock : .member u ∈ held) (hw : w = .setStatus u .active ∨ w = .insertMember u)
    (hseated : Seated (db.applyAll [w, .grant ⟨u, r⟩ trusted]) u) (hsafe : SafeRole P db r)
    (hrole : trusted = true → db.isOwnerRole r = false) :
    Planned P db held (written ++ [w]) [.grant ⟨u, r⟩ trusted] := by
  have hmem : ∀ v ∈ [w] ++ [TenancyWrite.grant ⟨u, r⟩ trusted],
      (v = .setStatus u .active ∨ v = .insertMember u) ∨ v = .grant ⟨u, r⟩ trusted := by
    intro v hv
    rcases List.mem_append.mp hv with hv | hv
    · rw [List.mem_singleton.mp hv]
      exact .inl hw
    · exact .inr (List.mem_singleton.mp hv)
  refine planned_member hquiet hlock ?_ ?_ (fun _ => hseated) (.inl ?_) ?_ ?_
  · intro v hv
    rcases hmem v hv with (rfl | rfl) | rfl
    · rfl
    · rfl
    · exact ⟨rfl, hsafe⟩
  · intro hv
    rcases hmem _ hv with (he | he) | he <;> cases he
  · intro v hv u'
    rcases hmem v hv with (rfl | rfl) | rfl
    · exact fun hun => hun.2 rfl
    · exact id
    · exact id
  · intro row trusted' hrow
    rw [← List.mem_singleton.mp hrow] at hw
    rcases hw with he | he <;> cases he
  · intro row hrow
    cases List.mem_singleton.mp hrow
    exact hrole rfl

/-! ### The roles of a member are cleared -/

theorem mem_revokes {w : TenancyWrite} (hw : w ∈ (db.rolesOf u).map TenancyWrite.revoke) :
    ∃ row ∈ db.rolesOf u, row.userId = u ∧ w = .revoke row := by
  obtain ⟨row, hrow, rfl⟩ := List.mem_map.mp hw
  exact ⟨row, hrow, (mem_rolesOf.mp hrow).2, rfl⟩

theorem onMember_revokes {w : TenancyWrite} (hw : w ∈ (db.rolesOf u).map TenancyWrite.revoke) :
    OnMember P db ((db.rolesOf u).map .memberRole ++ held) u w := by
  obtain ⟨row, hrow, hid, rfl⟩ := mem_revokes hw
  exact ⟨hid, List.mem_append_left _ (List.mem_map_of_mem hrow)⟩

/-- No one else's roles are revoked. -/
theorem not_unowns_revokes {u' : Uuid} (hne : u' ≠ u) {w : TenancyWrite}
    (hw : w ∈ (db.rolesOf u).map TenancyWrite.revoke) : ¬ Unowns db u' w := by
  intro hun
  obtain ⟨row, _, hid, rfl⟩ := mem_revokes hw
  exact hne (hun.1.symm.trans hid)

theorem grant_notMem_revokes (row : MembershipRole) (trusted : Bool) :
    .grant row trusted ∉ (db.rolesOf u).map TenancyWrite.revoke := by
  intro hrow
  obtain ⟨_, _, _, he⟩ := mem_revokes hrow
  cases he

theorem planned_remove (hquiet : Quiet written) (hlock : .member u ∈ held)
    (hauth : .authority ∈ held) (hother : OtherOwner db u) :
    Planned P db ((db.rolesOf u).map .memberRole ++ held) (written ++ (db.rolesOf u).map .revoke)
      [.setStatus u .removed] := by
  obtain ⟨u', hne, hu'⟩ := hother
  have hgrants : ∀ row trusted, .grant row trusted ∉
      (db.rolesOf u).map TenancyWrite.revoke ++ [.setStatus u .removed] := by
    intro row trusted hrow
    rcases List.mem_append.mp hrow with hrow | hrow
    · exact grant_notMem_revokes row trusted hrow
    · cases List.mem_singleton.mp hrow
  refine planned_member hquiet (List.mem_append_right _ hlock) ?_ ?_ ?_
    (.inr (.inl ⟨List.mem_append_right _ hauth, u', hu', ?_⟩)) grant_notMem_revokes ?_
  · intro w hw
    rcases List.mem_append.mp hw with hw | hw
    · exact onMember_revokes hw
    · cases List.mem_singleton.mp hw
      rfl
  · exact fun _ => ⟨fun row hrow hid => List.mem_append_left _ (List.mem_map_of_mem
      (mem_rolesOf.mpr ⟨hrow, hid⟩)), hgrants⟩
  · rintro ⟨row, trusted, hrow⟩
    exact absurd hrow (hgrants row trusted)
  · intro w hw
    rcases List.mem_append.mp hw with hw | hw
    · exact not_unowns_revokes hne hw
    · cases List.mem_singleton.mp hw
      exact fun hun => hne hun.1.symm
  · intro row hrow
    cases List.mem_singleton.mp hrow

theorem planned_assign {roles : List Uuid} (hquiet : Quiet written) (hlock : .member u ∈ held)
    (hseated : Seated db u) (hsafe : ∀ r ∈ roles, SafeRole P db r)
    (hother : (.authority ∈ held ∧ OtherOwner db u) ∨ ∃ r ∈ roles, db.isOwnerRole r = true) :
    Planned P db ((db.rolesOf u).map .memberRole ++ held) (written ++ (db.rolesOf u).map .revoke)
      (roles.map fun r => .grant ⟨u, r⟩ false) := by
  have hgrant : ∀ w ∈ roles.map (fun r => TenancyWrite.grant ⟨u, r⟩ false),
      ∃ r ∈ roles, w = .grant ⟨u, r⟩ false := by
    intro w hw
    obtain ⟨r, hr, rfl⟩ := List.mem_map.mp hw
    exact ⟨r, hr, rfl⟩
  have hmember : ∀ w ∈ (db.rolesOf u).map TenancyWrite.revoke ++
      roles.map (fun r => TenancyWrite.grant ⟨u, r⟩ false), w.member? = none := by
    intro w hw
    rcases List.mem_append.mp hw with hw | hw
    · obtain ⟨row, _, _, rfl⟩ := mem_revokes hw
      rfl
    · obtain ⟨r, _, rfl⟩ := hgrant w hw
      rfl
  refine planned_member hquiet (List.mem_append_right _ hlock) ?_ ?_ ?_ ?_ grant_notMem_revokes ?_
  · intro w hw
    rcases List.mem_append.mp hw with hw | hw
    · exact onMember_revokes hw
    · obtain ⟨r, hr, rfl⟩ := hgrant w hw
      exact ⟨rfl, hsafe r hr⟩
  · intro hw
    have hnone := hmember _ hw
    cases hnone
  · refine fun _ => seated_congr (TenancyDb.member_applyAll_of_ne fun w hw he => ?_) hseated
    rw [hmember w hw] at he
    cases he
  · rcases hother with ⟨hauth, u', hne, hu'⟩ | ⟨r, hr, howner⟩
    · refine .inr (.inl ⟨List.mem_append_right _ hauth, u', hu', fun w hw => ?_⟩)
      rcases List.mem_append.mp hw with hw | hw
      · exact not_unowns_revokes hne hw
      · obtain ⟨r, _, rfl⟩ := hgrant w hw
        exact id
    · exact .inr (.inr ⟨⟨u, r⟩, List.mem_map.mpr ⟨r, hr, rfl⟩, howner⟩)
  · intro row hrow
    obtain ⟨r, _, he⟩ := hgrant _ hrow
    cases he

/-- A removed member has no role left to clear. -/
theorem planned_rejoin {r : Uuid} (hs : Sound P O db) (hquiet : Quiet written)
    (hlock : .member u ∈ held) (hremoved : Removed db u) (hrole : db.isOwnerRole r = false)
    (hsafe : SafeRole P db r) :
    Planned P db ((db.rolesOf u).map .memberRole ++ held) (written ++ (db.rolesOf u).map .revoke)
      [.setStatus u .active, .grant ⟨u, r⟩ true] := by
  rw [rolesOf_removed hs hremoved]
  obtain ⟨m, hm, _⟩ := hremoved
  have hseated : Seated (db.applyAll [.setStatus u .active, .grant ⟨u, r⟩ true]) u := by
    refine seated_setStatus ?_ _ _
    rw [hm]
    exact Option.some_ne_none m
  have hseat := planned_seat hquiet hlock (.inl rfl) hseated hsafe fun _ => hrole
  rw [List.map_nil, List.map_nil, List.append_nil]
  exact hseat.postpone fun _ => TenancyWrite.noConfusion

/-- **What follows the clearing of a member's roles is planned.** -/
theorem planned_clear (hs : Sound P O db) (hquiet : Quiet written) (hlock : .member u ∈ held)
    (h : Clearing P db held u todo) :
    Planned P db ((db.rolesOf u).map .memberRole ++ held) (written ++ (db.rolesOf u).map .revoke)
      todo := by
  cases h with
  | remove hauth hother => exact planned_remove hquiet hlock hauth hother
  | assign roles hseated hsafe hother => exact planned_assign hquiet hlock hseated hsafe hother
  | rejoin r hremoved hrole hsafe => exact planned_rejoin hs hquiet hlock hremoved hrole hsafe

/-! ### Rows of many members -/

/-- Rows that are revoked, each perhaps granted again under another role: no owner's. -/
theorem planned_moves {r replacement : Uuid} (hr : db.isOwnerRole r = false)
    (hsafe : SafeRole P db replacement)
    (hmoves : ∀ w ∈ written,
      (∃ row, w = .revoke row ∧ row.roleId = r ∧ .memberRole row ∈ held) ∨
        ∃ row ∈ db.memberRoles.rows, w = .grant ⟨row.userId, replacement⟩ false ∧
          .memberRole row ∈ held ∧ db.isOwnerRole replacement = false) :
    Planned P db held written [] := by
  have hord : Ordered P db held written := by
    refine ⟨?_, ?_, ?_, ?_, ?_⟩
    · intro w hw
      rcases hmoves w hw with ⟨row, rfl, _⟩ | ⟨row, _, rfl, _⟩
      · trivial
      · exact hsafe
    · intro w hw u hu
      rcases hmoves w hw with ⟨row, rfl, _⟩ | ⟨row, _, rfl, _⟩ <;> cases hu
    · intro row hrow
      rcases hmoves _ hrow with ⟨row', he, _, hlock⟩ | ⟨row', _, he, _⟩ <;> cases he
      exact hlock
    · intro u hu
      rcases hmoves _ hu with ⟨row, he, _⟩ | ⟨row, _, he, _⟩ <;> cases he
    · intro row trusted hrow
      rcases hmoves _ hrow with ⟨row', he, _⟩ | ⟨row', hrow', he, hlock, _⟩ <;> cases he
      refine .inr ⟨⟨row', hrow', rfl, hlock⟩, fun hw => ?_⟩
      rcases hmoves _ hw with ⟨row, he, _⟩ | ⟨row, _, he, _⟩ <;> cases he
  refine ⟨?_, .inl fun w hw u hun => ?_, ?_, fun _ hrow => absurd hrow List.not_mem_nil⟩
  · rw [List.append_nil]
    exact hord
  · rw [List.append_nil] at hw
    rcases hmoves w hw with ⟨row, rfl, hid, _⟩ | ⟨row, _, rfl, _⟩
    · have howner := hun.2
      rw [hid, hr] at howner
      cases howner
    · exact hun
  · intro row trusted hrow
    rcases hmoves _ hrow with ⟨row', he, _⟩ | ⟨row', _, he, _, howner⟩ <;> cases he
    exact howner

/-- A change of status that takes from no owner, or leaves one. -/
theorem planned_status {status : MembershipStatus} (hlock : .member u ∈ held)
    (hnot : status ≠ .removed) (hother : status = .active ∨ .authority ∈ held ∧ OtherOwner db u) :
    Planned P db held [] [.setStatus u status] := by
  have hmem : ∀ w ∈ [] ++ [TenancyWrite.setStatus u status], w = .setStatus u status :=
    fun w hw => List.mem_singleton.mp hw
  refine planned_member (fun _ hw => absurd hw List.not_mem_nil) hlock ?_ ?_ ?_ ?_
    (fun _ _ hrow => absurd hrow List.not_mem_nil) ?_
  · intro w hw
    rw [hmem w hw]
    rfl
  · intro hw
    cases hmem _ hw
    exact absurd rfl hnot
  · rintro ⟨row, trusted, hrow⟩
    cases hmem _ hrow
  · rcases hother with rfl | ⟨hauth, u', hne, hu'⟩
    · refine .inl fun w hw v => ?_
      rw [hmem w hw]
      exact fun hun => hun.2 rfl
    · refine .inr (.inl ⟨hauth, u', hu', fun w hw => ?_⟩)
      rw [hmem w hw]
      exact fun hun => hne hun.1.symm
  · intro row hrow
    cases hmem _ hrow

end Plans

end Daftar.Tenancy
