/-
  File: Daftar/Tenancy/TenancyOutline.lean
  Subject: What the commands on members, roles and invitations may assume while others commit.

  * `Sound` is the invariant: an owner is active, removed members hold no roles, and every role that
    is held or offered, the owner's apart, grants only what a bound `P` allows.
  * `Planned` is what holds of the writes of a transaction, those it has still to make included.
  * `Beside` is all a transaction relies on of the commit of another, by the locks it holds.
-/

import Daftar.Tenancy.TenancyTransactions

namespace Daftar.Tenancy

open Fallible
open LockedTransactions
open Tables

/-! ## 1. The invariant -/

/-- An active member under the owner role. -/
def ActiveOwner (db : TenancyDb) (userId : Uuid) : Prop :=
  db.isActive userId = true ∧ db.isOwnerMember userId = true

/-- A member that is not removed. -/
def Seated (db : TenancyDb) (userId : Uuid) : Prop :=
  ∃ m, db.members.find? userId = some m ∧ m.status ≠ .removed

/-- A role that grants only what the bound allows. -/
def SafeRole (P : String → Prop) (db : TenancyDb) (roleId : Uuid) : Prop :=
  ∀ p ∈ db.permissionsOf roleId, P p

structure Sound (P : String → Prop) (O : Uuid → Prop) (db : TenancyDb) : Prop where
  oneOwner : ∀ r r', db.isOwnerRole r = true → db.isOwnerRole r' = true → r = r'
  owned : ∃ u, ActiveOwner db u
  seated : ∀ row ∈ db.memberRoles.rows, Seated db row.userId
  held : ∀ row ∈ db.memberRoles.rows,
    db.isOwnerRole row.roleId = true ∨ SafeRole P db row.roleId
  offered : ∀ i ∈ db.invitations.rows, i.status = .pending →
    db.isOwnerRole i.roleId = false ∧ SafeRole P db i.roleId
  owners : ∀ u, db.isOwnerMember u = true → O u

section Reading

variable {P : String → Prop} {db : TenancyDb} {u r : Uuid}

theorem mem_rolesOf {row : MembershipRole} :
    row ∈ db.rolesOf u ↔ row ∈ db.memberRoles.rows ∧ row.userId = u := by
  unfold TenancyDb.rolesOf
  rw [List.mem_filter, decide_eq_true_eq]

theorem mem_holdersOf {row : MembershipRole} :
    row ∈ db.holdersOf r ↔ row ∈ db.memberRoles.rows ∧ row.roleId = r := by
  unfold TenancyDb.holdersOf
  rw [List.mem_filter, decide_eq_true_eq]

theorem mem_permissionsOf {p : String} : p ∈ db.permissionsOf r ↔ ⟨r, p⟩ ∈ db.permissions.rows := by
  unfold TenancyDb.permissionsOf
  constructor
  · intro h
    obtain ⟨row, hrow, rfl⟩ := List.mem_map.mp h
    obtain ⟨hmem, hid⟩ := List.mem_filter.mp hrow
    obtain rfl := of_decide_eq_true hid
    exact hmem
  · intro h
    exact List.mem_map.mpr ⟨⟨r, p⟩, List.mem_filter.mpr ⟨h, decide_eq_true rfl⟩, rfl⟩

theorem isOwnerMember_iff : db.isOwnerMember u = true ↔
    ∃ row ∈ db.memberRoles.rows, row.userId = u ∧ db.isOwnerRole row.roleId = true := by
  unfold TenancyDb.isOwnerMember
  rw [List.any_eq_true]
  constructor
  · rintro ⟨row, hrow, howner⟩
    obtain ⟨hmem, hid⟩ := mem_rolesOf.mp hrow
    exact ⟨row, hmem, hid, howner⟩
  · rintro ⟨row, hmem, hid, howner⟩
    exact ⟨row, mem_rolesOf.mpr ⟨hmem, hid⟩, howner⟩

theorem isActive_iff :
    db.isActive u = true ↔ ∃ m, db.members.find? u = some m ∧ m.status = .active := by
  unfold TenancyDb.isActive
  cases db.members.find? u with
  | none => simp
  | some m => simp

theorem isOwnerRole_of_mem {role : BusinessRole} (h : role ∈ db.roles.rows) :
    db.isOwnerRole role.id = role.isOwner := by
  unfold TenancyDb.isOwnerRole
  rw [Table.find?_of_mem h]
  rfl

theorem findRole_eq_ok {field key : String} {role : BusinessRole}
    (h : findRole db field key = .ok role) : role ∈ db.roles.rows :=
  List.mem_of_find?_eq_some (someOr_eq_ok.mp h)

end Reading

/-! ## 2. Writes -/

/-- What is known of a write whatever the locks. -/
def WriteSafe (P : String → Prop) (db : TenancyDb) : TenancyWrite → Prop
  | .insertRole row => row.isSystem = false
  | .deleteRole id => db.isOwnerRole id = false
  | .insertPermission row => P row.permission
  | .grant row _ => SafeRole P db row.roleId
  | .insertInvitation row => db.isOwnerRole row.roleId = false ∧ SafeRole P db row.roleId
  | .closeInvitation _ status => status ≠ .pending
  | _ => True

/-- A write that takes a member's standing as an owner. -/
def Unowns (db : TenancyDb) (u : Uuid) : TenancyWrite → Prop
  | .setStatus v status => v = u ∧ status ≠ .active
  | .revoke row => row.userId = u ∧ db.isOwnerRole row.roleId = true
  | _ => False

section Writes

variable {P : String → Prop} {db db' : TenancyDb} {w v : TenancyWrite} {ws : List TenancyWrite}
  {u r : Uuid}

theorem WriteSafe.keepsOwnerRoles (h : WriteSafe P db w) : w.KeepsOwnerRoles db := by
  cases w with
  | insertRole row => exact h
  | deleteRole id => exact h
  | _ => trivial

theorem safeRole_apply (hw : WriteSafe P db w) (h : SafeRole P db r) :
    SafeRole P (db.apply w) r := by
  intro p hp
  have hrow := mem_permissionsOf.mp hp
  cases w with
  | insertPermission row =>
      rcases Table.mem_insert hrow with he | hrow
      · have hP : P row.permission := hw
        rw [← he] at hP
        exact hP
      · exact h p (mem_permissionsOf.mpr hrow)
  | deletePermission row => exact h p (mem_permissionsOf.mpr (Table.mem_delete.mp hrow).1)
  | _ => exact h p (mem_permissionsOf.mpr hrow)

/-- What is known of a write is known where roles stay safe and owner roles what they are. -/
theorem WriteSafe.of_safe (hsafe : ∀ r, SafeRole P db r → SafeRole P db' r)
    (howner : ∀ r, db'.isOwnerRole r = db.isOwnerRole r) (h : WriteSafe P db v) :
    WriteSafe P db' v := by
  cases v with
  | deleteRole id => exact (howner id).trans h
  | grant row trusted => exact hsafe _ h
  | insertInvitation row => exact ⟨(howner _).trans h.1, hsafe _ h.2⟩
  | insertRole row => exact h
  | insertPermission row => exact h
  | closeInvitation id status => exact h
  | _ => trivial

theorem WriteSafe.apply (hw : WriteSafe P db w) (hv : WriteSafe P db v) :
    WriteSafe P (db.apply w) v :=
  hv.of_safe (fun _ => safeRole_apply hw) (TenancyDb.isOwnerRole_apply hw.keepsOwnerRoles)

theorem safeRole_applyAll (hws : ∀ w ∈ ws, WriteSafe P db w) (h : SafeRole P db r) :
    SafeRole P (db.applyAll ws) r := by
  induction ws generalizing db with
  | nil => exact h
  | cons w ws ih =>
      have hw := hws w List.mem_cons_self
      exact ih (fun v hv => hw.apply (hws v (List.mem_cons_of_mem w hv))) (safeRole_apply hw h)

theorem isOwnerRole_writes (hws : ∀ w ∈ ws, WriteSafe P db w) (r : Uuid) :
    (db.applyAll ws).isOwnerRole r = db.isOwnerRole r :=
  TenancyDb.isOwnerRole_applyAll (fun w hw => (hws w hw).keepsOwnerRoles) r

/-- An offer that writes leave was there, or one of them makes it. -/
theorem offered_applyAll (hws : ∀ w ∈ ws, WriteSafe P db w) {i : Invitation}
    (h : i ∈ (db.applyAll ws).invitations.rows) (hpending : i.status = .pending) :
    (∃ j, .insertInvitation j ∈ ws ∧ j.roleId = i.roleId) ∨
      ∃ j ∈ db.invitations.rows, j.status = .pending ∧ j.roleId = i.roleId := by
  induction ws generalizing db with
  | nil => exact .inr ⟨i, h, hpending, rfl⟩
  | cons w ws ih =>
      have hw := hws w List.mem_cons_self
      rcases ih (fun v hv => hw.apply (hws v (List.mem_cons_of_mem w hv))) h with ⟨j, h, hrole⟩ |
        ⟨j, hj, hjp, hrole⟩
      · exact .inl ⟨j, List.mem_cons_of_mem w h, hrole⟩
      · have hback : ∀ f : Invitation → Invitation, (∀ i, (f i).roleId = i.roleId) →
            (∀ i, (f i).status = .pending → i.status = .pending) → ∀ id,
            j ∈ db.invitations.rows.map (fun i => if i.id = id then f i else i) →
            ∃ j' ∈ db.invitations.rows, j'.status = .pending ∧ j'.roleId = i.roleId := by
          intro f hroles hstatus id hm
          obtain ⟨j', hj', rfl⟩ := List.mem_map.mp hm
          refine ⟨j', hj', ?_, ?_⟩
          · split at hjp
            · exact hstatus j' hjp
            · exact hjp
          · split at hrole
            · exact (hroles j').symm.trans hrole
            · exact hrole
        cases w with
        | insertInvitation row =>
            rcases Table.mem_insert hj with rfl | hj
            · exact .inl ⟨j, List.mem_cons_self, hrole⟩
            · exact .inr ⟨j, hj, hjp, hrole⟩
        | closeInvitation id status =>
            exact .inr (hback (Invitation.close status) (fun _ => rfl)
              (fun _ he => absurd he hw) id hj)
        | rotateInvitation id tokenHash expiresAt =>
            exact .inr (hback (Invitation.rotate tokenHash expiresAt) (fun _ => rfl)
              (fun _ he => he) id hj)
        | _ => exact .inr ⟨j, hj, hjp, hrole⟩

/-- **An owner stays one through writes that take nothing from it.** -/
theorem activeOwner_applyAll (hws : ∀ w ∈ ws, WriteSafe P db w) (hu : ActiveOwner db u)
    (hspared : ∀ w ∈ ws, ¬ Unowns db u w) : ActiveOwner (db.applyAll ws) u := by
  obtain ⟨hactive, howner⟩ := hu
  obtain ⟨m, hm, hstatus⟩ := isActive_iff.mp hactive
  obtain ⟨row, hrow, hid, hrole⟩ := isOwnerMember_iff.mp howner
  refine ⟨isActive_iff.mpr ?_, isOwnerMember_iff.mpr ⟨row, ?_, hid, ?_⟩⟩
  · obtain ⟨m', hm', hs⟩ := TenancyDb.member_applyAll ws hm
    refine ⟨m', hm', ?_⟩
    rcases hs with hs | hs
    · exact hs.trans hstatus
    · by_contra hnot
      exact hspared _ hs ⟨rfl, hnot⟩
  · exact TenancyDb.memberRoles_kept hrow fun hm => hspared _ hm ⟨hid, hrole⟩
  · rw [isOwnerRole_writes hws]
    exact hrole

end Writes

/-! ## 3. What a transaction plans -/

/-- The writes a point has still to make. -/
def Point.todo : Point → List TenancyWrite
  | write todo => todo
  | _ => []

/-- What holds of all the writes of a transaction, by its locks. -/
structure Ordered (P : String → Prop) (db : TenancyDb) (held : List Lock)
    (plan : List TenancyWrite) : Prop where
  safe : ∀ w ∈ plan, WriteSafe P db w
  status : ∀ w ∈ plan, ∀ u, w.member? = some u → .member u ∈ held
  revoked : ∀ row, .revoke row ∈ plan → .memberRole row ∈ held
  emptied : ∀ u, .setStatus u .removed ∈ plan →
    (∀ row ∈ db.memberRoles.rows, row.userId = u → .revoke row ∈ plan) ∧
      ∀ row trusted, .grant row trusted ∈ plan → row.userId ≠ u
  seated : ∀ row trusted, .grant row trusted ∈ plan →
    (.member row.userId ∈ held ∧ Seated (db.applyAll plan) row.userId) ∨
      ((∃ row' ∈ db.memberRoles.rows, row'.userId = row.userId ∧ .memberRole row' ∈ held) ∧
        .setStatus row.userId .removed ∉ plan)

/-- An owner is left: the writes take from none; or this is the one transaction that may, and leaves
    one; or it grants the owner role and will be refused. -/
def Spared (db : TenancyDb) (held : List Lock) (plan todo : List TenancyWrite) : Prop :=
  (∀ w ∈ plan, ∀ u, ¬ Unowns db u w) ∨
    (.authority ∈ held ∧ ∃ u, ActiveOwner db u ∧ ∀ w ∈ plan, ¬ Unowns db u w) ∨
    ∃ row, .grant row false ∈ todo ∧ db.isOwnerRole row.roleId = true

structure Planned (P : String → Prop) (db : TenancyDb) (held : List Lock)
    (written todo : List TenancyWrite) : Prop where
  ordered : Ordered P db held (written ++ todo)
  spared : Spared db held (written ++ todo) todo
  granted : ∀ row trusted, .grant row trusted ∈ written → db.isOwnerRole row.roleId = false
  trusted : ∀ row, .grant row true ∈ todo → db.isOwnerRole row.roleId = false

/-- What the commit of another leaves of what a transaction relies on. -/
structure Beside (P : String → Prop) (held : List Lock) (db db' : TenancyDb) : Prop where
  safe : ∀ r, SafeRole P db r → SafeRole P db' r
  owner : ∀ r, db'.isOwnerRole r = db.isOwnerRole r
  member : ∀ u, .member u ∈ held → db'.members.find? u = db.members.find? u
  kept : ∀ row ∈ db.memberRoles.rows, .memberRole row ∈ held → row ∈ db'.memberRoles.rows
  added : ∀ u, .member u ∈ held →
    (∀ row ∈ db.memberRoles.rows, row.userId = u → .memberRole row ∈ held) →
      ∀ row ∈ db'.memberRoles.rows, row.userId = u → row ∈ db.memberRoles.rows
  active : .authority ∈ held → ∀ u, ActiveOwner db u → ActiveOwner db' u

section Plans

variable {P : String → Prop} {O : Uuid → Prop} {db db' : TenancyDb} {held held' : List Lock}
  {plan written todo : List TenancyWrite} {u : Uuid}

theorem Unowns.congr {w : TenancyWrite} (howner : ∀ r, db'.isOwnerRole r = db.isOwnerRole r) :
    Unowns db' u w ↔ Unowns db u w := by
  cases w with
  | revoke row =>
      show _ ∧ db'.isOwnerRole row.roleId = true ↔ _ ∧ db.isOwnerRole row.roleId = true
      rw [howner]
  | _ => exact Iff.rfl

theorem seated_congr (h : db'.members.find? u = db.members.find? u) (hs : Seated db u) :
    Seated db' u := by
  obtain ⟨m, hm, hstatus⟩ := hs
  exact ⟨m, h.trans hm, hstatus⟩

theorem Ordered.stable (h : Ordered P db held plan) (hb : Beside P held db db') :
    Ordered P db' held plan := by
  refine ⟨fun w hw => (h.safe w hw).of_safe hb.safe hb.owner, h.status, h.revoked, ?_, ?_⟩
  · intro u hu
    obtain ⟨hrows, hgrants⟩ := h.emptied u hu
    refine ⟨fun row hrow hid => hrows row ?_ hid, hgrants⟩
    exact hb.added u (h.status _ hu u rfl) (fun row hrow hid => h.revoked row (hrows row hrow hid))
      row hrow hid
  · intro row trusted hrow
    rcases h.seated row trusted hrow with ⟨hlock, hseated⟩ | ⟨⟨row', hrow', hid, hlock⟩, hnot⟩
    · exact .inl ⟨hlock, seated_congr (TenancyDb.member_applyAll_congr (hb.member _ hlock)) hseated⟩
    · exact .inr ⟨⟨row', hb.kept row' hrow' hlock, hid, hlock⟩, hnot⟩

theorem Spared.stable (h : Spared db held plan todo) (hb : Beside P held db db') :
    Spared db' held plan todo := by
  rcases h with h | ⟨hlock, u, hu, hplan⟩ | ⟨row, hrow, howner⟩
  · exact .inl fun w hw u hun => h w hw u ((Unowns.congr hb.owner).mp hun)
  · exact .inr (.inl ⟨hlock, u, hb.active hlock u hu,
      fun w hw hun => hplan w hw ((Unowns.congr hb.owner).mp hun)⟩)
  · exact .inr (.inr ⟨row, hrow, (hb.owner _).trans howner⟩)

theorem Planned.stable (h : Planned P db held written todo) (hb : Beside P held db db') :
    Planned P db' held written todo where
  ordered := h.ordered.stable hb
  spared := h.spared.stable hb
  granted row trusted hrow := (hb.owner _).trans (h.granted row trusted hrow)
  trusted row hrow := (hb.owner _).trans (h.trusted row hrow)

theorem Ordered.mono (h : Ordered P db held plan) (hh : held ⊆ held') :
    Ordered P db held' plan where
  safe := h.safe
  status w hw u hu := hh (h.status w hw u hu)
  revoked row hrow := hh (h.revoked row hrow)
  emptied := h.emptied
  seated row trusted hrow := by
    rcases h.seated row trusted hrow with ⟨hlock, hseated⟩ | ⟨⟨row', hrow', hid, hlock⟩, hnot⟩
    · exact .inl ⟨hh hlock, hseated⟩
    · exact .inr ⟨⟨row', hrow', hid, hh hlock⟩, hnot⟩

theorem Spared.mono (h : Spared db held plan todo) (hh : held ⊆ held') :
    Spared db held' plan todo := by
  rcases h with h | ⟨hlock, h⟩ | h
  · exact .inl h
  · exact .inr (.inl ⟨hh hlock, h⟩)
  · exact .inr (.inr h)

theorem Planned.mono (h : Planned P db held written todo) (hh : held ⊆ held') :
    Planned P db held' written todo where
  ordered := h.ordered.mono hh
  spared := h.spared.mono hh
  granted := h.granted
  trusted := h.trusted

/-! ## 4. Commits -/

theorem Planned.written_safe (h : Planned P db held written []) : ∀ w ∈ written, WriteSafe P db w :=
  fun w hw => h.ordered.safe w (List.mem_append_left _ hw)

/-- Before its commit a transaction takes from no owner, or it has the lock of the business and
    leaves one. -/
theorem Planned.spared_written (h : Planned P db held written []) :
    (∀ w ∈ written, ∀ u, ¬ Unowns db u w) ∨
      .authority ∈ held ∧ ∃ u, ActiveOwner db u ∧ ∀ w ∈ written, ¬ Unowns db u w := by
  rcases h.spared with h | h | ⟨row, hrow, _⟩
  · exact .inl fun w hw => h w (List.mem_append_left _ hw)
  · obtain ⟨hlock, u, hu, hplan⟩ := h
    exact .inr ⟨hlock, u, hu, fun w hw => hplan w (List.mem_append_left _ hw)⟩
  · cases hrow

/-- **What others rely on survives a commit**, if their locks do not conflict with its. -/
theorem Planned.beside (h : Planned P db held' written [])
    (hc : ∀ a ∈ held, ∀ b ∈ held', ¬ a.Conflicts b) : Beside P held db (db.applyAll written) := by
  have hord := h.ordered
  rw [List.append_nil] at hord
  have hmember : ∀ u, .member u ∈ held → .member u ∉ held' := fun u ha hb => hc _ ha _ hb rfl
  have hrole : ∀ row, .memberRole row ∈ held → .memberRole row ∉ held' :=
    fun row ha hb => hc _ ha _ hb rfl
  refine ⟨fun r => safeRole_applyAll hord.safe, isOwnerRole_writes hord.safe, ?_, ?_, ?_, ?_⟩
  · intro u hu
    exact TenancyDb.member_applyAll_of_ne fun w hw he => hmember u hu (hord.status w hw u he)
  · intro row hrow hlock
    exact TenancyDb.memberRoles_kept hrow fun hm => hrole row hlock (hord.revoked row hm)
  · intro u hu hrows row hrow hid
    rcases TenancyDb.mem_memberRoles_applyAll hrow with ⟨trusted, hgrant⟩ | ⟨hold, _⟩
    · rcases hord.seated row trusted hgrant with ⟨hlock, _⟩ | ⟨⟨row', hrow', hid', hlock⟩, _⟩
      · rw [hid] at hlock
        exact absurd hlock (hmember u hu)
      · exact absurd hlock (hrole row' (hrows row' hrow' (hid'.trans hid)))
    · exact hold
  · intro hlock u hu
    rcases h.spared_written with hnone | ⟨hlock', _⟩
    · exact activeOwner_applyAll hord.safe hu fun w hw => hnone w hw u
    · exact absurd rfl (hc _ hlock _ hlock')

/-- **A commit keeps the invariant.** -/
theorem Sound.commit (hs : Sound P O db) (h : Planned P db held written []) :
    Sound P O (db.applyAll written) := by
  have hord := h.ordered
  rw [List.append_nil] at hord
  have howner := isOwnerRole_writes hord.safe
  have hrows : ∀ row ∈ (db.applyAll written).memberRoles.rows,
      (∃ trusted, .grant row trusted ∈ written) ∨
        row ∈ db.memberRoles.rows ∧ .revoke row ∉ written :=
    fun row hrow => TenancyDb.mem_memberRoles_applyAll hrow
  have hstays : ∀ u, Seated db u → .setStatus u .removed ∉ written →
      Seated (db.applyAll written) u := by
    intro u hseat hnot
    obtain ⟨m, hm, hstatus⟩ := hseat
    obtain ⟨m', hm', hstatus'⟩ := TenancyDb.member_applyAll written hm
    refine ⟨m', hm', fun hremoved => ?_⟩
    rw [hremoved] at hstatus'
    rcases hstatus' with he | hw
    · exact hstatus he.symm
    · exact hnot hw
  refine ⟨?_, ?_, ?_, ?_, ?_, ?_⟩
  · intro r r' hr hr'
    rw [howner] at hr hr'
    exact hs.oneOwner r r' hr hr'
  · rcases h.spared_written with hnone | ⟨_, u, hu, hplan⟩
    · obtain ⟨u, hu⟩ := hs.owned
      exact ⟨u, activeOwner_applyAll hord.safe hu fun w hw => hnone w hw u⟩
    · exact ⟨u, activeOwner_applyAll hord.safe hu hplan⟩
  · intro row hrow
    rcases hrows row hrow with ⟨trusted, hgrant⟩ | ⟨hold, hkept⟩
    · rcases hord.seated row trusted hgrant with ⟨_, hseat⟩ | ⟨⟨row', hrow', hid, _⟩, hnot⟩
      · exact hseat
      · have hseat := hs.seated row' hrow'
        rw [hid] at hseat
        exact hstays _ hseat hnot
    · exact hstays _ (hs.seated row hold) fun hw => hkept ((hord.emptied _ hw).1 row hold rfl)
  · intro row hrow
    rw [howner]
    rcases hrows row hrow with ⟨trusted, hgrant⟩ | ⟨hold, _⟩
    · exact .inr (safeRole_applyAll hord.safe (hord.safe _ hgrant))
    · exact (hs.held row hold).imp_right (safeRole_applyAll hord.safe)
  · intro i hi hpending
    rw [howner]
    rcases offered_applyAll hord.safe hi hpending with ⟨j, hj, hrole⟩ | ⟨j, hj, hjp, hrole⟩
    · obtain ⟨hnot, hsafe⟩ : db.isOwnerRole j.roleId = false ∧ SafeRole P db j.roleId :=
        hord.safe _ hj
      rw [← hrole]
      exact ⟨hnot, safeRole_applyAll hord.safe hsafe⟩
    · obtain ⟨hnot, hsafe⟩ := hs.offered j hj hjp
      rw [← hrole]
      exact ⟨hnot, safeRole_applyAll hord.safe hsafe⟩
  · intro u hu
    obtain ⟨row, hrow, hid, hrole⟩ := isOwnerMember_iff.mp hu
    rw [howner] at hrole
    rcases hrows row hrow with ⟨trusted, hgrant⟩ | ⟨hold, _⟩
    · rw [h.granted row trusted hgrant] at hrole
      cases hrole
    · exact hs.owners u (isOwnerMember_iff.mpr ⟨row, hold, hid, hrole⟩)

end Plans

end Daftar.Tenancy
