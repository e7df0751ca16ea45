/-
  File: Daftar/Tenancy/TenancyStore.lean
  Subject: The roles, members and invitations of one business.

  * Rows are those under the id of the business. No two roles have one key.
  * A `TenancyWrite` is what a statement does to one row. No write makes a system role or changes
    which role is one, and no write deletes a member.
  * `createBusiness` is a business as onboarding leaves it.
-/

import Daftar.Identifiers
import Daftar.Library.Tables
import Daftar.Tenancy.Permissions

namespace Daftar.Tenancy

open Tables

/-! ## 1. Rows -/

/-- A row of `business_roles`. -/
structure BusinessRole where
  id : Uuid
  key : String
  name : String
  isSystem : Bool
  deriving DecidableEq

/-- A row of `role_permissions`, all of it the key. -/
structure RolePermission where
  roleId : Uuid
  permission : String
  deriving DecidableEq

inductive MembershipStatus
  | invited | active | suspended | removed
  deriving DecidableEq

/-- A row of `memberships`. -/
structure Membership where
  userId : Uuid
  status : MembershipStatus
  deriving DecidableEq

/-- A row of `membership_roles`, all of it the key. -/
structure MembershipRole where
  userId : Uuid
  roleId : Uuid
  deriving DecidableEq

inductive InvitationStatus
  | pending | accepted | cancelled | expired
  deriving DecidableEq

/-- A row of `business_invitations`. -/
structure Invitation where
  id : Uuid
  email : String
  roleId : Uuid
  tokenHash : String
  status : InvitationStatus
  expiresAt : ℤ
  deriving DecidableEq

structure TenancyDb where
  roles : Table BusinessRole.id
  permissions : Table (@id RolePermission)
  members : Table Membership.userId
  memberRoles : Table (@id MembershipRole)
  invitations : Table Invitation.id

/-- The system role that owns the business. -/
def BusinessRole.isOwner (r : BusinessRole) : Bool := r.isSystem && r.key = "owner"

namespace TenancyDb

variable (db : TenancyDb)

def roleByKey (key : String) : Option BusinessRole := db.roles.rows.find? fun r => r.key = key

def permissionsOf (roleId : Uuid) : List String :=
  (db.permissions.rows.filter fun p => p.roleId = roleId).map RolePermission.permission

/-- The role rows of a member. -/
def rolesOf (userId : Uuid) : List MembershipRole :=
  db.memberRoles.rows.filter fun r => r.userId = userId

/-- The members with a role. -/
def holdersOf (roleId : Uuid) : List MembershipRole :=
  db.memberRoles.rows.filter fun r => r.roleId = roleId

def isSystemRole (roleId : Uuid) : Bool := (db.roles.find? roleId).any BusinessRole.isSystem

def isOwnerRole (roleId : Uuid) : Bool := (db.roles.find? roleId).any BusinessRole.isOwner

def isOwnerMember (userId : Uuid) : Bool :=
  (db.rolesOf userId).any fun r => db.isOwnerRole r.roleId

/-- The rows of the join that `lockOwnerCount` counts, by their member. -/
def ownerRows : List Uuid :=
  (db.members.rows.filter fun m => m.status = .active).flatMap fun m =>
    ((db.rolesOf m.userId).filter fun r => db.isOwnerRole r.roleId).map fun _ => m.userId

/-- The roles of a member with their permissions, one row a role: keys are unique. -/
def roleRows (userId : Uuid) : List RoleRow :=
  (db.rolesOf userId).filterMap fun r =>
    (db.roles.find? r.roleId).map fun role => ⟨role.key, role.isSystem, db.permissionsOf role.id⟩

def isActive (userId : Uuid) : Bool :=
  (db.members.find? userId).any fun m => m.status = .active

/-- What `resolveMembership` finds of a member's roles. -/
def rolesFor (userId : Uuid) : TrustedRoleSet :=
  ⟨if db.isActive userId then db.roleRows userId else []⟩

end TenancyDb

/-! ## 2. Writes -/

inductive TenancyWrite
  | insertRole (row : BusinessRole)
  | renameRole (id : Uuid) (name : String)
  | deleteRole (id : Uuid)
  | insertPermission (row : RolePermission)
  | deletePermission (row : RolePermission)
  | insertMember (userId : Uuid)
  | setStatus (userId : Uuid) (status : MembershipStatus)
  | grant (row : MembershipRole) (trusted : Bool)
  | revoke (row : MembershipRole)
  | insertInvitation (row : Invitation)
  | closeInvitation (id : Uuid) (status : InvitationStatus)
  | rotateInvitation (id : Uuid) (tokenHash : String) (expiresAt : ℤ)

def BusinessRole.rename (name : String) (r : BusinessRole) : BusinessRole := { r with name := name }

def Membership.setStatus (status : MembershipStatus) (m : Membership) : Membership :=
  { m with status := status }

def Invitation.close (status : InvitationStatus) (i : Invitation) : Invitation :=
  { i with status := status }

def Invitation.rotate (tokenHash : String) (expiresAt : ℤ) (i : Invitation) : Invitation :=
  { i with tokenHash := tokenHash, expiresAt := expiresAt }

theorem BusinessRole.id_rename (name : String) (r : BusinessRole) : (r.rename name).id = r.id := rfl

theorem Membership.userId_setStatus (status : MembershipStatus) (m : Membership) :
    (m.setStatus status).userId = m.userId := rfl

theorem Invitation.id_close (status : InvitationStatus) (i : Invitation) :
    (i.close status).id = i.id := rfl

theorem Invitation.id_rotate (tokenHash : String) (expiresAt : ℤ) (i : Invitation) :
    (i.rotate tokenHash expiresAt).id = i.id := rfl

namespace TenancyDb

variable (db : TenancyDb)

def apply : TenancyWrite → TenancyDb
  | .insertRole row => { db with roles := db.roles.insert row }
  | .renameRole id name =>
    { db with roles := db.roles.modify id _ (BusinessRole.id_rename name) }
  | .deleteRole id => { db with roles := db.roles.delete id }
  | .insertPermission row => { db with permissions := db.permissions.insert row }
  | .deletePermission row => { db with permissions := db.permissions.delete row }
  | .insertMember userId => { db with members := db.members.insert ⟨userId, .active⟩ }
  | .setStatus userId status =>
    { db with members := db.members.modify userId _ (Membership.userId_setStatus status) }
  | .grant row _ => { db with memberRoles := db.memberRoles.insert row }
  | .revoke row => { db with memberRoles := db.memberRoles.delete row }
  | .insertInvitation row => { db with invitations := db.invitations.insert row }
  | .closeInvitation id status =>
    { db with invitations := db.invitations.modify id _ (Invitation.id_close status) }
  | .rotateInvitation id tokenHash expiresAt =>
    { db with invitations := db.invitations.modify id _ (Invitation.id_rotate tokenHash expiresAt) }

def applyAll (ws : List TenancyWrite) : TenancyDb := ws.foldl apply db

end TenancyDb

/-- What onboarding calls the ids of the three built-in roles. -/
structure BuiltinRoleIds where
  owner : Uuid
  manager : Uuid
  cashier : Uuid
  distinct : [owner, manager, cashier].Nodup

def builtinRole (k : BuiltinRoleKey) (id : Uuid) : BusinessRole := ⟨id, k.text, k.text, k = .owner⟩

/-- A built-in role is created with its permissions. -/
def builtinWrites (k : BuiltinRoleKey) (id : Uuid) : List TenancyWrite :=
  .insertRole (builtinRole k id) ::
    (BUILTIN_ROLE_PERMISSIONS k).map fun p => .insertPermission ⟨id, p⟩

/-- The writes of `provision_create_business` on these tables. -/
def createBusiness (ids : BuiltinRoleIds) (actor : Uuid) : List TenancyWrite :=
  builtinWrites .owner ids.owner ++ builtinWrites .cashier ids.cashier ++
    builtinWrites .manager ids.manager ++ [.insertMember actor, .grant ⟨actor, ids.owner⟩ true]

/-! ## 3. What writes leave -/

/-- The member a write is on. -/
def TenancyWrite.member? : TenancyWrite → Option Uuid
  | insertMember userId => some userId
  | setStatus userId _ => some userId
  | _ => none

/-- A write that makes and drops no owner role. -/
def TenancyWrite.KeepsOwnerRoles (db : TenancyDb) : TenancyWrite → Prop
  | insertRole row => row.isSystem = false
  | deleteRole id => db.isOwnerRole id = false
  | _ => True

namespace TenancyDb

section Frames

variable {db : TenancyDb} {w : TenancyWrite} {ws : List TenancyWrite} {r u : Uuid}
  {row : MembershipRole}

theorem isOwner_of_not_system {role : BusinessRole} (h : role.isSystem = false) :
    role.isOwner = false := by
  unfold BusinessRole.isOwner
  rw [h, Bool.false_and]

/-- **Which roles are owner roles stays as it is.** -/
theorem isOwnerRole_apply (h : w.KeepsOwnerRoles db) (r : Uuid) :
    (db.apply w).isOwnerRole r = db.isOwnerRole r := by
  cases w with
  | insertRole role =>
      show ((db.roles.insert role).find? r).any _ = (db.roles.find? r).any _
      by_cases hfree : db.roles.find? role.id = none
      · rw [Table.find?_insert hfree]
        by_cases hid : role.id = r
        · rw [if_pos hid, ← hid, hfree]
          exact isOwner_of_not_system h
        · rw [if_neg hid]
      · unfold Table.insert
        rw [dif_neg fun hnot => hfree (Table.find?_eq_none.mpr hnot)]
  | renameRole id name =>
      show ((db.roles.modify id _ (BusinessRole.id_rename name)).find? r).any _ =
        (db.roles.find? r).any _
      rw [Table.find?_modify]
      split
      · cases db.roles.find? r with
        | none => rfl
        | some role => rfl
      · rfl
  | deleteRole id =>
      show ((db.roles.delete id).find? r).any _ = (db.roles.find? r).any _
      by_cases hid : r = id
      · have hnot : (db.roles.find? id).any BusinessRole.isOwner = false := h
        rw [hid, Table.find?_delete_self, hnot]
        rfl
      · rw [Table.find?_delete_of_ne hid]
  | _ => rfl

theorem keepsOwnerRoles_apply {v : TenancyWrite} (hw : w.KeepsOwnerRoles db)
    (hv : v.KeepsOwnerRoles db) : v.KeepsOwnerRoles (db.apply w) := by
  cases v with
  | deleteRole id => exact (isOwnerRole_apply hw id).trans hv
  | insertRole role => exact hv
  | _ => trivial

theorem isOwnerRole_applyAll (h : ∀ w ∈ ws, w.KeepsOwnerRoles db) (r : Uuid) :
    (db.applyAll ws).isOwnerRole r = db.isOwnerRole r := by
  induction ws generalizing db with
  | nil => rfl
  | cons w ws ih =>
      have hw := h w List.mem_cons_self
      exact (ih fun v hv => keepsOwnerRoles_apply hw (h v (List.mem_cons_of_mem w hv))).trans
        (isOwnerRole_apply hw r)

theorem member_apply_of_ne (h : w.member? ≠ some u) :
    (db.apply w).members.find? u = db.members.find? u := by
  cases w with
  | insertMember userId => exact Table.find?_insert_of_ne fun he => h (congrArg some he)
  | setStatus userId status =>
      exact Table.find?_modify_of_ne (Membership.userId_setStatus status)
        fun he => h (congrArg some he)
  | _ => rfl

theorem member_applyAll_of_ne (h : ∀ w ∈ ws, w.member? ≠ some u) :
    (db.applyAll ws).members.find? u = db.members.find? u := by
  induction ws generalizing db with
  | nil => rfl
  | cons w ws ih =>
      exact (ih fun v hv => h v (List.mem_cons_of_mem w hv)).trans
        (member_apply_of_ne (h w List.mem_cons_self))

/-- What writes make of a member depends on that member alone. -/
theorem member_applyAll_congr {db' : TenancyDb} (h : db'.members.find? u = db.members.find? u) :
    (db'.applyAll ws).members.find? u = (db.applyAll ws).members.find? u := by
  induction ws generalizing db db' with
  | nil => exact h
  | cons w ws ih =>
      refine ih ?_
      cases w with
      | insertMember userId =>
          show (db'.members.insert _).find? u = (db.members.insert _).find? u
          by_cases hid : userId = u
          · cases hu : db.members.find? u with
            | none =>
                rw [hu] at h
                rw [Table.find?_insert (by rw [← hid] at h; exact h),
                  Table.find?_insert (by rw [← hid] at hu; exact hu), h, hu]
            | some m =>
                rw [hu] at h
                rw [Table.find?_insert_of_some h, Table.find?_insert_of_some hu]
          · rw [Table.find?_insert_of_ne hid, Table.find?_insert_of_ne hid, h]
      | setStatus userId status =>
          show (db'.members.modify _ _ (Membership.userId_setStatus status)).find? u =
            (db.members.modify _ _ (Membership.userId_setStatus status)).find? u
          rw [Table.find?_modify, Table.find?_modify, h]
      | _ => exact h

/-- No write deletes a member. -/
theorem member_applyAll {m : Membership} (ws : List TenancyWrite)
    (h : db.members.find? u = some m) :
    ∃ m', (db.applyAll ws).members.find? u = some m' ∧
      (m'.status = m.status ∨ .setStatus u m'.status ∈ ws) := by
  induction ws generalizing db m with
  | nil => exact ⟨m, h, .inl rfl⟩
  | cons w ws ih =>
      have hnext : ∃ m₁, (db.apply w).members.find? u = some m₁ ∧
          (m₁.status = m.status ∨ w = .setStatus u m₁.status) := by
        cases w with
        | insertMember userId => exact ⟨m, Table.find?_insert_of_some h, .inl rfl⟩
        | setStatus userId status =>
            show ∃ m₁, (db.members.modify _ _ (Membership.userId_setStatus status)).find? u =
              some m₁ ∧ _
            rw [Table.find?_modify, h]
            by_cases hid : u = userId
            · rw [if_pos hid, ← hid]
              exact ⟨_, rfl, .inr rfl⟩
            · rw [if_neg hid]
              exact ⟨m, rfl, .inl rfl⟩
        | _ => exact ⟨m, h, .inl rfl⟩
      obtain ⟨m₁, hm₁, hstatus₁⟩ := hnext
      obtain ⟨m', hm', hstatus⟩ := ih hm₁
      refine ⟨m', hm', ?_⟩
      rcases hstatus with hstatus | hstatus
      · rcases hstatus₁ with hstatus₁ | rfl
        · exact .inl (hstatus.trans hstatus₁)
        · rw [hstatus]
          exact .inr List.mem_cons_self
      · exact .inr (List.mem_cons_of_mem w hstatus)

/-- A role row that writes leave was granted by one, or was there and is not revoked. -/
theorem mem_memberRoles_applyAll (h : row ∈ (db.applyAll ws).memberRoles.rows) :
    (∃ trusted, .grant row trusted ∈ ws) ∨
      row ∈ db.memberRoles.rows ∧ .revoke row ∉ ws := by
  induction ws generalizing db with
  | nil => exact .inr ⟨h, List.not_mem_nil⟩
  | cons w ws ih =>
      rcases ih h with ⟨trusted, hgrant⟩ | ⟨hrow, hkept⟩
      · exact .inl ⟨trusted, List.mem_cons_of_mem w hgrant⟩
      · cases w with
        | grant row' trusted =>
            rcases Table.mem_insert hrow with rfl | hrow
            · exact .inl ⟨trusted, List.mem_cons_self⟩
            · exact .inr ⟨hrow, by simp [hkept]⟩
        | revoke row' =>
            obtain ⟨hrow, hne⟩ := Table.mem_delete.mp hrow
            refine .inr ⟨hrow, fun hm => ?_⟩
            rcases List.mem_cons.mp hm with he | hm
            · cases he
              exact hne rfl
            · exact hkept hm
        | _ => exact .inr ⟨hrow, by simp [hkept]⟩

/-- A role row that no write revokes stays. -/
theorem memberRoles_kept (h : row ∈ db.memberRoles.rows) (hws : .revoke row ∉ ws) :
    row ∈ (db.applyAll ws).memberRoles.rows := by
  induction ws generalizing db with
  | nil => exact h
  | cons w ws ih =>
      refine ih ?_ fun hm => hws (List.mem_cons_of_mem w hm)
      cases w with
      | grant row' trusted => exact Table.mem_insert_of_mem h
      | revoke row' =>
          refine Table.mem_delete.mpr ⟨h, fun he => hws ?_⟩
          have he : row = row' := he
          rw [he]
          exact List.mem_cons_self
      | _ => exact h

end Frames

end TenancyDb

end Daftar.Tenancy
