/-
  File: Daftar/Tenancy/TenancyTransactions.lean
  Subject: The commands on members, roles and invitations as transactions under READ COMMITTED.

  * A request resolves its membership and its permission in a transaction of its own, before the one
    of its command: what it holds of its roles may be out of date by then.
  * A statement reads the committed rows under its own writes. An UPDATE or DELETE of several rows
    reads them once it has all their locks: whoever could add a row to them in between needs a lock
    that is held already.
  * `lockMembership` takes one lock for the business and then the row of the member. Deleting a
    role and accepting an invitation do without the first.
  * Foreign keys take the key lock of the role they name. A quota that is used up, a feature that is
    missing and an account that is none are refusals like every abort of a transaction.
-/

import Daftar.Library.Fallible
import Daftar.Library.LockedTransactions
import Daftar.Tenancy.TenancyStore

namespace Daftar.Tenancy

open Fallible
open LockedTransactions
open Tables

/-! ## 1. Calls -/

/-- The errors of the application by their kind, and those of the database. -/
inductive TenancyRefusal
  | forbidden (message : String)
  | notFound (message : String)
  | conflict (code message : String)
  | validation (field reason : String)
  | raised (message : String)
  | uniqueViolation
  | foreignKeyViolation
  deriving DecidableEq

/-- Who acts, with the roles that were loaded for it. -/
structure MembershipContext where
  userId : Uuid
  roles : TrustedRoleSet

structure Invite where
  id : Uuid
  email : String
  /-- The user with this address, if the identity boundary knows one. -/
  invitee : Option Uuid
  roleKey : String
  tokenHash : String
  now : ℤ

structure Resend where
  id : Uuid
  tokenHash : String
  now : ℤ

inductive Command
  | addMember (email : String) (user : Option Uuid) (roleKey : String) (now : ℤ)
  | createRole (id : Uuid) (key name : String) (permissions : List String)
  | updateRole (roleId : Uuid) (name : Option String) (permissions : Option (List String))
  | deleteRole (roleId : Uuid) (replacementRoleKey : Option String)
  | removeMember (target : Uuid)
  | suspendMember (target : Uuid)
  | reactivateMember (target : Uuid)
  | setMemberRoles (target : Uuid) (roleKeys : List String)
  | list (now : ℤ)
  | invite (i : Invite)
  | cancel (invitationId : Uuid)
  | resend (r : Resend)

/-- What the controller requires. -/
def Command.permission : Command → String
  | addMember _ _ _ _ => "member.manage"
  | createRole _ _ _ _ => "role.create"
  | updateRole _ _ _ => "role.update"
  | deleteRole _ _ => "role.delete"
  | removeMember _ => "member.manage"
  | suspendMember _ => "member.suspend"
  | reactivateMember _ => "member.suspend"
  | setMemberRoles _ _ => "role.assign"
  | list _ => "member.view"
  | invite _ => "member.invite"
  | cancel _ => "member.invite"
  | resend _ => "member.invite"

/-- An acceptance by a user, with the address of the account if it is active. -/
structure Acceptance where
  userId : Uuid
  email : Option String
  tokenHash : String
  date : ℤ

/-- A member about to be added. -/
structure Addition where
  email : String
  userId : Uuid
  now : ℤ

/-- What is done under the lock of a membership. -/
inductive MemberJob
  | add (a : Addition) (roleId : Uuid)
  | setRoles (m : MembershipContext) (target : Uuid) (roleKeys : List String)
  | remove (target : Uuid)
  | suspend (target : Uuid)
  | reactivate (target : Uuid)

def MemberJob.target : MemberJob → Uuid
  | add a _ => a.userId
  | setRoles _ target _ => target
  | remove target => target
  | suspend target => target
  | reactivate target => target

/-- What may take an owner from the business. -/
inductive Demotion
  | setRoles (m : MembershipContext) (roles : List BusinessRole)
  | remove
  | suspend

/-- What is done under the lock of a role. -/
inductive RoleJob
  | update (name : Option String) (permissions : Option (List String))
  | delete (m : MembershipContext) (replacementRoleKey : Option String)

/-- What follows the sweep of expired invitations. -/
inductive Sweep
  | list
  | invite (m : MembershipContext) (i : Invite)
  | resend (r : Resend)

/-- The commands, each at the point before one of its statements. -/
inductive Point
  | request (actor : Uuid) (c : Command)
  | authorize (actor : Uuid) (c : Command)
  | addRole (m : MembershipContext) (a : Addition) (roleKey : String)
  | addCeiling (m : MembershipContext) (a : Addition) (roleId : Uuid)
  | lockAuthority (j : MemberJob)
  | lockMember (j : MemberJob)
  | findRoles (m : MembershipContext) (target : Uuid) (todo : List String)
      (found : List BusinessRole)
  | owner (target : Uuid) (d : Demotion)
  | ownerCount (target : Uuid) (d : Demotion)
  | rolesCeiling (m : MembershipContext) (target : Uuid) (roles : List BusinessRole)
  | purge (a : Addition) (roleId : Uuid)
  | cancelPending (a : Addition) (roleId : Uuid)
  | upsert (userId roleId : Uuid)
  | clear (userId : Uuid) (todo : List TenancyWrite)
  | lockRole (roleId : Uuid) (j : RoleJob)
  | rename (roleId : Uuid) (name : String) (permissions : Option (List String))
  | assigned (m : MembershipContext) (roleId : Uuid) (replacementRoleKey : Option String)
  | replacement (m : MembershipContext) (roleId : Uuid) (key : String)
  | replacementCeiling (m : MembershipContext) (roleId replacement : Uuid)
  | dropDuplicates (roleId replacement : Uuid)
  | reassign (roleId replacement : Uuid)
  | clearPermissions (roleId : Uuid) (todo : List TenancyWrite)
  | invitee (m : MembershipContext) (i : Invite)
  | sweep (now : ℤ) (next : Sweep)
  | inviteRole (m : MembershipContext) (i : Invite)
  | inviteCeiling (m : MembershipContext) (i : Invite) (roleId : Uuid)
  | inviteDuplicate (i : Invite) (roleId : Uuid)
  | cancel (invitationId : Uuid)
  | resend (r : Resend)
  | rotate (r : Resend)
  | peek (a : Acceptance)
  | expire (invitationId : Uuid)
  | acceptToken (a : Acceptance)
  | acceptMember (userId roleId : Uuid)
  | join (userId roleId : Uuid)
  | write (todo : List TenancyWrite)

/-- A running transaction with what it has written. -/
structure Tx where
  point : Point
  written : List TenancyWrite

/-! ## 2. Locks and constraints -/

inductive Lock
  /-- The advisory lock of a business. -/
  | authority
  | member (userId : Uuid)
  | memberRole (row : MembershipRole)
  | role (id : Uuid)
  | roleKey (id : Uuid)
  | roleName (key : String)
  | permission (row : RolePermission)
  | invitation (id : Uuid)
  | invitationToken (hash : String)
  | invitationEmail (email : String)
  deriving DecidableEq

/-- Key locks go together, and not with the lock of the row. -/
def Lock.Conflicts : Lock → Lock → Prop
  | roleKey _, roleKey _ => False
  | roleKey a, role b => a = b
  | role a, roleKey b => a = b
  | a, b => a = b

theorem Lock.Conflicts.symm {a b : Lock} (h : a.Conflicts b) : b.Conflicts a := by
  cases a <;> cases b <;> first
    | exact h.elim
    | exact Eq.symm h

/-- 72 hours, in seconds. -/
def INVITATION_TTL : ℤ := 259200

section Statements

variable (lower : String → String)

/-- The locks of a statement on one row. -/
def TenancyWrite.locks : TenancyWrite → List Lock
  | insertRole row => [.role row.id, .roleName row.key]
  | renameRole id _ => [.role id]
  | deleteRole id => [.role id]
  | insertPermission row => [.permission row, .roleKey row.roleId]
  | deletePermission row => [.permission row]
  | insertMember userId => [.member userId]
  | setStatus userId _ => [.member userId]
  | grant row _ => [.memberRole row, .roleKey row.roleId]
  | revoke row => [.memberRole row]
  | insertInvitation row =>
    [.invitation row.id, .invitationToken row.tokenHash, .invitationEmail (lower row.email),
      .roleKey row.roleId]
  | closeInvitation id _ => [.invitation id]
  | rotateInvitation id tokenHash _ => [.invitation id, .invitationToken tokenHash]

/-- `membership_roles_protect_owner_grant`, which trusts the boundary that accepts invitations. -/
def protectOwnerGrant (v : TenancyDb) (roleId : Uuid) (trusted : Bool) :
    Except TenancyRefusal Unit :=
  refuseIf (trusted = false ∧ v.isOwnerRole roleId = true)
    (.raised "system owner role grant is platform-managed")

/-- The row a foreign key to roles names. -/
def requireRole (v : TenancyDb) (roleId : Uuid) : Except TenancyRefusal Unit :=
  refuseIf (v.roles.find? roleId = none) .foreignKeyViolation

/-- The triggers and constraints a statement on one row meets. -/
def check (v : TenancyDb) : TenancyWrite → Except TenancyRefusal Unit
  | .insertRole row => do
    refuseIf (row.isSystem = true) (.raised "system roles are system-managed")
    refuseIf ((v.roles.find? row.id).isSome ∨ (v.roleByKey row.key).isSome) .uniqueViolation
  | .insertPermission row => do
    refuseIf ((v.permissions.find? row).isSome = true) .uniqueViolation
    requireRole v row.roleId
  | .insertMember userId => refuseIf ((v.members.find? userId).isSome = true) .uniqueViolation
  | .grant row trusted => do
    protectOwnerGrant v row.roleId trusted
    refuseIf ((v.memberRoles.find? row).isSome = true) .uniqueViolation
    requireRole v row.roleId
    refuseIf (v.members.find? row.userId = none) .foreignKeyViolation
  | .renameRole id _ => refuseIf (v.isSystemRole id = true) (.raised "system roles are immutable")
  | .deleteRole id => do
    refuseIf (v.isSystemRole id = true) (.raised "system roles cannot be deleted")
    refuseIf (v.holdersOf id ≠ [] ∨ ∃ i ∈ v.invitations.rows, i.roleId = id) .foreignKeyViolation
  | .insertInvitation row => do
    refuseIf ((v.invitations.find? row.id).isSome = true ∨
      (∃ i ∈ v.invitations.rows, i.tokenHash = row.tokenHash) ∨
      ∃ i ∈ v.invitations.rows, i.status = .pending ∧ lower i.email = lower row.email)
      .uniqueViolation
    requireRole v row.roleId
  | .rotateInvitation id tokenHash _ =>
    refuseIf (∃ i ∈ v.invitations.rows, i.id ≠ id ∧ i.tokenHash = tokenHash) .uniqueViolation
  | _ => .ok ()

/-! ## 3. Statements -/

abbrev Outcome := List Lock × Except TenancyRefusal (Point × List TenancyWrite)

/-- A statement that takes no lock and writes nothing. -/
def reads (r : Except TenancyRefusal Point) : Outcome := ([], r.map fun p => (p, []))

/-- A statement on one row. -/
def writes (v : TenancyDb) (w : TenancyWrite) (next : Point) : Outcome :=
  (w.locks lower, (check lower v w).map fun _ => (next, [w]))

def assertDelegationCeiling (m : MembershipContext) (permissions : List String) :
    Except TenancyRefusal Unit :=
  let beyond := beyondGrantAuthority m.roles permissions
  refuseIf (beyond ≠ []) (.forbidden ("Delegation ceiling exceeded: " ++ ", ".intercalate beyond))

/-- Every permission is a registered one. -/
def assertRegistered (permissions : List String) : Except TenancyRefusal Unit :=
  match permissions.find? fun p => !isPermission p with
  | some p => .error (.validation "permissions" ("unknown_permission:" ++ p))
  | none => .ok ()

def findRole (v : TenancyDb) (field key : String) : Except TenancyRefusal BusinessRole :=
  someOr (v.roleByKey key) (.validation field "unknown_role")

/-- What a command checks before its transaction, and its first statement. -/
def start (m : MembershipContext) : Command → Except TenancyRefusal Point
  | .addMember email user roleKey now => do
    refuseIf (roleKey = "owner") (.forbidden "Owner role is system-managed")
    let userId ← someOr user (.notFound "User not found")
    pure (.addRole m ⟨email, userId, now⟩ roleKey)
  | .createRole id key name permissions => do
    refuseIf (key = "owner") (.forbidden "Owner role is system-managed")
    assertRegistered permissions
    assertDelegationCeiling m permissions
    pure (.write (.insertRole ⟨id, key, name, false⟩ ::
      permissions.map fun p => .insertPermission ⟨id, p⟩))
  | .updateRole roleId name none => pure (.lockRole roleId (.update name none))
  | .updateRole roleId name (some permissions) => do
    assertRegistered permissions
    assertDelegationCeiling m permissions
    pure (.lockRole roleId (.update name (some permissions)))
  | .deleteRole roleId replacementRoleKey => pure (.lockRole roleId (.delete m replacementRoleKey))
  | .removeMember target => pure (.lockAuthority (.remove target))
  | .suspendMember target => pure (.lockAuthority (.suspend target))
  | .reactivateMember target => pure (.lockAuthority (.reactivate target))
  | .setMemberRoles target roleKeys => do
    refuseIf (roleKeys = []) (.validation "roleKeys" "at_least_one_role")
    pure (.lockAuthority (.setRoles m target roleKeys))
  | .list now => pure (.sweep now .list)
  | .invite i => do
    refuseIf (i.roleKey = "owner") (.forbidden "Owner role is system-managed")
    pure (.invitee m i)
  | .cancel invitationId => pure (.cancel invitationId)
  | .resend r => pure (.sweep r.now (.resend r))

/-- `resolveMembership` and `require`. -/
def authorize (v : TenancyDb) (actor : Uuid) (c : Command) : Except TenancyRefusal Point := do
  let m : MembershipContext := ⟨actor, v.rolesFor actor⟩
  refuseIf (hasPermission m.roles c.permission = false)
    (.forbidden ("Missing permission: " ++ c.permission))
  start m c

/-- What a member's status allows. -/
def underMemberLock (j : MemberJob) (status : MembershipStatus) : Except TenancyRefusal Point :=
  match j with
  | .add a roleId => do
    refuseIf (status = .active ∨ status = .invited)
      (.conflict "ALREADY_MEMBER" "User is already a member")
    refuseIf (status = .suspended)
      (.conflict "MEMBER_SUSPENDED" "Member is suspended — use the reactivate command")
    pure (.purge a roleId)
  | .setRoles m target roleKeys => do
    refuseIf (status ≠ .active) (.notFound "Member not found")
    pure (.findRoles m target roleKeys [])
  | .remove target => do
    refuseIf (status ≠ .active) (.notFound "Member not found")
    pure (.owner target .remove)
  | .suspend target => do
    refuseIf (status ≠ .active) (.validation "status" "not_active")
    pure (.owner target .suspend)
  | .reactivate target => do
    refuseIf (status ≠ .suspended) (.validation "status" "not_suspended")
    pure (.write [.setStatus target .active])

/-- There is no row to lock. -/
def withoutMember : MemberJob → Except TenancyRefusal Point
  | .add a roleId => .ok (.cancelPending a roleId)
  | _ => .error (.notFound "Member not found")

/-- What a demotion does once an owner remains. -/
def Demotion.proceed (target : Uuid) : Demotion → Point
  | setRoles m roles => .rolesCeiling m target roles
  | remove => .clear target [.setStatus target .removed]
  | suspend => .write [.setStatus target .suspended]

def checkOwner (v : TenancyDb) (target : Uuid) (d : Demotion) : Except TenancyRefusal Point :=
  match d with
  | .setRoles _ roles =>
    if v.isOwnerMember target = true ∧ roles.any BusinessRole.isOwner = false then
      .ok (.ownerCount target d)
    else if v.isOwnerMember target = false ∧ roles.any BusinessRole.isOwner = true then
      .error (.forbidden "Owner role is system-managed")
    else .ok (d.proceed target)
  | _ =>
    if v.isOwnerMember target = true then .ok (.ownerCount target d) else .ok (d.proceed target)

def underRoleLock (role : BusinessRole) (j : RoleJob) : Except TenancyRefusal Point :=
  match j with
  | .update name permissions => do
    refuseIf (role.isSystem = true) (.forbidden "System roles are immutable")
    pure (.rename role.id (name.getD role.name) permissions)
  | .delete m replacementRoleKey => do
    refuseIf (role.isSystem = true) (.forbidden "System roles cannot be deleted")
    pure (.assigned m role.id replacementRoleKey)

def checkAssigned (v : TenancyDb) (m : MembershipContext) (roleId : Uuid)
    (replacementRoleKey : Option String) : Except TenancyRefusal Point :=
  let assigned := (v.holdersOf roleId).length
  if 0 < assigned then do
    let key ← someOr replacementRoleKey
      (.conflict "ROLE_IN_USE" ("Role is still assigned to " ++ toString assigned ++ " member(s)"))
    pure (.replacement m roleId key)
  else .ok (.clearPermissions roleId [.deleteRole roleId])

/-- The role rows that turn into rows of the replacement, whose key a moved row locks. -/
def reassignRows (v : TenancyDb) (roleId replacement : Uuid) : Outcome :=
  let rows := v.holdersOf roleId
  (rows.flatMap fun r =>
      [.memberRole r, .memberRole ⟨r.userId, replacement⟩, .roleKey replacement],
    do
      refuseIf (rows ≠ [] ∧ v.isOwnerRole replacement = true)
        (.raised "system owner role grant is platform-managed")
      refuseIf (∃ r ∈ rows, (v.memberRoles.find? ⟨r.userId, replacement⟩).isSome = true)
        .uniqueViolation
      refuseIf (rows ≠ [] ∧ v.roles.find? replacement = none) .foreignKeyViolation
      pure (.clearPermissions roleId [.deleteRole roleId],
        rows.flatMap fun r => [.revoke r, .grant ⟨r.userId, replacement⟩ false]))

/-- The pending invitations of an address that have not expired. -/
def openInvitations (v : TenancyDb) (email : String) (now : ℤ) : List Uuid :=
  (v.invitations.rows.filter fun i =>
    lower i.email = lower email ∧ i.status = .pending ∧ now < i.expiresAt).map Invitation.id

/-- The invitations a sweep expires. -/
def expiredInvitations (v : TenancyDb) (now : ℤ) : List Uuid :=
  (v.invitations.rows.filter fun i => i.status = .pending ∧ i.expiresAt ≤ now).map Invitation.id

def closeAll (ids : List Uuid) (status : InvitationStatus) (next : Point) : Outcome :=
  (ids.map .invitation, .ok (next, ids.map fun id => .closeInvitation id status))

def pendingByToken (v : TenancyDb) (tokenHash : String) : Option Invitation :=
  v.invitations.rows.find? fun i => i.tokenHash = tokenHash ∧ i.status = .pending

def isPending (v : TenancyDb) (invitationId : Uuid) : Bool :=
  (v.invitations.find? invitationId).any fun i => i.status = .pending

/-- The first statement of the acceptance itself; the address is the account's. -/
def acceptToken (v : TenancyDb) (a : Acceptance) : Outcome :=
  match pendingByToken v a.tokenHash with
  | none => ([], .error (.notFound "Invitation not found"))
  | some i =>
    ([.invitation i.id], do
      let email ← someOr a.email (.forbidden "Actor is not an active user")
      refuseIf (lower email ≠ lower i.email)
        (.forbidden "Invitation is addressed to a different email")
      pure (.acceptMember a.userId i.roleId, [.closeInvitation i.id .accepted]))

def acceptMember (v : TenancyDb) (userId roleId : Uuid) : Outcome :=
  match v.members.find? userId with
  | none => ([], .ok (.join userId roleId, []))
  | some m =>
    ([.member userId], do
      refuseIf (m.status = .active ∨ m.status = .invited)
        (.conflict "ALREADY_MEMBER" "User is already a member")
      refuseIf (m.status = .suspended)
        (.conflict "MEMBER_SUSPENDED" "Member is suspended — use the reactivate command")
      pure (.clear userId [.setStatus userId .active, .grant ⟨userId, roleId⟩ true], []))

/-- The rows a statement revokes. -/
def revokeAll (rows : List MembershipRole) (next : Point) : Outcome :=
  (rows.map .memberRole, .ok (next, rows.map .revoke))

/-- The next statement: its locks, and where it leads with what it writes. -/
def statement (v : TenancyDb) : Point → Outcome
  | .request actor c =>
    reads (if v.isActive actor then .ok (.authorize actor c)
      else .error (.forbidden "Not a member of this business"))
  | .authorize actor c => reads (authorize v actor c)
  | .addRole m a roleKey =>
    reads do
      let role ← findRole v "roleKey" roleKey
      pure (.addCeiling m a role.id)
  | .addCeiling m a roleId =>
    reads do
      assertDelegationCeiling m (v.permissionsOf roleId)
      pure (.lockAuthority (.add a roleId))
  | .lockAuthority j => ([.authority], .ok (.lockMember j, []))
  | .lockMember j =>
    match v.members.find? j.target with
    | none => reads (withoutMember j)
    | some m => ([.member j.target], (underMemberLock j m.status).map fun p => (p, []))
  | .findRoles m target [] found => reads (.ok (.owner target (.setRoles m found)))
  | .findRoles m target (key :: todo) found =>
    reads do
      let role ← findRole v "roleKey" key
      pure (.findRoles m target todo (found ++ [role]))
  | .owner target d => reads (checkOwner v target d)
  | .ownerCount target d =>
    (v.ownerRows.map .member,
      if v.ownerRows.length ≤ 1 then
        .error (.conflict "LAST_OWNER_REMOVAL" "A business must keep at least one owner")
      else .ok (d.proceed target, []))
  | .rolesCeiling m target roles =>
    reads do
      assertDelegationCeiling m (roles.flatMap fun r => v.permissionsOf r.id).dedup
      pure (.clear target (roles.map fun r => .grant ⟨target, r.id⟩ false))
  | .purge a roleId => revokeAll (v.rolesOf a.userId) (.cancelPending a roleId)
  | .cancelPending a roleId =>
    closeAll (openInvitations lower v a.email a.now) .cancelled (.upsert a.userId roleId)
  | .upsert userId roleId =>
    ([.member userId], .ok (.write [.grant ⟨userId, roleId⟩ false],
      match v.members.find? userId with
      | some _ => [.setStatus userId .active]
      | none => [.insertMember userId]))
  | .clear userId todo => revokeAll (v.rolesOf userId) (.write todo)
  | .lockRole roleId j =>
    match v.roles.find? roleId with
    | none => reads (.error (.notFound "Role not found"))
    | some role => ([.role roleId], (underRoleLock role j).map fun p => (p, []))
  | .rename roleId name permissions =>
    writes lower v (.renameRole roleId name)
      (match permissions with
      | none => .write []
      | some ps => .clearPermissions roleId (ps.map fun p => .insertPermission ⟨roleId, p⟩))
  | .assigned m roleId replacementRoleKey => reads (checkAssigned v m roleId replacementRoleKey)
  | .replacement m roleId key =>
    reads do
      let role ← findRole v "roleKey" key
      refuseIf (role.id = roleId) (.validation "replacementRoleKey" "same_as_deleted")
      refuseIf (role.isOwner = true) (.forbidden "Owner role is system-managed")
      pure (.replacementCeiling m roleId role.id)
  | .replacementCeiling m roleId replacement =>
    reads do
      assertDelegationCeiling m (v.permissionsOf replacement)
      pure (.dropDuplicates roleId replacement)
  | .dropDuplicates roleId replacement =>
    revokeAll ((v.holdersOf roleId).filter fun r =>
      (v.memberRoles.find? ⟨r.userId, replacement⟩).isSome) (.reassign roleId replacement)
  | .reassign roleId replacement => reassignRows v roleId replacement
  | .clearPermissions roleId todo =>
    ((v.permissionsOf roleId).map fun p => .permission ⟨roleId, p⟩,
      .ok (.write todo, (v.permissionsOf roleId).map fun p => .deletePermission ⟨roleId, p⟩))
  | .invitee m i =>
    reads (if (i.invitee.bind v.members.find?).any fun r =>
        r.status = .active ∨ r.status = .invited then
      .error (.conflict "ALREADY_MEMBER" "User is already a member")
    else .ok (.sweep i.now (.invite m i)))
  | .sweep now next =>
    closeAll (expiredInvitations v now) .expired
      (match next with
      | .list => .write []
      | .invite m i => .inviteRole m i
      | .resend r => .resend r)
  | .inviteRole m i =>
    reads do
      let role ← findRole v "roleKey" i.roleKey
      refuseIf (role.isSystem = true) (.forbidden "System roles are not assignable via invitation")
      pure (.inviteCeiling m i role.id)
  | .inviteCeiling m i roleId =>
    reads do
      assertDelegationCeiling m (v.permissionsOf roleId)
      pure (.inviteDuplicate i roleId)
  | .inviteDuplicate i roleId =>
    reads do
      refuseIf (openInvitations lower v i.email i.now ≠ [])
        (.conflict "INVITATION_EXISTS" "A pending invitation already exists for this email")
      pure (.write [.insertInvitation
        ⟨i.id, i.email, roleId, i.tokenHash, .pending, i.now + INVITATION_TTL⟩])
  | .cancel invitationId =>
    if isPending v invitationId then
      writes lower v (.closeInvitation invitationId .cancelled) (.write [])
    else reads (.error (.notFound "Pending invitation not found"))
  | .resend r =>
    reads do
      let i ← someOr (v.invitations.find? r.id) (.notFound "Invitation not found")
      refuseIf (i.status = .expired)
        (.conflict "INVITATION_EXPIRED" "Invitation expired — create a new invitation")
      pure (.rotate r)
  | .rotate r =>
    if isPending v r.id then
      writes lower v (.rotateInvitation r.id r.tokenHash (r.now + INVITATION_TTL)) (.write [])
    else reads (.error (.notFound "Pending invitation not found"))
  | .peek a =>
    reads do
      let i ← someOr (pendingByToken v a.tokenHash) (.notFound "Invitation not found")
      pure (if i.expiresAt < a.date then .expire i.id else .acceptToken a)
  | .expire invitationId =>
    if isPending v invitationId then
      writes lower v (.closeInvitation invitationId .expired) (.write [])
    else reads (.ok (.write []))
  | .acceptToken a => acceptToken lower v a
  | .acceptMember userId roleId => acceptMember v userId roleId
  | .join userId roleId =>
    writes lower v (.insertMember userId) (.write [.grant ⟨userId, roleId⟩ true])
  | .write [] => reads (.ok (.write []))
  | .write (w :: todo) => writes lower v w (.write todo)

def exec (db : TenancyDb) (t : Tx) : List Lock × Except TenancyRefusal Tx :=
  let outcome := statement lower (db.applyAll t.written) t.point
  (outcome.1, outcome.2.map fun next => ⟨next.1, t.written ++ next.2⟩)

end Statements

/-! ## 4. The system -/

/-- A request of one of the actors, or an acceptance. -/
def Tx.IsCall (Actor : Uuid → Prop) (t : Tx) : Prop :=
  t.written = [] ∧ ((∃ actor c, Actor actor ∧ t.point = .request actor c) ∨ ∃ a, t.point = .peek a)

/-- The commands of some actors, and acceptances by anyone. -/
def tenancy (lower : String → String) (Actor : Uuid → Prop) :
    System TenancyDb Tx Lock TenancyRefusal where
  starts := Tx.IsCall Actor
  exec := exec lower
  ready t := t.point = .write []
  commit db t := db.applyAll t.written
  conflicts := Lock.Conflicts
  conflicts_symm := Lock.Conflicts.symm

end Daftar.Tenancy
