/-
  File: Daftar/Auth/AuthTransactions.lean
  Subject: Logins, refreshes, revocations and password resets as transactions under READ COMMITTED.

  * An UPDATE of several rows lists its rows from a snapshot, then locks them one at a time and
    checks its condition again on each row it gets: `revokeSessions`, `revokeTokens`. A row that is
    committed after the snapshot is not on the list.
  * `logout`, `logoutAll`, a family's revocation and the end of `resetPassword` are one
    `RevokeJob` each.
  * `rotation` are the calls on the sessions there are; `identity` has logins too.
-/

import Daftar.Auth.AuthStore
import Daftar.Library.Fallible
import Daftar.Library.LockedTransactions

namespace Daftar.Auth

open Fallible
open LockedTransactions
open Tables

/-! ## 1. Calls -/

inductive AuthRefusal
  | uniqueViolation
  | invalidResetToken
  | unauthenticated
  deriving DecidableEq

/-- 30 days, in seconds. -/
def SESSION_TTL : ℤ := 2592000

/-- A refresh: the presented token, the drawn successor, the clock of the process and of the
    database. -/
structure RefreshCall where
  token : String
  next : String
  date : ℤ
  now : ℤ

structure ResetCall where
  token : String
  passwordHash : String
  now : ℤ

/-- A login with what it draws for its session. -/
structure LoginCall where
  email : String
  password : String
  sessionId : Uuid
  familyId : Uuid
  refresh : String
  now : ℤ

/-- A session about to be created. -/
structure SessionDraft where
  call : LoginCall
  userId : Uuid
  resetsSeen : ℕ

/-- A password about to be set. -/
structure PasswordChange where
  call : ResetCall
  userId : Uuid

structure RevokeJob where
  scope : Scope
  reason : String
  change : Option PasswordChange

def logout (sessionId : Uuid) : RevokeJob := ⟨.session sessionId, "logout", none⟩

def logoutAll (userId : Uuid) : RevokeJob := ⟨.user userId, "logout_all", none⟩

/-- The revocation of a family that a refresh of a spent token starts. -/
def reuseDetected (familyId : Uuid) : RevokeJob := ⟨.family familyId, "token_reuse_detected", none⟩

/-- The revocation inside a password reset. -/
def passwordReset (change : PasswordChange) : RevokeJob :=
  ⟨.user change.userId, "password_reset", some change⟩

inductive Verdict
  | unknown
  | reuse (userId sessionId familyId : Uuid)

/-- The calls, each at the point before one of its statements. -/
inductive Tx
  | refresh (c : RefreshCall)
  | consume (c : RefreshCall) (l : RefreshToken) (s : Session)
  | issue (c : RefreshCall) (l : RefreshToken) (s : Session)
  | rotate (c : RefreshCall) (l : RefreshToken) (s : Session)
  | ended (v : Verdict)
  | revoke (j : RevokeJob)
  | revokeSessions (j : RevokeJob) (sessions todo : List Uuid)
  | listTokens (j : RevokeJob) (sessions : List Uuid)
  | revokeTokens (j : RevokeJob) (sessions : List Uuid) (tokens todo : List String)
  | resetPassword (c : ResetCall)
  | setPassword (change : PasswordChange)
  | login (c : LoginCall)
  | createSession (d : SessionDraft)
  | createToken (d : SessionDraft)
  | created (d : SessionDraft)

/-! ## 2. Statements -/

/-- What the identity service calls and does not define: the password check, and the folding of
    e-mail addresses. -/
structure Identity where
  verifyPassword : String → String → Bool
  citext : String → String

/-- `SELECT … FOR UPDATE OF l, s` on the presented token: both rows are read once both are locked. -/
def selectForRefresh (db : AuthDb) (c : RefreshCall) : List Lock × Except AuthRefusal Tx :=
  match db.tokens.find? (hashRefreshToken c.token) with
  | none => ([], .ok (.ended .unknown))
  | some l =>
    ([.token l.tokenHash, .session l.sessionId],
      match db.sessions.find? l.sessionId with
      | none => .ok (.ended .unknown)
      | some s =>
        if l.state ≠ .issued ∨ s.status ≠ .active ∨ s.expiresAt < c.date then
          .ok (.ended (.reuse s.userId s.id s.familyId))
        else .ok (.consume c l s))

/-- An insert under a unique key waits for another that holds the key, and fails on one that is
    there. -/
def insertKey (used : Bool) (lock : Lock) (next : Tx) : List Lock × Except AuthRefusal Tx :=
  if used then ([], .error .uniqueViolation) else ([lock], .ok next)

/-- The sessions an UPDATE lists: in scope and active. -/
def listSessions (db : AuthDb) (scope : Scope) : List Uuid :=
  (db.sessions.rows.filter fun s => scope.Covers s ∧ s.status = .active).map Session.id

/-- The tokens an UPDATE lists: issued, of a session in scope. -/
def listTokens (db : AuthDb) (scope : Scope) : List String :=
  (db.tokens.rows.filter fun l => l.state = .issued ∧
    ∃ s ∈ db.sessions.rows, s.id = l.sessionId ∧ scope.Covers s).map RefreshToken.tokenHash

/-- A listed session is updated if it still is in scope and active. -/
def updateSession (db : AuthDb) (j : RevokeJob) (sessions : List Uuid) (id : Uuid)
    (todo : List Uuid) : List Lock × Except AuthRefusal Tx :=
  match db.sessions.find? id with
  | none => ([], .ok (.revokeSessions j sessions todo))
  | some s =>
    if j.scope.Covers s ∧ s.status = .active then
      ([.session id], .ok (.revokeSessions j (id :: sessions) todo))
    else ([], .ok (.revokeSessions j sessions todo))

/-- A listed token is updated if it still is issued; to which session it belongs never changes. -/
def updateToken (db : AuthDb) (j : RevokeJob) (sessions : List Uuid) (tokens : List String)
    (hash : String) (todo : List String) : List Lock × Except AuthRefusal Tx :=
  match db.tokens.find? hash with
  | none => ([], .ok (.revokeTokens j sessions tokens todo))
  | some l =>
    if l.state = .issued then
      ([.token hash], .ok (.revokeTokens j sessions (hash :: tokens) todo))
    else ([], .ok (.revokeTokens j sessions tokens todo))

/-- The unused reset token, locked. -/
def selectResetToken (db : AuthDb) (c : ResetCall) : List Lock × Except AuthRefusal Tx :=
  match db.resetTokens.find? (hashRefreshToken c.token) with
  | none => ([], .error .invalidResetToken)
  | some r =>
    if r.usedAt = none ∧ c.now < r.expiresAt then
      ([.resetToken r.tokenHash], .ok (.setPassword ⟨c, r.userId⟩))
    else ([], .error .invalidResetToken)

/-- The password is checked on a row read before, in a transaction of its own. -/
def checkLogin (I : Identity) (db : AuthDb) (c : LoginCall) : Except AuthRefusal Tx :=
  match db.users.rows.find? fun u => I.citext u.email = I.citext c.email with
  | none => .error .unauthenticated
  | some u => do
    refuseIf (I.verifyPassword u.passwordHash c.password = false ∨ u.status ≠ .active)
      .unauthenticated
    pure (.createSession ⟨c, u.id, db.resets u.id⟩)

def exec (I : Identity) (db : AuthDb) : Tx → List Lock × Except AuthRefusal Tx
  | .refresh c => selectForRefresh db c
  | .consume c l s =>
    match db.tokens.find? l.tokenHash with
    | none => ([], .ok (.ended (.reuse s.userId s.id s.familyId)))
    | some row =>
      if row.state = .issued then ([.token l.tokenHash], .ok (.issue c l s))
      else ([], .ok (.ended (.reuse s.userId s.id s.familyId)))
  | .issue c l s =>
    insertKey (db.tokens.find? (hashRefreshToken c.next)).isSome (.token (hashRefreshToken c.next))
      (.rotate c l s)
  | .rotate c l s => ([], .ok (.rotate c l s))
  | .ended v => ([], .ok (.ended v))
  | .revoke j => ([], .ok (.revokeSessions j [] (listSessions db j.scope)))
  | .revokeSessions j sessions [] => ([], .ok (.listTokens j sessions))
  | .revokeSessions j sessions (id :: todo) => updateSession db j sessions id todo
  | .listTokens j sessions => ([], .ok (.revokeTokens j sessions [] (listTokens db j.scope)))
  | .revokeTokens j sessions tokens [] => ([], .ok (.revokeTokens j sessions tokens []))
  | .revokeTokens j sessions tokens (hash :: todo) => updateToken db j sessions tokens hash todo
  | .resetPassword c => selectResetToken db c
  | .setPassword change => ([.user change.userId], .ok (.revoke (passwordReset change)))
  | .login c => ([], checkLogin I db c)
  | .createSession d =>
    insertKey (db.sessions.find? d.call.sessionId).isSome (.session d.call.sessionId) (.createToken d)
  | .createToken d =>
    insertKey (db.tokens.find? (hashRefreshToken d.call.refresh)).isSome
      (.token (hashRefreshToken d.call.refresh)) (.created d)
  | .created d => ([], .ok (.created d))

/-! ## 3. Commits -/

def PasswordChange.writes (change : PasswordChange) : List AuthWrite :=
  [.useResetToken (hashRefreshToken change.call.token) change.call.now,
    .setPassword change.userId change.call.passwordHash]

def RevokeJob.changes (j : RevokeJob) : List AuthWrite :=
  match j.change with
  | none => []
  | some change => change.writes

/-- What a transaction has written when it commits. -/
def Tx.writes : Tx → List AuthWrite
  | .rotate c l s =>
    [ .consumeToken l.tokenHash (hashRefreshToken c.next),
      .insertToken ⟨hashRefreshToken c.next, s.id, .issued, none⟩,
      .rotateSession s.id (hashRefreshToken c.next) (c.now + SESSION_TTL) ]
  | .revokeTokens j sessions tokens [] =>
    j.changes ++ (sessions.map fun id => .revokeSession id j.reason) ++ tokens.map .revokeToken
  | .created d =>
    [ .insertSession ⟨d.call.sessionId, d.userId, d.call.familyId, hashRefreshToken d.call.refresh,
        none, .active, none, d.call.now + SESSION_TTL⟩,
      .insertToken ⟨hashRefreshToken d.call.refresh, d.call.sessionId, .issued, none⟩ ]
  | _ => []

def RevokeJob.events (j : RevokeJob) : List AuthEvent :=
  match j.change with
  | none => [.revoked j.scope]
  | some change => [.revoked j.scope, .reset change.userId]

def Tx.events : Tx → List AuthEvent
  | .rotate _ l s => [.exchanged l.tokenHash s.id]
  | .revokeTokens j _ _ [] => j.events
  | .created d => [.opened d.call.sessionId d.userId d.resetsSeen]
  | _ => []

/-- The last points of the calls. -/
def Tx.IsDone : Tx → Prop
  | .rotate _ _ _ => True
  | .ended _ => True
  | .revokeTokens _ _ _ [] => True
  | .created _ => True
  | _ => False

def AuthDb.commit (db : AuthDb) (t : Tx) : AuthDb :=
  { db.applyAll t.writes with log := t.events ++ db.log }

/-- Calls on the sessions there are. -/
def Tx.IsRotation : Tx → Prop
  | .refresh _ => True
  | .revoke j => ∃ id, j = logout id ∨ j = logoutAll id ∨ j = reuseDetected id
  | .resetPassword _ => True
  | _ => False

def Tx.IsCall (t : Tx) : Prop := t.IsRotation ∨ ∃ c, t = .login c

/-- Refreshes, logouts, revocations of families and password resets. -/
def rotation (I : Identity) : System AuthDb Tx Lock AuthRefusal where
  starts := Tx.IsRotation
  exec := exec I
  ready := Tx.IsDone
  commit := AuthDb.commit
  conflicts := Eq
  conflicts_symm := Eq.symm

/-- With logins. -/
def identity (I : Identity) : System AuthDb Tx Lock AuthRefusal where
  starts := Tx.IsCall
  exec := exec I
  ready := Tx.IsDone
  commit := AuthDb.commit
  conflicts := Eq
  conflicts_symm := Eq.symm

end Daftar.Auth
