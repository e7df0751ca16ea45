/-
  File: Daftar/Auth/AuthStore.lean
  Subject: Users, sessions, the lineage of refresh tokens and reset tokens.

  * A row of `session_refresh_tokens` is known by its hash, which is unique.
  * An `AuthWrite` is what a statement does to one row. `AuthWrite.lock` is the row it is on, and
    every other row stays as it is: `token_apply_of_ne`, `session_apply_of_ne`.
  * `log` is a history variable: what the committed transactions did, the latest first. No
    transaction decides by it.
-/

import Daftar.Identifiers
import Daftar.Library.Sha256
import Daftar.Library.Tables

namespace Daftar.Auth

open Sha256
open Tables

/-! ## 1. Rows -/

inductive UserStatus
  | active | disabled
  deriving DecidableEq

/-- A row of `users`. -/
structure User where
  id : Uuid
  email : String
  passwordHash : String
  status : UserStatus

inductive SessionStatus
  | active | revoked
  deriving DecidableEq

/-- A row of `sessions`. -/
structure Session where
  id : Uuid
  userId : Uuid
  familyId : Uuid
  refreshTokenHash : String
  prevRefreshTokenHash : Option String
  status : SessionStatus
  revokedReason : Option String
  expiresAt : ℤ

/-- The states of a token; only an issued one can be exchanged. -/
inductive TokenState
  | issued | consumed | replaced | revoked | expired
  deriving DecidableEq

/-- A row of `session_refresh_tokens`. -/
structure RefreshToken where
  tokenHash : String
  sessionId : Uuid
  state : TokenState
  replacedBy : Option String

/-- A row of `password_reset_tokens`. -/
structure PasswordResetToken where
  tokenHash : String
  userId : Uuid
  usedAt : Option ℤ
  expiresAt : ℤ

/-- `hashRefreshToken`. -/
def hashRefreshToken (token : String) : String := digest (utf8 token)

/-- The sessions a revocation names. -/
inductive Scope
  | session (id : Uuid)
  | family (id : Uuid)
  | user (id : Uuid)
  deriving DecidableEq

/-- The session is one a revocation names. -/
def Scope.Covers : Scope → Session → Prop
  | session id, s => s.id = id
  | family id, s => s.familyId = id
  | user id, s => s.userId = id

instance (scope : Scope) (s : Session) : Decidable (scope.Covers s) := by
  cases scope <;> exact inferInstanceAs (Decidable (_ = _))

/-- What a committed transaction did. A login knows how often its user's password had been reset
    when it read it. -/
inductive AuthEvent
  | opened (sessionId userId : Uuid) (resetsSeen : ℕ)
  | exchanged (tokenHash : String) (sessionId : Uuid)
  | revoked (scope : Scope)
  | reset (userId : Uuid)
  deriving DecidableEq

/-- The four tables and the history. -/
structure AuthDb where
  users : Table User.id
  sessions : Table Session.id
  tokens : Table RefreshToken.tokenHash
  resetTokens : Table PasswordResetToken.tokenHash
  log : List AuthEvent

/-- How often a user's password has been reset. -/
def AuthDb.resets (db : AuthDb) (userId : Uuid) : ℕ := db.log.count (.reset userId)

/-! ## 2. Writes -/

/-- What one statement does to one row. -/
inductive AuthWrite
  | consumeToken (tokenHash next : String)
  | insertToken (row : RefreshToken)
  | rotateSession (id : Uuid) (tokenHash : String) (expiresAt : ℤ)
  | revokeSession (id : Uuid) (reason : String)
  | revokeToken (tokenHash : String)
  | insertSession (row : Session)
  | setPassword (userId : Uuid) (passwordHash : String)
  | useResetToken (tokenHash : String) (now : ℤ)

/-- Rows as statements lock them, an inserted key included. All the locks the statements take
    exclude one another: the key locks of foreign keys conflict with none of these updates, since no
    statement changes a key. -/
inductive Lock
  | user (id : Uuid)
  | session (id : Uuid)
  | token (hash : String)
  | resetToken (hash : String)
  deriving DecidableEq

/-- The row a write is on. -/
def AuthWrite.lock : AuthWrite → Lock
  | consumeToken h _ => .token h
  | insertToken row => .token row.tokenHash
  | rotateSession id _ _ => .session id
  | revokeSession id _ => .session id
  | revokeToken h => .token h
  | insertSession row => .session row.id
  | setPassword id _ => .user id
  | useResetToken h _ => .resetToken h

/-- A token exchanged for the next one. -/
def RefreshToken.consume (next : String) (l : RefreshToken) : RefreshToken :=
  { l with state := .consumed, replacedBy := some next }

def RefreshToken.revoke (l : RefreshToken) : RefreshToken := { l with state := .revoked }

/-- A session under its next token; the last one is remembered. -/
def Session.rotate (tokenHash : String) (expiresAt : ℤ) (s : Session) : Session :=
  { s with prevRefreshTokenHash := some s.refreshTokenHash, refreshTokenHash := tokenHash,
           expiresAt := expiresAt }

def Session.revoke (reason : String) (s : Session) : Session :=
  { s with status := .revoked, revokedReason := some reason }

theorem RefreshToken.tokenHash_consume (next : String) (l : RefreshToken) :
    (l.consume next).tokenHash = l.tokenHash := rfl

theorem RefreshToken.tokenHash_revoke (l : RefreshToken) : l.revoke.tokenHash = l.tokenHash := rfl

theorem Session.id_rotate (tokenHash : String) (expiresAt : ℤ) (s : Session) :
    (s.rotate tokenHash expiresAt).id = s.id := rfl

theorem Session.id_revoke (reason : String) (s : Session) : (s.revoke reason).id = s.id := rfl

def AuthDb.apply (db : AuthDb) : AuthWrite → AuthDb
  | .consumeToken h next =>
    { db with tokens := db.tokens.modify h _ (RefreshToken.tokenHash_consume next) }
  | .insertToken row => { db with tokens := db.tokens.insert row }
  | .rotateSession id h expiresAt =>
    { db with sessions := db.sessions.modify id _ (Session.id_rotate h expiresAt) }
  | .revokeSession id reason =>
    { db with sessions := db.sessions.modify id _ (Session.id_revoke reason) }
  | .revokeToken h => { db with tokens := db.tokens.modify h _ RefreshToken.tokenHash_revoke }
  | .insertSession row => { db with sessions := db.sessions.insert row }
  | .setPassword id passwordHash =>
    { db with users := db.users.modify id (fun u => { u with passwordHash := passwordHash }) fun _ => rfl }
  | .useResetToken h now =>
    { db with resetTokens := db.resetTokens.modify h (fun r => { r with usedAt := some now }) fun _ => rfl }

def AuthDb.applyAll (db : AuthDb) (ws : List AuthWrite) : AuthDb := ws.foldl AuthDb.apply db

/-! ## 3. What writes leave -/

section Frames

variable {db : AuthDb} {w : AuthWrite} {ws : List AuthWrite} {k : String} {id : Uuid}

/-- A write is on one row of the lineage. -/
theorem token_apply_of_ne (h : w.lock ≠ .token k) :
    (db.apply w).tokens.find? k = db.tokens.find? k := by
  cases w with
  | consumeToken hash next =>
      exact Table.find?_modify_of_ne (RefreshToken.tokenHash_consume next) fun he => h (congrArg Lock.token he)
  | insertToken row => exact Table.find?_insert_of_ne fun he => h (congrArg Lock.token he)
  | revokeToken hash =>
      exact Table.find?_modify_of_ne RefreshToken.tokenHash_revoke fun he => h (congrArg Lock.token he)
  | _ => rfl

/-- A write is on one session. -/
theorem session_apply_of_ne (h : w.lock ≠ .session id) :
    (db.apply w).sessions.find? id = db.sessions.find? id := by
  cases w with
  | rotateSession sid hash expiresAt =>
      exact Table.find?_modify_of_ne (Session.id_rotate hash expiresAt) fun he => h (congrArg Lock.session he)
  | revokeSession sid reason =>
      exact Table.find?_modify_of_ne (Session.id_revoke reason) fun he => h (congrArg Lock.session he)
  | insertSession row => exact Table.find?_insert_of_ne fun he => h (congrArg Lock.session he)
  | _ => rfl

theorem token_applyAll_of_ne (h : ∀ w ∈ ws, w.lock ≠ .token k) :
    (db.applyAll ws).tokens.find? k = db.tokens.find? k := by
  induction ws generalizing db with
  | nil => rfl
  | cons w ws ih =>
      exact (ih fun v hv => h v (List.mem_cons_of_mem w hv)).trans
        (token_apply_of_ne (h w List.mem_cons_self))

theorem session_applyAll_of_ne (h : ∀ w ∈ ws, w.lock ≠ .session id) :
    (db.applyAll ws).sessions.find? id = db.sessions.find? id := by
  induction ws generalizing db with
  | nil => rfl
  | cons w ws ih =>
      exact (ih fun v hv => h v (List.mem_cons_of_mem w hv)).trans
        (session_apply_of_ne (h w List.mem_cons_self))

end Frames

/-- What every later database keeps of a row: who it belongs to, and that it is spent. -/
structure Later (db db' : AuthDb) : Prop where
  session : ∀ id s, db.sessions.find? id = some s → ∃ s', db'.sessions.find? id = some s' ∧
    s'.userId = s.userId ∧ s'.familyId = s.familyId ∧ (s.status = .revoked → s'.status = .revoked)
  token : ∀ h l, db.tokens.find? h = some l → ∃ l', db'.tokens.find? h = some l' ∧
    l'.sessionId = l.sessionId ∧ (l.state ≠ .issued → l'.state ≠ .issued)

section Lateness

variable {db db' db'' : AuthDb}

theorem Later.refl (db : AuthDb) : Later db db where
  session _ s h := ⟨s, h, rfl, rfl, id⟩
  token _ l h := ⟨l, h, rfl, id⟩

/-- What is kept twice is kept. -/
theorem Later.trans (h : Later db db') (h' : Later db' db'') : Later db db'' where
  session id s hs := by
    obtain ⟨s', hs', huser, hfamily, hrevoked⟩ := h.session id s hs
    obtain ⟨s'', hs'', huser', hfamily', hrevoked'⟩ := h'.session id s' hs'
    exact ⟨s'', hs'', huser'.trans huser, hfamily'.trans hfamily, fun hr => hrevoked' (hrevoked hr)⟩
  token k l hl := by
    obtain ⟨l', hl', hsession, hstate⟩ := h.token k l hl
    obtain ⟨l'', hl'', hsession', hstate'⟩ := h'.token k l' hl'
    exact ⟨l'', hl'', hsession'.trans hsession, fun hs => hstate' (hstate hs)⟩

/-- A session that was there keeps its owner, and is active only if it was. -/
theorem Later.session_before (h : Later db db') {id : Uuid} {s s' : Session}
    (hs : db.sessions.find? id = some s) (hs' : db'.sessions.find? id = some s') :
    s'.userId = s.userId ∧ s'.familyId = s.familyId ∧ (s'.status = .active → s.status = .active) := by
  obtain ⟨s'', hs'', huser, hfamily, hrevoked⟩ := h.session id s hs
  rw [hs'] at hs''
  cases hs''
  refine ⟨huser, hfamily, fun hactive => ?_⟩
  cases hst : s.status with
  | active => rfl
  | revoked => exact absurd ((hrevoked hst).symm.trans hactive) SessionStatus.noConfusion

/-- A write to a session keeps the others, and its own owner and end. -/
theorem later_of_sessions {t : Table Session.id} {id : Uuid} {f : Session → Session}
    (hf : ∀ s, (f s).id = s.id) (huser : ∀ s, (f s).userId = s.userId)
    (hfamily : ∀ s, (f s).familyId = s.familyId)
    (hrevoked : ∀ s, s.status = .revoked → (f s).status = .revoked) (sid : Uuid) (s : Session)
    (hs : t.find? sid = some s) : ∃ s', (t.modify id f hf).find? sid = some s' ∧
      s'.userId = s.userId ∧ s'.familyId = s.familyId ∧ (s.status = .revoked → s'.status = .revoked) := by
  rw [Table.find?_modify, hs]
  by_cases hid : sid = id
  · rw [if_pos hid]
    exact ⟨f s, rfl, huser s, hfamily s, hrevoked s⟩
  · rw [if_neg hid]
    exact ⟨s, rfl, rfl, rfl, fun h => h⟩

/-- A write to a token keeps the others, and spends its own. -/
theorem later_of_tokens {t : Table RefreshToken.tokenHash} {hash : String}
    {f : RefreshToken → RefreshToken} (hf : ∀ l, (f l).tokenHash = l.tokenHash)
    (hsession : ∀ l, (f l).sessionId = l.sessionId) (hstate : ∀ l, (f l).state ≠ .issued)
    (k : String) (l : RefreshToken) (hl : t.find? k = some l) :
    ∃ l', (t.modify hash f hf).find? k = some l' ∧ l'.sessionId = l.sessionId ∧
      (l.state ≠ .issued → l'.state ≠ .issued) := by
  rw [Table.find?_modify, hl]
  by_cases hk : k = hash
  · rw [if_pos hk]
    exact ⟨f l, rfl, hsession l, fun _ => hstate l⟩
  · rw [if_neg hk]
    exact ⟨l, rfl, rfl, fun h => h⟩

/-- **A write makes a later database.** -/
theorem later_apply (db : AuthDb) (w : AuthWrite) : Later db (db.apply w) := by
  cases w with
  | consumeToken hash next =>
      exact ⟨(Later.refl db).session,
        later_of_tokens (RefreshToken.tokenHash_consume next) (fun _ => rfl) fun _ h => TokenState.noConfusion h⟩
  | insertToken row =>
      exact ⟨(Later.refl db).session, fun k l hl => ⟨l, Table.find?_insert_of_some hl, rfl, fun h => h⟩⟩
  | rotateSession id hash expiresAt =>
      exact ⟨later_of_sessions (Session.id_rotate hash expiresAt) (fun _ => rfl) (fun _ => rfl)
        fun _ h => h, (Later.refl db).token⟩
  | revokeSession id reason =>
      exact ⟨later_of_sessions (Session.id_revoke reason) (fun _ => rfl) (fun _ => rfl)
        fun _ _ => rfl, (Later.refl db).token⟩
  | revokeToken hash =>
      exact ⟨(Later.refl db).session,
        later_of_tokens RefreshToken.tokenHash_revoke (fun _ => rfl) fun _ h => TokenState.noConfusion h⟩
  | insertSession row =>
      exact ⟨fun id s hs => ⟨s, Table.find?_insert_of_some hs, rfl, rfl, fun h => h⟩,
        (Later.refl db).token⟩
  | setPassword id passwordHash => exact ⟨(Later.refl db).session, (Later.refl db).token⟩
  | useResetToken hash now => exact ⟨(Later.refl db).session, (Later.refl db).token⟩

/-- So do the writes of a transaction. -/
theorem later_applyAll (db : AuthDb) (ws : List AuthWrite) : Later db (db.applyAll ws) := by
  induction ws generalizing db with
  | nil => exact .refl db
  | cons w ws ih => exact (later_apply db w).trans (ih (db.apply w))

end Lateness

end Daftar.Auth
