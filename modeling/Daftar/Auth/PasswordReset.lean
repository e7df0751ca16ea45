/-
  File: Daftar/Auth/PasswordReset.lean
  Subject: Sessions opened with a password that a reset replaces.

  * A login checks the password in one transaction and creates its session in another.
  * `ResetEnds`: the sessions whose login read the password before a reset are revoked.
  * `reset_ends`: every state a run reaches is so, when each login commits its session while the
    password is the one it read and no reset of it has listed the sessions.
  * A login whose session commits after the reset keeps an active session, for good:
    `not_reset_ends_late_session`.
-/

import Daftar.Auth.RefreshRotation

namespace Daftar.Auth

open Fallible
open LockedTransactions
open Runs
open Tables

/-! ## 1. The condition of a commit -/

/-- A session whose login read the password before a committed reset of it is revoked. -/
def ResetEnds (db : AuthDb) : Prop :=
  ∀ sid userId n, .opened sid userId n ∈ db.log → n < db.resets userId →
    ∀ s ∈ db.sessions.rows, s.id = sid → s.status = .revoked

/-- The password a login read is its user's still. -/
def PasswordCurrent (db : AuthDb) (t : Tx) : Prop :=
  ∀ d, t = .created d → d.resetsSeen = db.resets d.userId

/-- The reset whose sessions are listed. -/
def Tx.listed? : Tx → Option PasswordChange
  | .revokeSessions j _ _ => j.change
  | .listTokens j _ => j.change
  | .revokeTokens j _ _ _ => j.change
  | _ => none

/-- Another transaction has not listed the sessions of the user whose session this one creates. -/
def Unlisted (t u : Tx) : Prop :=
  ∀ d change, t = .created d → u.listed? = some change → change.userId ≠ d.userId

/-! ## 2. What a call may assume -/

/-- The session a login creates has a free id, and its lock. -/
structure Drafted (db : AuthDb) (d : SessionDraft) (held : List Lock) : Prop where
  lock : .session d.call.sessionId ∈ held
  free : db.sessions.find? d.call.sessionId = none

/-- A reset revokes the sessions of its user, and has them listed. -/
def ListedFor (db : AuthDb) (j : RevokeJob) (ids : List Uuid) : Prop :=
  ∀ change, j.change = some change → j.scope = .user change.userId ∧ Listed db j.scope ids

def Expects (db : AuthDb) (t : Tx) (held : List Lock) : Prop :=
  match t with
  | .createToken d => Drafted db d held
  | .created d => Drafted db d held
  | .revoke j => ∀ change, j.change = some change → j.scope = .user change.userId
  | .revokeSessions j sessions todo => ListedFor db j (sessions ++ todo)
  | .listTokens j sessions => ListedFor db j sessions
  | .revokeTokens j sessions _ _ => ListedFor db j sessions
  | _ => True

section Statements

variable {I : Identity} {db : AuthDb} {t t' : Tx} {held locks : List Lock}

theorem expects_selectForRefresh {c : RefreshCall} (h : selectForRefresh db c = (locks, .ok t')) :
    Expects db t' held := by
  rcases selectForRefresh_eq_ok h with ⟨v, rfl⟩ | ⟨l, s, rfl, _⟩
  · trivial
  · trivial

theorem checkLogin_eq_ok {c : LoginCall} (h : checkLogin I db c = .ok t') :
    ∃ userId, t' = .createSession ⟨c, userId, db.resets userId⟩ := by
  unfold checkLogin at h
  split at h
  · cases h
  · rename_i u _
    simp only [bind_eq_ok, refuseIf_eq_ok, exists_const] at h
    cases h.2
    exact ⟨u.id, rfl⟩

/-- **What a call may assume carries over its own statements.** -/
theorem Expects.statement (h : Expects db t held) (hexec : exec I db t = (locks, .ok t')) :
    Expects db t' (locks ++ held) := by
  cases t with
  | refresh c => exact expects_selectForRefresh hexec
  | consume c l s =>
      simp only [exec] at hexec
      split at hexec
      · cases hexec
        trivial
      · split at hexec
        · cases hexec
          trivial
        · cases hexec
          trivial
  | issue c l s =>
      obtain ⟨_, _, rfl⟩ := insertKey_eq_ok hexec
      trivial
  | rotate c l s =>
      cases hexec
      trivial
  | ended v =>
      cases hexec
      trivial
  | revoke j =>
      cases hexec
      exact fun change hchange => ⟨h change hchange, listed_listSessions db j.scope⟩
  | revokeSessions j sessions todo =>
      cases todo with
      | nil =>
          cases hexec
          exact fun change hchange => ⟨(h change hchange).1, by simpa using (h change hchange).2⟩
      | cons id todo =>
          obtain ⟨kept, rfl, _, hlist⟩ := updateSession_eq_ok hexec
          exact fun change hchange => ⟨(h change hchange).1, hlist (h change hchange).2⟩
  | listTokens j sessions =>
      cases hexec
      exact h
  | revokeTokens j sessions tokens todo =>
      cases todo with
      | nil =>
          cases hexec
          exact h
      | cons k todo =>
          obtain ⟨kept, rfl, _⟩ := updateToken_eq_ok hexec
          exact h
  | resetPassword c =>
      simp only [exec, selectResetToken] at hexec
      split at hexec
      · cases hexec
      · split at hexec
        · cases hexec
          trivial
        · cases hexec
  | setPassword change =>
      cases hexec
      intro change' hchange
      cases hchange
      rfl
  | login c =>
      obtain ⟨userId, rfl⟩ := checkLogin_eq_ok (congrArg Prod.snd hexec)
      trivial
  | createSession d =>
      obtain ⟨hused, rfl, rfl⟩ := insertKey_eq_ok hexec
      exact ⟨List.mem_cons_self, by simpa using hused⟩
  | createToken d =>
      obtain ⟨_, _, rfl⟩ := insertKey_eq_ok hexec
      exact ⟨List.mem_append_right _ (Drafted.lock h), Drafted.free h⟩
  | created d =>
      cases hexec
      exact h

end Statements

/-! ## 3. Commits -/

section Commits

variable {db : AuthDb} {t u : Tx} {held held' : List Lock} {d : SessionDraft} {id : Uuid} {s' : Session}

/-- The row a login inserts. -/
def SessionDraft.row (d : SessionDraft) : Session :=
  ⟨d.call.sessionId, d.userId, d.call.familyId, hashRefreshToken d.call.refresh, none, .active, none,
    d.call.now + SESSION_TTL⟩

theorem session_created (h : Drafted db d held) (id : Uuid) : (db.commit (.created d)).sessions.find? id =
    if d.call.sessionId = id then some d.row else db.sessions.find? id :=
  Table.find?_insert h.free

/-- A session was there, or is the one a login created. -/
theorem session_of_commit (h : Expects db u held') (hs : (db.commit u).sessions.find? id = some s') :
    (∃ s, db.sessions.find? id = some s) ∨ ∃ d, u = .created d ∧ s' = d.row ∧ d.call.sessionId = id := by
  by_cases hu : ∃ d, u = .created d
  · obtain ⟨d, rfl⟩ := hu
    rw [session_created h id] at hs
    by_cases hid : d.call.sessionId = id
    · rw [if_pos hid] at hs
      exact .inr ⟨d, rfl, (Option.some.inj hs).symm, hid⟩
    · rw [if_neg hid] at hs
      exact .inl ⟨s', hs⟩
  · exact .inl (session_of_applyAll (Tx.writes_not_insert fun d hd => hu ⟨d, hd⟩) hs)

theorem Drafted.stable (h : Drafted db d held) (hu : Expects db u held')
    (hc : ∀ a ∈ held, ∀ b ∈ held', ¬ a = b) : Drafted (db.commit u) d held := by
  refine ⟨h.lock, ?_⟩
  cases hs : (db.commit u).sessions.find? d.call.sessionId with
  | none => rfl
  | some s' =>
      rcases session_of_commit hu hs with ⟨s, hold⟩ | ⟨d', rfl, _, hid⟩
      · rw [h.free] at hold
        cases hold
      · exact absurd (congrArg Lock.session hid.symm) (hc _ h.lock _ (Drafted.lock hu))

theorem ListedFor.stable {j : RevokeJob} {ids : List Uuid} (h : ListedFor db j ids)
    (hu : Expects db u held') (hother : ∀ d change, u = .created d → j.change = some change →
      change.userId ≠ d.userId) : ListedFor (db.commit u) j ids := by
  intro change hchange
  obtain ⟨hscope, hlisted⟩ := h change hchange
  refine ⟨hscope, fun id s' hs' hcovers hactive => ?_⟩
  rcases session_of_commit hu hs' with ⟨s, hs⟩ | ⟨d, hd, rfl, _⟩
  · obtain ⟨huser, hfamily, hstatus⟩ := (later_commit db u).session_before hs hs'
    have hid := (Table.key_of_find? hs').trans (Table.key_of_find? hs).symm
    exact hlisted id s hs ((Scope.covers_congr hid huser hfamily).mp hcovers) (hstatus hactive)
  · rw [hscope] at hcovers
    exact absurd hcovers.symm (hother d change hd hchange)

/-- **What a call may assume survives the commits of others**, but for a login's that a reset has
    not listed. -/
theorem Expects.stable (h : Expects db t held) (hu : Expects db u held') (hother : Unlisted u t)
    (hc : ∀ a ∈ held, ∀ b ∈ held', ¬ a = b) : Expects (db.commit u) t held := by
  cases t with
  | createToken d => exact Drafted.stable h hu hc
  | created d => exact Drafted.stable h hu hc
  | revoke j => exact h
  | revokeSessions j sessions todo => exact ListedFor.stable h hu hother
  | listTokens j sessions => exact ListedFor.stable h hu hother
  | revokeTokens j sessions tokens todo => exact ListedFor.stable h hu hother
  | _ => trivial

theorem reset_of_events {userId : Uuid} (h : .reset userId ∈ u.events) : ∃ j sessions tokens change,
    u = .revokeTokens j sessions tokens [] ∧ j.change = some change ∧ change.userId = userId := by
  cases u with
  | rotate c l s => cases List.mem_singleton.mp h
  | revokeTokens j sessions tokens todo =>
      cases todo with
      | nil =>
          have hevents : .reset userId ∈ j.events := h
          unfold RevokeJob.events at hevents
          split at hevents
          · cases List.mem_singleton.mp hevents
          · rename_i change hchange
            simp only [List.mem_cons, List.not_mem_nil, or_false, AuthEvent.reset.injEq,
              reduceCtorEq, false_or] at hevents
            exact ⟨j, sessions, tokens, change, rfl, hchange, hevents.symm⟩
      | cons k todo => exact absurd h List.not_mem_nil
  | created d => cases List.mem_singleton.mp h
  | _ => exact absurd h List.not_mem_nil

theorem opened_of_events {sid userId : Uuid} {n : ℕ} (h : .opened sid userId n ∈ u.events) :
    ∃ d, u = .created d ∧ d.call.sessionId = sid ∧ d.userId = userId ∧ d.resetsSeen = n := by
  cases u with
  | rotate c l s => cases List.mem_singleton.mp h
  | revokeTokens j sessions tokens todo =>
      cases todo with
      | nil =>
          have hevents : .opened sid userId n ∈ j.events := h
          unfold RevokeJob.events at hevents
          split at hevents
          · cases List.mem_singleton.mp hevents
          · simp only [List.mem_cons, List.not_mem_nil, or_false, reduceCtorEq] at hevents
      | cons k todo => exact absurd h List.not_mem_nil
  | created d =>
      cases List.mem_singleton.mp h
      exact ⟨d, rfl, rfl, rfl, rfl⟩
  | _ => exact absurd h List.not_mem_nil

theorem resets_commit (userId : Uuid) (h : .reset userId ∉ u.events) :
    (db.commit u).resets userId = db.resets userId := by
  show (u.events ++ db.log).count _ = db.log.count _
  rw [List.count_append, List.count_eq_zero.mpr h, zero_add]

/-- An opened session is there, and active only under the password its login read. -/
def SessionsCurrent (db : AuthDb) : Prop :=
  ∀ sid userId n, .opened sid userId n ∈ db.log → ∃ s, db.sessions.find? sid = some s ∧
    s.userId = userId ∧ (s.status = .active → n = db.resets userId)

/-- A reset revokes the sessions it has listed. -/
theorem ListedFor.revoked {j : RevokeJob} {sessions : List Uuid} {tokens : List String}
    {change : PasswordChange} {s s' : Session} (h : ListedFor db j sessions)
    (hchange : j.change = some change) (hs : db.sessions.find? id = some s)
    (huser : s.userId = change.userId)
    (hs' : (db.commit (.revokeTokens j sessions tokens [])).sessions.find? id = some s') :
    s'.status ≠ .active := by
  intro hactive
  obtain ⟨hscope, hlisted⟩ := h change hchange
  have hcovers : j.scope.Covers s := by
    rw [hscope]
    exact huser
  have hid := hlisted id s hs hcovers (((later_commit db _).session_before hs hs').2.2 hactive)
  obtain ⟨s'', hs'', hrevoked⟩ :
      ∃ s'', (db.commit (.revokeTokens j sessions tokens [])).sessions.find? id = some s'' ∧
        s''.status = .revoked := session_revoked hid hs
  rw [hs'] at hs''
  cases hs''
  exact absurd (hactive.symm.trans hrevoked) SessionStatus.noConfusion

/-- **A commit keeps the sessions current**: a login's is under the password it read, a reset's ends
    the sessions of its user. -/
theorem SessionsCurrent.commit (h : SessionsCurrent db) (hu : Expects db u held)
    (hcurrent : PasswordCurrent db u) : SessionsCurrent (db.commit u) := by
  intro sid userId n hm
  rcases List.mem_append.mp hm with hm | hm
  · obtain ⟨d, rfl, rfl, rfl, rfl⟩ := opened_of_events hm
    refine ⟨d.row, ?_, rfl, fun _ => ?_⟩
    · rw [session_created hu, if_pos rfl]
    · exact (hcurrent d rfl).trans (resets_commit _ (by simp [Tx.events])).symm
  · obtain ⟨s, hs, huser, hstatus⟩ := h sid userId n hm
    obtain ⟨s', hs', huser', _⟩ := (later_commit db u).session sid s hs
    refine ⟨s', hs', huser'.trans huser, fun hactive => ?_⟩
    by_cases hreset : .reset userId ∈ u.events
    · obtain ⟨j, sessions, tokens, change, rfl, hchange, rfl⟩ := reset_of_events hreset
      exact absurd hactive (ListedFor.revoked hu hchange hs huser hs')
    · rw [resets_commit userId hreset]
      exact hstatus (((later_commit db u).session_before hs hs').2.2 hactive)

end Commits

/-! ## 4. Every interleaving -/

theorem reset_outline (I : Identity) :
    (identity I).OutlineWhen PasswordCurrent Unlisted SessionsCurrent Expects where
  start := fun {db t} _ ht => by
    rcases ht with ht | ⟨c, rfl⟩
    · cases t with
      | revoke j =>
          obtain ⟨id, hj⟩ := ht
          rcases hj with rfl | rfl | rfl <;> exact fun _ hchange => absurd hchange.symm (Option.some_ne_none _)
      | refresh c => trivial
      | resetPassword c => trivial
      | _ => exact absurd ht id
    · trivial
  statement := fun _ h hexec => h.statement hexec
  stable := fun _ h hu _ _ hother hc => h.stable hu hother hc
  commit := fun h hu _ hcurrent => h.commit hu hcurrent

theorem SessionsCurrent.resetEnds {db : AuthDb} (h : SessionsCurrent db) : ResetEnds db := by
  intro sid userId n hm hlt s hs hid
  obtain ⟨s', hs', _, hstatus⟩ := h sid userId n hm
  rw [← hid, Table.find?_of_mem hs] at hs'
  cases hs'
  cases hst : s.status with
  | active => exact absurd (hstatus hst) (Nat.ne_of_lt hlt)
  | revoked => rfl

/-- **A reset ends every session the old password opened**, in every run whose logins commit their
    sessions in time. -/
theorem reset_ends {I : Identity} {db : AuthDb} (hlog : db.log = []) {es : List Event}
    {u : State AuthDb Tx Lock}
    (hrun : Run ((identity I).StepWhen PasswordCurrent Unlisted) (.idle db) es u) : ResetEnds u.db := by
  have hstart : SessionsCurrent db := by
    intro sid userId n hm
    rw [hlog] at hm
    cases hm
  exact ((reset_outline I).sound hrun (.idle hstart)).db.resetEnds

/-! ## 5. One user, one login and one reset -/

def sampleUser : User where
  id := sampleSession.userId
  email := "owner"
  passwordHash := "old"
  status := .active

def sampleResetToken : PasswordResetToken := ⟨hashRefreshToken "reset", sampleUser.id, none, 100⟩

def resetDb : AuthDb where
  users := ⟨[sampleUser], List.nodup_singleton _⟩
  sessions := .empty
  tokens := .empty
  resetTokens := ⟨[sampleResetToken], List.nodup_singleton _⟩
  log := []

def sampleLogin : LoginCall :=
  ⟨"owner", "old", sampleSession.id, sampleSession.familyId, "refresh", 0⟩

def sampleDraft : SessionDraft := ⟨sampleLogin, sampleUser.id, 0⟩

def sampleChange : PasswordChange := ⟨⟨"reset", "new", 0⟩, sampleUser.id⟩

section Sample

variable {db : AuthDb}

theorem sampleLogin_checked : exec sampleIdentity resetDb (.login sampleLogin) =
    ([], .ok (.createSession sampleDraft)) := rfl

/-- The session is created where its id and its token are free. -/
theorem sampleDraft_created (hs : db.sessions.rows = []) (ht : db.tokens.rows = []) :
    (identity sampleIdentity).execs db 2 (.createSession sampleDraft) = .ok (.created sampleDraft) := by
  have hsession : db.sessions.find? sampleDraft.call.sessionId = none := by
    rw [Table.find?_eq_none, hs]
    exact List.not_mem_nil
  have htoken : db.tokens.find? (hashRefreshToken sampleDraft.call.refresh) = none := by
    rw [Table.find?_eq_none, ht]
    exact List.not_mem_nil
  have hinsert : (exec sampleIdentity db (.createSession sampleDraft)).2 =
      .ok (.createToken sampleDraft) := by
    simp only [exec, insertKey, hsession]
    rfl
  have hissue : (exec sampleIdentity db (.createToken sampleDraft)).2 = .ok (.created sampleDraft) := by
    simp only [exec, insertKey, htoken]
    rfl
  simp only [System.execs, identity, hinsert, hissue]

/-- The reset token is found where it was not used. -/
theorem sampleReset_found (h : db.resetTokens.rows = [sampleResetToken]) :
    (exec sampleIdentity db (.resetPassword sampleChange.call)).2 = .ok (.setPassword sampleChange) := by
  have hfound : db.resetTokens.find? (hashRefreshToken sampleChange.call.token) =
      some sampleResetToken := Table.find?_eq_some.mpr ⟨h ▸ List.mem_cons_self, rfl⟩
  simp only [exec, selectResetToken, hfound]
  rfl

/-- A reset that finds no session. -/
theorem sampleReset_alone : (identity sampleIdentity).execs resetDb 6 (.resetPassword sampleChange.call) =
    .ok (.revokeTokens (passwordReset sampleChange) [] [] []) := by
  have hselect : (exec sampleIdentity resetDb (.resetPassword sampleChange.call)).2 =
      .ok (.setPassword sampleChange) := sampleReset_found rfl
  simp only [System.execs, identity, hselect]
  rfl

/-- It takes no lock before the insert. -/
theorem sampleLogin_takes : (identity sampleIdentity).takes resetDb 1 (.login sampleLogin) = [] := by
  rw [System.takes, show (identity sampleIdentity).exec resetDb (.login sampleLogin) =
    ([], .ok (.createSession sampleDraft)) from sampleLogin_checked]
  rfl

/-- The database after the login. -/
def afterLogin : AuthDb := resetDb.commit (.created sampleDraft)

theorem sampleDraft_found : afterLogin.sessions.find? sampleSession.id = some sampleDraft.row := by
  have hdrafted : Drafted resetDb sampleDraft [.session sampleSession.id] := ⟨List.mem_cons_self, rfl⟩
  exact session_created hdrafted sampleSession.id

/-- A reset that finds the session. -/
theorem sampleReset_ends : (identity sampleIdentity).execs afterLogin 8 (.resetPassword sampleChange.call) =
    .ok (.revokeTokens (passwordReset sampleChange) [sampleSession.id] [hashRefreshToken "refresh"] []) := by
  have hselect : (exec sampleIdentity afterLogin (.resetPassword sampleChange.call)).2 =
      .ok (.setPassword sampleChange) := sampleReset_found rfl
  have hlist : (exec sampleIdentity afterLogin (.revoke (passwordReset sampleChange))).2 =
      .ok (.revokeSessions (passwordReset sampleChange) [] [sampleSession.id]) := rfl
  have hupdate : (exec sampleIdentity afterLogin
      (.revokeSessions (passwordReset sampleChange) [] [sampleSession.id])).2 =
      .ok (.revokeSessions (passwordReset sampleChange) [sampleSession.id] []) := by
    simp only [exec, updateSession, sampleDraft_found]
    rfl
  have htokens : (exec sampleIdentity afterLogin
      (.listTokens (passwordReset sampleChange) [sampleSession.id])).2 =
      .ok (.revokeTokens (passwordReset sampleChange) [sampleSession.id] [] [hashRefreshToken "refresh"]) :=
    rfl
  have hfound : afterLogin.tokens.find? (hashRefreshToken "refresh") =
      some ⟨hashRefreshToken "refresh", sampleSession.id, .issued, none⟩ :=
    Table.find?_eq_some.mpr ⟨List.mem_cons_self, rfl⟩
  have htoken : (exec sampleIdentity afterLogin (.revokeTokens (passwordReset sampleChange)
      [sampleSession.id] [] [hashRefreshToken "refresh"])).2 =
      .ok (.revokeTokens (passwordReset sampleChange) [sampleSession.id] [hashRefreshToken "refresh"] []) := by
    simp only [exec, updateToken, hfound]
    rfl
  have hset : (exec sampleIdentity afterLogin (.setPassword sampleChange)).2 =
      .ok (.revoke (passwordReset sampleChange)) := rfl
  have hnext : (exec sampleIdentity afterLogin
      (.revokeSessions (passwordReset sampleChange) [sampleSession.id] [])).2 =
      .ok (.listTokens (passwordReset sampleChange) [sampleSession.id]) := rfl
  have hend : (exec sampleIdentity afterLogin (.revokeTokens (passwordReset sampleChange)
      [sampleSession.id] [hashRefreshToken "refresh"] [])).2 =
      .ok (.revokeTokens (passwordReset sampleChange) [sampleSession.id] [hashRefreshToken "refresh"] []) := rfl
  simp only [System.execs, identity, hselect, hset, hlist, hupdate, hnext, htokens, htoken, hend]

/-- A login whose session is committed, and then the reset. -/
theorem reset_ends_sample : ∃ u : State AuthDb Tx Lock, u.db.log =
    [.revoked (.user sampleUser.id), .reset sampleUser.id, .opened sampleSession.id sampleUser.id 0] ∧
      ResetEnds u.db := by
  have hlogin : (identity sampleIdentity).starts (.login sampleLogin) := .inr ⟨sampleLogin, rfl⟩
  have hcreated : (identity sampleIdentity).ready (.created sampleDraft) := trivial
  have hcreate : (identity sampleIdentity).execs resetDb 3 (.login sampleLogin) =
      .ok (.created sampleDraft) :=
    (System.execs_succ (congrArg Prod.snd sampleLogin_checked)).trans (sampleDraft_created rfl rfl)
  have hcurrent : PasswordCurrent resetDb (.created sampleDraft) := by
    intro d hd
    cases hd
    rfl
  obtain ⟨es, hrun⟩ := System.run_whole (P := PasswordCurrent) (Q := Unlisted) (i := 0)
    (s := .idle resetDb) (fun j u held' _ hu => by cases hu) rfl hlogin hcreate hcreated hcurrent
    fun j u held' _ hu => by cases hu
  have hreset : (identity sampleIdentity).starts (.resetPassword sampleChange.call) := .inl trivial
  have hdone : (identity sampleIdentity).ready (.revokeTokens (passwordReset sampleChange)
      [sampleSession.id] [hashRefreshToken "refresh"] []) := trivial
  obtain ⟨fs, hlast⟩ := System.run_whole (P := PasswordCurrent) (Q := Unlisted)
    (i := 1) (s := .idle afterLogin) (fun j u held' _ hu => by cases hu) rfl hreset
    sampleReset_ends hdone (fun d hd => by cases hd) fun j u held' _ hu => by cases hu
  exact ⟨_, rfl, reset_ends rfl (hrun.trans hlast)⟩

/-- **A login that read the password before the reset opens its session after it.** -/
theorem not_reset_ends_late_session : ∃ es u,
    Run (identity sampleIdentity).Step (.idle resetDb) es u ∧ ¬ ResetEnds u.db := by
  have hreset : (identity sampleIdentity).starts (.resetPassword sampleChange.call) := .inl trivial
  have hdone : (identity sampleIdentity).ready (.revokeTokens (passwordReset sampleChange) [] [] []) :=
    trivial
  have hcreated : (identity sampleIdentity).ready (.created sampleDraft) := trivial
  let afterReset : AuthDb := resetDb.commit (.revokeTokens (passwordReset sampleChange) [] [] [])
  have hlogin : (identity sampleIdentity).starts (.login sampleLogin) := .inr ⟨sampleLogin, rfl⟩
  have hfirst : (identity sampleIdentity).execs resetDb 1 (.login sampleLogin) =
      .ok (.createSession sampleDraft) := System.execs_succ (congrArg Prod.snd sampleLogin_checked)
  have hlate : (identity sampleIdentity).execs afterReset 2 (.createSession sampleDraft) =
      .ok (.created sampleDraft) := sampleDraft_created rfl rfl
  obtain ⟨es, hrun⟩ := System.run_overtaken hlogin hfirst hreset sampleReset_alone hdone
    (.of_nil sampleLogin_takes) hlate hcreated
  refine ⟨es, _, hrun, fun h => ?_⟩
  have hdrafted : Drafted afterReset sampleDraft [.session sampleSession.id] :=
    ⟨List.mem_cons_self, rfl⟩
  have hs := session_created hdrafted sampleSession.id
  have hrevoked := h sampleSession.id sampleUser.id 0 List.mem_cons_self (by decide +kernel) sampleDraft.row
    (Table.find?_eq_some.mp hs).1 rfl
  cases hrevoked

end Sample

end Daftar.Auth
