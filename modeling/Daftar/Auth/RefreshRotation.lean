/-
  File: Daftar/Auth/RefreshRotation.lean
  Subject: Rotation of refresh tokens and revocation of their families, under any interleaving.

  * `Assumes`: what a call may assume at its point. A refresh has the rows it read, as it read
    them; a revocation has listed every active session of its scope.
  * `Sound`, `Recorded`: what holds of the rows and of what was done to them.
  * `rotation_safe`: every state a run reaches is `RotationSafe`.
-/

import Daftar.Auth.AuthSteps

namespace Daftar.Auth

open Fallible
open LockedTransactions
open Runs
open Tables

/-! ## 1. What holds of the database -/

/-- A session has one token to exchange, and the active ones hold its hash. -/
structure Sound (db : AuthDb) : Prop where
  owned : ∀ k l, db.tokens.find? k = some l → ∃ s, db.sessions.find? l.sessionId = some s
  single : ∀ j k l m, db.tokens.find? j = some l → db.tokens.find? k = some m →
    l.state = .issued → m.state = .issued → l.sessionId = m.sessionId → j = k
  current : ∀ id s, db.sessions.find? id = some s → s.status = .active →
    ∃ l, db.tokens.find? s.refreshTokenHash = some l ∧ l.sessionId = id ∧ l.state = .issued
  families : ∀ i j s t, db.sessions.find? i = some s → db.sessions.find? j = some t →
    s.familyId = t.familyId → i = j

def AuthEvent.exchanged? : AuthEvent → Option String
  | .exchanged tokenHash _ => some tokenHash
  | _ => none

/-- An exchange after a revocation is of a session it does not cover. -/
def Spared (db : AuthDb) (later earlier : AuthEvent) : Prop :=
  ∀ k sid scope s, later = .exchanged k sid → earlier = .revoked scope →
    db.sessions.find? sid = some s → ¬ scope.Covers s

/-- What the log says is still so. -/
structure Recorded (db : AuthDb) : Prop where
  spent : ∀ k sid, .exchanged k sid ∈ db.log →
    ∃ l, db.tokens.find? k = some l ∧ l.state ≠ .issued
  once : (db.log.filterMap AuthEvent.exchanged?).Nodup
  ended : ∀ scope, .revoked scope ∈ db.log →
    ∀ id s, db.sessions.find? id = some s → scope.Covers s → s.status = .revoked
  spared : db.log.Pairwise (Spared db)

/-! ## 2. What a call may assume -/

/-- The rows of a refresh are locked and as they were read. -/
structure Locked (db : AuthDb) (l : RefreshToken) (s : Session) (held : List Lock) : Prop where
  token : .token l.tokenHash ∈ held
  session : .session s.id ∈ held
  row : db.tokens.find? l.tokenHash = some l
  issued : l.state = .issued
  owner : db.sessions.find? s.id = some s
  ofSession : l.sessionId = s.id
  active : s.status = .active

/-- A password change has the locks of what it writes. -/
def ChangeHeld (j : RevokeJob) (held : List Lock) : Prop := ∀ w ∈ j.changes, w.lock ∈ held

def Assumes (db : AuthDb) (t : Tx) (held : List Lock) : Prop :=
  match t with
  | .consume _ l s => Locked db l s held
  | .issue _ l s => Locked db l s held
  | .rotate c l s => Locked db l s held ∧ .token (hashRefreshToken c.next) ∈ held ∧
      db.tokens.find? (hashRefreshToken c.next) = none
  | .revoke j => ChangeHeld j held
  | .revokeSessions j sessions todo => ChangeHeld j held ∧ (∀ id ∈ sessions, .session id ∈ held) ∧
      Listed db j.scope (sessions ++ todo)
  | .listTokens j sessions => ChangeHeld j held ∧ (∀ id ∈ sessions, .session id ∈ held) ∧
      Listed db j.scope sessions
  | .revokeTokens j sessions tokens todo => ChangeHeld j held ∧
      (∀ id ∈ sessions, .session id ∈ held) ∧ Listed db j.scope sessions ∧
      (∀ k ∈ tokens, .token k ∈ held) ∧ ∀ k ∈ tokens ++ todo, InScope db j.scope k
  | .setPassword change => .resetToken (hashRefreshToken change.call.token) ∈ held
  | .login _ => False
  | .createSession _ => False
  | .createToken _ => False
  | .created _ => False
  | _ => True

section Statements

variable {I : Identity} {db : AuthDb} {t t' : Tx} {held locks : List Lock}

theorem Locked.more {l : RefreshToken} {s : Session} (h : Locked db l s held) :
    Locked db l s (locks ++ held) :=
  { h with
    token := List.mem_append_right _ h.token
    session := List.mem_append_right _ h.session }

theorem ChangeHeld.more {j : RevokeJob} (h : ChangeHeld j held) : ChangeHeld j (locks ++ held) :=
  fun w hw => List.mem_append_right _ (h w hw)

theorem selectForRefresh_eq_ok {c : RefreshCall} (h : selectForRefresh db c = (locks, .ok t')) :
    (∃ v, t' = .ended v) ∨ ∃ l s, t' = .consume c l s ∧ Locked db l s locks := by
  unfold selectForRefresh at h
  split at h
  · cases h
    exact .inl ⟨_, rfl⟩
  · rename_i l hl
    split at h
    · cases h
      exact .inl ⟨_, rfl⟩
    · rename_i s hs
      split at h
      · cases h
        exact .inl ⟨_, rfl⟩
      · rename_i hlive
        simp only [not_or, not_not] at hlive
        cases h
        have hid := Table.key_of_find? hs
        have hkey := Table.key_of_find? hl
        refine .inr ⟨l, s, rfl, ⟨List.mem_cons_self, ?_, ?_, hlive.1, ?_, hid.symm, hlive.2.1⟩⟩
        · rw [hid]
          exact List.mem_cons_of_mem _ List.mem_cons_self
        · rw [hkey]
          exact hl
        · rw [hid]
          exact hs

/-- **What a call may assume carries over its own statements.** -/
theorem Assumes.statement (h : Assumes db t held) (hexec : exec I db t = (locks, .ok t')) :
    Assumes db t' (locks ++ held) := by
  cases t with
  | refresh c =>
      rcases selectForRefresh_eq_ok hexec with ⟨v, rfl⟩ | ⟨l, s, rfl, hlocked⟩
      · trivial
      · exact { hlocked with
          token := List.mem_append_left _ hlocked.token
          session := List.mem_append_left _ hlocked.session }
  | consume c l s =>
      have hrow := Locked.row h
      have hissued := Locked.issued h
      simp only [exec, hrow, hissued, if_true, Prod.mk.injEq] at hexec
      obtain ⟨rfl, hexec⟩ := hexec
      cases hexec
      exact Locked.more h
  | issue c l s =>
      obtain ⟨hused, rfl, rfl⟩ := insertKey_eq_ok hexec
      refine ⟨Locked.more h, List.mem_cons_self, ?_⟩
      simpa using hused
  | rotate c l s =>
      cases hexec
      exact h
  | ended v =>
      cases hexec
      trivial
  | revoke j =>
      cases hexec
      exact ⟨h, fun _ hid => absurd hid List.not_mem_nil, listed_listSessions db j.scope⟩
  | revokeSessions j sessions todo =>
      obtain ⟨hchange, hlocks, hlisted⟩ := h
      cases todo with
      | nil =>
          cases hexec
          rw [List.append_nil] at hlisted
          exact ⟨hchange, hlocks, hlisted⟩
      | cons id todo =>
          obtain ⟨kept, rfl, hkept, hlist⟩ := updateSession_eq_ok hexec
          refine ⟨hchange.more, fun sid hsid => ?_, hlist hlisted⟩
          rcases hkept sid hsid with hold | hnew
          · exact List.mem_append_right _ (hlocks sid hold)
          · exact List.mem_append_left _ hnew
  | listTokens j sessions =>
      cases hexec
      exact ⟨h.1, h.2.1, h.2.2, fun _ hk => absurd hk List.not_mem_nil,
        fun k hk => inScope_listTokens hk⟩
  | revokeTokens j sessions tokens todo =>
      obtain ⟨hchange, hlocks, hlisted, htokens, hscope⟩ := h
      cases todo with
      | nil =>
          cases hexec
          exact ⟨hchange, hlocks, hlisted, htokens, hscope⟩
      | cons k todo =>
          obtain ⟨kept, rfl, hkept, hmem⟩ := updateToken_eq_ok hexec
          refine ⟨hchange.more, fun sid hsid => List.mem_append_right _ (hlocks sid hsid), hlisted,
            fun k hk => ?_, fun k hk => hscope k (hmem k hk)⟩
          rcases hkept k hk with hold | hnew
          · exact List.mem_append_right _ (htokens k hold)
          · exact List.mem_append_left _ hnew
  | resetPassword c =>
      simp only [exec, selectResetToken] at hexec
      split at hexec
      · cases hexec
      · rename_i r hr
        split at hexec
        · cases hexec
          show Lock.resetToken (hashRefreshToken c.token) ∈ _
          rw [← Table.key_of_find? hr]
          exact List.mem_cons_self
        · cases hexec
  | setPassword change =>
      cases hexec
      intro w hw
      simp only [RevokeJob.changes, passwordReset, PasswordChange.writes, List.mem_cons,
        List.not_mem_nil, or_false] at hw
      rcases hw with rfl | rfl
      · exact List.mem_cons_of_mem _ h
      · exact List.mem_cons_self
  | login c => exact absurd h id
  | createSession d => exact absurd h id
  | createToken d => exact absurd h id
  | created d => exact absurd h id

end Statements

/-! ## 3. Commits elsewhere -/

section Stability

variable {db : AuthDb} {t u : Tx} {held held' : List Lock} {w : AuthWrite}

theorem Assumes.locks (h : Assumes db u held') (hdone : u.IsDone) :
    ∀ w ∈ u.writes, w.lock ∈ held' := by
  cases u with
  | rotate c l s =>
      intro w hw
      simp only [Tx.writes, List.mem_cons, List.not_mem_nil, or_false] at hw
      rcases hw with rfl | rfl | rfl
      · exact h.1.token
      · exact h.2.1
      · exact h.1.session
  | revokeTokens j sessions tokens todo =>
      cases todo with
      | nil =>
          intro w hw
          rcases List.mem_append.mp hw with hw | hw
          · rcases List.mem_append.mp hw with hw | hw
            · exact h.1 w hw
            · obtain ⟨id, hid, rfl⟩ := List.mem_map.mp hw
              exact h.2.1 id hid
          · obtain ⟨k, hk, rfl⟩ := List.mem_map.mp hw
            exact h.2.2.2.1 k hk
      | cons k todo => cases hdone
  | created d => exact absurd h id
  | _ => exact fun w hw => absurd hw List.not_mem_nil

theorem Assumes.not_insert (h : Assumes db u held') :
    ∀ w ∈ u.writes, ∀ row, w ≠ .insertSession row := by
  refine Tx.writes_not_insert fun d hd => ?_
  rw [hd] at h
  exact h

/-- What a commit leaves to a transaction that holds `held`. -/
structure Frame (db db' : AuthDb) (held : List Lock) : Prop where
  later : Later db db'
  known : ∀ id s', db'.sessions.find? id = some s' → ∃ s, db.sessions.find? id = some s
  token : ∀ k, .token k ∈ held → db'.tokens.find? k = db.tokens.find? k
  session : ∀ id, .session id ∈ held → db'.sessions.find? id = db.sessions.find? id

/-- **A commit is a frame for every transaction with compatible locks.** -/
theorem Assumes.frame (h : Assumes db u held') (hdone : u.IsDone)
    (hc : ∀ a ∈ held, ∀ b ∈ held', ¬ a = b) : Frame db (db.commit u) held where
  later := later_commit db u
  known _ _ hs := session_of_applyAll h.not_insert hs
  token _ hk := token_applyAll_of_ne fun w hw he => hc _ hk _ (h.locks hdone w hw) he.symm
  session _ hid := session_applyAll_of_ne fun w hw he => hc _ hid _ (h.locks hdone w hw) he.symm

variable {db' : AuthDb} {scope : Scope}

/-- A session there was, with its owner, is there, with its owner. -/
theorem Frame.before (h : Frame db db' held) (scope : Scope) {id : Uuid} {s' : Session}
    (hs' : db'.sessions.find? id = some s') : ∃ s, db.sessions.find? id = some s ∧
      s'.familyId = s.familyId ∧ (scope.Covers s' ↔ scope.Covers s) ∧
      (s'.status = .active → s.status = .active) := by
  obtain ⟨s, hs⟩ := h.known id s' hs'
  obtain ⟨huser, hfamily, hactive⟩ := h.later.session_before hs hs'
  have hids := (Table.key_of_find? hs').trans (Table.key_of_find? hs).symm
  exact ⟨s, hs, hfamily, Scope.covers_congr hids huser hfamily, hactive⟩

theorem Frame.after (h : Frame db db' held) (scope : Scope) {id : Uuid} {s : Session}
    (hs : db.sessions.find? id = some s) : ∃ s', db'.sessions.find? id = some s' ∧
      s'.familyId = s.familyId ∧ (scope.Covers s' ↔ scope.Covers s) ∧
      (s.status = .revoked → s'.status = .revoked) := by
  obtain ⟨s', hs', huser, hfamily, hrevoked⟩ := h.later.session id s hs
  have hids := (Table.key_of_find? hs').trans (Table.key_of_find? hs).symm
  exact ⟨s', hs', hfamily, Scope.covers_congr hids huser hfamily, hrevoked⟩

theorem Locked.stable {l : RefreshToken} {s : Session} (h : Locked db l s held)
    (hframe : Frame db db' held) : Locked db' l s held :=
  { h with
    row := (hframe.token _ h.token).trans h.row
    owner := (hframe.session _ h.session).trans h.owner }

theorem Listed.stable {ids : List Uuid} (h : Listed db scope ids) (hframe : Frame db db' held) :
    Listed db' scope ids := by
  intro id s' hs' hcovers hactive
  obtain ⟨s, hs, _, hiff, hstatus⟩ := hframe.before _ hs'
  exact h id s hs (hiff.mp hcovers) (hstatus hactive)

theorem InScope.stable {k : String} (h : InScope db scope k) (hframe : Frame db db' held) :
    InScope db' scope k := by
  obtain ⟨l, s, hl, hs, hcovers⟩ := h
  obtain ⟨l', hl', hsession, _⟩ := hframe.later.token k l hl
  obtain ⟨s', hs', _, hiff, _⟩ := hframe.after _ hs
  exact ⟨l', s', hl', hsession ▸ hs', hiff.mpr hcovers⟩

/-- **What a call may assume survives the commits of others.** -/
theorem Assumes.stable (h : Assumes db t held) (hframe : Frame db db' held) :
    Assumes db' t held := by
  cases t with
  | consume c l s => exact Locked.stable h hframe
  | issue c l s => exact Locked.stable h hframe
  | rotate c l s => exact ⟨h.1.stable hframe, h.2.1, (hframe.token _ h.2.1).trans h.2.2⟩
  | revokeSessions j sessions todo => exact ⟨h.1, h.2.1, h.2.2.stable hframe⟩
  | listTokens j sessions => exact ⟨h.1, h.2.1, h.2.2.stable hframe⟩
  | revokeTokens j sessions tokens todo =>
      exact ⟨h.1, h.2.1, h.2.2.1.stable hframe, h.2.2.2.1,
        fun k hk => (h.2.2.2.2 k hk).stable hframe⟩
  | _ => exact h

end Stability

/-! ## 4. What commits keep -/

section Keeping

variable {db db' : AuthDb} {held : List Lock} {c : RefreshCall} {l : RefreshToken} {s : Session}

theorem Sound.families_after (h : Sound db) (hframe : Frame db db' held) : ∀ i j s t,
    db'.sessions.find? i = some s → db'.sessions.find? j = some t → s.familyId = t.familyId →
      i = j := by
  intro i j s' t' hs' ht' hsame
  obtain ⟨s, hs, hfamily, _⟩ := hframe.before (.user s'.userId) hs'
  obtain ⟨t, ht, hfamily', _⟩ := hframe.before (.user t'.userId) ht'
  exact h.families i j s t hs ht (hfamily.symm.trans (hsame.trans hfamily'))

theorem Recorded.spent_after (h : Recorded db) (hframe : Frame db db' held) : ∀ k sid,
    .exchanged k sid ∈ db.log → ∃ l, db'.tokens.find? k = some l ∧ l.state ≠ .issued := by
  intro k sid hlog
  obtain ⟨l, hl, hstate⟩ := h.spent k sid hlog
  obtain ⟨l', hl', _, hstate'⟩ := hframe.later.token k l hl
  exact ⟨l', hl', hstate' hstate⟩

theorem Recorded.ended_after (h : Recorded db) (hframe : Frame db db' held) : ∀ scope,
    .revoked scope ∈ db.log → ∀ id s, db'.sessions.find? id = some s → scope.Covers s →
      s.status = .revoked := by
  intro scope hlog id s' hs' hcovers
  obtain ⟨s, hs, _, hiff, _⟩ := hframe.before _ hs'
  obtain ⟨s'', hs'', _, _, hrevoked⟩ := hframe.after scope hs
  rw [hs'] at hs''
  cases hs''
  exact hrevoked (h.ended scope hlog id s hs (hiff.mp hcovers))

theorem Recorded.spared_after (h : Recorded db) (hframe : Frame db db' held) :
    db.log.Pairwise (Spared db') := by
  refine h.spared.imp fun hab k sid scope s' ha hb hs' hcovers => ?_
  obtain ⟨s, hs, _, hiff, _⟩ := hframe.before _ hs'
  exact hab k sid scope s ha hb hs (hiff.mp hcovers)

/-- The lineage after a rotation. -/
theorem token_rotate (hl : db.tokens.find? l.tokenHash = some l)
    (hnext : db.tokens.find? (hashRefreshToken c.next) = none) (k : String) :
    (db.commit (.rotate c l s)).tokens.find? k =
      if hashRefreshToken c.next = k then some ⟨hashRefreshToken c.next, s.id, .issued, none⟩
      else if k = l.tokenHash then some (l.consume (hashRefreshToken c.next))
      else db.tokens.find? k := by
  have hconsumed : ∀ j, (db.tokens.modify l.tokenHash _
      (RefreshToken.tokenHash_consume (hashRefreshToken c.next))).find? j =
      if j = l.tokenHash then some (l.consume (hashRefreshToken c.next))
      else db.tokens.find? j := by
    intro j
    rw [Table.find?_modify]
    by_cases hj : j = l.tokenHash
    · rw [if_pos hj, if_pos hj, hj, hl]
      rfl
    · rw [if_neg hj, if_neg hj]
  have hfree : (db.tokens.modify l.tokenHash _
      (RefreshToken.tokenHash_consume (hashRefreshToken c.next))).find? (hashRefreshToken c.next) =
      none := by
    rw [hconsumed, if_neg, hnext]
    intro he
    rw [he, hl] at hnext
    cases hnext
  have hinsert := @Table.find?_insert _ _ _ _ _ k
    (⟨hashRefreshToken c.next, s.id, .issued, none⟩ : RefreshToken) hfree
  rw [hconsumed] at hinsert
  exact hinsert

/-- The sessions after a rotation. -/
theorem session_rotate (hs : db.sessions.find? s.id = some s) (id : Uuid) :
    (db.commit (.rotate c l s)).sessions.find? id =
      if id = s.id then some (s.rotate (hashRefreshToken c.next) (c.now + SESSION_TTL))
      else db.sessions.find? id := by
  have hmodify : (db.commit (.rotate c l s)).sessions.find? id = (db.sessions.modify s.id _
      (Session.id_rotate (hashRefreshToken c.next) (c.now + SESSION_TTL))).find? id := rfl
  rw [hmodify, Table.find?_modify]
  by_cases hid : id = s.id
  · rw [if_pos hid, if_pos hid, hid, hs]
    rfl
  · rw [if_neg hid, if_neg hid]

/-- **A rotation keeps the sessions sound**: the successor takes the place of its token. -/
theorem Sound.rotate (h : Sound db) (hg : Assumes db (.rotate c l s) held) :
    Sound (db.commit (.rotate c l s)) := by
  have hframe : Frame db (db.commit (.rotate c l s)) [] :=
    Assumes.frame hg trivial fun _ ha => absurd ha List.not_mem_nil
  obtain ⟨hlocked, _, hnext⟩ := hg
  have htoken := fun k => token_rotate (s := s) hlocked.row hnext k
  have hsession := fun id => session_rotate (c := c) (l := l) hlocked.owner id
  constructor
  case owned =>
    intro k l' hl'
    rw [htoken] at hl'
    have hold : ∃ s₀, db.sessions.find? l'.sessionId = some s₀ := by
      split at hl'
      · cases hl'
        exact ⟨s, hlocked.owner⟩
      · split at hl'
        · cases hl'
          exact h.owned _ l hlocked.row
        · exact h.owned k l' hl'
    obtain ⟨s₀, hs₀⟩ := hold
    obtain ⟨s', hs', _⟩ := hframe.later.session _ s₀ hs₀
    exact ⟨s', hs'⟩
  case single =>
    -- An issued token is the successor, or an old one of another session.
    have hcases : ∀ k m, (db.commit (.rotate c l s)).tokens.find? k = some m → m.state = .issued →
        (k = hashRefreshToken c.next ∧ m.sessionId = s.id) ∨
          (db.tokens.find? k = some m ∧ m.sessionId ≠ s.id) := by
      intro k m hm hissued
      rw [htoken] at hm
      split at hm
      · rename_i hk
        cases hm
        exact .inl ⟨hk.symm, rfl⟩
      · split at hm
        · cases hm
          cases hissued
        · rename_i hk
          refine .inr ⟨hm, fun hsame => hk ?_⟩
          exact h.single k l.tokenHash m l hm hlocked.row hissued hlocked.issued
            (hsame.trans hlocked.ofSession.symm)
    intro j k m n hm hn hmi hni hsame
    rcases hcases j m hm hmi with ⟨hj, hms⟩ | ⟨hm', hms⟩
    · rcases hcases k n hn hni with ⟨hk, _⟩ | ⟨_, hns⟩
      · exact hj.trans hk.symm
      · exact absurd (hsame.symm.trans hms) hns
    · rcases hcases k n hn hni with ⟨_, hns⟩ | ⟨hn', _⟩
      · exact absurd (hsame.trans hns) hms
      · exact h.single j k m n hm' hn' hmi hni hsame
  case current =>
    intro id s' hs' hactive
    rw [hsession] at hs'
    split at hs'
    · rename_i hid
      cases hs'
      refine ⟨_, (htoken _).trans (if_pos rfl), hid.symm, rfl⟩
    · rename_i hid
      obtain ⟨m, hm, hms, hissued⟩ := h.current id s' hs' hactive
      refine ⟨m, ?_, hms, hissued⟩
      rw [htoken, if_neg, if_neg]
      · exact hm
      · intro he
        rw [he, hlocked.row] at hm
        cases hm
        exact hid (hms.symm.trans hlocked.ofSession)
      · intro he
        rw [← he, hnext] at hm
        cases hm
  case families => exact h.families_after hframe

/-- **A rotation is recorded**: its token was not exchanged before, nor its session revoked. -/
theorem Recorded.rotate (h : Recorded db) (hg : Assumes db (.rotate c l s) held) :
    Recorded (db.commit (.rotate c l s)) := by
  have hframe : Frame db (db.commit (.rotate c l s)) [] :=
    Assumes.frame hg trivial fun _ ha => absurd ha List.not_mem_nil
  obtain ⟨hlocked, _, hnext⟩ := hg
  have hlog : (db.commit (.rotate c l s)).log = .exchanged l.tokenHash s.id :: db.log := rfl
  constructor
  case spent =>
    rw [hlog]
    intro k sid hm
    rcases List.mem_cons.mp hm with he | hm
    · cases he
      refine ⟨l.consume (hashRefreshToken c.next), ?_, fun h => TokenState.noConfusion h⟩
      rw [token_rotate hlocked.row hnext, if_neg, if_pos rfl]
      intro he
      rw [he, hlocked.row] at hnext
      cases hnext
    · exact h.spent_after hframe k sid hm
  case once =>
    rw [hlog]
    refine List.nodup_cons.mpr ⟨fun hm => ?_, h.once⟩
    obtain ⟨e, he, hk⟩ := List.mem_filterMap.mp hm
    cases e with
    | exchanged k sid =>
        cases hk
        obtain ⟨m, hm, hstate⟩ := h.spent _ sid he
        rw [hlocked.row] at hm
        cases hm
        exact hstate hlocked.issued
    | _ => cases hk
  case ended =>
    rw [hlog]
    intro scope hm
    rcases List.mem_cons.mp hm with he | hm
    · cases he
    · exact h.ended_after hframe scope hm
  case spared =>
    rw [hlog]
    refine List.pairwise_cons.mpr ⟨fun b hb k sid scope s' ha hb' hs' hcovers => ?_,
      h.spared_after hframe⟩
    cases ha
    cases hb'
    obtain ⟨s₀, hs₀, _, hiff, _⟩ := hframe.before _ hs'
    rw [hlocked.owner] at hs₀
    cases hs₀
    have hrevoked := h.ended scope hb s.id s hlocked.owner (hiff.mp hcovers)
    rw [hlocked.active] at hrevoked
    cases hrevoked

variable {j : RevokeJob} {sessions : List Uuid} {tokens : List String}

/-- An active session was there, as it is, and out of scope. -/
theorem active_spared (hg : Assumes db (.revokeTokens j sessions tokens []) held) {id : Uuid}
    (hs : (db.commit (.revokeTokens j sessions tokens [])).sessions.find? id = some s)
    (hactive : s.status = .active) : db.sessions.find? id = some s ∧ ¬ j.scope.Covers s := by
  have hframe : Frame db (db.commit (.revokeTokens j sessions tokens [])) [] :=
    Assumes.frame hg trivial fun _ ha => absurd ha List.not_mem_nil
  have hid : id ∉ sessions := by
    intro hid
    obtain ⟨s₀, hs₀⟩ := hframe.known id s hs
    obtain ⟨s', hs', hrevoked⟩ := session_revoked hid hs₀
    rw [hs] at hs'
    cases hs'
    rw [hactive] at hrevoked
    cases hrevoked
  rw [session_keep hid] at hs
  exact ⟨hs, fun hcovers => hid (hg.2.2.1 id s hs hcovers hactive)⟩

/-- **A revocation keeps the sessions sound**: the tokens it revokes are of sessions it revokes. -/
theorem Sound.revoke (h : Sound db) (hg : Assumes db (.revokeTokens j sessions tokens []) held) :
    Sound (db.commit (.revokeTokens j sessions tokens [])) := by
  have hframe : Frame db (db.commit (.revokeTokens j sessions tokens [])) [] :=
    Assumes.frame hg trivial fun _ ha => absurd ha List.not_mem_nil
  have hscope := hg.2.2.2.2
  rw [List.append_nil] at hscope
  have hbefore : ∀ k m, (db.commit (.revokeTokens j sessions tokens [])).tokens.find? k = some m →
      ∃ l, db.tokens.find? k = some l ∧ m.sessionId = l.sessionId ∧
        (m.state = .issued → l.state = .issued) := by
    intro k m hm
    have hthere : ∃ l, db.tokens.find? k = some l := by
      by_cases hk : k ∈ tokens
      · obtain ⟨l, _, hl, _⟩ := hscope k hk
        exact ⟨l, hl⟩
      · rw [token_keep hk] at hm
        exact ⟨m, hm⟩
    obtain ⟨l, hl⟩ := hthere
    obtain ⟨l', hl', hsession, hstate⟩ := hframe.later.token k l hl
    rw [hm] at hl'
    cases hl'
    refine ⟨l, hl, hsession, fun hissued => ?_⟩
    by_contra hne
    exact hstate hne hissued
  constructor
  case owned =>
    intro k m hm
    obtain ⟨l, hl, hsession, _⟩ := hbefore k m hm
    obtain ⟨s₀, hs₀⟩ := h.owned k l hl
    obtain ⟨s', hs', _⟩ := hframe.later.session _ s₀ hs₀
    exact ⟨s', hsession ▸ hs'⟩
  case single =>
    intro i k m n hm hn hmi hni hsame
    obtain ⟨l, hl, hls, hli⟩ := hbefore i m hm
    obtain ⟨l', hl', hls', hli'⟩ := hbefore k n hn
    exact h.single i k l l' hl hl' (hli hmi) (hli' hni) (hls.symm.trans (hsame.trans hls'))
  case current =>
    intro id s' hs' hactive
    obtain ⟨hs, hspared⟩ := active_spared hg hs' hactive
    obtain ⟨l, hl, hls, hissued⟩ := h.current id s' hs hactive
    refine ⟨l, (token_keep fun hk => ?_).trans hl, hls, hissued⟩
    obtain ⟨l', s₀, hl', hs₀, hcovers⟩ := hscope _ hk
    rw [hl] at hl'
    cases hl'
    rw [hls, hs] at hs₀
    cases hs₀
    exact hspared hcovers
  case families => exact h.families_after hframe

/-- **A revocation is recorded**: every session it covers is revoked. -/
theorem Recorded.revoke (h : Recorded db)
    (hg : Assumes db (.revokeTokens j sessions tokens []) held) :
    Recorded (db.commit (.revokeTokens j sessions tokens [])) := by
  have hframe : Frame db (db.commit (.revokeTokens j sessions tokens [])) [] :=
    Assumes.frame hg trivial fun _ ha => absurd ha List.not_mem_nil
  have hlog : (db.commit (.revokeTokens j sessions tokens [])).log = j.events ++ db.log := rfl
  have hevents : ∀ e ∈ j.events, (∀ k sid, e ≠ .exchanged k sid) ∧
      ∀ scope, e = .revoked scope → scope = j.scope := by
    intro e he
    unfold RevokeJob.events at he
    split at he
    · rw [List.mem_singleton.mp he]
      exact ⟨fun _ _ => AuthEvent.noConfusion, fun _ hs => (AuthEvent.revoked.inj hs).symm⟩
    · simp only [List.mem_cons, List.not_mem_nil, or_false] at he
      rcases he with rfl | rfl
      · exact ⟨fun _ _ => AuthEvent.noConfusion, fun _ hs => (AuthEvent.revoked.inj hs).symm⟩
      · exact ⟨fun _ _ => AuthEvent.noConfusion, fun _ => AuthEvent.noConfusion⟩
  constructor
  case spent =>
    rw [hlog]
    intro k sid hm
    rcases List.mem_append.mp hm with hm | hm
    · exact absurd rfl ((hevents _ hm).1 k sid)
    · exact h.spent_after hframe k sid hm
  case once =>
    rw [hlog, List.filterMap_append]
    have hnone : j.events.filterMap AuthEvent.exchanged? = [] := by
      refine List.filterMap_eq_nil_iff.mpr fun e he => ?_
      cases e with
      | exchanged k sid => exact absurd rfl ((hevents _ he).1 k sid)
      | _ => rfl
    rw [hnone]
    exact h.once
  case ended =>
    rw [hlog]
    intro scope hm id s' hs' hcovers
    rcases List.mem_append.mp hm with hm | hm
    · rw [(hevents _ hm).2 scope rfl] at hcovers
      cases hst : s'.status with
      | active => exact absurd hcovers (active_spared hg hs' hst).2
      | revoked => rfl
    · exact h.ended_after hframe scope hm id s' hs' hcovers
  case spared =>
    rw [hlog]
    refine List.pairwise_append.mpr ⟨?_, h.spared_after hframe, fun a ha b _ k sid scope s' he => ?_⟩
    · refine List.Pairwise.imp_of_mem (R := fun _ _ => True) ?_ (List.pairwise_of_forall fun _ _ => trivial)
      intro a b ha _ _ k sid scope s' he
      exact absurd he ((hevents a ha).1 k sid)
    · exact absurd he ((hevents a ha).1 k sid)

end Keeping

/-! ## 5. Every interleaving -/

/-- The sessions are sound, and the log is kept. -/
structure Invariant (db : AuthDb) : Prop where
  sound : Sound db
  recorded : Recorded db

theorem rotation_outline (I : Identity) : (rotation I).Outline Invariant Assumes where
  start := fun {db t} _ ht => by
    cases t with
    | revoke j =>
        obtain ⟨id, hj⟩ := ht
        rcases hj with rfl | rfl | rfl <;> exact fun w hw => absurd hw List.not_mem_nil
    | refresh c => trivial
    | resetPassword c => trivial
    | _ => exact absurd ht id
  statement := fun _ h hexec => h.statement hexec
  stable := fun _ h hu hdone hc => h.stable (hu.frame hdone hc)
  commit := fun {db t held} h hg hdone => by
    cases t with
    | rotate c l s => exact ⟨h.sound.rotate hg, h.recorded.rotate hg⟩
    | revokeTokens j sessions tokens todo =>
        cases todo with
        | nil => exact ⟨h.sound.revoke hg, h.recorded.revoke hg⟩
        | cons k todo => exact absurd hdone id
    | created d => exact absurd hg id
    | ended v => exact h
    | _ => exact absurd hdone id

/-- What every interleaving keeps of refresh tokens. -/
structure RotationSafe (db : AuthDb) : Prop where
  /-- A token is exchanged at most once. -/
  once : (db.log.filterMap AuthEvent.exchanged?).Nodup
  /-- A session has at most one issued token. -/
  single : ∀ l ∈ db.tokens.rows, ∀ m ∈ db.tokens.rows, l.state = .issued → m.state = .issued →
    l.sessionId = m.sessionId → l = m
  /-- An active session holds the hash of its issued token. -/
  current : ∀ s ∈ db.sessions.rows, s.status = .active → ∃ l ∈ db.tokens.rows,
    l.sessionId = s.id ∧ l.state = .issued ∧ s.refreshTokenHash = l.tokenHash
  /-- After a revocation no token of a covered family is exchanged. -/
  final : ∀ later earlier scope, db.log = later ++ .revoked scope :: earlier →
    ∀ s ∈ db.sessions.rows, scope.Covers s → ∀ t ∈ db.sessions.rows, t.familyId = s.familyId →
      ∀ k, .exchanged k t.id ∉ later

theorem Invariant.safe {db : AuthDb} (h : Invariant db) : RotationSafe db := by
  constructor
  case once => exact h.recorded.once
  case single =>
    intro l hl m hm hli hmi hsame
    have hkey := h.sound.single _ _ l m (Table.find?_of_mem hl) (Table.find?_of_mem hm) hli hmi hsame
    exact List.inj_on_of_nodup_map db.tokens.keys hl hm hkey
  case current =>
    intro s hs hactive
    obtain ⟨l, hl, hls, hissued⟩ := h.sound.current s.id s (Table.find?_of_mem hs) hactive
    obtain ⟨hrow, hkey⟩ := Table.find?_eq_some.mp hl
    exact ⟨l, hrow, hls, hissued, hkey.symm⟩
  case final =>
    intro later earlier scope hlog s hs hcovers t ht hfamily k hm
    have hts := h.sound.families t.id s.id t s (Table.find?_of_mem ht) (Table.find?_of_mem hs) hfamily
    have hspared := h.recorded.spared
    rw [hlog, List.pairwise_append] at hspared
    refine hspared.2.2 _ hm _ List.mem_cons_self k t.id scope s rfl rfl ?_ hcovers
    rw [hts]
    exact Table.find?_of_mem hs

/-- **Rotation is safe**: from sound sessions, under every interleaving of refreshes, logouts,
    revocations of families and password resets. -/
theorem rotation_safe {I : Identity} {db : AuthDb} (hsound : Sound db) (hlog : db.log = [])
    {es : List Event} {u : State AuthDb Tx Lock} (hrun : Run (rotation I).Step (.idle db) es u) :
    RotationSafe u.db := by
  have hrecorded : Recorded db := by
    constructor <;> rw [hlog]
    · exact fun _ _ h => absurd h List.not_mem_nil
    · exact List.nodup_nil
    · exact fun _ h => absurd h List.not_mem_nil
    · exact .nil
  exact ((rotation_outline I).sound hrun (.idle ⟨hsound, hrecorded⟩)).db.safe

/-! ## 6. One session -/

def sampleSession : Session where
  id := .sample 1
  userId := .sample 2
  familyId := .sample 3
  refreshTokenHash := hashRefreshToken "first"
  prevRefreshTokenHash := none
  status := .active
  revokedReason := none
  expiresAt := 100

def sampleToken : RefreshToken := ⟨hashRefreshToken "first", sampleSession.id, .issued, none⟩

def sampleDb : AuthDb where
  users := .empty
  sessions := ⟨[sampleSession], List.nodup_singleton _⟩
  tokens := ⟨[sampleToken], List.nodup_singleton _⟩
  resetTokens := .empty
  log := []

def sampleIdentity : Identity := ⟨fun hash password => hash == password, fun email => email⟩

section Sample

theorem sampleDb_session {id : Uuid} {s : Session} (h : sampleDb.sessions.find? id = some s) :
    s = sampleSession ∧ sampleSession.id = id := by
  obtain ⟨hrow, hkey⟩ := Table.find?_eq_some.mp h
  rw [List.mem_singleton.mp hrow] at hkey ⊢
  exact ⟨rfl, hkey⟩

theorem sampleDb_token {k : String} {l : RefreshToken} (h : sampleDb.tokens.find? k = some l) :
    l = sampleToken ∧ sampleToken.tokenHash = k := by
  obtain ⟨hrow, hkey⟩ := Table.find?_eq_some.mp h
  rw [List.mem_singleton.mp hrow] at hkey ⊢
  exact ⟨rfl, hkey⟩

theorem sampleSession_found : sampleDb.sessions.find? sampleSession.id = some sampleSession :=
  Table.find?_of_mem List.mem_cons_self

theorem sampleToken_found : sampleDb.tokens.find? (hashRefreshToken "first") = some sampleToken :=
  Table.find?_eq_some.mpr ⟨List.mem_cons_self, rfl⟩

theorem sampleDb_sound : Sound sampleDb where
  owned k l h := by
    rw [(sampleDb_token h).1]
    exact ⟨sampleSession, sampleSession_found⟩
  single j k l m hl hm _ _ _ := (sampleDb_token hl).2.symm.trans (sampleDb_token hm).2
  current id s h _ := by
    obtain ⟨rfl, rfl⟩ := sampleDb_session h
    exact ⟨sampleToken, sampleToken_found, rfl, rfl⟩
  families i j s t hs ht _ := (sampleDb_session hs).2.symm.trans (sampleDb_session ht).2

def sampleRefresh : RefreshCall := ⟨"first", "second", 0, 0⟩

/-- The session's token is exchanged. -/
theorem sampleRefresh_run : ∃ es u, Run (rotation sampleIdentity).Step (.idle sampleDb) es u ∧
    u.db.log = [.exchanged (hashRefreshToken "first") sampleSession.id] := by
  have hselect : (exec sampleIdentity sampleDb (.refresh sampleRefresh)).2 =
      .ok (.consume sampleRefresh sampleToken sampleSession) := by
    have hs : sampleDb.sessions.find? sampleToken.sessionId = some sampleSession := sampleSession_found
    simp only [exec, selectForRefresh, sampleRefresh, sampleToken_found, hs]
    rfl
  have hconsume : (exec sampleIdentity sampleDb
      (.consume sampleRefresh sampleToken sampleSession)).2 =
      .ok (.issue sampleRefresh sampleToken sampleSession) := by
    have hl : sampleDb.tokens.find? sampleToken.tokenHash = some sampleToken := sampleToken_found
    simp only [exec, hl]
    rfl
  have hissue : (exec sampleIdentity sampleDb (.issue sampleRefresh sampleToken sampleSession)).2 =
      .ok (.rotate sampleRefresh sampleToken sampleSession) := by
    have hnone : sampleDb.tokens.find? (hashRefreshToken "second") = none := by
      cases h : sampleDb.tokens.find? (hashRefreshToken "second") with
      | none => rfl
      | some l =>
          have hkey : hashRefreshToken "first" = hashRefreshToken "second" := (sampleDb_token h).2
          exact absurd hkey (by decide +kernel)
    simp only [exec, insertKey, sampleRefresh, hnone]
    rfl
  have hexecs : (rotation sampleIdentity).execs sampleDb 3 (.refresh sampleRefresh) =
      .ok (.rotate sampleRefresh sampleToken sampleSession) := by
    simp only [System.execs, rotation, hselect, hconsume, hissue]
  have hstart : (rotation sampleIdentity).starts (.refresh sampleRefresh) := trivial
  have hready : (rotation sampleIdentity).ready (.rotate sampleRefresh sampleToken sampleSession) :=
    trivial
  obtain ⟨es, held, hrun, hcommit⟩ := System.run_alone hstart hexecs hready
  exact ⟨_, _, hrun.trans (.single hcommit), rfl⟩

end Sample

theorem rotation_safe_sample : ∃ u : State AuthDb Tx Lock,
    u.db.log = [.exchanged (hashRefreshToken "first") sampleSession.id] ∧ RotationSafe u.db := by
  obtain ⟨es, u, hrun, hlog⟩ := sampleRefresh_run
  exact ⟨u, hlog, rotation_safe sampleDb_sound rfl hrun⟩

end Daftar.Auth
