/-
  File: Daftar/Auth/AuthSteps.lean
  Subject: What the statements and the commits of the calls do, one lemma each.

  * An UPDATE of listed rows keeps or drops the next one: `updateSession_eq_ok`, `updateToken_eq_ok`.
  * A commit makes a later database; only a login's inserts a session; a revocation's revokes the
    sessions it got.
-/

import Daftar.Auth.AuthTransactions

namespace Daftar.Auth

open Fallible
open LockedTransactions
open Tables

/-! ## 1. Statements -/

/-- Every active session in scope is listed. -/
def Listed (db : AuthDb) (scope : Scope) (ids : List Uuid) : Prop :=
  ∀ id s, db.sessions.find? id = some s → scope.Covers s → s.status = .active → id ∈ ids

/-- A token of a session in scope. -/
def InScope (db : AuthDb) (scope : Scope) (k : String) : Prop :=
  ∃ l s, db.tokens.find? k = some l ∧ db.sessions.find? l.sessionId = some s ∧ scope.Covers s

section Statements

variable {I : Identity} {db : AuthDb} {t t' : Tx} {held locks : List Lock}

theorem listed_listSessions (db : AuthDb) (scope : Scope) : Listed db scope (listSessions db scope) := by
  intro id s hs hcovers hactive
  obtain ⟨hrow, rfl⟩ := Table.find?_eq_some.mp hs
  exact List.mem_map_of_mem (List.mem_filter.mpr ⟨hrow, decide_eq_true ⟨hcovers, hactive⟩⟩)

theorem inScope_listTokens {scope : Scope} {k : String} (h : k ∈ listTokens db scope) :
    InScope db scope k := by
  obtain ⟨l, hl, rfl⟩ := List.mem_map.mp h
  obtain ⟨hrow, hp⟩ := List.mem_filter.mp hl
  obtain ⟨_, s, hs, hid, hcovers⟩ := of_decide_eq_true hp
  exact ⟨l, s, Table.find?_of_mem hrow, Table.find?_eq_some.mpr ⟨hs, hid⟩, hcovers⟩

theorem insertKey_eq_ok {used : Bool} {lock : Lock} {next : Tx}
    (h : insertKey used lock next = (locks, .ok t')) : used = false ∧ locks = [lock] ∧ t' = next := by
  cases used with
  | true => cases h
  | false =>
      cases h
      exact ⟨rfl, rfl, rfl⟩

/-- The next listed session is kept, locked, or is not in scope and active. -/
theorem updateSession_eq_ok {j : RevokeJob} {sessions todo : List Uuid} {id : Uuid}
    (h : updateSession db j sessions id todo = (locks, .ok t')) : ∃ kept,
    t' = .revokeSessions j kept todo ∧ (∀ sid ∈ kept, sid ∈ sessions ∨ .session sid ∈ locks) ∧
      (Listed db j.scope (sessions ++ id :: todo) → Listed db j.scope (kept ++ todo)) := by
  have hskip : (∀ s, db.sessions.find? id = some s → j.scope.Covers s → s.status ≠ .active) →
      Listed db j.scope (sessions ++ id :: todo) → Listed db j.scope (sessions ++ todo) := by
    intro hnot hlisted sid s hs hcovers hactive
    rcases List.mem_append.mp (hlisted sid s hs hcovers hactive) with hm | hm
    · exact List.mem_append_left _ hm
    · rcases List.mem_cons.mp hm with rfl | hm
      · exact absurd hactive (hnot s hs hcovers)
      · exact List.mem_append_right _ hm
  unfold updateSession at h
  split at h
  · rename_i hnone
    cases h
    exact ⟨sessions, rfl, fun _ => .inl, hskip fun s hs => by rw [hnone] at hs; cases hs⟩
  · rename_i s hs
    split at h
    · cases h
      refine ⟨id :: sessions, rfl, fun sid hsid => ?_, fun hlisted sid s hs hcovers hactive => ?_⟩
      · rcases List.mem_cons.mp hsid with rfl | hsid
        · exact .inr List.mem_cons_self
        · exact .inl hsid
      · have hm := hlisted sid s hs hcovers hactive
        simp only [List.mem_append, List.mem_cons] at hm ⊢
        tauto
    · rename_i hnot
      cases h
      refine ⟨sessions, rfl, fun _ => .inl, hskip fun t ht hcovers hactive => ?_⟩
      rw [hs] at ht
      cases ht
      exact hnot ⟨hcovers, hactive⟩

/-- The next listed token is kept, locked, or dropped. -/
theorem updateToken_eq_ok {j : RevokeJob} {sessions : List Uuid} {tokens todo : List String}
    {hash : String} (h : updateToken db j sessions tokens hash todo = (locks, .ok t')) : ∃ kept,
    t' = .revokeTokens j sessions kept todo ∧ (∀ k ∈ kept, k ∈ tokens ∨ .token k ∈ locks) ∧
      ∀ k ∈ kept ++ todo, k ∈ tokens ++ hash :: todo := by
  have hrest : ∀ k ∈ tokens ++ todo, k ∈ tokens ++ hash :: todo := by
    intro k hk
    simp only [List.mem_append, List.mem_cons] at hk ⊢
    tauto
  unfold updateToken at h
  split at h
  · cases h
    exact ⟨tokens, rfl, fun _ => .inl, hrest⟩
  · split at h
    · cases h
      refine ⟨hash :: tokens, rfl, fun k hk => ?_, fun k hk => ?_⟩
      · rcases List.mem_cons.mp hk with rfl | hk
        · exact .inr List.mem_cons_self
        · exact .inl hk
      · simp only [List.mem_append, List.mem_cons] at hk ⊢
        tauto
    · cases h
      exact ⟨tokens, rfl, fun _ => .inl, hrest⟩

end Statements

/-! ## 2. Commits -/

section Commits

variable {db : AuthDb} {u : Tx} {w : AuthWrite} {scope : Scope} {s : Session} {j : RevokeJob}
  {sessions : List Uuid} {tokens : List String}

theorem later_commit (db : AuthDb) (u : Tx) : Later db (db.commit u) :=
  ⟨(later_applyAll db u.writes).session, (later_applyAll db u.writes).token⟩

/-- Nothing else inserts a session. -/
theorem session_of_apply (hw : ∀ row, w ≠ .insertSession row) {id : Uuid} {s' : Session}
    (h : (db.apply w).sessions.find? id = some s') : ∃ s, db.sessions.find? id = some s := by
  cases w with
  | insertSession row => exact absurd rfl (hw row)
  | rotateSession sid hash expiresAt => exact Table.of_find?_modify (Session.id_rotate hash expiresAt) h
  | revokeSession sid reason => exact Table.of_find?_modify (Session.id_revoke reason) h
  | _ => exact ⟨s', h⟩

theorem session_of_applyAll {ws : List AuthWrite} (hws : ∀ w ∈ ws, ∀ row, w ≠ .insertSession row)
    {id : Uuid} {s' : Session} (h : (db.applyAll ws).sessions.find? id = some s') :
    ∃ s, db.sessions.find? id = some s := by
  induction ws generalizing db with
  | nil => exact ⟨s', h⟩
  | cons w ws ih =>
      obtain ⟨s, hs⟩ := ih (fun v hv => hws v (List.mem_cons_of_mem w hv)) h
      exact session_of_apply (hws w List.mem_cons_self) hs

theorem RevokeJob.changes_not_insert {j : RevokeJob} :
    ∀ w ∈ j.changes, ∀ row, w ≠ .insertSession row := by
  intro w hw row
  unfold RevokeJob.changes PasswordChange.writes at hw
  split at hw
  · cases hw
  · simp only [List.mem_cons, List.not_mem_nil, or_false] at hw
    rcases hw with rfl | rfl <;> exact AuthWrite.noConfusion

/-- Only a login's commit inserts a session. -/
theorem Tx.writes_not_insert (hu : ∀ d, u ≠ .created d) :
    ∀ w ∈ u.writes, ∀ row, w ≠ .insertSession row := by
  cases u with
  | rotate c l s =>
      intro w hw row
      simp only [Tx.writes, List.mem_cons, List.not_mem_nil, or_false] at hw
      rcases hw with rfl | rfl | rfl <;> exact AuthWrite.noConfusion
  | revokeTokens j sessions tokens todo =>
      cases todo with
      | nil =>
          intro w hw row
          rcases List.mem_append.mp hw with hw | hw
          · rcases List.mem_append.mp hw with hw | hw
            · exact RevokeJob.changes_not_insert w hw row
            · obtain ⟨id, _, rfl⟩ := List.mem_map.mp hw
              exact AuthWrite.noConfusion
          · obtain ⟨k, _, rfl⟩ := List.mem_map.mp hw
            exact AuthWrite.noConfusion
      | cons k todo => exact fun w hw => absurd hw List.not_mem_nil
  | created d => exact absurd rfl (hu d)
  | _ => exact fun w hw => absurd hw List.not_mem_nil

theorem Scope.covers_congr {s s' : Session} (hid : s'.id = s.id) (huser : s'.userId = s.userId)
    (hfamily : s'.familyId = s.familyId) : scope.Covers s' ↔ scope.Covers s := by
  cases scope with
  | session id =>
      show s'.id = id ↔ s.id = id
      rw [hid]
  | family id =>
      show s'.familyId = id ↔ s.familyId = id
      rw [hfamily]
  | user id =>
      show s'.userId = id ↔ s.userId = id
      rw [huser]

/-- A session among the written ones is revoked. -/
theorem revoked_of_mem {ws : List AuthWrite} {id : Uuid} {reason : String}
    (hw : .revokeSession id reason ∈ ws) (hs : db.sessions.find? id = some s) :
    ∃ s', (db.applyAll ws).sessions.find? id = some s' ∧ s'.status = .revoked := by
  induction ws generalizing db s with
  | nil => cases hw
  | cons w ws ih =>
      rcases List.mem_cons.mp hw with rfl | hw
      · have hnow : (db.apply (.revokeSession id reason)).sessions.find? id =
            some (s.revoke reason) := by
          have hmodify := @Table.find?_modify _ _ _ _ db.sessions id id _ (Session.id_revoke reason)
          rw [if_pos rfl, hs] at hmodify
          exact hmodify
        obtain ⟨s', hs', _, _, hrevoked⟩ := (later_applyAll _ ws).session id _ hnow
        exact ⟨s', hs', hrevoked rfl⟩
      · obtain ⟨s', hs', _⟩ := (later_apply db w).session id s hs
        exact ih hw hs'

/-- A password change is on no session and no refresh token. -/
theorem RevokeJob.changes_lock {j : RevokeJob} : ∀ w ∈ j.changes, (∀ id, w.lock ≠ .session id) ∧
    ∀ k, w.lock ≠ .token k := by
  intro w hw
  unfold RevokeJob.changes PasswordChange.writes at hw
  split at hw
  · cases hw
  · simp only [List.mem_cons, List.not_mem_nil, or_false] at hw
    rcases hw with rfl | rfl
    · exact ⟨fun _ => Lock.noConfusion, fun _ => Lock.noConfusion⟩
    · exact ⟨fun _ => Lock.noConfusion, fun _ => Lock.noConfusion⟩

theorem token_keep {k : String} (hk : k ∉ tokens) :
    (db.commit (.revokeTokens j sessions tokens [])).tokens.find? k = db.tokens.find? k := by
  refine token_applyAll_of_ne fun w hw => ?_
  rcases List.mem_append.mp hw with hw | hw
  · rcases List.mem_append.mp hw with hw | hw
    · exact (RevokeJob.changes_lock w hw).2 k
    · obtain ⟨id, _, rfl⟩ := List.mem_map.mp hw
      exact Lock.noConfusion
  · obtain ⟨m, hm, rfl⟩ := List.mem_map.mp hw
    intro he
    cases he
    exact hk hm

theorem session_keep {id : Uuid} (hid : id ∉ sessions) :
    (db.commit (.revokeTokens j sessions tokens [])).sessions.find? id = db.sessions.find? id := by
  refine session_applyAll_of_ne fun w hw => ?_
  rcases List.mem_append.mp hw with hw | hw
  · rcases List.mem_append.mp hw with hw | hw
    · exact (RevokeJob.changes_lock w hw).1 id
    · obtain ⟨sid, hsid, rfl⟩ := List.mem_map.mp hw
      intro he
      cases he
      exact hid hsid
  · obtain ⟨m, _, rfl⟩ := List.mem_map.mp hw
    exact Lock.noConfusion

theorem session_revoked {id : Uuid} (hid : id ∈ sessions) (hs : db.sessions.find? id = some s) :
    ∃ s', (db.commit (.revokeTokens j sessions tokens [])).sessions.find? id = some s' ∧
      s'.status = .revoked := by
  have hw : .revokeSession id j.reason ∈ (Tx.revokeTokens j sessions tokens []).writes :=
    List.mem_append_left _ (List.mem_append_right _ (List.mem_map.mpr ⟨id, hid, rfl⟩))
  exact revoked_of_mem hw hs

end Commits

end Daftar.Auth
