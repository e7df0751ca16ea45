/-
  File: Daftar/Accounting/ClosedBooks.lean
  Subject: Period commands and journal inserts as transactions under the business row's locks.

  * `books` is the system: a command takes the topology key and the business row FOR UPDATE, an
    insert takes the business row FOR SHARE before its guard reads the periods.
  * `outline`: what was read under a lock still holds at the commit.
  * `books_are_final`: in every state a run reaches the periods are in order, and until its
    reopening no entry is inserted up to the end of a closed period.
-/

import Daftar.Accounting.PeriodTopology
import Daftar.Library.LockedTransactions

namespace Daftar.Accounting

open Fallible
open LockedTransactions
open Runs

/-! ## 1. The database and its locks -/

/-- What the guard reads of a journal entry. -/
structure JournalEntry where
  sourceType : String
  entryDate : PgDate
  deriving DecidableEq

structure Books where
  store : PeriodStore
  entries : List JournalEntry

inductive LockMode
  | share | update
  deriving DecidableEq

/-- The advisory key of a business's topology, and the row locks on the business and a period. -/
inductive Lock
  | topology
  | business (mode : LockMode)
  | period (id : Uuid) (mode : LockMode)
  deriving DecidableEq

/-- Two locks on one thing conflict unless both share it. -/
inductive Lock.Conflicts : Lock → Lock → Prop
  | topology : Conflicts .topology .topology
  | business {m n : LockMode} (h : ¬ (m = .share ∧ n = .share)) :
      Conflicts (.business m) (.business n)
  | period {id : Uuid} {m n : LockMode} (h : ¬ (m = .share ∧ n = .share)) :
      Conflicts (.period id m) (.period id n)

theorem Lock.Conflicts.symm {a b : Lock} (h : Conflicts a b) : Conflicts b a := by
  cases h with
  | topology => exact .topology
  | business h => exact .business fun hs => h hs.symm
  | period h => exact .period fun hs => h hs.symm

/-! ## 2. Transactions -/

/-- The rows a period command has written. -/
structure PeriodWrite where
  command : PreparedCommand
  after : PeriodStore

/-- The transactions, each at the point before one of its statements. -/
inductive Tx
  | create (actor : ControlActor) (operationId : Option Uuid) (startDate endDate : Option PgDate)
  | close (actor : ControlActor) (operationId : Option Uuid)
  | reopen (actor : ControlActor) (operationId : Option Uuid) (reason : Option String)
  | lockTopology (p : PreparedCommand)
  | lockBusiness (p : PreparedCommand)
  | lookup (p : PreparedCommand)
  | rules (p : PreparedCommand)
  | deferred (w : PeriodWrite)
  | periodDone (w : PeriodWrite)
  | replayed
  | post (entries : List JournalEntry)
  | posting (posted todo : List JournalEntry)
  | guarding (posted : List JournalEntry) (entry : JournalEntry) (todo : List JournalEntry)

/-- The period rows a command locks. -/
def PreparedCommand.rowLocks (p : PreparedCommand) : List Lock :=
  match p.change with
  | .create _ => []
  | _ => [.period p.actor.resourceId .update]

/-- The covering period a guard locks. -/
def guardLocks (periods : PeriodTable) (entry : JournalEntry) : List Lock :=
  match periods.rows.find? fun p => p.Covers entry.entryDate with
  | some p => [.period p.id .share]
  | none => []

def exec (db : Books) : Tx → List Lock × Except Refusal Tx
  | .create actor operationId startDate endDate => ([], do
      let p ← prepareCreate actor operationId startDate endDate
      pure (.lockTopology p))
  | .close actor operationId => ([], do
      let p ← prepareClose actor operationId
      pure (.lockTopology p))
  | .reopen actor operationId reason => ([], do
      let p ← prepareReopen actor operationId reason
      pure (.lockTopology p))
  | .lockTopology p => ([.topology], .ok (.lockBusiness p))
  | .lockBusiness p => ([.business .update], do
      requireBusiness db.store p.actor
      pure (.lookup p))
  | .lookup p => ([], do
      let replay ← registered db.store.operations p
      match replay with
      | some _ => pure .replayed
      | none => pure (.rules p))
  | .rules p => (p.rowLocks, do
      let after ← perform db.store p
      pure (.deferred ⟨p, after⟩))
  | .deferred w => ([.topology], do
      topologyCheck w.after.periods
      pure (.periodDone w))
  | .periodDone w => ([], .ok (.periodDone w))
  | .replayed => ([], .ok .replayed)
  | .post entries => ([], .ok (.posting [] entries))
  | .posting posted [] => ([], .ok (.posting posted []))
  | .posting posted (entry :: todo) => ([.business .share], .ok (.guarding posted entry todo))
  | .guarding posted entry todo => (guardLocks db.store.periods entry, do
      guardPosting db.store.periods entry.sourceType entry.entryDate
      pure (.posting (posted ++ [entry]) todo))

def Tx.IsStart : Tx → Prop
  | .create _ _ _ _ => True
  | .close _ _ => True
  | .reopen _ _ _ => True
  | .post _ => True
  | _ => False

/-- A command may commit once the deferred check has passed, an insert at any of its ends. -/
def Tx.IsDone : Tx → Prop
  | .periodDone _ => True
  | .replayed => True
  | .posting _ [] => True
  | _ => False

def Books.commit (db : Books) : Tx → Books
  | .periodDone w => { db with store := w.after }
  | .posting posted _ => { db with entries := db.entries ++ posted }
  | _ => db

/-- The books of a business under their locks. -/
def books : System Books Tx Lock Refusal where
  starts := Tx.IsStart
  exec := exec
  ready := Tx.IsDone
  commit := Books.commit
  conflicts := Lock.Conflicts
  conflicts_symm := Lock.Conflicts.symm

/-! ## 3. The outline -/

/-- What a transaction may assume at its point. -/
def Assumes (db : Books) (t : Tx) (held : List Lock) : Prop :=
  match t with
  | .lockBusiness _ => .topology ∈ held
  | .lookup _ => .topology ∈ held ∧ .business .update ∈ held
  | .rules _ => .topology ∈ held ∧ .business .update ∈ held
  | .deferred w => (.topology ∈ held ∧ .business .update ∈ held) ∧
      perform db.store w.command = .ok w.after
  | .periodDone w => (.topology ∈ held ∧ .business .update ∈ held) ∧
      perform db.store w.command = .ok w.after
  | .posting posted _ => ∀ e ∈ posted, .business .share ∈ held ∧
      guardPosting db.store.periods e.sourceType e.entryDate = .ok ()
  | .guarding posted _ _ => .business .share ∈ held ∧ ∀ e ∈ posted,
      guardPosting db.store.periods e.sourceType e.entryDate = .ok ()
  | _ => True

section Outline

variable {db : Books} {t t' u : Tx} {held held' locks : List Lock}

theorem Assumes.statement (h : Assumes db t held) (hexec : exec db t = (locks, .ok t')) :
    Assumes db t' (locks ++ held) := by
  cases t with
  | create actor operationId startDate endDate =>
      simp only [exec, Prod.mk.injEq, bind_eq_ok, pure_eq_ok] at hexec
      obtain ⟨_, _, _, rfl⟩ := hexec
      trivial
  | close actor operationId =>
      simp only [exec, Prod.mk.injEq, bind_eq_ok, pure_eq_ok] at hexec
      obtain ⟨_, _, _, rfl⟩ := hexec
      trivial
  | reopen actor operationId reason =>
      simp only [exec, Prod.mk.injEq, bind_eq_ok, pure_eq_ok] at hexec
      obtain ⟨_, _, _, rfl⟩ := hexec
      trivial
  | lockTopology p =>
      cases hexec
      exact List.mem_cons_self
  | lockBusiness p =>
      simp only [exec, Prod.mk.injEq, bind_eq_ok, pure_eq_ok] at hexec
      obtain ⟨rfl, _, _, rfl⟩ := hexec
      exact ⟨List.mem_cons_of_mem _ h, List.mem_cons_self⟩
  | lookup p =>
      simp only [exec, Prod.mk.injEq, bind_eq_ok] at hexec
      obtain ⟨rfl, replay, _, hexec⟩ := hexec
      cases replay with
      | some id =>
          cases hexec
          trivial
      | none =>
          cases hexec
          exact h
  | rules p =>
      simp only [exec, Prod.mk.injEq, bind_eq_ok, pure_eq_ok] at hexec
      obtain ⟨rfl, after, hp, rfl⟩ := hexec
      exact ⟨⟨List.mem_append_right _ h.1, List.mem_append_right _ h.2⟩, hp⟩
  | deferred w =>
      simp only [exec, Prod.mk.injEq, bind_eq_ok, pure_eq_ok] at hexec
      obtain ⟨rfl, _, _, rfl⟩ := hexec
      exact ⟨⟨List.mem_append_right _ h.1.1, List.mem_append_right _ h.1.2⟩, h.2⟩
  | periodDone w =>
      cases hexec
      exact h
  | replayed =>
      cases hexec
      trivial
  | post entries =>
      cases hexec
      intro e he
      cases he
  | posting posted todo =>
      cases todo with
      | nil =>
          cases hexec
          exact h
      | cons entry todo =>
          cases hexec
          exact ⟨List.mem_cons_self, fun e he => (h e he).2⟩
  | guarding posted entry todo =>
      simp only [exec, Prod.mk.injEq, bind_eq_ok, pure_eq_ok] at hexec
      obtain ⟨rfl, _, hg, rfl⟩ := hexec
      intro e he
      refine ⟨List.mem_append_right _ h.1, ?_⟩
      rcases List.mem_append.mp he with he | he
      · exact h.2 e he
      · rw [List.mem_singleton.mp he]
        exact hg

/-- What a commit elsewhere leaves to a transaction that holds `held`. -/
structure Frame (db db' : Books) (held : List Lock) : Prop where
  store : .topology ∈ held → db'.store = db.store
  periods : .business .share ∈ held → db'.store.periods = db.store.periods

/-- **A commit is a frame for every transaction with compatible locks.** -/
theorem Assumes.commit_frame (h : Assumes db u held') (hc : books.Compatible held held') :
    Frame db (db.commit u) held := by
  cases u with
  | periodDone w =>
      obtain ⟨⟨htopology, hbusiness⟩, _⟩ := h
      constructor
      · intro hin
        exact absurd .topology (hc _ hin _ htopology)
      · intro hin
        exact absurd (.business (by decide)) (hc _ hin _ hbusiness)
  | _ => exact ⟨fun _ => rfl, fun _ => rfl⟩

theorem Assumes.frame {db' : Books} (h : Assumes db t held) (f : Frame db db' held) :
    Assumes db' t held := by
  cases t with
  | deferred w =>
      unfold Assumes
      rw [f.store h.1.1]
      exact h
  | periodDone w =>
      unfold Assumes
      rw [f.store h.1.1]
      exact h
  | posting posted todo =>
      intro e he
      rw [f.periods (h e he).1]
      exact h e he
  | guarding posted entry todo =>
      unfold Assumes
      rw [f.periods h.1]
      exact h
  | _ => exact h

def PeriodsInOrder (db : Books) : Prop := db.store.periods.InOrder

theorem outline : books.Outline PeriodsInOrder Assumes where
  start {db t} _ ht := by
    cases t with
    | create actor operationId startDate endDate => trivial
    | close actor operationId => trivial
    | reopen actor operationId reason => trivial
    | post entries => trivial
    | _ => exact ht.elim
  statement _ h hexec := h.statement hexec
  stable _ h hu _ hc := h.frame (hu.commit_frame hc)
  commit {db t held} hI h _ := by
    cases t with
    | periodDone w => exact changePeriods_inOrder hI (perform_eq_ok h.2).1
    | _ => exact hI

end Outline

/-! ## 4. Runs of the books -/

/-- A step that commits the reopening of a period. -/
def Reopens (s : State Books Tx Lock) (e : Event) (id : Uuid) : Prop :=
  ∃ i w held reason, e = .commit i ∧ s.running i = some (.periodDone w, held) ∧
    w.command.change = .reopen reason ∧ w.command.actor.resourceId = id

/-- The books in some state, and the further runs from it. -/
structure BooksAreFinal (s : State Books Tx Lock) : Prop where
  inOrder : s.db.store.periods.InOrder
  apart : s.db.store.periods.rows.Pairwise AccountingPeriod.Apart
  /-- The deferred check passes on what a command has written. -/
  topology : ∀ i w held, s.running i = some (.deferred w, held) →
    topologyCheck w.after.periods = .ok ()
  /-- The commit of a close leaves its period closed. -/
  closes : ∀ i w held u, s.running i = some (.periodDone w, held) → w.command.change = .close →
    books.Step s (.commit i) u →
    ∃ p ∈ u.db.store.periods.rows, p.id = w.command.actor.resourceId ∧ p.isOpen = false
  /-- Until its reopening a closed period stays, and entries are inserted after its end only. -/
  final : ∀ p ∈ s.db.store.periods.rows, p.isOpen = false → ∀ es u,
    Run (fun s e t => books.Step s e t ∧ ¬ Reopens s e p.id) s es u →
    p ∈ u.db.store.periods.rows ∧ ∃ inserted, u.db.entries = s.db.entries ++ inserted ∧
      ∀ e ∈ inserted, e.entryDate.After p.endDate

section Runs

variable {s u : State Books Tx Lock} {e : Event} {p : AccountingPeriod}

/-- One step under a closed period. -/
theorem step_final (h : books.Described PeriodsInOrder Assumes s)
    (hp : p ∈ s.db.store.periods.rows) (hclosed : p.isOpen = false) (hstep : books.Step s e u)
    (hne : ¬ Reopens s e p.id) :
    p ∈ u.db.store.periods.rows ∧ ∃ inserted, u.db.entries = s.db.entries ++ inserted ∧
      ∀ e ∈ inserted, e.entryDate.After p.endDate := by
  have hsame : p ∈ s.db.store.periods.rows ∧ ∃ inserted, s.db.entries = s.db.entries ++ inserted ∧
      ∀ e ∈ inserted, e.entryDate.After p.endDate :=
    ⟨hp, [], (List.append_nil _).symm, fun e he => absurd he List.not_mem_nil⟩
  cases hstep with
  | start => exact hsame
  | statement => exact hsame
  | abort => exact hsame
  | @commit i t held hi hready =>
      have hassumes := h.running i t held hi
      cases t with
      | periodDone w =>
          refine ⟨?_, [], (List.append_nil _).symm, fun e he => absurd he List.not_mem_nil⟩
          refine changePeriods_closed (perform_eq_ok hassumes.2).1 hp hclosed ?_
          intro reason hchange hid
          exact hne ⟨i, w, held, reason, rfl, hi, hchange, hid⟩
      | posting posted todo =>
          refine ⟨hp, posted, rfl, ?_⟩
          intro e he
          exact PeriodTable.InOrder.guardPosting h.db (hassumes e he).2 hp hclosed
      | replayed => exact hsame
      | _ => exact hready.elim

theorem BooksAreFinal.of_described (h : books.Described PeriodsInOrder Assumes s) :
    BooksAreFinal s where
  inOrder := h.db
  apart := s.db.store.periods.noOverlap
  topology i w held hi := topologyCheck_perform h.db (h.running i _ held hi).2
  closes i w held u hi hclose hstep := by
    obtain ⟨t, held', hi', _, hdb⟩ := hstep.commit_inv
    rw [hi] at hi'
    cases hi'
    have hc := (perform_eq_ok (h.running i _ held hi).2).1
    unfold changePeriods at hc
    rw [hclose] at hc
    rw [hdb]
    exact closePeriod_closed hc
  final p hp hclosed es u hrun := by
    have hall : books.Described PeriodsInOrder Assumes u ∧ p ∈ u.db.store.periods.rows ∧
        ∃ inserted, u.db.entries = s.db.entries ++ inserted ∧
          ∀ e ∈ inserted, e.entryDate.After p.endDate := by
      refine hrun.invariant (I := fun v => books.Described PeriodsInOrder Assumes v ∧
        p ∈ v.db.store.periods.rows ∧ ∃ inserted, v.db.entries = s.db.entries ++ inserted ∧
          ∀ e ∈ inserted, e.entryDate.After p.endDate) ?_
        ⟨h, hp, [], (List.append_nil _).symm, fun e he => absurd he List.not_mem_nil⟩
      intro v e w hv hstep
      obtain ⟨hdesc, hmem, before, hbefore, hlate⟩ := hv
      obtain ⟨hmem', now, hnow, hlate'⟩ := step_final hdesc hmem hclosed hstep.1 hstep.2
      refine ⟨outline.step hdesc hstep.1, hmem', before ++ now, ?_, ?_⟩
      · rw [hnow, hbefore, List.append_assoc]
      · intro e he
        rcases List.mem_append.mp he with he | he
        · exact hlate e he
        · exact hlate' e he
    exact hall.2

end Runs

/-- **Closed books are final**, under every interleaving of period commands and journal
    inserts. -/
theorem books_are_final {db : Books} (h : db.store.periods.InOrder) {es : List Event}
    {s : State Books Tx Lock} (hrun : Run books.Step (.idle db) es s) : BooksAreFinal s :=
  .of_described (outline.sound hrun (.idle h))

/-! ## 5. One period, closed -/

def sampleBooks : Books := ⟨sampleStore, []⟩

def sampleClose : Tx :=
  let operationId := Uuid.sample 6
  .close ((sampleFacts operationId .close).signed (.sample 5)) operationId

/-- Whether a finished command leaves one closed period. -/
def leavesClosed : Except Refusal Tx → Bool
  | .ok (.periodDone w) => w.after.periods.rows.map AccountingPeriod.isOpen = [false]
  | _ => false

theorem books_are_final_sample : ∃ es s, Run books.Step (.idle sampleBooks) es s ∧
    s.db.store.periods.rows.map AccountingPeriod.isOpen = [false] ∧ BooksAreFinal s := by
  have hclosed : leavesClosed (books.execs sampleBooks 6 sampleClose) = true := by decide +kernel
  cases hclose : books.execs sampleBooks 6 sampleClose with
  | error e =>
      rw [hclose] at hclosed
      cases hclosed
  | ok t =>
      rw [hclose] at hclosed
      cases t with
      | periodDone w =>
          have hstart : books.starts sampleClose := trivial
          have hready : books.ready (.periodDone w) := trivial
          obtain ⟨es, held, hrun, hcommit⟩ := System.run_alone hstart hclose hready
          have hall := hrun.trans (.single hcommit)
          exact ⟨_, _, hall, of_decide_eq_true hclosed, books_are_final sampleStore_inOrder hall⟩
      | _ => cases hclosed

end Daftar.Accounting
