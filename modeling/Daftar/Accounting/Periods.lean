/-
  File: Daftar/Accounting/Periods.lean
  Subject: The accounting periods of a business, their topology, and the guard on postings.

  * A `PeriodTable` holds the constraints of `accounting_periods` as fields: one row an id, no two
    periods with a common day. Its routes are `insert`, `close` and `reopen`.
  * `topologyCheck` is the deferred trigger, `guardPosting` the trigger on journal entries.
  * `InOrder` is the shape the commands keep: no gap, and in date order the closed periods first.
    `InOrder.topologyCheck`: the trigger accepts it. `InOrder.guardPosting`: the guard admits no
    date up to the end of a closed period.
-/

import Daftar.Accounting.Errors
import Daftar.Identifiers
import Daftar.Library.IntervalChains
import Mathlib.Data.List.DropRight

namespace Daftar.Accounting

open Fallible
open IntervalChains

/-! ## 1. Dates -/

/-- A DATE: a day, counted from 2000-01-01, or one of the two infinities. -/
inductive PgDate
  | negInfinity
  | day (date : ℤ)
  | infinity
  deriving DecidableEq

def PgDate.Before : PgDate → ℤ → Prop
  | negInfinity, _ => True
  | day date, d => date < d
  | infinity, _ => False

def PgDate.After : PgDate → ℤ → Prop
  | negInfinity, _ => False
  | day date, d => d < date
  | infinity, _ => True

instance (p : PgDate) (d : ℤ) : Decidable (p.Before d) :=
  match p with
  | .negInfinity => isTrue trivial
  | .day date => inferInstanceAs (Decidable (date < d))
  | .infinity => isFalse id

instance (p : PgDate) (d : ℤ) : Decidable (p.After d) :=
  match p with
  | .negInfinity => isFalse id
  | .day date => inferInstanceAs (Decidable (d < date))
  | .infinity => isTrue trivial

/-! ## 2. Periods -/

def isBlank (c : Char) : Bool := c = ' ' ∨ c = '\t' ∨ c = '\n' ∨ c = '\r'

/-- `btrim(text, E' \t\n\r')`. -/
def btrim (text : String) : String :=
  String.ofList ((text.toList.dropWhile isBlank).rdropWhile isBlank)

/-- Dropping at the end leaves the beginning. -/
theorem dropWhile_rdropWhile {α : Type} {p : α → Bool} {l : List α} (h : l.dropWhile p = l) :
    (l.rdropWhile p).dropWhile p = l.rdropWhile p := by
  obtain ⟨rest, hrest⟩ := List.rdropWhile_prefix p (l := l)
  cases hr : l.rdropWhile p with
  | nil => rfl
  | cons a as =>
      rw [hr] at hrest
      rw [← hrest] at h
      by_cases ha : p a = true
      · rw [List.cons_append, List.dropWhile_cons_of_pos ha] at h
        have hlen := congrArg List.length h
        have hle := (List.dropWhile_sublist p (l := as ++ rest)).length_le
        rw [List.length_cons] at hlen
        omega
      · exact List.dropWhile_cons_of_neg ha

/-- **A trimmed text is trimmed.** -/
theorem btrim_btrim (text : String) : btrim (btrim text) = btrim text := by
  unfold btrim
  rw [String.toList_ofList, dropWhile_rdropWhile (List.dropWhile_idempotent isBlank _),
    List.rdropWhile_idempotent]

/-- A stored reopen reason, under the CHECK of its column. -/
structure PeriodReason where
  text : String
  trimmed : btrim text = text
  nonempty : 1 ≤ text.length
  bounded : text.length ≤ 500
  deriving DecidableEq

structure Reopening where
  reopenedBy : Uuid
  reason : PeriodReason
  deriving DecidableEq

/-- The state of a period, with who closed it exactly when it is closed. -/
inductive PeriodStatus
  | open_
  | closed (closedBy : Uuid)
  deriving DecidableEq

/-- A row of `accounting_periods`, without its instants. -/
structure AccountingPeriod where
  id : Uuid
  startDate : ℤ
  endDate : ℤ
  status : PeriodStatus
  createdBy : Uuid
  lastReopened : Option Reopening
  range : startDate ≤ endDate
  deriving DecidableEq

def AccountingPeriod.isOpen (p : AccountingPeriod) : Bool := p.status = .open_

/-- No common day. -/
def AccountingPeriod.Apart (p q : AccountingPeriod) : Prop :=
  p.endDate < q.startDate ∨ q.endDate < p.startDate

instance (p q : AccountingPeriod) : Decidable (p.Apart q) := inferInstanceAs (Decidable (_ ∨ _))

/-- `accounting_periods` of one business, under its primary key and its exclusion constraint. -/
structure PeriodTable where
  rows : List AccountingPeriod
  pk : (rows.map AccountingPeriod.id).Nodup
  noOverlap : rows.Pairwise AccountingPeriod.Apart

namespace PeriodTable

def empty : PeriodTable := ⟨[], List.nodup_nil, List.Pairwise.nil⟩

/-- The rows by their dates. -/
def byDate (t : PeriodTable) : List AccountingPeriod :=
  inOrder AccountingPeriod.startDate t.rows

def minStart? (t : PeriodTable) : Option ℤ := (t.rows.map AccountingPeriod.startDate).min?

def maxEnd? (t : PeriodTable) : Option ℤ := (t.rows.map AccountingPeriod.endDate).max?

def find? (t : PeriodTable) (id : Uuid) : Option AccountingPeriod := t.rows.find? fun p => p.id = id

/-- A new row; the constraints speak through the handlers of the routine that inserts it. -/
def insert (t : PeriodTable) (p : AccountingPeriod) : Except Refusal PeriodTable :=
  if hid : p.id ∈ t.rows.map AccountingPeriod.id then .error (.accounting .idempotencyConflict)
  else if hover : ∀ q ∈ t.rows, p.Apart q then
    .ok
      { rows := p :: t.rows
        pk := List.nodup_cons.mpr ⟨hid, t.pk⟩
        noOverlap := List.Pairwise.cons hover t.noOverlap }
  else .error (.accounting .periodOverlap)

/-- What an update makes of a row: its identity and its boundaries are final. -/
def onRow (id : Uuid) (status : PeriodStatus) (reopening : Option Reopening)
    (p : AccountingPeriod) : AccountingPeriod :=
  if p.id = id then
    { p with
      status := status
      lastReopened := match reopening with
        | some r => some r
        | none => p.lastReopened }
  else p

section OnRow

variable (id : Uuid) (status : PeriodStatus) (reopening : Option Reopening) (p : AccountingPeriod)

@[simp] theorem id_onRow : (onRow id status reopening p).id = p.id := by
  unfold onRow
  split <;> rfl

@[simp] theorem startDate_onRow : (onRow id status reopening p).startDate = p.startDate := by
  unfold onRow
  split <;> rfl

@[simp] theorem endDate_onRow : (onRow id status reopening p).endDate = p.endDate := by
  unfold onRow
  split <;> rfl

variable {id p}

theorem onRow_of_ne (h : p.id ≠ id) : onRow id status reopening p = p := if_neg h

theorem status_onRow (h : p.id = id) : (onRow id status reopening p).status = status := by
  unfold onRow
  rw [if_pos h]

end OnRow

/-- The table after the status of a row is set. -/
def setStatus (t : PeriodTable) (id : Uuid) (status : PeriodStatus)
    (reopening : Option Reopening) : PeriodTable where
  rows := t.rows.map (onRow id status reopening)
  pk := by
    rw [List.map_map]
    have hid : AccountingPeriod.id ∘ onRow id status reopening = AccountingPeriod.id :=
      funext fun p => id_onRow id status reopening p
    rw [hid]
    exact t.pk
  noOverlap := by
    rw [List.pairwise_map]
    refine t.noOverlap.imp ?_
    intro p q hpq
    unfold AccountingPeriod.Apart at hpq ⊢
    simpa only [startDate_onRow, endDate_onRow] using hpq

end PeriodTable

/-! ## 3. The two triggers -/

/-- `accounting_period_topology_check`, at COMMIT: no gap, and no open period before a closed
    one. -/
def topologyCheck (t : PeriodTable) : Except Refusal Unit := do
  refuseIf (gaps AccountingPeriod.startDate AccountingPeriod.endDate t.rows ≠ [])
    (.accounting .periodNotContiguous)
  match ((t.rows.filter fun p => p.isOpen).map AccountingPeriod.startDate).min?,
    ((t.rows.filter fun p => !p.isOpen).map AccountingPeriod.startDate).max? with
  | some earliestOpen, some latestClosed =>
    refuseIf (earliestOpen < latestClosed) (.accounting .periodTopologyInvalid)
  | _, _ => pure ()

/-- The period that contains a date. -/
def AccountingPeriod.Covers (p : AccountingPeriod) (date : PgDate) : Prop :=
  ¬ date.Before p.startDate ∧ ¬ date.After p.endDate

instance (p : AccountingPeriod) (date : PgDate) : Decidable (p.Covers date) :=
  inferInstanceAs (Decidable (_ ∧ _))

/-- `accounting_period_guard_posting`, before a journal entry is inserted. -/
def guardPosting (t : PeriodTable) (sourceType : String) (entryDate : PgDate) :
    Except Refusal Unit :=
  match t.minStart? with
  | none => pure ()
  | some earliest =>
    if sourceType = "opening_balance" ∧ entryDate.Before earliest then
      refuseIf (∃ p ∈ t.rows, p.isOpen = false) (.accounting .periodClosedHistory)
    else
      match t.rows.find? fun p => p.Covers entryDate with
      | none => .error (.accounting .periodMissingForDate)
      | some p => refuseIf (p.isOpen = false) (.accounting .periodClosed)

/-! ## 4. The shape of the periods -/

/-- In date order the periods follow one another without a gap, the closed ones first. -/
structure PeriodTable.InOrder (t : PeriodTable) : Prop where
  contiguous : Chained AccountingPeriod.startDate AccountingPeriod.endDate t.byDate
  closedFirst : ∃ closed live, t.byDate = closed ++ live ∧ (∀ p ∈ closed, p.isOpen = false) ∧
    ∀ p ∈ live, p.isOpen = true

theorem PgDate.after_of_not_before {date : PgDate} {d e : ℤ} (h : ¬ date.Before d) (hlt : e < d) :
    date.After e := by
  cases date with
  | negInfinity => exact absurd trivial h
  | day date => exact Int.lt_of_lt_of_le hlt (Int.not_lt.mp h)
  | infinity => trivial

section Shape

variable {t : PeriodTable} {p q : AccountingPeriod}

/-- A chain of the rows, the closed ones first, is the date order. -/
theorem PeriodTable.InOrder.of_chain (closed live : List AccountingPeriod)
    (hp : (closed ++ live).Perm t.rows)
    (hc : Chained AccountingPeriod.startDate AccountingPeriod.endDate (closed ++ live))
    (h1 : ∀ p ∈ closed, p.isOpen = false) (h2 : ∀ p ∈ live, p.isOpen = true) : t.InOrder := by
  have hd : t.byDate = closed ++ live := inOrder_eq hc (fun p _ => p.range) hp
  refine ⟨?_, closed, live, hd, h1, h2⟩
  rw [hd]
  exact hc

theorem PeriodTable.InOrder.empty : PeriodTable.empty.InOrder :=
  .of_chain [] [] (List.Perm.refl []) List.IsChain.nil
    (fun _ h => absurd h List.not_mem_nil) fun _ h => absurd h List.not_mem_nil

theorem PeriodTable.mem_byDate : p ∈ t.byDate ↔ p ∈ t.rows := (perm_inOrder t.rows).mem_iff

/-- **A closed period ends before any open one begins.** -/
theorem PeriodTable.InOrder.closed_before_open (h : t.InOrder) (hp : p ∈ t.rows)
    (hq : q ∈ t.rows) (hpc : p.isOpen = false) (hqo : q.isOpen = true) :
    p.endDate < q.startDate := by
  obtain ⟨closed, live, hd, h1, h2⟩ := h.closedFirst
  have hsep := h.contiguous.separated fun r _ => r.range
  rw [hd, List.pairwise_append] at hsep
  have hpin := PeriodTable.mem_byDate.mpr hp
  have hqin := PeriodTable.mem_byDate.mpr hq
  rw [hd] at hpin hqin
  have hpclosed : p ∈ closed := by
    rcases List.mem_append.mp hpin with hin | hin
    · exact hin
    · rw [h2 p hin] at hpc
      cases hpc
  have hqlive : q ∈ live := by
    rcases List.mem_append.mp hqin with hin | hin
    · rw [h1 q hin] at hqo
      cases hqo
    · exact hin
  exact hsep.2.2 p hpclosed q hqlive

/-- **The topology trigger accepts periods in order.** -/
theorem PeriodTable.InOrder.topologyCheck (h : t.InOrder) : topologyCheck t = .ok () := by
  unfold Accounting.topologyCheck
  rw [refuseIf_of_not (not_not.mpr (gaps_eq_nil h.contiguous)), ok_bind]
  cases hmin : ((t.rows.filter fun p => p.isOpen).map AccountingPeriod.startDate).min? with
  | none => rfl
  | some earliest =>
      cases hmax : ((t.rows.filter fun p => !p.isOpen).map AccountingPeriod.startDate).max? with
      | none => rfl
      | some latest =>
          obtain ⟨q, hq, rfl⟩ := List.mem_map.mp (List.min?_mem hmin)
          obtain ⟨p, hp, rfl⟩ := List.mem_map.mp (List.max?_mem hmax)
          obtain ⟨hqin, hqo⟩ := List.mem_filter.mp hq
          obtain ⟨hpin, hpc⟩ := List.mem_filter.mp hp
          have hlt := h.closed_before_open hpin hqin (by simpa using hpc) hqo
          have hle := p.range
          exact refuseIf_of_not (by omega)

/-- **The guard admits nothing up to the end of a closed period**, whatever the source. -/
theorem PeriodTable.InOrder.guardPosting (h : t.InOrder) {sourceType : String} {date : PgDate}
    (hg : guardPosting t sourceType date = .ok ()) (hp : p ∈ t.rows) (hpc : p.isOpen = false) :
    date.After p.endDate := by
  unfold Accounting.guardPosting at hg
  cases hmin : t.minStart? with
  | none =>
      -- A table without a first day has no rows.
      unfold PeriodTable.minStart? at hmin
      rw [List.min?_eq_none_iff, List.map_eq_nil_iff] at hmin
      rw [hmin] at hp
      cases hp
  | some earliest =>
      rw [hmin] at hg
      simp only at hg
      split at hg
      · rw [refuseIf_eq_ok] at hg
        exact absurd ⟨p, hp, hpc⟩ hg
      · cases hfind : t.rows.find? fun p => decide (p.Covers date) with
        | none =>
            rw [hfind] at hg
            cases hg
        | some q =>
            rw [hfind] at hg
            simp only [refuseIf_eq_ok, Bool.not_eq_false] at hg
            have hcov : q.Covers date := by simpa using List.find?_some hfind
            have hlt := h.closed_before_open hp (List.mem_of_find?_eq_some hfind) hpc hg
            exact PgDate.after_of_not_before hcov.1 hlt

end Shape

end Daftar.Accounting
