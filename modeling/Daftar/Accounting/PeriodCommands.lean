/-
  File: Daftar/Accounting/PeriodCommands.lean
  Subject: The three period commands: create, close, reopen.

  * A command is prepared before any lock: its authority, its payload and its signed fingerprint.
    What is left is a `PreparedCommand`.
  * Under the locks `registered` answers a replay from the registry, and `perform` writes the
    period and the registry row.
  * `accountingPeriodCreate`, `accountingPeriodClose` and `accountingPeriodReopen` are the routines
    run in one piece.
-/

import Daftar.Accounting.Periods
import Daftar.Library.CivilDate
import Daftar.Library.Framing
import Daftar.Library.Sha256

namespace Daftar.Accounting

open CivilDate
open Fallible
open Framing
open Sha256

/-! ## 1. Fingerprints -/

inductive PeriodCommandKind
  | periodCreate | periodClose | periodReopen
  deriving DecidableEq, Repr

def PeriodCommandKind.text : PeriodCommandKind → String
  | periodCreate => "period_create"
  | periodClose => "period_close"
  | periodReopen => "period_reopen"

/-- The boundaries of a period to create, finite and ordered. -/
structure PeriodRange where
  startDate : ℤ
  endDate : ℤ
  ordered : startDate ≤ endDate

instance : DecidableEq PeriodRange := fun a b =>
  decidable_of_iff (a.startDate = b.startDate ∧ a.endDate = b.endDate) (by
    cases a
    cases b
    rw [PeriodRange.mk.injEq])

/-- What a command does to the period it names. -/
inductive PeriodChange
  | create (range : PeriodRange)
  | close
  | reopen (reason : PeriodReason)
  deriving DecidableEq

def PeriodChange.kind : PeriodChange → PeriodCommandKind
  | create _ => .periodCreate
  | close => .periodClose
  | reopen _ => .periodReopen

/-- The facts a fingerprint is of. -/
structure PeriodFacts where
  tenantId : Uuid
  businessId : Uuid
  operationId : Uuid
  periodId : Uuid
  change : PeriodChange
  deriving DecidableEq

def accountingPeriodReasonDigest (reason : String) : String := digest (utf8 (btrim reason))

/-- The fields of the stream after the period. -/
def PeriodChange.fields : PeriodChange → List String
  | create range => [isoDate range.startDate, isoDate range.endDate]
  | close => []
  | reopen reason => [accountingPeriodReasonDigest reason.text]

/-- The canonical stream, each field on a line. -/
def accountingPeriodCanonical (f : PeriodFacts) : List String :=
  [ "acctperiod/1", f.change.kind.text, f.tenantId.text, f.businessId.text, f.operationId.text,
    f.periodId.text ] ++ f.change.fields

def PeriodFacts.stream (f : PeriodFacts) : List UInt8 :=
  utf8 (String.ofList (frame '\n' ((accountingPeriodCanonical f).map String.toList)))

def accountingPeriodFingerprint (f : PeriodFacts) : String := digest f.stream

/-! ## 2. The registry -/

/-- A row of `accounting_period_operations`, without its instant. -/
structure PeriodOperation where
  id : Uuid
  operationKind : PeriodCommandKind
  periodId : Uuid
  payloadFingerprint : String
  resultingOpen : Bool
  actorUserId : Uuid
  deriving DecidableEq

/-- The registry under its primary key. Its rows are never updated or deleted. -/
structure PeriodOperations where
  rows : List PeriodOperation
  pk : (rows.map PeriodOperation.id).Nodup

namespace PeriodOperations

def empty : PeriodOperations := ⟨[], List.nodup_nil⟩

def find? (t : PeriodOperations) (id : Uuid) : Option PeriodOperation :=
  t.rows.find? fun o => o.id = id

def insert (t : PeriodOperations) (o : PeriodOperation) : Except Refusal PeriodOperations :=
  if h : o.id ∈ t.rows.map PeriodOperation.id then .error (.accounting .idempotencyConflict)
  else .ok ⟨o :: t.rows, List.nodup_cons.mpr ⟨h, t.pk⟩⟩

end PeriodOperations

/-- What the commands of one business read and write. -/
structure PeriodStore where
  tenantId : Uuid
  businessId : Uuid
  periods : PeriodTable
  operations : PeriodOperations

/-! ## 3. Preparing a command -/

/-- The verified claims of a control assertion. -/
structure ControlActor where
  actorUserId : Uuid
  tenantId : Uuid
  businessId : Uuid
  commandKind : PeriodCommandKind
  resourceId : Uuid
  payloadFingerprint : String
  deriving DecidableEq

/-- The claims of an assertion over exactly these facts. -/
def PeriodFacts.signed (f : PeriodFacts) (actorUserId : Uuid) : ControlActor where
  actorUserId := actorUserId
  tenantId := f.tenantId
  businessId := f.businessId
  commandKind := f.change.kind
  resourceId := f.periodId
  payloadFingerprint := accountingPeriodFingerprint f

/-- A command past its payload checks. -/
structure PreparedCommand where
  actor : ControlActor
  operationId : Uuid
  change : PeriodChange

/-- The facts a command states: its identities are the assertion's. -/
def PreparedCommand.facts (p : PreparedCommand) : PeriodFacts :=
  ⟨p.actor.tenantId, p.actor.businessId, p.operationId, p.actor.resourceId, p.change⟩

def accountingControlActor (actor : ControlActor) (kind : PeriodCommandKind) :
    Except Refusal Unit :=
  refuseIf (actor.commandKind ≠ kind) (.accounting .assertionWrongOperation)

/-- The signed fingerprint must describe this payload. -/
def requireFingerprint (p : PreparedCommand) : Except Refusal PreparedCommand := do
  refuseIf (accountingPeriodFingerprint p.facts ≠ p.actor.payloadFingerprint)
    (.accounting .assertionPayloadMismatch)
  pure p

def periodRange (startDate endDate : Option PgDate) : Except Refusal PeriodRange :=
  match startDate, endDate with
  | some (.day s), some (.day e) =>
    if h : s ≤ e then .ok ⟨s, e, h⟩ else .error (.accounting .periodRangeInvalid)
  | some _, some _ => .error (.accounting .periodRangeInvalid)
  | _, _ => .error (.accounting .payloadMissingField)

/-- The trimmed reason, neither empty nor longer than its column. -/
def periodReason (raw : Option String) : Except Refusal PeriodReason :=
  let reason := btrim (raw.getD "")
  if hempty : reason.length = 0 then .error (.accounting .periodReopenReasonRequired)
  else if hlong : 500 < reason.length then .error (.accounting .periodReopenReasonRequired)
  else .ok ⟨reason, btrim_btrim _, Nat.one_le_iff_ne_zero.mpr hempty, Nat.not_lt.mp hlong⟩

def prepareCreate (actor : ControlActor) (operationId : Option Uuid)
    (startDate endDate : Option PgDate) : Except Refusal PreparedCommand := do
  accountingControlActor actor .periodCreate
  match operationId with
  | none => .error (.accounting .payloadMissingField)
  | some op => do
    let range ← periodRange startDate endDate
    requireFingerprint ⟨actor, op, .create range⟩

def prepareClose (actor : ControlActor) (operationId : Option Uuid) :
    Except Refusal PreparedCommand := do
  accountingControlActor actor .periodClose
  match operationId with
  | none => .error (.accounting .payloadMissingField)
  | some op => requireFingerprint ⟨actor, op, .close⟩

def prepareReopen (actor : ControlActor) (operationId : Option Uuid) (reason : Option String) :
    Except Refusal PreparedCommand := do
  accountingControlActor actor .periodReopen
  match operationId with
  | none => .error (.accounting .payloadMissingField)
  | some op => do
    let reason ← periodReason reason
    requireFingerprint ⟨actor, op, .reopen reason⟩

/-! ## 4. Under the locks -/

/-- The assertion's tenant owns the named business. -/
def requireBusiness (store : PeriodStore) (actor : ControlActor) : Except Refusal Unit := do
  refuseIf (actor.businessId ≠ store.businessId) (.accounting .forbidden)
  refuseIf (store.tenantId ≠ actor.tenantId) (.accounting .forbidden)

/-- Whether the operation has already run: its original result, or a conflict. -/
def registered (operations : PeriodOperations) (p : PreparedCommand) :
    Except Refusal (Option Uuid) :=
  match operations.find? p.operationId with
  | none => pure none
  | some op =>
    if op.payloadFingerprint = accountingPeriodFingerprint p.facts then pure (some op.periodId)
    else .error (.accounting .idempotencyConflict)

/-- A later period joins the existing range at one end, and at the early end only while no period
    is closed. -/
def requireAdjacent (periods : PeriodTable) (range : PeriodRange) : Except Refusal Unit :=
  match periods.minStart?, periods.maxEnd? with
  | some minStart, some maxEnd => do
    refuseIf (range.endDate ≠ minStart - 1 ∧ range.startDate ≠ maxEnd + 1)
      (.accounting .periodNotContiguous)
    refuseIf (range.endDate = minStart - 1 ∧ ∃ p ∈ periods.rows, p.isOpen = false)
      (.accounting .periodPrependClosedHistory)
  | _, _ => pure ()

/-- Overlap, then contiguity. -/
def createPeriod (periods : PeriodTable) (actor : ControlActor) (range : PeriodRange) :
    Except Refusal PeriodTable := do
  refuseIf (∃ p ∈ periods.rows, p.startDate ≤ range.endDate ∧ range.startDate ≤ p.endDate)
    (.accounting .periodOverlap)
  requireAdjacent periods range
  periods.insert
    { id := actor.resourceId
      startDate := range.startDate
      endDate := range.endDate
      status := .open_
      createdBy := actor.actorUserId
      lastReopened := none
      range := range.ordered }

/-- Closing goes oldest first. -/
def closePeriod (periods : PeriodTable) (actor : ControlActor) : Except Refusal PeriodTable :=
  match periods.find? actor.resourceId with
  | none => .error (.accounting .periodNotFound)
  | some period => do
    refuseIf (period.isOpen = false) (.accounting .periodNotOpen)
    refuseIf (∃ p ∈ periods.rows, p.isOpen = true ∧ p.startDate < period.startDate)
      (.accounting .periodCloseOrder)
    pure (periods.setStatus actor.resourceId (.closed actor.actorUserId) none)

/-- Reopening goes newest first. -/
def reopenPeriod (periods : PeriodTable) (actor : ControlActor) (reason : PeriodReason) :
    Except Refusal PeriodTable :=
  match periods.find? actor.resourceId with
  | none => .error (.accounting .periodNotFound)
  | some period => do
    refuseIf (period.isOpen = true) (.accounting .periodNotClosed)
    refuseIf (∃ p ∈ periods.rows, p.isOpen = false ∧ period.startDate < p.startDate)
      (.accounting .periodReopenOrder)
    pure (periods.setStatus actor.resourceId .open_ (some ⟨actor.actorUserId, reason⟩))

/-- The domain rules and the period row of a command. -/
def changePeriods (periods : PeriodTable) (p : PreparedCommand) : Except Refusal PeriodTable :=
  match p.change with
  | .create range => createPeriod periods p.actor range
  | .close => closePeriod periods p.actor
  | .reopen reason => reopenPeriod periods p.actor reason

/-- The registry row of a command. -/
def PreparedCommand.operation (p : PreparedCommand) : PeriodOperation where
  id := p.operationId
  operationKind := p.change.kind
  periodId := p.actor.resourceId
  payloadFingerprint := accountingPeriodFingerprint p.facts
  resultingOpen := match p.change with
    | .close => false
    | _ => true
  actorUserId := p.actor.actorUserId

/-- Both rows of a command that has not run yet. -/
def perform (store : PeriodStore) (p : PreparedCommand) : Except Refusal PeriodStore := do
  let periods ← changePeriods store.periods p
  let operations ← store.operations.insert p.operation
  pure { store with periods := periods, operations := operations }

/-! ## 5. The routines -/

structure PeriodResult where
  periodId : Uuid
  changed : Bool
  deriving DecidableEq

/-- A prepared command, from the locks to its result. -/
def runPrepared (store : PeriodStore) (p : PreparedCommand) :
    Except Refusal (PeriodStore × PeriodResult) := do
  requireBusiness store p.actor
  let replay ← registered store.operations p
  match replay with
  | some periodId => pure (store, ⟨periodId, false⟩)
  | none => do
    let after ← perform store p
    topologyCheck after.periods
    pure (after, ⟨p.actor.resourceId, true⟩)

def accountingPeriodCreate (store : PeriodStore) (actor : ControlActor)
    (operationId : Option Uuid) (startDate endDate : Option PgDate) :
    Except Refusal (PeriodStore × PeriodResult) := do
  let p ← prepareCreate actor operationId startDate endDate
  runPrepared store p

def accountingPeriodClose (store : PeriodStore) (actor : ControlActor)
    (operationId : Option Uuid) : Except Refusal (PeriodStore × PeriodResult) := do
  let p ← prepareClose actor operationId
  runPrepared store p

def accountingPeriodReopen (store : PeriodStore) (actor : ControlActor)
    (operationId : Option Uuid) (reason : Option String) :
    Except Refusal (PeriodStore × PeriodResult) := do
  let p ← prepareReopen actor operationId reason
  runPrepared store p

end Daftar.Accounting
