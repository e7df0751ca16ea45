/-
  File: Daftar/Accounting/Sources.lean
  Subject: The rows of the sources of one's own books: adjustments, reversals, opening balances.

  * A `SourceLedger` is a ledger with the tables of the three native sources. Each table holds its
    constraints, so a second reversal of an entry or a second posted opening balance has no row.
  * `entryComplete` are the deferred triggers that ask every native entry for its row.
  * `OPERATION_KINDS` pairs each signed operation kind with the sources it may create.
-/

import Daftar.Accounting.Fingerprint
import Daftar.Accounting.PostEntry
import Daftar.Library.DoubleEntry

namespace Daftar.Accounting

open Fallible

/-! ## 1. Refusals -/

/-- The `accounting.*` codes the routines of the native sources raise beside the ledger's own. -/
inductive SourceCode
  | assertionWrongSource
  | adjustmentReasonRequired
  | adjustmentDetailMissing
  | reversalReasonRequired
  | entryDateRequired
  | entryNotFound
  | reversalOfReversal
  | reversalExists
  | reversalSourceDomainOwned
  | reversalDetailMissing
  | openingBalanceInventoryBound
  | openingBalanceDetailMissing
  | openingBalanceStateInvalid
  | openingBalanceExists
  | supersedeWithoutReversal
  deriving DecidableEq, Repr

inductive SourceRefusal
  | ledger (refusal : Refusal)
  | source (code : SourceCode)
  deriving DecidableEq, Repr

/-- A step of the ledger's own routines. -/
def ofLedger {α : Type} (x : Except Refusal α) : Except SourceRefusal α := x.mapError .ledger

@[simp] theorem ofLedger_eq_ok {α : Type} {x : Except Refusal α} {a : α} :
    ofLedger x = .ok a ↔ x = .ok a := mapError_eq_ok

theorem ofLedger_ok {α : Type} {a : α} : ofLedger (.ok a) = .ok a := rfl

/-! ## 2. Authority -/

/-- The rows of `accounting_operation_kinds`. -/
def OPERATION_KINDS : List (String × String) :=
  [ ("post", "manual_adjustment"), ("post", "opening_balance"), ("reverse", "reversal"),
    ("post", "inventory_adjustment"), ("post", "inventory_opening"), ("post", "purchase"),
    ("post", "negative_inventory_cost_adjustment"), ("post", "supplier_return"),
    ("post", "supplier_payment"), ("post", "supplier_credit_allocation"),
    ("post", "supplier_refund"), ("post", "purchase_residue_write_off"), ("post", "sale"),
    ("post", "invoice"), ("post", "customer_payment_allocation"),
    ("post", "customer_credit_application"), ("post", "customer_credit") ]

/-- `accounting_actor` of one kind, narrowed to one source. -/
def sourceAuthority (actor : PostingActor) (kind sourceType : String) :
    Except SourceRefusal Unit := do
  refuseIf (actor.operationKind ≠ kind) (.ledger (.accounting .assertionWrongOperation))
  refuseIf ((actor.operationKind, actor.source.sourceType) ∉ OPERATION_KINDS ∨
    actor.source.sourceType ≠ sourceType) (.source .assertionWrongSource)

/-- The business an assertion names is this one, of its tenant. -/
def ownsBusiness (store : PeriodStore) (source : PostingSource) : Except SourceRefusal Unit := do
  refuseIf (source.businessId ≠ store.businessId) (.ledger (.accounting .forbidden))
  refuseIf (store.tenantId ≠ source.tenantId) (.ledger (.accounting .forbidden))

/-! ## 3. Reasons -/

/-- `btrim(text)`. -/
def trimSpaces (text : String) : String :=
  String.ofList ((text.toList.dropWhile (· = ' ')).rdropWhile (· = ' '))

/-- A stored reason, under the CHECK of its column. -/
structure StoredReason where
  text : String
  nonblank : trimSpaces text ≠ ""
  bounded : 1 ≤ text.length ∧ text.length ≤ 500

theorem trimSpaces_trimSpaces (text : String) : trimSpaces (trimSpaces text) = trimSpaces text := by
  unfold trimSpaces
  rw [String.toList_ofList, dropWhile_rdropWhile (List.dropWhile_idempotent _ _),
    List.rdropWhile_idempotent]

theorem StoredReason.ext_text {r s : StoredReason} (h : r.text = s.text) : r = s := by
  cases r
  cases s
  cases h
  rfl

/-- A reason there must be, trimmed and neither empty nor longer than its column. -/
def requiredReason (raw : Option String) (missing : SourceCode) :
    Except SourceRefusal StoredReason :=
  let reason := trimSpaces (raw.getD "")
  if hempty : reason = "" then .error (.source missing)
  else if hlong : 500 < reason.length then .error (.ledger (.accounting .payloadInvalid))
  else .ok ⟨reason, by rwa [trimSpaces_trimSpaces],
    Nat.one_le_iff_ne_zero.mpr fun h => hempty (String.length_eq_zero_iff.mp h), Nat.not_lt.mp hlong⟩

theorem requiredReason_eq_ok {raw : Option String} {missing : SourceCode} {r : StoredReason}
    (h : requiredReason raw missing = .ok r) : r.text = trimSpaces (raw.getD "") := by
  unfold requiredReason at h
  dsimp only at h
  split at h
  · cases h
  · split at h
    · cases h
    · cases h
      rfl

/-! ## 4. Rows -/

structure ManualAdjustment where
  id : Uuid
  reason : StoredReason
  actorUserId : Uuid

/-- A row of `accounting_reversals`; its own id is the id of the entry it reverses. -/
structure ReversalRow where
  originalEntryId : Uuid
  journalEntryId : Uuid
  reason : StoredReason
  actorUserId : Uuid
  distinct : journalEntryId ≠ originalEntryId

structure ReversalTable where
  rows : List ReversalRow
  originals : (rows.map ReversalRow.originalEntryId).Nodup
  entries : (rows.map ReversalRow.journalEntryId).Nodup

namespace ReversalTable

def empty : ReversalTable := ⟨[], List.nodup_nil, List.nodup_nil⟩

/-- The ids of the reversed entries. -/
def reversed (t : ReversalTable) : List Uuid := t.rows.map ReversalRow.originalEntryId

def ofEntry (t : ReversalTable) (id : Uuid) : Option ReversalRow :=
  t.rows.find? fun r => r.journalEntryId = id

/-- A violated unique constraint is answered as a reversal that exists. -/
def insert (t : ReversalTable) (r : ReversalRow) : Except SourceRefusal ReversalTable :=
  if h : r.originalEntryId ∉ t.rows.map ReversalRow.originalEntryId ∧
      r.journalEntryId ∉ t.rows.map ReversalRow.journalEntryId then
    .ok ⟨r :: t.rows, List.nodup_cons.mpr ⟨h.1, t.originals⟩, List.nodup_cons.mpr ⟨h.2, t.entries⟩⟩
  else .error (.source .reversalExists)

theorem insert_eq_ok {t u : ReversalTable} {r : ReversalRow} (h : t.insert r = .ok u) :
    u.rows = r :: t.rows ∧ r.originalEntryId ∉ t.reversed := by
  unfold insert at h
  split at h
  · rename_i hfree
    cases h
    exact ⟨rfl, hfree.1⟩
  · cases h

end ReversalTable

/-- The rates of a stated position. -/
inductive OpeningRateSource
  | base | manual
  deriving DecidableEq

def OpeningRateSource.text : OpeningRateSource → String
  | base => "base"
  | manual => "manual"

/-- The columns of `accounting_opening_balance_lines`. -/
structure PositionRow where
  account : AccountRef
  side : DoubleEntry.Side
  baseMinor : ℕ
  baseCurrency : Currency
  txnMinor : ℕ
  txnCurrency : Currency
  rate : ℕ
  rateSource : OpeningRateSource
  rateAt : ℤ
  memo : Option String
  deriving DecidableEq

/-- The CHECKs of `accounting_opening_balance_lines`. -/
structure PositionRow.Checks (p : PositionRow) : Prop where
  systemKey : ∀ k, p.account = .system k → SYSTEM_KEY_RE k = true
  code : ∀ c, p.account = .code c → 1 ≤ c.length ∧ c.length ≤ 64
  baseAmount : 0 < p.baseMinor ∧ p.baseMinor ≤ MAX_MONEY_MINOR
  txnAmount : 0 < p.txnMinor ∧ p.txnMinor ≤ MAX_MONEY_MINOR
  fxRate : 0 < p.rate
  fxShape : (p.txnCurrency = p.baseCurrency ∧ p.rate = RATE_SCALE ∧ p.txnMinor = p.baseMinor ∧
      p.rateSource = .base) ∨ (p.txnCurrency ≠ p.baseCurrency ∧ p.rateSource = .manual)
  memoLength : ∀ m, p.memo = some m → 1 ≤ m.length ∧ m.length ≤ 500

/-- A position a merchant stated; the order of the positions is that of their numbers. -/
structure Position extends PositionRow where
  checks : toPositionRow.Checks

/-- What is kept with each status of an opening balance. -/
inductive OpeningStatus
  | draft
  | posted (entryId : Uuid) (postedAt : ℤ)
  | superseded (entryId : Uuid) (postedAt supersededAt : ℤ)

def OpeningStatus.entryId? : OpeningStatus → Option Uuid
  | draft => none
  | posted entryId _ => some entryId
  | superseded entryId _ _ => some entryId

def OpeningStatus.IsPosted : OpeningStatus → Prop
  | posted _ _ => True
  | _ => False

instance : DecidablePred OpeningStatus.IsPosted
  | .draft => isFalse id
  | .posted _ _ => isTrue trivial
  | .superseded _ _ _ => isFalse id

/-- A row of `accounting_opening_balances` with its positions. -/
structure OpeningBalance where
  id : Uuid
  status : OpeningStatus
  asOfDate : PgDate
  actorUserId : Uuid
  positions : List Position

structure OpeningTable where
  rows : List OpeningBalance
  pk : (rows.map OpeningBalance.id).Nodup
  entries : (rows.filterMap fun o => o.status.entryId?).Nodup
  postedOnce : (rows.filter fun o => o.status.IsPosted).length ≤ 1

namespace OpeningTable

def empty : OpeningTable := ⟨[], List.nodup_nil, List.nodup_nil, Nat.zero_le 1⟩

def find? (t : OpeningTable) (id : Uuid) : Option OpeningBalance :=
  t.rows.find? fun o => o.id = id

/-- Rows under the unique constraints. Of `accounting_opening_balances_posted_uq` the violation has
    a name of its own. -/
def ofRows (rows : List OpeningBalance) : Except SourceRefusal OpeningTable :=
  if hposted : (rows.filter fun o => o.status.IsPosted).length ≤ 1 then
    if h : (rows.map OpeningBalance.id).Nodup ∧
        (rows.filterMap fun o => o.status.entryId?).Nodup then .ok ⟨rows, h.1, h.2, hposted⟩
    else .error (.ledger (.database "23505"))
  else .error (.source .openingBalanceExists)

theorem rows_of_ofRows {rows : List OpeningBalance} {t : OpeningTable} (h : ofRows rows = .ok t) :
    t.rows = rows := by
  unfold ofRows at h
  split at h
  · split at h
    · cases h
      rfl
    · cases h
  · cases h

end OpeningTable

/-! ## 5. The ledger with its sources -/

structure SourceLedger where
  ledger : Ledger
  adjustments : List ManualAdjustment
  reversals : ReversalTable
  openings : OpeningTable

/-- The deferred triggers of the native sources, of one new entry. -/
def entryComplete (db : SourceLedger) (e : PostedEntry) : Except SourceRefusal Unit := do
  refuseIf (e.source.sourceType = "reversal" ∧
    ∀ r ∈ db.reversals.rows, r.journalEntryId ≠ e.id) (.source .reversalDetailMissing)
  refuseIf (e.source.sourceType = "manual_adjustment" ∧
    ∀ a ∈ db.adjustments, a.id ≠ e.source.sourceId) (.source .adjustmentDetailMissing)
  refuseIf (e.source.sourceType = "opening_balance" ∧
    ∀ o ∈ db.openings.rows, o.status.entryId? ≠ some e.id) (.source .openingBalanceDetailMissing)

end Daftar.Accounting
