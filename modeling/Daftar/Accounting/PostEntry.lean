/-
  File: Daftar/Accounting/PostEntry.lean
  Subject: The ledger of one business and `accounting_post_entry`.

  * A `PostedEntry` is a row of `journal_entries` with its lines, a `JournalLine` a row of
    `journal_lines` under its CHECKs. Neither is ever updated or deleted.
  * `preparePosting` are the steps up to the signed fingerprint, which decide the canonical facts.
    `accountingPostEntry` then answers a posted source from its entry, and writes a new one last.
  * What a call reads besides the ledger (the clock, a fresh id, the reference rows, the verdict of
    the other modules' deferred triggers) is its `PostingMoment`.
-/

import Daftar.Accounting.Chart
import Daftar.Accounting.PeriodReplay
import Daftar.Accounting.PostingLines
import Daftar.Library.NearestEven

namespace Daftar.Accounting

open Fallible
open Rounding

/-! ## 1. The journal -/

def MAX_MONEY_MINOR : ℕ := 1000000000000000000

/-- The columns of `journal_lines`. -/
structure LineRow where
  lineNo : ℕ
  accountId : Uuid
  debitMinor : ℕ
  creditMinor : ℕ
  baseMinor : ℕ
  baseCurrency : Currency
  txnCurrency : Currency
  txnMinor : ℕ
  rate : ℕ
  rateSource : String
  rateAt : ℤ
  branchId : Option Uuid
  warehouseId : Option Uuid
  memo : Option String
  deriving DecidableEq

/-- `journal_lines_fx_shape_ck`: a domestic line, or a foreign one with a source for its rate. -/
def LineRow.FxShape (r : LineRow) : Prop :=
  (r.txnCurrency = r.baseCurrency ∧ r.rate = RATE_SCALE ∧ r.txnMinor = r.baseMinor ∧
    r.rateSource = "base") ∨
  (r.txnCurrency ≠ r.baseCurrency ∧ 0 < r.rate ∧ r.rateSource ∈ ["manual", "provider"])

/-- The CHECKs of `journal_lines`. -/
structure LineRow.Checks (r : LineRow) : Prop where
  oneSide : (0 < r.debitMinor ∧ r.creditMinor = 0) ∨ (r.debitMinor = 0 ∧ 0 < r.creditMinor)
  baseAmount : r.baseMinor = max r.debitMinor r.creditMinor
  moneyCap : 0 < r.baseMinor ∧ r.baseMinor ≤ MAX_MONEY_MINOR
  txnAmount : 0 < r.txnMinor ∧ r.txnMinor ≤ MAX_MONEY_MINOR
  fxRate : 0 < r.rate
  fxShape : r.FxShape
  memoLength : ∀ m, r.memo = some m → 1 ≤ m.length ∧ m.length ≤ 500

instance (r : LineRow) : Decidable r.FxShape := inferInstanceAs (Decidable (_ ∨ _))

instance (r : LineRow) : Decidable r.Checks :=
  decidable_of_iff
    (((0 < r.debitMinor ∧ r.creditMinor = 0) ∨ (r.debitMinor = 0 ∧ 0 < r.creditMinor)) ∧
      r.baseMinor = max r.debitMinor r.creditMinor ∧
      (0 < r.baseMinor ∧ r.baseMinor ≤ MAX_MONEY_MINOR) ∧
      (0 < r.txnMinor ∧ r.txnMinor ≤ MAX_MONEY_MINOR) ∧ 0 < r.rate ∧ r.FxShape ∧
      ∀ m ∈ r.memo, 1 ≤ m.length ∧ m.length ≤ 500)
    ⟨fun ⟨h1, h2, h3, h4, h5, h6, h7⟩ => ⟨h1, h2, h3, h4, h5, h6, h7⟩,
      fun ⟨h1, h2, h3, h4, h5, h6, h7⟩ => ⟨h1, h2, h3, h4, h5, h6, h7⟩⟩

structure JournalLine extends LineRow where
  checks : toLineRow.Checks

structure PostedEntry where
  id : Uuid
  source : PostingSource
  entryDate : ℤ
  description : Option String
  actorUserId : Uuid
  requestId : Option String
  postingFingerprint : String
  lines : List JournalLine

/-- `journal_entries` under its unique constraints, with the lines; each entry's binding is its
    own source. -/
structure Journal where
  entries : List PostedEntry
  pk : (entries.map PostedEntry.id).Nodup
  sources : (entries.map PostedEntry.source).Nodup

namespace Journal

def empty : Journal := ⟨[], List.nodup_nil, List.nodup_nil⟩

def bySource (j : Journal) (source : PostingSource) : Option PostedEntry :=
  j.entries.find? fun e => e.source = source

def byId (j : Journal) (id : Uuid) : Option PostedEntry := j.entries.find? fun e => e.id = id

def insert (j : Journal) (e : PostedEntry) : Except Refusal Journal :=
  if h : e.id ∉ j.entries.map PostedEntry.id ∧ e.source ∉ j.entries.map PostedEntry.source then
    .ok ⟨e :: j.entries, List.nodup_cons.mpr ⟨h.1, j.pk⟩, List.nodup_cons.mpr ⟨h.2, j.sources⟩⟩
  else .error (.database "23505")

/-- The accounts with posted lines. -/
def usedAccounts (j : Journal) : List Uuid :=
  j.entries.flatMap fun e => e.lines.map fun l => l.accountId

end Journal

/-- What the routes of one business's ledger read and write. -/
structure Ledger where
  store : PeriodStore
  baseCurrency : Currency
  timezone : String
  financialStartedAt : Option ℤ
  accounts : AccountTable
  journal : Journal

/-! ## 2. A call -/

inductive LowerBoundPolicy
  | unbounded | notBeforeOrigin
  deriving DecidableEq

/-- The rows of `accounting_source_types`. -/
def SOURCE_TYPES : List (String × LowerBoundPolicy) :=
  [ ("opening_balance", .unbounded), ("manual_adjustment", .unbounded),
    ("reversal", .notBeforeOrigin), ("inventory_adjustment", .unbounded),
    ("inventory_opening", .unbounded), ("purchase", .unbounded),
    ("negative_inventory_cost_adjustment", .unbounded), ("supplier_return", .unbounded),
    ("supplier_payment", .unbounded), ("supplier_credit_allocation", .unbounded),
    ("supplier_refund", .unbounded), ("purchase_residue_write_off", .unbounded),
    ("sale", .unbounded), ("invoice", .unbounded), ("customer_payment_allocation", .unbounded),
    ("customer_credit_application", .unbounded), ("customer_credit", .unbounded) ]

def lowerBoundPolicy? (sourceType : String) : Option LowerBoundPolicy :=
  (SOURCE_TYPES.find? fun t => t.1 = sourceType).map Prod.snd

/-- The verified claims of a posting assertion. -/
structure PostingActor where
  actorUserId : Uuid
  operationKind : String
  source : PostingSource
  postingFingerprint : String

structure PostingCommand where
  actor : PostingActor
  entryDate : Option PgDate
  description : Option String
  requestId : Option String
  lines : Option Jsonb

/-- What the database supplies at the moment of a call. -/
structure PostingMoment where
  now : ℤ
  /-- The civil date of an instant in a timezone. -/
  civilDate : String → ℤ → ℤ
  entryId : Uuid
  users : List Uuid
  branches : List Uuid
  warehouses : List Uuid
  /-- What the deferred triggers of the sources' own modules answer at the commit. -/
  deferred : Except Refusal Unit

structure PostingResult where
  entryId : Uuid
  created : Bool
  deriving DecidableEq

/-! ## 3. Up to the signed fingerprint -/

/-- A line with the account it resolved to. -/
structure PostingLine where
  fields : PostingFields
  account : Option Account

/-- The account an element names, whether active or not. -/
def namedAccount (accounts : AccountTable) (e : Jsonb) : Option Account :=
  accounts.rows.find? fun a =>
    (accountText e "kind" = some "system" ∧ a.systemKey ≠ none ∧
      a.systemKey = accountText e "system_key") ∨
    (accountText e "kind" = some "code" ∧ some a.code = accountText e "code")

def resolveLine (accounts : AccountTable) (e : Jsonb) : Except Refusal PostingLine := do
  let fields ← postingFields e
  pure ⟨fields, namedAccount accounts e⟩

/-- `identity NOT LIKE 'code:%'`. -/
def notLikeCode (identity : Option String) : Bool := fails (fun t => t.startsWith "code:") identity

def requireAccounts (lines : List PostingLine) : Except Refusal Unit := do
  refuseIf (∃ l ∈ lines, l.account = none ∧ notLikeCode l.fields.identity = true)
    (.accounting .systemAccountMissing)
  refuseIf (∃ l ∈ lines, l.account = none) (.accounting .accountNotFound)

/-- No line has another base currency than the business. -/
def requireBaseCurrency (base : Currency) (lines : List PostingLine) : Except Refusal Unit :=
  refuseIf (∃ l ∈ lines, fails (· == base.code) l.fields.baseCurrency = true)
    (.accounting .entryBaseCurrencyMismatch)

structure PreparedPosting where
  lines : List PostingLine
  fingerprint : Option String

/-- The assertion's authority over this business. -/
def accountingActor (store : PeriodStore) (actor : PostingActor) : Except Refusal Unit := do
  refuseIf (actor.operationKind ≠ "post") (.accounting .assertionWrongOperation)
  refuseIf (actor.source.businessId ≠ store.businessId) (.accounting .forbidden)
  refuseIf (store.tenantId ≠ actor.source.tenantId) (.accounting .forbidden)

/-- The steps that decide the canonical bytes, and the comparison with what was signed. A NULL
    fingerprint differs from nothing. -/
def preparePosting (db : Ledger) (c : PostingCommand) : Except Refusal PreparedPosting := do
  accountingActor db.store c.actor
  let elements ← checkPayload c.lines
  let lines ← elements.mapM (resolveLine db.accounts)
  requireAccounts lines
  requireBaseCurrency db.baseCurrency lines
  let fingerprint := accountingFingerprint c.actor.source c.entryDate
    (lines.map fun l => accountingCanonicalLine l.fields)
  refuseIf (fails (· == c.actor.postingFingerprint) fingerprint = true)
    (.accounting .assertionPayloadMismatch)
  pure ⟨lines, fingerprint⟩

/-! ## 4. New entries -/

/-- A comparison of the entry date is true; of a NULL date it is not. -/
def dateHolds (test : PgDate → Bool) : Option PgDate → Bool
  | some date => test date
  | none => false

/-- A reversal may not precede the entry it reverses, where there is one. -/
def requireOrigin (j : Journal) (c : PostingCommand) (policy : LowerBoundPolicy) :
    Except Refusal Unit :=
  match policy, j.byId c.actor.source.sourceId with
  | .notBeforeOrigin, some origin =>
    refuseIf (dateHolds (fun date => date.Before origin.entryDate) c.entryDate = true)
      (.accounting .entryDateBeforeOriginal)
  | _, _ => pure ()

/-- The rules that only new truth must meet. -/
def requireNewTruth (m : PostingMoment) (db : Ledger) (c : PostingCommand)
    (lines : List PostingLine) : Except Refusal Unit := do
  refuseIf (∃ l ∈ lines, l.account.map Account.isActive = some false) (.accounting .accountInactive)
  match lowerBoundPolicy? c.actor.source.sourceType with
  | none => .error (.accounting .payloadInvalid)
  | some policy => do
    let today := m.civilDate db.timezone m.now
    refuseIf (dateHolds (fun date => date.After today) c.entryDate = true)
      (.accounting .entryDateInFuture)
    requireOrigin db.journal c policy

def lengthCheck (text : Option String) (limit : ℕ) : Except Refusal Unit :=
  match text with
  | some t => refuseIf (t.length < 1 ∨ limit < t.length) (.database "23514")
  | none => pure ()

/-- The row of an entry, past the triggers before its insert and the constraints of its columns,
    its lines still to come. Of a NULL date the period guard finds no period; without a
    fingerprint there is no row. -/
def entryRow (m : PostingMoment) (db : Ledger) (c : PostingCommand) (fingerprint : Option String) :
    Except Refusal PostedEntry :=
  match c.entryDate with
  | none =>
    .error (if db.store.periods.minStart? = none then .database "23502"
      else .accounting .periodMissingForDate)
  | some date => do
    refuseIf (date.After (m.civilDate db.timezone m.now)) (.accounting .entryDateInFuture)
    guardPosting db.store.periods c.actor.source.sourceType date
    match date, fingerprint with
    | .day d, some fp => do
      lengthCheck c.description 500
      lengthCheck c.requestId 120
      refuseIf (c.actor.actorUserId ∉ m.users) (.database "23503")
      pure ⟨m.entryId, c.actor.source, d, c.description, c.actor.actorUserId, c.requestId, fp, []⟩
    | _, _ => .error (.database "23502")

/-- A foreign key that may be NULL. -/
def dimensionKey (rows : List Uuid) (id : Option Uuid) : Except Refusal Unit :=
  match id with
  | some u => refuseIf (u ∉ rows) (.database "23503")
  | none => pure ()

def currencyKey (code : String) : Except Refusal Currency :=
  match currency? code with
  | some c => .ok c
  | none => .error (.database "23503")

/-- The columns of a line with an account, none of them NULL. -/
def lineRow (lineNo : ℕ) (f : LineFacts) (accountId : Uuid) (base txn : Currency)
    (memo : Option String) : LineRow where
  lineNo := lineNo
  accountId := accountId
  debitMinor := if f.side = "D" then f.baseMinor else 0
  creditMinor := if f.side = "C" then f.baseMinor else 0
  baseMinor := f.baseMinor
  baseCurrency := base
  txnCurrency := txn
  txnMinor := f.txnMinor
  rate := f.rate
  rateSource := f.rateSource
  rateAt := f.rateAt
  branchId := f.branchId
  warehouseId := f.warehouseId
  memo := memo

/-- A line inserted. A side is the only field whose NULL leaves every column with a value: both
    amounts are then zero. -/
def journalLine (m : PostingMoment) (lineNo : ℕ) (l : PostingLine) : Except Refusal JournalLine :=
  match l.fields.facts?, l.account with
  | some f, some a => do
    let base ← currencyKey f.baseCurrency
    let txn ← currencyKey f.txnCurrency
    dimensionKey m.branches f.branchId
    dimensionKey m.warehouses f.warehouseId
    let row := lineRow lineNo f a.id base txn l.fields.memo
    if h : row.Checks then .ok ⟨row, h⟩ else .error (.database "23514")
  | _, _ =>
    .error (.database (if { l.fields with side := some "D" }.facts? = none then "23502" else "23514"))

/-- Lines are numbered from one in the order of the payload. -/
def journalLines (m : PostingMoment) (lines : List PostingLine) : Except Refusal (List JournalLine) :=
  lines.zipIdx.mapM fun l => journalLine m (l.2 + 1) l.1

/-! ## 5. The commit -/

/-- `base_minor = HALF_EVEN(txn_minor * rate * 10^(eb - et))`, in whole numbers. -/
def LineRow.FxArithmetic (r : LineRow) : Prop :=
  (r.baseMinor : ℤ) = nearestEven
    (r.txnMinor * r.rate * 10 ^ (r.baseCurrency.minorUnits - r.txnCurrency.minorUnits))
    (RATE_SCALE * 10 ^ (r.txnCurrency.minorUnits - r.baseCurrency.minorUnits))

instance (r : LineRow) : Decidable r.FxArithmetic := inferInstanceAs (Decidable (_ = _))

/-- `accounting_assert_entry_valid`. -/
def accountingAssertEntryValid (db : Ledger) (e : PostedEntry) : Except Refusal Unit := do
  refuseIf (e.lines.length < 2) (.accounting .entryTooFewLines)
  refuseIf (∃ l ∈ e.lines, l.baseCurrency ≠ db.baseCurrency) (.accounting .entryBaseCurrencyMismatch)
  let debit : ℕ := (e.lines.map fun l => l.debitMinor).sum
  let credit : ℕ := (e.lines.map fun l => l.creditMinor).sum
  refuseIf (debit = 0) (.accounting .entryUnbalanced)
  refuseIf (debit ≠ credit) (.accounting .entryUnbalanced)
  refuseIf (∃ l ∈ e.lines, ¬ l.FxArithmetic) (.accounting .entryFxArithmetic)

/-- A new entry with its lines, and the first financial activity. -/
def createEntry (m : PostingMoment) (db : Ledger) (c : PostingCommand) (p : PreparedPosting) :
    Except Refusal (Ledger × PostingResult) := do
  requireNewTruth m db c p.lines
  let row ← entryRow m db c p.fingerprint
  let lines ← journalLines m p.lines
  let entry := { row with lines := lines }
  let journal ← db.journal.insert entry
  accountingAssertEntryValid db entry
  m.deferred
  let started := db.financialStartedAt.or (some m.now)
  pure ({ db with journal := journal, financialStartedAt := started }, ⟨entry.id, true⟩)

/-- `accounting_post_entry`, up to the commit of its transaction. -/
def accountingPostEntry (m : PostingMoment) (db : Ledger) (c : PostingCommand) :
    Except Refusal (Ledger × PostingResult) := do
  let p ← preparePosting db c
  match db.journal.bySource c.actor.source with
  | some e =>
    if some e.postingFingerprint = p.fingerprint then pure (db, ⟨e.id, false⟩)
    else .error (.accounting .idempotencyConflict)
  | none => createEntry m db c p

/-! ## 6. Histories -/

/-- A call on the ledger: a posting, or one of the routes that change what a posting reads. -/
inductive LedgerCall
  | post (m : PostingMoment) (c : PostingCommand)
  | insertAccount (row : Account)
  | updateAccount (id : Uuid) (row : Account)
  | deleteAccount (id : Uuid)
  | period (c : PeriodCall)
  | setTimezone (timezone : String)
  | setBaseCurrency (currency : Currency)

/-- `businesses_base_currency_lock`. -/
def businessesBaseCurrencyLock (db : Ledger) (currency : Currency) : Except Refusal Unit :=
  refuseIf (currency ≠ db.baseCurrency ∧ db.journal.entries ≠ []) (.accounting .baseCurrencyLocked)

def ledgerCall (db : Ledger) : LedgerCall → Except Refusal (Ledger × Option PostingResult)
  | .post m c => do
    let r ← accountingPostEntry m db c
    pure (r.1, some r.2)
  | .insertAccount row => do
    let accounts ← db.accounts.insert row
    pure ({ db with accounts := accounts }, none)
  | .updateAccount id row => do
    let accounts ← db.accounts.update db.journal.usedAccounts id row
    pure ({ db with accounts := accounts }, none)
  | .deleteAccount id => do
    let accounts ← db.accounts.delete db.journal.usedAccounts id
    pure ({ db with accounts := accounts }, none)
  | .period c => do
    let r ← periodCall db.store c
    pure ({ db with store := r.1 }, none)
  | .setTimezone timezone => pure ({ db with timezone := timezone }, none)
  | .setBaseCurrency currency => do
    businessesBaseCurrencyLock db currency
    pure ({ db with baseCurrency := currency }, none)

end Daftar.Accounting
