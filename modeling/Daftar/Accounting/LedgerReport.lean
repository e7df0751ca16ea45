/-
  File: Daftar/Accounting/LedgerReport.lean
  Subject: One page of the general ledger of an account.

  * `ledger` is the report: an opening figure and a page, from two statements of their own, and the
    running balance the page is folded with. `ledgerRequest` decodes the cursor it is asked with.
  * `ledger_eq_ok` says what it answers as plain functions of the account's lines.
-/

import Daftar.Accounting.LedgerCursor
import Daftar.Accounting.PostEntry
import Daftar.Accounting.Reconciliation
import Daftar.Library.KeysetPages
import Mathlib.Data.Prod.Lex
import Mathlib.Data.String.Basic

namespace Daftar.Accounting.Reports

open AsciiText
open CivilDate
open Fallible
open Inventory.Payload (CANONICAL_UUID_RE)
open KeysetPages
open Reconciliation (JsNumber)

/-! ## 1. What the statements read -/

/-- The tables of one business as a report sees them. The numbers of an entry's lines are distinct
    positive integers of four bytes. -/
structure ReportDb where
  baseCurrency : Option Currency
  accounts : AccountTable
  journal : Journal
  lineNumbers : ∀ e ∈ journal.entries, (e.lines.map fun l => l.lineNo).Nodup ∧
    ∀ l ∈ e.lines, 0 < l.lineNo ∧ l.lineNo ≤ 2147483647

/-- A line joined with its entry. -/
structure LedgerLine where
  entry : PostedEntry
  line : JournalLine

/-- An ordering tuple: entry date, entry and line number. A uuid has the order of its text. -/
abbrev LedgerKey := ℤ ×ₗ String ×ₗ ℕ

def LedgerLine.key (x : LedgerLine) : LedgerKey :=
  toLex (x.entry.entryDate, toLex (x.entry.id.text, x.line.lineNo))

inductive ReportBranchScope
  | all (branchId : Option Uuid)
  | assigned (branchIds : List Uuid)

/-- A line of no branch is in no comparison with one. -/
def branchPredicate : ReportBranchScope → LedgerLine → Bool
  | .all none, _ => true
  | .all (some branchId), x => x.line.branchId = some branchId
  | .assigned branchIds, x => x.line.branchId.any fun b => b ∈ branchIds

/-- The dates of a range are day numbers; the DTO has read them from their texts. -/
structure LedgerQuery where
  accountId : Uuid
  dateFrom : ℤ
  dateTo : ℤ
  branch : ReportBranchScope
  limit : JsNumber
  cursor : Option LedgerCursor

def joinedLines (db : ReportDb) : List LedgerLine :=
  db.journal.entries.flatMap fun e => e.lines.map (LedgerLine.mk e)

/-- The lines both statements of a report start from. -/
def accountLines (db : ReportDb) (q : LedgerQuery) : List LedgerLine :=
  (joinedLines db).filter fun x => x.line.accountId = q.accountId && branchPredicate q.branch x

/-- `$::date`, `$::uuid` and `$::int` of a cursor the API has decoded. -/
def castCursor (c : LedgerCursor) : Except ReportFailure LedgerKey := do
  let date ← castDate c.entryDate
  refuseIf (CANONICAL_UUID_RE c.entryId = false) (.database "22P02")
  refuseIf (2147483647 < c.lineNo) (.database "22003")
  pure (toLex (date, toLex (c.entryId, c.lineNo)))

def castCursor? : Option LedgerCursor → Except ReportFailure (Option LedgerKey)
  | none => .ok none
  | some c => some <$> castCursor c

/-- The condition of the opening figure. -/
def opens (dateFrom : ℤ) : Option LedgerKey → LedgerLine → Bool
  | none, x => x.entry.entryDate < dateFrom
  | some c, x => x.entry.entryDate < dateFrom || (dateFrom ≤ x.entry.entryDate && x.key ≤ c)

/-- The condition of a page, but for the account and the branch. -/
def pages (dateFrom dateTo : ℤ) (cursor : Option LedgerKey) (x : LedgerLine) : Bool :=
  dateFrom ≤ x.entry.entryDate && x.entry.entryDate ≤ dateTo &&
    match cursor with
    | none => true
    | some c => c < x.key

structure RawTotals where
  debit : String
  credit : String

def debitSum (lines : List LedgerLine) : ℤ := (lines.map fun x => (x.line.debitMinor : ℤ)).sum

def creditSum (lines : List LedgerLine) : ℤ := (lines.map fun x => (x.line.creditMinor : ℤ)).sum

def ledgerOpening (db : ReportDb) (q : LedgerQuery) : Except ReportFailure RawTotals := do
  let cursor ← castCursor? q.cursor
  let lines := (accountLines db q).filter (opens q.dateFrom cursor)
  pure ⟨toString (debitSum lines), toString (creditSum lines)⟩

/-- A row of the page statement, its amounts as text. What is rendered as it was posted, the
    currencies, the rate, branch, warehouse and memo, is in `posted`. -/
structure RawLedgerRow where
  entryId : String
  entryDate : String
  lineNo : ℕ
  source : PostingSource
  description : Option String
  debit : String
  credit : String
  baseAmountMinor : String
  txnAmountMinor : String
  posted : LineRow

def toLedgerRow (x : LedgerLine) : RawLedgerRow where
  entryId := x.entry.id.text
  entryDate := isoDate x.entry.entryDate
  lineNo := x.line.lineNo
  source := x.entry.source
  description := x.entry.description
  debit := toString (x.line.debitMinor : ℤ)
  credit := toString (x.line.creditMinor : ℤ)
  baseAmountMinor := toString (x.line.baseMinor : ℤ)
  txnAmountMinor := toString (x.line.txnMinor : ℤ)
  posted := x.line.toLineRow

def ledgerPage (db : ReportDb) (q : LedgerQuery) (limit : ℕ) :
    Except ReportFailure (List RawLedgerRow) := do
  let cursor ← castCursor? q.cursor
  let lines := (accountLines db q).filter (pages q.dateFrom q.dateTo cursor)
  pure (((ordered LedgerLine.key lines).take limit).map toLedgerRow)

/-! ## 2. The report -/

inductive NormalBalance
  | debit | credit
  deriving DecidableEq, Repr

def normalBalanceOf : AccountType → NormalBalance
  | .asset => .debit
  | .expense => .debit
  | _ => .credit

def presentationNet (type : AccountType) (debitMinor creditMinor : ℤ) : ℤ :=
  if normalBalanceOf type = .debit then debitMinor - creditMinor else creditMinor - debitMinor

/-- `/^-?\d+$/` -/
def EXACT_MINOR_RE : List Char → Bool
  | '-' :: cs => cs ≠ [] && cs.all Char.isDigit
  | cs => cs ≠ [] && cs.all Char.isDigit

def exactMinor (value what : String) : Canonical ℤ := do
  refuseIf (EXACT_MINOR_RE value.toList = false)
    ⟨.reportAmountInvalid, "a financial " ++ what ++ " must be an exact integer of minor units"⟩
  pure (readDecimal value.toList)

def MAX_PAGE_SIZE : ℕ := 200

def DEFAULT_PAGE_SIZE : ℕ := 50

def boundPage (limit : JsNumber) : ℕ :=
  match limit with
  | .finite q => if q.den ≠ 1 ∨ q < 1 then DEFAULT_PAGE_SIZE else min q.num.toNat MAX_PAGE_SIZE
  | _ => DEFAULT_PAGE_SIZE

structure LedgerRow where
  entryId : String
  entryDate : String
  lineNo : ℕ
  source : PostingSource
  description : Option String
  debitMinor : ℤ
  creditMinor : ℤ
  baseAmountMinor : ℤ
  txnAmountMinor : ℤ
  posted : LineRow
  runningMinor : ℤ
  deriving DecidableEq

structure LedgerReport where
  account : Account
  dateFrom : ℤ
  dateTo : ℤ
  baseCurrency : Currency
  openingMinor : ℤ
  rows : List LedgerRow
  closingMinor : ℤ
  nextCursor : Option String

/-- One row, with the balance after it. -/
def ledgerRow (type : AccountType) (running : ℤ) (r : RawLedgerRow) : Canonical LedgerRow := do
  let debit ← exactMinor r.debit "debit"
  let credit ← exactMinor r.credit "credit"
  let baseAmount ← exactMinor r.baseAmountMinor "base amount"
  let txnAmount ← exactMinor r.txnAmountMinor "transaction amount"
  pure ⟨r.entryId, r.entryDate, r.lineNo, r.source, r.description, debit, credit, baseAmount,
    txnAmount, r.posted, running + presentationNet type debit credit⟩

/-- The rows of a page and the balance after the last one. -/
def ledgerRows (type : AccountType) : ℤ → List RawLedgerRow → Canonical (List LedgerRow × ℤ)
  | running, [] => pure ([], running)
  | running, r :: rs => do
      let row ← ledgerRow type running r
      let rest ← ledgerRows type row.runningMinor rs
      pure (row :: rest.1, rest.2)

def requireBaseCurrency (db : ReportDb) : Canonical Currency :=
  someOr db.baseCurrency
    ⟨.reportScopeInvalid, "the business does not exist or is not visible to this caller"⟩

def nextCursorOf (limit fetched : ℕ) (rows : List LedgerRow) : Option String :=
  if limit < fetched then
    rows.getLast?.map fun last => encodeLedgerCursor ⟨last.entryDate, last.entryId, last.lineNo⟩
  else none

def ledger (db : ReportDb) (q : LedgerQuery) : Except ReportFailure LedgerReport := do
  refuseIf (q.dateTo < q.dateFrom)
    (.refused ⟨.reportRangeInvalid, "a ledger range ends on or after it starts"⟩)
  let baseCurrency ← (requireBaseCurrency db).mapError .refused
  let account ← someOr (db.accounts.find? q.accountId)
    (.refused ⟨.accountNotFound, "no such account in this business"⟩)
  let limit := boundPage q.limit
  let opening ← ledgerOpening db q
  let page ← ledgerPage db q (limit + 1)
  let debit ← (exactMinor opening.debit "opening debit").mapError .refused
  let credit ← (exactMinor opening.credit "opening credit").mapError .refused
  let openingMinor := presentationNet account.type debit credit
  let folded ← (ledgerRows account.type openingMinor (page.take limit)).mapError .refused
  pure ⟨account, q.dateFrom, q.dateTo, baseCurrency, openingMinor, folded.1, folded.2,
    nextCursorOf limit page.length folded.1⟩

/-- A request as it comes in: its cursor is a text, decoded first. -/
def ledgerRequest (db : ReportDb) (q : LedgerQuery) (raw : Option String) :
    Except ReportFailure LedgerReport := do
  let cursor ← match raw with
    | none => pure none
    | some text => some <$> (decodeLedgerCursor text).mapError .refused
  ledger db { q with cursor := cursor }

/-! ## 3. What it answers -/

section Answer

variable {type : AccountType} {lines : List LedgerLine} {db : ReportDb} {q : LedgerQuery}
  {report : LedgerReport}

/-- The balance of some lines, in the account's normal direction. -/
def net (type : AccountType) (lines : List LedgerLine) : ℤ :=
  presentationNet type (debitSum lines) (creditSum lines)

theorem presentationNet_add (a b c d : ℤ) :
    presentationNet type (a + b) (c + d) = presentationNet type a c + presentationNet type b d := by
  unfold presentationNet
  split <;> ring

theorem net_append (xs ys : List LedgerLine) : net type (xs ++ ys) = net type xs + net type ys := by
  unfold net debitSum creditSum
  rw [List.map_append, List.map_append, List.sum_append, List.sum_append, presentationNet_add]

theorem net_nil : net type [] = 0 := by
  show presentationNet type 0 0 = 0
  unfold presentationNet
  split <;> rfl

theorem net_singleton (x : LedgerLine) :
    net type [x] = presentationNet type x.line.debitMinor x.line.creditMinor := by
  unfold net debitSum creditSum
  rw [List.map_singleton, List.map_singleton, List.sum_singleton, List.sum_singleton]

theorem net_perm {xs ys : List LedgerLine} (h : xs.Perm ys) : net type xs = net type ys := by
  unfold net debitSum creditSum
  rw [(h.map _).sum_eq, (h.map _).sum_eq]

/-- The row of a line with a balance behind it. -/
def rowOf (x : LedgerLine) (running : ℤ) : LedgerRow :=
  ⟨x.entry.id.text, isoDate x.entry.entryDate, x.line.lineNo, x.entry.source, x.entry.description,
    x.line.debitMinor, x.line.creditMinor, x.line.baseMinor, x.line.txnMinor, x.line.toLineRow,
    running⟩

/-- The rows of lines that go on from a balance. -/
def rowsFrom (type : AccountType) : ℤ → List LedgerLine → List LedgerRow
  | _, [] => []
  | running, x :: xs =>
      rowOf x (running + net type [x]) :: rowsFrom type (running + net type [x]) xs

theorem rowsFrom_append (running : ℤ) (xs ys : List LedgerLine) : rowsFrom type running (xs ++ ys) =
    rowsFrom type running xs ++ rowsFrom type (running + net type xs) ys := by
  induction xs generalizing running with
  | nil => rw [net_nil, add_zero]; rfl
  | cons x xs ih =>
      have hcons : net type (x :: xs) = net type [x] + net type xs := net_append [x] xs
      rw [List.cons_append, rowsFrom, rowsFrom, ih, hcons, add_assoc, List.cons_append]

theorem rowsFrom_eq_nil {running : ℤ} : rowsFrom type running lines = [] ↔ lines = [] := by
  cases lines with
  | nil => exact ⟨fun _ => rfl, fun _ => rfl⟩
  | cons x xs => exact ⟨nofun, nofun⟩

theorem exactMinorRe_digits {cs : List Char} (hne : cs ≠ []) (h : ∀ c ∈ cs, c.isDigit = true) :
    EXACT_MINOR_RE cs = true := by
  cases cs with
  | nil => exact absurd rfl hne
  | cons c cs =>
      have hall : (c :: cs).all Char.isDigit = true := List.all_eq_true.mpr h
      unfold EXACT_MINOR_RE
      split
      · -- A digit is not a sign.
        rename_i heq
        rw [(List.cons.inj heq).1] at h
        exact absurd (h '-' List.mem_cons_self) (by decide)
      · rw [hall]
        rfl

/-- **A sum comes back from its text.** -/
theorem exactMinor_toString (n : ℤ) (what : String) : exactMinor (toString n) what = .ok n := by
  have hdigits : ∀ m, ∀ c ∈ Nat.toDigits 10 m, c.isDigit = true := fun m c hc =>
    Nat.isDigit_of_mem_toDigits (by decide) (by decide) hc
  have hre : EXACT_MINOR_RE (toString n).toList = true := by
    cases n with
    | ofNat m =>
        rw [show Int.ofNat m = (m : ℤ) from rfl, toList_toString_natCast]
        exact exactMinorRe_digits Nat.toDigits_ne_nil (hdigits m)
    | negSucc m =>
        rw [toList_toString_negSucc]
        simp only [EXACT_MINOR_RE, Bool.and_eq_true, decide_eq_true_eq, List.all_eq_true]
        exact ⟨Nat.toDigits_ne_nil, hdigits _⟩
  unfold exactMinor
  rw [refuseIf_of_not (by rw [hre]; decide), ok_bind, readDecimal_toString]
  rfl

theorem ledgerRow_toLedgerRow (running : ℤ) (x : LedgerLine) :
    ledgerRow type running (toLedgerRow x) = .ok (rowOf x (running + net type [x])) := by
  unfold ledgerRow toLedgerRow
  simp only [exactMinor_toString, ok_bind, net_singleton]
  rfl

/-- **A page is folded without a refusal**, whatever its lines. -/
theorem ledgerRows_toLedgerRow (running : ℤ) (lines : List LedgerLine) :
    ledgerRows type running (lines.map toLedgerRow) =
      .ok (rowsFrom type running lines, running + net type lines) := by
  induction lines generalizing running with
  | nil => rw [net_nil, add_zero]; rfl
  | cons x xs ih =>
      have hcons : net type (x :: xs) = net type [x] + net type xs := net_append [x] xs
      rw [List.map_cons, ledgerRows, ledgerRow_toLedgerRow, ok_bind]
      simp only [rowOf]
      rw [ih, ok_bind, hcons, ← add_assoc]
      rfl

/-- The cursor that resumes behind a line. -/
def LedgerLine.cursor (x : LedgerLine) : LedgerCursor :=
  ⟨isoDate x.entry.entryDate, x.entry.id.text, x.line.lineNo⟩

theorem getLast?_rowsFrom (running : ℤ) (lines : List LedgerLine) :
    (rowsFrom type running lines).getLast?.map
        (fun last => encodeLedgerCursor ⟨last.entryDate, last.entryId, last.lineNo⟩) =
      lines.getLast?.map fun x => encodeLedgerCursor x.cursor := by
  induction lines generalizing running with
  | nil => rfl
  | cons x xs ih =>
      cases xs with
      | nil => rfl
      | cons y ys =>
          have ih := ih (running + net type [x])
          rw [rowsFrom] at ih ⊢
          rw [rowsFrom, List.getLast?_cons_cons, ih, List.getLast?_cons_cons]

/-- The lines of the opening figure, and those of all pages behind a cursor, in their order. -/
def openingLines (db : ReportDb) (q : LedgerQuery) (cursor : Option LedgerKey) : List LedgerLine :=
  (accountLines db q).filter (opens q.dateFrom cursor)

def pageLines (db : ReportDb) (q : LedgerQuery) (cursor : Option LedgerKey) : List LedgerLine :=
  ordered LedgerLine.key ((accountLines db q).filter (pages q.dateFrom q.dateTo cursor))

/-- The answer as a plain function. -/
def reportOf (db : ReportDb) (q : LedgerQuery) (account : Account) (baseCurrency : Currency)
    (cursor : Option LedgerKey) : LedgerReport where
  account := account
  dateFrom := q.dateFrom
  dateTo := q.dateTo
  baseCurrency := baseCurrency
  openingMinor := net account.type (openingLines db q cursor)
  rows := rowsFrom account.type (net account.type (openingLines db q cursor))
    ((pageLines db q cursor).take (boundPage q.limit))
  closingMinor := net account.type (openingLines db q cursor) +
    net account.type ((pageLines db q cursor).take (boundPage q.limit))
  nextCursor :=
    if (pageLines db q cursor).drop (boundPage q.limit) ≠ [] then
      ((pageLines db q cursor).take (boundPage q.limit)).getLast?.map fun x =>
        encodeLedgerCursor x.cursor
    else none

theorem nextCursorOf_page (running : ℤ) (limit : ℕ) (rows : List LedgerLine) :
    nextCursorOf limit ((rows.take (limit + 1)).map toLedgerRow).length
        (rowsFrom type running (rows.take limit)) =
      if rows.drop limit ≠ [] then
        (rows.take limit).getLast?.map fun x => encodeLedgerCursor x.cursor
      else none := by
  unfold nextCursorOf
  rw [List.length_map, getLast?_rowsFrom]
  exact if_congr lt_length_lookAhead rfl rfl

theorem ledger_of {baseCurrency : Currency} {account : Account} {cursor : Option LedgerKey}
    (hrange : q.dateFrom ≤ q.dateTo) (hbase : db.baseCurrency = some baseCurrency)
    (haccount : db.accounts.find? q.accountId = some account)
    (hcursor : castCursor? q.cursor = .ok cursor) :
    ledger db q = .ok (reportOf db q account baseCurrency cursor) := by
  have hopening : ledgerOpening db q = .ok ⟨toString (debitSum (openingLines db q cursor)),
      toString (creditSum (openingLines db q cursor))⟩ := by
    unfold ledgerOpening
    rw [hcursor]
    rfl
  have hpage : ledgerPage db q (boundPage q.limit + 1) =
      .ok (((pageLines db q cursor).take (boundPage q.limit + 1)).map toLedgerRow) := by
    unfold ledgerPage
    rw [hcursor]
    rfl
  have hvisible : (((pageLines db q cursor).take (boundPage q.limit + 1)).map toLedgerRow).take
      (boundPage q.limit) = ((pageLines db q cursor).take (boundPage q.limit)).map toLedgerRow := by
    rw [← List.map_take, take_lookAhead]
  unfold ledger requireBaseCurrency
  rw [refuseIf_of_not (not_lt.mpr hrange), ok_bind, hbase, haccount, someOr_some, someOr_some]
  simp only [Except.mapError, ok_bind, hopening, hpage, exactMinor_toString, hvisible,
    ledgerRows_toLedgerRow, nextCursorOf_page]
  rfl

/-- **What the report answers**, and when it does. -/
theorem ledger_eq_ok : ledger db q = .ok report ↔ q.dateFrom ≤ q.dateTo ∧
    ∃ baseCurrency account cursor, db.baseCurrency = some baseCurrency ∧
      db.accounts.find? q.accountId = some account ∧ castCursor? q.cursor = .ok cursor ∧
      report = reportOf db q account baseCurrency cursor := by
  constructor
  · intro h
    have hok := h
    simp only [ledger, requireBaseCurrency, ledgerOpening, bind_eq_ok, refuseIf_eq_ok, exists_const,
      mapError_eq_ok, someOr_eq_ok, not_lt] at h
    obtain ⟨hrange, baseCurrency, hbase, account, haccount, _, ⟨cursor, hcursor, _⟩, _⟩ := h
    rw [ledger_of hrange hbase haccount hcursor] at hok
    exact ⟨hrange, baseCurrency, account, cursor, hbase, haccount, hcursor, (Except.ok.inj hok).symm⟩
  · rintro ⟨hrange, baseCurrency, account, cursor, hbase, haccount, hcursor, rfl⟩
    exact ledger_of hrange hbase haccount hcursor

end Answer

end Daftar.Accounting.Reports
