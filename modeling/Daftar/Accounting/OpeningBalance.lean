/-
  File: Daftar/Accounting/OpeningBalance.lean
  Subject: The opening balance of a business: draft, posted, superseded.

  * `checkOpeningPayload` is the input schema of the positions, `positionOf` the row of one.
  * `accountingOpenBalanceDraft`, `accountingOpenBalanceEdit` and `accountingOpenBalanceDiscard`
    change drafts. `accountingOpenBalancePost` derives the journal from the stored positions and
    the equity plug, supersedes a reversed predecessor and posts through `accountingPostEntry`.
-/

import Daftar.Accounting.Reversal

namespace Daftar.Accounting

open CivilDate
open DoubleEntry
open Fallible

/-! ## 1. Positions -/

def OPENING_EQUITY : String := "opening_equity"

def POSITION_KEYS : List String :=
  [ "account", "side", "base_amount_minor", "base_currency", "txn_amount_minor", "txn_currency",
    "fx_rate", "fx_rate_source", "fx_rate_at", "memo" ]

/-- The positions counted among those that do not match the schema. -/
def malformedPosition (e : Jsonb) : Bool :=
  fails (· == "string") (e.typeOf "base_amount_minor")
    || fails (· == "string") (e.typeOf "txn_amount_minor")
    || fails (· == "string") (e.typeOf "fx_rate")
    || fails AMOUNT_RE (e.text "base_amount_minor")
    || fails AMOUNT_RE (e.text "txn_amount_minor")
    || fails RATE_RE (e.text "fx_rate")
    || fails (["D", "C"].contains ·) (e.text "side")
    || fails (fun t => CURRENCY_RE t.toList) (e.text "base_currency")
    || fails (fun t => CURRENCY_RE t.toList) (e.text "txn_currency")
    || fails (["base", "manual"].contains ·) (e.text "fx_rate_source")
    || fails INSTANT_RE (e.text "fx_rate_at")
    || fails (· == "object") (e.typeOf "account")
    || fails (["system", "code"].contains ·) (accountText e "kind")
    || (accountText e "kind" == some "system" &&
        !SYSTEM_KEY_RE ((accountText e "system_key").getD ""))
    || (accountText e "kind" == some "code" && (accountText e "code").getD "" == "")
    || fails (["string", "null"].contains ·) (e.typeOf "memo")

/-- The elements of an array of at least one. -/
def positionElements : Option Jsonb → Except Refusal (List Jsonb)
  | some (.array elements) => do
    refuseIf (elements.length < 1) (.accounting .payloadInvalid)
    pure elements
  | _ => .error (.accounting .payloadInvalid)

/-- `accounting_opening_balance_check_payload`. -/
def checkOpeningPayload (lines : Option Jsonb) : Except Refusal (List Jsonb) := do
  let elements ← positionElements lines
  let keys ← elements.mapM objectKeys
  refuseIf (∃ ks ∈ keys, ∃ k ∈ ks, k ∉ POSITION_KEYS) (.accounting .payloadUnknownField)
  refuseIf (∃ e ∈ elements, ∃ k ∈ POSITION_KEYS, e.hasKey k = false)
    (.accounting .payloadMissingField)
  refuseIf (∃ e ∈ elements, malformedPosition e = true) (.accounting .payloadInvalid)
  refuseIf (∃ e ∈ elements, accountText e "kind" = some "system" ∧
    accountText e "system_key" = some OPENING_EQUITY) (.accounting .payloadInvalid)
  pure elements

/-- The account a position names; NULL where the row would have none. -/
def positionAccount (e : Jsonb) : Option AccountRef :=
  match accountText e "kind" with
  | some "system" => (accountText e "system_key").map .system
  | some "code" => (accountText e "code").map .code
  | _ => none

def sideOfText : String → Option Side
  | "D" => some .D
  | "C" => some .C
  | _ => none

def openingRateSource : String → Option OpeningRateSource
  | "base" => some .base
  | "manual" => some .manual
  | _ => none

instance (p : PositionRow) : Decidable p.Checks :=
  decidable_of_iff
    ((∀ k ∈ (match p.account with | .system k => [k] | .code _ => []), SYSTEM_KEY_RE k = true) ∧
      (∀ c ∈ (match p.account with | .system _ => [] | .code c => [c]),
        1 ≤ c.length ∧ c.length ≤ 64) ∧
      (0 < p.baseMinor ∧ p.baseMinor ≤ MAX_MONEY_MINOR) ∧
      (0 < p.txnMinor ∧ p.txnMinor ≤ MAX_MONEY_MINOR) ∧ 0 < p.rate ∧
      ((p.txnCurrency = p.baseCurrency ∧ p.rate = RATE_SCALE ∧ p.txnMinor = p.baseMinor ∧
        p.rateSource = .base) ∨ (p.txnCurrency ≠ p.baseCurrency ∧ p.rateSource = .manual)) ∧
      ∀ m ∈ p.memo, 1 ≤ m.length ∧ m.length ≤ 500)
    (by
      constructor
      · intro h
        obtain ⟨h1, h2, h3, h4, h5, h6, h7⟩ := h
        refine ⟨fun k hk => h1 k ?_, fun c hc => h2 c ?_, h3, h4, h5, h6, h7⟩
        · rw [hk]
          exact List.mem_singleton_self k
        · rw [hc]
          exact List.mem_singleton_self c
      · intro h
        obtain ⟨h1, h2, h3, h4, h5, h6, h7⟩ := h
        refine ⟨fun k hk => h1 k ?_, fun c hc => h2 c ?_, h3, h4, h5, h6, h7⟩
        · cases hacc : p.account with
          | system key =>
              rw [hacc] at hk
              rw [List.mem_singleton.mp hk]
          | code code =>
              rw [hacc] at hk
              exact absurd hk List.not_mem_nil
        · cases hacc : p.account with
          | system key =>
              rw [hacc] at hc
              exact absurd hc List.not_mem_nil
          | code code =>
              rw [hacc] at hc
              rw [List.mem_singleton.mp hc])

/-- The row of a position: the casts, then the NOT NULLs, then keys and CHECKs. -/
def positionOf (e : Jsonb) : Except Refusal Position := do
  let baseMinor ← castText bigint (e.text "base_amount_minor")
  let txnMinor ← castText bigint (e.text "txn_amount_minor")
  let rate ← castText numericRate (e.text "fx_rate")
  let rateAt ← castText timestamptz (e.text "fx_rate_at")
  let account ← someOr (positionAccount e) (.database "23502")
  let side ← someOr ((e.text "side").bind sideOfText) (.database "23502")
  let baseMinor ← someOr baseMinor (.database "23502")
  let baseCurrency ← someOr ((e.text "base_currency").map upper) (.database "23502")
  let txnMinor ← someOr txnMinor (.database "23502")
  let txnCurrency ← someOr ((e.text "txn_currency").map upper) (.database "23502")
  let rate ← someOr rate (.database "23502")
  let rateSource ← someOr ((e.text "fx_rate_source").bind openingRateSource) (.database "23502")
  let rateAt ← someOr rateAt (.database "23502")
  let base ← currencyKey baseCurrency
  let txn ← currencyKey txnCurrency
  let row : PositionRow :=
    ⟨account, side, baseMinor, base, txnMinor, txn, rate, rateSource, rateAt, e.text "memo"⟩
  if h : row.Checks then .ok ⟨row, h⟩ else .error (.database "23514")

/-! ## 2. Drafts -/

/-- `accounting_opening_balance_authority`. -/
def openingAuthority (actor : PostingActor) (id : Option Uuid) : Except SourceRefusal Unit := do
  sourceAuthority actor "post" "opening_balance"
  match id with
  | none => pure ()
  | some id =>
    refuseIf (actor.source.sourceId ≠ id) (.ledger (.accounting .assertionPayloadMismatch))

/-- A NULL date and a future one are refused alike. -/
def requireAsOf (m : PostingMoment) (db : Ledger) (asOf : Option PgDate) :
    Except SourceRefusal PgDate := do
  let date ← someOr asOf (.ledger (.accounting .entryDateInFuture))
  refuseIf (date.After (m.civilDate db.timezone m.now)) (.ledger (.accounting .entryDateInFuture))
  pure date

/-- The opening balance of the asserted business under an id. -/
def openingOf (db : SourceLedger) (actor : PostingActor) (id : Uuid) :
    Except SourceRefusal OpeningBalance := do
  refuseIf (actor.source.businessId ≠ db.ledger.store.businessId) (.source .openingBalanceStateInvalid)
  someOr (db.openings.find? id) (.source .openingBalanceStateInvalid)

/-- The table with one row in another state; `accounting_opening_balances_state` has admitted it. -/
def OpeningTable.replace (t : OpeningTable) (o : OpeningBalance) :
    Except SourceRefusal OpeningTable :=
  ofRows (t.rows.map fun x => if x.id = o.id then o else x)

/-- `accounting_open_balance_edit`: other positions, another date, of a draft. -/
def accountingOpenBalanceEdit (m : PostingMoment) (db : SourceLedger) (actor : PostingActor)
    (id : Uuid) (asOf : Option PgDate) (lines : Option Jsonb) :
    Except SourceRefusal SourceLedger := do
  openingAuthority actor (some id)
  let elements ← ofLedger (checkOpeningPayload lines)
  let date ← requireAsOf m db.ledger asOf
  let o ← openingOf db actor id
  match o.status with
  | .draft => do
    let positions ← ofLedger (elements.mapM positionOf)
    let openings ← db.openings.replace { o with asOfDate := date, positions := positions }
    pure { db with openings := openings }
  | _ => .error (.source .openingBalanceStateInvalid)

/-- `accounting_open_balance_draft`: a new draft, or the one there is stated again. -/
def accountingOpenBalanceDraft (m : PostingMoment) (db : SourceLedger) (actor : PostingActor)
    (asOf : Option PgDate) (lines : Option Jsonb) : Except SourceRefusal SourceLedger := do
  openingAuthority actor none
  let elements ← ofLedger (checkOpeningPayload lines)
  ownsBusiness db.ledger.store actor.source
  let date ← requireAsOf m db.ledger asOf
  match db.openings.find? actor.source.sourceId with
  | none => do
    let positions ← ofLedger (elements.mapM positionOf)
    refuseIf (actor.actorUserId ∉ m.users) (.ledger (.database "23503"))
    let openings ← OpeningTable.ofRows
      (⟨actor.source.sourceId, .draft, date, actor.actorUserId, positions⟩ :: db.openings.rows)
    pure { db with openings := openings }
  | some o =>
    match o.status with
    | .draft => accountingOpenBalanceEdit m db actor actor.source.sourceId asOf lines
    | _ => pure db

/-- `accounting_open_balance_discard`, of a draft without a binding. -/
def accountingOpenBalanceDiscard (db : SourceLedger) (actor : PostingActor) (id : Uuid) :
    Except SourceRefusal SourceLedger := do
  openingAuthority actor (some id)
  let o ← openingOf db actor id
  match o.status with
  | .draft => do
    refuseIf (∃ e ∈ db.ledger.journal.entries,
      e.source.sourceType = "opening_balance" ∧ e.source.sourceId = id)
      (.source .openingBalanceStateInvalid)
    let openings ← OpeningTable.ofRows (db.openings.rows.filter fun x => x.id ≠ id)
    pure { db with openings := openings }
  | _ => .error (.source .openingBalanceStateInvalid)

/-! ## 3. The journal of an opening balance -/

def sideText : Side → String
  | .D => "D"
  | .C => "C"

def refObject : AccountRef → Jsonb
  | .system key => .object [("kind", .string "system"), ("system_key", .string key)]
  | .code code => .object [("kind", .string "code"), ("code", .string code)]

/-- A text that may be NULL. -/
def jsonbText : Option String → Jsonb
  | some text => .string text
  | none => .null

/-- A line of the derived payload. -/
def journalElement (account : AccountRef) (side : Side) (baseMinor : ℕ) (baseCurrency : Currency)
    (txnMinor : ℕ) (txnCurrency : Currency) (rate : ℕ) (rateSource : String)
    (rateAt memo : Option String) : Jsonb :=
  .object
    [ ("account", refObject account), ("side", .string (sideText side)),
      ("base_amount_minor", .string (toString baseMinor)),
      ("base_currency", .string baseCurrency.code),
      ("txn_amount_minor", .string (toString txnMinor)),
      ("txn_currency", .string txnCurrency.code),
      ("fx_rate", .string (String.ofList (rateText rate))), ("fx_rate_source", .string rateSource),
      ("fx_rate_at", jsonbText rateAt), ("branch_id", .null), ("warehouse_id", .null),
      ("memo", jsonbText memo) ]

def positionElement (p : Position) : Jsonb :=
  journalElement p.account p.side p.baseMinor p.baseCurrency p.txnMinor p.txnCurrency p.rate
    p.rateSource.text (some (String.ofList (instantText p.rateAt))) p.memo

/-- The sum of the positions on one side. -/
def sideTotal (side : Side) (ps : List Position) : ℕ :=
  (ps.map fun p => if p.side = side then p.baseMinor else 0).sum

/-- The instant of the plug: the as-of date at midnight, of an infinite date NULL. -/
def midnightText : PgDate → Option String
  | .day d => some (String.ofList (isoDateChars d ++ "T00:00:00Z".toList))
  | _ => none

/-- What the positions leave open, on the side that closes it. -/
def plugElement (base : Currency) (asOf : PgDate) (ps : List Position) : List Jsonb :=
  let debit := sideTotal .D ps
  let credit := sideTotal .C ps
  let plug := (debit - credit) + (credit - debit)
  if 0 < plug then
    [journalElement (.system OPENING_EQUITY) (if credit < debit then .C else .D) plug base plug base
      RATE_SCALE "base" (midnightText asOf) none]
  else []

def openingElements (base : Currency) (o : OpeningBalance) : List Jsonb :=
  o.positions.map positionElement ++ plugElement base o.asOfDate o.positions

/-! ## 4. Posting -/

/-- The entry of the opening balance is reversed. -/
def reversedOpening (db : SourceLedger) (o : OpeningBalance) : Prop :=
  ∃ id ∈ o.status.entryId?, id ∈ db.reversals.reversed

instance (db : SourceLedger) (o : OpeningBalance) : Decidable (reversedOpening db o) :=
  inferInstanceAs (Decidable (∃ id ∈ o.status.entryId?, id ∈ db.reversals.reversed))

/-- `accounting_open_balance_supersede`, of a posted opening balance whose entry is reversed. -/
def accountingOpenBalanceSupersede (m : PostingMoment) (db : SourceLedger) (o : OpeningBalance) :
    Except SourceRefusal SourceLedger :=
  match o.status with
  | .posted entryId postedAt => do
    refuseIf (entryId ∉ db.reversals.reversed) (.source .supersedeWithoutReversal)
    let openings ← db.openings.replace { o with status := .superseded entryId postedAt m.now }
    pure { db with openings := openings }
  | _ => .error (.source .openingBalanceStateInvalid)

/-- The posted opening balance that another one replaces must have been reversed. -/
def makeRoom (m : PostingMoment) (db : SourceLedger) (id : Uuid) :
    Except SourceRefusal SourceLedger :=
  match db.openings.rows.find? fun x => x.status.IsPosted ∧ x.id ≠ id with
  | none => pure db
  | some previous => do
    refuseIf (¬ reversedOpening db previous) (.source .openingBalanceExists)
    accountingOpenBalanceSupersede m db previous

/-- The posting of a draft. -/
def postDraft (m : PostingMoment) (db : SourceLedger) (actor : PostingActor) (o : OpeningBalance)
    (description requestId : Option String) :
    Except SourceRefusal (SourceLedger × PostingResult) := do
  refuseIf (o.asOfDate.After (m.civilDate db.ledger.timezone m.now))
    (.ledger (.accounting .entryDateInFuture))
  refuseIf (∃ p ∈ o.positions, p.baseCurrency ≠ db.ledger.baseCurrency)
    (.ledger (.accounting .entryBaseCurrencyMismatch))
  let debit := sideTotal .D o.positions
  let credit := sideTotal .C o.positions
  refuseIf (debit + credit = 0) (.ledger (.accounting .payloadInvalid))
  refuseIf (MAX_MONEY_MINOR < (debit - credit) + (credit - debit))
    (.ledger (.accounting .payloadInvalid))
  let elements := openingElements db.ledger.baseCurrency o
  let db ← makeRoom m db o.id
  let r ← ofLedger (accountingPostEntry m db.ledger
    ⟨actor, some o.asOfDate, description, requestId, some (.array elements)⟩)
  let openings ← db.openings.replace { o with status := .posted r.2.entryId m.now }
  pure ({ db with ledger := r.1, openings := openings }, r.2)

/-- A posted opening balance stated again: the same facts, or a conflict. -/
def postedAgain (db : SourceLedger) (actor : PostingActor) (o : OpeningBalance) (entryId : Uuid) :
    Except SourceRefusal PostingResult := do
  let e ← someOr (db.ledger.journal.byId entryId) (.source .openingBalanceStateInvalid)
  refuseIf (e.source.sourceType ≠ "opening_balance" ∨ e.source.sourceId ≠ o.id ∨
    PgDate.day e.entryDate ≠ o.asOfDate) (.source .openingBalanceStateInvalid)
  refuseIf (e.postingFingerprint ≠ actor.postingFingerprint)
    (.ledger (.accounting .idempotencyConflict))
  pure ⟨entryId, false⟩

/-- `accounting_open_balance_post`. -/
def accountingOpenBalancePost (m : PostingMoment) (db : SourceLedger) (actor : PostingActor)
    (id : Uuid) (description requestId : Option String) :
    Except SourceRefusal (SourceLedger × PostingResult) := do
  openingAuthority actor (some id)
  ownsBusiness db.ledger.store actor.source
  let o ← openingOf db actor id
  match o.status with
  | .draft => postDraft m db actor o description requestId
  | .posted entryId _ => do
    let r ← postedAgain db actor o entryId
    pure (db, r)
  | .superseded _ _ _ => .error (.source .openingBalanceStateInvalid)

end Daftar.Accounting
