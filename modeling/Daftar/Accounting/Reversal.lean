/-
  File: Daftar/Accounting/Reversal.lean
  Subject: `accounting_post_reversal` and `accounting_post_manual_adjustment`.

  * The lines of a reversal are the lines of the stored original, debit and credit exchanged
    (`mirroredLines`); the caller states which entry, when and why, and nothing else.
  * `prepareReversal` are the steps up to the signed fingerprint. `accountingPostReversal` then
    answers a reversed entry from its reversal, and writes a new one last.
  * `reversal_mirrors`: a written reversal has the lines of its original, mirrored.
-/

import Daftar.Accounting.PostingReplay
import Daftar.Accounting.Sources

namespace Daftar.Accounting

open Fallible

/-! ## 1. The mirror -/

/-- The name of an account in canonical text. -/
def Account.identity (a : Account) : String :=
  match a.systemKey with
  | some key => key
  | none => "code:" ++ a.code

/-- A stored line, debit and credit exchanged and everything else as it is. -/
def mirroredLine (a : Account) (l : JournalLine) : PostingLine where
  fields :=
    { identity := some a.identity
      side := some (if 0 < l.debitMinor then "C" else "D")
      baseMinor := some l.baseMinor
      baseCurrency := some l.baseCurrency.code
      txnMinor := some l.txnMinor
      txnCurrency := some l.txnCurrency.code
      rate := some l.rate
      rateSource := some l.rateSource
      rateAt := some l.rateAt
      branchId := l.branchId
      warehouseId := l.warehouseId
      memo := l.memo }
  account := some a

/-- `ORDER BY l.line_no`. -/
def PostedEntry.linesInOrder (e : PostedEntry) : List JournalLine :=
  e.lines.insertionSort fun l k => l.lineNo ≤ k.lineNo

/-- The lines in the order of their numbers, each joined with its account. -/
def mirroredLines (accounts : AccountTable) (e : PostedEntry) : List PostingLine :=
  e.linesInOrder.filterMap fun l =>
    (accounts.find? l.accountId).map fun a => mirroredLine a l

/-! ## 2. The steps up to the signed fingerprint -/

structure ReversalCommand where
  actor : PostingActor
  originalEntryId : Option Uuid
  entryDate : Option PgDate
  reason : Option String
  requestId : Option String

structure PreparedReversal where
  reason : StoredReason
  date : PgDate
  original : PostedEntry
  lines : List PostingLine
  fingerprint : Option String

/-- The lower bound the registry states for reversals. -/
def notBeforeOriginal (original : PostedEntry) (date : PgDate) : Except SourceRefusal Unit :=
  match lowerBoundPolicy? "reversal" with
  | none => .error (.ledger (.accounting .payloadInvalid))
  | some policy => refuseIf (policy = .notBeforeOrigin ∧ date.Before original.entryDate)
      (.ledger (.accounting .entryDateBeforeOriginal))

def prepareReversal (m : PostingMoment) (db : Ledger) (c : ReversalCommand) :
    Except SourceRefusal PreparedReversal := do
  sourceAuthority c.actor "reverse" "reversal"
  refuseIf (c.originalEntryId ≠ some c.actor.source.sourceId)
    (.ledger (.accounting .assertionPayloadMismatch))
  let reason ← requiredReason c.reason .reversalReasonRequired
  let date ← someOr c.entryDate (.source .entryDateRequired)
  ownsBusiness db.store c.actor.source
  let original ← someOr (db.journal.byId c.actor.source.sourceId) (.source .entryNotFound)
  refuseIf (original.source.sourceType = "reversal") (.source .reversalOfReversal)
  let lines := mirroredLines db.accounts original
  refuseIf (lines.length < 2) (.source .entryNotFound)
  ofLedger (requireBaseCurrency db.baseCurrency lines)
  refuseIf (date.After (m.civilDate db.timezone m.now)) (.ledger (.accounting .entryDateInFuture))
  notBeforeOriginal original date
  let fingerprint := accountingFingerprint c.actor.source (some date)
    (lines.map fun l => accountingCanonicalLine l.fields)
  refuseIf (fails (· == c.actor.postingFingerprint) fingerprint = true)
    (.ledger (.accounting .assertionPayloadMismatch))
  pure ⟨reason, date, original, lines, fingerprint⟩

/-! ## 3. New reversals -/

/-- What a reversal reads of the modules that own other entries. -/
structure ReversalMoment extends PostingMoment where
  /-- The stored purchase reversals, each with the entry it is paired with. -/
  purchaseReversals : List (Uuid × Uuid)
  /-- The opening balances a posted inventory opening is decomposed against. -/
  boundOpenings : List Uuid

/-- The sources no generic reversal may touch. -/
def DOMAIN_OWNED_SOURCES : List String :=
  [ "inventory_adjustment", "inventory_opening", "negative_inventory_cost_adjustment",
    "supplier_return", "supplier_payment", "supplier_credit_allocation", "supplier_refund",
    "purchase_residue_write_off", "sale", "invoice", "customer_payment_allocation",
    "customer_credit_application", "customer_credit" ]

/-- `accounting_reversals_20_domain_source_guard`. -/
def domainSourceGuard (m : ReversalMoment) (openings : OpeningTable) (original : PostedEntry) :
    Except SourceRefusal Unit := do
  refuseIf (original.source.sourceType ∈ DOMAIN_OWNED_SOURCES ∨
    (original.source.sourceType = "purchase" ∧
      (original.source.sourceId, original.id) ∉ m.purchaseReversals))
    (.source .reversalSourceDomainOwned)
  refuseIf (∃ o ∈ openings.rows, o.status.entryId? = some original.id ∧ o.id ∈ m.boundOpenings)
    (.source .openingBalanceInventoryBound)

/-- The columns of the entry; its narrative is the reason. -/
def ReversalCommand.entryColumns (c : ReversalCommand) (p : PreparedReversal) : PostingCommand where
  actor := c.actor
  entryDate := some p.date
  description := some (String.ofList (p.reason.text.toList.take 500))
  requestId := c.requestId
  lines := none

/-- The entry, its lines and its registration. Of the unique constraints only the entry's own id
    can be taken here: no entry has the source yet. -/
def createReversal (m : ReversalMoment) (db : SourceLedger) (c : ReversalCommand)
    (p : PreparedReversal) : Except SourceRefusal (SourceLedger × PostingResult) := do
  let row ← ofLedger (entryRow m.toPostingMoment db.ledger (c.entryColumns p) p.fingerprint)
  let lines ← ofLedger (journalLines m.toPostingMoment p.lines)
  let entry := { row with lines := lines }
  let journal ← ofLedger (db.ledger.journal.insert entry)
  domainSourceGuard m db.openings p.original
  if h : entry.id ≠ p.original.id then do
    let reversals ← db.reversals.insert ⟨p.original.id, entry.id, p.reason, c.actor.actorUserId, h⟩
    refuseIf (db.ledger.financialStartedAt = none) (.source .entryNotFound)
    ofLedger (accountingAssertEntryValid db.ledger entry)
    ofLedger m.deferred
    pure ({ db with ledger := { db.ledger with journal := journal }, reversals := reversals },
      ⟨entry.id, true⟩)
  else .error (.ledger (.database "23514"))

/-- `accounting_post_reversal`, up to the commit of its transaction. -/
def accountingPostReversal (m : ReversalMoment) (db : SourceLedger) (c : ReversalCommand) :
    Except SourceRefusal (SourceLedger × PostingResult) := do
  let p ← prepareReversal m.toPostingMoment db.ledger c
  match db.ledger.journal.bySource c.actor.source with
  | some e =>
    if some e.postingFingerprint = p.fingerprint ∧ PgDate.day e.entryDate = p.date ∧
        (db.reversals.ofEntry e.id).map (fun r => r.reason.text) = some p.reason.text then
      pure (db, ⟨e.id, false⟩)
    else .error (.source .reversalExists)
  | none => createReversal m db c p

/-! ## 4. Manual adjustments -/

/-- `accounting_post_manual_adjustment`: a posting, and the reason it has the first time. -/
def accountingPostManualAdjustment (m : PostingMoment) (db : SourceLedger) (c : PostingCommand)
    (reason : Option String) : Except SourceRefusal (SourceLedger × PostingResult) := do
  sourceAuthority c.actor "post" "manual_adjustment"
  let reason ← requiredReason reason .adjustmentReasonRequired
  let r ← ofLedger (accountingPostEntry m db.ledger c)
  let adjustments :=
    if ∃ a ∈ db.adjustments, a.id = c.actor.source.sourceId then db.adjustments
    else ⟨c.actor.source.sourceId, reason, c.actor.actorUserId⟩ :: db.adjustments
  pure ({ db with ledger := r.1, adjustments := adjustments }, r.2)

/-! ## 5. What a reversal writes -/

/-- A row with debit and credit exchanged, under another number. -/
def LineRow.mirror (r : LineRow) (lineNo : ℕ) : LineRow :=
  { r with lineNo := lineNo, debitMinor := r.creditMinor, creditMinor := r.debitMinor }

/-- The lines of the second entry are those of the first, mirrored, in some order. -/
def Mirrors (original reversal : PostedEntry) : Prop :=
  ∃ ordered, ordered.Perm original.lines ∧
    List.Forall₂ (fun l k => k.toLineRow = l.mirror k.lineNo) ordered reversal.lines

/-- What a prepared reversal has gone through. -/
structure PreparedReversal.Of (p : PreparedReversal) (m : PostingMoment) (db : Ledger)
    (c : ReversalCommand) : Prop where
  authority : sourceAuthority c.actor "reverse" "reversal" = .ok ()
  named : c.originalEntryId = some c.actor.source.sourceId
  reason : requiredReason c.reason .reversalReasonRequired = .ok p.reason
  date : c.entryDate = some p.date
  business : ownsBusiness db.store c.actor.source = .ok ()
  original : db.journal.byId c.actor.source.sourceId = some p.original
  generic : p.original.source.sourceType ≠ "reversal"
  lines : p.lines = mirroredLines db.accounts p.original
  enough : 2 ≤ p.lines.length
  base : requireBaseCurrency db.baseCurrency p.lines = .ok ()
  past : ¬ p.date.After (m.civilDate db.timezone m.now)
  notBefore : ¬ p.date.Before p.original.entryDate
  fingerprint : p.fingerprint = accountingFingerprint c.actor.source (some p.date)
    (p.lines.map fun l => accountingCanonicalLine l.fields)
  signed : fails (· == c.actor.postingFingerprint) p.fingerprint = false

section Steps

variable {m : PostingMoment} {rm : ReversalMoment} {db : Ledger} {s s' : SourceLedger}
  {c : ReversalCommand} {p : PreparedReversal} {r : PostingResult}

theorem notBeforeOriginal_eq_ok {original : PostedEntry} {date : PgDate} :
    notBeforeOriginal original date = .ok () ↔ ¬ date.Before original.entryDate := by
  have hpolicy : lowerBoundPolicy? "reversal" = some .notBeforeOrigin := by
    decide
  unfold notBeforeOriginal
  rw [hpolicy]
  simp

theorem prepareReversal_eq_ok : prepareReversal m db c = .ok p ↔ p.Of m db c := by
  simp only [prepareReversal, bind_eq_ok, refuseIf_eq_ok, someOr_eq_ok, ofLedger_eq_ok,
    exists_const, pure_eq_ok, Bool.not_eq_true, not_not, Nat.not_lt]
  constructor
  · intro h
    obtain ⟨_, h1, h2, reason, h3, date, h4, _, h5, original, h6, h7, h8, _, h9, h10, _, h11, h12,
      rfl⟩ := h
    exact ⟨h1, h2, h3, h4, h5, h6, h7, rfl, h8, h9, h10, notBeforeOriginal_eq_ok.mp h11, rfl, h12⟩
  · intro h
    refine ⟨(), h.authority, h.named, p.reason, h.reason, p.date, h.date, (), h.business,
      p.original, h.original, h.generic, ?_⟩
    rw [← h.lines, ← h.fingerprint]
    exact ⟨h.enough, (), h.base, h.past, (), notBeforeOriginal_eq_ok.mpr h.notBefore, h.signed, rfl⟩

end Steps

/-! ## 6. The lines of a written reversal -/

section Lines

variable {m : PostingMoment} {accounts : AccountTable} {a : Account} {l k : JournalLine} {n : ℕ}
  {pl : PostingLine} {original reversal : PostedEntry}

/-- The columns of an inserted line. -/
theorem journalLine_row (h : journalLine m n pl = .ok k) : ∃ f a base txn,
    pl.fields.facts? = some f ∧ pl.account = some a ∧ currencyKey f.baseCurrency = .ok base ∧
      currencyKey f.txnCurrency = .ok txn ∧
      k.toLineRow = lineRow n f a.id base txn pl.fields.memo := by
  unfold journalLine at h
  split at h
  · rename_i f a hfacts haccount
    simp only [bind_eq_ok] at h
    obtain ⟨base, hbase, txn, htxn, _, _, _, _, h⟩ := h
    split at h
    · cases h
      exact ⟨f, a, base, txn, hfacts, haccount, hbase, htxn, rfl⟩
    · cases h
  · cases h

theorem code_injective : ∀ c d : Currency, c.code = d.code → c = d := by
  intro c d
  cases c <;> cases d <;> decide

/-- **A mirrored line, inserted, is the stored one with debit and credit exchanged.** -/
theorem mirror_of_inserted (hid : a.id = l.accountId)
    (h : journalLine m n (mirroredLine a l) = .ok k) : k.toLineRow = l.mirror k.lineNo := by
  obtain ⟨f, b, base, txn, hfacts, haccount, hbase, htxn, hrow⟩ := journalLine_row h
  cases haccount
  cases hfacts
  have hbase := code_injective _ _ (currencyKey_eq_ok hbase)
  have htxn := code_injective _ _ (currencyKey_eq_ok htxn)
  rw [hrow, hbase, htxn, hid]
  have hside := l.checks.oneSide
  have hmax := l.checks.baseAmount
  -- The stored line is on one side, with its base amount.
  by_cases hd : 0 < l.debitMinor
  · have hzero : l.creditMinor = 0 := by omega
    have hamount : l.baseMinor = l.debitMinor := by omega
    simp [lineRow, LineRow.mirror, mirroredLine, hd, hzero, hamount]
  · have hzero : l.debitMinor = 0 := by omega
    have hamount : l.baseMinor = l.creditMinor := by omega
    simp [lineRow, LineRow.mirror, mirroredLine, hzero, hamount]

/-- The accounts of the lines are all in the chart. -/
def PostedEntry.Charted (e : PostedEntry) (accounts : AccountTable) : Prop :=
  ∀ l ∈ e.lines, ∃ a ∈ accounts.rows, a.id = l.accountId

theorem PostedEntry.linesInOrder_perm (e : PostedEntry) : e.linesInOrder.Perm e.lines :=
  List.perm_insertionSort _ _

/-- In the chart no line is lost to the join. -/
theorem mirroredLines_forall₂ (h : original.Charted accounts) :
    List.Forall₂ (fun l pl => ∃ a, accounts.find? l.accountId = some a ∧ pl = mirroredLine a l)
      original.linesInOrder (mirroredLines accounts original) := by
  have hall : ∀ l ∈ original.linesInOrder, ∃ a, accounts.find? l.accountId = some a := by
    intro l hl
    obtain ⟨a, ha, hid⟩ := h l (original.linesInOrder_perm.mem_iff.mp hl)
    exact ⟨a, AccountTable.find?_eq_some.mpr ⟨ha, hid⟩⟩
  unfold mirroredLines
  generalize original.linesInOrder = ls at hall
  induction ls with
  | nil => exact .nil
  | cons l ls ih =>
      rw [List.forall_mem_cons] at hall
      obtain ⟨⟨a, ha⟩, hrest⟩ := hall
      rw [List.filterMap_cons_some (by rw [ha]; rfl)]
      exact .cons ⟨a, ha, rfl⟩ (ih hrest)

/-- **A written reversal has the lines of its original, mirrored.** -/
theorem reversal_mirrors (hcharted : original.Charted accounts)
    (h : journalLines m (mirroredLines accounts original) = .ok reversal.lines) :
    Mirrors original reversal := by
  refine ⟨original.linesInOrder, original.linesInOrder_perm, ?_⟩
  have hmirrored := mirroredLines_forall₂ hcharted
  have hinserted := journalLines_eq_ok h
  revert hmirrored hinserted
  generalize original.linesInOrder = ls
  generalize mirroredLines accounts original = pls
  generalize reversal.lines = ks
  intro hmirrored hinserted
  induction hmirrored generalizing ks with
  | nil =>
      cases hinserted
      exact .nil
  | cons hl _ ih =>
      cases hinserted with
      | cons hk hks =>
          obtain ⟨a, ha, rfl⟩ := hl
          obtain ⟨n, hk⟩ := hk
          exact .cons (mirror_of_inserted (AccountTable.find?_eq_some.mp ha).2 hk) (ih _ hks)

end Lines

/-! ## 7. Weights that a mirror turns around -/

/-- A weight of lines that debit and credit exchanged turns around, whatever the line's number. -/
def OddUnderMirror (w : LineRow → ℤ) : Prop := ∀ r n, w (r.mirror n) = -w r

/-- The weight of an entry. -/
def PostedEntry.weight (w : LineRow → ℤ) (e : PostedEntry) : ℤ :=
  (e.lines.map fun l => w l.toLineRow).sum

/-- Debit less credit of the lines of one kind. -/
def baseNet (p : LineRow → Bool) (r : LineRow) : ℤ :=
  if p r then (r.debitMinor : ℤ) - r.creditMinor else 0

/-- The transaction amounts of the lines of one kind, a debit up and a credit down. -/
def txnNet (p : LineRow → Bool) (r : LineRow) : ℤ :=
  if p r then (if r.creditMinor < r.debitMinor then (r.txnMinor : ℤ) else 0) -
    (if r.debitMinor < r.creditMinor then (r.txnMinor : ℤ) else 0) else 0

section Weights

variable {w : LineRow → ℤ} {p : LineRow → Bool} {original reversal : PostedEntry}

theorem odd_baseNet (hp : ∀ r n, p (r.mirror n) = p r) : OddUnderMirror (baseNet p) := by
  intro r n
  unfold baseNet
  rw [hp]
  by_cases h : p r = true
  · rw [if_pos h, if_pos h]
    exact (Int.neg_sub _ _).symm
  · rw [if_neg h, if_neg h]
    rfl

theorem odd_txnNet (hp : ∀ r n, p (r.mirror n) = p r) : OddUnderMirror (txnNet p) := by
  intro r n
  unfold txnNet
  rw [hp]
  by_cases h : p r = true
  · rw [if_pos h, if_pos h]
    exact (Int.neg_sub _ _).symm
  · rw [if_neg h, if_neg h]
    rfl

/-- **A mirrored entry weighs what its original weighs, turned around.** -/
theorem Mirrors.weight (h : Mirrors original reversal) (hw : OddUnderMirror w) :
    reversal.weight w = -original.weight w := by
  obtain ⟨ordered, hperm, hall⟩ := h
  unfold PostedEntry.weight
  rw [← (hperm.map fun l => w l.toLineRow).sum_eq]
  generalize reversal.lines = ks at hall
  clear hperm
  induction hall with
  | nil => rfl
  | cons hl _ ih =>
      rw [List.map_cons, List.map_cons, List.sum_cons, List.sum_cons, ih, hl, hw]
      exact (Int.neg_add ..).symm

end Weights

end Daftar.Accounting
