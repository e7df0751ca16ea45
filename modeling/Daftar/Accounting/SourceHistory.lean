/-
  File: Daftar/Accounting/SourceHistory.lean
  Subject: Histories of the ledger with its native sources, and what one call can do to the journal.

  * `sourceCall` runs a routine and then the deferred triggers of the native sources.
  * `SourceEffect`: an accepted call leaves the journal as it is, adds an entry that is no reversal,
    or adds the reversal of a stored entry, mirrored and registered. `sourceCall_effect` is read
    off the routines once, and everything about histories is read off it.
-/

import Daftar.Accounting.OpeningBalance
import Daftar.Library.Grouping

namespace Daftar.Accounting

open Fallible
open Histories

/-! ## 1. Calls -/

inductive SourceCall
  | ledger (call : LedgerCall)
  | adjust (m : PostingMoment) (c : PostingCommand) (reason : Option String)
  | reverse (m : ReversalMoment) (c : ReversalCommand)
  | draftOpening (m : PostingMoment) (actor : PostingActor) (asOf : Option PgDate)
      (lines : Option Jsonb)
  | editOpening (m : PostingMoment) (actor : PostingActor) (id : Uuid) (asOf : Option PgDate)
      (lines : Option Jsonb)
  | discardOpening (actor : PostingActor) (id : Uuid)
  | postOpening (m : PostingMoment) (actor : PostingActor) (id : Uuid)
      (description requestId : Option String)
  | stateOpening (m : PostingMoment) (actor : PostingActor) (asOf : Option PgDate)
      (lines : Option Jsonb) (description requestId : Option String)

/-- The routine of a call. An opening balance stated through the interface is drafted and posted in
    one transaction. -/
def sourceRoutine (db : SourceLedger) :
    SourceCall → Except SourceRefusal (SourceLedger × Option PostingResult)
  | .ledger call => do
    let r ← ofLedger (ledgerCall db.ledger call)
    pure ({ db with ledger := r.1 }, r.2)
  | .adjust m c reason => do
    let r ← accountingPostManualAdjustment m db c reason
    pure (r.1, some r.2)
  | .reverse m c => do
    let r ← accountingPostReversal m db c
    pure (r.1, some r.2)
  | .draftOpening m actor asOf lines => do
    let s ← accountingOpenBalanceDraft m db actor asOf lines
    pure (s, none)
  | .editOpening m actor id asOf lines => do
    let s ← accountingOpenBalanceEdit m db actor id asOf lines
    pure (s, none)
  | .discardOpening actor id => do
    let s ← accountingOpenBalanceDiscard db actor id
    pure (s, none)
  | .postOpening m actor id description requestId => do
    let r ← accountingOpenBalancePost m db actor id description requestId
    pure (r.1, some r.2)
  | .stateOpening m actor asOf lines description requestId => do
    let s ← accountingOpenBalanceDraft m db actor asOf lines
    let r ← accountingOpenBalancePost m s actor actor.source.sourceId description requestId
    pure (r.1, some r.2)

/-- The entries a transaction has added. -/
def newEntries (before after : SourceLedger) : List PostedEntry :=
  after.ledger.journal.entries.filter fun e =>
    e.id ∉ before.ledger.journal.entries.map PostedEntry.id

/-- A call and the commit of its transaction. -/
def sourceCall (db : SourceLedger) (call : SourceCall) :
    Except SourceRefusal (SourceLedger × Option PostingResult) := do
  let r ← sourceRoutine db call
  let _ ← (newEntries db r.1).mapM (entryComplete r.1)
  pure r

/-! ## 2. What a call of the ledger does -/

/-- The journal is as it was; the accounts and the settings may change as their guards allow. -/
structure Quiet (db db' : Ledger) : Prop where
  entries : db'.journal.entries = db.journal.entries
  accounts : Keeps db.journal.usedAccounts db.accounts db'.accounts
  tenant : db'.store.tenantId = db.store.tenantId
  business : db'.store.businessId = db.store.businessId
  base : db.journal.entries ≠ [] → db'.baseCurrency = db.baseCurrency

/-- The journal has one more entry, of this business, balanced and on accounts of the chart. -/
structure Adds (db db' : Ledger) (e : PostedEntry) : Prop where
  entries : db'.journal.entries = e :: db.journal.entries
  accounts : db'.accounts = db.accounts
  store : db'.store = db.store
  base : db'.baseCurrency = db.baseCurrency
  named : ∀ l ∈ e.lines, ∃ a ∈ db.accounts.rows, a.id = l.accountId
  business : e.source.businessId = db.store.businessId
  tenant : e.source.tenantId = db.store.tenantId
  lineBase : ∀ l ∈ e.lines, l.baseCurrency = db.baseCurrency
  balanced : (e.lines.map fun l => l.debitMinor).sum = (e.lines.map fun l => l.creditMinor).sum

theorem Quiet.refl (db : Ledger) : Quiet db db :=
  ⟨rfl, Keeps.refl _ _, rfl, rfl, fun _ => rfl⟩

section LedgerEffects

variable {m : PostingMoment} {db db' : Ledger} {c : PostingCommand} {r : PostingResult}
  {e : PostedEntry} {p : PreparedPosting} {es : List Jsonb}

theorem accountingAssertEntryValid_balanced (h : accountingAssertEntryValid db e = .ok ()) :
    (e.lines.map fun l => l.debitMinor).sum = (e.lines.map fun l => l.creditMinor).sum := by
  simp only [accountingAssertEntryValid, bind_eq_ok, refuseIf_eq_ok, exists_const, not_not] at h
  exact h.2.2.2.1

/-- Every inserted line is on an account the chart had for it. -/
theorem named_of_journalLines {pls : List PostingLine} {ls : List JournalLine}
    {accounts : AccountTable} (hres : ∀ l ∈ pls, ∀ a, l.account = some a → a ∈ accounts.rows)
    (h : journalLines m pls = .ok ls) : ∀ l ∈ ls, ∃ a ∈ accounts.rows, a.id = l.accountId := by
  intro l hl
  obtain ⟨pl, hpl, n, hline⟩ := forall₂_source (journalLines_eq_ok h) hl
  obtain ⟨_, a, _, haccount, hid, _, _⟩ := journalLine_eq_ok hline
  exact ⟨a, hres pl hpl a haccount, hid.symm⟩

theorem createEntry_adds (hp : Prepared db c p es) (h : createEntry m db c p = .ok (db', r)) :
    ∃ e, Adds db db' e ∧ e.source = c.actor.source ∧ c.entryDate = some (.day e.entryDate) ∧
      p.fingerprint = some e.postingFingerprint ∧ journalLines m p.lines = .ok e.lines ∧
      r = ⟨e.id, true⟩ := by
  simp only [createEntry, bind_eq_ok, pure_eq_ok, Prod.mk.injEq] at h
  obtain ⟨_, _, row, hrow, lines, hlines, journal, hjournal, _, hvalid, _, _, rfl, rfl⟩ := h
  obtain ⟨hsource, hdate, hfp⟩ := entryRow_eq_ok hrow
  obtain ⟨_, hbusiness, htenant⟩ := accountingActor_eq_ok.mp hp.actor
  refine ⟨{ row with lines := lines }, ⟨Journal.insert_eq_ok hjournal, rfl, rfl, rfl,
    named_of_journalLines (fun l hl a ha => (hp.lines_resolved l hl a ha).1) hlines, ?_, ?_,
    accountingAssertEntryValid_base hvalid, accountingAssertEntryValid_balanced hvalid⟩, hsource,
    hdate, hfp, hlines, rfl⟩
  · exact (congrArg PostingSource.businessId hsource).trans hbusiness
  · exact (congrArg PostingSource.tenantId hsource).trans htenant.symm

/-- **A posting answers from the entry of its source, or adds one.** -/
theorem accountingPostEntry_effect (h : accountingPostEntry m db c = .ok (db', r)) :
    (db' = db ∧ ∃ e ∈ db.journal.entries, e.source = c.actor.source ∧ r = ⟨e.id, false⟩) ∨
      ∃ e p es, Prepared db c p es ∧ Adds db db' e ∧ e.source = c.actor.source ∧
        c.entryDate = some (.day e.entryDate) ∧ p.fingerprint = some e.postingFingerprint ∧
        journalLines m p.lines = .ok e.lines ∧ r = ⟨e.id, true⟩ := by
  obtain ⟨p, hprep, hdone⟩ := accountingPostEntry_cases h
  obtain ⟨es, hp⟩ := preparePosting_eq_ok.mp hprep
  rcases hdone with ⟨e, hsource, _, rfl, rfl⟩ | ⟨_, hcreate⟩
  · obtain ⟨he, hsource⟩ := bySource_eq_some.mp hsource
    exact .inl ⟨rfl, e, he, hsource, rfl⟩
  · obtain ⟨e, hadds, hrest⟩ := createEntry_adds hp hcreate
    exact .inr ⟨e, p, es, hp, hadds, hrest⟩

/-- **A call of the ledger is quiet, or posts an entry.** -/
theorem ledgerCall_effect {call : LedgerCall} {answer : Option PostingResult}
    (h : ledgerCall db call = .ok (db', answer)) : Quiet db db' ∨ ∃ e, Adds db db' e := by
  cases call with
  | post m c =>
      simp only [ledgerCall, bind_eq_ok, pure_eq_ok, Prod.mk.injEq] at h
      obtain ⟨⟨_, _⟩, hpost, rfl, _⟩ := h
      rcases accountingPostEntry_effect hpost with ⟨rfl, _⟩ | ⟨e, _, _, _, hadds, _⟩
      · exact .inl (Quiet.refl _)
      · exact .inr ⟨e, hadds⟩
  | insertAccount row =>
      simp only [ledgerCall, bind_eq_ok, pure_eq_ok, Prod.mk.injEq] at h
      obtain ⟨_, hinsert, rfl, _⟩ := h
      exact .inl ⟨rfl, AccountTable.insert_keeps hinsert, rfl, rfl, fun _ => rfl⟩
  | updateAccount id row =>
      simp only [ledgerCall, bind_eq_ok, pure_eq_ok, Prod.mk.injEq] at h
      obtain ⟨_, hupdate, rfl, _⟩ := h
      exact .inl ⟨rfl, AccountTable.update_keeps hupdate, rfl, rfl, fun _ => rfl⟩
  | deleteAccount id =>
      simp only [ledgerCall, bind_eq_ok, pure_eq_ok, Prod.mk.injEq] at h
      obtain ⟨_, hdelete, rfl, _⟩ := h
      exact .inl ⟨rfl, AccountTable.delete_keeps hdelete, rfl, rfl, fun _ => rfl⟩
  | period c =>
      simp only [ledgerCall, bind_eq_ok, pure_eq_ok, Prod.mk.injEq] at h
      obtain ⟨⟨t, _⟩, hperiod, rfl, _⟩ := h
      obtain ⟨htenant, hbusiness⟩ := periodCall_names hperiod
      exact .inl ⟨rfl, Keeps.refl _ _, htenant, hbusiness, fun _ => rfl⟩
  | setTimezone timezone =>
      simp only [ledgerCall, pure_eq_ok, Prod.mk.injEq] at h
      obtain ⟨rfl, _⟩ := h
      exact .inl ⟨rfl, Keeps.refl _ _, rfl, rfl, fun _ => rfl⟩
  | setBaseCurrency currency =>
      simp only [ledgerCall, businessesBaseCurrencyLock, bind_eq_ok, refuseIf_eq_ok, exists_const,
        pure_eq_ok, Prod.mk.injEq, not_and, not_not] at h
      obtain ⟨hlock, rfl, _⟩ := h
      refine .inl ⟨rfl, Keeps.refl _ _, rfl, rfl, fun hne => ?_⟩
      by_cases hsame : currency = db.baseCurrency
      · exact hsame
      · exact absurd (hlock hsame) hne

end LedgerEffects

/-! ## 3. What a routine does -/

/-- The reversal of a stored entry, mirrored and registered. -/
structure Reverses (s s' : SourceLedger) (original e : PostedEntry) (row : ReversalRow) : Prop where
  stored : original ∈ s.ledger.journal.entries
  generic : original.source.sourceType ≠ "reversal"
  ledger : Adds s.ledger s'.ledger e
  sourceType : e.source.sourceType = "reversal"
  sourceId : e.source.sourceId = original.id
  notBefore : original.entryDate ≤ e.entryDate
  lines : ∃ m, journalLines m (mirroredLines s.ledger.accounts original) = .ok e.lines
  rows : s'.reversals.rows = row :: s.reversals.rows
  ofOriginal : row.originalEntryId = original.id
  ofEntry : row.journalEntryId = e.id
  free : original.id ∉ s.reversals.reversed

/-- What an accepted call has done to the journal and its reversals. An entry that is called a
    reversal without being one here is one that was registered before. -/
inductive SourceEffect (s s' : SourceLedger) : Prop
  | quiet (ledger : Quiet s.ledger s'.ledger) (reversals : s'.reversals = s.reversals)
  | adds (e : PostedEntry) (ledger : Adds s.ledger s'.ledger e)
      (registered : e.source.sourceType = "reversal" →
        ∃ r ∈ s.reversals.rows, r.journalEntryId = e.id)
      (reversals : s'.reversals = s.reversals)
  | reverses (original e : PostedEntry) (row : ReversalRow) (h : Reverses s s' original e row)

/-- A draft whose positions were read from a payload. -/
structure DraftOf (o : OpeningBalance) : Prop where
  status : o.status = .draft
  read : ∃ elements : List Jsonb, elements.mapM positionOf = .ok o.positions

section Routines

variable {m : PostingMoment} {rm : ReversalMoment} {s s' : SourceLedger} {c : ReversalCommand}
  {pc : PostingCommand} {p : PreparedReversal} {r : PostingResult} {actor : PostingActor}
  {reason description requestId : Option String} {id : Uuid} {asOf : Option PgDate}
  {lines : Option Jsonb} {o : OpeningBalance}

theorem PgDate.not_before_day {d e : ℤ} (h : ¬ PgDate.Before (.day d) e) : e ≤ d := Int.not_lt.mp h

theorem sourceAuthority_eq_ok {kind sourceType : String} {u : Unit} :
    sourceAuthority actor kind sourceType = .ok u ↔ actor.operationKind = kind ∧
      (kind, sourceType) ∈ OPERATION_KINDS ∧ actor.source.sourceType = sourceType := by
  simp only [sourceAuthority, bind_eq_ok, refuseIf_eq_ok, exists_const, not_or, not_not]
  constructor
  · intro h
    obtain ⟨hkind, hpair, htype⟩ := h
    exact ⟨hkind, hkind ▸ htype ▸ hpair, htype⟩
  · intro h
    obtain ⟨rfl, hpair, rfl⟩ := h
    exact ⟨rfl, hpair, rfl⟩

theorem ownsBusiness_eq_ok {store : PeriodStore} {source : PostingSource} {u : Unit} :
    ownsBusiness store source = .ok u ↔
      source.businessId = store.businessId ∧ store.tenantId = source.tenantId := by
  simp only [ownsBusiness, bind_eq_ok, refuseIf_eq_ok, exists_const, not_not]

theorem byId_eq_some {j : Journal} {e : PostedEntry} :
    j.byId id = some e ↔ e ∈ j.entries ∧ e.id = id := Tables.find?_key j.pk

/-- The lines of a prepared reversal are on accounts of the chart. -/
theorem mirroredLines_resolved {accounts : AccountTable} {original : PostedEntry} :
    ∀ l ∈ mirroredLines accounts original, ∀ a, l.account = some a → a ∈ accounts.rows := by
  intro l hl a ha
  obtain ⟨k, _, hk⟩ := List.mem_filterMap.mp hl
  obtain ⟨b, hb, rfl⟩ := Option.map_eq_some_iff.mp hk
  cases ha
  exact (AccountTable.find?_eq_some.mp hb).1

/-- What an accepted reversal has written. -/
structure WrittenReversal (s s' : SourceLedger) (c : ReversalCommand) (p : PreparedReversal)
    (e : PostedEntry) (row : ReversalRow) : Prop where
  reverses : Reverses s s' p.original e row
  source : e.source = c.actor.source
  date : p.date = .day e.entryDate
  fingerprint : p.fingerprint = some e.postingFingerprint
  reason : row.reason = p.reason
  openings : s'.openings = s.openings

theorem createReversal_eq_ok (hp : p.Of rm.toPostingMoment s.ledger c)
    (h : createReversal rm s c p = .ok (s', r)) :
    ∃ e row, WrittenReversal s s' c p e row ∧ r = ⟨e.id, true⟩ := by
  simp only [createReversal, bind_eq_ok, ofLedger_eq_ok] at h
  obtain ⟨row, hrow, ls, hls, journal, hjournal, _, _, h⟩ := h
  obtain ⟨hstored, hid⟩ := byId_eq_some.mp hp.original
  obtain ⟨_, _, htype⟩ := sourceAuthority_eq_ok.mp hp.authority
  obtain ⟨hbusiness, htenant⟩ := ownsBusiness_eq_ok.mp hp.business
  split at h
  · simp only [bind_eq_ok, ofLedger_eq_ok, refuseIf_eq_ok, exists_const, pure_eq_ok,
      Prod.mk.injEq] at h
    obtain ⟨reversals, hinsert, _, _, hvalid, _, _, rfl, rfl⟩ := h
    obtain ⟨hsource, hdate, hfp⟩ := entryRow_eq_ok hrow
    obtain ⟨hrows, hfree⟩ := ReversalTable.insert_eq_ok hinsert
    rw [hp.lines] at hls
    have hdate : p.date = .day row.entryDate := Option.some.inj hdate
    have hnot := hp.notBefore
    rw [hdate] at hnot
    refine ⟨{ row with lines := ls }, _, ⟨⟨hstored, hp.generic, ⟨Journal.insert_eq_ok hjournal, rfl,
      rfl, rfl, named_of_journalLines mirroredLines_resolved hls, ?_, ?_,
      accountingAssertEntryValid_base hvalid, accountingAssertEntryValid_balanced hvalid⟩, ?_, ?_,
      PgDate.not_before_day hnot, ⟨_, hls⟩, hrows, rfl, rfl, hfree⟩, hsource, hdate, hfp, rfl,
      rfl⟩, rfl⟩
    · exact (congrArg PostingSource.businessId hsource).trans hbusiness
    · exact (congrArg PostingSource.tenantId hsource).trans htenant.symm
    · exact (congrArg PostingSource.sourceType hsource).trans htype
    · exact (congrArg PostingSource.sourceId hsource).trans hid.symm
  · cases h

/-- **A reversal is answered from the one there is, or written.** -/
theorem accountingPostReversal_cases (h : accountingPostReversal rm s c = .ok (s', r)) :
    ∃ p, p.Of rm.toPostingMoment s.ledger c ∧
      ((s' = s ∧ ∃ e ∈ s.ledger.journal.entries, e.source = c.actor.source ∧
          some e.postingFingerprint = p.fingerprint ∧ PgDate.day e.entryDate = p.date ∧
          (s.reversals.ofEntry e.id).map (fun r => r.reason.text) = some p.reason.text ∧
          r = ⟨e.id, false⟩) ∨
        (s.ledger.journal.bySource c.actor.source = none ∧
          ∃ e row, WrittenReversal s s' c p e row ∧ r = ⟨e.id, true⟩)) := by
  simp only [accountingPostReversal, bind_eq_ok] at h
  obtain ⟨p, hp, h⟩ := h
  have hp := prepareReversal_eq_ok.mp hp
  refine ⟨p, hp, ?_⟩
  cases hsource : s.ledger.journal.bySource c.actor.source with
  | none =>
      rw [hsource] at h
      exact .inr ⟨rfl, createReversal_eq_ok hp h⟩
  | some e =>
      rw [hsource] at h
      dsimp only at h
      split at h
      · rename_i hsame
        cases h
        obtain ⟨he, hsrc⟩ := (Tables.find?_key s.ledger.journal.sources).mp hsource
        exact .inl ⟨rfl, e, he, hsrc, hsame.1, hsame.2.1, hsame.2.2, rfl⟩
      · cases h

/-- A prepared reversal of an entry without one is written. -/
theorem accountingPostReversal_new (hp : p.Of rm.toPostingMoment s.ledger c)
    (h : s.ledger.journal.bySource c.actor.source = none) :
    accountingPostReversal rm s c = createReversal rm s c p := by
  unfold accountingPostReversal
  rw [prepareReversal_eq_ok.mpr hp, ok_bind, h]

theorem adjustment_effect (h : accountingPostManualAdjustment m s pc reason = .ok (s', r)) :
    SourceEffect s s' := by
  simp only [accountingPostManualAdjustment, bind_eq_ok, ofLedger_eq_ok, pure_eq_ok,
    Prod.mk.injEq] at h
  obtain ⟨_, hauth, _, _, ⟨_, _⟩, hpost, rfl, rfl⟩ := h
  obtain ⟨_, _, htype⟩ := sourceAuthority_eq_ok.mp hauth
  rcases accountingPostEntry_effect hpost with ⟨rfl, _⟩ | ⟨e, _, _, _, hadds, hsource, _⟩
  · exact .quiet (Quiet.refl _) rfl
  · refine .adds e hadds (fun hrev => ?_) rfl
    rw [hsource, htype] at hrev
    exact absurd hrev (by decide)

/-! Opening balances -/

theorem edit_eq_ok (h : accountingOpenBalanceEdit m s actor id asOf lines = .ok s') :
    ∃ o o' t, s.openings.find? id = some o ∧ o.status = .draft ∧ o'.id = o.id ∧ DraftOf o' ∧
      s.openings.replace o' = .ok t ∧ s' = { s with openings := t } := by
  simp only [accountingOpenBalanceEdit, openingOf, bind_eq_ok, ofLedger_eq_ok, someOr_eq_ok] at h
  obtain ⟨_, _, elements, _, _, _, o, ⟨_, _, ho⟩, h⟩ := h
  split at h
  · rename_i hstatus
    simp only [bind_eq_ok, ofLedger_eq_ok, pure_eq_ok] at h
    obtain ⟨positions, hpositions, t, ht, rfl⟩ := h
    exact ⟨o, { o with asOfDate := _, positions := positions }, t, ho, hstatus, rfl,
      ⟨hstatus, elements, hpositions⟩, ht, rfl⟩
  · cases h

/-- **A draft is opened, stated again, or left as what it has become.** -/
theorem draft_eq_ok (h : accountingOpenBalanceDraft m s actor asOf lines = .ok s') :
    s' = s ∨
      (∃ o t, s.openings.find? o.id = none ∧ DraftOf o ∧
        OpeningTable.ofRows (o :: s.openings.rows) = .ok t ∧ s' = { s with openings := t }) ∨
      ∃ o o' t, s.openings.find? actor.source.sourceId = some o ∧ o.status = .draft ∧
        o'.id = o.id ∧ DraftOf o' ∧ s.openings.replace o' = .ok t ∧
        s' = { s with openings := t } := by
  simp only [accountingOpenBalanceDraft, bind_eq_ok, ofLedger_eq_ok] at h
  obtain ⟨_, _, elements, _, _, _, _, _, h⟩ := h
  split at h
  · rename_i hnone
    simp only [bind_eq_ok, ofLedger_eq_ok, refuseIf_eq_ok, exists_const, pure_eq_ok] at h
    obtain ⟨positions, hpositions, _, t, ht, rfl⟩ := h
    exact .inr (.inl ⟨_, t, hnone, ⟨rfl, elements, hpositions⟩, ht, rfl⟩)
  · split at h
    · exact .inr (.inr (edit_eq_ok h))
    · cases h
      exact .inl rfl

theorem discard_eq_ok (h : accountingOpenBalanceDiscard s actor id = .ok s') :
    ∃ o t, s.openings.find? id = some o ∧ o.status = .draft ∧
      OpeningTable.ofRows (s.openings.rows.filter fun x => x.id ≠ id) = .ok t ∧
      s' = { s with openings := t } := by
  simp only [accountingOpenBalanceDiscard, openingOf, bind_eq_ok, someOr_eq_ok] at h
  obtain ⟨_, _, o, ⟨_, _, ho⟩, h⟩ := h
  split at h
  · rename_i hstatus
    simp only [bind_eq_ok, refuseIf_eq_ok, exists_const, pure_eq_ok] at h
    obtain ⟨_, t, ht, rfl⟩ := h
    exact ⟨o, t, ho, hstatus, ht, rfl⟩
  · cases h

/-- **Room is made by superseding the posted opening balance, its entry reversed.** -/
theorem makeRoom_eq_ok (h : makeRoom m s id = .ok s') : s' = s ∨
    ∃ o entryId postedAt t, o ∈ s.openings.rows ∧ o.id ≠ id ∧ o.status = .posted entryId postedAt ∧
      entryId ∈ s.reversals.reversed ∧
      s.openings.replace { o with status := .superseded entryId postedAt m.now } = .ok t ∧
      s' = { s with openings := t } := by
  unfold makeRoom at h
  split at h
  · cases h
    exact .inl rfl
  · rename_i o hfind
    have hmem := List.mem_of_find?_eq_some hfind
    have hcond : o.status.IsPosted ∧ o.id ≠ id := by
      simpa using List.find?_some hfind
    simp only [bind_eq_ok, refuseIf_eq_ok, exists_const] at h
    unfold accountingOpenBalanceSupersede at h
    obtain ⟨_, h⟩ := h
    split at h
    · rename_i entryId postedAt hstatus
      simp only [bind_eq_ok, refuseIf_eq_ok, exists_const, pure_eq_ok, not_not] at h
      obtain ⟨hreversed, t, ht, rfl⟩ := h
      exact .inr ⟨o, entryId, postedAt, t, hmem, hcond.2, hstatus, hreversed, ht, rfl⟩
    · cases h

/-- A draft that was posted. -/
structure PostedDraft (m : PostingMoment) (s s' : SourceLedger) (actor : PostingActor)
    (o : OpeningBalance) (description requestId : Option String) (r : PostingResult) : Prop where
  base : ∀ p ∈ o.positions, p.baseCurrency = s.ledger.baseCurrency
  steps : ∃ room ledger t, makeRoom m s o.id = .ok room ∧
    accountingPostEntry m room.ledger ⟨actor, some o.asOfDate, description, requestId,
      some (.array (openingElements s.ledger.baseCurrency o))⟩ = .ok (ledger, r) ∧
    room.openings.replace { o with status := .posted r.entryId m.now } = .ok t ∧
    s' = { room with ledger := ledger, openings := t }

theorem postDraft_eq_ok (h : postDraft m s actor o description requestId = .ok (s', r)) :
    PostedDraft m s s' actor o description requestId r := by
  simp only [postDraft, bind_eq_ok, ofLedger_eq_ok, refuseIf_eq_ok, exists_const, pure_eq_ok,
    Prod.mk.injEq, not_exists, not_and, not_not] at h
  obtain ⟨_, hbase, _, _, room, hroom, ⟨ledger, r'⟩, hpost, t, ht, rfl, rfl⟩ := h
  exact ⟨hbase, room, ledger, t, hroom, hpost, ht, rfl⟩

/-- **A posted opening balance is answered, a draft posted.** -/
theorem postOpening_eq_ok
    (h : accountingOpenBalancePost m s actor id description requestId = .ok (s', r)) :
    actor.source.sourceType = "opening_balance" ∧ actor.source.sourceId = id ∧
      ∃ o, s.openings.find? id = some o ∧
        (s' = s ∨ (o.status = .draft ∧ PostedDraft m s s' actor o description requestId r)) := by
  simp only [accountingOpenBalancePost, openingAuthority, openingOf, bind_eq_ok, someOr_eq_ok,
    refuseIf_eq_ok, not_not, exists_const] at h
  obtain ⟨⟨_, hauth, hid⟩, _, _, o, ⟨_, ho⟩, h⟩ := h
  refine ⟨(sourceAuthority_eq_ok.mp hauth).2.2, hid, o, ho, ?_⟩
  split at h
  · rename_i hstatus
    exact .inr ⟨hstatus, postDraft_eq_ok h⟩
  · simp only [bind_eq_ok, pure_eq_ok, Prod.mk.injEq] at h
    obtain ⟨_, _, rfl, _⟩ := h
    exact .inl rfl
  · cases h

/-! The journal under all routines -/

/-- A routine that only changes opening balances. -/
theorem SourceEffect.ofOpenings {t : OpeningTable} (h : s' = { s with openings := t }) :
    SourceEffect s s' := by
  rw [h]
  exact .quiet (Quiet.refl _) rfl

theorem draft_effect (h : accountingOpenBalanceDraft m s actor asOf lines = .ok s') :
    ∃ t, s' = { s with openings := t } := by
  rcases draft_eq_ok h with rfl | ⟨_, t, _, _, _, rfl⟩ | ⟨_, _, t, _, _, _, _, _, rfl⟩
  · exact ⟨s'.openings, rfl⟩
  · exact ⟨t, rfl⟩
  · exact ⟨t, rfl⟩

theorem makeRoom_effect (h : makeRoom m s id = .ok s') : ∃ t, s' = { s with openings := t } := by
  rcases makeRoom_eq_ok h with rfl | ⟨_, _, _, t, _, _, _, _, _, rfl⟩
  · exact ⟨s'.openings, rfl⟩
  · exact ⟨t, rfl⟩

theorem PostedDraft.effect (h : PostedDraft m s s' actor o description requestId r)
    (htype : actor.source.sourceType = "opening_balance") : SourceEffect s s' := by
  obtain ⟨room, ledger, t, hroom, hpost, _, rfl⟩ := h.steps
  obtain ⟨t', rfl⟩ := makeRoom_effect hroom
  rcases accountingPostEntry_effect hpost with ⟨rfl, _⟩ | ⟨e, _, _, _, hadds, hsource, _⟩
  · exact .quiet (Quiet.refl _) rfl
  · refine .adds e hadds (fun hrev => ?_) rfl
    rw [hsource, htype] at hrev
    exact absurd hrev (by decide)

theorem postOpening_effect
    (h : accountingOpenBalancePost m s actor id description requestId = .ok (s', r)) :
    SourceEffect s s' := by
  obtain ⟨htype, _, o, _, hdone⟩ := postOpening_eq_ok h
  rcases hdone with rfl | ⟨_, hposted⟩
  · exact .quiet (Quiet.refl _) rfl
  · exact hposted.effect htype

/-- The opening balances before a call are nothing to its journal. -/
theorem sourceEffect_openings {t : OpeningTable} :
    SourceEffect { s with openings := t } s' ↔ SourceEffect s s' := by
  constructor
  · intro h
    cases h with
    | quiet hq hr => exact .quiet hq hr
    | adds e ha hreg hr => exact .adds e ha hreg hr
    | reverses original e row h =>
        exact .reverses original e row
          ⟨h.stored, h.generic, h.ledger, h.sourceType, h.sourceId, h.notBefore, h.lines, h.rows,
            h.ofOriginal, h.ofEntry, h.free⟩
  · intro h
    cases h with
    | quiet hq hr => exact .quiet hq hr
    | adds e ha hreg hr => exact .adds e ha hreg hr
    | reverses original e row h =>
        exact .reverses original e row
          ⟨h.stored, h.generic, h.ledger, h.sourceType, h.sourceId, h.notBefore, h.lines, h.rows,
            h.ofOriginal, h.ofEntry, h.free⟩

/-- The entry a transaction adds is one of its new entries. -/
theorem Adds.mem_newEntries {e : PostedEntry} (h : Adds s.ledger s'.ledger e) :
    e ∈ newEntries s s' := by
  have hpk := s'.ledger.journal.pk
  rw [h.entries, List.map_cons, List.nodup_cons] at hpk
  refine List.mem_filter.mpr ⟨?_, decide_eq_true hpk.1⟩
  rw [h.entries]
  exact List.mem_cons_self

/-- **What an accepted call does to the journal and its reversals.** -/
theorem sourceCall_effect {call : SourceCall} {answer : Option PostingResult}
    (h : sourceCall s call = .ok (s', answer)) : SourceEffect s s' := by
  simp only [sourceCall, bind_eq_ok, pure_eq_ok] at h
  obtain ⟨_, hroutine, _, hcomplete, rfl⟩ := h
  cases call with
  | ledger call =>
      simp only [sourceRoutine, bind_eq_ok, ofLedger_eq_ok, pure_eq_ok, Prod.mk.injEq] at hroutine
      obtain ⟨⟨_, _⟩, hcall, rfl, rfl⟩ := hroutine
      rcases ledgerCall_effect hcall with hquiet | ⟨e, hadds⟩
      · exact .quiet hquiet rfl
      · refine .adds e hadds (fun hrev => ?_) rfl
        -- The deferred trigger asks the new entry for its registration.
        obtain ⟨_, hok⟩ := mapM_accepts hcomplete (Adds.mem_newEntries hadds)
        simp only [entryComplete, bind_eq_ok, refuseIf_eq_ok, exists_const, not_and,
          not_forall, not_not] at hok
        obtain ⟨row, hrow, hid⟩ := hok.1 hrev
        exact ⟨row, hrow, hid⟩
  | adjust m c reason =>
      simp only [sourceRoutine, bind_eq_ok, pure_eq_ok, Prod.mk.injEq] at hroutine
      obtain ⟨_, hadjust, rfl, _⟩ := hroutine
      exact adjustment_effect hadjust
  | reverse m c =>
      simp only [sourceRoutine, bind_eq_ok, pure_eq_ok, Prod.mk.injEq] at hroutine
      obtain ⟨_, hreverse, rfl, _⟩ := hroutine
      obtain ⟨p, _, hdone⟩ := accountingPostReversal_cases hreverse
      rcases hdone with ⟨hsame, _⟩ | ⟨_, e, row, hwritten, _⟩
      · rw [hsame]
        exact .quiet (Quiet.refl _) rfl
      · exact .reverses _ e row hwritten.reverses
  | draftOpening m actor asOf lines =>
      simp only [sourceRoutine, bind_eq_ok, pure_eq_ok, Prod.mk.injEq] at hroutine
      obtain ⟨_, hdraft, rfl, _⟩ := hroutine
      obtain ⟨t, ht⟩ := draft_effect hdraft
      exact .ofOpenings ht
  | editOpening m actor id asOf lines =>
      simp only [sourceRoutine, bind_eq_ok, pure_eq_ok, Prod.mk.injEq] at hroutine
      obtain ⟨_, hedit, rfl, _⟩ := hroutine
      obtain ⟨_, _, t, _, _, _, _, _, ht⟩ := edit_eq_ok hedit
      exact .ofOpenings ht
  | discardOpening actor id =>
      simp only [sourceRoutine, bind_eq_ok, pure_eq_ok, Prod.mk.injEq] at hroutine
      obtain ⟨_, hdiscard, rfl, _⟩ := hroutine
      obtain ⟨_, t, _, _, _, ht⟩ := discard_eq_ok hdiscard
      exact .ofOpenings ht
  | postOpening m actor id description requestId =>
      simp only [sourceRoutine, bind_eq_ok, pure_eq_ok, Prod.mk.injEq] at hroutine
      obtain ⟨_, hpost, rfl, _⟩ := hroutine
      exact postOpening_effect hpost
  | stateOpening m actor asOf lines description requestId =>
      simp only [sourceRoutine, bind_eq_ok, pure_eq_ok, Prod.mk.injEq] at hroutine
      obtain ⟨_, hdraft, _, hpost, rfl, _⟩ := hroutine
      obtain ⟨t, rfl⟩ := draft_effect hdraft
      exact sourceEffect_openings.mp (postOpening_effect hpost)

end Routines

end Daftar.Accounting
