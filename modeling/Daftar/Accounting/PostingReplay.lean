/-
  File: Daftar/Accounting/PostingReplay.lean
  Subject: The ledger over histories of postings, chart updates, period commands and settings.

  * `Faithful`: every entry holds the lines its fingerprint was taken of, whatever has happened to
    the chart, in the base currency. `faithful_afterAll`: every history keeps it.
  * `posted_answers`: an entry answers every later command that says the same.
  * `Covered`: the lines of an entry and the elements of a payload have the same canonical texts.
-/

import Daftar.Accounting.PostingHistory

namespace Daftar.Accounting

open AsciiText
open CivilDate
open Fallible
open Histories
open Sha256
open Tables

/-! ## 1. What a command says -/

/-- The canonical text of an element. -/
def canonicalElement (e : Jsonb) : Option (List Char) :=
  match postingFields e with
  | .ok fields => accountingCanonicalLine fields
  | .error _ => none

def PostingCommand.elements (c : PostingCommand) : List Jsonb :=
  match c.lines with
  | some (.array elements) => elements
  | _ => []

def PostingCommand.canonicalLines (c : PostingCommand) : List (Option (List Char)) :=
  c.elements.map canonicalElement

/-- The stream a command is signed by, where its date has a text. -/
def PostingCommand.stream (c : PostingCommand) : Option (List UInt8) :=
  match c.entryDate with
  | some (.day d) => some (postingStream c.actor.source d (c.canonicalLines.filterMap id))
  | _ => none

/-- The streams a call hashes. -/
def LedgerCall.messages : LedgerCall → List (List UInt8)
  | .post _ c => c.stream.toList
  | _ => []

/-- What every step up to the signed fingerprint asks of an element, whatever the chart is. -/
structure Readable (base : Currency) (e : Jsonb) : Prop where
  schema : Schema e
  kind : accountText e "kind" ≠ none
  identity : ∃ identity, accountIdentity e = some identity ∧ Plain identity.toList
  fields : ∃ fields, postingFields e = .ok fields ∧
    ∀ text, fields.baseCurrency = some text → text = base.code

section Commands

variable {db : Ledger} {c : PostingCommand} {p : PreparedPosting} {es : List Jsonb} {e : Jsonb}
  {f : LineFacts} {base : Currency}

theorem Prepared.elements (h : Prepared db c p es) : c.elements = es := by
  unfold PostingCommand.elements
  rw [(checkPayload_eq_ok.mp h.payload).1]

theorem canonicalElement_eq {fields : PostingFields} (h : postingFields e = .ok fields) :
    canonicalElement e = accountingCanonicalLine fields := by
  unfold canonicalElement
  rw [h]

theorem canonical_resolved {accounts : AccountTable} {lines : List PostingLine}
    (h : es.mapM (resolveLine accounts) = .ok lines) :
    es.map canonicalElement = lines.map fun l => accountingCanonicalLine l.fields := by
  have hall := mapM_eq_ok.mp h
  clear h
  induction hall with
  | nil => rfl
  | cons hl _ ih =>
      rw [List.map_cons, List.map_cons, ih, canonicalElement_eq (resolveLine_eq_ok.mp hl).1]

theorem Prepared.canonicalLines (h : Prepared db c p es) :
    c.canonicalLines = p.lines.map fun l => accountingCanonicalLine l.fields := by
  unfold PostingCommand.canonicalLines
  rw [h.elements]
  exact canonical_resolved h.resolved

/-- The fingerprint is the digest of the stream. -/
theorem fingerprint_eq_stream (c : PostingCommand) :
    accountingFingerprint c.actor.source c.entryDate c.canonicalLines = c.stream.map digest := by
  unfold PostingCommand.stream
  rcases c.entryDate with _ | (_ | _ | _) <;> rfl

theorem Prepared.stream (h : Prepared db c p es) : p.fingerprint = c.stream.map digest := by
  rw [h.fingerprint, ← h.canonicalLines, fingerprint_eq_stream]

theorem kind_of_resolved {a : Account} (h : namedAccount db.accounts e = some a) :
    accountText e "kind" ≠ none := by
  intro hn
  have hp := List.find?_some h
  rw [hn] at hp
  simp at hp

theorem Prepared.readable (h : Prepared db c p es) : ∀ e ∈ es, Readable db.baseCurrency e := by
  intro e he
  obtain ⟨l, hl⟩ := mapM_accepts h.resolved he
  have hmem := mapM_mem h.resolved he hl
  obtain ⟨hfields, haccount⟩ := resolveLine_eq_ok.mp hl
  obtain ⟨a, ha⟩ := Option.ne_none_iff_exists'.mp (requireAccounts_eq_ok.mp h.accounts l hmem)
  rw [haccount] at ha
  obtain ⟨_, identity, hid, hnamed⟩ := named_of_resolved ha
  exact ⟨(checkPayload_eq_ok.mp h.payload).2.2 e he, kind_of_resolved ha, ⟨identity, hid,
    hnamed.plain⟩, l.fields, hfields, requireBaseCurrency_eq_ok.mp h.base l hmem⟩

/-- The facts of an element that holds no unchecked null. -/
structure States (base : Currency) (e : Jsonb) (f : LineFacts) : Prop where
  canonical : canonicalElement e = some f.chars
  identity : accountIdentity e = some f.identity
  base : f.baseCurrency = base.code
  head : f.Head

theorem Readable.states (h : Readable base e) (hn : NoNulls e) : ∃ f, States base e f := by
  obtain ⟨fields, hfields, hbase⟩ := h.fields
  obtain ⟨identity, hid, hplain⟩ := h.identity
  obtain ⟨f, hf⟩ := Option.ne_none_iff_exists'.mp
    ((h.schema.facts_ne_none hfields (hid ▸ Option.some_ne_none _)).mpr hn)
  obtain ⟨g1, g2, _, g4, _, _, _, g8, _, _, _⟩ := PostingFields.facts?_eq_some.mp hf
  obtain ⟨_, _, _, _, _, _, hi, hs, _, _, hsrc, _⟩ := postingFields_eq_ok.mp hfields
  have hc := h.schema.checks
  have hcur := hbase _ g4
  refine ⟨f, ?_, hi ▸ g1, hcur, ?_, ?_, ⟨base, hcur⟩, ?_⟩
  · rw [canonicalElement_eq hfields, accountingCanonicalLine, hf]
    rfl
  · rw [Option.some.inj ((hi.symm.trans g1).symm.trans hid)]
    exact hplain
  · have hside := hc.side
    rw [← hs, g2] at hside
    simpa [fails, or_iff_not_imp_left] using hside
  · have hsource := hc.rateSource
    rw [← hsrc, g8] at hsource
    simpa [fails, RATE_SOURCES, or_iff_not_imp_left] using hsource

/-- An element without canonical text holds such a null. -/
theorem Readable.noNulls (h : Readable base e) (hne : canonicalElement e ≠ none) : NoNulls e := by
  obtain ⟨fields, hfields, _⟩ := h.fields
  obtain ⟨identity, hid, _⟩ := h.identity
  refine (h.schema.facts_ne_none hfields (hid ▸ Option.some_ne_none _)).mp fun hn => hne ?_
  rw [canonicalElement_eq hfields, accountingCanonicalLine, hn]
  rfl

theorem states_all (h : ∀ e ∈ es, Readable base e) (hn : ∀ e ∈ es, NoNulls e) :
    ∃ fs, List.Forall₂ (States base) es fs := by
  induction es with
  | nil => exact ⟨[], .nil⟩
  | cons e es ih =>
      obtain ⟨f, hf⟩ := (h e List.mem_cons_self).states (hn e List.mem_cons_self)
      obtain ⟨fs, hfs⟩ := ih (fun d hd => h d (List.mem_cons_of_mem e hd))
        fun d hd => hn d (List.mem_cons_of_mem e hd)
      exact ⟨f :: fs, .cons hf hfs⟩

theorem states_canonical {fs : List LineFacts} (h : List.Forall₂ (States base) es fs) :
    es.map canonicalElement = (fs.map LineFacts.chars).map some := by
  induction h with
  | nil => rfl
  | cons hf _ ih => rw [List.map_cons, ih, hf.canonical, List.map_cons, List.map_cons]

end Commands

/-! ## 2. What a call writes -/

/-- An entry created by a call. -/
structure Created (db db' : Ledger) (c : PostingCommand) (p : PreparedPosting) (r : PostingResult)
    (entry : PostedEntry) : Prop where
  source : entry.source = c.actor.source
  date : c.entryDate = some (.day entry.entryDate)
  fingerprint : p.fingerprint = some entry.postingFingerprint
  lines : ∃ m, journalLines m p.lines = .ok entry.lines
  base : ∀ l ∈ entry.lines, l.baseCurrency = db.baseCurrency
  journal : db'.journal.entries = entry :: db.journal.entries
  store : db'.store = db.store
  accounts : db'.accounts = db.accounts
  baseCurrency : db'.baseCurrency = db.baseCurrency
  result : r = ⟨entry.id, true⟩

section Creation

variable {m : PostingMoment} {db db' : Ledger} {c : PostingCommand} {p : PreparedPosting}
  {r : PostingResult} {es : List Jsonb} {accounts : AccountTable} {entry : PostedEntry}

theorem entryRow_eq_ok {fp : Option String} (h : entryRow m db c fp = .ok entry) :
    entry.source = c.actor.source ∧ c.entryDate = some (.day entry.entryDate) ∧
      fp = some entry.postingFingerprint := by
  unfold entryRow at h
  split at h
  · cases h
  · rename_i date hdate
    simp only [bind_eq_ok] at h
    obtain ⟨_, _, _, _, h⟩ := h
    split at h
    · simp only [bind_eq_ok, pure_eq_ok] at h
      obtain ⟨_, _, _, _, _, _, rfl⟩ := h
      exact ⟨rfl, hdate, rfl⟩
    · cases h

theorem Journal.insert_eq_ok {j j' : Journal} (h : j.insert entry = .ok j') :
    j'.entries = entry :: j.entries := by
  unfold insert at h
  split at h
  · cases h
    rfl
  · cases h

theorem accountingAssertEntryValid_base (h : accountingAssertEntryValid db entry = .ok ()) :
    ∀ l ∈ entry.lines, l.baseCurrency = db.baseCurrency := by
  simp only [accountingAssertEntryValid, bind_eq_ok, refuseIf_eq_ok, exists_const, not_exists,
    not_and, not_not] at h
  exact h.2.1

theorem createEntry_eq_ok (h : createEntry m db c p = .ok (db', r)) :
    ∃ entry, Created db db' c p r entry := by
  simp only [createEntry, bind_eq_ok, pure_eq_ok, Prod.mk.injEq] at h
  obtain ⟨_, _, row, hrow, lines, hlines, journal, hjournal, _, hvalid, _, _, rfl, rfl⟩ := h
  obtain ⟨hsource, hdate, hfp⟩ := entryRow_eq_ok hrow
  exact ⟨{ row with lines := lines }, hsource, hdate, hfp, ⟨m, hlines⟩,
    accountingAssertEntryValid_base hvalid, Journal.insert_eq_ok hjournal, rfl, rfl, rfl, rfl⟩

theorem journalLines_eq_ok {pls : List PostingLine} {ls : List JournalLine}
    (h : journalLines m pls = .ok ls) :
    List.Forall₂ (fun pl l => ∃ n, journalLine m n pl = .ok l) pls ls := by
  have hall : ∀ n, (pls.zipIdx n).mapM (fun l => journalLine m (l.2 + 1) l.1) = .ok ls →
      List.Forall₂ (fun pl l => ∃ n, journalLine m n pl = .ok l) pls ls := by
    clear h
    induction pls generalizing ls with
    | nil =>
        intro n h
        cases mapM_eq_ok.mp h
        exact .nil
    | cons pl pls ih =>
        intro n h
        rw [List.zipIdx_cons, mapM_eq_ok] at h
        cases h with
        | cons hl h => exact .cons ⟨_, hl⟩ (ih _ (mapM_eq_ok.mpr h))
  exact hall 0 h

/-- The account of a line has the name the line gives it. -/
def PostingLine.Resolved (accounts : AccountTable) (l : PostingLine) : Prop :=
  ∀ a, l.account = some a →
    a ∈ accounts.rows ∧ ∃ identity, l.fields.identity = some identity ∧ a.Named identity

theorem Prepared.lines_resolved (h : Prepared db c p es) :
    ∀ l ∈ p.lines, l.Resolved db.accounts := by
  intro l hl a ha
  obtain ⟨e, _, hline⟩ := mapM_source h.resolved hl
  obtain ⟨hfields, haccount⟩ := resolveLine_eq_ok.mp hline
  obtain ⟨ha, identity, hid, hn⟩ := named_of_resolved (haccount ▸ ha)
  exact ⟨ha, identity, (postingFields_eq_ok.mp hfields).2.2.2.2.2.2.1.trans hid, hn⟩

/-- **Inserted lines hold the facts of the submitted ones, all of them.** -/
theorem stored_of_inserted {pls : List PostingLine} {ls : List JournalLine}
    (hres : ∀ l ∈ pls, l.Resolved accounts)
    (h : List.Forall₂ (fun pl l => ∃ n, journalLine m n pl = .ok l) pls ls) :
    ∃ fs, List.Forall₂ (StoredAs accounts) ls fs ∧
      pls.map (fun l => accountingCanonicalLine l.fields) = (fs.map LineFacts.chars).map some := by
  induction h with
  | nil => exact ⟨[], .nil, rfl⟩
  | @cons pl l pls ls hl _ ih =>
      obtain ⟨fs, hfs, hcanonical⟩ := ih fun x hx => hres x (List.mem_cons_of_mem pl hx)
      obtain ⟨n, hl⟩ := hl
      obtain ⟨f, a, hfacts, haccount, haid, _, hcolumns⟩ := journalLine_eq_ok hl
      obtain ⟨ha, identity, hid, hn⟩ := hres pl List.mem_cons_self a haccount
      have hname : f.identity = identity :=
        Option.some.inj ((PostingFields.facts?_eq_some.mp hfacts).1.symm.trans hid)
      refine ⟨f :: fs, .cons ⟨⟨a, ha, haid.symm, hname ▸ hn⟩, hcolumns⟩ hfs, ?_⟩
      rw [List.map_cons, hcanonical, List.map_cons, List.map_cons, accountingCanonicalLine, hfacts]
      rfl

/-- **A created entry holds the submitted lines, and its fingerprint is theirs.** -/
theorem Created.posted (h : Created db db' c p r entry) (hp : Prepared db c p es) :
    ∃ fs, entry.PostedAs db.accounts fs ∧
      c.canonicalLines = (fs.map LineFacts.chars).map some ∧
      c.stream = some (postingStream entry.source entry.entryDate (fs.map LineFacts.chars)) := by
  obtain ⟨m, hlines⟩ := h.lines
  obtain ⟨fs, hfs, hcanonical⟩ := stored_of_inserted hp.lines_resolved (journalLines_eq_ok hlines)
  rw [← hp.canonicalLines] at hcanonical
  have hstream : c.stream =
      some (postingStream entry.source entry.entryDate (fs.map LineFacts.chars)) := by
    unfold PostingCommand.stream
    rw [h.date, hcanonical, h.source, List.filterMap_map]
    simp
  refine ⟨fs, ⟨hfs, ?_⟩, hcanonical, hstream⟩
  have hfp := hp.stream
  rw [h.fingerprint, hstream] at hfp
  exact Option.some.inj hfp

end Creation

/-! ## 3. Faithful ledgers -/

/-- Every entry is as it was posted, its stream among the messages. -/
structure Ledger.Faithful (messages : List (List UInt8)) (db : Ledger) : Prop where
  posted : ∀ e ∈ db.journal.entries, ∃ fs, e.PostedAs db.accounts fs ∧
    postingStream e.source e.entryDate (fs.map LineFacts.chars) ∈ messages
  owner : ∀ e ∈ db.journal.entries,
    e.source.businessId = db.store.businessId ∧ e.source.tenantId = db.store.tenantId
  base : ∀ e ∈ db.journal.entries, ∀ l ∈ e.lines, l.baseCurrency = db.baseCurrency

section Faithfulness

variable {m : PostingMoment} {db db' : Ledger} {c : PostingCommand} {r : PostingResult}
  {messages : List (List UInt8)} {accounts : AccountTable}

theorem Ledger.faithful_empty (h : db.journal = .empty) : db.Faithful messages := by
  constructor <;> (rw [h]; intro e he; cases he)

theorem PostedEntry.PostedAs.keep {e : PostedEntry} {fs : List LineFacts} {used : List Uuid}
    (h : e.PostedAs accounts fs) (hused : ∀ l ∈ e.lines, l.accountId ∈ used)
    {other : AccountTable} (hk : Keeps used accounts other) : e.PostedAs other fs := by
  refine ⟨?_, h.fingerprint⟩
  have hall := h.lines
  clear h
  revert hused hall
  generalize e.lines = ls
  intro hused hall
  induction hall with
  | nil => exact .nil
  | cons hl _ ih =>
      exact .cons (hl.keep (hused _ List.mem_cons_self) hk)
        (ih fun l hm => hused l (List.mem_cons_of_mem _ hm))

/-- The accounts may change as the guards allow. -/
theorem Ledger.Faithful.withAccounts (h : db.Faithful messages)
    (hk : Keeps db.journal.usedAccounts db.accounts accounts) :
    Ledger.Faithful messages { db with accounts := accounts } := by
  refine ⟨fun e he => ?_, h.owner, h.base⟩
  obtain ⟨fs, hfs, hm⟩ := h.posted e he
  refine ⟨fs, hfs.keep (fun l hl => ?_) hk, hm⟩
  exact List.mem_flatMap.mpr ⟨e, he, List.mem_map_of_mem hl⟩

theorem accountingActor_eq_ok {store : PeriodStore} {actor : PostingActor} :
    accountingActor store actor = .ok () ↔ actor.operationKind = "post" ∧
      actor.source.businessId = store.businessId ∧ store.tenantId = actor.source.tenantId := by
  simp only [accountingActor, bind_eq_ok, refuseIf_eq_ok, exists_const, not_not]

theorem accountingPostEntry_faithful (h : db.Faithful messages)
    (hms : c.stream.toList ⊆ messages) (hcall : accountingPostEntry m db c = .ok (db', r)) :
    db'.Faithful messages := by
  obtain ⟨p, hprep, hdone⟩ := accountingPostEntry_cases hcall
  obtain ⟨es, hp⟩ := preparePosting_eq_ok.mp hprep
  rcases hdone with ⟨_, _, _, rfl, _⟩ | ⟨_, hcreate⟩
  · exact h
  · obtain ⟨entry, hc⟩ := createEntry_eq_ok hcreate
    obtain ⟨fs, hposted, _, hstream⟩ := hc.posted hp
    obtain ⟨_, hbusiness, htenant⟩ := accountingActor_eq_ok.mp hp.actor
    rw [hstream] at hms
    constructor
    · rw [hc.journal, hc.accounts]
      exact List.forall_mem_cons.mpr ⟨⟨fs, hposted, hms List.mem_cons_self⟩, h.posted⟩
    · rw [hc.journal, hc.store]
      refine List.forall_mem_cons.mpr ⟨?_, h.owner⟩
      rw [hc.source]
      exact ⟨hbusiness, htenant.symm⟩
    · rw [hc.journal, hc.baseCurrency]
      exact List.forall_mem_cons.mpr ⟨hc.base, h.base⟩

/-- **Every call keeps the ledger faithful.** -/
theorem ledgerCall_faithful {call : LedgerCall} {answer : Option PostingResult}
    (h : db.Faithful messages) (hms : call.messages ⊆ messages)
    (hcall : ledgerCall db call = .ok (db', answer)) : db'.Faithful messages := by
  cases call with
  | post m c =>
      simp only [ledgerCall, bind_eq_ok, pure_eq_ok, Prod.mk.injEq] at hcall
      obtain ⟨⟨_, _⟩, hpost, rfl, _⟩ := hcall
      exact accountingPostEntry_faithful h hms hpost
  | insertAccount row =>
      simp only [ledgerCall, bind_eq_ok, pure_eq_ok, Prod.mk.injEq] at hcall
      obtain ⟨_, hinsert, rfl, _⟩ := hcall
      exact h.withAccounts (AccountTable.insert_keeps hinsert)
  | updateAccount id row =>
      simp only [ledgerCall, bind_eq_ok, pure_eq_ok, Prod.mk.injEq] at hcall
      obtain ⟨_, hupdate, rfl, _⟩ := hcall
      exact h.withAccounts (AccountTable.update_keeps hupdate)
  | deleteAccount id =>
      simp only [ledgerCall, bind_eq_ok, pure_eq_ok, Prod.mk.injEq] at hcall
      obtain ⟨_, hdelete, rfl, _⟩ := hcall
      exact h.withAccounts (AccountTable.delete_keeps hdelete)
  | period c =>
      simp only [ledgerCall, bind_eq_ok, pure_eq_ok, Prod.mk.injEq] at hcall
      obtain ⟨⟨t, _⟩, hperiod, rfl, _⟩ := hcall
      obtain ⟨htenant, hbusiness⟩ := periodCall_names hperiod
      refine ⟨h.posted, fun e he => ?_, h.base⟩
      exact ⟨(h.owner e he).1.trans hbusiness.symm, (h.owner e he).2.trans htenant.symm⟩
  | setTimezone timezone =>
      simp only [ledgerCall, pure_eq_ok, Prod.mk.injEq] at hcall
      obtain ⟨rfl, _⟩ := hcall
      exact ⟨h.posted, h.owner, h.base⟩
  | setBaseCurrency currency =>
      simp only [ledgerCall, businessesBaseCurrencyLock, bind_eq_ok, refuseIf_eq_ok, exists_const,
        pure_eq_ok, Prod.mk.injEq, not_and, not_not] at hcall
      obtain ⟨hlock, rfl, _⟩ := hcall
      refine ⟨h.posted, h.owner, fun e he l hl => ?_⟩
      by_cases hsame : currency = db.baseCurrency
      · exact (h.base e he l hl).trans hsame.symm
      · -- With an entry there, the lock refuses another currency.
        have hempty : db.journal.entries = [] := hlock hsame
        rw [hempty] at he
        cases he

/-- **Every history keeps the ledger faithful.** -/
theorem faithful_afterAll {history : List LedgerCall} (h : db.Faithful messages)
    (hms : history.flatMap LedgerCall.messages ⊆ messages) :
    (afterAll ledgerCall db history).Faithful messages := by
  refine afterAll_invariant (I := Ledger.Faithful messages) (fun s call hcall t answer hs hok => ?_) h
  exact ledgerCall_faithful hs (fun x hx => hms (List.mem_flatMap_of_mem hcall hx)) hok

/-- No entry is ever removed. -/
theorem entries_afterAll {history : List LedgerCall} {e : PostedEntry}
    (he : e ∈ db.journal.entries) : e ∈ (afterAll ledgerCall db history).journal.entries := by
  refine afterAll_invariant (I := fun s : Ledger => e ∈ s.journal.entries) ?_ he
  intro s call _ t answer hs hok
  cases call with
  | post m c =>
      simp only [ledgerCall, bind_eq_ok, pure_eq_ok, Prod.mk.injEq] at hok
      obtain ⟨⟨_, _⟩, hpost, rfl, _⟩ := hok
      obtain ⟨p, _, hdone⟩ := accountingPostEntry_cases hpost
      rcases hdone with ⟨_, _, _, rfl, _⟩ | ⟨_, hcreate⟩
      · exact hs
      · obtain ⟨entry, hc⟩ := createEntry_eq_ok hcreate
        rw [hc.journal]
        exact List.mem_cons_of_mem _ hs
  | _ =>
      simp only [ledgerCall, bind_eq_ok, pure_eq_ok, Prod.mk.injEq] at hok
      first
        | obtain ⟨rfl, _⟩ := hok
          exact hs
        | obtain ⟨_, _, rfl, _⟩ := hok
          exact hs

end Faithfulness

/-! ## 4. Answers -/

section Answers

variable {m : PostingMoment} {db db' : Ledger} {c : PostingCommand} {r : PostingResult}
  {messages : List (List UInt8)} {base : Currency} {e : PostedEntry} {fs gs : List LineFacts}
  {es : List Jsonb}

theorem upper_code_inj : ∀ a b : Currency, upper a.code = upper b.code → a = b := by
  intro a b
  cases a <;> cases b <;> decide

/-- **An element of a posted stream names an account of the chart, in the base currency.** -/
theorem answered_line (h : db.Faithful messages) (he : e ∈ db.journal.entries)
    (hposted : e.PostedAs db.accounts fs) {g : LineFacts} {el : Jsonb} (hread : Readable base el)
    (hg : States base el g) (hmem : g.chars ∈ fs.map LineFacts.chars) :
    namedAccount db.accounts el ≠ none ∧ base = db.baseCurrency := by
  obtain ⟨f, hf, hchars⟩ := List.mem_map.mp hmem
  obtain ⟨l, hl, hstored⟩ := forall₂_source hposted.lines hf
  obtain ⟨hid, hcur⟩ := cut_line hstored.stored.toHead hg.head hchars
  obtain ⟨a, ha, _, hnamed⟩ := hstored.account
  refine ⟨resolved_of_named hread.schema.checks hread.kind hg.identity ha (hid ▸ hnamed), ?_⟩
  have hbase : f.baseCurrency = db.baseCurrency.code := by
    rw [hstored.columns, ← h.base e he l hl]
    rfl
  rw [hbase, hg.base] at hcur
  exact (upper_code_inj _ _ hcur).symm

theorem bySource_eq_some : db.journal.bySource c.actor.source = some e ↔
    e ∈ db.journal.entries ∧ e.source = c.actor.source := find?_key db.journal.sources

/-- A posted source decides the call. -/
theorem accountingPostEntry_posted {p : PreparedPosting} (he : e ∈ db.journal.entries)
    (hsource : e.source = c.actor.source) (hp : preparePosting db c = .ok p) :
    accountingPostEntry m db c = if some e.postingFingerprint = p.fingerprint then
      .ok (db, ⟨e.id, false⟩) else .error (.accounting .idempotencyConflict) := by
  unfold accountingPostEntry
  rw [hp, ok_bind, bySource_eq_some.mpr ⟨he, hsource⟩]
  rfl

/-- A command whose elements are readable, signed for its stream. -/
structure Signed (base : Currency) (c : PostingCommand) (es : List Jsonb) : Prop where
  kind : c.actor.operationKind = "post"
  lines : c.lines = some (.array es)
  length : 2 ≤ es.length
  readable : ∀ el ∈ es, Readable base el
  stream : ∃ s, c.stream = some s ∧ digest s = c.actor.postingFingerprint

/-- **A signed command is prepared wherever its elements name accounts.** -/
theorem Signed.prepared (hc : Signed base c es) (db : Ledger)
    (hbusiness : c.actor.source.businessId = db.store.businessId)
    (htenant : c.actor.source.tenantId = db.store.tenantId)
    (hline : ∀ el ∈ es, namedAccount db.accounts el ≠ none ∧ base = db.baseCurrency) :
    ∃ p, preparePosting db c = .ok p ∧ p.fingerprint = some c.actor.postingFingerprint ∧
      es.mapM (resolveLine db.accounts) = .ok p.lines := by
  obtain ⟨lines, hlines⟩ : ∃ lines, es.mapM (resolveLine db.accounts) = .ok lines :=
    mapM_of_forall fun el hel => by
      obtain ⟨fields, hfields, _⟩ := (hc.readable el hel).fields
      exact ⟨⟨fields, _⟩, resolveLine_eq_ok.mpr ⟨hfields, rfl⟩⟩
  have hels : c.elements = es := by
    unfold PostingCommand.elements
    rw [hc.lines]
  obtain ⟨s, hstream, hdigest⟩ := hc.stream
  refine ⟨⟨lines, some c.actor.postingFingerprint⟩, preparePosting_eq_ok.mpr ⟨es, ?_⟩, rfl, hlines⟩
  constructor
  case actor => exact accountingActor_eq_ok.mpr ⟨hc.kind, hbusiness, htenant.symm⟩
  case payload =>
    exact checkPayload_eq_ok.mpr ⟨hc.lines, hc.length, fun el hel => (hc.readable el hel).schema⟩
  case resolved => exact hlines
  case accounts =>
    refine requireAccounts_eq_ok.mpr fun l hl => ?_
    obtain ⟨el, hel, hres⟩ := mapM_source hlines hl
    rw [(resolveLine_eq_ok.mp hres).2]
    exact (hline el hel).1
  case base =>
    refine requireBaseCurrency_eq_ok.mpr fun l hl text htext => ?_
    obtain ⟨el, hel, hres⟩ := mapM_source hlines hl
    obtain ⟨fields, hfields, hbase⟩ := (hc.readable el hel).fields
    rw [(resolveLine_eq_ok.mp hres).1] at hfields
    cases hfields
    rw [← (hline el hel).2]
    exact hbase text htext
  case fingerprint =>
    rw [← canonical_resolved hlines, ← hels]
    show _ = accountingFingerprint c.actor.source c.entryDate c.canonicalLines
    rw [fingerprint_eq_stream, hstream, Option.map_some, hdigest]
  case signed => simp [fails]

/-- What a command must be to repeat an entry. -/
structure Repeats (messages : List (List UInt8)) (base : Currency) (e : PostedEntry)
    (c : PostingCommand) (es : List Jsonb) : Prop extends Signed base c es where
  source : c.actor.source = e.source
  fingerprint : c.actor.postingFingerprint = e.postingFingerprint
  noNulls : ∀ el ∈ es, NoNulls el
  hashed : c.stream.toList ⊆ messages

theorem Repeats.mono {more : List (List UInt8)} (hc : Repeats messages base e c es)
    (hsub : messages ⊆ more) : Repeats more base e c es :=
  { hc with hashed := fun _ hx => hsub (hc.hashed hx) }

/-- The date of a command, as text. -/
def PostingCommand.dateText (c : PostingCommand) : Option (List Char) :=
  match c.entryDate with
  | some (.day d) => some (isoDateChars d)
  | _ => none

theorem Repeats.canonicalLines (hc : Repeats messages base e c es)
    (hgs : List.Forall₂ (States base) es gs) :
    c.canonicalLines = (gs.map LineFacts.chars).map some := by
  rw [← states_canonical hgs]
  unfold PostingCommand.canonicalLines PostingCommand.elements
  rw [hc.lines]

/-- **A command that repeats an entry has its date text and its lines.** -/
theorem Repeats.facts (hc : Repeats messages base e c es) (hfree : CollisionFree messages)
    (hposted : e.PostedAs db.accounts fs)
    (hms : postingStream e.source e.entryDate (fs.map LineFacts.chars) ∈ messages)
    (hgs : List.Forall₂ (States base) es gs) :
    c.dateText = some (isoDateChars e.entryDate) ∧
      (fs.map LineFacts.chars).Perm (gs.map LineFacts.chars) := by
  obtain ⟨s, hstream, hdigest⟩ := hc.stream
  have hs : s ∈ messages := hc.hashed (by simp [hstream])
  have hsame := hfree s hs _ hms ((hdigest.trans hc.fingerprint).trans hposted.fingerprint)
  have hheads : ∀ g ∈ gs, g.Head := fun g hg => by
    obtain ⟨_, _, hstates⟩ := forall₂_source hgs hg
    exact hstates.head
  unfold PostingCommand.stream at hstream
  unfold PostingCommand.dateText
  split at hstream
  · rw [hc.canonicalLines hgs, hc.source, List.filterMap_map] at hstream
    have hday := Option.some.inj hstream
    rw [Function.id_comp, List.filterMap_some, hsame] at hday
    obtain ⟨hdate, hperm⟩ := lines_of_stream hposted.stored hheads hday.symm
    exact ⟨congrArg some hdate.symm, hperm⟩
  · cases hstream

/-- **An entry answers every command that repeats it.** -/
theorem posted_answers (h : db.Faithful messages) (hfree : CollisionFree messages)
    (he : e ∈ db.journal.entries) (hc : Repeats messages base e c es) :
    accountingPostEntry m db c = .ok (db, ⟨e.id, false⟩) := by
  obtain ⟨fs, hposted, hms⟩ := h.posted e he
  obtain ⟨gs, hgs⟩ := states_all hc.readable hc.noNulls
  obtain ⟨_, hperm⟩ := hc.facts hfree hposted hms hgs
  have hline : ∀ el ∈ es, namedAccount db.accounts el ≠ none ∧ base = db.baseCurrency := by
    intro el hel
    obtain ⟨g, hg, hstates⟩ := forall₂_target hgs hel
    exact answered_line h he hposted (hc.readable el hel) hstates
      (hperm.mem_iff.mpr (List.mem_map_of_mem hg))
  obtain ⟨hbusiness, htenant⟩ := h.owner e he
  obtain ⟨p, hp, hfp, _⟩ := hc.prepared db (hc.source ▸ hbusiness) (hc.source ▸ htenant) hline
  rw [accountingPostEntry_posted he hc.source.symm hp, hfp, hc.fingerprint, if_pos rfl]

/-- A prepared command with the fingerprint of an entry of its source repeats it. -/
theorem Prepared.repeats {p : PreparedPosting} (hp : Prepared db c p es)
    (hsource : e.source = c.actor.source) (hfp : p.fingerprint = some e.postingFingerprint)
    (hnulls : ∀ el ∈ c.elements, NoNulls el) (hms : c.stream.toList ⊆ messages) :
    Repeats messages db.baseCurrency e c es := by
  have hsigned := hp.signed
  have hstream := hp.stream
  rw [hfp] at hsigned hstream
  have hfingerprint : e.postingFingerprint = c.actor.postingFingerprint := by
    simpa [fails] using hsigned
  obtain ⟨s, hs, hdigest⟩ := Option.map_eq_some_iff.mp hstream.symm
  obtain ⟨hlines, hlength, _⟩ := checkPayload_eq_ok.mp hp.payload
  rw [hp.elements] at hnulls
  exact ⟨⟨(accountingActor_eq_ok.mp hp.actor).1, hlines, hlength, hp.readable, s, hs,
    hdigest.trans hfingerprint⟩, hsource.symm, hfingerprint.symm, hnulls, hms⟩

end Answers

end Daftar.Accounting
