/-
  File: Daftar/Accounting/ReversalReplay.lean
  Subject: Reversals sent again, at any later time.

  * `Recorded`: what a ledger holds of an accepted reversal. Every later call keeps it: the accounts
    of the original keep their names, whatever else happens to them.
  * `reverses_once`: the command sent again is answered with the reversal there is, unless its date
    is not yet today where the business now is, and no other command reverses the entry again.
-/

import Daftar.Accounting.StandingEntries

namespace Daftar.Accounting

open Fallible
open Histories

/-! ## 1. The mirror in later ledgers -/

section Mirror

variable {accounts other : AccountTable} {original : PostedEntry} {used : List Uuid}

theorem identity_congr {a b : Account} (hcode : b.code = a.code)
    (hkey : b.systemKey = a.systemKey) : b.identity = a.identity := by
  unfold Account.identity
  rw [hcode, hkey]

/-- **The mirror of an entry is in later ledgers what it was.** -/
theorem mirroredLines_keep (hcharted : original.Charted accounts) (hk : Keeps used accounts other)
    (hused : ∀ l ∈ original.lines, l.accountId ∈ used) :
    (mirroredLines other original).map PostingLine.fields =
      (mirroredLines accounts original).map PostingLine.fields := by
  have hall : ∀ l ∈ original.linesInOrder, ∃ a b, accounts.find? l.accountId = some a ∧
      other.find? l.accountId = some b ∧ b.identity = a.identity := by
    intro l hl
    have hmem := original.linesInOrder_perm.mem_iff.mp hl
    obtain ⟨a, ha, hid⟩ := hcharted l hmem
    obtain ⟨b, hb, hbid, hcode, hkey⟩ := hk a ha (hid ▸ hused l hmem)
    exact ⟨a, b, AccountTable.find?_eq_some.mpr ⟨ha, hid⟩,
      AccountTable.find?_eq_some.mpr ⟨hb, hbid.trans hid⟩, identity_congr hcode hkey⟩
  unfold mirroredLines
  generalize original.linesInOrder = ls at hall
  induction ls with
  | nil => rfl
  | cons l ls ih =>
      rw [List.forall_mem_cons] at hall
      obtain ⟨⟨a, b, ha, hb, hname⟩, hrest⟩ := hall
      have hfields : (mirroredLine b l).fields = (mirroredLine a l).fields := by
        simp only [mirroredLine, hname]
      simp only [List.filterMap_cons, ha, hb, Option.map_some, List.map_cons, hfields]
      rw [ih hrest]

end Mirror

/-! ## 2. What is recorded of a reversal -/

/-- The ledger holds the reversal a command asked for, under an id. -/
structure RecordedAs (s : SourceLedger) (c : ReversalCommand) (original e : PostedEntry)
    (row : ReversalRow) : Prop where
  authority : sourceAuthority c.actor "reverse" "reversal" = .ok ()
  named : c.originalEntryId = some c.actor.source.sourceId
  business : ownsBusiness s.ledger.store c.actor.source = .ok ()
  stored : original ∈ s.ledger.journal.entries
  isOriginal : original.id = c.actor.source.sourceId
  generic : original.source.sourceType ≠ "reversal"
  enough : 2 ≤ (mirroredLines s.ledger.accounts original).length
  base : requireBaseCurrency s.ledger.baseCurrency (mirroredLines s.ledger.accounts original) =
    .ok ()
  date : c.entryDate = some (.day e.entryDate)
  notBefore : original.entryDate ≤ e.entryDate
  fingerprint : accountingFingerprint c.actor.source (some (.day e.entryDate))
    ((mirroredLines s.ledger.accounts original).map fun l => accountingCanonicalLine l.fields) =
      some e.postingFingerprint
  signed : e.postingFingerprint = c.actor.postingFingerprint
  entered : e ∈ s.ledger.journal.entries
  source : e.source = c.actor.source
  registered : row ∈ s.reversals.rows
  ofEntry : row.journalEntryId = e.id
  reason : row.reason.text = trimSpaces (c.reason.getD "")

def Recorded (s : SourceLedger) (c : ReversalCommand) (id : Uuid) : Prop :=
  ∃ original e row, RecordedAs s c original e row ∧ e.id = id

section Recording

variable {s s' : SourceLedger} {c c' : ReversalCommand} {original e : PostedEntry}
  {row : ReversalRow} {m : ReversalMoment} {r : PostingResult} {id : Uuid} {p : PreparedReversal}

theorem ofEntry_eq_some {t : ReversalTable} : t.ofEntry id = some row ↔
    row ∈ t.rows ∧ row.journalEntryId = id := Tables.find?_key t.entries

theorem signed_of_fails {fp : String} {signed : String}
    (h : fails (· == signed) (some fp) = false) : fp = signed := by
  simpa [fails] using h

theorem fields_congr {ls ks : List PostingLine}
    (h : ls.map PostingLine.fields = ks.map PostingLine.fields) :
    (ls.map fun l => accountingCanonicalLine l.fields) =
      ks.map fun l => accountingCanonicalLine l.fields := by
  have hmap := congrArg (List.map accountingCanonicalLine) h
  rwa [List.map_map, List.map_map] at hmap

theorem requireBaseCurrency_congr {base : Currency} {ls ks : List PostingLine}
    (h : ls.map PostingLine.fields = ks.map PostingLine.fields)
    (hls : requireBaseCurrency base ls = .ok ()) : requireBaseCurrency base ks = .ok () := by
  rw [requireBaseCurrency_eq_ok] at hls ⊢
  intro k hk
  have hmem : k.fields ∈ ls.map PostingLine.fields := by
    rw [h]
    exact List.mem_map_of_mem hk
  obtain ⟨l, hl, hfields⟩ := List.mem_map.mp hmem
  rw [← hfields]
  exact hls l hl

/-- **An accepted reversal is recorded.** -/
theorem recorded_of_accepted (hs : SoundReversals s)
    (h : accountingPostReversal m s c = .ok (s', r)) : Recorded s' c r.entryId := by
  obtain ⟨p, hp, hdone⟩ := accountingPostReversal_cases h
  obtain ⟨hstored, hid⟩ := byId_eq_some.mp hp.original
  have hreason := requiredReason_eq_ok hp.reason
  have hfp := hp.fingerprint
  have henough := hp.enough
  have hbase := hp.base
  rw [hp.lines] at hfp henough hbase
  rcases hdone with ⟨rfl, e, he, hsource, hsame, hdate, hrow, rfl⟩ | ⟨_, e, row, hw, rfl⟩
  · obtain ⟨row, hrow, htext⟩ := Option.map_eq_some_iff.mp hrow
    obtain ⟨hrow, hentry⟩ := ofEntry_eq_some.mp hrow
    have hsigned := hp.signed
    have hnot := hp.notBefore
    rw [← hsame] at hsigned hfp
    rw [← hdate] at hfp hnot
    exact ⟨p.original, e, row, ⟨hp.authority, hp.named, hp.business, hstored, hid, hp.generic,
      henough, hbase, hdate ▸ hp.date, PgDate.not_before_day hnot, hfp.symm,
      signed_of_fails hsigned, he, hsource, hrow, hentry, htext.trans hreason⟩, rfl⟩
  · have hr := hw.reverses
    have hsigned := hp.signed
    rw [hw.fingerprint] at hsigned hfp
    rw [hw.date] at hfp
    refine ⟨p.original, e, row, ⟨hp.authority, hp.named, hr.ledger.store ▸ hp.business, ?_, hid,
      hp.generic, ?_, ?_, hw.date ▸ hp.date, hr.notBefore, ?_, signed_of_fails hsigned, ?_,
      hw.source, ?_, hr.ofEntry, (congrArg StoredReason.text hw.reason).trans hreason⟩, rfl⟩
    · rw [hr.ledger.entries]
      exact List.mem_cons_of_mem _ hstored
    · rw [hr.ledger.accounts]
      exact henough
    · rw [hr.ledger.accounts, hr.ledger.base]
      exact hbase
    · rw [hr.ledger.accounts]
      exact hfp.symm
    · rw [hr.ledger.entries]
      exact List.mem_cons_self
    · rw [hr.rows]
      exact List.mem_cons_self

/-- The names and the settings a record was made under may change as the guards allow. -/
theorem RecordedAs.keep (h : RecordedAs s c original e row) (hs : SourceEffect s s')
    (hmirror : (mirroredLines s'.ledger.accounts original).map PostingLine.fields =
      (mirroredLines s.ledger.accounts original).map PostingLine.fields)
    (hstore : s'.ledger.store.tenantId = s.ledger.store.tenantId ∧
      s'.ledger.store.businessId = s.ledger.store.businessId)
    (hbase : s'.ledger.baseCurrency = s.ledger.baseCurrency)
    (hrow : row ∈ s'.reversals.rows) : RecordedAs s' c original e row := by
  refine ⟨h.authority, h.named, ?_, hs.entries h.stored, h.isOriginal, h.generic, ?_, ?_, h.date,
    h.notBefore, ?_, h.signed, hs.entries h.entered, h.source, hrow, h.ofEntry, h.reason⟩
  · have hown := ownsBusiness_eq_ok.mp h.business
    rw [ownsBusiness_eq_ok, hstore.1, hstore.2]
    exact hown
  · have hlen := congrArg List.length hmirror
    rw [List.length_map, List.length_map] at hlen
    rw [hlen]
    exact h.enough
  · rw [hbase]
    exact requireBaseCurrency_congr hmirror.symm h.base
  · rw [fields_congr hmirror]
    exact h.fingerprint

/-- **Every later call keeps the record.** -/
theorem Recorded.step (h : Recorded s c id) (hk : s.ledger.Kept) (hs : SourceEffect s s') :
    Recorded s' c id := by
  obtain ⟨original, e, row, hr, hid⟩ := h
  refine ⟨original, e, row, ?_, hid⟩
  cases hs with
  | quiet hledger hreversals =>
      refine hr.keep (.quiet hledger hreversals) ?_ ⟨hledger.tenant, hledger.business⟩
        (hledger.base (List.ne_nil_of_mem hr.stored)) (hreversals ▸ hr.registered)
      refine mirroredLines_keep (hk.charted original hr.stored) hledger.accounts fun l hl => ?_
      exact List.mem_flatMap.mpr ⟨original, hr.stored, List.mem_map_of_mem hl⟩
  | adds e' hledger hreg hreversals =>
      refine hr.keep (.adds e' hledger hreg hreversals) ?_ ?_ hledger.base
        (hreversals ▸ hr.registered)
      · rw [hledger.accounts]
      · rw [hledger.store]
        exact ⟨rfl, rfl⟩
  | reverses original' e' row' hnew =>
      refine hr.keep (.reverses original' e' row' hnew) ?_ ?_ hnew.ledger.base ?_
      · rw [hnew.ledger.accounts]
      · rw [hnew.ledger.store]
        exact ⟨rfl, rfl⟩
      · rw [hnew.rows]
        exact List.mem_cons_of_mem _ hr.registered

/-! ## 3. Commands sent again -/

/-- The same command, of any user and under any request id; the reason may gain or lose spaces at
    its ends. -/
structure Resends (c c' : ReversalCommand) : Prop where
  kind : c'.actor.operationKind = c.actor.operationKind
  source : c'.actor.source = c.actor.source
  signed : c'.actor.postingFingerprint = c.actor.postingFingerprint
  original : c'.originalEntryId = c.originalEntryId
  date : c'.entryDate = c.entryDate
  reason : trimSpaces (c'.reason.getD "") = trimSpaces (c.reason.getD "")

theorem bySource_of_mem {j : Journal} {source : PostingSource} (he : e ∈ j.entries)
    (hsource : e.source = source) : j.bySource source = some e :=
  (Tables.find?_key j.sources).mpr ⟨he, hsource⟩

/-- What the command sent again comes to, up to the date its bound is read against. -/
theorem RecordedAs.prepare (h : RecordedAs s c original e row) (hc : Resends c c') :
    prepareReversal m.toPostingMoment s.ledger c' =
      if (PgDate.day e.entryDate).After (m.civilDate s.ledger.timezone m.now) then
        .error (.ledger (.accounting .entryDateInFuture))
      else .ok ⟨row.reason, .day e.entryDate, original, mirroredLines s.ledger.accounts original,
        some e.postingFingerprint⟩ := by
  have hauthority : sourceAuthority c'.actor "reverse" "reversal" = .ok () := by
    obtain ⟨hkind, hpair, htype⟩ := sourceAuthority_eq_ok.mp h.authority
    exact sourceAuthority_eq_ok.mpr ⟨hc.kind.trans hkind, hpair, hc.source ▸ htype⟩
  have hnamed : ¬ c'.originalEntryId ≠ some c.actor.source.sourceId :=
    not_not.mpr (hc.original.trans h.named)
  have hreason : requiredReason c'.reason .reversalReasonRequired = .ok row.reason :=
    requiredReason_of_text (hc.reason.trans h.reason.symm)
  have horiginal : s.ledger.journal.byId c.actor.source.sourceId = some original :=
    byId_eq_some.mpr ⟨h.stored, h.isOriginal⟩
  have hbase : ofLedger (requireBaseCurrency s.ledger.baseCurrency
      (mirroredLines s.ledger.accounts original)) = .ok () := ofLedger_eq_ok.mpr h.base
  have hsigned : ¬ fails (· == c'.actor.postingFingerprint) (some e.postingFingerprint) = true := by
    rw [hc.signed, ← h.signed]
    simp [fails]
  unfold prepareReversal
  dsimp only
  rw [hauthority, ok_bind, hc.source, refuseIf_of_not hnamed, ok_bind, hreason, ok_bind, hc.date,
    h.date, someOr_some, ok_bind, h.business, ok_bind, horiginal, someOr_some, ok_bind,
    refuseIf_of_not h.generic, ok_bind, refuseIf_of_not (not_lt.mpr h.enough), ok_bind, hbase,
    ok_bind]
  split
  · next hfuture =>
      rw [refuseIf_of hfuture]
      rfl
  · next hpast =>
      have hnot : ¬ (PgDate.day e.entryDate).Before original.entryDate := Int.not_lt.mpr h.notBefore
      rw [refuseIf_of_not hpast, ok_bind, notBeforeOriginal_eq_ok.mpr hnot, ok_bind, h.fingerprint,
        refuseIf_of_not hsigned]
      rfl

/-- **What is recorded answers the command sent again**, while its date is not after today. -/
theorem RecordedAs.replays (h : RecordedAs s c original e row) (hc : Resends c c')
    (hpast : ¬ (PgDate.day e.entryDate).After
      (m.civilDate s.ledger.timezone m.now)) :
    accountingPostReversal m s c' = .ok (s, ⟨e.id, false⟩) := by
  have hrow : (s.reversals.ofEntry e.id).map (fun r => r.reason.text) = some row.reason.text := by
    rw [ofEntry_eq_some.mpr ⟨h.registered, h.ofEntry⟩]
    rfl
  unfold accountingPostReversal
  rw [h.prepare hc, if_neg hpast, ok_bind,
    bySource_of_mem h.entered (h.source.trans hc.source.symm)]
  dsimp only
  rw [if_pos ⟨rfl, rfl, hrow⟩]
  rfl

/-- **The bound on dates comes before the answer**: a date that is not yet today is refused, also
    to the command that was accepted with it. -/
theorem RecordedAs.refuses (h : RecordedAs s c original e row) (hc : Resends c c')
    (hfuture : (PgDate.day e.entryDate).After (m.civilDate s.ledger.timezone m.now)) :
    accountingPostReversal m s c' = .error (.ledger (.accounting .entryDateInFuture)) := by
  unfold accountingPostReversal
  rw [h.prepare hc, if_pos hfuture]
  rfl

/-- **No other command reverses the entry.** -/
theorem RecordedAs.only (h : RecordedAs s c original e row)
    (hsource : c'.actor.source = c.actor.source)
    (hok : accountingPostReversal m s c' = .ok (s', r)) : s' = s ∧ r = ⟨e.id, false⟩ ∧
      c'.entryDate = c.entryDate ∧ trimSpaces (c'.reason.getD "") = trimSpaces (c.reason.getD "") := by
  have hthere := bySource_of_mem h.entered (h.source.trans hsource.symm)
  obtain ⟨p, hp, hdone⟩ := accountingPostReversal_cases hok
  rcases hdone with ⟨rfl, e', he', hs', _, hdate, hrow, rfl⟩ | ⟨hnone, _⟩
  · have hsame := hthere.symm.trans (bySource_of_mem he' hs')
    cases hsame
    rw [ofEntry_eq_some.mpr ⟨h.registered, h.ofEntry⟩] at hrow
    have htext : row.reason.text = p.reason.text := Option.some.inj hrow
    refine ⟨rfl, rfl, ?_, ?_⟩
    · rw [hp.date, ← hdate, h.date]
    · rw [← requiredReason_eq_ok hp.reason, ← htext, h.reason]
  · rw [hthere] at hnone
    cases hnone

end Recording

/-! ## 4. At any later time -/

/-- The reversal of an entry is answered to the command that made it, once its date is no later
    than today where the business now is, and to no other. -/
structure ReversesOnce (now : SourceLedger) (c : ReversalCommand) (id : Uuid) : Prop where
  replays : ∀ (m : ReversalMoment) (c' : ReversalCommand), Resends c c' →
    (∀ date, c.entryDate = some date → ¬ date.After (m.civilDate now.ledger.timezone m.now)) →
    sourceCall now (.reverse m c') = .ok (now, some ⟨id, false⟩)
  early : ∀ (m : ReversalMoment) (c' : ReversalCommand) (date : PgDate), Resends c c' →
    c.entryDate = some date → date.After (m.civilDate now.ledger.timezone m.now) →
    sourceCall now (.reverse m c') = .error (.ledger (.accounting .entryDateInFuture))
  only : ∀ (m : ReversalMoment) (c' : ReversalCommand) (t : SourceLedger) (r : PostingResult),
    c'.actor.source = c.actor.source → sourceCall now (.reverse m c') = .ok (t, some r) →
    t = now ∧ r = ⟨id, false⟩ ∧ c'.entryDate = c.entryDate ∧
      trimSpaces (c'.reason.getD "") = trimSpaces (c.reason.getD "")

section Later

variable {start s t : SourceLedger} {c : ReversalCommand} {m : ReversalMoment} {r : PostingResult}
  {id : Uuid}

/-- The routine of an accepted reversal. -/
theorem reverse_eq_ok (h : sourceCall s (.reverse m c) = .ok (t, some r)) :
    accountingPostReversal m s c = .ok (t, r) := by
  simp only [sourceCall, sourceRoutine, bind_eq_ok, pure_eq_ok] at h
  obtain ⟨_, ⟨⟨_, _⟩, hroutine, rfl⟩, _, _, h⟩ := h
  cases h
  exact hroutine

/-- A call without a new entry meets no trigger. -/
theorem sourceCall_unchanged {call : SourceCall} {answer : Option PostingResult}
    (h : sourceRoutine s call = .ok (s, answer)) : sourceCall s call = .ok (s, answer) := by
  have hnew : newEntries s s = [] := by
    refine List.filter_eq_nil_iff.mpr fun e he => ?_
    rw [decide_eq_true_eq, not_not]
    exact List.mem_map_of_mem he
  refine sourceCall_of_routine h ?_
  rw [hnew]
  rfl

theorem Recorded.once (h : Recorded s c id) : ReversesOnce s c id := by
  obtain ⟨original, e, row, hr, rfl⟩ := h
  refine ⟨fun m c' hc hpast => ?_, fun m c' date hc hdate hfuture => ?_,
    fun m c' t r hsource hok => ?_⟩
  · have hroutine := hr.replays hc (hpast _ hr.date)
    refine sourceCall_unchanged ?_
    simp only [sourceRoutine, hroutine, ok_bind]
    rfl
  · cases hr.date.symm.trans hdate
    simp only [sourceCall, sourceRoutine, hr.refuses hc hfuture]
    rfl
  · exact hr.only hsource (reverse_eq_ok hok)

/-- **An accepted reversal reverses once**: at every later time the command sent again is answered
    with the same reversal, or refused for a date after today, and no other command is accepted for
    its entry. -/
theorem reverses_once (hj : start.ledger.journal = .empty) (hr : start.reversals = .empty)
    {earlier : List SourceCall}
    (hcall : sourceCall (afterAll sourceCall start earlier) (.reverse m c) = .ok (t, some r))
    (later : List SourceCall) : ReversesOnce (afterAll sourceCall t later) c r.entryId := by
  have hsound := (SourceLedger.sound_empty hj hr).afterAll earlier
  have hrecorded := recorded_of_accepted hsound (reverse_eq_ok hcall)
  have hboth : SoundReversals (afterAll sourceCall t later) ∧
      Recorded (afterAll sourceCall t later) c r.entryId :=
    afterAll_invariant (I := fun s => SoundReversals s ∧ Recorded s c r.entryId)
      (fun _ _ _ _ _ hs hok => ⟨hs.1.step (sourceCall_effect hok),
        hs.2.step hs.1.kept (sourceCall_effect hok)⟩)
      ⟨hsound.step (sourceCall_effect hcall), hrecorded⟩
  exact hboth.2.once

theorem reverses_once_sample :
    ReversesOnce (afterAll sourceCall sampleReversed [.ledger (.setTimezone "Europe/Paris")])
      sampleReversal sampleReversalMoment.entryId := by
  have hcall : sourceCall (afterAll sourceCall sampleSources [sampleAdjust])
      (.reverse sampleReversalMoment sampleReversal) =
        .ok (sampleReversed, some ⟨sampleReversalMoment.entryId, true⟩) := by
    unfold afterAll
    rw [List.foldl_cons, List.foldl_nil, after_of_ok sampleAdjust_ok]
    exact sampleReversal_ok
  exact reverses_once rfl rfl hcall _

end Later

end Daftar.Accounting
