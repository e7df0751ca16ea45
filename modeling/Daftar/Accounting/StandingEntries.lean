/-
  File: Daftar/Accounting/StandingEntries.lean
  Subject: Over every history a reversal undoes its entry exactly, once.

  * `Ledger.Kept`: what every call keeps of the entries and their accounts.
  * `SoundReversals`: reversal entries and registrations are the same, each the mirror of its
    original.
  * An entry stands when it is no reversal and has none. `reversals_cancel`: in every account, and
    for every choice of originals, the entries with their reversals come to what stands.
-/

import Daftar.Accounting.PostingIdempotence
import Daftar.Accounting.SourceHistory

namespace Daftar.Accounting

open Fallible
open Histories
open Sha256

/-! ## 1. What every call keeps of the journal -/

structure Ledger.Kept (db : Ledger) : Prop where
  charted : ∀ e ∈ db.journal.entries, e.Charted db.accounts
  business : ∀ e ∈ db.journal.entries, e.source.businessId = db.store.businessId
  tenant : ∀ e ∈ db.journal.entries, e.source.tenantId = db.store.tenantId
  base : ∀ e ∈ db.journal.entries, ∀ l ∈ e.lines, l.baseCurrency = db.baseCurrency
  balanced : ∀ e ∈ db.journal.entries,
    (e.lines.map fun l => l.debitMinor).sum = (e.lines.map fun l => l.creditMinor).sum

section Kept

variable {db db' : Ledger} {e : PostedEntry} {s s' : SourceLedger}

theorem Ledger.kept_empty (h : db.journal = .empty) : db.Kept := by
  constructor <;> (rw [h]; intro e he; cases he)

theorem Ledger.Kept.quiet (h : db.Kept) (hq : Quiet db db') : db'.Kept := by
  refine ⟨?_, ?_, ?_, ?_, ?_⟩
  · rw [hq.entries]
    intro e he l hl
    obtain ⟨a, ha, hid⟩ := h.charted e he l hl
    have hused : a.id ∈ db.journal.usedAccounts := by
      rw [hid]
      exact List.mem_flatMap.mpr ⟨e, he, List.mem_map_of_mem hl⟩
    obtain ⟨b, hb, hbid, _⟩ := hq.accounts a ha hused
    exact ⟨b, hb, hbid.trans hid⟩
  · rw [hq.entries, hq.business]
    exact h.business
  · rw [hq.entries, hq.tenant]
    exact h.tenant
  · rw [hq.entries]
    intro e he l hl
    rw [hq.base (List.ne_nil_of_mem he)]
    exact h.base e he l hl
  · rw [hq.entries]
    exact h.balanced

theorem Ledger.Kept.adds (h : db.Kept) (ha : Adds db db' e) : db'.Kept := by
  refine ⟨?_, ?_, ?_, ?_, ?_⟩
  · rw [ha.entries, ha.accounts]
    exact List.forall_mem_cons.mpr ⟨ha.named, h.charted⟩
  · rw [ha.entries, ha.store]
    exact List.forall_mem_cons.mpr ⟨ha.business, h.business⟩
  · rw [ha.entries, ha.store]
    exact List.forall_mem_cons.mpr ⟨ha.tenant, h.tenant⟩
  · rw [ha.entries, ha.base]
    exact List.forall_mem_cons.mpr ⟨ha.lineBase, h.base⟩
  · rw [ha.entries]
    exact List.forall_mem_cons.mpr ⟨ha.balanced, h.balanced⟩

theorem SourceEffect.kept (h : SourceEffect s s') (hk : s.ledger.Kept) : s'.ledger.Kept := by
  cases h with
  | quiet hledger _ => exact hk.quiet hledger
  | adds e hledger _ _ => exact hk.adds hledger
  | reverses original e row h => exact hk.adds h.ledger

/-- No entry is ever removed. -/
theorem SourceEffect.entries (h : SourceEffect s s') (he : e ∈ s.ledger.journal.entries) :
    e ∈ s'.ledger.journal.entries := by
  cases h with
  | quiet hledger _ => rwa [hledger.entries]
  | adds _ hledger _ _ =>
      rw [hledger.entries]
      exact List.mem_cons_of_mem _ he
  | reverses _ _ _ h =>
      rw [h.ledger.entries]
      exact List.mem_cons_of_mem _ he

end Kept

/-! ## 2. Sound registrations -/

/-- A registered reversal and its original. -/
structure Undoes (s : SourceLedger) (row : ReversalRow) (original e : PostedEntry) : Prop where
  stored : original ∈ s.ledger.journal.entries
  entered : e ∈ s.ledger.journal.entries
  ofOriginal : row.originalEntryId = original.id
  ofEntry : row.journalEntryId = e.id
  generic : original.source.sourceType ≠ "reversal"
  sourceType : e.source.sourceType = "reversal"
  sourceId : e.source.sourceId = original.id
  notBefore : original.entryDate ≤ e.entryDate
  mirrors : Mirrors original e

structure SoundReversals (s : SourceLedger) : Prop where
  kept : s.ledger.Kept
  undoes : ∀ row ∈ s.reversals.rows, ∃ original e, Undoes s row original e
  registered : ∀ e ∈ s.ledger.journal.entries, e.source.sourceType = "reversal" →
    ∃ row ∈ s.reversals.rows, row.journalEntryId = e.id

section Soundness

variable {s s' : SourceLedger} {e original : PostedEntry} {row : ReversalRow}

theorem SourceLedger.sound_empty (h : s.ledger.journal = .empty) (hr : s.reversals = .empty) :
    SoundReversals s := by
  refine ⟨Ledger.kept_empty h, ?_, ?_⟩
  · rw [hr]
    exact fun row hrow => absurd hrow List.not_mem_nil
  · rw [h]
    exact fun e he => absurd he List.not_mem_nil

theorem Undoes.keep (h : Undoes s row original e) (hs : SourceEffect s s') :
    Undoes s' row original e :=
  ⟨hs.entries h.stored, hs.entries h.entered, h.ofOriginal, h.ofEntry, h.generic, h.sourceType,
    h.sourceId, h.notBefore, h.mirrors⟩

/-- The id of a new entry is that of no entry. -/
theorem Adds.fresh (h : Adds s.ledger s'.ledger e) (ho : original ∈ s.ledger.journal.entries) :
    e.id ≠ original.id := by
  have hpk := s'.ledger.journal.pk
  rw [h.entries, List.map_cons, List.nodup_cons] at hpk
  intro hid
  exact hpk.1 (hid ▸ List.mem_map_of_mem ho)

/-- An added entry is no reversal. -/
theorem SoundReversals.generic_of_adds (h : SoundReversals s) (ha : Adds s.ledger s'.ledger e)
    (hreg : e.source.sourceType = "reversal" → ∃ r ∈ s.reversals.rows, r.journalEntryId = e.id) :
    e.source.sourceType ≠ "reversal" := by
  intro htype
  obtain ⟨row, hrow, hid⟩ := hreg htype
  obtain ⟨_, r, hr⟩ := h.undoes row hrow
  exact ha.fresh hr.entered (hid.symm.trans hr.ofEntry)

/-- **Every accepted call keeps the registrations sound.** -/
theorem SoundReversals.step (h : SoundReversals s) (hs : SourceEffect s s') : SoundReversals s' := by
  refine ⟨hs.kept h.kept, ?_, ?_⟩
  · intro row hrow
    have hold : row ∈ s.reversals.rows → ∃ original e, Undoes s' row original e := by
      intro hmem
      obtain ⟨original, e, hu⟩ := h.undoes row hmem
      exact ⟨original, e, hu.keep hs⟩
    cases hs with
    | quiet _ hreversals => exact hold (hreversals ▸ hrow)
    | adds _ _ _ hreversals => exact hold (hreversals ▸ hrow)
    | reverses original e row' hr =>
        rw [hr.rows] at hrow
        rcases List.mem_cons.mp hrow with rfl | hmem
        · obtain ⟨m, hlines⟩ := hr.lines
          refine ⟨original, e, (SourceEffect.reverses original e row hr).entries hr.stored, ?_,
            hr.ofOriginal, hr.ofEntry, hr.generic, hr.sourceType, hr.sourceId, hr.notBefore,
            reversal_mirrors (h.kept.charted original hr.stored) hlines⟩
          rw [hr.ledger.entries]
          exact List.mem_cons_self
        · exact hold hmem
  · cases hs with
    | quiet hledger hreversals =>
        rw [hledger.entries, hreversals]
        exact h.registered
    | adds e hledger hreg hreversals =>
        rw [hledger.entries, hreversals, List.forall_mem_cons]
        exact ⟨fun htype => absurd htype (h.generic_of_adds hledger hreg), h.registered⟩
    | reverses original e row' hr =>
        rw [hr.ledger.entries, hr.rows, List.forall_mem_cons]
        refine ⟨fun _ => ⟨row', List.mem_cons_self, hr.ofEntry⟩, fun e' he' htype => ?_⟩
        obtain ⟨row, hrow, hid⟩ := h.registered e' he' htype
        exact ⟨row, List.mem_cons_of_mem _ hrow, hid⟩

theorem SoundReversals.afterAll (h : SoundReversals s) (history : List SourceCall) :
    SoundReversals (afterAll sourceCall s history) :=
  afterAll_invariant (fun _ _ _ _ _ hs hok => hs.step (sourceCall_effect hok)) h

end Soundness

/-! ## 3. What stands -/

/-- No reversal, and not reversed. -/
def ReversalTable.Standing (t : ReversalTable) (e : PostedEntry) : Prop :=
  e.source.sourceType ≠ "reversal" ∧ e.id ∉ t.reversed

instance (t : ReversalTable) (e : PostedEntry) : Decidable (t.Standing e) :=
  inferInstanceAs (Decidable (_ ∧ _))

/-- The entry that a reversal is about, and of any other entry itself. -/
def PostedEntry.rootId (e : PostedEntry) : Uuid :=
  if e.source.sourceType = "reversal" then e.source.sourceId else e.id

/-- The weight of several entries. -/
def totalWeight (w : LineRow → ℤ) (es : List PostedEntry) : ℤ := (es.map (PostedEntry.weight w)).sum

/-- For the originals chosen, the entries with their reversals weigh what stands of them. -/
def StandsFor (s : SourceLedger) (P : Uuid → Prop) [DecidablePred P] (w : LineRow → ℤ) : Prop :=
  totalWeight w (s.ledger.journal.entries.filter fun e => P e.rootId) =
    totalWeight w (s.ledger.journal.entries.filter fun e => s.reversals.Standing e ∧ P e.id)

section Standing

variable {s s' : SourceLedger} {e original : PostedEntry} {row : ReversalRow} {P : Uuid → Prop}
  [DecidablePred P] {w : LineRow → ℤ}

theorem totalWeight_cons (e : PostedEntry) (es : List PostedEntry) :
    totalWeight w (e :: es) = e.weight w + totalWeight w es := by
  unfold totalWeight
  rw [List.map_cons, List.sum_cons]

theorem totalWeight_filter_cons (q : PostedEntry → Bool) (e : PostedEntry)
    (es : List PostedEntry) : totalWeight w ((e :: es).filter q) =
      (if q e then e.weight w else 0) + totalWeight w (es.filter q) := by
  by_cases h : q e = true
  · rw [List.filter_cons_of_pos h, totalWeight_cons, if_pos h]
  · rw [List.filter_cons_of_neg h, if_neg h, Int.zero_add]

/-- One entry less among the chosen ones. -/
theorem totalWeight_without {es : List PostedEntry} (hpk : (es.map PostedEntry.id).Nodup)
    (ho : original ∈ es) (q : PostedEntry → Bool) :
    totalWeight w (es.filter fun e => q e && decide (e.id ≠ original.id)) =
      totalWeight w (es.filter q) - if q original then original.weight w else 0 := by
  have hsplit := Grouping.sum_filter_add_not (PostedEntry.weight w)
    (fun e => decide (e.id = original.id)) (es.filter q)
  have hone : (es.filter q).filter (fun e => decide (e.id = original.id)) =
      if q original then [original] else [] := by
    rw [List.filter_comm, Tables.filter_key hpk ho]
    by_cases h : q original = true
    · rw [List.filter_cons_of_pos h, if_pos h]
      rfl
    · rw [List.filter_cons_of_neg h, if_neg h]
      rfl
  have hrest : (es.filter q).filter (fun e => !decide (e.id = original.id)) =
      es.filter fun e => q e && decide (e.id ≠ original.id) := by
    rw [List.filter_filter]
    refine List.filter_congr fun e _ => ?_
    rw [Bool.and_comm, decide_not]
  rw [hone, hrest] at hsplit
  unfold totalWeight
  rw [← hsplit]
  by_cases h : q original = true
  · simp [h]
  · simp [h]

theorem StandsFor.adds (h : StandsFor s P w) (hs : SoundReversals s)
    (ha : Adds s.ledger s'.ledger e) (hgeneric : e.source.sourceType ≠ "reversal")
    (hr : s'.reversals = s.reversals) : StandsFor s' P w := by
  have hfree : e.id ∉ s.reversals.reversed := by
    intro hmem
    obtain ⟨row, hrow, hid⟩ := List.mem_map.mp hmem
    obtain ⟨original, _, hu⟩ := hs.undoes row hrow
    exact ha.fresh hu.stored (hid.symm.trans hu.ofOriginal)
  have hroot : e.rootId = e.id := if_neg hgeneric
  unfold StandsFor at h ⊢
  rw [ha.entries, hr, totalWeight_filter_cons, totalWeight_filter_cons, h, hroot]
  have hstands : s.reversals.Standing e := ⟨hgeneric, hfree⟩
  by_cases hP : P e.id
  · simp [hP, hstands]
  · simp [hP]

theorem StandsFor.reverses (h : StandsFor s P w) (hw : OddUnderMirror w) (hs : SoundReversals s)
    (hr : Reverses s s' original e row) : StandsFor s' P w := by
  obtain ⟨m, hlines⟩ := hr.lines
  have hweight := (reversal_mirrors (hs.kept.charted original hr.stored) hlines).weight hw
  have hroot : e.rootId = original.id := by
    unfold PostedEntry.rootId
    rw [if_pos hr.sourceType]
    exact hr.sourceId
  have hstands : s.reversals.Standing original := ⟨hr.generic, hr.free⟩
  have hnot : ¬ s'.reversals.Standing e := fun hst => hst.1 hr.sourceType
  have hrest : (s.ledger.journal.entries.filter fun e => s'.reversals.Standing e ∧ P e.id) =
      s.ledger.journal.entries.filter fun e =>
        decide (s.reversals.Standing e ∧ P e.id) && decide (e.id ≠ original.id) := by
    refine List.filter_congr fun x _ => ?_
    rw [← Bool.decide_and, decide_eq_decide]
    unfold ReversalTable.Standing ReversalTable.reversed
    rw [hr.rows, List.map_cons, List.mem_cons, hr.ofOriginal]
    tauto
  unfold StandsFor at h ⊢
  rw [hr.ledger.entries, totalWeight_filter_cons, totalWeight_filter_cons, hrest,
    totalWeight_without s.ledger.journal.pk hr.stored, h, hroot, hweight]
  by_cases hP : P original.id
  · simp [hP, hnot, hstands]
    omega
  · simp [hP, hnot]

/-- **Every accepted call keeps what stands.** -/
theorem StandsFor.step (h : StandsFor s P w) (hw : OddUnderMirror w) (hs : SoundReversals s)
    (he : SourceEffect s s') : StandsFor s' P w := by
  cases he with
  | quiet hledger hreversals =>
      unfold StandsFor
      rw [hledger.entries, hreversals]
      exact h
  | adds e hledger hreg hreversals =>
      exact h.adds hs hledger (hs.generic_of_adds hledger hreg) hreversals
  | reverses original e row hr => exact h.reverses hw hs hr

end Standing

/-! ## 4. Over every history -/

structure ReversalsCancel (s : SourceLedger) : Prop where
  /-- An entry has one reversal at most. -/
  once : ∀ e ∈ s.ledger.journal.entries, ∀ e' ∈ s.ledger.journal.entries,
    e.source.sourceType = "reversal" → e'.source.sourceType = "reversal" →
    e.source.sourceId = e'.source.sourceId → e = e'
  /-- A reversal is the mirror of an entry before it that is no reversal. -/
  undone : ∀ e ∈ s.ledger.journal.entries, e.source.sourceType = "reversal" →
    ∃ original ∈ s.ledger.journal.entries, original.id = e.source.sourceId ∧
      original.source.sourceType ≠ "reversal" ∧ original.entryDate ≤ e.entryDate ∧
      Mirrors original e
  /-- Of the originals chosen nothing but what stands is left, in every measure. -/
  standing : ∀ (P : Uuid → Prop) [DecidablePred P] (w : LineRow → ℤ), OddUnderMirror w →
    StandsFor s P w
  /-- The balance of an account is that of the entries that stand. -/
  balances : ∀ account, totalWeight (baseNet fun r => r.accountId = account)
      s.ledger.journal.entries =
    totalWeight (baseNet fun r => r.accountId = account)
      (s.ledger.journal.entries.filter s.reversals.Standing)

section Histories

variable {start s : SourceLedger} {history : List SourceCall}

theorem PostingSource.ext_fields {a b : PostingSource} (htenant : a.tenantId = b.tenantId)
    (hbusiness : a.businessId = b.businessId) (htype : a.sourceType = b.sourceType)
    (hid : a.sourceId = b.sourceId) : a = b := by
  cases a
  cases b
  cases htenant
  cases hbusiness
  cases htype
  cases hid
  rfl

theorem standsFor_afterAll (hj : start.ledger.journal = .empty) (hr : start.reversals = .empty)
    (P : Uuid → Prop) [DecidablePred P] {w : LineRow → ℤ} (hw : OddUnderMirror w) :
    StandsFor (afterAll sourceCall start history) P w := by
  have hstart : SoundReversals start ∧ StandsFor start P w :=
    ⟨SourceLedger.sound_empty hj hr, by unfold StandsFor; rw [hj]; rfl⟩
  have hboth : SoundReversals (afterAll sourceCall start history) ∧
      StandsFor (afterAll sourceCall start history) P w :=
    afterAll_invariant (I := fun s => SoundReversals s ∧ StandsFor s P w)
      (fun _ _ _ _ _ hs hok => ⟨hs.1.step (sourceCall_effect hok),
        hs.2.step hw hs.1 (sourceCall_effect hok)⟩) hstart
  exact hboth.2

/-- **Reversals cancel**: whatever is posted, reversed and stated in whatever order. -/
theorem reversals_cancel (hj : start.ledger.journal = .empty) (hr : start.reversals = .empty)
    (history : List SourceCall) : ReversalsCancel (afterAll sourceCall start history) := by
  have hsound := (SourceLedger.sound_empty hj hr).afterAll history
  refine ⟨?_, ?_, fun P _ w hw => standsFor_afterAll hj hr P hw, fun account => ?_⟩
  · intro e he e' he' htype htype' hid
    have hsource := PostingSource.ext_fields
      ((hsound.kept.tenant e he).trans (hsound.kept.tenant e' he').symm)
      ((hsound.kept.business e he).trans (hsound.kept.business e' he').symm)
      (htype.trans htype'.symm) hid
    exact List.inj_on_of_nodup_map
      (afterAll sourceCall start history).ledger.journal.sources he he' hsource
  · intro e he htype
    obtain ⟨row, hrow, hid⟩ := hsound.registered e he htype
    obtain ⟨original, r, hu⟩ := hsound.undoes row hrow
    have hsame : r = e := List.inj_on_of_nodup_map
      (afterAll sourceCall start history).ledger.journal.pk hu.entered he
      (hu.ofEntry.symm.trans hid)
    subst hsame
    exact ⟨original, hu.stored, hu.sourceId.symm, hu.generic, hu.notBefore, hu.mirrors⟩
  · have h : StandsFor (afterAll sourceCall start history) (fun _ => True)
        (baseNet fun r => r.accountId = account) :=
      standsFor_afterAll hj hr _ (odd_baseNet fun _ _ => rfl)
    unfold StandsFor at h
    simpa using h

end Histories

/-! ## 5. A sample history -/

def sampleReason : StoredReason := ⟨"typo", by decide +kernel, by decide +kernel⟩

def sampleSources : SourceLedger := ⟨sampleLedger, [], .empty, .empty⟩

/-- The ledger with an adjustment. -/
def sampleAdjusted : SourceLedger :=
  ⟨samplePosted, [⟨sampleSource.sourceId, sampleReason, .sample 5⟩], .empty, .empty⟩

def sampleAdjust : SourceCall :=
  .adjust sampleMoment (sampleCommand sampleElements) (some " typo")

theorem samplePosted_entered :
    (samplePosted.journal.byId sampleMoment.entryId).isSome = true := by
  decide +kernel

def sampleOriginal : PostedEntry := Option.get _ samplePosted_entered

def sampleReversalSource : PostingSource := { sampleSource with
  sourceType := "reversal"
  sourceId := sampleMoment.entryId }

def sampleMirrored : List PostingLine := mirroredLines samplePosted.accounts sampleOriginal

/-- The reversal of the adjustment on its own day, signed for its mirror. -/
def sampleReversal : ReversalCommand where
  actor :=
    { actorUserId := .sample 5
      operationKind := "reverse"
      source := sampleReversalSource
      postingFingerprint := digest (postingStream sampleReversalSource 9133
        ((sampleMirrored.map fun l => accountingCanonicalLine l.fields).filterMap id)) }
  originalEntryId := some sampleMoment.entryId
  entryDate := some (.day 9133)
  reason := some "typo"
  requestId := none

def sampleReversalMoment : ReversalMoment :=
  { sampleMoment with
    entryId := .sample 7
    purchaseReversals := []
    boundOpenings := [] }

def samplePrepared : PreparedReversal where
  reason := sampleReason
  date := .day 9133
  original := sampleOriginal
  lines := sampleMirrored
  fingerprint := some sampleReversal.actor.postingFingerprint

/-- The ledger with the adjustment and its reversal. -/
def sampleReversed : SourceLedger :=
  (resultD (createReversal sampleReversalMoment sampleAdjusted sampleReversal samplePrepared)
    (sampleAdjusted, ⟨sampleMoment.entryId, true⟩)).1

section Samples

theorem requiredReason_of_text {raw : Option String} {missing : SourceCode} {r : StoredReason}
    (h : trimSpaces (raw.getD "") = r.text) : requiredReason raw missing = .ok r := by
  have hne : trimSpaces (raw.getD "") ≠ "" := by
    intro hempty
    have hlen := r.bounded.1
    rw [← h, hempty] at hlen
    exact absurd hlen (by decide)
  unfold requiredReason
  dsimp only
  rw [dif_neg hne, dif_neg (Nat.not_lt.mpr (h ▸ r.bounded.2))]
  exact congrArg Except.ok (StoredReason.ext_text h)

/-- A call whose routine and triggers are known. -/
theorem sourceCall_of_routine {s t : SourceLedger} {call : SourceCall}
    {answer : Option PostingResult} (h : sourceRoutine s call = .ok (t, answer))
    (hcomplete : ((newEntries s t).mapM (entryComplete t)).isOk = true) :
    sourceCall s call = .ok (t, answer) := by
  obtain ⟨us, hus⟩ := exists_of_isOk hcomplete
  unfold sourceCall
  rw [h, ok_bind, hus]
  rfl

/-- A reversal that is prepared, new and written. -/
theorem reverse_of_created {m : ReversalMoment} {s t : SourceLedger} {c : ReversalCommand}
    {p : PreparedReversal} {r : PostingResult} (hp : p.Of m.toPostingMoment s.ledger c)
    (hfree : (s.ledger.journal.bySource c.actor.source).isNone = true)
    (hcreated : createReversal m s c p = .ok (t, r))
    (hcomplete : ((newEntries s t).mapM (entryComplete t)).isOk = true) :
    sourceCall s (.reverse m c) = .ok (t, some r) := by
  have hroutine : accountingPostReversal m s c = .ok (t, r) :=
    (accountingPostReversal_new hp (Option.isNone_iff_eq_none.mp hfree)).trans hcreated
  refine sourceCall_of_routine ?_ hcomplete
  simp only [sourceRoutine, hroutine, ok_bind]
  rfl

/-- What the adjustment and its reversal compute. -/
theorem sampleReversal_computes :
    trimSpaces " typo" = sampleReason.text ∧
    ((newEntries sampleSources sampleAdjusted).mapM (entryComplete sampleAdjusted)).isOk = true ∧
    trimSpaces "typo" = sampleReason.text ∧
    sampleOriginal.source.sourceType ≠ "reversal" ∧
    2 ≤ sampleMirrored.length ∧
    requireBaseCurrency .ils sampleMirrored = .ok () ∧
    ¬ (PgDate.day 9133).Before sampleOriginal.entryDate ∧
    (createReversal sampleReversalMoment sampleAdjusted sampleReversal
      samplePrepared).toOption.map Prod.snd = some ⟨sampleReversalMoment.entryId, true⟩ ∧
    (samplePosted.journal.bySource sampleReversalSource).isNone = true ∧
    ((newEntries sampleAdjusted sampleReversed).mapM (entryComplete sampleReversed)).isOk = true ∧
    sampleReversed.reversals.rows.length = 1 := by
  decide +kernel

theorem sampleAdjust_ok :
    sourceCall sampleSources sampleAdjust =
      .ok (sampleAdjusted, some ⟨sampleMoment.entryId, true⟩) := by
  obtain ⟨htrimmed, hcomplete, _⟩ := sampleReversal_computes
  have hauth : sourceAuthority (sampleCommand sampleElements).actor "post" "manual_adjustment" =
      .ok () := sourceAuthority_eq_ok.mpr ⟨rfl, by decide, rfl⟩
  have hreason : requiredReason (some " typo") .adjustmentReasonRequired = .ok sampleReason :=
    requiredReason_of_text htrimmed
  have hpost : accountingPostEntry sampleMoment sampleSources.ledger (sampleCommand sampleElements) =
      .ok (samplePosted, ⟨sampleMoment.entryId, true⟩) := samplePosting_posted
  refine sourceCall_of_routine ?_ hcomplete
  unfold sampleAdjust
  simp only [sourceRoutine, accountingPostManualAdjustment, hauth, hreason, hpost, ok_bind]
  rfl

theorem sampleReversal_prepared :
    samplePrepared.Of sampleReversalMoment.toPostingMoment samplePosted sampleReversal := by
  obtain ⟨_, _, htrimmed, hgeneric, henough, hbase, hbefore, _⟩ := sampleReversal_computes
  have hpast : ¬ samplePrepared.date.After
      (sampleReversalMoment.civilDate samplePosted.timezone sampleReversalMoment.now) := by
    decide
  have hsigned : fails (· == sampleReversal.actor.postingFingerprint)
      (some sampleReversal.actor.postingFingerprint) = false := by
    simp [fails]
  exact ⟨sourceAuthority_eq_ok.mpr ⟨rfl, by decide, rfl⟩, rfl, requiredReason_of_text htrimmed, rfl,
    ownsBusiness_eq_ok.mpr ⟨rfl, rfl⟩, (Option.some_get samplePosted_entered).symm, hgeneric, rfl,
    henough, hbase, hpast, hbefore, rfl, hsigned⟩

theorem sampleReversal_created :
    createReversal sampleReversalMoment sampleAdjusted sampleReversal samplePrepared =
      .ok (sampleReversed, ⟨sampleReversalMoment.entryId, true⟩) := by
  obtain ⟨_, _, _, _, _, _, _, hcreated, _⟩ := sampleReversal_computes
  exact eq_ok_of_snd hcreated

theorem sampleReversal_ok : sourceCall sampleAdjusted (.reverse sampleReversalMoment sampleReversal) =
    .ok (sampleReversed, some ⟨sampleReversalMoment.entryId, true⟩) := by
  obtain ⟨_, _, _, _, _, _, _, _, hfree, hcomplete, _⟩ := sampleReversal_computes
  exact reverse_of_created sampleReversal_prepared hfree sampleReversal_created hcomplete

theorem sampleReversed_after :
    afterAll sourceCall sampleSources
      [sampleAdjust, .reverse sampleReversalMoment sampleReversal] = sampleReversed := by
  unfold afterAll
  rw [List.foldl_cons, List.foldl_cons, List.foldl_nil, after_of_ok sampleAdjust_ok,
    after_of_ok sampleReversal_ok]

theorem reversals_cancel_sample : sampleReversed.reversals.rows.length = 1 ∧
    ReversalsCancel sampleReversed := by
  obtain ⟨_, _, _, _, _, _, _, _, _, _, hone⟩ := sampleReversal_computes
  refine ⟨hone, ?_⟩
  rw [← sampleReversed_after]
  exact reversals_cancel rfl rfl [sampleAdjust, .reverse sampleReversalMoment sampleReversal]

end Samples

end Daftar.Accounting
