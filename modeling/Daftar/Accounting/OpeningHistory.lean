/-
  File: Daftar/Accounting/OpeningHistory.lean
  Subject: Over every history the books open with one stated position at most.

  * `Restates`: what the routines of opening balances do to their rows. An entered row keeps its
    facts; it may only become superseded, once its entry is reversed.
  * `SoundOpenings`: the entries of opening balances are those of the entered rows, each the
    positions of its row and the plug.
  * `openings_recorded`: what was entered stays as it was entered.
  * `openings_stand`: whatever was posted, reversed and superseded before, of all opening balances
    and their reversals nothing is left in any account but the posted one that is not reversed.
-/

import Daftar.Accounting.OpeningEntry
import Daftar.Accounting.StandingEntries

namespace Daftar.Accounting

open CivilDate
open Fallible
open Histories
open Sha256

/-! ## 1. Positions are dated -/

theorem year_le_of_le {a b : ℤ} (h : a ≤ b) : (civil a).year ≤ (civil b).year := by
  have hj : julianDay (a + POSTGRES_EPOCH_JDATE) ≤ julianDay (b + POSTGRES_EPOCH_JDATE) := by
    rcases Int.lt_or_eq_of_le h with hlt | rfl
    · exact (julianDay_strictMono (by omega)).le
    · exact le_rfl
  simp only [civil, j2date, yearOfFour]
  generalize julianDay (a + POSTGRES_EPOCH_JDATE) = x at hj
  generalize julianDay (b + POSTGRES_EPOCH_JDATE) = y at hj
  omega

/-- An instant that was read lies in a year from 1 on. -/
theorem year_of_timestamptz {text : String} {t : ℤ} (h : timestamptz text = .ok t) :
    1 ≤ (civil (t / 86400)).year := by
  simp only [timestamptz] at h
  split at h
  · rename_i hok
    obtain ⟨hyear, hdate, _⟩ := hok
    have hciv := congrArg Civil.year hdate
    rw [← Except.ok.inj h]
    refine (hyear.trans_eq hciv.symm).trans (year_le_of_le ?_)
    omega
  · cases h

theorem dated_of_positionOf {e : Jsonb} {p : Position} (h : positionOf e = .ok p) :
    p.toPositionRow.Dated := by
  simp only [positionOf, bind_eq_ok, someOr_eq_ok] at h
  obtain ⟨_, _, _, _, _, _, at?, hat, _, _, _, _, _, _, _, _, _, _, _, _, _, _, _, _, t, ht, _, _, _, _, h⟩ := h
  split at h
  · cases h
    rw [ht] at hat
    cases htext : e.text "fx_rate_at" with
    | none =>
        rw [htext] at hat
        cases hat
    | some text =>
        rw [htext] at hat
        exact year_of_timestamptz (castText_some hat)
  · cases h

/-! ## 2. The rows of opening balances -/

/-- A row has kept its facts; if its status is another one, it is superseded and its entry
    reversed. -/
structure Follows (reversed : List Uuid) (o o' : OpeningBalance) : Prop where
  id : o'.id = o.id
  asOfDate : o'.asOfDate = o.asOfDate
  positions : o'.positions = o.positions
  entryId : o'.status.entryId? = o.status.entryId?
  status : o'.status = o.status ∨
    ∃ entryId postedAt supersededAt, o'.status = .superseded entryId postedAt supersededAt ∧
      entryId ∈ reversed

/-- Rows restated: entered rows stay, and what else there is are drafts. -/
structure Restates (reversed : List Uuid) (rows rows' : List OpeningBalance) : Prop where
  origin : ∀ o' ∈ rows', (∃ o ∈ rows, Follows reversed o o') ∨ DraftOf o'
  kept : ∀ o ∈ rows, o.status.entryId? ≠ none → ∃ o' ∈ rows', Follows reversed o o'

section Rows

variable {m : PostingMoment} {s s' : SourceLedger} {actor : PostingActor} {id : Uuid}
  {asOf : Option PgDate} {lines : Option Jsonb} {o o' : OpeningBalance} {t : OpeningTable}
  {reversed : List Uuid} {rows rows' rows'' : List OpeningBalance}

theorem Follows.refl (reversed : List Uuid) (o : OpeningBalance) : Follows reversed o o :=
  ⟨rfl, rfl, rfl, rfl, .inl rfl⟩

theorem Restates.refl (reversed : List Uuid) (rows : List OpeningBalance) :
    Restates reversed rows rows :=
  ⟨fun o ho => .inl ⟨o, ho, .refl reversed o⟩, fun o ho _ => ⟨o, ho, .refl reversed o⟩⟩

theorem OpeningTable.find?_eq_some {t : OpeningTable} :
    t.find? id = some o ↔ o ∈ t.rows ∧ o.id = id := Tables.find?_key t.pk

theorem replace_rows (h : OpeningTable.replace t o = .ok t') :
    t'.rows = t.rows.map fun x => if x.id = o.id then o else x := OpeningTable.rows_of_ofRows h

/-- A row of a table with one row in another state. -/
theorem mem_replaced (ho : o ∈ rows) (hid : o'.id = o.id) {x : OpeningBalance} :
    x ∈ rows.map (fun x => if x.id = o'.id then o' else x) ↔ x = o' ∨ (x ∈ rows ∧ x.id ≠ o.id) := by
  rw [List.mem_map]
  constructor
  · rintro ⟨y, hy, rfl⟩
    by_cases hsame : y.id = o'.id
    · rw [if_pos hsame]
      exact .inl rfl
    · rw [if_neg hsame]
      exact .inr ⟨hy, fun he => hsame (he.trans hid.symm)⟩
  · rintro (rfl | ⟨hx, hne⟩)
    · exact ⟨o, ho, if_pos hid.symm⟩
    · exact ⟨x, hx, if_neg fun he => hne (he.trans hid)⟩

/-- **A row put in another state restates the table**, if the state is a later one of the same row,
    or a draft of a draft. -/
theorem restates_replace (ho : o ∈ t.rows) (hid : o'.id = o.id)
    (hstate : Follows reversed o o' ∨ (o.status = .draft ∧ DraftOf o')) :
    Restates reversed t.rows (t.rows.map fun x => if x.id = o'.id then o' else x) := by
  constructor
  · intro x hx
    rcases (mem_replaced ho hid).mp hx with rfl | ⟨hmem, _⟩
    · rcases hstate with hf | ⟨_, hd⟩
      · exact .inl ⟨o, ho, hf⟩
      · exact .inr hd
    · exact .inl ⟨x, hmem, .refl reversed x⟩
  · intro x hx hentered
    by_cases hsame : x.id = o.id
    · obtain rfl := List.inj_on_of_nodup_map t.pk hx ho hsame
      rcases hstate with hf | ⟨hdraft, _⟩
      · exact ⟨o', (mem_replaced ho hid).mpr (.inl rfl), hf⟩
      · rw [hdraft] at hentered
        exact absurd rfl hentered
    · exact ⟨x, (mem_replaced ho hid).mpr (.inr ⟨hx, hsame⟩), .refl reversed x⟩

theorem edit_restates (h : accountingOpenBalanceEdit m s actor id asOf lines = .ok s') :
    Restates reversed s.openings.rows s'.openings.rows := by
  obtain ⟨o, o', t, ho, hdraft, hid, hd, ht, rfl⟩ := edit_eq_ok h
  rw [replace_rows ht]
  exact restates_replace (OpeningTable.find?_eq_some.mp ho).1 hid (.inr ⟨hdraft, hd⟩)

theorem draft_restates (h : accountingOpenBalanceDraft m s actor asOf lines = .ok s') :
    Restates reversed s.openings.rows s'.openings.rows := by
  rcases draft_eq_ok h with rfl | ⟨o, t, _, hd, ht, rfl⟩ | ⟨o, o', t, ho, hdraft, hid, hd, ht, rfl⟩
  · exact .refl _ _
  · rw [OpeningTable.rows_of_ofRows ht]
    constructor
    · intro x hx
      rcases List.mem_cons.mp hx with rfl | hmem
      · exact .inr hd
      · exact .inl ⟨x, hmem, .refl reversed x⟩
    · exact fun x hx _ => ⟨x, List.mem_cons_of_mem _ hx, .refl reversed x⟩
  · rw [replace_rows ht]
    exact restates_replace (OpeningTable.find?_eq_some.mp ho).1 hid (.inr ⟨hdraft, hd⟩)

theorem discard_restates (h : accountingOpenBalanceDiscard s actor id = .ok s') :
    Restates reversed s.openings.rows s'.openings.rows := by
  obtain ⟨o, t, ho, hdraft, ht, rfl⟩ := discard_eq_ok h
  obtain ⟨ho, hid⟩ := OpeningTable.find?_eq_some.mp ho
  rw [OpeningTable.rows_of_ofRows ht]
  constructor
  · intro x hx
    exact .inl ⟨x, (List.mem_filter.mp hx).1, .refl reversed x⟩
  · intro x hx hentered
    refine ⟨x, List.mem_filter.mpr ⟨hx, decide_eq_true fun hsame => hentered ?_⟩, .refl reversed x⟩
    obtain rfl := List.inj_on_of_nodup_map s.openings.pk hx ho (hsame.trans hid.symm)
    rw [hdraft]
    rfl

/-- **Room is made by superseding**: an entered row stays, under its entry. -/
theorem makeRoom_restates (h : makeRoom m s id = .ok s') :
    Restates s.reversals.reversed s.openings.rows s'.openings.rows ∧
      ∀ o ∈ s.openings.rows, o.id = id → o ∈ s'.openings.rows := by
  rcases makeRoom_eq_ok h with rfl | ⟨o, entryId, postedAt, t, ho, hne, hstatus, hrev, ht, rfl⟩
  · exact ⟨.refl _ _, fun o ho _ => ho⟩
  · rw [replace_rows ht]
    refine ⟨restates_replace ho rfl (.inl ⟨rfl, rfl, rfl, ?_, .inr ⟨_, _, _, rfl, hrev⟩⟩), ?_⟩
    · rw [hstatus]
      rfl
    · intro x hx hid
      refine (mem_replaced ho (by rfl)).mpr (.inr ⟨hx, fun hsame => hne ?_⟩)
      exact hsame.symm.trans hid

end Rows

/-! ## 3. Sound opening balances -/

structure SoundOpenings (s : SourceLedger) : Prop where
  dated : ∀ o ∈ s.openings.rows, ∀ p ∈ o.positions, p.toPositionRow.Dated
  entered : ∀ o ∈ s.openings.rows, ∀ id, o.status.entryId? = some id →
    ∃ e ∈ s.ledger.journal.entries, e.id = id ∧
      Opened s.ledger.accounts s.ledger.baseCurrency o e
  stated : ∀ e ∈ s.ledger.journal.entries, e.source.sourceType = "opening_balance" →
    ∃ o ∈ s.openings.rows, o.status.entryId? = some e.id
  superseded : ∀ o ∈ s.openings.rows, ∀ entryId postedAt supersededAt,
    o.status = .superseded entryId postedAt supersededAt → entryId ∈ s.reversals.reversed

/-- Where the rows after a call come from: rows there were, drafts, and one that was posted. -/
structure OpeningsAfter (s s' : SourceLedger) : Prop where
  origin : ∀ o' ∈ s'.openings.rows,
    (∃ o ∈ s.openings.rows, Follows s.reversals.reversed o o') ∨ DraftOf o' ∨
      ((∀ p ∈ o'.positions, p.toPositionRow.Dated) ∧ o'.status.IsPosted ∧
        ∃ e ∈ s'.ledger.journal.entries, o'.status.entryId? = some e.id ∧
          Opened s'.ledger.accounts s'.ledger.baseCurrency o' e)
  kept : ∀ o ∈ s.openings.rows, o.status.entryId? ≠ none →
    ∃ o' ∈ s'.openings.rows, Follows s.reversals.reversed o o'

section Soundness

variable {m : PostingMoment} {s s' : SourceLedger} {actor : PostingActor} {id : Uuid}
  {o o' : OpeningBalance} {e : PostedEntry} {description requestId : Option String}
  {r : PostingResult} {call : SourceCall} {answer : Option PostingResult}

theorem Restates.after (h : Restates s.reversals.reversed s.openings.rows s'.openings.rows) :
    OpeningsAfter s s' := by
  refine ⟨fun o' ho' => ?_, h.kept⟩
  rcases h.origin o' ho' with hold | hd
  · exact .inl hold
  · exact .inr (.inl hd)

theorem OpeningsAfter.same (h : s'.openings = s.openings) : OpeningsAfter s s' := by
  refine Restates.after ?_
  rw [h]
  exact .refl _ _

/-- The source of a draft has no entry. -/
theorem SoundOpenings.draft_free (h : SoundOpenings s) (ho : o ∈ s.openings.rows)
    (hdraft : o.status = .draft) (he : e ∈ s.ledger.journal.entries)
    (htype : e.source.sourceType = "opening_balance") : e.source.sourceId ≠ o.id := by
  intro hid
  obtain ⟨x, hx, hentry⟩ := h.stated e he htype
  obtain ⟨e', he', hid', hopened⟩ := h.entered x hx _ hentry
  obtain rfl := List.inj_on_of_nodup_map s.ledger.journal.pk he' he hid'
  obtain rfl := List.inj_on_of_nodup_map s.openings.pk hx ho (hopened.sourceId.symm.trans hid)
  rw [hdraft] at hentry
  cases hentry

/-- **A draft that was posted has its entry.** -/
theorem PostedDraft.after (h : SoundOpenings s) (ho : o ∈ s.openings.rows)
    (hdraft : o.status = .draft) (htype : actor.source.sourceType = "opening_balance")
    (hsource : actor.source.sourceId = o.id)
    (hp : PostedDraft m s s' actor o description requestId r) : OpeningsAfter s s' := by
  obtain ⟨room, ledger, t, hroom, hpost, ht, rfl⟩ := hp.steps
  obtain ⟨hrestates, hstays⟩ := makeRoom_restates hroom
  obtain ⟨u, rfl⟩ := makeRoom_effect hroom
  have horoom := hstays o ho rfl
  rcases accountingPostEntry_effect hpost with ⟨rfl, e, he, hesource, _⟩ |
    ⟨e, p, es, hprepared, hadds, hesource, hdate, _, hlines, rfl⟩
  · -- The entry there would be one of another row.
    refine absurd (congrArg PostingSource.sourceId hesource |>.trans hsource) ?_
    exact h.draft_free ho hdraft he ((congrArg PostingSource.sourceType hesource).trans htype)
  · have hopened : Opened ledger.accounts ledger.baseCurrency
        { o with status := .posted e.id m.now } e := by
      have hdate : o.asOfDate = .day e.entryDate := Option.some.inj hdate
      refine ⟨(congrArg PostingSource.sourceType hesource).trans htype,
        (congrArg PostingSource.sourceId hesource).trans hsource, hdate, ?_⟩
      rw [hadds.accounts, hadds.base]
      exact openingLines_say hdate (h.dated o ho) hprepared.payload hprepared.resolved hlines
    have hmem : e ∈ ledger.journal.entries := by
      rw [hadds.entries]
      exact List.mem_cons_self
    constructor
    · intro x hx
      rw [replace_rows ht] at hx
      rcases (mem_replaced horoom (by rfl)).mp hx with rfl | ⟨hold, _⟩
      · exact .inr (.inr ⟨h.dated o ho, trivial, e, hmem, rfl, hopened⟩)
      · rcases hrestates.origin x hold with hfollows | hd
        · exact .inl hfollows
        · exact .inr (.inl hd)
    · intro x hx hentered
      obtain ⟨y, hy, hfollows⟩ := hrestates.kept x hx hentered
      refine ⟨y, ?_, hfollows⟩
      rw [replace_rows ht]
      refine (mem_replaced horoom (by rfl)).mpr (.inr ⟨hy, fun hsame => hentered ?_⟩)
      obtain rfl := List.inj_on_of_nodup_map s.openings.pk hx ho (hfollows.id.symm.trans hsame)
      rw [hdraft]
      rfl

theorem postOpening_after (h : SoundOpenings s)
    (hpost : accountingOpenBalancePost m s actor id description requestId = .ok (s', r)) :
    OpeningsAfter s s' := by
  obtain ⟨htype, hid, o, ho, hdone⟩ := postOpening_eq_ok hpost
  obtain ⟨ho, hoid⟩ := OpeningTable.find?_eq_some.mp ho
  rcases hdone with rfl | ⟨hdraft, hposted⟩
  · exact .same rfl
  · exact hposted.after h ho hdraft htype (hid.trans hoid.symm)

theorem Follows.entered {reversed : List Uuid} {accounts : AccountTable} {base : Currency}
    (h : Follows reversed o o') (he : Opened accounts base o e) : Opened accounts base o' e := by
  refine ⟨he.sourceType, he.sourceId.trans h.id.symm, h.asOfDate.trans he.date, ?_⟩
  rw [h.positions]
  exact he.lines

theorem SourceEffect.reversed (h : SourceEffect s s') (hid : id ∈ s.reversals.reversed) :
    id ∈ s'.reversals.reversed := by
  cases h with
  | quiet _ hreversals => rwa [hreversals]
  | adds _ _ _ hreversals => rwa [hreversals]
  | reverses _ _ _ h =>
      unfold ReversalTable.reversed
      rw [h.rows]
      exact List.mem_cons_of_mem _ hid

/-- The entry of an opening balance says the same under later names. -/
theorem SourceEffect.opened (h : SourceEffect s s') (he : e ∈ s.ledger.journal.entries)
    (ho : Opened s.ledger.accounts s.ledger.baseCurrency o e) :
    Opened s'.ledger.accounts s'.ledger.baseCurrency o e := by
  cases h with
  | quiet hledger _ =>
      rw [hledger.base (List.ne_nil_of_mem he)]
      refine ho.keep hledger.accounts fun l hl => ?_
      exact List.mem_flatMap.mpr ⟨e, he, List.mem_map_of_mem hl⟩
  | adds _ hledger _ _ =>
      rw [hledger.accounts, hledger.base]
      exact ho
  | reverses _ _ _ h =>
      rw [h.ledger.accounts, h.ledger.base]
      exact ho

theorem dated_of_draft (h : DraftOf o) : ∀ p ∈ o.positions, p.toPositionRow.Dated := by
  intro p hp
  obtain ⟨elements, hread⟩ := h.read
  obtain ⟨e, _, hposition⟩ := mapM_source hread hp
  exact dated_of_positionOf hposition

/-- **Opening balances stay sound**, when new entries of theirs are stated. -/
theorem SoundOpenings.after (h : SoundOpenings s) (he : SourceEffect s s')
    (ha : OpeningsAfter s s') (hnew : ∀ e ∈ s'.ledger.journal.entries,
      e ∉ s.ledger.journal.entries → e.source.sourceType = "opening_balance" →
      ∃ o ∈ s'.openings.rows, o.status.entryId? = some e.id) : SoundOpenings s' := by
  refine ⟨?_, ?_, ?_, ?_⟩
  · intro o' ho'
    rcases ha.origin o' ho' with ⟨o, ho, hf⟩ | hd | ⟨hdated, _⟩
    · rw [hf.positions]
      exact h.dated o ho
    · exact dated_of_draft hd
    · exact hdated
  · intro o' ho' id hentry
    rcases ha.origin o' ho' with ⟨o, ho, hf⟩ | hd | ⟨_, _, e, hmem, hid, hopened⟩
    · obtain ⟨e, hmem, hid, hopened⟩ := h.entered o ho id (hf.entryId.symm.trans hentry)
      exact ⟨e, he.entries hmem, hid, hf.entered (he.opened hmem hopened)⟩
    · rw [hd.status] at hentry
      cases hentry
    · exact ⟨e, hmem, Option.some.inj (hid.symm.trans hentry), hopened⟩
  · intro e hmem htype
    by_cases hold : e ∈ s.ledger.journal.entries
    · obtain ⟨o, ho, hentry⟩ := h.stated e hold htype
      obtain ⟨o', ho', hf⟩ := ha.kept o ho (by rw [hentry]; exact Option.some_ne_none _)
      exact ⟨o', ho', hf.entryId.trans hentry⟩
    · exact hnew e hmem hold htype
  · intro o' ho' entryId postedAt supersededAt hstatus
    rcases ha.origin o' ho' with ⟨o, ho, hf⟩ | hd | ⟨_, hposted, _⟩
    · rcases hf.status with hsame | ⟨id, _, _, hlater, hrev⟩
      · exact he.reversed (h.superseded o ho _ _ _ (hsame.symm.trans hstatus))
      · rw [hstatus] at hlater
        cases hlater
        exact he.reversed hrev
    · rw [hd.status] at hstatus
      cases hstatus
    · rw [hstatus] at hposted
      exact hposted.elim

theorem SoundOpenings.restated (h : SoundOpenings s) {t : OpeningTable}
    (hr : Restates s.reversals.reversed s.openings.rows t.rows) :
    SoundOpenings { s with openings := t } :=
  h.after (.ofOpenings rfl) (Restates.after hr) fun _ hmem hold _ => absurd hmem hold

/-- The deferred trigger asks new entries of opening balances for their rows. -/
theorem stated_of_complete (he : SourceEffect s s') {us : List Unit}
    (hc : (newEntries s s').mapM (entryComplete s') = .ok us) :
    ∀ e ∈ s'.ledger.journal.entries, e ∉ s.ledger.journal.entries →
      e.source.sourceType = "opening_balance" →
      ∃ o ∈ s'.openings.rows, o.status.entryId? = some e.id := by
  intro e hmem hnew htype
  have hfresh : e ∈ newEntries s s' := by
    refine List.mem_filter.mpr ⟨hmem, decide_eq_true fun hid => hnew ?_⟩
    obtain ⟨x, hx, hsame⟩ := List.mem_map.mp hid
    exact List.inj_on_of_nodup_map s'.ledger.journal.pk (he.entries hx) hmem hsame ▸ hx
  obtain ⟨_, hok⟩ := mapM_accepts hc hfresh
  simp only [entryComplete, bind_eq_ok, refuseIf_eq_ok, exists_const, not_and, not_forall,
    not_not] at hok
  obtain ⟨o, ho, hentry⟩ := hok.2.2 htype
  exact ⟨o, ho, hentry⟩

theorem adjustment_openings {pc : PostingCommand} {reason : Option String}
    (h : accountingPostManualAdjustment m s pc reason = .ok (s', r)) :
    s'.openings = s.openings := by
  simp only [accountingPostManualAdjustment, bind_eq_ok, ofLedger_eq_ok, pure_eq_ok,
    Prod.mk.injEq] at h
  obtain ⟨_, _, _, _, _, _, rfl, _⟩ := h
  rfl

theorem reversal_openings {rm : ReversalMoment} {c : ReversalCommand}
    (h : accountingPostReversal rm s c = .ok (s', r)) : s'.openings = s.openings := by
  obtain ⟨_, _, hdone⟩ := accountingPostReversal_cases h
  rcases hdone with ⟨rfl, _⟩ | ⟨_, _, _, hwritten, _⟩
  · rfl
  · exact hwritten.openings

/-- **What a routine does to the opening balances**: it restates them, and may then post one. -/
theorem sourceRoutine_after (h : SoundOpenings s) (hr : sourceRoutine s call = .ok (s', answer)) :
    ∃ t : OpeningTable, Restates s.reversals.reversed s.openings.rows t.rows ∧
      OpeningsAfter { s with openings := t } s' := by
  have hstays : s'.openings = s.openings → ∃ t : OpeningTable,
      Restates s.reversals.reversed s.openings.rows t.rows ∧
        OpeningsAfter { s with openings := t } s' :=
    fun hsame => ⟨s.openings, .refl _ _, .same hsame⟩
  cases call with
  | ledger call =>
      simp only [sourceRoutine, bind_eq_ok, ofLedger_eq_ok, pure_eq_ok, Prod.mk.injEq] at hr
      obtain ⟨_, _, rfl, _⟩ := hr
      exact hstays rfl
  | adjust m c reason =>
      simp only [sourceRoutine, bind_eq_ok, pure_eq_ok, Prod.mk.injEq] at hr
      obtain ⟨_, hadjust, rfl, _⟩ := hr
      exact hstays (adjustment_openings hadjust)
  | reverse m c =>
      simp only [sourceRoutine, bind_eq_ok, pure_eq_ok, Prod.mk.injEq] at hr
      obtain ⟨_, hreverse, rfl, _⟩ := hr
      exact hstays (reversal_openings hreverse)
  | draftOpening m actor asOf lines =>
      simp only [sourceRoutine, bind_eq_ok, pure_eq_ok, Prod.mk.injEq] at hr
      obtain ⟨_, hdraft, rfl, _⟩ := hr
      exact ⟨_, draft_restates hdraft, .same rfl⟩
  | editOpening m actor id asOf lines =>
      simp only [sourceRoutine, bind_eq_ok, pure_eq_ok, Prod.mk.injEq] at hr
      obtain ⟨_, hedit, rfl, _⟩ := hr
      exact ⟨_, edit_restates hedit, .same rfl⟩
  | discardOpening actor id =>
      simp only [sourceRoutine, bind_eq_ok, pure_eq_ok, Prod.mk.injEq] at hr
      obtain ⟨_, hdiscard, rfl, _⟩ := hr
      exact ⟨_, discard_restates hdiscard, .same rfl⟩
  | postOpening m actor id description requestId =>
      simp only [sourceRoutine, bind_eq_ok, pure_eq_ok, Prod.mk.injEq] at hr
      obtain ⟨_, hpost, rfl, _⟩ := hr
      exact ⟨s.openings, .refl _ _, postOpening_after h hpost⟩
  | stateOpening m actor asOf lines description requestId =>
      simp only [sourceRoutine, bind_eq_ok, pure_eq_ok, Prod.mk.injEq] at hr
      obtain ⟨_, hdraft, _, hpost, rfl, _⟩ := hr
      obtain ⟨t, rfl⟩ := draft_effect hdraft
      have hrestates : Restates s.reversals.reversed s.openings.rows t.rows := draft_restates hdraft
      exact ⟨t, hrestates, postOpening_after (h.restated hrestates) hpost⟩

/-- **Every accepted call keeps opening balances sound.** -/
theorem SoundOpenings.step (h : SoundOpenings s) (hcall : sourceCall s call = .ok (s', answer)) :
    SoundOpenings s' := by
  have he := sourceCall_effect hcall
  simp only [sourceCall, bind_eq_ok, pure_eq_ok] at hcall
  obtain ⟨_, hroutine, _, hcomplete, rfl⟩ := hcall
  obtain ⟨t, hrestates, hafter⟩ := sourceRoutine_after h hroutine
  have hnew := stated_of_complete he hcomplete
  exact (h.restated hrestates).after (sourceEffect_openings.mpr he) hafter hnew

theorem soundOpenings_empty (hj : s.ledger.journal = .empty) (ho : s.openings = .empty) :
    SoundOpenings s := by
  constructor
  · rw [ho]
    exact fun o ho => absurd ho List.not_mem_nil
  · rw [ho]
    exact fun o ho => absurd ho List.not_mem_nil
  · rw [hj]
    exact fun e he => absurd he List.not_mem_nil
  · rw [ho]
    exact fun o ho => absurd ho List.not_mem_nil

end Soundness

/-! ## 4. Over every history -/

/-- The entries under posted opening balances, not reversed. -/
def standingOpenings (s : SourceLedger) : List PostedEntry :=
  s.ledger.journal.entries.filter fun e => e.id ∉ s.reversals.reversed ∧
    ∃ o ∈ s.openings.rows, o.status.IsPosted ∧ o.status.entryId? = some e.id

/-- The entries of opening balances and the reversals of such entries. -/
def openingEntries (s : SourceLedger) : List PostedEntry :=
  s.ledger.journal.entries.filter fun e =>
    ∃ o ∈ s.openings.rows, o.status.entryId? = some e.rootId

structure OpeningsStand (s : SourceLedger) : Prop where
  /-- The entries of opening balances are the entries of entered rows. -/
  entries : ∀ e ∈ s.ledger.journal.entries, e.source.sourceType = "opening_balance" ↔
    ∃ o ∈ s.openings.rows, o.status.entryId? = some e.id
  /-- Nothing was entered for a draft. -/
  drafts : ∀ o ∈ s.openings.rows, o.status = .draft → ∀ e ∈ s.ledger.journal.entries,
    e.source.sourceType = "opening_balance" → e.source.sourceId ≠ o.id
  /-- Only reversed entries are superseded. -/
  superseded : ∀ o ∈ s.openings.rows, ∀ entryId postedAt supersededAt,
    o.status = .superseded entryId postedAt supersededAt → entryId ∈ s.reversals.reversed
  /-- One entry stands at most. -/
  once : (standingOpenings s).length ≤ 1
  /-- Of all opening balances and their reversals that entry is what is left, in every measure. -/
  standing : ∀ w, OddUnderMirror w →
    totalWeight w (openingEntries s) = totalWeight w (standingOpenings s)

/-- A row as it was entered, whatever its status. -/
structure SameOpening (o o' : OpeningBalance) : Prop where
  id : o'.id = o.id
  asOfDate : o'.asOfDate = o.asOfDate
  positions : o'.positions = o.positions
  entryId : o'.status.entryId? = o.status.entryId?

structure OpeningsRecorded (now later : SourceLedger) : Prop where
  /-- An entered row has its entry: its positions and the plug, under the names of today. -/
  recorded : ∀ o ∈ now.openings.rows, ∀ id, o.status.entryId? = some id →
    ∃ e ∈ now.ledger.journal.entries, e.id = id ∧
      Opened now.ledger.accounts now.ledger.baseCurrency o e
  /-- What was entered stays as it was. -/
  frozen : ∀ o ∈ now.openings.rows, o.status.entryId? ≠ none →
    ∃ o' ∈ later.openings.rows, SameOpening o o'

section Histories

variable {start s t : SourceLedger} {history : List SourceCall} {call : SourceCall}
  {answer : Option PostingResult} {o : OpeningBalance}

theorem Follows.same {reversed : List Uuid} {o' : OpeningBalance} (h : Follows reversed o o') :
    SameOpening o o' := ⟨h.id, h.asOfDate, h.positions, h.entryId⟩

theorem SameOpening.trans {o' o'' : OpeningBalance} (h : SameOpening o o')
    (h' : SameOpening o' o'') : SameOpening o o'' :=
  ⟨h'.id.trans h.id, h'.asOfDate.trans h.asOfDate, h'.positions.trans h.positions,
    h'.entryId.trans h.entryId⟩

/-- An accepted call keeps what was entered. -/
theorem SoundOpenings.frozen (h : SoundOpenings s) (hcall : sourceCall s call = .ok (t, answer))
    (ho : o ∈ s.openings.rows) (hentered : o.status.entryId? ≠ none) :
    ∃ o' ∈ t.openings.rows, SameOpening o o' := by
  simp only [sourceCall, bind_eq_ok, pure_eq_ok] at hcall
  obtain ⟨_, hroutine, _, _, rfl⟩ := hcall
  obtain ⟨u, hrestates, hafter⟩ := sourceRoutine_after h hroutine
  obtain ⟨x, hx, hfollows⟩ := hrestates.kept o ho hentered
  obtain ⟨y, hy, hlater⟩ := hafter.kept x hx (hfollows.entryId.trans_ne hentered)
  exact ⟨y, hy, hfollows.same.trans hlater.same⟩

theorem soundOpenings_afterAll (hj : start.ledger.journal = .empty) (ho : start.openings = .empty)
    (history : List SourceCall) : SoundOpenings (afterAll sourceCall start history) :=
  afterAll_invariant (fun _ _ _ _ _ hs hok => hs.step hok) (soundOpenings_empty hj ho)

/-- The entries of entered rows. -/
theorem SoundOpenings.entries (h : SoundOpenings s) {e : PostedEntry}
    (he : e ∈ s.ledger.journal.entries) : e.source.sourceType = "opening_balance" ↔
      ∃ o ∈ s.openings.rows, o.status.entryId? = some e.id := by
  constructor
  · exact h.stated e he
  · rintro ⟨o, ho, hentry⟩
    obtain ⟨e', he', hid, hopened⟩ := h.entered o ho _ hentry
    obtain rfl := List.inj_on_of_nodup_map s.ledger.journal.pk he' he hid
    exact hopened.sourceType

/-- **What stands of opening balances is under the posted one.** -/
theorem SoundOpenings.standing_iff (h : SoundOpenings s) {e : PostedEntry}
    (he : e ∈ s.ledger.journal.entries) :
    (s.reversals.Standing e ∧ ∃ o ∈ s.openings.rows, o.status.entryId? = some e.id) ↔
      e.id ∉ s.reversals.reversed ∧
        ∃ o ∈ s.openings.rows, o.status.IsPosted ∧ o.status.entryId? = some e.id := by
  constructor
  · rintro ⟨⟨_, hfree⟩, o, ho, hentry⟩
    refine ⟨hfree, o, ho, ?_, hentry⟩
    cases hstatus : o.status with
    | draft =>
        rw [hstatus] at hentry
        cases hentry
    | posted _ _ => trivial
    | superseded entryId _ _ =>
        rw [hstatus] at hentry
        cases hentry
        exact absurd (h.superseded o ho _ _ _ hstatus) hfree
  · rintro ⟨hfree, o, ho, _, hentry⟩
    have htype := (h.entries he).mpr ⟨o, ho, hentry⟩
    refine ⟨⟨fun hrev => ?_, hfree⟩, o, ho, hentry⟩
    rw [htype] at hrev
    exact absurd hrev (by decide)

theorem standingOpenings_length (s : SourceLedger) : (standingOpenings s).length ≤ 1 := by
  have hnodup : ((standingOpenings s).map PostedEntry.id).Nodup :=
    s.ledger.journal.pk.sublist (List.filter_sublist.map _)
  have hsub : (standingOpenings s).map PostedEntry.id ⊆
      (s.openings.rows.filter fun o => o.status.IsPosted).filterMap fun o => o.status.entryId? := by
    intro id hid
    obtain ⟨e, he, rfl⟩ := List.mem_map.mp hid
    obtain ⟨_, o, ho, hposted, hentry⟩ := of_decide_eq_true (List.mem_filter.mp he).2
    exact List.mem_filterMap.mpr ⟨o, List.mem_filter.mpr ⟨ho, decide_eq_true hposted⟩, hentry⟩
  calc (standingOpenings s).length
      = ((standingOpenings s).map PostedEntry.id).length := (List.length_map _).symm
    _ ≤ ((s.openings.rows.filter fun o => o.status.IsPosted).filterMap
          fun o => o.status.entryId?).length := (List.subperm_of_subset hnodup hsub).length_le
    _ ≤ (s.openings.rows.filter fun o => o.status.IsPosted).length := List.length_filterMap_le _ _
    _ ≤ 1 := s.openings.postedOnce

/-- **The books open with one stated position at most**, over every history. -/
theorem openings_stand (hj : start.ledger.journal = .empty) (hr : start.reversals = .empty)
    (ho : start.openings = .empty) (history : List SourceCall) :
    OpeningsStand (afterAll sourceCall start history) := by
  have hsound := soundOpenings_afterAll hj ho history
  refine ⟨fun e he => hsound.entries he,
    fun o ho hdraft e he htype => hsound.draft_free ho hdraft he htype, hsound.superseded,
    standingOpenings_length _, fun w hw => ?_⟩
  have hstands : StandsFor (afterAll sourceCall start history) (fun id =>
      ∃ o ∈ (afterAll sourceCall start history).openings.rows, o.status.entryId? = some id) w :=
    standsFor_afterAll hj hr _ hw
  unfold StandsFor at hstands
  refine hstands.trans (congrArg (totalWeight w) (List.filter_congr fun e he => ?_))
  exact decide_eq_decide.mpr (hsound.standing_iff he)

/-- **What was entered is recorded and stays**: the entry says the stored positions, the plug and
    nothing else, and no later call changes either. -/
theorem openings_recorded (hj : start.ledger.journal = .empty) (ho : start.openings = .empty)
    (history later : List SourceCall) : OpeningsRecorded (afterAll sourceCall start history)
      (afterAll sourceCall (afterAll sourceCall start history) later) := by
  have hsound := soundOpenings_afterAll hj ho history
  refine ⟨hsound.entered, fun o ho hentered => ?_⟩
  have hstart : SoundOpenings (afterAll sourceCall start history) ∧
      ∃ o' ∈ (afterAll sourceCall start history).openings.rows, SameOpening o o' :=
    ⟨hsound, o, ho, rfl, rfl, rfl, rfl⟩
  refine (afterAll_invariant
    (I := fun s => SoundOpenings s ∧ ∃ o' ∈ s.openings.rows, SameOpening o o')
    (fun s c _ t r hs hok => ?_) hstart).2
  obtain ⟨hs, o', ho', hsame⟩ := hs
  obtain ⟨o'', ho'', hlater⟩ := hs.frozen hok ho' (hsame.entryId.trans_ne hentered)
  exact ⟨hs.step hok, o'', ho'', hsame.trans hlater⟩

end Histories

/-! ## 5. A sample history -/

theorem equity_type : ∀ k, some OPENING_EQUITY = some k →
    (k, AccountType.equity) ∈ SYSTEM_ACCOUNT_KEYS := by
  intro k hk
  cases hk
  decide

theorem equity_code : ACCOUNT_CODE_RE "3900" = true := by
  decide +kernel

def sampleEquity : Account :=
  { sampleAccount 13 "3900" equity_code with
    type := .equity
    systemKey := some OPENING_EQUITY
    systemKeyType := equity_type }

/-- Books without entries, their chart with an account for opening equity. -/
def sampleCharted : SourceLedger := { sampleSources with
  ledger := { sampleLedger with
    accounts := resultD (sampleLedger.accounts.insert sampleEquity) sampleLedger.accounts } }

/-- One position, in cash. -/
def samplePositions : List Jsonb :=
  [ .object
      [ ("account", .object [("kind", .string "code"), ("code", .string "1000")]),
        ("side", .string "D"), ("base_amount_minor", .string "100"),
        ("base_currency", .string "ILS"), ("txn_amount_minor", .string "100"),
        ("txn_currency", .string "ILS"), ("fx_rate", .string "1.0000000000"),
        ("fx_rate_source", .string "base"), ("fx_rate_at", .string "2025-01-02T00:00:00Z"),
        ("memo", .null) ] ]

def sampleOpeningSource : PostingSource := { sampleSource with sourceType := "opening_balance" }

def sampleOpening : OpeningBalance where
  id := .sample 9
  status := .draft
  asOfDate := .day 9133
  actorUserId := .sample 5
  positions := resultD (samplePositions.mapM positionOf) []

def sampleOpeningLines : List PostingLine :=
  resultD ((openingElements .ils sampleOpening).mapM (resolveLine sampleCharted.ledger.accounts)) []

def sampleOpeningActor : PostingActor where
  actorUserId := .sample 5
  operationKind := "post"
  source := sampleOpeningSource
  postingFingerprint := digest (postingStream sampleOpeningSource 9133
    ((sampleOpeningLines.map fun l => accountingCanonicalLine l.fields).filterMap id))

def sampleDrafted : SourceLedger := { sampleCharted with
  openings := resultD (OpeningTable.ofRows [sampleOpening]) .empty }

def sampleOpeningCommand : PostingCommand where
  actor := sampleOpeningActor
  entryDate := some (.day 9133)
  description := none
  requestId := none
  lines := some (.array (openingElements .ils sampleOpening))

def sampleOpenedLedger : Ledger :=
  (resultD (createEntry sampleMoment sampleCharted.ledger sampleOpeningCommand
    ⟨sampleOpeningLines, some sampleOpeningActor.postingFingerprint⟩)
    (sampleCharted.ledger, ⟨sampleMoment.entryId, true⟩)).1

/-- The books with the posted opening balance. -/
def sampleOpened : SourceLedger := { sampleDrafted with
  ledger := sampleOpenedLedger
  openings := resultD (sampleDrafted.openings.replace
    { sampleOpening with status := .posted sampleMoment.entryId 0 }) .empty }

def sampleState : SourceCall :=
  .stateOpening sampleMoment sampleOpeningActor (some (.day 9133)) (some (.array samplePositions))
    none none

theorem sampleOpened_entered :
    (sampleOpened.ledger.journal.byId sampleMoment.entryId).isSome = true := by
  decide +kernel

def sampleOpeningEntry : PostedEntry := Option.get _ sampleOpened_entered

def sampleOpeningMirrored : List PostingLine :=
  mirroredLines sampleOpened.ledger.accounts sampleOpeningEntry

/-- The reversal of the opening entry on its own day. -/
def sampleOpeningReversal : ReversalCommand := { sampleReversal with
  actor := { sampleReversal.actor with
    postingFingerprint := digest (postingStream sampleReversalSource 9133
      ((sampleOpeningMirrored.map fun l => accountingCanonicalLine l.fields).filterMap id)) } }

def sampleOpeningPrepared : PreparedReversal where
  reason := sampleReason
  date := .day 9133
  original := sampleOpeningEntry
  lines := sampleOpeningMirrored
  fingerprint := some sampleOpeningReversal.actor.postingFingerprint

/-- The books with the opening balance and its reversal. -/
def sampleWithdrawn : SourceLedger :=
  (resultD (createReversal sampleReversalMoment sampleOpened sampleOpeningReversal
    sampleOpeningPrepared) (sampleOpened, ⟨sampleMoment.entryId, true⟩)).1

section Samples

theorem checkOpeningPayload_eq_ok {lines : Option Jsonb} {es : List Jsonb}
    (h : checkOpeningPayload lines = .ok es) : lines = some (.array es) := by
  simp only [checkOpeningPayload, bind_eq_ok, pure_eq_ok] at h
  obtain ⟨_, helements, _, _, _, _, _, _, _, _, _, _, rfl⟩ := h
  unfold positionElements at helements
  split at helements
  · simp only [bind_eq_ok, pure_eq_ok] at helements
    obtain ⟨_, _, rfl⟩ := helements
    rfl
  · cases helements

/-- What drafting the sample computes. -/
theorem sampleOpening_drafts :
    (openingAuthority sampleOpeningActor none).isOk = true ∧
    (samplePositions.mapM positionOf).isOk = true ∧
    (OpeningTable.ofRows [sampleOpening]).isOk = true ∧
    (checkOpeningPayload (some (.array samplePositions))).isOk = true ∧
    ¬ sampleOpeningActor.actorUserId ∉ sampleMoment.users := by
  decide +kernel

/-- What posting it computes. -/
theorem sampleOpening_posts :
    (openingAuthority sampleOpeningActor (some (.sample 9))).isOk = true ∧
    2 ≤ (openingElements .ils sampleOpening).length ∧
    (∀ p ∈ sampleOpening.positions.map (fun p => p.toPositionRow) ++
      plugRows .ils (9133 * 86400) sampleOpening.positions, malformed p.element = false) ∧
    ((openingElements .ils sampleOpening).mapM (resolveLine sampleCharted.ledger.accounts)).isOk =
      true ∧
    (∀ l ∈ sampleOpeningLines, l.account ≠ none) ∧
    requireBaseCurrency .ils sampleOpeningLines = .ok () ∧
    (createEntry sampleMoment sampleCharted.ledger sampleOpeningCommand
      ⟨sampleOpeningLines, some sampleOpeningActor.postingFingerprint⟩).toOption.map Prod.snd =
        some ⟨sampleMoment.entryId, true⟩ ∧
    (sampleDrafted.openings.replace
      { sampleOpening with status := .posted sampleMoment.entryId 0 }).isOk = true ∧
    (¬ ∃ p ∈ sampleOpening.positions, p.baseCurrency ≠ Currency.ils) ∧
    ((newEntries sampleCharted sampleOpened).mapM (entryComplete sampleOpened)).isOk = true ∧
    (standingOpenings sampleOpened).length = 1 ∧
    ∃ o ∈ sampleOpened.openings.rows, o.status.entryId? = some sampleMoment.entryId := by
  decide +kernel

theorem samplePositions_read : samplePositions.mapM positionOf = .ok sampleOpening.positions := by
  obtain ⟨_, hread, _⟩ := sampleOpening_drafts
  exact eq_ok_resultD (d := []) hread

theorem sampleOpening_stored : OpeningTable.ofRows [sampleOpening] = .ok sampleDrafted.openings := by
  obtain ⟨_, _, hstored, _⟩ := sampleOpening_drafts
  exact eq_ok_resultD (d := .empty) hstored

theorem samplePositions_checked :
    checkOpeningPayload (some (.array samplePositions)) = .ok samplePositions := by
  obtain ⟨_, _, _, hpayload, _⟩ := sampleOpening_drafts
  obtain ⟨es, hes⟩ := exists_of_isOk hpayload
  have hsame := checkOpeningPayload_eq_ok hes
  cases hsame
  exact hes

theorem sampleDraft_ok : accountingOpenBalanceDraft sampleMoment sampleCharted sampleOpeningActor
    (some (.day 9133)) (some (.array samplePositions)) = .ok sampleDrafted := by
  obtain ⟨hauthority, _, _, _, hmember⟩ := sampleOpening_drafts
  have hauth : openingAuthority sampleOpeningActor none = .ok () :=
    eq_ok_resultD (d := ()) hauthority
  have hown : ownsBusiness sampleCharted.ledger.store sampleOpeningActor.source = .ok () :=
    ownsBusiness_eq_ok.mpr ⟨rfl, rfl⟩
  have hdate : requireAsOf sampleMoment sampleCharted.ledger (some (.day 9133)) = .ok (.day 9133) :=
    rfl
  have huser : refuseIf (sampleOpeningActor.actorUserId ∉ sampleMoment.users)
      (SourceRefusal.ledger (.database "23503")) = .ok () :=
    refuseIf_eq_ok.mpr hmember
  have hnone : sampleCharted.openings.find? sampleOpeningActor.source.sourceId = none := rfl
  have hrow : OpeningTable.ofRows (⟨sampleOpeningActor.source.sourceId, .draft, .day 9133,
      sampleOpeningActor.actorUserId, sampleOpening.positions⟩ :: sampleCharted.openings.rows) =
        .ok sampleDrafted.openings := sampleOpening_stored
  unfold accountingOpenBalanceDraft
  rw [hauth, ok_bind, samplePositions_checked, ofLedger_ok, ok_bind, hown, ok_bind, hdate, ok_bind, hnone]
  simp only [samplePositions_read, ofLedger_ok, ok_bind, huser, hrow]
  rfl

theorem schema_element {p : PositionRow} (h : malformed p.element = false) : Schema p.element := by
  refine ⟨⟨POSTING_LINE_KEYS, rfl, fun _ hk => hk⟩, fun k hk => ?_, h⟩
  simp only [POSTING_LINE_KEYS, List.mem_cons, List.not_mem_nil, or_false] at hk
  rcases hk with rfl | rfl | rfl | rfl | rfl | rfl | rfl | rfl | rfl | rfl | rfl | rfl
  all_goals rfl

theorem sampleOpening_prepared : Prepared sampleCharted.ledger sampleOpeningCommand
    ⟨sampleOpeningLines, some sampleOpeningActor.postingFingerprint⟩
    (openingElements .ils sampleOpening) := by
  obtain ⟨_, hlength, hformed, hresolved, haccounts, hbase, _⟩ := sampleOpening_posts
  have hpayload : checkPayload sampleOpeningCommand.lines =
      .ok (openingElements .ils sampleOpening) := by
    refine checkPayload_eq_ok.mpr ⟨rfl, hlength, fun e he => ?_⟩
    rw [openingElements_day rfl] at he
    obtain ⟨p, hp, rfl⟩ := List.mem_map.mp he
    exact schema_element (hformed p hp)
  have hsigned : fails (· == sampleOpeningActor.postingFingerprint)
      (some sampleOpeningActor.postingFingerprint) = false := by
    simp [fails]
  exact ⟨accountingActor_eq_ok.mpr ⟨rfl, rfl, rfl⟩, hpayload, eq_ok_resultD (d := []) hresolved,
    requireAccounts_eq_ok.mpr haccounts, hbase, rfl, hsigned⟩

theorem sampleOpening_posted : accountingPostEntry sampleMoment sampleCharted.ledger
    sampleOpeningCommand = .ok (sampleOpenedLedger, ⟨sampleMoment.entryId, true⟩) := by
  obtain ⟨_, _, _, _, _, _, hcreated, _⟩ := sampleOpening_posts
  unfold accountingPostEntry
  rw [preparePosting_eq_ok.mpr ⟨_, sampleOpening_prepared⟩, ok_bind]
  exact eq_ok_of_snd hcreated

theorem samplePost_ok : accountingOpenBalancePost sampleMoment sampleDrafted sampleOpeningActor
    (.sample 9) none none = .ok (sampleOpened, ⟨sampleMoment.entryId, true⟩) := by
  obtain ⟨hauthority, _, _, _, _, _, _, hstored, hcurrency, _⟩ := sampleOpening_posts
  have hauth : openingAuthority sampleOpeningActor (some (.sample 9)) = .ok () :=
    eq_ok_resultD (d := ()) hauthority
  have hown : ownsBusiness sampleDrafted.ledger.store sampleOpeningActor.source = .ok () :=
    ownsBusiness_eq_ok.mpr ⟨rfl, rfl⟩
  have hrows := OpeningTable.rows_of_ofRows sampleOpening_stored
  have hfind : openingOf sampleDrafted sampleOpeningActor (.sample 9) = .ok sampleOpening := by
    simp only [openingOf, bind_eq_ok, refuseIf_eq_ok, not_not, exists_const, someOr_eq_ok]
    refine ⟨rfl, OpeningTable.find?_eq_some.mpr ⟨?_, rfl⟩⟩
    rw [hrows]
    exact List.mem_singleton_self _
  have hroom : makeRoom sampleMoment sampleDrafted sampleOpening.id = .ok sampleDrafted := by
    unfold makeRoom
    rw [hrows]
    rfl
  have hreplaced : sampleDrafted.openings.replace
      { sampleOpening with status := .posted sampleMoment.entryId sampleMoment.now } =
        .ok sampleOpened.openings := eq_ok_resultD (d := .empty) hstored
  have hposted : postDraft sampleMoment sampleDrafted sampleOpeningActor sampleOpening none none =
      .ok (sampleOpened, ⟨sampleMoment.entryId, true⟩) := by
    simp only [postDraft, bind_eq_ok, ofLedger_eq_ok, refuseIf_eq_ok, exists_const, pure_eq_ok]
    exact ⟨by decide, hcurrency, by decide, by decide, _, hroom, _, sampleOpening_posted, _,
      hreplaced, rfl⟩
  unfold accountingOpenBalancePost
  rw [hauth, ok_bind, hown, ok_bind, hfind, ok_bind]
  exact hposted

theorem stateOpening_ok {s s' t : SourceLedger} {m : PostingMoment} {actor : PostingActor}
    {asOf : Option PgDate} {lines : Option Jsonb} {description requestId : Option String}
    {r : PostingResult} (hdraft : accountingOpenBalanceDraft m s actor asOf lines = .ok s')
    (hpost : accountingOpenBalancePost m s' actor actor.source.sourceId description requestId =
      .ok (t, r)) :
    sourceRoutine s (.stateOpening m actor asOf lines description requestId) = .ok (t, some r) := by
  simp only [sourceRoutine, hdraft, ok_bind, hpost]
  rfl

theorem sampleState_ok :
    sourceCall sampleCharted sampleState =
      .ok (sampleOpened, some ⟨sampleMoment.entryId, true⟩) := by
  obtain ⟨_, _, _, _, _, _, _, _, _, hcomplete, _⟩ := sampleOpening_posts
  exact sourceCall_of_routine (stateOpening_ok sampleDraft_ok samplePost_ok) hcomplete

theorem sampleOpened_after : afterAll sourceCall sampleCharted [sampleState] = sampleOpened := by
  unfold afterAll
  rw [List.foldl_cons, List.foldl_nil, after_of_ok sampleState_ok]

/-- What reversing the opening entry computes. -/
theorem sampleWithdrawal_computes :
    sampleOpeningEntry.source.sourceType ≠ "reversal" ∧
    2 ≤ sampleOpeningMirrored.length ∧
    requireBaseCurrency .ils sampleOpeningMirrored = .ok () ∧
    ¬ (PgDate.day 9133).Before sampleOpeningEntry.entryDate ∧
    (createReversal sampleReversalMoment sampleOpened sampleOpeningReversal
      sampleOpeningPrepared).toOption.map Prod.snd = some ⟨sampleReversalMoment.entryId, true⟩ ∧
    (sampleOpened.ledger.journal.bySource sampleReversalSource).isNone = true ∧
    ((newEntries sampleOpened sampleWithdrawn).mapM (entryComplete sampleWithdrawn)).isOk = true ∧
    (standingOpenings sampleWithdrawn).length = 0 ∧
    (openingEntries sampleWithdrawn).length = 2 := by
  decide +kernel

theorem sampleWithdrawal_prepared : sampleOpeningPrepared.Of sampleReversalMoment.toPostingMoment
    sampleOpened.ledger sampleOpeningReversal := by
  obtain ⟨_, _, htrimmed, _⟩ := sampleReversal_computes
  obtain ⟨hgeneric, henough, hbase, hbefore, _⟩ := sampleWithdrawal_computes
  have hpast : ¬ sampleOpeningPrepared.date.After
      (sampleReversalMoment.civilDate sampleOpened.ledger.timezone sampleReversalMoment.now) := by
    decide
  have hsigned : fails (· == sampleOpeningReversal.actor.postingFingerprint)
      (some sampleOpeningReversal.actor.postingFingerprint) = false := by
    simp [fails]
  exact ⟨sourceAuthority_eq_ok.mpr ⟨rfl, by decide, rfl⟩, rfl, requiredReason_of_text htrimmed, rfl,
    ownsBusiness_eq_ok.mpr ⟨rfl, rfl⟩, (Option.some_get sampleOpened_entered).symm, hgeneric, rfl,
    henough, hbase, hpast, hbefore, rfl, hsigned⟩

theorem sampleWithdrawal_ok :
    sourceCall sampleOpened (.reverse sampleReversalMoment sampleOpeningReversal) =
      .ok (sampleWithdrawn, some ⟨sampleReversalMoment.entryId, true⟩) := by
  obtain ⟨_, _, _, _, hcreated, hfree, hcomplete, _⟩ := sampleWithdrawal_computes
  exact reverse_of_created sampleWithdrawal_prepared hfree (eq_ok_of_snd hcreated) hcomplete

theorem sampleWithdrawn_after :
    afterAll sourceCall sampleCharted
      [sampleState, .reverse sampleReversalMoment sampleOpeningReversal] = sampleWithdrawn := by
  unfold afterAll
  rw [List.foldl_cons, List.foldl_cons, List.foldl_nil, after_of_ok sampleState_ok,
    after_of_ok sampleWithdrawal_ok]

/-- One opening balance stands, and when it is reversed none does. -/
theorem openings_stand_sample :
    ((standingOpenings sampleOpened).length = 1 ∧ OpeningsStand sampleOpened) ∧
      ((standingOpenings sampleWithdrawn).length = 0 ∧ (openingEntries sampleWithdrawn).length = 2 ∧
        OpeningsStand sampleWithdrawn) := by
  obtain ⟨_, _, _, _, _, _, _, _, _, _, hone, _⟩ := sampleOpening_posts
  obtain ⟨_, _, _, _, _, _, _, hnone, htwo⟩ := sampleWithdrawal_computes
  refine ⟨⟨hone, ?_⟩, hnone, htwo, ?_⟩
  · rw [← sampleOpened_after]
    exact openings_stand rfl rfl rfl [sampleState]
  · rw [← sampleWithdrawn_after]
    exact openings_stand rfl rfl rfl
      [sampleState, .reverse sampleReversalMoment sampleOpeningReversal]

theorem openings_recorded_sample :
    (∃ o ∈ sampleOpened.openings.rows, o.status.entryId? = some sampleMoment.entryId) ∧
      OpeningsRecorded sampleOpened
        (afterAll sourceCall sampleOpened [.ledger (.setTimezone "Europe/Paris")]) := by
  obtain ⟨_, _, _, _, _, _, _, _, _, _, _, hentered⟩ := sampleOpening_posts
  refine ⟨hentered, ?_⟩
  rw [← sampleOpened_after]
  exact openings_recorded rfl rfl [sampleState] [.ledger (.setTimezone "Europe/Paris")]

end Samples

end Daftar.Accounting
