/-
  File: Daftar/Accounting/PeriodReplay.lean
  Subject: Histories of period commands, and what a recorded operation answers afterwards.

  * `PeriodCall` is one call of one of the three routines, with whatever arguments.
  * The stream of a command determines its facts (`stream_injective`), and with digests that do
    not collide its fingerprint does (`fingerprint_injective`).
  * `period_operations_replay_safely`: the registry holds one row for each effect of the history,
    and decides every later call with a recorded operation id, whatever the periods have become.
-/

import Daftar.Accounting.PeriodTopology
import Daftar.Library.Histories
import Daftar.Library.Tables

namespace Daftar.Accounting

open AsciiText
open CivilDate
open Fallible
open Framing
open Histories
open Sha256
open Tables

/-! ## 1. What a fingerprint determines -/

/-- `canonicalDate`: the signer writes a year in four digits. -/
def CanonicalDate (date : ℤ) : Prop := 1 ≤ (civil date).year ∧ (civil date).year ≤ 9999

/-- The dates of a change are dates the signer writes. -/
def PeriodChange.Canonical : PeriodChange → Prop
  | create range => CanonicalDate range.startDate ∧ CanonicalDate range.endDate
  | _ => True

/-- What the digest of a reason is taken of. -/
def PeriodChange.reasonBytes : PeriodChange → List (List UInt8)
  | reopen reason => [utf8 (btrim reason.text)]
  | _ => []

/-- Everything a fingerprint digests. -/
def PeriodFacts.messages (f : PeriodFacts) : List (List UInt8) := f.stream :: f.change.reasonBytes

theorem newline_notMem_canonical (f : PeriodFacts) :
    ∀ line ∈ (accountingPeriodCanonical f).map String.toList, '\n' ∉ line := by
  have huuid : ∀ u : Uuid, '\n' ∉ u.text.toList := fun u => u.printable.notMem (by decide)
  have hdate : ∀ d, '\n' ∉ (isoDate d).toList := fun d => (printable_isoDate d).notMem (by decide)
  have hkind : ∀ k : PeriodCommandKind, '\n' ∉ k.text.toList := by
    intro k
    cases k <;> decide
  have hfields : ∀ field ∈ f.change.fields, '\n' ∉ field.toList := by
    intro field hf
    cases hc : f.change with
    | create range =>
        rw [hc] at hf
        rcases List.mem_cons.mp hf with rfl | hf
        · exact hdate _
        · rw [List.mem_singleton.mp hf]
          exact hdate _
    | close =>
        rw [hc] at hf
        exact absurd hf List.not_mem_nil
    | reopen reason =>
        rw [hc] at hf
        rw [List.mem_singleton.mp hf]
        exact newline_notMem_of_hex (hex_digest _)
  intro line hl
  obtain ⟨field, hfield, rfl⟩ := List.mem_map.mp hl
  rcases List.mem_append.mp hfield with hhead | htail
  · simp only [List.mem_cons, List.not_mem_nil, or_false] at hhead
    rcases hhead with rfl | rfl | rfl | rfl | rfl | rfl
    · decide
    · exact hkind _
    · exact huuid _
    · exact huuid _
    · exact huuid _
    · exact huuid _
  · exact hfields field htail

/-- One stream, one list of fields. -/
theorem canonical_of_stream {f g : PeriodFacts} (h : f.stream = g.stream) :
    accountingPeriodCanonical f = accountingPeriodCanonical g := by
  have hframe := String.ofList_injective (utf8_injective h)
  have hlines := congrArg (unframe '\n') hframe
  rw [unframe_frame (newline_notMem_canonical f), unframe_frame (newline_notMem_canonical g)]
    at hlines
  exact List.map_injective_iff.mpr (fun _ _ => String.toList_injective) hlines

theorem kind_of_text {k l : PeriodCommandKind} (h : k.text = l.text) : k = l := by
  cases k <;> cases l <;> first | rfl | exact absurd h (by decide)

/-- The kind and the fields after the period determine a change. -/
theorem change_of_fields {c d : PeriodChange} (hc : c.Canonical) (hd : d.Canonical)
    (hfree : CollisionFree (c.reasonBytes ++ d.reasonBytes)) (hkind : c.kind = d.kind)
    (hfields : c.fields = d.fields) : c = d := by
  cases c with
  | create r =>
      cases d with
      | create q =>
          obtain ⟨hs, hrest⟩ := List.cons.inj hfields
          have he := (List.cons.inj hrest).1
          have hstart := isoDate_injective hc.1.1 hd.1.1 hs
          have hend := isoDate_injective hc.2.1 hd.2.1 he
          cases r
          cases q
          cases hstart
          cases hend
          rfl
      | close => cases hkind
      | reopen _ => cases hkind
  | close =>
      cases d with
      | close => rfl
      | create _ => cases hkind
      | reopen _ => cases hkind
  | reopen r =>
      cases d with
      | reopen q =>
          have hdigest := (List.cons.inj hfields).1
          have hbytes := hfree _ (List.mem_append_left _ List.mem_cons_self) _
            (List.mem_append_right _ List.mem_cons_self) hdigest
          have htrim := utf8_injective hbytes
          rw [r.trimmed, q.trimmed] at htrim
          cases r
          cases q
          cases htrim
          rfl
      | create _ => cases hkind
      | close => cases hkind

/-- **A stream determines the facts it was written from.** -/
theorem stream_injective {f g : PeriodFacts} (hf : f.change.Canonical) (hg : g.change.Canonical)
    (hfree : CollisionFree (f.change.reasonBytes ++ g.change.reasonBytes))
    (h : f.stream = g.stream) : f = g := by
  have hc := canonical_of_stream h
  simp only [accountingPeriodCanonical, List.cons_append, List.nil_append, List.cons.injEq,
    true_and] at hc
  obtain ⟨hkind, htenant, hbusiness, hop, hperiod, hfields⟩ := hc
  have hchange := change_of_fields hf hg hfree (kind_of_text hkind) hfields
  have h1 := Uuid.ext_text htenant
  have h2 := Uuid.ext_text hbusiness
  have h3 := Uuid.ext_text hop
  have h4 := Uuid.ext_text hperiod
  cases f
  cases g
  simp only at h1 h2 h3 h4 hchange
  rw [h1, h2, h3, h4, hchange]

/-- **A fingerprint determines the facts**, where digests do not collide. -/
theorem fingerprint_injective {f g : PeriodFacts} (hf : f.change.Canonical)
    (hg : g.change.Canonical) (hfree : CollisionFree (f.messages ++ g.messages))
    (h : accountingPeriodFingerprint f = accountingPeriodFingerprint g) : f = g := by
  have hstream := hfree _ (List.mem_append_left _ List.mem_cons_self) _
    (List.mem_append_right _ List.mem_cons_self) h
  refine stream_injective hf hg (hfree.mono ?_) hstream
  intro m hm
  rcases List.mem_append.mp hm with hm | hm
  · exact List.mem_append_left _ (List.mem_cons_of_mem _ hm)
  · exact List.mem_append_right _ (List.mem_cons_of_mem _ hm)

/-! ## 2. Histories -/

/-- One call of a routine. -/
inductive PeriodCall
  | create (actor : ControlActor) (operationId : Option Uuid) (startDate endDate : Option PgDate)
  | close (actor : ControlActor) (operationId : Option Uuid)
  | reopen (actor : ControlActor) (operationId : Option Uuid) (reason : Option String)
  deriving DecidableEq

/-- The call past its own assertion and payload: the assertion is valid for what it presents. -/
def PeriodCall.prepare : PeriodCall → Except Refusal PreparedCommand
  | create actor operationId startDate endDate => prepareCreate actor operationId startDate endDate
  | close actor operationId => prepareClose actor operationId
  | reopen actor operationId reason => prepareReopen actor operationId reason

def periodCall (store : PeriodStore) : PeriodCall → Except Refusal (PeriodStore × PeriodResult)
  | .create actor operationId startDate endDate =>
    accountingPeriodCreate store actor operationId startDate endDate
  | .close actor operationId => accountingPeriodClose store actor operationId
  | .reopen actor operationId reason => accountingPeriodReopen store actor operationId reason

theorem periodCall_eq (store : PeriodStore) (c : PeriodCall) :
    periodCall store c = c.prepare >>= runPrepared store := by
  cases c <;> rfl

/-- An assertion the signer wrote: its dates, where the call has any, are canonical. -/
def PeriodCall.Minted (c : PeriodCall) : Prop := ∀ p, c.prepare = .ok p → p.change.Canonical

/-- What the digests of a call are taken of. -/
def PeriodCall.messages (c : PeriodCall) : List (List UInt8) :=
  match c.prepare with
  | .ok p => p.facts.messages
  | .error _ => []

/-- A command that took effect, and the period its call returned. -/
structure PeriodEffect where
  command : PreparedCommand
  periodId : Uuid

/-- What a call reports: an effect when it says that it changed something. -/
def PeriodCall.report (c : PeriodCall) (r : PeriodResult) : Option PeriodEffect :=
  match c.prepare with
  | .ok p => if r.changed then some ⟨p, r.periodId⟩ else none
  | .error _ => none

/-- The command is about the business of the store. -/
def PreparedCommand.Names (p : PreparedCommand) (store : PeriodStore) : Prop :=
  p.actor.businessId = store.businessId ∧ store.tenantId = p.actor.tenantId

theorem requireBusiness_eq_ok {store : PeriodStore} {p : PreparedCommand} :
    requireBusiness store p.actor = .ok () ↔ p.Names store := by
  simp only [requireBusiness, bind_eq_ok, refuseIf_eq_ok, exists_const, not_not]
  exact Iff.rfl

/-- **What an accepted command does**: nothing new, or both rows of a new operation. -/
theorem runPrepared_cases {s t : PeriodStore} {p : PreparedCommand} {r : PeriodResult}
    (h : runPrepared s p = .ok (t, r)) : p.Names s ∧
      ((t = s ∧ r.changed = false) ∨
        (perform s p = .ok t ∧ r = ⟨p.actor.resourceId, true⟩)) := by
  simp only [runPrepared, bind_eq_ok] at h
  obtain ⟨_, hbusiness, replay, _, h⟩ := h
  refine ⟨requireBusiness_eq_ok.mp hbusiness, ?_⟩
  cases replay with
  | some id =>
      cases h
      exact .inl ⟨rfl, rfl⟩
  | none =>
      simp only [bind_eq_ok, pure_eq_ok] at h
      obtain ⟨after, hp, _, _, h⟩ := h
      cases h
      exact .inr ⟨hp, rfl⟩

theorem PeriodOperations.insert_eq_ok {t u : PeriodOperations} {o : PeriodOperation}
    (h : t.insert o = .ok u) : u.rows = o :: t.rows := by
  unfold PeriodOperations.insert at h
  split at h
  · cases h
  · cases h
    rfl

/-- **What an accepted call does and reports.** -/
theorem periodCall_cases {s t : PeriodStore} {c : PeriodCall} {r : PeriodResult}
    (h : periodCall s c = .ok (t, r)) : ∃ p, c.prepare = .ok p ∧ p.Names s ∧
      ((t = s ∧ c.report r = none) ∨
        (perform s p = .ok t ∧ c.report r = some ⟨p, p.actor.resourceId⟩)) := by
  rw [periodCall_eq, bind_eq_ok] at h
  obtain ⟨p, hp, h⟩ := h
  obtain ⟨hnames, hdone⟩ := runPrepared_cases h
  refine ⟨p, hp, hnames, ?_⟩
  unfold PeriodCall.report
  rw [hp]
  rcases hdone with ⟨rfl, hr⟩ | ⟨hperform, rfl⟩
  · exact .inl ⟨rfl, by simp only [hr]; rfl⟩
  · exact .inr ⟨hperform, rfl⟩

/-- A call stays with its business. -/
theorem periodCall_names {s t : PeriodStore} {c : PeriodCall} {r : PeriodResult}
    (h : periodCall s c = .ok (t, r)) : t.tenantId = s.tenantId ∧ t.businessId = s.businessId := by
  obtain ⟨p, _, _, hdone⟩ := periodCall_cases h
  rcases hdone with ⟨rfl, _⟩ | ⟨hperform, _⟩
  · exact ⟨rfl, rfl⟩
  · exact (perform_eq_ok hperform).2.2

/-- The registry is a log of the effects. -/
theorem registry_logged : Logged periodCall PeriodCall.report (fun s => s.operations.rows)
    fun e => e.command.operation := by
  intro s c t r h
  obtain ⟨p, _, _, hdone⟩ := periodCall_cases h
  rcases hdone with ⟨rfl, hr⟩ | ⟨hp, hr⟩
  · rw [hr]
    rfl
  · rw [hr]
    exact PeriodOperations.insert_eq_ok (perform_eq_ok hp).2.1

/-- The periods are changed by the effects only. -/
theorem periods_driven : Driven periodCall PeriodCall.report PeriodStore.periods
    fun periods e => changePeriods periods e.command := by
  intro s c t r h
  obtain ⟨p, _, _, hdone⟩ := periodCall_cases h
  rcases hdone with ⟨rfl, hr⟩ | ⟨hp, hr⟩
  · rw [hr]
    rfl
  · rw [hr]
    show (do
      let periods ← changePeriods s.periods p
      [].foldlM _ periods) = _
    rw [(perform_eq_ok hp).1]
    rfl

/-! ## 3. Replays -/

/-- The effects of a history, and what they decide of every later call. -/
structure ReplaysSafely (start : PeriodStore) (history : List PeriodCall)
    (effects : List PeriodEffect) (now : PeriodStore) : Prop where
  registry : now.operations.rows = (effects.map fun e => e.command.operation).reverse
  /-- An operation id has one effect. -/
  once : (effects.map fun e => e.command.operationId).Nodup
  /-- There is no other change to the periods. -/
  periods : effects.foldlM (fun periods e => changePeriods periods e.command) start.periods =
    .ok now.periods
  /-- The same facts again: the recorded answer, and the store as it is. -/
  replay : ∀ e ∈ effects, ∀ c p, c.prepare = .ok p → p.facts = e.command.facts →
    periodCall now c = .ok (now, ⟨e.periodId, false⟩)
  /-- The same operation id with other facts: refused, the store as it is. -/
  conflict : ∀ e ∈ effects, ∀ c p, c.prepare = .ok p → c.Minted → p.Names now →
    CollisionFree ((c :: history).flatMap PeriodCall.messages) →
    p.operationId = e.command.operationId → p.facts ≠ e.command.facts →
    periodCall now c = .error (.accounting .idempotencyConflict) ∧ after periodCall now c = now

section Replays

variable {start now : PeriodStore} {history : List PeriodCall} {e : PeriodEffect}
  {p : PreparedCommand}

/-- An effect comes from a call of the history that named the business. -/
structure Origin (start : PeriodStore) (history : List PeriodCall) (e : PeriodEffect) : Prop where
  call : ∃ c ∈ history, c.prepare = .ok e.command
  names : e.command.Names start
  periodId : e.periodId = e.command.actor.resourceId

theorem effect_origin (he : e ∈ effects periodCall PeriodCall.report start history) :
    Origin start history e := by
  refine effects_forall (I := fun s : PeriodStore => s.tenantId = start.tenantId ∧
    s.businessId = start.businessId) ?_ ⟨rfl, rfl⟩ e he
  intro s c hc t r hs h
  obtain ⟨p, hp, hnames, hdone⟩ := periodCall_cases h
  rcases hdone with ⟨rfl, hr⟩ | ⟨hperform, hr⟩
  · refine ⟨hs, fun w hw => ?_⟩
    rw [hr] at hw
    cases hw
  · obtain ⟨_, _, htenant, hbusiness⟩ := perform_eq_ok hperform
    refine ⟨⟨htenant.trans hs.1, hbusiness.trans hs.2⟩, fun w hw => ?_⟩
    rw [hr] at hw
    cases hw
    exact ⟨⟨c, hc, hp⟩, ⟨hnames.1.trans hs.2, hs.1.symm.trans hnames.2⟩, rfl⟩

theorem afterAll_names (start : PeriodStore) (history : List PeriodCall) :
    (afterAll periodCall start history).tenantId = start.tenantId ∧
      (afterAll periodCall start history).businessId = start.businessId := by
  refine afterAll_invariant (I := fun s : PeriodStore => s.tenantId = start.tenantId ∧
    s.businessId = start.businessId) ?_ ⟨rfl, rfl⟩
  intro s c _ t r hs h
  obtain ⟨htenant, hbusiness⟩ := periodCall_names h
  exact ⟨htenant.trans hs.1, hbusiness.trans hs.2⟩

/-- **A recorded operation id decides the call.** -/
theorem runPrepared_recorded {o : PeriodOperation} (ho : o ∈ now.operations.rows)
    (hid : p.operationId = o.id) (hnames : p.Names now) :
    runPrepared now p = if o.payloadFingerprint = accountingPeriodFingerprint p.facts then
      .ok (now, ⟨o.periodId, false⟩) else .error (.accounting .idempotencyConflict) := by
  have hfind : now.operations.find? p.operationId = some o :=
    (find?_key now.operations.pk).mpr ⟨ho, hid.symm⟩
  unfold runPrepared registered
  rw [requireBusiness_eq_ok.mpr hnames, ok_bind, hfind]
  by_cases hfp : o.payloadFingerprint = accountingPeriodFingerprint p.facts
  · simp only [hfp, if_true]
    rfl
  · simp only [hfp, if_false]
    rfl

/-- **Period operations replay safely**, after any history. -/
theorem period_operations_replay_safely (hstart : start.operations = .empty) (hminted : ∀ c ∈ history, c.Minted) :
    ReplaysSafely start history (effects periodCall PeriodCall.report start history)
      (afterAll periodCall start history) := by
  have hrows := registry_logged.log_afterAll start history
  rw [show start.operations.rows = [] by rw [hstart]; rfl, List.append_nil] at hrows
  have hmem : ∀ e ∈ effects periodCall PeriodCall.report start history,
      e.command.operation ∈ (afterAll periodCall start history).operations.rows := by
    intro e he
    rw [hrows]
    exact List.mem_reverse.mpr (List.mem_map_of_mem he)
  obtain ⟨htenant, hbusiness⟩ := afterAll_names start history
  constructor
  case registry => exact hrows
  case once =>
    have hpk := (afterAll periodCall start history).operations.pk
    rw [hrows, List.map_reverse, List.nodup_reverse, List.map_map] at hpk
    exact hpk
  case periods => exact periods_driven.part_afterAll start history
  case replay =>
    intro e he c p hp hfacts
    have horigin := effect_origin he
    have hnames : p.Names (afterAll periodCall start history) := by
      have h1 := congrArg PeriodFacts.tenantId hfacts
      have h2 := congrArg PeriodFacts.businessId hfacts
      unfold PreparedCommand.Names
      rw [htenant, hbusiness]
      exact ⟨h2.trans horigin.names.1, horigin.names.2.trans h1.symm⟩
    have hid : p.operationId = e.command.operationId := congrArg PeriodFacts.operationId hfacts
    rw [periodCall_eq, hp, ok_bind, runPrepared_recorded (hmem e he) hid hnames, hfacts,
      horigin.periodId]
    exact if_pos rfl
  case conflict =>
    intro e he c p hp hc hnames hfree hid hfacts
    obtain ⟨d, hd, hprep⟩ := (effect_origin he).call
    have hne : e.command.operation.payloadFingerprint ≠ accountingPeriodFingerprint p.facts := by
      intro hfp
      refine hfacts (fingerprint_injective (hc p hp) (hminted d hd _ hprep) (hfree.mono ?_) hfp.symm)
      have hmc : c.messages = p.facts.messages := by rw [PeriodCall.messages, hp]
      have hmd : d.messages = e.command.facts.messages := by rw [PeriodCall.messages, hprep]
      rw [← hmc, ← hmd, List.flatMap_cons]
      intro m hm
      rcases List.mem_append.mp hm with hm | hm
      · exact List.mem_append_left _ hm
      · exact List.mem_append_right _ (List.mem_flatMap_of_mem hd hm)
    have hcall : periodCall (afterAll periodCall start history) c =
        .error (.accounting .idempotencyConflict) := by
      rw [periodCall_eq, hp, ok_bind, runPrepared_recorded (hmem e he) hid hnames]
      exact if_neg hne
    exact ⟨hcall, after_of_error hcall⟩

end Replays

/-- The sample period is closed, with the assertion its facts were signed for. -/
def sampleCloseCall : PeriodCall :=
  let operationId := Uuid.sample 6
  .close ((sampleFacts operationId .close).signed (.sample 5)) operationId

theorem sampleCloseCall_minted : sampleCloseCall.Minted := by
  intro p hp
  simp only [sampleCloseCall, PeriodCall.prepare, prepareClose, requireFingerprint, bind_eq_ok,
    pure_eq_ok] at hp
  obtain ⟨_, _, _, _, rfl⟩ := hp
  trivial

theorem period_operations_replay_safely_sample :
    (effects periodCall PeriodCall.report sampleStore [sampleCloseCall]).length = 1 ∧
      ReplaysSafely sampleStore [sampleCloseCall]
        (effects periodCall PeriodCall.report sampleStore [sampleCloseCall])
        (afterAll periodCall sampleStore [sampleCloseCall]) :=
  ⟨by decide +kernel, period_operations_replay_safely rfl fun c hc => by
    rw [List.mem_singleton.mp hc]
    exact sampleCloseCall_minted⟩

end Daftar.Accounting
