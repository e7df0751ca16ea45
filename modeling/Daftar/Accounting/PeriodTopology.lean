/-
  File: Daftar/Accounting/PeriodTopology.lean
  Subject: The period commands keep the periods in order.

  * A created period stands at one end of the chain; `minStart?_eq` and `maxEnd?_eq` say which.
  * A close turns the first open period, a reopen the last closed one.
  * `changePeriods_inOrder` puts the three together, and `perform_inOrder` carries it to the store:
    the topology trigger accepts what a command leaves.
-/

import Daftar.Accounting.PeriodCommands

namespace Daftar.Accounting

open Fallible
open IntervalChains

/-! ## 1. The ends of the chain -/

section Ends

variable {t : PeriodTable} {p q : AccountingPeriod} {rest : List AccountingPeriod}

theorem PeriodTable.eq_of_id (hp : p ∈ t.rows) (hq : q ∈ t.rows) (h : p.id = q.id) : p = q :=
  List.inj_on_of_nodup_map t.pk hp hq h

theorem PeriodTable.find?_eq_some {id : Uuid} (h : t.find? id = some p) : p ∈ t.rows ∧ p.id = id :=
  ⟨List.mem_of_find?_eq_some h, by simpa using List.find?_some h⟩

theorem PeriodTable.lo_lt (h : t.InOrder) :
    t.byDate.Pairwise fun p q => p.startDate < q.startDate :=
  h.contiguous.lo_lt fun r _ => r.range

/-- The first period has the least beginning. -/
theorem PeriodTable.minStart?_eq (h : t.byDate = p :: rest) : t.minStart? = some p.startDate := by
  have hsorted : (p :: rest).Pairwise fun p q => p.startDate ≤ q.startDate :=
    h ▸ pairwise_inOrder t.rows
  have hmem : ∀ q, q ∈ t.rows ↔ q ∈ p :: rest := fun q => by
    rw [← h]
    exact PeriodTable.mem_byDate.symm
  refine List.min?_eq_some_iff.mpr ⟨?_, ?_⟩
  · exact List.mem_map_of_mem ((hmem p).mpr List.mem_cons_self)
  · intro d hd
    obtain ⟨q, hq, rfl⟩ := List.mem_map.mp hd
    rcases List.mem_cons.mp ((hmem q).mp hq) with rfl | hin
    · exact Int.le_refl _
    · exact List.rel_of_pairwise_cons hsorted hin

/-- The last period has the greatest end. -/
theorem PeriodTable.maxEnd?_eq (ho : t.InOrder) (h : t.byDate = rest ++ [p]) :
    t.maxEnd? = some p.endDate := by
  have hsep : (rest ++ [p]).Pairwise fun p q => p.endDate < q.startDate :=
    h ▸ ho.contiguous.separated fun r _ => r.range
  have hmem : ∀ q, q ∈ t.rows ↔ q ∈ rest ++ [p] := fun q => by
    rw [← h]
    exact PeriodTable.mem_byDate.symm
  refine List.max?_eq_some_iff.mpr ⟨?_, ?_⟩
  · exact List.mem_map_of_mem ((hmem p).mpr (List.mem_append_right _ List.mem_cons_self))
  · intro d hd
    obtain ⟨q, hq, rfl⟩ := List.mem_map.mp hd
    rcases List.mem_append.mp ((hmem q).mp hq) with hin | hin
    · have hlt := (List.pairwise_append.mp hsep).2.2 q hin p List.mem_cons_self
      have hle := p.range
      omega
    · rw [List.mem_singleton.mp hin]

theorem PeriodTable.insert_eq_ok {u : PeriodTable} (h : t.insert p = .ok u) :
    u.rows = p :: t.rows := by
  unfold PeriodTable.insert at h
  split at h
  · cases h
  · split at h
    · cases h
      rfl
    · cases h

end Ends

/-! ## 2. The three commands -/

section Commands

variable {t u : PeriodTable} {actor : ControlActor}

/-- A new open period before or after the chain. -/
theorem inOrder_of_insert {p : AccountingPeriod} (h : t.InOrder) (hu : u.rows = p :: t.rows)
    (hp : p.isOpen = true)
    (hend : (∀ q ∈ t.byDate.getLast?, p.startDate = q.endDate + 1) ∨
      ((∀ q ∈ t.byDate.head?, q.startDate = p.endDate + 1) ∧ ∀ q ∈ t.rows, q.isOpen = true)) :
    u.InOrder := by
  obtain ⟨closed, live, hd, h1, h2⟩ := h.closedFirst
  have hperm : (closed ++ live).Perm t.rows := hd ▸ perm_inOrder t.rows
  have hchain := h.contiguous
  rcases hend with hlast | ⟨hfirst, hopen⟩
  · have hall := hchain.append_singleton hlast
    rw [hd, List.append_assoc] at hall
    refine .of_chain closed (live ++ [p]) ?_ hall h1 ?_
    · rw [hu, ← List.append_assoc]
      exact (List.perm_append_singleton p _).trans (hperm.cons p)
    · intro q hq
      rcases List.mem_append.mp hq with hq | hq
      · exact h2 q hq
      · rw [List.mem_singleton.mp hq]
        exact hp
  · have hall := hchain.cons hfirst
    have hlive : ∀ q ∈ p :: t.byDate, q.isOpen = true := by
      intro q hq
      rcases List.mem_cons.mp hq with rfl | hq
      · exact hp
      · exact hopen q (PeriodTable.mem_byDate.mp hq)
    refine .of_chain [] (p :: t.byDate) ?_ hall (fun _ hq => absurd hq List.not_mem_nil) hlive
    rw [hu]
    exact (perm_inOrder t.rows).cons p

theorem createPeriod_inOrder {range : PeriodRange} (h : t.InOrder)
    (hc : createPeriod t actor range = .ok u) : u.InOrder := by
  simp only [createPeriod, bind_eq_ok, refuseIf_eq_ok, exists_const] at hc
  obtain ⟨_, _, hends, hins⟩ := hc
  have hu := PeriodTable.insert_eq_ok hins
  refine inOrder_of_insert h hu rfl ?_
  cases hd : t.byDate with
  | nil =>
      refine .inl ?_
      intro q hq
      cases hq
  | cons first rest =>
      -- The last period of the chain, and with it the two ends the routine reads.
      obtain ⟨init, last, hl⟩ : ∃ init last, first :: rest = init ++ [last] :=
        ⟨_, _, (List.dropLast_append_getLast (List.cons_ne_nil first rest)).symm⟩
      unfold requireAdjacent at hends
      rw [PeriodTable.minStart?_eq hd, PeriodTable.maxEnd?_eq h (hd.trans hl)] at hends
      simp only [bind_eq_ok, refuseIf_eq_ok, exists_const] at hends
      obtain ⟨hjoin, hprepend⟩ := hends
      by_cases hbefore : range.endDate = first.startDate - 1
      · refine .inr ⟨?_, ?_⟩
        · intro q hq
          rw [List.head?_cons, Option.mem_some_iff] at hq
          rw [← hq]
          show first.startDate = range.endDate + 1
          omega
        · intro q hq
          by_contra hclosed
          exact hprepend ⟨hbefore, q, hq, by simpa using hclosed⟩
      · refine .inl ?_
        intro q hq
        rw [hl, List.getLast?_concat, Option.mem_some_iff] at hq
        rw [← hq]
        exact not_not.mp fun hn => hjoin ⟨hbefore, hn⟩

/-- **One period changes between the closed ones and the open ones.** -/
theorem inOrder_of_setStatus (h : t.InOrder) {before after : List AccountingPeriod}
    {period : AccountingPeriod} (hd : t.byDate = before ++ period :: after)
    (hbefore : ∀ q ∈ before, q.isOpen = false) (hafter : ∀ q ∈ after, q.isOpen = true)
    (status : PeriodStatus) (reopening : Option Reopening) :
    (t.setStatus period.id status reopening).InOrder := by
  have hlt := PeriodTable.lo_lt h
  rw [hd, List.pairwise_append] at hlt
  have hrows : ∀ q ∈ before ++ period :: after, q ∈ t.rows := fun q hq => by
    rw [← hd] at hq
    exact PeriodTable.mem_byDate.mp hq
  have hperiod := hrows period (List.mem_append_right _ List.mem_cons_self)
  -- No other row has the id.
  have hother : ∀ q ∈ before ++ period :: after, q.startDate ≠ period.startDate →
      PeriodTable.onRow period.id status reopening q = q := by
    intro q hq hne
    refine PeriodTable.onRow_of_ne status reopening ?_
    intro he
    rw [PeriodTable.eq_of_id (hrows q hq) hperiod he] at hne
    exact hne rfl
  have hb : before.map (PeriodTable.onRow period.id status reopening) = before := by
    conv_rhs => rw [← List.map_id before]
    apply List.map_congr_left
    intro q hq
    exact hother q (List.mem_append_left _ hq)
      (Int.ne_of_lt (hlt.2.2 q hq period List.mem_cons_self))
  have ha : after.map (PeriodTable.onRow period.id status reopening) = after := by
    conv_rhs => rw [← List.map_id after]
    apply List.map_congr_left
    intro q hq
    exact hother q (List.mem_append_right _ (List.mem_cons_of_mem _ hq))
      (Int.ne_of_gt (List.rel_of_pairwise_cons hlt.2.1 hq))
  have hchain := h.contiguous.map (PeriodTable.startDate_onRow period.id status reopening)
    (PeriodTable.endDate_onRow period.id status reopening)
  have hperm : (t.byDate.map (PeriodTable.onRow period.id status reopening)).Perm
      (t.setStatus period.id status reopening).rows := (perm_inOrder t.rows).map _
  rw [hd, List.map_append, List.map_cons, hb, ha] at hchain hperm
  generalize PeriodTable.onRow period.id status reopening period = changed at hchain hperm
  cases hchanged : changed.isOpen with
  | true =>
      refine .of_chain before (changed :: after) hperm hchain hbefore ?_
      intro q hq
      rcases List.mem_cons.mp hq with rfl | hq
      · exact hchanged
      · exact hafter q hq
  | false =>
      rw [List.append_cons] at hchain hperm
      refine .of_chain (before ++ [changed]) after hperm hchain ?_ hafter
      intro q hq
      rcases List.mem_append.mp hq with hq | hq
      · exact hbefore q hq
      · rw [List.mem_singleton.mp hq]
        exact hchanged

/-- The closed period is the first open one. -/
theorem closePeriod_inOrder (h : t.InOrder) (hc : closePeriod t actor = .ok u) : u.InOrder := by
  unfold closePeriod at hc
  cases hfind : t.find? actor.resourceId with
  | none =>
      rw [hfind] at hc
      cases hc
  | some period =>
      rw [hfind] at hc
      simp only [bind_eq_ok, refuseIf_eq_ok, exists_const, pure_eq_ok, Bool.not_eq_false] at hc
      obtain ⟨hopen, hfirst, rfl⟩ := hc
      obtain ⟨hmem, hid⟩ := PeriodTable.find?_eq_some hfind
      obtain ⟨closed, live, hd, h1, h2⟩ := h.closedFirst
      have hlt := PeriodTable.lo_lt h
      have hin := PeriodTable.mem_byDate.mpr hmem
      rw [hd] at hlt hin
      rcases List.mem_append.mp hin with hin | hin
      · rw [h1 period hin] at hopen
        cases hopen
      · cases live with
        | nil => cases hin
        | cons first rest =>
            have hfp : period = first := by
              rcases List.mem_cons.mp hin with he | hrest
              · exact he
              · have hless := List.rel_of_pairwise_cons (List.pairwise_append.mp hlt).2.1 hrest
                have hrow : first ∈ t.rows := PeriodTable.mem_byDate.mp <| by
                  rw [hd]
                  exact List.mem_append_right _ List.mem_cons_self
                exact absurd ⟨first, hrow, h2 first List.mem_cons_self, hless⟩ hfirst
            rw [← hid, hfp]
            exact inOrder_of_setStatus h hd h1 (fun q hq => h2 q (List.mem_cons_of_mem _ hq)) _ _

/-- The reopened period is the last closed one. -/
theorem reopenPeriod_inOrder {reason : PeriodReason} (h : t.InOrder)
    (hc : reopenPeriod t actor reason = .ok u) : u.InOrder := by
  unfold reopenPeriod at hc
  cases hfind : t.find? actor.resourceId with
  | none =>
      rw [hfind] at hc
      cases hc
  | some period =>
      rw [hfind] at hc
      simp only [bind_eq_ok, refuseIf_eq_ok, exists_const, pure_eq_ok, Bool.not_eq_true] at hc
      obtain ⟨hclosed, hlast, rfl⟩ := hc
      obtain ⟨hmem, hid⟩ := PeriodTable.find?_eq_some hfind
      obtain ⟨closed, live, hd, h1, h2⟩ := h.closedFirst
      have hlt := PeriodTable.lo_lt h
      have hin := PeriodTable.mem_byDate.mpr hmem
      rw [hd] at hlt hin
      rcases List.mem_append.mp hin with hin | hin
      · obtain ⟨init, last, rfl⟩ : ∃ init last, closed = init ++ [last] :=
          ⟨_, _, (List.dropLast_append_getLast (List.ne_nil_of_mem hin)).symm⟩
        have hfp : period = last := by
          rcases List.mem_append.mp hin with hinit | he
          · have hless := (List.pairwise_append.mp (List.pairwise_append.mp hlt).1).2.2
              period hinit last List.mem_cons_self
            have hlastin := List.mem_append_right init (List.mem_singleton_self last)
            have hrow : last ∈ t.rows := PeriodTable.mem_byDate.mp <| by
              rw [hd]
              exact List.mem_append_left _ hlastin
            exact absurd ⟨last, hrow, h1 last hlastin, hless⟩ hlast
          · exact List.mem_singleton.mp he
        rw [← List.append_cons] at hd
        rw [← hid, hfp]
        exact inOrder_of_setStatus h hd (fun q hq => h1 q (List.mem_append_left _ hq)) h2 _ _
      · rw [h2 period hin] at hclosed
        cases hclosed

/-- **Every command keeps the periods in order.** -/
theorem changePeriods_inOrder {p : PreparedCommand} (h : t.InOrder)
    (hc : changePeriods t p = .ok u) : u.InOrder := by
  unfold changePeriods at hc
  cases hchange : p.change with
  | create range =>
      rw [hchange] at hc
      exact createPeriod_inOrder h hc
  | close =>
      rw [hchange] at hc
      exact closePeriod_inOrder h hc
  | reopen reason =>
      rw [hchange] at hc
      exact reopenPeriod_inOrder h hc

/-- **A closed period stays as it is** unless it is the one a reopen names. -/
theorem changePeriods_closed {p : PreparedCommand} {period : AccountingPeriod}
    (hc : changePeriods t p = .ok u) (hmem : period ∈ t.rows) (hclosed : period.isOpen = false)
    (hne : ∀ reason, p.change = .reopen reason → p.actor.resourceId ≠ period.id) :
    period ∈ u.rows := by
  unfold changePeriods at hc
  cases hchange : p.change with
  | create range =>
      rw [hchange] at hc
      simp only [createPeriod, bind_eq_ok] at hc
      obtain ⟨_, _, _, _, hins⟩ := hc
      rw [PeriodTable.insert_eq_ok hins]
      exact List.mem_cons_of_mem _ hmem
  | close =>
      rw [hchange] at hc
      simp only [closePeriod] at hc
      cases hfind : t.find? p.actor.resourceId with
      | none =>
          rw [hfind] at hc
          cases hc
      | some other =>
          rw [hfind] at hc
          simp only [bind_eq_ok, refuseIf_eq_ok, exists_const, pure_eq_ok, Bool.not_eq_false] at hc
          obtain ⟨hopen, _, rfl⟩ := hc
          obtain ⟨hother, hid⟩ := PeriodTable.find?_eq_some hfind
          have hdiff : period.id ≠ p.actor.resourceId := by
            intro he
            rw [PeriodTable.eq_of_id hmem hother (he.trans hid.symm), hopen] at hclosed
            cases hclosed
          exact List.mem_map.mpr ⟨period, hmem, PeriodTable.onRow_of_ne _ _ hdiff⟩
  | reopen reason =>
      rw [hchange] at hc
      simp only [reopenPeriod] at hc
      cases hfind : t.find? p.actor.resourceId with
      | none =>
          rw [hfind] at hc
          cases hc
      | some other =>
          rw [hfind] at hc
          simp only [bind_eq_ok, refuseIf_eq_ok, exists_const, pure_eq_ok] at hc
          obtain ⟨_, _, rfl⟩ := hc
          have hdiff := (hne reason hchange).symm
          exact List.mem_map.mpr ⟨period, hmem, PeriodTable.onRow_of_ne _ _ hdiff⟩

/-- A close leaves its period closed. -/
theorem closePeriod_closed (hc : closePeriod t actor = .ok u) :
    ∃ period ∈ u.rows, period.id = actor.resourceId ∧ period.isOpen = false := by
  unfold closePeriod at hc
  cases hfind : t.find? actor.resourceId with
  | none =>
      rw [hfind] at hc
      cases hc
  | some period =>
      rw [hfind] at hc
      simp only [bind_eq_ok, refuseIf_eq_ok, exists_const, pure_eq_ok] at hc
      obtain ⟨_, _, rfl⟩ := hc
      obtain ⟨hmem, hid⟩ := PeriodTable.find?_eq_some hfind
      refine ⟨_, List.mem_map_of_mem hmem, ?_, ?_⟩
      · rw [PeriodTable.id_onRow]
        exact hid
      · unfold AccountingPeriod.isOpen
        rw [PeriodTable.status_onRow _ _ hid]
        rfl

theorem perform_eq_ok {store after : PeriodStore} {p : PreparedCommand}
    (hp : perform store p = .ok after) : changePeriods store.periods p = .ok after.periods ∧
      store.operations.insert p.operation = .ok after.operations ∧
      after.tenantId = store.tenantId ∧ after.businessId = store.businessId := by
  simp only [perform, bind_eq_ok, pure_eq_ok] at hp
  obtain ⟨periods, hperiods, operations, hops, rfl⟩ := hp
  exact ⟨hperiods, hops, rfl, rfl⟩

/-- The topology trigger accepts what a command leaves of periods in order. -/
theorem topologyCheck_perform {store after : PeriodStore} {p : PreparedCommand}
    (h : store.periods.InOrder) (hp : perform store p = .ok after) :
    topologyCheck after.periods = .ok () :=
  (changePeriods_inOrder h (perform_eq_ok hp).1).topologyCheck

end Commands

/-! ## 3. A store with one open period -/

/-- The facts of a command on the sample period. -/
def sampleFacts (operationId : Uuid) (change : PeriodChange) : PeriodFacts where
  tenantId := .sample 1
  businessId := .sample 2
  operationId := operationId
  periodId := .sample 3
  change := change

/-- January 2025. -/
def samplePeriod : AccountingPeriod where
  id := .sample 3
  startDate := 9132
  endDate := 9162
  status := .open_
  createdBy := .sample 5
  lastReopened := none
  range := by decide

def sampleStore : PeriodStore where
  tenantId := .sample 1
  businessId := .sample 2
  periods := ⟨[samplePeriod], List.nodup_singleton _, List.pairwise_singleton _ _⟩
  operations := .empty

theorem sampleStore_inOrder : sampleStore.periods.InOrder :=
  .of_chain [] [samplePeriod] (List.Perm.refl _) (List.isChain_singleton _)
    (fun _ h => absurd h List.not_mem_nil) fun p hp => by
      rw [List.mem_singleton.mp hp]
      rfl

end Daftar.Accounting
