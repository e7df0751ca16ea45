/-
  File: Daftar/Accounting/Reconciliation.lean
  Subject: A reconciliation pass over every business and every check, with an untrusted reader.

  * A `CheckOutcome` is what one call of the reader does: return a finding of any shape, or throw.
    The reader is asked by the number of the call, so it may answer the same question differently.
  * `checkResult` is the guarded part of a turn of `reconcile`, `assertSafeCheckResult` the contract
    of its result, which is checked outside of the guard.
  * `Shows` is what a result owes its pair, `HidesNothing` what a pass owes its caller.
  * `reconcile_hidesNothing_iff`: a pass hides nothing exactly when no call returns a malformed
    finding. `reconcile_aborts`: one that cannot be carried discards the results of all others.
-/

import Daftar.Accounting.Fingerprint

namespace Daftar.Accounting.Reconciliation

open AsciiText
open Fallible
open IsoInstant

/-! ## 1. Values of the reader -/

inductive AnyReconciliationCheckId
  | rAcc01 | rAcc02 | rAcc03 | rAcc04 | rAcc05 | rAcc06 | rAcc07 | rAcc08 | rAcc09
  | rInv01 | rInv02 | rInv03 | rInv04 | rInv05
  deriving DecidableEq, Repr

open AnyReconciliationCheckId in
def RECONCILIATION_CHECK_IDS : List AnyReconciliationCheckId :=
  [rAcc01, rAcc02, rAcc03, rAcc04, rAcc05, rAcc06, rAcc07, rAcc08, rAcc09]

/-- A number of JavaScript. -/
inductive JsNumber
  | finite (q : ℚ)
  | infinite (negative : Bool)
  | nan
  deriving DecidableEq, Repr

namespace JsNumber

/-- `Number.isInteger(n)` -/
def isInteger : JsNumber → Bool
  | finite q => q.den = 1
  | _ => false

/-- `n > 0` -/
def isPositive : JsNumber → Bool
  | finite q => 0 < q
  | infinite negative => !negative
  | nan => false

/-- `n < 0` -/
def isNegative : JsNumber → Bool
  | finite q => q < 0
  | infinite negative => negative
  | nan => false

/-- `n === 0` -/
def isZero : JsNumber → Bool
  | finite q => q = 0
  | _ => false

end JsNumber

structure ReconciliationFinding where
  offendingCount : JsNumber
  offendingIds : List String
  deriving DecidableEq, Repr

structure ReconciliationTarget where
  tenantId : String
  businessId : String
  deriving DecidableEq, Repr

/-- What a call of `check` does. A value that is no finding fails where it is read. -/
inductive CheckOutcome
  | found (finding : ReconciliationFinding)
  | unavailable (missingTables : List String)
  | accounting (code : String)
  | failed
  deriving DecidableEq, Repr

/-- What the call of `targets` does. -/
inductive TargetsOutcome
  | listed (targets : List ReconciliationTarget)
  | unavailable (missingAuthority : String)
  | failed
  deriving DecidableEq, Repr

structure AccountingReconciliationReader where
  targets : TargetsOutcome
  /-- The call of this number. -/
  check : ℕ → ReconciliationTarget → AnyReconciliationCheckId → CheckOutcome

/-- The instants the clock gives, by the number of the call. -/
structure ReconciliationClock where
  now : ℕ → TimeValue

/-! ## 2. The result contract -/

inductive ReconciliationStatus
  | ok
  | discrepancy
  | error
  | unavailable
  deriving DecidableEq, Repr

def NO_CORRECTION_NOTICE : String := "NO AUTOMATIC CORRECTION PERFORMED"

def MAX_OFFENDING_IDS : ℕ := 20

structure ReconciliationCheckResult where
  businessId : String
  checkId : AnyReconciliationCheckId
  status : ReconciliationStatus
  offendingCount : JsNumber
  offendingIds : List String
  durationMs : ℤ
  startedAt : String
  completedAt : String
  errorCode : Option String
  correction : String
  deriving DecidableEq, Repr

def isHexAnyCase (c : Char) : Bool :=
  ('0' ≤ c && c ≤ '9') || ('a' ≤ c && c ≤ 'f') || ('A' ≤ c && c ≤ 'F')

/-- `/^[0-9a-f]{8}-[0-9a-f]{4}-[0-9a-f]{4}-[0-9a-f]{4}-[0-9a-f]{12}$/i` -/
def UUID (s : String) : Bool :=
  matchesEach (List.replicate 8 isHexAnyCase ++ (· == '-') :: List.replicate 4 isHexAnyCase ++
    (· == '-') :: List.replicate 4 isHexAnyCase ++ (· == '-') :: List.replicate 4 isHexAnyCase ++
    (· == '-') :: List.replicate 12 isHexAnyCase) s.toList

/-- The refusals over a result, whose keys are the allowed ones. -/
def assertSafeCheckResult (result : ReconciliationCheckResult) : Except AccountingError Unit := do
  refuseIf (result.correction ≠ NO_CORRECTION_NOTICE)
    (payloadInvalid "reconciliation result must always carry the no-correction notice")
  refuseIf (UUID result.businessId = false)
    (payloadInvalid "reconciliation result business id is not an identifier")
  refuseIf (result.offendingCount.isInteger = false ∨ result.offendingCount.isNegative = true)
    (payloadInvalid "reconciliation offending count is not a whole non-negative number")
  refuseIf (MAX_OFFENDING_IDS < result.offendingIds.length)
    (payloadInvalid "reconciliation result carries more offending ids than the contract allows")
  refuseIf (∃ id ∈ result.offendingIds, UUID id = false)
    (payloadInvalid "reconciliation offending id is not an identifier")
  refuseIf (result.status = .ok ∧ result.offendingCount.isZero = false)
    (payloadInvalid "an OK reconciliation result cannot carry offending objects")
  refuseIf (result.status = .discrepancy ∧ result.offendingCount.isZero = true)
    (payloadInvalid "a discrepancy reconciliation result must carry at least one offending object")
  refuseIf (result.status = .unavailable ∧ result.errorCode = none)
    (payloadInvalid "an unavailable reconciliation check must say which authority it lacked")
  refuseIf (result.status = .unavailable ∧ result.offendingCount.isZero = false)
    (payloadInvalid "a check that never ran cannot have found anything")
  refuseIf (result.status ≠ .error ∧ result.status ≠ .unavailable ∧ result.errorCode ≠ none)
    (payloadInvalid "only a failed or unavailable reconciliation check may carry an error code")

/-! ## 3. The pass -/

def toISOString (t : TimeValue) : String := String.ofList (isoChars t.ms)

def durationMs (started completed : TimeValue) : ℤ := max 0 (completed.ms - started.ms)

/-- What the guarded part of a turn leaves in its variables. -/
structure TurnState where
  status : ReconciliationStatus
  offendingCount : JsNumber
  offendingIds : List String
  errorCode : Option String

def turnState : CheckOutcome → TurnState
  | .found finding =>
    ⟨if finding.offendingCount.isPositive then .discrepancy else .ok, finding.offendingCount,
      finding.offendingIds.take MAX_OFFENDING_IDS, none⟩
  | .unavailable missingTables =>
    ⟨.unavailable, .finite 0, [],
      some ("accounting.reconciliation_unavailable:" ++ String.intercalate "+" missingTables)⟩
  | .accounting code => ⟨.error, .finite 0, [], some code⟩
  | .failed => ⟨.error, .finite 0, [], some "accounting.reconciliation_check_failed"⟩

def checkResult (started completed : TimeValue) (target : ReconciliationTarget)
    (checkId : AnyReconciliationCheckId) (outcome : CheckOutcome) : ReconciliationCheckResult :=
  let turn := turnState outcome
  { businessId := target.businessId
    checkId := checkId
    status := turn.status
    offendingCount := turn.offendingCount
    offendingIds := turn.offendingIds
    durationMs := durationMs started completed
    startedAt := toISOString started
    completedAt := toISOString completed
    errorCode := turn.errorCode
    correction := NO_CORRECTION_NOTICE }

structure ReconciliationRunResult where
  startedAt : String
  completedAt : String
  durationMs : ℤ
  businessCount : ℕ
  checkCount : ℕ
  discrepancyCount : ℕ
  errorCount : ℕ
  unavailableCount : ℕ
  results : List ReconciliationCheckResult
  /-- The authority that was missing, where the businesses could not be listed. -/
  enumerationReason : Option String
  correction : String
  deriving DecidableEq, Repr

/-- What `reconcile` throws. -/
inductive ReconcileError
  | accounting (error : AccountingError)
  | targets
  deriving DecidableEq, Repr

/-- A pair of a business and a check, and the number of its call. -/
abbrev NumberedPair := (ReconciliationTarget × AnyReconciliationCheckId) × ℕ

/-- The two loops: every check of the first business, then those of the next one. -/
def numberedPairs (targets : List ReconciliationTarget)
    (checkIds : List AnyReconciliationCheckId) : List NumberedPair :=
  (targets.flatMap fun target => checkIds.map fun checkId => (target, checkId)).zipIdx

def AccountingReconciliationReader.outcome (reader : AccountingReconciliationReader)
    (p : NumberedPair) : CheckOutcome := reader.check p.2 p.1.1 p.1.2

/-- The result of a turn. The clock is read before the loops and twice in each turn. -/
def resultOf (reader : AccountingReconciliationReader) (clock : ReconciliationClock)
    (p : NumberedPair) : ReconciliationCheckResult :=
  checkResult (clock.now (2 * p.2 + 1)) (clock.now (2 * p.2 + 2)) p.1.1 p.1.2 (reader.outcome p)

/-- A turn: the result is asserted outside of the guard. -/
def turn (reader : AccountingReconciliationReader) (clock : ReconciliationClock)
    (p : NumberedPair) : Except AccountingError ReconciliationCheckResult := do
  assertSafeCheckResult (resultOf reader clock p)
  pure (resultOf reader clock p)

def listTargets : TargetsOutcome →
    Except ReconcileError (List ReconciliationTarget × Option String)
  | .listed targets => .ok (targets, none)
  | .unavailable missingAuthority => .ok ([], some missingAuthority)
  | .failed => .error .targets

def countStatus (results : List ReconciliationCheckResult) (status : ReconciliationStatus) : ℕ :=
  results.countP fun r => r.status = status

def reconcile (reader : AccountingReconciliationReader) (clock : ReconciliationClock)
    (checks : Option (List AnyReconciliationCheckId)) :
    Except ReconcileError ReconciliationRunResult := do
  let checkIds := checks.getD RECONCILIATION_CHECK_IDS
  let (targets, enumerationReason) ← listTargets reader.targets
  let pairs := numberedPairs targets checkIds
  let results ← (pairs.mapM (turn reader clock)).mapError .accounting
  let runStarted := clock.now 0
  let runCompleted := clock.now (2 * pairs.length + 1)
  pure
    { startedAt := toISOString runStarted
      completedAt := toISOString runCompleted
      durationMs := durationMs runStarted runCompleted
      businessCount := targets.length
      checkCount := checkIds.length
      discrepancyCount := countStatus results .discrepancy
      errorCount := countStatus results .error
      unavailableCount := countStatus results .unavailable
      results := results
      enumerationReason := enumerationReason
      correction := NO_CORRECTION_NOTICE }

/-! ## 4. What a pass owes -/

/-- A whole, non-negative count, and identifiers alone. -/
structure ReconciliationFinding.WellFormed (f : ReconciliationFinding) : Prop where
  integer : f.offendingCount.isInteger = true
  nonneg : f.offendingCount.isNegative = false
  ids : ∀ id ∈ f.offendingIds, UUID id = true

/-- **What a result owes its pair**, whatever the other pairs did. -/
structure Shows (outcome : CheckOutcome)
    (pair : ReconciliationTarget × AnyReconciliationCheckId) (r : ReconciliationCheckResult) :
    Prop where
  businessId : r.businessId = pair.1.businessId
  checkId : r.checkId = pair.2
  safe : assertSafeCheckResult r = .ok ()
  found : ∀ f, outcome = .found f → f.WellFormed → r.offendingCount = f.offendingCount ∧
    r.offendingIds = f.offendingIds.take MAX_OFFENDING_IDS ∧
    r.status = if f.offendingCount.isZero then .ok else .discrepancy
  failed : (∀ f, outcome = .found f → ¬ f.WellFormed) →
    (r.status = .error ∨ r.status = .unavailable) ∧ r.offendingCount = .finite 0

/-- **What a pass owes its caller**: one result for each pair, in order, and a clean count only where
    every pair came back clean. -/
def HidesNothing (reader : AccountingReconciliationReader) (clock : ReconciliationClock)
    (checks : Option (List AnyReconciliationCheckId)) (pairs : List NumberedPair) : Prop :=
  ∃ run, reconcile reader clock checks = .ok run ∧
    List.Forall₂ (fun p r => Shows (reader.outcome p) p.1 r) pairs run.results ∧
    (run.discrepancyCount = 0 ∧ run.errorCount = 0 ∧ run.unavailableCount = 0 →
      ∀ p ∈ pairs, ∃ f, reader.outcome p = .found f ∧ f.WellFormed ∧
        f.offendingCount.isZero = true)

/-! ## 5. One turn -/

theorem assertSafeCheckResult_eq_ok {r : ReconciliationCheckResult} :
    assertSafeCheckResult r = .ok () ↔ r.correction = NO_CORRECTION_NOTICE ∧
      UUID r.businessId = true ∧
      (r.offendingCount.isInteger = true ∧ r.offendingCount.isNegative = false) ∧
      r.offendingIds.length ≤ MAX_OFFENDING_IDS ∧ (∀ id ∈ r.offendingIds, UUID id = true) ∧
      (r.status = .ok → r.offendingCount.isZero = true) ∧
      (r.status = .discrepancy → r.offendingCount.isZero = false) ∧
      (r.status = .unavailable → r.errorCode ≠ none) ∧
      (r.status = .unavailable → r.offendingCount.isZero = true) ∧
      (r.status ≠ .error → r.status ≠ .unavailable → r.errorCode = none) := by
  simp only [assertSafeCheckResult, bind_eq_ok, refuseIf_eq_ok, exists_const, not_or, not_and,
    not_exists, not_not, not_lt, Bool.not_eq_false, Bool.not_eq_true, ne_eq]

/-- A whole, non-negative count is zero or positive. -/
theorem isPositive_eq {n : JsNumber} (hint : n.isInteger = true) (hneg : n.isNegative = false) :
    n.isPositive = !n.isZero := by
  cases n with
  | finite q =>
    have hq : 0 ≤ q := by simpa [JsNumber.isNegative] using hneg
    rcases hq.eq_or_lt with rfl | hpos
    · rfl
    · simp [JsNumber.isPositive, JsNumber.isZero, hpos, hpos.ne']
  | infinite negative => cases hint
  | nan => cases hint

section Turn

variable {reader : AccountingReconciliationReader} {p : NumberedPair}

theorem resultOf_found (clock : ReconciliationClock) {f : ReconciliationFinding} (h : reader.outcome p = .found f) :
    (resultOf reader clock p).status =
        (if f.offendingCount.isPositive then .discrepancy else .ok) ∧
      (resultOf reader clock p).offendingCount = f.offendingCount ∧
      (resultOf reader clock p).offendingIds = f.offendingIds.take MAX_OFFENDING_IDS ∧
      (resultOf reader clock p).errorCode = none := by
  simp only [resultOf, checkResult, h, turnState, and_self]

theorem resultOf_threw (clock : ReconciliationClock) (h : ∀ f, reader.outcome p ≠ .found f) :
    ((resultOf reader clock p).status = .error ∨ (resultOf reader clock p).status = .unavailable) ∧
      (resultOf reader clock p).offendingCount = .finite 0 ∧
      (resultOf reader clock p).offendingIds = [] ∧
      (resultOf reader clock p).errorCode ≠ none := by
  cases hout : reader.outcome p with
  | found f => exact absurd hout (h f)
  | unavailable missing => simp [resultOf, checkResult, hout, turnState]
  | accounting code => simp [resultOf, checkResult, hout, turnState]
  | failed => simp [resultOf, checkResult, hout, turnState]

/-- **A turn whose finding is well formed, or whose reader threw, shows what it owes.** -/
theorem resultOf_shows (clock : ReconciliationClock) (hid : UUID p.1.1.businessId = true)
    (hwell : ∀ f, reader.outcome p = .found f → f.WellFormed) :
    Shows (reader.outcome p) p.1 (resultOf reader clock p) := by
  by_cases hfound : ∃ f, reader.outcome p = .found f
  · obtain ⟨f, hf⟩ := hfound
    have hw := hwell f hf
    obtain ⟨hstatus, hcount, hids, hcode⟩ := resultOf_found clock hf
    rw [isPositive_eq hw.integer hw.nonneg] at hstatus
    refine ⟨rfl, rfl, assertSafeCheckResult_eq_ok.mpr ?_, fun g hg _ => ?_, fun hnone => ?_⟩
    · rw [hstatus, hcount, hids, hcode]
      refine ⟨rfl, hid, ⟨hw.integer, hw.nonneg⟩, List.length_take_le _ _,
        fun id hmem => hw.ids id (List.mem_of_mem_take hmem), ?_⟩
      cases f.offendingCount.isZero <;> simp
    · obtain rfl := CheckOutcome.found.inj (hf.symm.trans hg)
      refine ⟨hcount, hids, hstatus.trans ?_⟩
      cases f.offendingCount.isZero <;> rfl
    · exact absurd hw (hnone f hf)
  · have hthrew : ∀ f, reader.outcome p ≠ .found f := fun f hf => hfound ⟨f, hf⟩
    obtain ⟨hstatus, hcount, hids, hcode⟩ := resultOf_threw clock hthrew
    refine ⟨rfl, rfl, assertSafeCheckResult_eq_ok.mpr ?_, fun f hf => absurd hf (hthrew f),
      fun _ => ⟨hstatus, hcount⟩⟩
    rw [hcount, hids]
    refine ⟨rfl, hid, ⟨rfl, rfl⟩, Nat.zero_le _, fun _ hmem => absurd hmem List.not_mem_nil, ?_⟩
    rcases hstatus with hstatus | hstatus <;> simp [hstatus, hcode, JsNumber.isZero]

theorem turn_eq_ok {clock : ReconciliationClock} {r : ReconciliationCheckResult} : turn reader clock p = .ok r ↔
    assertSafeCheckResult (resultOf reader clock p) = .ok () ∧ resultOf reader clock p = r := by
  simp only [turn, bind_eq_ok, pure_eq_ok]
  constructor
  · intro h
    obtain ⟨_, h⟩ := h
    exact h
  · intro h
    exact ⟨_, h⟩

end Turn

/-! ## 6. The pass -/

section Pass

variable {reader : AccountingReconciliationReader} {clock : ReconciliationClock}
  {checks : Option (List AnyReconciliationCheckId)} {targets : List ReconciliationTarget}

/-- What an accepted pass is made of. -/
theorem reconcile_eq_ok {run : ReconciliationRunResult} (h : reader.targets = .listed targets)
    (hrun : reconcile reader clock checks = .ok run) :
    (numberedPairs targets (checks.getD RECONCILIATION_CHECK_IDS)).mapM (turn reader clock) =
        .ok run.results ∧
      run.discrepancyCount = countStatus run.results .discrepancy ∧
      run.errorCount = countStatus run.results .error ∧
      run.unavailableCount = countStatus run.results .unavailable := by
  simp only [reconcile, h, listTargets, ok_bind, bind_eq_ok, mapError_eq_ok, pure_eq_ok] at hrun
  obtain ⟨results, hresults, rfl⟩ := hrun
  exact ⟨hresults, rfl, rfl, rfl⟩

theorem reconcile_of_turns {results : List ReconciliationCheckResult}
    (h : reader.targets = .listed targets)
    (hresults : (numberedPairs targets (checks.getD RECONCILIATION_CHECK_IDS)).mapM
      (turn reader clock) = .ok results) :
    ∃ run, reconcile reader clock checks = .ok run ∧ run.results = results := by
  simp only [reconcile, h, listTargets, ok_bind, bind_eq_ok, mapError_eq_ok, pure_eq_ok]
  exact ⟨_, ⟨results, hresults, rfl⟩, rfl⟩

theorem turns_eq_map {pairs : List NumberedPair} {results : List ReconciliationCheckResult}
    (h : pairs.mapM (turn reader clock) = .ok results) :
    results = pairs.map (resultOf reader clock) :=
  mapM_eq_map h fun _ _ hturn => (turn_eq_ok.mp hturn).2.symm

theorem countStatus_eq_zero {results : List ReconciliationCheckResult}
    {status : ReconciliationStatus} :
    countStatus results status = 0 ↔ ∀ r ∈ results, r.status ≠ status := by
  simp only [countStatus, List.countP_eq_zero, decide_eq_true_eq, ne_eq]

theorem businessId_of_mem {checkIds : List AnyReconciliationCheckId}
    (hids : ∀ t ∈ targets, UUID t.businessId = true) {p : NumberedPair}
    (hp : p ∈ numberedPairs targets checkIds) : UUID p.1.1.businessId = true := by
  have hpair : p.1 ∈ targets.flatMap fun target => checkIds.map fun checkId => (target, checkId) :=
    List.fst_mem_of_mem_zipIdx hp
  obtain ⟨t, ht, hmem⟩ := List.mem_flatMap.mp hpair
  obtain ⟨c, _, heq⟩ := List.mem_map.mp hmem
  exact heq ▸ hids t ht

/-- The pairs of a pass that found nothing came back clean. -/
theorem clean_of_counts {pairs : List NumberedPair}
    (hshows : ∀ p ∈ pairs, Shows (reader.outcome p) p.1 (resultOf reader clock p))
    (hwell : ∀ p ∈ pairs, ∀ f, reader.outcome p = .found f → f.WellFormed)
    (hcounts : ∀ status, status ≠ .ok → countStatus (pairs.map (resultOf reader clock)) status = 0) :
    ∀ p ∈ pairs, ∃ f, reader.outcome p = .found f ∧ f.WellFormed ∧
      f.offendingCount.isZero = true := by
  intro p hp
  have hstatus : ∀ status, status ≠ .ok → (resultOf reader clock p).status ≠ status :=
    fun status hne => countStatus_eq_zero.mp (hcounts status hne) _ (List.mem_map_of_mem hp)
  by_cases hfound : ∃ f, reader.outcome p = .found f
  · obtain ⟨f, hf⟩ := hfound
    have hshown := ((hshows p hp).found f hf (hwell p hp f hf)).2.2
    refine ⟨f, hf, hwell p hp f hf, ?_⟩
    by_contra hzero
    rw [if_neg hzero] at hshown
    exact hstatus .discrepancy (by decide) hshown
  · have hfailed := ((hshows p hp).failed fun f hf => absurd ⟨f, hf⟩ hfound).1
    rcases hfailed with hfailed | hfailed
    · exact absurd hfailed (hstatus .error (by decide))
    · exact absurd hfailed (hstatus .unavailable (by decide))

/-- **A pass hides nothing exactly when no call of its reader returns a malformed finding**, whatever
    else the calls return or throw. -/
theorem reconcile_hidesNothing_iff (reader : AccountingReconciliationReader)
    (clock : ReconciliationClock) (checks : Option (List AnyReconciliationCheckId))
    {targets : List ReconciliationTarget} (h : reader.targets = .listed targets)
    (hids : ∀ t ∈ targets, UUID t.businessId = true) :
    HidesNothing reader clock checks
        (numberedPairs targets (checks.getD RECONCILIATION_CHECK_IDS)) ↔
      ∀ p ∈ numberedPairs targets (checks.getD RECONCILIATION_CHECK_IDS),
        ∀ f, reader.outcome p = .found f → f.WellFormed := by
  constructor
  · intro hhides p hp f hf
    obtain ⟨run, hrun, hshows, _⟩ := hhides
    rw [turns_eq_map (reconcile_eq_ok h hrun).1, List.forall₂_map_right_iff,
      List.forall₂_same] at hshows
    by_contra hmalformed
    have hnone : ∀ g, reader.outcome p = .found g → ¬ g.WellFormed := fun g hg =>
      CheckOutcome.found.inj (hf.symm.trans hg) ▸ hmalformed
    -- A finding is never shown as an error, whatever it holds.
    have hfailed := ((hshows p hp).failed hnone).1
    rw [(resultOf_found clock hf).1] at hfailed
    split at hfailed <;> simp at hfailed
  · intro hwell
    have hshows : ∀ p ∈ numberedPairs targets (checks.getD RECONCILIATION_CHECK_IDS),
        Shows (reader.outcome p) p.1 (resultOf reader clock p) :=
      fun p hp => resultOf_shows clock (businessId_of_mem hids hp) (hwell p hp)
    obtain ⟨results, hresults⟩ := mapM_of_forall fun p hp =>
      ⟨_, turn_eq_ok.mpr ⟨(hshows p hp).safe, rfl⟩⟩
    have hmap := turns_eq_map hresults
    obtain ⟨run, hrun, rfl⟩ := reconcile_of_turns h hresults
    obtain ⟨_, hdiscrepancy, herror, hunavailable⟩ := reconcile_eq_ok h hrun
    refine ⟨run, hrun, ?_, fun hzero => clean_of_counts hshows hwell fun status hne => ?_⟩
    · rw [hmap, List.forall₂_map_right_iff, List.forall₂_same]
      exact hshows
    · rw [hdiscrepancy, herror, hunavailable, hmap] at hzero
      cases status with
      | ok => exact absurd rfl hne
      | discrepancy => exact hzero.1
      | error => exact hzero.2.1
      | unavailable => exact hzero.2.2

/-- **A finding that cannot be carried discards the whole pass.** -/
theorem reconcile_aborts (reader : AccountingReconciliationReader) (clock : ReconciliationClock)
    (checks : Option (List AnyReconciliationCheckId)) {targets : List ReconciliationTarget}
    (h : reader.targets = .listed targets) {p : NumberedPair}
    (hp : p ∈ numberedPairs targets (checks.getD RECONCILIATION_CHECK_IDS))
    (hpast : assertSafeCheckResult (resultOf reader clock p) ≠ .ok ()) :
    ∃ e, reconcile reader clock checks = .error e := by
  cases hrun : reconcile reader clock checks with
  | error e => exact ⟨e, rfl⟩
  | ok run =>
    obtain ⟨r, hr⟩ := mapM_accepts (reconcile_eq_ok h hrun).1 hp
    exact absurd (turn_eq_ok.mp hr).1 hpast

end Pass

/-- Two businesses; the count of the first one is what it is given, the second one has a
    discrepancy. -/
def sampleTargets : List ReconciliationTarget :=
  [⟨"00000000-0000-0000-0000-0000000000a1", "00000000-0000-0000-0000-0000000000b1"⟩,
    ⟨"00000000-0000-0000-0000-0000000000a2", "00000000-0000-0000-0000-0000000000b2"⟩]

def sampleReader (count : JsNumber) : AccountingReconciliationReader where
  targets := .listed sampleTargets
  check n _ _ :=
    if n = 0 then .found ⟨count, []⟩
    else .found ⟨.finite 3, ["00000000-0000-0000-0000-0000000000c1"]⟩

def sampleClock : ReconciliationClock := ⟨fun _ => ⟨1767571200000, by decide⟩⟩

theorem reconcile_hidesNothing_clean :
    HidesNothing (sampleReader (.finite 0)) sampleClock (some [.rAcc01])
      (numberedPairs sampleTargets [.rAcc01]) := by
  refine (reconcile_hidesNothing_iff (sampleReader (.finite 0)) sampleClock (some [.rAcc01]) rfl
    (by decide +kernel)).mpr ?_
  intro p hp f hf
  unfold AccountingReconciliationReader.outcome sampleReader at hf
  dsimp only at hf
  split at hf
  · obtain rfl := CheckOutcome.found.inj hf
    exact ⟨rfl, rfl, nofun⟩
  · obtain rfl := CheckOutcome.found.inj hf
    exact ⟨rfl, rfl, by decide +kernel⟩

/-- **One negative count hides the discrepancy of the next business.** -/
theorem not_reconcile_hidesNothing :
    ¬ ∀ (reader : AccountingReconciliationReader) (clock : ReconciliationClock)
        (checks : Option (List AnyReconciliationCheckId)) (targets : List ReconciliationTarget),
      reader.targets = .listed targets → (∀ t ∈ targets, UUID t.businessId = true) →
      HidesNothing reader clock checks
        (numberedPairs targets (checks.getD RECONCILIATION_CHECK_IDS)) := by
  intro hall
  obtain ⟨run, hrun, _⟩ := hall (sampleReader (.finite (-1))) sampleClock (some [.rAcc01])
    sampleTargets rfl (by decide +kernel)
  have hpair : ((⟨"00000000-0000-0000-0000-0000000000a1", "00000000-0000-0000-0000-0000000000b1"⟩,
      .rAcc01), 0) ∈ numberedPairs sampleTargets [.rAcc01] := by
    decide +kernel
  obtain ⟨e, he⟩ := reconcile_aborts (sampleReader (.finite (-1))) sampleClock (some [.rAcc01]) rfl
    hpair (by decide +kernel)
  rw [hrun] at he
  cases he

end Daftar.Accounting.Reconciliation
