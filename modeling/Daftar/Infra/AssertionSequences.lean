/-
  File: Daftar/Infra/AssertionSequences.lean
  Subject: The signed assertions one business transaction may present, and the order it presents
  them in.

  * `AccountingAssertionSequence`: one assertion for each posting, in posting order. A conditional
    entry is passed over when the posting it stands for does not happen.
  * `InventoryAssertionSequence`: one assertion for each entry routine, strictly in order.
  * A sequence is built by `plan` and changed by `next` alone, so what is said of a transaction is
    said of the runs of `next` from a plan.
-/

import Mathlib.Data.List.Dedup
import Daftar.Library.Fallible
import Daftar.Library.Runs
import Daftar.Inventory.Payload.Stream

namespace Daftar.Infra

open Fallible Runs

/-! ## 1. Refusals -/

inductive TransactionSeamRefusal
  | inventoryAssertionMissing
  | inventoryAssertionMalformed
  | inventoryAssertionScopeMismatch
  | inventoryAssertionOperationMismatch
  | inventoryAssertionExhausted
  | inventoryAssertionUnused
  | accountingAssertionMissing
  | accountingAssertionMalformed
  | accountingAssertionScopeMismatch
  | accountingAssertionSourceMismatch
  | accountingAssertionExhausted
  | accountingAssertionUnused
  | accountingAssertionNotAuthorized
  | businessTransactionIdMalformed
  deriving DecidableEq, Repr

structure TransactionSeamError where
  code : TransactionSeamRefusal
  message : String
  deriving DecidableEq, Repr

abbrev Seam := Except TransactionSeamError

structure BusinessScope where
  tenantId : String
  businessId : String
  businessTransactionId : String
  deriving DecidableEq, Repr

/-- `/^[0-9a-f]{8}-[0-9a-f]{4}-[0-9a-f]{4}-[0-9a-f]{4}-[0-9a-f]{12}$/` -/
def CANONICAL_TRACE_ID (s : String) : Bool :=
  AsciiText.matchesEach Inventory.Payload.canonicalUuidClasses s.toList

/-! ## 2. Dotted assertions -/

/-- `raw.split('.')` -/
def splitDots (raw : String) : List String := (raw.toList.splitOn '.').map String.ofList

/-- `parts.join('.')` -/
def joinDots (parts : List String) : String :=
  String.ofList (['.'].intercalate (parts.map String.toList))

/-- Parts without a dot are read back. -/
theorem splitDots_joinDots {parts : List String} (hne : parts ≠ [])
    (h : ∀ part ∈ parts, '.' ∉ part.toList) : splitDots (joinDots parts) = parts := by
  have hparts : ∀ part ∈ parts.map String.toList, '.' ∉ part := by
    intro part hpart
    obtain ⟨s, hs, rfl⟩ := List.mem_map.mp hpart
    exact h s hs
  have hid : String.ofList ∘ String.toList = id := funext fun _ => String.ofList_toList
  unfold splitDots joinDots
  rw [String.toList_ofList, List.splitOn_intercalate '.' hparts
    (fun h0 => hne (List.map_eq_nil_iff.mp h0)), List.map_map, hid, List.map_id]

def ACCOUNTING_ASSERTION_COMPONENTS : ℕ := 12

/-- `none` where the source throws: the only caller turns every refusal into one of its own. -/
def splitAccountingAssertion (raw : String) : Option (List String) :=
  let parts := splitDots raw
  if parts.length ≠ ACCOUNTING_ASSERTION_COMPONENTS ∨ parts[0]? ≠ some "v1" then none
  else some parts

def INVCTL_VERSION : String := "invctl1"

def INVENTORY_ASSERTION_COMPONENTS : ℕ := 10

/-- The components the seam reads of the ten. -/
structure InventoryAssertionParts where
  tenantId : String
  businessId : String
  wireOperation : String
  deriving DecidableEq, Repr

def splitInventoryAssertion (raw : String) : Option InventoryAssertionParts :=
  let parts := splitDots raw
  if parts.length ≠ INVENTORY_ASSERTION_COMPONENTS ∨ parts[0]? ≠ some INVCTL_VERSION then none
  else some
    { tenantId := parts[3]?.getD "", businessId := parts[4]?.getD ""
      wireOperation := parts[5]?.getD "" }

/-! ## 3. The accounting sequence -/

structure AccountingAssertionSource where
  sourceType : String
  sourceId : String
  deriving DecidableEq, Repr

/-- One position of the parallel arrays `assertions`, `sources` and `required`, which the source
    only ever extends together. -/
structure AccountingEntry where
  assertion : String
  source : AccountingAssertionSource
  required : Bool
  deriving DecidableEq, Repr

inductive SequenceKind
  | postings
  | noPosting
  deriving DecidableEq, Repr

structure AccountingAssertionSequence where
  presented : ℕ
  /-- How far presentation has reached, including skipped conditional entries. -/
  cursor : ℕ
  /-- Which positions were presented. -/
  done : List Bool
  entries : List AccountingEntry
  kind : SequenceKind
  deriving DecidableEq, Repr

def accountingAssertionParts (scope : BusinessScope) (accountingAssertion : String) :
    Seam (List String) := do
  refuseIf (accountingAssertion = "") ⟨.accountingAssertionMissing,
    "the accounting seam cannot be opened without an accounting assertion"⟩
  let parts ← someOr (splitAccountingAssertion accountingAssertion) ⟨.accountingAssertionMalformed,
    "the accounting assertion is not a posting assertion"⟩
  refuseIf (parts[3]? ≠ some scope.tenantId ∨ parts[4]? ≠ some scope.businessId)
    ⟨.accountingAssertionScopeMismatch,
      "the accounting assertion's tenant/business claims differ from the seam's scope"⟩
  pure parts

/-- Claims 7 and 8 of an assertion. -/
def sourceOfParts (parts : List String) : AccountingAssertionSource :=
  { sourceType := parts[6]?.getD "", sourceId := parts[7]?.getD "" }

/-- One assertion, or a tuple of them in posting order. -/
inductive AccountingAssertions
  | one (assertion : String)
  | tuple (assertions : List String)
  deriving DecidableEq, Repr

def AccountingAssertions.toList : AccountingAssertions → List String
  | .one assertion => [assertion]
  | .tuple assertions => assertions

inductive SeamAccountingAuthority
  | postings (assertions : AccountingAssertions) (conditional : Option (List String))
  | noPosting
  deriving DecidableEq, Repr

/-- What the seam accepts: bare assertions, or a declared authority. -/
inductive AccountingAuthority
  | bare (assertions : AccountingAssertions)
  | declared (authority : SeamAccountingAuthority)
  deriving DecidableEq, Repr

structure AccountingAssertionPlan where
  guc : String
  sequence : Option AccountingAssertionSequence
  deriving DecidableEq, Repr

namespace AccountingAssertionSequence

/-- The constructor: nothing has been presented. -/
def new (entries : List AccountingEntry) (kind : SequenceKind) : AccountingAssertionSequence :=
  { presented := 0, cursor := 0, done := entries.map fun _ => false, entries := entries,
    kind := kind }

/-- The plan's loop body: an assertion already listed is refused. -/
def planEntry (scope : BusinessScope) (entries : List AccountingEntry) (raw : String) :
    Seam (List AccountingEntry) := do
  let parts ← accountingAssertionParts scope raw
  let assertion := joinDots parts
  refuseIf (assertion ∈ entries.map (·.assertion)) ⟨.accountingAssertionMalformed,
    "each accounting assertion authorizes one posting and may appear only once"⟩
  pure (entries ++ [⟨assertion, sourceOfParts parts, true⟩])

/-- `plan` of bare assertions. -/
def planAssertions (scope : BusinessScope) (assertions : AccountingAssertions) :
    Seam AccountingAssertionPlan := do
  let list := assertions.toList
  refuseIf (list = []) ⟨.accountingAssertionMissing,
    "the accounting seam cannot be opened without an accounting assertion"⟩
  let entries ← list.foldlM (planEntry scope) []
  match entries with
  | [first] => pure ⟨first.assertion, none⟩
  | _ => pure ⟨"", some (new entries .postings)⟩

def plan (scope : BusinessScope) : AccountingAuthority → Seam AccountingAssertionPlan
  | .bare assertions => planAssertions scope assertions
  | .declared .noPosting => pure ⟨"", some (new [] .noPosting)⟩
  | .declared (.postings assertions conditional) => do
      let plain ← planAssertions scope assertions
      let conditional := conditional.getD []
      if conditional = [] then pure plain
      else
        let listed ← assertions.toList.mapM fun raw => do
          let parts ← accountingAssertionParts scope raw
          pure (joinDots parts, sourceOfParts parts)
        let exempt ← conditional.mapM fun raw => joinDots <$> accountingAssertionParts scope raw
        let exempt := exempt.dedup
        refuseIf (∃ e ∈ exempt, e ∉ listed.map (·.1)) ⟨.accountingAssertionMalformed,
          "a conditional accounting assertion must be one of this transaction's own assertions"⟩
        refuseIf (exempt.length = listed.length) ⟨.accountingAssertionMalformed,
          "a transaction whose every accounting assertion is conditional declares no_posting instead"⟩
        pure ⟨"", some (new (listed.map fun a => ⟨a.1, a.2, decide (a.1 ∉ exempt)⟩) .postings)⟩

/-- The walk from the cursor over the entries left there: a conditional one that does not match is
    passed over. -/
def seek (source : AccountingAssertionSource) : List AccountingEntry → ℕ → Seam ℕ
  | [], _ => .error ⟨.accountingAssertionExhausted,
      "every accounting assertion of this transaction has already been presented"⟩
  | entry :: rest, i =>
      if source.sourceType = entry.source.sourceType ∧ source.sourceId = entry.source.sourceId then
        .ok i
      else if entry.required = true then
        .error ⟨.accountingAssertionSourceMismatch,
          "the posting's source differs from the claims of the next accounting assertion"⟩
      else seek source rest (i + 1)

/-- The assertion for the next posting, beside the object as the call leaves it: a throw leaves what
    had been written before it. -/
def next (s : AccountingAssertionSequence) (source : AccountingAssertionSource) :
    Seam String × AccountingAssertionSequence :=
  if s.kind = .noPosting then
    (.error ⟨.accountingAssertionNotAuthorized, "this transaction declared that it posts nothing: " ++
      "it carries no accounting authority to present"⟩, s)
  else
    match seek source (s.entries.drop s.cursor) s.cursor with
    | .error e => (.error e, s)
    | .ok i =>
        match s.entries[i]? with
        | none => (.error ⟨.accountingAssertionExhausted,
            "every accounting assertion of this transaction has already been presented"⟩, s)
        | some entry =>
            (.ok entry.assertion,
              { s with
                done := s.done.set i true
                cursor := i + 1
                presented := s.presented + 1 })

/-- The required entries that were never presented. -/
def missing (s : AccountingAssertionSequence) : ℕ :=
  s.entries.zipIdx.countP fun x => x.1.required && s.done[x.2]? != some true

end AccountingAssertionSequence

/-! ## 4. The inventory sequence -/

structure InventoryEntry where
  assertion : String
  operation : String
  deriving DecidableEq, Repr

structure InventoryAssertionSequence where
  presented : ℕ
  entries : List InventoryEntry
  deriving DecidableEq, Repr

structure InventoryAssertionPlan where
  guc : String
  sequence : Option InventoryAssertionSequence
  singleOperation : Option String
  deriving DecidableEq, Repr

/-- `replaceAll(':', '.')` -/
def operationOfWire (wireOperation : String) : String :=
  String.ofList (wireOperation.toList.map fun c => if c = ':' then '.' else c)

def assertInventoryAssertionCoheres (scope : BusinessScope) (inventoryAssertion : String) :
    Seam InventoryEntry := do
  refuseIf (CANONICAL_TRACE_ID scope.businessTransactionId = false)
    ⟨.businessTransactionIdMalformed,
      "a business seam needs the canonical business transaction id of its operation (P3-AL-35)"⟩
  refuseIf (inventoryAssertion = "") ⟨.inventoryAssertionMissing,
    "a business seam cannot be opened without an inventory assertion"⟩
  let parts ← someOr (splitInventoryAssertion inventoryAssertion) ⟨.inventoryAssertionMalformed,
    "the inventory assertion is not an invctl/1 assertion"⟩
  refuseIf (parts.tenantId ≠ scope.tenantId ∨ parts.businessId ≠ scope.businessId)
    ⟨.inventoryAssertionScopeMismatch,
      "the inventory assertion's tenant/business claims differ from the seam's scope"⟩
  pure ⟨inventoryAssertion, operationOfWire parts.wireOperation⟩

namespace InventoryAssertionSequence

def planEntry (scope : BusinessScope) (entries : List InventoryEntry) (raw : String) :
    Seam (List InventoryEntry) := do
  let entry ← assertInventoryAssertionCoheres scope raw
  refuseIf (entry.assertion ∈ entries.map (·.assertion)) ⟨.inventoryAssertionMalformed,
    "each inventory assertion authorizes one routine call and may appear only once"⟩
  pure (entries ++ [entry])

/-- A bare string is the list of that one assertion. -/
def plan (scope : BusinessScope) (list : List String) : Seam InventoryAssertionPlan := do
  refuseIf (list = []) ⟨.inventoryAssertionMissing,
    "a business seam cannot be opened without an inventory assertion"⟩
  let entries ← list.foldlM (planEntry scope) []
  match entries with
  | [first] => pure ⟨first.assertion, none, some first.operation⟩
  | _ => pure ⟨"", some { presented := 0, entries := entries }, none⟩

def next (s : InventoryAssertionSequence) (opCode : String) :
    Seam String × InventoryAssertionSequence :=
  match s.entries[s.presented]? with
  | none => (.error ⟨.inventoryAssertionExhausted,
      "every inventory assertion of this transaction has already been presented"⟩, s)
  | some entry =>
      if opCode ≠ entry.operation then
        (.error ⟨.inventoryAssertionOperationMismatch,
          "the routine's operation differs from the claim of the next inventory assertion"⟩, s)
      else (.ok entry.assertion, { s with presented := s.presented + 1 })

end InventoryAssertionSequence

/-! ## 5. Calls and what they were handed -/

/-- The calls that were handed an assertion, each with it. -/
def handedOut {κ : Type} (log : List (κ × Seam String)) : List (κ × String) :=
  log.filterMap fun call =>
    match call.2 with
    | .ok assertion => some (call.1, assertion)
    | .error _ => none

/-! ## 6. What an accounting plan lists -/

/-- The assertions an authority lists, in posting order. -/
def AccountingAuthority.listed : AccountingAuthority → List String
  | .bare assertions => assertions.toList
  | .declared (.postings assertions _) => assertions.toList
  | .declared .noPosting => []

/-- Those it declares conditional. -/
def AccountingAuthority.conditional : AccountingAuthority → List String
  | .declared (.postings _ conditional) => conditional.getD []
  | _ => []

namespace AccountingAssertionSequence

/-- The state after the entries at `ps` were handed out, in that order. -/
structure PresentedAt (entries : List AccountingEntry) (ps : List ℕ)
    (s : AccountingAssertionSequence) : Prop where
  entries_eq : s.entries = entries
  presented : s.presented = ps.length
  length_done : s.done.length = entries.length
  done : ∀ j, s.done[j]? = some true ↔ j ∈ ps
  increasing : ps.Pairwise (· < ·)
  below : ∀ p ∈ ps, p < s.cursor
  skipped : ∀ j e, entries[j]? = some e → j < s.cursor → j ∉ ps → e.required = false

/-- One more entry, at or beyond the cursor, with conditional ones between. -/
theorem PresentedAt.push {entries : List AccountingEntry} {ps : List ℕ}
    {s : AccountingAssertionSequence} {k : ℕ} {e : AccountingEntry} (h : PresentedAt entries ps s)
    (hk : s.cursor ≤ k) (he : entries[k]? = some e)
    (hpassed : ∀ j x, s.cursor ≤ j → j < k → entries[j]? = some x → x.required = false) :
    PresentedAt entries (ps ++ [k])
      { s with done := s.done.set k true, cursor := k + 1, presented := s.presented + 1 } where
  entries_eq := h.entries_eq
  presented := by rw [List.length_append, h.presented, List.length_singleton]
  length_done := List.length_set.trans h.length_done
  done j := by
    have hlen : k < s.done.length := h.length_done ▸ (List.getElem?_eq_some_iff.mp he).1
    rw [List.getElem?_set, List.mem_append, List.mem_singleton, ← h.done j]
    by_cases hkj : k = j
    · simp [← hkj, hlen]
    · simp [hkj, Ne.symm hkj]
  increasing := by
    refine List.pairwise_append.mpr ⟨h.increasing, List.pairwise_singleton _ _, fun p hp q hq => ?_⟩
    rw [List.mem_singleton.mp hq]
    exact Nat.lt_of_lt_of_le (h.below p hp) hk
  below p hp := by
    rcases List.mem_append.mp hp with hp | hp
    · exact Nat.lt_succ_of_lt (Nat.lt_of_lt_of_le (h.below p hp) hk)
    · exact (List.mem_singleton.mp hp) ▸ Nat.lt_succ_self _
  skipped j x hx hj hnot := by
    rw [List.mem_append, List.mem_singleton, not_or] at hnot
    by_cases hjs : j < s.cursor
    · exact h.skipped j x hx hjs hnot.1
    · exact hpassed j x (by omega) (by have := hnot.2; simp only at hj; omega) hx

/-- What is handed out for a call is an entry of the plan, for the source the call asked for. -/
def Hands (entries : List AccountingEntry) (call : AccountingAssertionSource × String) (p : ℕ) :
    Prop :=
  ∃ e, entries[p]? = some e ∧ e.source = call.1 ∧ e.assertion = call.2

/-- **What a run hands out follows the plan**: its entries stand at increasing places, each for the
    source that was asked for, and every place passed over is a conditional entry's. -/
structure FollowsPlan (entries : List AccountingEntry)
    (log : List (AccountingAssertionSource × Seam String)) (places : List ℕ) : Prop where
  increasing : places.Pairwise (· < ·)
  handed : List.Forall₂ (Hands entries) (handedOut log) places
  skipped : ∀ j e, entries[j]? = some e → j ∉ places → (∃ p ∈ places, j < p) → e.required = false

/-- Entries with different assertions are handed out once each. -/
theorem FollowsPlan.nodup {entries : List AccountingEntry} {places : List ℕ}
    {log : List (AccountingAssertionSource × Seam String)} (h : FollowsPlan entries log places)
    (hnodup : (entries.map (·.assertion)).Nodup) : ((handedOut log).map (·.2)).Nodup := by
  refine List.pairwise_map.mpr (pairwise_of_forall₂ h.handed h.increasing ?_)
  intro x p y q hx hy hpq hxy
  obtain ⟨e, he, -, hex⟩ := hx
  obtain ⟨f, hf, -, hfy⟩ := hy
  have hassertion : ∀ {i : ℕ} {e : AccountingEntry}, entries[i]? = some e →
      (entries.map (·.assertion))[i]? = some e.assertion := fun h => by
    rw [List.getElem?_map, h]
    rfl
  have hp := hassertion he
  have hsame : (entries.map (·.assertion))[p]? = (entries.map (·.assertion))[q]? := by
    rw [hp, hassertion hf, hex, hfy, hxy]
  have hinj := List.getElem?_inj (List.getElem?_eq_some_iff.mp hp).1 hnodup (j := q)
  exact Nat.ne_of_lt hpq (hinj.mp hsame)

end AccountingAssertionSequence

/-! ## 8. Runs of the inventory sequence -/

namespace InventoryAssertionSequence

end InventoryAssertionSequence

/-! ## 9. The protocol -/

end Daftar.Infra
