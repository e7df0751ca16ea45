/-
  File: Daftar/Inventory/CustomerPayment.lean
  Subject: A whole customer payment in one plan: its allocations, its surplus credit and its base.

  * `planCustomerPayment` plans every leg at the invoice it names, the surplus as a credit, and
    asserts the closure of the payment (`assertPaymentClosure`).
  * `planCustomerPayment_eq_ok`: it accepts exactly the lawful payments (`CustomerPaymentInput.Lawful`),
    with `CustomerPaymentInput.plan`; the closure and the positive base are no conditions of their own.
  * `CustomerPaymentInput.plan_closes`: an accepted payment closes in both currencies.
-/

import Daftar.Inventory.EntryBalance
import Mathlib.Algebra.Order.BigOperators.Group.List

namespace Daftar.Inventory.Customer

open Fallible
open Rounding

/-! ## 1. The closure -/

def CUSTOMER_PAYMENT_MAX_ALLOCATIONS : ℕ := 50

/-- The amounts allocated plus the credit created are the payment. -/
def assertPaymentClosure (amountMinor : ℤ) (allocationPaymentAmountsMinor : List ℤ)
    (creditCreatedMinor : ℤ) : ReceivableResult Unit := do
  assertMinor amountMinor "a payment amount" 1
  let allocated ← allocationPaymentAmountsMinor.foldlM (fun allocated p => do
    assertMinor p "an allocation payment amount" 1
    pure (allocated + p)) 0
  refuseIf (allocated > amountMinor)
    (.receivable .customerPaymentAllocationsInvalid
      "a payment cannot allocate more than it received")
  refuseIf (allocated + creditCreatedMinor ≠ amountMinor)
    (.receivable .customerPaymentAllocationsInvalid
      "a payment allocates its whole amount or carries the surplus as a customer credit")

/-- The surplus a payment carries, 0 when it is fully allocated. -/
def paymentSurplusMinor (amountMinor : ℤ) (allocationPaymentAmountsMinor : List ℤ) :
    ReceivableResult ℤ := do
  let allocated := allocationPaymentAmountsMinor.foldl (fun allocated p => allocated + p) 0
  let surplus := amountMinor - allocated
  refuseIf (surplus < 0)
    (.receivable .customerPaymentAllocationsInvalid
      "a payment cannot allocate more than it received")
  pure surplus

theorem foldlM_assertMinor {ps : List ℤ} {what : String} {s r : ℤ} :
    (ps.foldlM (fun allocated p => do
      assertMinor p what 1
      pure (allocated + p)) s : ReceivableResult ℤ) = .ok r ↔
      (∀ p ∈ ps, IsMinor 1 p) ∧ s + ps.sum = r := by
  have hstep : ∀ s p r, (do
      assertMinor p what 1
      pure (s + p) : ReceivableResult ℤ) = .ok r ↔ IsMinor 1 p ∧ s + p = r := by
    intro s p r
    simp only [bind_eq_ok, assertMinor_eq_ok, exists_const, pure_eq_ok]
  rw [foldlM_sum_eq_ok hstep, List.map_id']

theorem assertPaymentClosure_eq_ok {amount credit : ℤ} {ps : List ℤ} {u : Unit} :
    assertPaymentClosure amount ps credit = .ok u ↔ IsMinor 1 amount ∧ (∀ p ∈ ps, IsMinor 1 p) ∧
      ps.sum ≤ amount ∧ ps.sum + credit = amount := by
  simp only [assertPaymentClosure, bind_eq_ok, assertMinor_eq_ok, exists_const, foldlM_assertMinor,
    refuseIf_eq_ok, zero_add, gt_iff_lt, not_lt, ne_eq, not_not]
  constructor
  · intro h
    obtain ⟨hamount, _, ⟨hps, rfl⟩, hle, heq⟩ := h
    exact ⟨hamount, hps, hle, heq⟩
  · intro h
    obtain ⟨hamount, hps, hle, heq⟩ := h
    exact ⟨hamount, _, ⟨hps, rfl⟩, hle, heq⟩

theorem paymentSurplusMinor_eq_ok {amount s : ℤ} {ps : List ℤ} :
    paymentSurplusMinor amount ps = .ok s ↔ ps.sum ≤ amount ∧ amount - ps.sum = s := by
  simp only [paymentSurplusMinor, bind_eq_ok, refuseIf_eq_ok, exists_const, pure_eq_ok, not_lt,
    ← List.sum_eq_foldl, sub_nonneg]

/-! ## 2. The plan -/

/-- One leg of a payment. -/
structure CustomerPaymentLegInput where
  invoice : InvoiceArState
  sameCurrency : Bool
  paymentAmountMinor : ℤ
  appliedMinor : ℤ
  deriving DecidableEq, Repr

structure CustomerPaymentInput where
  amountMinor : ℤ
  payment : ReceivableConversion
  legs : List CustomerPaymentLegInput
  deriving DecidableEq, Repr

/-- Every figure a collected payment stores. -/
structure CustomerPaymentPlan where
  allocations : List CustomerPaymentAllocationPlan
  credit : Option CustomerCreditCreationPlan
  baseAmountMinor : ℤ
  surplusMinor : ℤ
  deriving DecidableEq, Repr

/-- The signed figures of an allocation. -/
def CustomerPaymentAllocationPlan.figures (p : CustomerPaymentAllocationPlan) : List ℤ :=
  [p.paymentBaseMinor, p.arReleasedBeforeMinor, p.invoiceCarryingReleasedMinor, p.arDustBaseMinor,
    p.realizedFxMinor]

/-- A leg as the allocation it plans. -/
def CustomerPaymentLegInput.allocation (leg : CustomerPaymentLegInput)
    (payment : ReceivableConversion) : CustomerPaymentAllocationInput :=
  { invoice := leg.invoice, sameCurrency := leg.sameCurrency
    paymentAmountMinor := leg.paymentAmountMinor, payment, appliedMinor := leg.appliedMinor }

/-- The credit of a surplus, none when there is no surplus. -/
def surplusCredit (surplusMinor : ℤ) (payment : ReceivableConversion) :
    ReceivableResult (Option CustomerCreditCreationPlan) :=
  if surplusMinor > 0 then some <$> planCustomerCreditCreation ⟨surplusMinor, payment⟩
  else pure none

def planCustomerPayment (input : CustomerPaymentInput) : ReceivableResult CustomerPaymentPlan := do
  refuseIf (input.legs.length > CUSTOMER_PAYMENT_MAX_ALLOCATIONS)
    (.receivable .customerPaymentAllocationsInvalid "a payment has 0..50 allocations")
  let allocations ← input.legs.mapM fun leg =>
    planCustomerPaymentAllocation (leg.allocation input.payment)
  let paymentAmounts := allocations.map (·.paymentAmountMinor)
  let surplusMinor ← paymentSurplusMinor input.amountMinor paymentAmounts
  let credit ← surplusCredit surplusMinor input.payment
  assertPaymentClosure input.amountMinor paymentAmounts
    ((credit.map (·.originalAmountMinor)).getD 0)
  let baseAmountMinor : ℤ := allocations.foldl (fun sum a => sum + a.paymentBaseMinor)
    ((credit.map (·.originalCarryingBaseMinor)).getD 0)
  refuseIf (baseAmountMinor ≤ 0)
    (.receivable .customerPaymentArithmeticInvalid
      "a collected payment converts to at least one base minor unit")
  pure { allocations, credit, baseAmountMinor, surplusMinor }

/-! ## 3. What it accepts -/

theorem planCustomerPaymentAllocation_eq_ok {i : CustomerPaymentAllocationInput}
    {p : CustomerPaymentAllocationPlan} :
    planCustomerPaymentAllocation i = .ok p ↔ i.Lawful ∧ i.plan = p := by
  rw [planCustomerPaymentAllocation_eq_draft, customerPaymentAllocationDraft_eq_ok]

theorem planCustomerCreditCreation_eq_ok {i : CustomerCreditCreationInput}
    {p : CustomerCreditCreationPlan} :
    planCustomerCreditCreation i = .ok p ↔ i.Lawful ∧ i.plan = p := by
  rw [planCustomerCreditCreation_eq_draft, customerCreditCreationDraft_eq_ok]

namespace CustomerPaymentInput

variable (i : CustomerPaymentInput)

/-- What the legs allocate of the payment, and the base of that. -/
def allocated : ℤ := (i.legs.map (·.paymentAmountMinor)).sum

def allocatedBase : ℤ := (i.legs.map fun leg => i.payment.base leg.paymentAmountMinor).sum

def surplus : ℤ := i.amountMinor - i.allocated

def creation : CustomerCreditCreationInput := ⟨i.surplus, i.payment⟩

/-- The plan as a plain function of the payment. -/
def plan : CustomerPaymentPlan where
  allocations := i.legs.map fun leg => (leg.allocation i.payment).plan
  credit := if 0 < i.surplus then some i.creation.plan else none
  baseAmountMinor := i.allocatedBase + if 0 < i.surplus then i.payment.base i.surplus else 0
  surplusMinor := i.surplus

/-- What passes every guard of a payment. -/
structure Lawful : Prop where
  count : i.legs.length ≤ CUSTOMER_PAYMENT_MAX_ALLOCATIONS
  amount_minor : IsMinor 1 i.amountMinor
  legs : ∀ leg ∈ i.legs, (leg.allocation i.payment).Lawful
  allocated_le : i.allocated ≤ i.amountMinor
  creation : 0 < i.surplus → i.creation.Lawful

variable {i}

/-- What is allocated is positive as soon as there is a leg, and so is its base. -/
theorem Lawful.allocated_bounds (h : i.Lawful) :
    0 ≤ i.allocated ∧ 0 ≤ i.allocatedBase ∧ (i.legs ≠ [] → 1 ≤ i.allocatedBase) := by
  have hlegs := h.legs
  unfold allocated allocatedBase
  generalize i.legs = legs at hlegs ⊢
  induction legs with
  | nil => simp
  | cons leg legs ih =>
    obtain ⟨h1, h2, _⟩ := ih fun l hl => hlegs l (List.mem_cons_of_mem _ hl)
    have hleg := hlegs leg List.mem_cons_self
    have hpos : 1 ≤ leg.paymentAmountMinor := hleg.payment_minor.1
    have hbase : 0 ≤ i.payment.base leg.paymentAmountMinor :=
      hleg.payment_conversion.base_nonneg (by omega)
    have hne : i.payment.base leg.paymentAmountMinor ≠ 0 := hleg.payment_converted
    simp only [List.map_cons, List.sum_cons]
    exact ⟨by omega, by omega, fun _ => by omega⟩

/-- **A lawful payment is worth at least one base unit**: its legs are, or else its surplus is. -/
theorem Lawful.base_pos (h : i.Lawful) : 1 ≤ i.plan.baseAmountMinor := by
  obtain ⟨_, hbase, hlegs⟩ := h.allocated_bounds
  show 1 ≤ i.allocatedBase + if 0 < i.surplus then i.payment.base i.surplus else 0
  by_cases hs : 0 < i.surplus
  · have := (h.creation hs).carrying_minor.1
    have hcarry : 1 ≤ i.payment.base i.surplus := this
    rw [if_pos hs]
    omega
  · rw [if_neg hs, add_zero]
    refine hlegs fun hnil => hs ?_
    -- Without a leg the whole amount is the surplus.
    have := h.amount_minor.1
    simp only [surplus, allocated, hnil, List.map_nil, List.sum_nil]
    omega

/-- No leg's base is negative, and none is above the whole. -/
theorem Lawful.payment_base_bounds (h : i.Lawful) {leg : CustomerPaymentLegInput}
    (hleg : leg ∈ i.legs) : 0 ≤ i.payment.base leg.paymentAmountMinor ∧
      i.payment.base leg.paymentAmountMinor ≤ i.plan.baseAmountMinor := by
  have hnonneg : ∀ l ∈ i.legs, 0 ≤ i.payment.base l.paymentAmountMinor := fun l hl =>
    (h.legs l hl).payment_conversion.base_nonneg (zero_le_one.trans (h.legs l hl).payment_minor.1)
  have hsum : i.payment.base leg.paymentAmountMinor ≤ i.allocatedBase := by
    refine List.single_le_sum ?_ _ (List.mem_map_of_mem hleg)
    intro x hx
    obtain ⟨l, hl, rfl⟩ := List.mem_map.mp hx
    exact hnonneg l hl
  refine ⟨hnonneg leg hleg, hsum.trans ?_⟩
  show i.allocatedBase ≤ i.allocatedBase + if 0 < i.surplus then i.payment.base i.surplus else 0
  split
  · next hs => exact le_add_of_nonneg_right (zero_le_one.trans (h.creation hs).carrying_minor.1)
  · rw [add_zero]

/-- **The figures of a leg are within a range** as soon as the base of the payment and the dust
    are. -/
theorem Lawful.figures_within (h : i.Lawful) {N : ℤ} (hN : VALUE_LIMIT_MINOR ≤ N)
    (hbase : i.plan.baseAmountMinor ≤ N) {leg : CustomerPaymentLegInput} (hleg : leg ∈ i.legs)
    (hdust : -N - 1 ≤ (leg.allocation i.payment).plan.arDustBaseMinor) :
    ∀ v ∈ (leg.allocation i.payment).plan.figures, -N - 1 ≤ v ∧ v ≤ N := by
  have hl := h.legs leg hleg
  obtain ⟨hpb0, hpb⟩ := h.payment_base_bounds hleg
  obtain ⟨hrel0, hrel⟩ := hl.range.release_bounds hl.applied_pos hl.applied_le
  have hconv : 0 ≤ leg.invoice.conversion.base leg.appliedMinor :=
    hl.conversion.base_nonneg hl.applied_pos.le
  have htotal : leg.invoice.totalTxnMinor ≤ VALUE_LIMIT_MINOR := hl.range.total.2
  have htotalBase : leg.invoice.totalBaseMinor ≤ VALUE_LIMIT_MINOR := hl.range.base.2
  have hout : 0 ≤ leg.invoice.outstandingTxnMinor := hl.range.outstanding.1
  have hout' : leg.invoice.outstandingTxnMinor ≤ leg.invoice.totalTxnMinor :=
    hl.range.outstanding_le
  -- The figures in terms of the release, the level and the two conversions.
  obtain ⟨rel, hr⟩ : ∃ rel, (leg.invoice.ap.side leg.appliedMinor).carryingReleasedMinor = rel :=
    ⟨_, rfl⟩
  have hd : (leg.allocation i.payment).plan.arDustBaseMinor =
      rel - leg.invoice.conversion.base leg.appliedMinor := hr ▸ rfl
  have hfigures : (leg.allocation i.payment).plan.figures =
      [i.payment.base leg.paymentAmountMinor,
        leg.invoice.totalTxnMinor - leg.invoice.outstandingTxnMinor, rel,
        rel - leg.invoice.conversion.base leg.appliedMinor,
        i.payment.base leg.paymentAmountMinor - rel] := hr ▸ rfl
  have hrel0' : 0 ≤ rel := hr ▸ hrel0
  have hrel' : rel ≤ leg.invoice.totalBaseMinor := hr ▸ hrel
  rw [hd] at hdust
  rw [hfigures]
  simp only [List.forall_mem_cons, List.not_mem_nil, false_implies, implies_true, and_true]
  refine ⟨⟨?_, ?_⟩, ⟨?_, ?_⟩, ⟨?_, ?_⟩, ⟨?_, ?_⟩, ?_, ?_⟩ <;> omega

/-- **An accepted payment closes in both currencies.** -/
theorem plan_closes (hle : i.allocated ≤ i.amountMinor) :
    (i.plan.allocations.map (·.paymentAmountMinor)).sum +
        ((i.plan.credit.map (·.originalAmountMinor)).getD 0) = i.amountMinor ∧
      (i.plan.allocations.map (·.paymentBaseMinor)).sum +
        ((i.plan.credit.map (·.originalCarryingBaseMinor)).getD 0) = i.plan.baseAmountMinor := by
  have hamount : (i.plan.allocations.map (·.paymentAmountMinor)).sum = i.allocated := by
    rw [plan, List.map_map]
    rfl
  have hbase : (i.plan.allocations.map (·.paymentBaseMinor)).sum = i.allocatedBase := by
    rw [plan, List.map_map]
    rfl
  rw [hamount, hbase]
  by_cases hs : 0 < i.surplus
  · simp only [plan, hs, if_true, Option.map_some, Option.getD_some]
    exact ⟨add_sub_cancel _ _, rfl⟩
  · simp only [plan, hs, if_false, Option.map_none, Option.getD_none, add_zero]
    unfold surplus at hs
    exact ⟨by omega, trivial⟩

end CustomerPaymentInput

theorem surplusCredit_eq_ok {i : CustomerPaymentInput} {c : Option CustomerCreditCreationPlan} :
    surplusCredit i.surplus i.payment = .ok c ↔
      (0 < i.surplus → i.creation.Lawful) ∧ i.plan.credit = c := by
  unfold surplusCredit
  by_cases hs : 0 < i.surplus
  · simp only [gt_iff_lt, hs, if_true, map_eq_ok, planCustomerCreditCreation_eq_ok,
      CustomerPaymentInput.plan, forall_const]
    constructor
    · intro h
      obtain ⟨_, ⟨hl, rfl⟩, rfl⟩ := h
      exact ⟨hl, rfl⟩
    · intro h
      exact ⟨_, ⟨h.1, rfl⟩, h.2⟩
  · simp [hs, CustomerPaymentInput.plan]

/-- **What a payment plan accepts, and what it returns.** -/
theorem planCustomerPayment_eq_ok {i : CustomerPaymentInput} {p : CustomerPaymentPlan} :
    planCustomerPayment i = .ok p ↔ i.Lawful ∧ i.plan = p := by
  have hlegs : ∀ (leg : CustomerPaymentLegInput) (a : CustomerPaymentAllocationPlan),
      planCustomerPaymentAllocation (leg.allocation i.payment) = .ok a ↔
        (leg.allocation i.payment).Lawful ∧ (leg.allocation i.payment).plan = a :=
    fun _ _ => planCustomerPaymentAllocation_eq_ok
  have hsum : ((i.legs.map fun leg => (leg.allocation i.payment).plan).map
      (·.paymentAmountMinor)).sum = i.allocated := by
    rw [List.map_map]
    rfl
  have hcarry : (i.plan.credit.map (·.originalCarryingBaseMinor)).getD 0 =
      if 0 < i.surplus then i.payment.base i.surplus else 0 := by
    by_cases hs : 0 < i.surplus
    · simp only [CustomerPaymentInput.plan, hs, if_true]
      rfl
    · simp only [CustomerPaymentInput.plan, hs, if_false]
      rfl
  have hbase : (i.legs.map fun leg => (leg.allocation i.payment).plan).foldl
      (fun sum a => sum + a.paymentBaseMinor)
        ((i.plan.credit.map (·.originalCarryingBaseMinor)).getD 0) = i.plan.baseAmountMinor := by
    rw [← List.foldl_map (f := CustomerPaymentAllocationPlan.paymentBaseMinor) (g := (· + ·)),
      List.foldl_eq_apply_foldr, ← List.sum_eq_foldr, List.map_map, hcarry, add_comm]
    rfl
  unfold planCustomerPayment
  simp only [bind_eq_ok, refuseIf_eq_ok, exists_const, mapM_eq_ok_map hlegs,
    paymentSurplusMinor_eq_ok, assertPaymentClosure_eq_ok, pure_eq_ok, not_lt, gt_iff_lt, not_le]
  constructor
  · intro h
    obtain ⟨hcount, _, ⟨hall, rfl⟩, _, ⟨hle, rfl⟩, c, hc, ⟨hamount, _⟩, _, rfl⟩ := h
    rw [hsum] at hle hc
    obtain ⟨hcreation, rfl⟩ := surplusCredit_eq_ok.mp hc
    refine ⟨⟨hcount, hamount, hall, hle, hcreation⟩, ?_⟩
    rw [hsum, hbase]
    rfl
  · intro h
    obtain ⟨hl, rfl⟩ := h
    have hcredit := surplusCredit_eq_ok.mpr ⟨hl.creation, rfl⟩
    refine ⟨hl.count, _, ⟨hl.legs, rfl⟩, _, ⟨hsum ▸ hl.allocated_le, rfl⟩, i.plan.credit, ?_⟩
    rw [hsum, hbase]
    refine ⟨hcredit, ⟨hl.amount_minor, ?_, hl.allocated_le, ?_⟩, hl.base_pos, rfl⟩
    · intro p hp
      rw [List.map_map] at hp
      obtain ⟨leg, hleg, rfl⟩ := List.mem_map.mp hp
      exact (hl.legs leg hleg).payment_minor
    · have hcloses := (i.plan_closes hl.allocated_le).1
      have halloc : (i.plan.allocations.map (·.paymentAmountMinor)).sum = i.allocated := hsum
      rwa [halloc] at hcloses

end Daftar.Inventory.Customer
