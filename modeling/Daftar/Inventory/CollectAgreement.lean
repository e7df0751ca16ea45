/-
  File: Daftar/Inventory/CollectAgreement.lean
  Subject: The plan of a customer payment against the recomputation of its database routine.

  * `PlannedFrom`: the plan was computed from the invoices, the rates and the exponents the routine
    reads.
  * `allocatedOutstandings_eq`: the array element of an allocation is what its invoice owes.
  * `collectRecompute_eq_ok`: the recomputation accepts exactly the figures of the plan of a sound
    payment whose conversions fit a BIGINT.
  * `collect_plan_recomputed` puts it together with what the plan refuses for its amounts.
-/

import Daftar.Inventory.CollectRefusals
import Daftar.Inventory.CollectRoutine

namespace Daftar.Inventory.Receivables

open Customer
open Fallible
open Rounding
open Tables

/-! ## 1. What the plan is computed from -/

/-- The exponents of a currency and of the base currency are those of the snapshot. -/
structure FxFacts (db : CollectDb) (currency : String) (c : SettlementConversion) : Prop where
  valid : c.Valid
  txnExponent : db.minorUnits currency = some c.txnExponent
  baseExponent : db.minorUnits db.baseCurrency = some c.baseExponent

/-- A leg of the plan is an allocation of the request to a stored invoice. -/
structure LegOf (db : CollectDb) (currency : String) (a : CollectAllocation)
    (leg : CustomerPaymentLegInput) (i : InvoiceRow) : Prop where
  stored : db.invoices.find? a.invoiceId = some i
  total_txn : leg.invoice.totalTxnMinor = i.totalTxnMinor
  total_base : leg.invoice.totalBaseMinor = i.totalBaseMinor
  outstanding : leg.invoice.outstandingTxnMinor = (db.outstandingOf i).outstandingTxnMinor
  rate : i.sourceToBaseRate = leg.invoice.conversion.rate
  fx : FxFacts db i.currencyCode leg.invoice.conversion
  same : leg.sameCurrency = decide (currency = i.currencyCode)
  paid : leg.paymentAmountMinor = a.paymentAmountMinor
  applied : leg.appliedMinor = a.appliedMinor

/-- A payment is planned from what the routine reads for its request. -/
structure PlannedFrom (db : CollectDb) (q : CollectRequest) (input : CustomerPaymentInput) : Prop where
  amount : input.amountMinor = q.amountMinor
  rate : q.rate = input.payment.rate
  fx : FxFacts db q.currencyCode input.payment
  legs : List.Forall₂ (fun a leg => ∃ i, LegOf db q.currencyCode a leg i) q.allocations input.legs

/-! ## 2. The array of outstandings -/

/-- **The array element of an id is what its invoice owes**, whatever the order of the ids. -/
theorem allocatedOutstandings_eq {db : ReceivableDb} {ids : List Uuid} {is : List InvoiceRow}
    (h : List.Forall₂ (fun id i => db.invoices.find? id = some i) ids is) :
    allocatedOutstandings db ids =
      .ok (is.map fun i => (db.outstandingOf i).outstandingTxnMinor) := by
  have hnames : db.Names ids := by
    intro id hid
    obtain ⟨i, _, hi⟩ := forall₂_target h hid
    exact ⟨i, (Table.find?_eq_some.mp hi).1, (Table.find?_eq_some.mp hi).2⟩
  -- Each id is read on its own; the ids of the one call stay.
  have hread : ∀ {xs : List Uuid} {is : List InvoiceRow}, xs ⊆ ids →
      List.Forall₂ (fun id i => db.invoices.find? id = some i) xs is →
      (xs.flatMap fun id => (((db.asked ids).map db.outstandingOf).filter
        fun o => o.invoiceId = id).map (·.outstandingTxnMinor)) =
      is.map fun i => (db.outstandingOf i).outstandingTxnMinor := by
    intro xs is hsub hxs
    induction hxs with
    | nil => rfl
    | cons hi _ ih =>
        obtain ⟨hmem, rfl⟩ := Table.find?_eq_some.mp hi
        obtain ⟨hid, hrest⟩ := List.cons_subset.mp hsub
        rw [List.flatMap_cons, rows_filter_eq hmem hid, ih hrest]
        rfl
  unfold allocatedOutstandings
  rw [invoiceOutstanding_eq_ok.mpr ⟨hnames, rfl⟩, ok_bind, hread (List.Subset.refl _) h]
  rfl

/-! ## 3. One allocation -/

/-- The figures a plan signs for an allocation. -/
def planFigures (p : CustomerPaymentAllocationPlan) : AllocationFigures :=
  ⟨p.paymentBaseMinor, p.arReleasedBeforeMinor, p.invoiceCarryingReleasedMinor, p.arDustBaseMinor,
    p.realizedFxMinor⟩

/-- What the recomputation asks of a leg, its figures apart. -/
structure LegRecomputed (leg : CustomerPaymentLegInput) (payment : SettlementConversion) :
    Prop where
  within : leg.appliedMinor ≤ leg.invoice.outstandingTxnMinor
  same : leg.sameCurrency = true → leg.paymentAmountMinor = leg.appliedMinor
  amount : 0 ≤ leg.appliedMinor
  applied : Converts leg.invoice.conversion leg.appliedMinor
  paid : Converts payment leg.paymentAmountMinor
  residue : LeavesUnit leg.invoice.conversion
    (leg.invoice.outstandingTxnMinor - leg.appliedMinor)

theorem FxFacts.shared {db : CollectDb} {k k' : String} {c c' : SettlementConversion}
    (h : FxFacts db k c) (h' : FxFacts db k' c') : c'.baseExponent = c.baseExponent :=
  Option.some.inj (h'.baseExponent.symm.trans h.baseExponent)

/-- **One turn of the loop** accepts exactly the figures of the planned leg. -/
theorem recomputeAllocation_eq_ok {db : CollectDb} {currency : String}
    {payment : SettlementConversion} {a : CollectAllocation} {leg : CustomerPaymentLegInput}
    {i : InvoiceRow} {f : AllocationFigures} {pb : ℤ} (hpay : FxFacts db currency payment)
    (h : LegOf db currency a leg i) :
    recomputeAllocation db currency payment.rate a f (some leg.invoice.outstandingTxnMinor) =
        .ok pb ↔
      LegRecomputed leg payment ∧ planFigures (leg.allocation payment).plan = f ∧
        payment.base leg.paymentAmountMinor = pb := by
  obtain ⟨hmem, _⟩ := Table.find?_eq_some.mp h.stored
  have hbounds := ReceivableDb.outstandingOf_bounds hmem
  rw [← h.outstanding, ← h.total_txn] at hbounds
  have ht : IsMinor 1 leg.invoice.totalTxnMinor := h.total_txn ▸ i.total_txn
  have hb : IsMinor 1 leg.invoice.totalBaseMinor := h.total_base ▸ i.total_base
  have hsame : leg.sameCurrency = true ↔ currency = i.currencyCode := by
    rw [h.same, decide_eq_true_eq]
  have heb := h.fx.shared hpay
  have hpaid : ∀ {x b : ℤ}, supplierConvertBase x payment.rate payment.txnExponent
      leg.invoice.conversion.baseExponent = .ok b ↔ IsBigint (payment.base x) ∧ payment.base x = b :=
    fun {_ _} => heb ▸ supplierConvertBase_eq_ok hpay.valid
  unfold recomputeAllocation
  simp only [h.stored, h.rate, ← h.total_txn, ← h.total_base, ← h.paid, ← h.applied,
    h.fx.txnExponent, hpay.txnExponent, hpay.baseExponent, heb, someOr_some, ok_bind, bind_eq_ok,
    refuseIf_eq_ok, exists_const, ← hsame, hpaid,
    supplierConvertBase_eq_ok h.fx.valid, residueGuard_eq_ok h.fx.valid,
    supplierApRelease_minor_eq_ok ht hb, pure_eq_ok, Option.mem_some_iff, exists_eq_left', gt_iff_lt,
    not_lt, not_and, not_or, ne_eq, not_not]
  constructor
  · intro hok
    obtain ⟨hwithin, hsame', rel, ⟨⟨_, ha, _⟩, rfl⟩, _, ⟨hafit, rfl⟩, _, ⟨hpfit, rfl⟩,
      ⟨hane, hpne⟩, hres, ⟨hx, hrel, hdust, hbase, hreal⟩, rfl⟩ := hok
    refine ⟨⟨hwithin, hsame', ha, ⟨hafit, hane⟩, ⟨hpfit, hpne⟩, hres⟩, ?_, rfl⟩
    cases f
    cases hx
    cases hrel
    cases hdust
    cases hbase
    cases hreal
    rfl
  · intro hok
    obtain ⟨hr, rfl, rfl⟩ := hok
    exact ⟨hr.within, hr.same, _, ⟨⟨sub_nonneg.mpr hbounds.2, hr.amount, by have := hr.within; omega⟩,
      rfl⟩, _, ⟨hr.applied.fits, rfl⟩, _, ⟨hr.paid.fits, rfl⟩,
      ⟨hr.applied.nonzero, hr.paid.nonzero⟩, hr.residue, ⟨rfl, rfl, rfl, rfl, rfl⟩, rfl⟩

/-! ## 4. The whole recomputation -/

/-- **The loop** accepts exactly the figures of the planned legs, with the sum of their bases. -/
theorem recomputeLoop_eq_ok {db : CollectDb} {currency : String} {payment : SettlementConversion}
    (hpay : FxFacts db currency payment) {as : List CollectAllocation}
    {legs : List CustomerPaymentLegInput}
    (hlegs : List.Forall₂ (fun a leg => ∃ i, LegOf db currency a leg i) as legs)
    {fs : List AllocationFigures} (hlen : fs.length = as.length) {s : ℤ} :
    recomputeLoop db currency payment.rate (legs.map (·.invoice.outstandingTxnMinor)) (as.zip fs) =
        .ok s ↔
      (∀ leg ∈ legs, LegRecomputed leg payment) ∧
        legs.map (fun leg => planFigures (leg.allocation payment).plan) = fs ∧
        (legs.map fun leg => payment.base leg.paymentAmountMinor).sum = s := by
  have hzip : (as.zip fs).length = (legs.map (·.invoice.outstandingTxnMinor)).length := by
    rw [List.length_zip, List.length_map, hlen, min_self, hlegs.length_eq]
  -- The induction is on the allocations, from any sum on.
  have hrest : ∀ (fs : List AllocationFigures) (s₀ s : ℤ), fs.length = as.length →
      (((as.zip fs).zip (legs.map (·.invoice.outstandingTxnMinor))).foldlM (fun sumPb p => do
        let pb ← recomputeAllocation db currency payment.rate p.1.1 p.1.2 (some p.2)
        pure (sumPb + pb)) s₀ = .ok s ↔
      (∀ leg ∈ legs, LegRecomputed leg payment) ∧
        legs.map (fun leg => planFigures (leg.allocation payment).plan) = fs ∧
        s₀ + (legs.map fun leg => payment.base leg.paymentAmountMinor).sum = s) := by
    clear hzip hlen
    induction hlegs with
    | nil =>
        intro fs s₀ s hlen
        obtain rfl := List.length_eq_zero_iff.mp hlen
        simp
    | cons hleg _ ih =>
        intro fs s₀ s hlen
        obtain ⟨i, hi⟩ := hleg
        cases fs with
        | nil => cases hlen
        | cons f fs =>
            simp only [List.zip_cons_cons, List.map_cons, List.foldlM_cons, bind_eq_ok, pure_eq_ok,
              recomputeAllocation_eq_ok hpay hi, ih fs _ _ (Nat.succ.inj hlen), List.forall_mem_cons,
              List.cons.injEq, List.sum_cons, ← add_assoc]
            constructor
            · intro h
              obtain ⟨_, ⟨_, ⟨hr, hf, rfl⟩, rfl⟩, hrs, hfs, hs⟩ := h
              exact ⟨⟨hr, hrs⟩, ⟨hf, hfs⟩, hs⟩
            · intro h
              obtain ⟨⟨hr, hrs⟩, ⟨hf, hfs⟩, hs⟩ := h
              exact ⟨_, ⟨_, ⟨hr, hf, rfl⟩, rfl⟩, hrs, hfs, hs⟩
  have hloop := foldlM_zipIdx_getElem? (f := fun (sumPb : ℤ)
    (p : CollectAllocation × AllocationFigures) (o : Option ℤ) => (do
      let pb ← recomputeAllocation db currency payment.rate p.1 p.2 o
      pure (sumPb + pb) : Routine ℤ)) hzip 0
  unfold recomputeLoop
  rw [hloop, hrest fs 0 s hlen, zero_add]

/-- The figures a plan signs. -/
def paymentFigures (p : CustomerPaymentPlan) (creditId : Uuid) : CollectFigures where
  allocations := p.allocations.map planFigures
  creditId := p.credit.map fun _ => creditId
  creditAmountMinor := p.credit.map (·.originalAmountMinor)
  creditCarryingBaseMinor := p.credit.map (·.originalCarryingBaseMinor)
  baseAmountMinor := p.baseAmountMinor

/-- The surplus credit of the figures is recomputed. -/
theorem recomputeCredit_eq_ok {db : CollectDb} {currency : String} {payment : SettlementConversion}
    (hpay : FxFacts db currency payment) {f : CollectFigures} {cb : ℤ} :
    recomputeCredit db currency payment.rate f = .ok cb ↔
      (f.creditId = none ∧ 0 = cb) ∨ (f.creditId ≠ none ∧ ∃ amount, f.creditAmountMinor = some amount ∧
        Converts payment amount ∧ payment.base amount = cb ∧
          ∀ c ∈ f.creditCarryingBaseMinor, c = cb) := by
  unfold recomputeCredit
  by_cases hid : f.creditId = none
  · simp [hid]
  · simp only [hid, if_false, false_and, false_or, ne_eq, not_false_eq_true, true_and, bind_eq_ok,
      someOr_eq_ok, hpay.txnExponent, hpay.baseExponent, someOr_some, ok_bind,
      supplierConvertBase_eq_ok hpay.valid, refuseIf_eq_ok, exists_const, pure_eq_ok, not_exists,
      not_and, not_not]
    constructor
    · intro h
      obtain ⟨amount, hamount, _, ⟨hfit, rfl⟩, hne, hall, rfl⟩ := h
      exact ⟨amount, hamount, ⟨hfit, hne⟩, rfl, hall⟩
    · intro h
      obtain ⟨amount, hamount, hconv, rfl, hall⟩ := h
      exact ⟨amount, hamount, _, ⟨hconv.fits, rfl⟩, hconv.nonzero, hall, rfl⟩

/-- The invoices of the legs, what they owe, and how the single form answers it. -/
theorem legs_outstanding {db : CollectDb} {currency : String} {as : List CollectAllocation}
    {legs : List CustomerPaymentLegInput}
    (h : List.Forall₂ (fun a leg => ∃ i, LegOf db currency a leg i) as legs) :
    ∃ is : List InvoiceRow,
      List.Forall₂ (fun id i => db.invoices.find? id = some i) (as.map (·.invoiceId)) is ∧
      (is.map fun i => (db.outstandingOf i).outstandingTxnMinor) =
        legs.map (·.invoice.outstandingTxnMinor) ∧
      List.Forall₂ (fun id o => ∃ paid base left,
        invoiceOutstandingOne db.toReceivableDb id = .ok [(paid, base, o, left)])
        (as.map (·.invoiceId)) (legs.map (·.invoice.outstandingTxnMinor)) := by
  induction h with
  | nil => exact ⟨[], .nil, rfl, .nil⟩
  | cons hleg _ ih =>
      obtain ⟨i, hi⟩ := hleg
      obtain ⟨is, his, hmap, hone⟩ := ih
      obtain ⟨hmem, hid⟩ := Table.find?_eq_some.mp hi.stored
      refine ⟨i :: is, .cons hi.stored his, ?_, .cons ?_ hone⟩
      · rw [List.map_cons, List.map_cons, hmap, hi.outstanding]
      · simp only [← hid, hi.outstanding]
        exact ⟨_, _, _, invoiceOutstandingOne_eq_ok hmem⟩

/-- **The array** of a planned payment holds what each leg's invoice owes. -/
theorem PlannedFrom.outstandings {db : CollectDb} {q : CollectRequest}
    {input : CustomerPaymentInput} (h : PlannedFrom db q input) :
    allocatedOutstandings db.toReceivableDb (q.allocations.map (·.invoiceId)) =
      .ok (input.legs.map (·.invoice.outstandingTxnMinor)) := by
  obtain ⟨is, his, hmap, _⟩ := legs_outstanding h.legs
  rw [← hmap]
  exact allocatedOutstandings_eq his

/-- **What the recomputation asks** of figures, one for each allocation. -/
theorem collectRecompute_eq_ok {db : CollectDb} {q : CollectRequest} {input : CustomerPaymentInput}
    (h : PlannedFrom db q input) {f : CollectFigures}
    (hlen : f.allocations.length = q.allocations.length) {u : Unit} :
    collectRecompute db input.payment.rate q f = .ok u ↔
      (∀ leg ∈ input.legs, LegRecomputed leg input.payment) ∧
        input.legs.map (fun leg => planFigures (leg.allocation input.payment).plan) =
          f.allocations ∧
        ∃ cb, recomputeCredit db q.currencyCode input.payment.rate f = .ok cb ∧
          input.allocatedBase + cb = f.baseAmountMinor := by
  unfold collectRecompute
  simp only [h.outstandings, ok_bind, bind_eq_ok, recomputeLoop_eq_ok h.fx h.legs hlen,
    refuseIf_eq_ok, ne_eq, not_not]
  constructor
  · intro hok
    obtain ⟨_, ⟨hr, hf, rfl⟩, cb, hcb, hbase⟩ := hok
    exact ⟨hr, hf, cb, hcb, hbase⟩
  · intro hok
    obtain ⟨hr, hf, cb, hcb, hbase⟩ := hok
    exact ⟨_, ⟨hr, hf, rfl⟩, cb, hcb, hbase⟩

/-! ## 5. The figures of a plan -/

/-- The conversions the routine repeats fit a BIGINT: of each applied amount, of what it leaves, and
    of the payment, which is over all its parts. -/
structure PaymentFits (i : CustomerPaymentInput) : Prop where
  applied : ∀ leg ∈ i.legs, IsBigint (leg.invoice.conversion.base leg.appliedMinor)
  left : ∀ leg ∈ i.legs, leg.appliedMinor < leg.invoice.outstandingTxnMinor →
    IsBigint (leg.invoice.conversion.base (leg.invoice.outstandingTxnMinor - leg.appliedMinor))
  base : IsBigint i.plan.baseAmountMinor

theorem isBigint_of_within {v : ℤ} (h : -(2 ^ 63 - 1) - 1 ≤ v ∧ v ≤ 2 ^ 63 - 1) : IsBigint v := by
  constructor <;> omega

/-- What the plan of a lawful payment signs are BIGINTs where its conversions are. -/
theorem bigintArguments_of_fits {db : CollectDb} {q : CollectRequest} {input : CustomerPaymentInput}
    (h : PlannedFrom db q input) (hl : input.Lawful) (hfits : PaymentFits input) (creditId : Uuid) :
    ∀ v ∈ bigintArguments q (paymentFigures input.plan creditId), IsBigint v := by
  have hamount : IsBigint q.amountMinor := h.amount ▸ hl.amount_minor.bigint zero_le_one
  have hlegs : ∀ a ∈ q.allocations, IsBigint a.paymentAmountMinor ∧ IsBigint a.appliedMinor := by
    intro a ha
    obtain ⟨leg, hleg, i, hi⟩ := forall₂_target h.legs ha
    have hlaw := hl.legs leg hleg
    have happlied : IsMinor 0 a.appliedMinor := hi.applied ▸
      ⟨hlaw.applied_pos.le, hlaw.applied_le.trans hlaw.range.outstanding.2⟩
    have hpaid : IsMinor 1 a.paymentAmountMinor := hi.paid ▸ hlaw.payment_minor
    exact ⟨hpaid.bigint zero_le_one, happlied.bigint le_rfl⟩
  have hcredit : ∀ c ∈ input.plan.credit,
      IsBigint c.originalAmountMinor ∧ IsBigint c.originalCarryingBaseMinor := by
    intro c hc
    by_cases hs : 0 < input.surplus
    · simp only [CustomerPaymentInput.plan, hs, if_true, Option.mem_some_iff] at hc
      obtain rfl := hc
      exact ⟨(hl.creation hs).surplus_minor.bigint zero_le_one,
        (hl.creation hs).carrying_minor.bigint zero_le_one⟩
    · simp [CustomerPaymentInput.plan, hs] at hc
  have hfigures : ∀ leg ∈ input.legs, ∀ v ∈ (leg.allocation input.payment).plan.figures,
      IsBigint v := by
    intro leg hleg v hv
    refine isBigint_of_within (hl.figures_within (by decide) (by have := hfits.base.2; omega) hleg ?_
      v hv)
    have hconv := (hfits.applied leg hleg).2
    have hrel := (hl.legs leg hleg).range.release_bounds (hl.legs leg hleg).applied_pos
      (hl.legs leg hleg).applied_le
    show -(2 ^ 63 - 1) - 1 ≤ (leg.invoice.ap.side leg.appliedMinor).carryingReleasedMinor -
      leg.invoice.conversion.base leg.appliedMinor
    have hrel0 : 0 ≤ (leg.invoice.ap.side leg.appliedMinor).carryingReleasedMinor := hrel.1
    omega
  intro v hv
  simp only [bigintArguments, paymentFigures, List.mem_append, List.mem_cons, List.not_mem_nil,
    or_false, Option.mem_toList, Option.map_eq_some_iff, List.mem_flatMap, or_assoc] at hv
  rcases hv with rfl | rfl | ⟨c, hc, rfl⟩ | ⟨c, hc, rfl⟩ | ⟨a, ha, rfl | rfl⟩ | ⟨f, hf, hv⟩
  · exact hamount
  · exact hfits.base
  · exact (hcredit c hc).1
  · exact (hcredit c hc).2
  · exact (hlegs a ha).1
  · exact (hlegs a ha).2
  · obtain ⟨p, hp, rfl⟩ := List.mem_map.mp hf
    obtain ⟨leg, hleg, rfl⟩ := List.mem_map.mp hp
    refine hfigures leg hleg v ?_
    simpa [CustomerPaymentAllocationPlan.figures, planFigures] using hv

/-- **The recomputation accepts the figures of a plan** exactly when its conversions fit. -/
theorem collectRecompute_plan {db : CollectDb} {q : CollectRequest} {input : CustomerPaymentInput}
    (h : PlannedFrom db q input) (hl : input.Lawful) (creditId : Uuid) :
    (∀ v ∈ bigintArguments q (paymentFigures input.plan creditId), IsBigint v) ∧
        collectRecompute db q.rate q (paymentFigures input.plan creditId) = .ok () ↔
      PaymentFits input := by
  have hlen : (paymentFigures input.plan creditId).allocations.length = q.allocations.length := by
    rw [h.legs.length_eq]
    simp [paymentFigures, CustomerPaymentInput.plan]
  rw [h.rate, collectRecompute_eq_ok h hlen]
  constructor
  · intro hok
    obtain ⟨hargs, hr, _, _⟩ := hok
    refine ⟨fun leg hleg => (hr leg hleg).applied.fits, fun leg hleg hlt => ?_, ?_⟩
    · exact ((hr leg hleg).residue (sub_pos.mpr hlt)).1
    · exact hargs _ (by simp [bigintArguments, paymentFigures])
  · intro hfits
    refine ⟨bigintArguments_of_fits h hl hfits creditId, fun leg hleg => ?_, ?_, ?_⟩
    · have hlaw := hl.legs leg hleg
      obtain ⟨hpb0, hpb⟩ := hl.payment_base_bounds hleg
      have hpaid : IsBigint (input.payment.base leg.paymentAmountMinor) := by
        have := hfits.base.2
        constructor <;> omega
      refine ⟨hlaw.applied_le, hlaw.same, hlaw.applied_pos.le, ⟨hfits.applied leg hleg,
        hlaw.converted⟩, ⟨hpaid, hlaw.payment_converted⟩, fun hleft => ?_⟩
      refine ⟨hfits.left leg hleg (sub_pos.mp hleft), ?_⟩
      rcases Inventory.strands_eq_ok.mp hlaw.residue with ⟨hle, _⟩ | ⟨_, _, _, hb⟩
      · exact absurd hleft hle.not_gt
      · exact of_decide_eq_false hb.symm
    · rw [paymentFigures, CustomerPaymentInput.plan, List.map_map]
      rfl
    · refine ⟨if 0 < input.surplus then input.payment.base input.surplus else 0,
        (recomputeCredit_eq_ok h.fx).mpr ?_, rfl⟩
      by_cases hs : 0 < input.surplus
      · have hcarry := (hl.creation hs).carrying_minor
        have hne : input.payment.base input.surplus ≠ 0 := by
          have hone : 1 ≤ input.payment.base input.surplus := hcarry.1
          omega
        refine .inr ⟨?_, input.surplus, ?_, ⟨hcarry.bigint zero_le_one, hne⟩, ?_, ?_⟩
        · simp [paymentFigures, CustomerPaymentInput.plan, hs]
        · simp only [paymentFigures, CustomerPaymentInput.plan, hs, if_true]
          rfl
        · rw [if_pos hs]
        · intro c hc
          simp only [paymentFigures, CustomerPaymentInput.plan, hs, if_true] at hc ⊢
          exact (Option.some.inj hc).symm
      · refine .inl ⟨?_, ?_⟩
        · simp [paymentFigures, CustomerPaymentInput.plan, hs]
        · rw [if_neg hs]

/-! ## 6. Refused payments -/

/-- The rate the recomputation converts at is the one the arguments name. -/
theorem collectRate_eq {db : CollectDb} {cat : CollectCatalog} {q : CollectRequest} {rate : ℚ}
    (h : collectRate db cat q = .ok rate) : rate = q.rate := by
  simp only [collectRate, bind_eq_ok, refuseIf_eq_ok, exists_const, pure_eq_ok, not_or, ne_eq,
    not_not] at h
  obtain ⟨_, fx, _, hsame, rfl⟩ := h
  exact hsame.2.1.symm

/-- **A payment the routine accepts gives no reason for a refusal**, whatever figures were
    signed. -/
theorem sound_of_collected {db : CollectDb} {cat : CollectCatalog} {q : CollectRequest}
    {f : CollectFigures} {input : CustomerPaymentInput} (h : PlannedFrom db q input)
    (hok : customerCollectPayment db cat q f = .ok ()) : input.Sound := by
  simp only [customerCollectPayment, bind_eq_ok] at hok
  obtain ⟨_, _, _, hshape, _, _, _, _, _, _, _, _, _, _, rate, hrate, hrec⟩ := hok
  obtain rfl := collectRate_eq hrate
  simp only [collectShape, bind_eq_ok, refuseIf_eq_ok, exists_const, not_or, not_exists, not_and,
    not_le, ne_eq, not_not] at hshape
  obtain ⟨⟨_, hlen, _⟩, hid, _, hcreditPos, _, hclosure⟩ := hshape
  rw [h.rate, collectRecompute_eq_ok h hlen] at hrec
  obtain ⟨hr, _, cb, hcb, _⟩ := hrec
  have hallocated : (q.allocations.map (·.paymentAmountMinor)).sum = input.allocated := by
    have hpaid : List.Forall₂ (fun a leg => a.paymentAmountMinor = leg.paymentAmountMinor)
        q.allocations input.legs := h.legs.imp fun _ _ hleg => hleg.choose_spec.paid.symm
    have hmap := List.forall₂_map_left_iff.mpr (List.forall₂_map_right_iff.mpr hpaid)
    rw [List.forall₂_eq_eq_eq] at hmap
    rw [hmap]
    rfl
  rw [hallocated, ← h.amount] at hclosure
  have hcredit : 0 ≤ f.creditAmountMinor.getD 0 := by
    cases hc : f.creditAmountMinor with
    | none => exact le_rfl
    | some c => exact (hcreditPos c hc).le
  refine ⟨fun leg hleg => ?_, by omega, fun hs => ?_⟩
  · have hleg := hr leg hleg
    refine ⟨hleg.within, hleg.same, hleg.applied.nonzero, hleg.paid.nonzero, fun hstr => ?_⟩
    exact (hleg.residue hstr.1).2 hstr.2
  · have hsurplus : input.surplus = f.creditAmountMinor.getD 0 := by
      unfold CustomerPaymentInput.surplus
      omega
    rcases (recomputeCredit_eq_ok h.fx).mp hcb with ⟨hnone, _⟩ | ⟨_, amount, hamount, hconv, _⟩
    · rw [hid.mp hnone, Option.getD_none] at hsurplus
      omega
    · rw [hsurplus, hamount, Option.getD_some]
      exact hconv.nonzero

/-! ## 7. The agreement -/

/-- **The plan of a payment against the recomputation.** Its figures pass exactly when its
    conversions fit a BIGINT; what it refuses for an amount, the routine refuses whatever the
    figures; and the array element of an allocation is what its own invoice owes. -/
theorem collect_plan_recomputed {db : CollectDb} {q : CollectRequest} {input : CustomerPaymentInput}
    (h : PlannedFrom db q input) :
    (∀ plan creditId, planCustomerPayment input = .ok plan →
      ((∀ v ∈ bigintArguments q (paymentFigures plan creditId), IsBigint v) ∧
        collectRecompute db q.rate q (paymentFigures plan creditId) = .ok () ↔
          PaymentFits input)) ∧
    (∀ e cat f, planCustomerPayment input = .error e → e.OfAmounts →
      customerCollectPayment db cat q f ≠ .ok ()) ∧
    ∃ outs, allocatedOutstandings db.toReceivableDb (q.allocations.map (·.invoiceId)) = .ok outs ∧
      List.Forall₂ (fun id o => ∃ paid base left,
        invoiceOutstandingOne db.toReceivableDb id = .ok [(paid, base, o, left)])
        (q.allocations.map (·.invoiceId)) outs := by
  refine ⟨fun plan creditId hplan => ?_, fun e cat f he hof hok => ?_, ?_⟩
  · obtain ⟨hl, rfl⟩ := planCustomerPayment_eq_ok.mp hplan
    exact collectRecompute_plan h hl creditId
  · exact planCustomerPayment_refuses input e he hof (sound_of_collected h hok)
  · obtain ⟨_, _, _, hone⟩ := legs_outstanding h.legs
    exact ⟨_, h.outstandings, hone⟩

/-! ## 8. A payment of two invoices -/

section Sample

def sampleId (d : ℕ) : Uuid := .sample d

/-- An open invoice of 1000 in EUR at rate 2. -/
def sampleInvoice (d : ℕ) : InvoiceRow where
  id := sampleId d
  saleId := sampleId 7
  customerId := some (sampleId 8)
  status := .issued
  issueDate := 20000
  dueDate := none
  currencyCode := "EUR"
  totalTxnMinor := 1000
  totalBaseMinor := 2000
  sourceToBaseRate := 2
  total_txn := by decide
  total_base := by decide

/-- Two invoices, 300 of the second paid. -/
def sampleDb : CollectDb where
  invoices := ⟨[sampleInvoice 1, sampleInvoice 2], by decide +kernel⟩
  sales := ⟨[⟨sampleId 7, .credit⟩], List.nodup_singleton _⟩
  paymentAllocations := [⟨sampleId 2, 300, 600⟩]
  customerCreditApplications := []
  sale_fk := by decide +kernel
  fits := by decide +kernel
  settled := by decide +kernel
  baseCurrency := "USD"
  currencies := ⟨[⟨"USD", 2⟩, ⟨"EUR", 2⟩, ⟨"GBP", 2⟩], by decide +kernel⟩
  customers := ⟨[⟨sampleId 8, true⟩], List.nodup_singleton _⟩
  paymentMethods := ⟨[⟨sampleId 9, true, sampleId 0, false⟩], List.nodup_singleton _⟩
  allocationIds := []
  creditIds := []

/-- A payment of 700 to the second invoice and of 400 to the first. -/
def sampleRequest (currency : String) (rate : ℚ) (amount second first : ℤ) : CollectRequest where
  customerId := sampleId 8
  paymentMethodId := sampleId 9
  postingAccountId := sampleId 0
  paymentDate := 20001
  currencyCode := currency
  amountMinor := amount
  rateId := none
  rate := rate
  rateSource := "base"
  rateAt := 20001 * 86400
  reference := none
  allocations := [⟨sampleId 3, sampleId 2, "EUR", second, 700⟩,
    ⟨sampleId 4, sampleId 1, "EUR", first, 400⟩]

def sampleConversion (rate : ℕ) : SettlementConversion := ⟨rate * 10000000000, 2, 2⟩

def sampleLeg (outstanding paid applied : ℤ) : CustomerPaymentLegInput where
  invoice := ⟨1000, 2000, outstanding, sampleConversion 2⟩
  sameCurrency := false
  paymentAmountMinor := paid
  appliedMinor := applied

def sampleInput (rate : ℕ) (amount second first : ℤ) : CustomerPaymentInput :=
  ⟨amount, sampleConversion rate, [sampleLeg 700 second 700, sampleLeg 1000 first 400]⟩

theorem sample_valid : ∀ rate ∈ [1, 2, 10], (sampleConversion rate).Valid := by
  unfold SettlementConversion.Valid
  decide

theorem sample_minorUnits : ∀ currency ∈ ["USD", "EUR", "GBP"],
    sampleDb.minorUnits currency = some 2 := by decide +kernel

theorem sample_fx {currency : String} {rate : ℕ} (hrate : (sampleConversion rate).Valid)
    (h : sampleDb.minorUnits currency = some 2) :
    FxFacts sampleDb currency (sampleConversion rate) :=
  ⟨hrate, h, sample_minorUnits "USD" (by decide)⟩

theorem sample_planned {currency : String} {rate : ℕ} (hrate : (sampleConversion rate).Valid)
    (h : sampleDb.minorUnits currency = some 2) (hne : currency ≠ "EUR") (amount second first : ℤ) :
    PlannedFrom sampleDb
      (sampleRequest currency (sampleConversion rate).rate amount second first)
      (sampleInput rate amount second first) := by
  have heuro : ∀ d : ℕ, sampleInvoice d ∈ sampleDb.invoices.rows →
      ∀ (id : Uuid) (outstanding paid applied : ℤ),
        outstanding = (sampleDb.outstandingOf (sampleInvoice d)).outstandingTxnMinor →
        LegOf sampleDb currency ⟨id, sampleId d, "EUR", paid, applied⟩
          (sampleLeg outstanding paid applied) (sampleInvoice d) := by
    intro d hd id outstanding paid applied ho
    exact
      { stored := Table.find?_of_mem hd, total_txn := rfl, total_base := rfl, outstanding := ho
        rate := by
          show (2 : ℚ) = (sampleConversion 2).rate
          decide +kernel
        fx := sample_fx (sample_valid 2 (by decide)) (sample_minorUnits "EUR" (by decide))
        same := (decide_eq_false hne).symm, paid := rfl, applied := rfl }
  refine ⟨rfl, rfl, sample_fx hrate h, .cons ⟨sampleInvoice 2, ?_⟩ (.cons ⟨sampleInvoice 1, ?_⟩ .nil)⟩
  · exact heuro 2 (List.mem_cons_of_mem _ List.mem_cons_self) _ _ _ _ (by decide +kernel)
  · exact heuro 1 List.mem_cons_self _ _ _ _ (by decide +kernel)

end Sample

/-- A payment of 2400 in the base currency, 100 of it a surplus. -/
theorem collect_plan_recomputed_sample :
    collectRecompute sampleDb 1 (sampleRequest "USD" 1 2400 1400 900)
      (paymentFigures (sampleInput 1 2400 1400 900).plan (sampleId 5)) = .ok () := by
  have hrate : (sampleConversion 1).rate = 1 := by decide +kernel
  have hplanned := sample_planned (sample_valid 1 (by decide)) (sample_minorUnits "USD" (by decide))
    (by decide) 2400 1400 900
  rw [hrate] at hplanned
  have hplan : planCustomerPayment (sampleInput 1 2400 1400 900) =
      .ok (sampleInput 1 2400 1400 900).plan := by decide +kernel
  have hfits : PaymentFits (sampleInput 1 2400 1400 900) :=
    ⟨by decide +kernel, by decide +kernel, by decide +kernel⟩
  exact (((collect_plan_recomputed hplanned).1 _ (sampleId 5) hplan).mpr hfits).2

/-- **A plan whose figures do not pass**: 10^18 paid at rate 10 has no BIGINT base. -/
theorem not_every_plan_recomputed :
    ¬ ∀ (db : CollectDb) (q : CollectRequest) (input : CustomerPaymentInput)
      (plan : CustomerPaymentPlan) (creditId : Uuid), PlannedFrom db q input →
      planCustomerPayment input = .ok plan →
      collectRecompute db q.rate q (paymentFigures plan creditId) = .ok () := by
  intro hall
  have hplanned := sample_planned (sample_valid 10 (by decide)) (sample_minorUnits "GBP" (by decide))
    (by decide) (10 ^ 18) (10 ^ 18 - 1) 1
  have hplan : planCustomerPayment (sampleInput 10 (10 ^ 18) (10 ^ 18 - 1) 1) =
      .ok (sampleInput 10 (10 ^ 18) (10 ^ 18 - 1) 1).plan := by decide +kernel
  have hpass := hall _ _ _ _ (sampleId 5) hplanned hplan
  have hfails : collectRecompute sampleDb (sampleConversion 10).rate
      (sampleRequest "GBP" (sampleConversion 10).rate (10 ^ 18) (10 ^ 18 - 1) 1)
      (paymentFigures (sampleInput 10 (10 ^ 18) (10 ^ 18 - 1) 1).plan (sampleId 5)) =
      .error .bigintOutOfRange := by decide +kernel
  exact absurd (hfails.symm.trans hpass) nofun

end Daftar.Inventory.Receivables
