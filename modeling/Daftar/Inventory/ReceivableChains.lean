/-
  File: Daftar/Inventory/ReceivableChains.lean
  Subject: Invoices and customer credits over any mixture of payments and credit applications.

  * `Receivables` are the terms of every invoice and every credit, `ReceivableBook` what is left of
    each and the releases stored so far.
  * `ReceivableStep` is one accepted plan, computed at the book the ones before it left.
  * `InvoiceExact` and `CreditExact` are the two invariants: what was released is the share of what
    was settled, and what is owed can still be cleared.
  * `receivableChain_exact`: in every book any run reaches both hold, and every accepted payment
    closes in both currencies.
-/

import Daftar.Inventory.CustomerPayment
import Daftar.Inventory.Residues

namespace Daftar.Inventory.Customer

open Fallible
open Rounding
open Runs

/-! ## 1. Books -/

/-- The totals of an invoice with its snapshot. -/
structure InvoiceTerms where
  txn : ℤ
  base : ℤ
  conversion : ReceivableConversion
  txn_minor : IsMinor 1 txn
  base_minor : IsMinor 0 base

/-- The original pair of a customer credit with its snapshot. -/
structure CustomerCreditTerms where
  original : ℤ
  carrying : ℤ
  conversion : ReceivableConversion
  original_minor : IsMinor 1 original
  carrying_minor : IsMinor 1 carrying

/-- The invoice as a planner reads it at an outstanding amount, the credit at a remaining one. -/
def InvoiceTerms.at (t : InvoiceTerms) (o : ℤ) : InvoiceArState := ⟨t.txn, t.base, o, t.conversion⟩

def CustomerCreditTerms.at (t : CustomerCreditTerms) (rb : ℤ) : CustomerCreditState :=
  ⟨t.original, t.carrying, rb, t.conversion⟩

structure Receivables (ι ν : Type) where
  invoice : ι → InvoiceTerms
  credit : ν → CustomerCreditTerms

/-- What an invoice still owes and what its reducers released, oldest first. -/
structure InvoiceLevel where
  outstanding : ℤ
  releases : List ℤ

/-- The remaining pair of a credit and what its consumers released, oldest first. -/
structure CreditLevel where
  remaining : ℤ
  carrying : ℤ
  releases : List ℤ

structure ReceivableBook (ι ν : Type) where
  invoice : ι → InvoiceLevel
  credit : ν → CreditLevel

section Book

variable {ι ν : Type}

/-- Everything owed, nothing consumed. -/
def ReceivableBook.start (r : Receivables ι ν) : ReceivableBook ι ν where
  invoice i := ⟨(r.invoice i).txn, []⟩
  credit c := ⟨(r.credit c).original, (r.credit c).carrying, []⟩

variable [DecidableEq ι] [DecidableEq ν]

/-- Stores what one reducer took off an invoice. -/
def ReceivableBook.reduce (b : ReceivableBook ι ν) (i : ι) (ar : ArSide) : ReceivableBook ι ν :=
  let l := b.invoice i
  ⟨Function.update b.invoice i ⟨l.outstanding - ar.invoiceAmountAppliedMinor,
    l.releases ++ [ar.invoiceCarryingReleasedMinor]⟩, b.credit⟩

/-- Stores what one consumer left of a credit. -/
def ReceivableBook.consume (b : ReceivableBook ι ν) (c : ν) (cr : CreditSide) :
    ReceivableBook ι ν :=
  ⟨b.invoice, Function.update b.credit c ⟨cr.remainingAfterMinor, cr.remainingCarryingAfterMinor,
    (b.credit c).releases ++ [cr.creditCarryingReleasedMinor]⟩⟩

end Book

/-- A command on the book: a payment allocated to an invoice, or a credit applied to one. -/
inductive ReceivableCommand (ι ν : Type)
  | payment (i : ι) (input : CustomerPaymentAllocationInput)
  | application (i : ι) (c : ν) (input : CustomerCreditApplicationInput)

/-- One accepted plan, computed at what the book says of the invoice and the credit it names. -/
inductive ReceivableStep {ι ν : Type} [DecidableEq ι] [DecidableEq ν] (r : Receivables ι ν) :
    ReceivableBook ι ν → ReceivableCommand ι ν → ReceivableBook ι ν → Prop
  | payment {b : ReceivableBook ι ν} {i : ι} {input : CustomerPaymentAllocationInput}
      {p : CustomerPaymentAllocationPlan}
      (hinvoice : input.invoice = (r.invoice i).at (b.invoice i).outstanding)
      (hok : planCustomerPaymentAllocation input = .ok p) :
      ReceivableStep r b (.payment i input) (b.reduce i p.toArSide)
  | application {b : ReceivableBook ι ν} {i : ι} {c : ν} {input : CustomerCreditApplicationInput}
      {p : CustomerCreditApplicationPlan}
      (hinvoice : input.invoice = (r.invoice i).at (b.invoice i).outstanding)
      (hcredit : input.credit = (r.credit c).at (b.credit c).remaining)
      (hok : planCustomerCreditApplication input = .ok p) :
      ReceivableStep r b (.application i c input) ((b.reduce i p.toArSide).consume c p.toCreditSide)

/-! ## 2. One invoice -/

/-- The releases of an invoice are the share of what was settled, and what is owed is clearable as
    soon as its total was. -/
structure InvoiceExact (t : InvoiceTerms) (l : InvoiceLevel) : Prop where
  nonneg : 0 ≤ l.outstanding
  le_total : l.outstanding ≤ t.txn
  released_nonneg : ∀ x ∈ l.releases, 0 ≤ x
  released_sum : l.releases.sum = apShare t.base t.txn (t.txn - l.outstanding)
  clearable : Convertible t.conversion t.txn → Clearable t.conversion l.outstanding

theorem invoiceExact_start (t : InvoiceTerms) : InvoiceExact t ⟨t.txn, []⟩ where
  nonneg := by
    have := t.txn_minor.1
    show 0 ≤ t.txn
    omega
  le_total := le_rfl
  released_nonneg := by simp
  released_sum := by simp
  clearable h := .inr h.one_le

/-- **A reducer past its guards keeps an invoice exact**, whichever plan it belongs to. -/
theorem InvoiceExact.reduce {t : InvoiceTerms} {l : InvoiceLevel} (hl : InvoiceExact t l) {a : ℤ}
    (hpos : 0 < a) (hle : a ≤ l.outstanding)
    (hres : Inventory.strands (l.outstanding - a) t.conversion = .ok false) :
    InvoiceExact t ⟨l.outstanding - a,
      l.releases ++ [((t.at l.outstanding).side a).invoiceCarryingReleasedMinor]⟩ := by
  have hrel : ((t.at l.outstanding).side a).invoiceCarryingReleasedMinor =
      apShare t.base t.txn (t.txn - l.outstanding + a) -
        apShare t.base t.txn (t.txn - l.outstanding) := rfl
  have htotal := hl.le_total
  refine ⟨by show 0 ≤ l.outstanding - a; omega, by show l.outstanding - a ≤ t.txn; omega, ?_, ?_,
    fun _ => clearable_of_strands (by show 0 ≤ l.outstanding - a; omega) hres⟩
  · intro x hx
    rcases List.mem_append.mp hx with hx | hx
    · exact hl.released_nonneg x hx
    · have hmono := apShare_mono t.base_minor.1 t.txn_minor.1
        (show t.txn - l.outstanding ≤ t.txn - l.outstanding + a by omega)
      rw [List.mem_singleton.mp hx, hrel]
      omega
  · show (l.releases ++ [_]).sum = apShare t.base t.txn (t.txn - (l.outstanding - a))
    rw [List.sum_append, List.sum_singleton, hl.released_sum, hrel,
      show t.txn - (l.outstanding - a) = t.txn - l.outstanding + a by omega]
    omega

/-- Paying all that is owed passes every guard, when it converts at both snapshots. -/
theorem InvoiceExact.pay_all {t : InvoiceTerms} {l : InvoiceLevel} (hl : InvoiceExact t l)
    (hstart : Convertible t.conversion t.txn) (hpos : 0 < l.outstanding) (same : Bool)
    {payment : ReceivableConversion} (hp : Convertible payment l.outstanding) :
    CustomerPaymentAllocationInput.Lawful
      ⟨t.at l.outstanding, same, l.outstanding, payment, l.outstanding⟩ := by
  have hle := hl.le_total
  have hmax := t.txn_minor.2
  have hone : 1 ≤ t.conversion.base l.outstanding := by
    rcases hl.clearable hstart with hz | h1
    · omega
    · exact h1
  have hone' := hp.one_le
  exact
    { payment_minor := ⟨hpos, hle.trans hmax⟩
      same := fun _ => rfl
      range := ⟨t.txn_minor, t.base_minor, ⟨hpos.le, hle.trans hmax⟩, hle⟩
      applied_pos := hpos
      applied_le := le_rfl
      conversion := hstart.valid
      converted := by show t.conversion.base l.outstanding ≠ 0; omega
      payment_conversion := hp.valid
      payment_converted := by show payment.base l.outstanding ≠ 0; omega
      residue := by
        show Inventory.strands (l.outstanding - l.outstanding) t.conversion = .ok false
        rw [sub_self, strands_zero] }

/-! ## 3. One credit -/

/-- The releases of a credit and its carrying value are what its remaining amount says. -/
structure CreditExact (t : CustomerCreditTerms) (l : CreditLevel) : Prop where
  nonneg : 0 ≤ l.remaining
  le_original : l.remaining ≤ t.original
  carrying_eq : l.carrying = creditKept t.original t.carrying l.remaining
  released_nonneg : ∀ x ∈ l.releases, 0 ≤ x
  released_sum : l.releases.sum = t.carrying - l.carrying

theorem creditExact_start (t : CustomerCreditTerms) :
    CreditExact t ⟨t.original, t.carrying, []⟩ where
  nonneg := by
    have := t.original_minor.1
    show 0 ≤ t.original
    omega
  le_original := le_rfl
  carrying_eq := (creditKept_original t.original_minor.1 t.carrying_minor.1).symm
  released_nonneg := by simp
  released_sum := (sub_self t.carrying).symm

/-- **A consumer past its guards keeps a credit exact.** -/
theorem CreditExact.consume {t : CustomerCreditTerms} {l : CreditLevel} (hl : CreditExact t l)
    {c : ℤ} (hpos : 0 < c) (hle : c ≤ l.remaining) :
    let cr := (t.at l.remaining).side c
    CreditExact t ⟨cr.remainingAfterMinor, cr.remainingCarryingAfterMinor,
      l.releases ++ [cr.creditCarryingReleasedMinor]⟩ := by
  have hrel : ((t.at l.remaining).side c).creditCarryingReleasedMinor =
      creditKept t.original t.carrying l.remaining -
        creditKept t.original t.carrying (l.remaining - c) := rfl
  have horiginal := hl.le_original
  refine ⟨by show 0 ≤ l.remaining - c; omega, by show l.remaining - c ≤ t.original; omega, rfl,
    ?_, ?_⟩
  · intro x hx
    rcases List.mem_append.mp hx with hx | hx
    · exact hl.released_nonneg x hx
    · have hcarry : 0 ≤ t.carrying := by
        have := t.carrying_minor.1
        omega
      have hmono := creditKept_mono t.original_minor.1 hcarry
        (show 0 ≤ l.remaining - c by omega) (show l.remaining - c ≤ l.remaining by omega)
      rw [List.mem_singleton.mp hx, hrel]
      omega
  · show (l.releases ++ [_]).sum =
      t.carrying - creditKept t.original t.carrying (l.remaining - c)
    rw [List.sum_append, List.sum_singleton, hl.released_sum, hl.carrying_eq, hrel]
    omega

/-! ## 4. All invoices and credits -/

structure ReceivableBook.Exact {ι ν : Type} (r : Receivables ι ν) (b : ReceivableBook ι ν) :
    Prop where
  invoices : ∀ i, InvoiceExact (r.invoice i) (b.invoice i)
  credits : ∀ c, CreditExact (r.credit c) (b.credit c)

section Run

variable {ι ν : Type} {r : Receivables ι ν} {b b' : ReceivableBook ι ν}

theorem receivableBook_start_exact (r : Receivables ι ν) : (ReceivableBook.start r).Exact r where
  invoices i := invoiceExact_start (r.invoice i)
  credits c := creditExact_start (r.credit c)

section Reduce

variable [DecidableEq ι]

theorem ReceivableBook.Exact.reduce (hb : b.Exact r) {i : ι} {a : ℤ} (hpos : 0 < a)
    (hle : a ≤ (b.invoice i).outstanding)
    (hres : Inventory.strands ((b.invoice i).outstanding - a) (r.invoice i).conversion =
      .ok false) :
    (b.reduce i (((r.invoice i).at (b.invoice i).outstanding).side a)).Exact r := by
  refine ⟨fun j => ?_, hb.credits⟩
  by_cases hj : j = i
  · subst hj
    simp only [ReceivableBook.reduce, Function.update_self]
    exact (hb.invoices j).reduce hpos hle hres
  · simpa only [ReceivableBook.reduce, Function.update_of_ne hj] using hb.invoices j

end Reduce

section Consume

variable [DecidableEq ν]

theorem ReceivableBook.Exact.consume (hb : b.Exact r) {c : ν} {x : ℤ} (hpos : 0 < x)
    (hle : x ≤ (b.credit c).remaining) :
    (b.consume c (((r.credit c).at (b.credit c).remaining).side x)).Exact r := by
  refine ⟨hb.invoices, fun d => ?_⟩
  by_cases hd : d = c
  · subst hd
    simpa only [ReceivableBook.consume, Function.update_self] using
      (hb.credits d).consume hpos hle
  · simpa only [ReceivableBook.consume, Function.update_of_ne hd] using hb.credits d

end Consume

theorem planCustomerCreditApplication_eq_ok {i : CustomerCreditApplicationInput}
    {p : CustomerCreditApplicationPlan} :
    planCustomerCreditApplication i = .ok p ↔ i.Lawful ∧ i.plan = p := by
  rw [planCustomerCreditApplication_eq_draft, customerCreditApplicationDraft_eq_ok]

variable [DecidableEq ι] [DecidableEq ν]

/-- **Every accepted plan keeps the book exact.** -/
theorem receivableBook_step_exact {e : ReceivableCommand ι ν} (hb : b.Exact r)
    (h : ReceivableStep r b e b') : b'.Exact r := by
  cases h with
  | payment hinvoice hok =>
    rename_i i input p
    obtain ⟨hl, rfl⟩ := planCustomerPaymentAllocation_eq_ok.mp hok
    have hle := hl.applied_le
    have hres := hl.residue
    rw [hinvoice] at hle hres
    have hplan : input.plan.toArSide =
        ((r.invoice i).at (b.invoice i).outstanding).side input.appliedMinor := by
      rw [← hinvoice]
      rfl
    rw [hplan]
    exact hb.reduce hl.applied_pos hle hres
  | application hinvoice hcredit hok =>
    rename_i i c input p
    obtain ⟨hl, rfl⟩ := planCustomerCreditApplication_eq_ok.mp hok
    have hle := hl.applied_le
    have hres := hl.residue
    have hcle := hl.consumed_le
    rw [hinvoice] at hle hres
    rw [hcredit] at hcle
    have hplan : input.plan.toArSide =
        ((r.invoice i).at (b.invoice i).outstanding).side input.appliedMinor := by
      rw [← hinvoice]
      rfl
    have hcplan : input.plan.toCreditSide =
        ((r.credit c).at (b.credit c).remaining).side input.consumedMinor := by
      rw [← hcredit]
      rfl
    rw [hplan, hcplan]
    exact (hb.reduce hl.applied_pos hle hres).consume hl.consumed_pos hcle

theorem receivableBook_run_exact {es : List (ReceivableCommand ι ν)}
    (h : Run (ReceivableStep r) (.start r) es b) : b.Exact r :=
  h.invariant (fun _ _ _ hb hstep => receivableBook_step_exact hb hstep)
    (receivableBook_start_exact r)

end Run

/-- **The receivable chain is exact over every mixture of payments and applications.** Releases are
    never negative; those of an invoice sum to the half-even share of what was settled, and to the
    whole carrying base when nothing is owed; those of a credit sum to what its carrying value lost,
    and to all of it when it is used up, while a remaining credit keeps at least one unit. An invoice
    worth at least one base unit stays clearable, and one payment of all it owes clears it. Every
    accepted payment closes in both currencies. -/
theorem receivableChain_exact {ι ν : Type} [DecidableEq ι] [DecidableEq ν]
    (r : Receivables ι ν) :
    (∀ (es : List (ReceivableCommand ι ν)) (b : ReceivableBook ι ν),
      Run (ReceivableStep r) (.start r) es b →
      (∀ i, (∀ x ∈ (b.invoice i).releases, 0 ≤ x) ∧
        roundHalfEven ((r.invoice i).base * ((r.invoice i).txn - (b.invoice i).outstanding))
          (r.invoice i).txn = .ok (b.invoice i).releases.sum ∧
        ((b.invoice i).outstanding = 0 → (b.invoice i).releases.sum = (r.invoice i).base)) ∧
      (∀ c, (∀ x ∈ (b.credit c).releases, 0 ≤ x) ∧
        creditRemainingCarrying (r.credit c).original (r.credit c).carrying
          (b.credit c).remaining = .ok (b.credit c).carrying ∧
        (b.credit c).releases.sum = (r.credit c).carrying - (b.credit c).carrying ∧
        ((b.credit c).remaining = 0 → (b.credit c).releases.sum = (r.credit c).carrying) ∧
        (0 < (b.credit c).remaining → 1 ≤ (b.credit c).carrying)) ∧
      (∀ i, Convertible (r.invoice i).conversion (r.invoice i).txn →
        0 < (b.invoice i).outstanding →
        Convertible (r.invoice i).conversion (b.invoice i).outstanding ∧
        ∀ (same : Bool) (payment : ReceivableConversion),
          Convertible payment (b.invoice i).outstanding →
          ∃ p, planCustomerPaymentAllocation ⟨(r.invoice i).at (b.invoice i).outstanding, same,
              (b.invoice i).outstanding, payment, (b.invoice i).outstanding⟩ = .ok p ∧
            (b.invoice i).outstanding - p.invoiceAmountAppliedMinor = 0)) ∧
    ∀ (i : CustomerPaymentInput) (p : CustomerPaymentPlan), planCustomerPayment i = .ok p →
      (p.allocations.map (·.paymentAmountMinor)).sum +
          ((p.credit.map (·.originalAmountMinor)).getD 0) = i.amountMinor ∧
        (p.allocations.map (·.paymentBaseMinor)).sum +
          ((p.credit.map (·.originalCarryingBaseMinor)).getD 0) = p.baseAmountMinor := by
  refine ⟨fun es b hrun => ?_, ?_⟩
  · have hb := receivableBook_run_exact hrun
    refine ⟨fun i => ?_, fun c => ?_, fun i hstart hpos => ?_⟩
    · have hi := hb.invoices i
      have ht : 0 < (r.invoice i).txn := (r.invoice i).txn_minor.1
      refine ⟨hi.released_nonneg, ?_, fun hz => ?_⟩
      · rw [roundHalfEven_pos ht, hi.released_sum]
        rfl
      · rw [hi.released_sum, hz, sub_zero, apShare_total _ ht]
    · have hc := hb.credits c
      have hmax := (r.credit c).original_minor.2
      have hle := hc.le_original
      refine ⟨hc.released_nonneg, ?_, hc.released_sum, fun hz => ?_, fun hpos => ?_⟩
      · exact creditRemainingCarrying_eq_ok.mpr ⟨(r.credit c).original_minor,
          (r.credit c).carrying_minor, ⟨hc.nonneg, by omega⟩, hle, hc.carrying_eq.symm⟩
      · rw [hc.released_sum, hc.carrying_eq, hz, creditKept_zero, sub_zero]
      · rw [hc.carrying_eq]
        exact creditKept_pos hpos
    · have hi := hb.invoices i
      have hmax := (r.invoice i).txn_minor.2
      have hle := hi.le_total
      refine ⟨⟨_, Inventory.convert_eq_ok.mpr ⟨⟨hpos.le, by omega⟩, hstart.valid, rfl⟩, ?_⟩, ?_⟩
      · rcases hi.clearable hstart with hz | h1
        · omega
        · exact h1
      · intro same payment hp
        have hl := hi.pay_all hstart hpos same hp
        exact ⟨_, planCustomerPaymentAllocation_eq_ok.mpr ⟨hl, rfl⟩, sub_self _⟩
  · intro i p hp
    obtain ⟨hl, rfl⟩ := planCustomerPayment_eq_ok.mp hp
    exact CustomerPaymentInput.plan_closes hl.allocated_le

/-- An invoice of 100 at 0.37 and a credit of 80 carrying 30, at the same rate. -/
def sampleReceivables : Receivables Unit Unit where
  invoice _ := ⟨100, 37, ⟨3700000000, 2, 2⟩, sampleTotals.txn_minor, sampleTotals.base_minor⟩
  credit _ := ⟨80, 30, ⟨3700000000, 2, 2⟩, by decide, by decide⟩

/-- 40 of the invoice are paid at 0.38, then 60 settled from the credit. -/
def sampleInvoicePayment : CustomerPaymentAllocationInput :=
  ⟨⟨100, 37, 100, ⟨3700000000, 2, 2⟩⟩, true, 40, ⟨3800000000, 2, 2⟩, 40⟩

def sampleCreditUse : CustomerCreditApplicationInput :=
  ⟨⟨100, 37, 60, ⟨3700000000, 2, 2⟩⟩, ⟨80, 30, 80, ⟨3700000000, 2, 2⟩⟩, true, 60, 60⟩

def sampleBook : ReceivableBook Unit Unit :=
  (((ReceivableBook.start sampleReceivables).reduce () sampleInvoicePayment.plan.toArSide).reduce ()
    sampleCreditUse.plan.toArSide).consume () sampleCreditUse.plan.toCreditSide

theorem sampleReceivables_run : Run (ReceivableStep sampleReceivables) (.start sampleReceivables)
    [.payment () sampleInvoicePayment, .application () () sampleCreditUse] sampleBook :=
  .cons (.payment rfl (by decide)) (.cons (.application rfl rfl (by decide)) (.nil _))

/-- A payment of 50 for 40 of the invoice, the rest of it kept as a credit. -/
def sampleCollectedPayment : CustomerPaymentInput :=
  ⟨50, ⟨3800000000, 2, 2⟩, [⟨⟨100, 37, 100, ⟨3700000000, 2, 2⟩⟩, true, 40, 40⟩]⟩

theorem receivableChain_exact_sample :
    (sampleBook.invoice ()).releases.sum = 37 ∧
      (sampleBook.credit ()).releases.sum = 30 - (sampleBook.credit ()).carrying ∧
      (sampleCollectedPayment.plan.allocations.map (·.paymentAmountMinor)).sum +
        ((sampleCollectedPayment.plan.credit.map (·.originalAmountMinor)).getD 0) = 50 :=
  have h := (receivableChain_exact sampleReceivables).1 _ _ sampleReceivables_run
  ⟨(h.1 ()).2.2 (by decide), (h.2.1 ()).2.2.1,
    ((receivableChain_exact sampleReceivables).2 sampleCollectedPayment
      sampleCollectedPayment.plan (by decide)).1⟩

end Daftar.Inventory.Customer
