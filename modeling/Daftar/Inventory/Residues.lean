/-
  File: Daftar/Inventory/Residues.lean
  Subject: No reducer leaves an obligation that cannot be cleared.

  * `Clearable c x`: the amount is zero or worth at least one base unit at the snapshot `c`. It is
    what the four residue guards protect between them (`strands_eq_false`,
    `supplierReturnLeavesSubUnitResidue_eq_false`).
  * `Owed.pay_all`, `Remaining.refund_all`: one command for the whole of a clearable amount passes
    every guard.
  * `obligations_never_stranded`: so in every reached state a purchase and a credit note can be
    cleared at once.
-/

import Daftar.Inventory.SettlementChains

namespace Daftar.Inventory

open Fallible
open Rounding
open Runs

/-! ## 1. Clearable amounts -/

/-- Nothing, or an amount that converts to at least one base unit. -/
def Clearable (c : SettlementConversion) (x : ℤ) : Prop :=
  x = 0 ∨ 1 ≤ c.base x

/-- The whole of an amount converts to at least one base unit. -/
def Convertible (c : SettlementConversion) (x : ℤ) : Prop :=
  ∃ b, convert x c = .ok b ∧ 1 ≤ b

theorem Convertible.valid {c : SettlementConversion} {x : ℤ} (h : Convertible c x) : c.Valid := by
  obtain ⟨b, hb, _⟩ := h
  exact (convert_eq_ok.mp hb).2.1

theorem Convertible.one_le {c : SettlementConversion} {x : ℤ} (h : Convertible c x) :
    1 ≤ c.base x := by
  obtain ⟨b, hb, h1⟩ := h
  rwa [(convert_eq_ok.mp hb).2.2]

theorem strands_zero (c : SettlementConversion) : strands 0 c = .ok false := rfl

theorem clearable_of_strands {c : SettlementConversion} {x : ℤ} (hx : 0 ≤ x)
    (h : strands x c = .ok false) : Clearable c x := by
  rcases strands_eq_false h with hle | ⟨_, hb⟩
  · exact .inl (le_antisymm hle hx)
  · exact .inr hb

/-- A return past the residue guard released nothing, or left a clearable amount. -/
theorem supplierReturnLeavesSubUnitResidue_eq_false {o ap : ℤ} {c : SettlementConversion}
    (h : supplierReturnLeavesSubUnitResidue o ap (fun x => convert x c) = .ok false) :
    0 ≤ ap ∧ ap ≤ o ∧ (ap = 0 ∨ Clearable c (o - ap)) := by
  unfold supplierReturnLeavesSubUnitResidue at h
  simp only [bind_eq_ok, refuseIf_eq_ok, exists_const, not_or, not_lt, gt_iff_lt] at h
  obtain ⟨⟨h0, hle⟩, h⟩ := h
  refine ⟨h0, hle, ?_⟩
  by_cases hz : ap = 0
  · exact .inl hz
  · rw [if_neg hz] at h
    by_cases hleft : 0 < o - ap
    · rw [if_pos hleft, map_eq_ok] at h
      obtain ⟨b, hb, hne⟩ := h
      obtain ⟨_, hc, rfl⟩ := convert_eq_ok.mp hb
      have hne' : c.base (o - ap) ≠ 0 := by simpa using hne
      have := hc.base_nonneg hleft.le
      exact .inr (.inr (by omega))
    · exact .inr (.inl (by omega))

/-! ## 2. Purchases -/

/-- A purchase's totals with its snapshot. -/
structure PurchaseTerms where
  totals : PurchaseTotals
  conversion : SettlementConversion

/-- The purchase as a planner reads it at an outstanding amount. -/
def PurchaseTerms.at (t : PurchaseTerms) (o : ℤ) : PurchaseApState :=
  ⟨t.totals.txn, t.totals.base, o, t.conversion⟩

/-- A command that reduces what a purchase owes; a return is known by the AP it releases. -/
inductive ObligationReducer
  | payment (input : PaymentAllocationInput)
  | creditAllocation (input : CreditAllocationInput)
  | supplierReturn (apTxnMinor : ℤ)

/-- One accepted reducer takes the outstanding amount `o` to what is left. -/
inductive ObligationStep (t : PurchaseTerms) : ℤ → ObligationReducer → ℤ → Prop
  | payment {o : ℤ} {i : PaymentAllocationInput} {p : PaymentAllocationPlan}
      (hp : i.purchase = t.at o) (hok : planPaymentAllocation i = .ok p) :
      ObligationStep t o (.payment i) (o - p.appliedMinor)
  | creditAllocation {o : ℤ} {i : CreditAllocationInput} {p : CreditAllocationPlan}
      (hp : i.purchase = t.at o) (hok : planCreditAllocation i = .ok p) :
      ObligationStep t o (.creditAllocation i) (o - p.appliedMinor)
  | supplierReturn {o ap : ℤ}
      (hres : supplierReturnLeavesSubUnitResidue o ap (fun x => convert x t.conversion) =
        .ok false) :
      ObligationStep t o (.supplierReturn ap) (o - ap)

/-- Part of the total is owed, and it can be cleared. -/
structure Owed (t : PurchaseTerms) (o : ℤ) : Prop where
  nonneg : 0 ≤ o
  le_total : o ≤ t.totals.txn
  clearable : Clearable t.conversion o

theorem owed_step {t : PurchaseTerms} {o o' : ℤ} {c : ObligationReducer} (ho : Owed t o)
    (h : ObligationStep t o c o') : Owed t o' := by
  have hle := ho.le_total
  cases h with
  | payment hp hok =>
    rename_i i p
    obtain ⟨hl, rfl⟩ := planPaymentAllocation_eq_ok.mp hok
    have hpos := hl.applied_pos
    have hao := hl.applied_le
    have hres := hl.residue
    rw [hp] at hao hres
    have hao' : i.appliedMinor ≤ o := hao
    refine ⟨?_, ?_, clearable_of_strands ?_ hres⟩
    · show 0 ≤ o - i.appliedMinor
      omega
    · show o - i.appliedMinor ≤ t.totals.txn
      omega
    · show 0 ≤ o - i.appliedMinor
      omega
  | creditAllocation hp hok =>
    rename_i i p
    obtain ⟨hl, rfl⟩ := planCreditAllocation_eq_ok.mp hok
    have hpos := hl.applied_pos
    have hao := hl.applied_le
    have hres := hl.residue
    rw [hp] at hao hres
    have hao' : i.appliedMinor ≤ o := hao
    refine ⟨?_, ?_, clearable_of_strands ?_ hres⟩
    · show 0 ≤ o - i.appliedMinor
      omega
    · show o - i.appliedMinor ≤ t.totals.txn
      omega
    · show 0 ≤ o - i.appliedMinor
      omega
  | supplierReturn hres =>
    obtain ⟨h0, hapo, hz | hc⟩ := supplierReturnLeavesSubUnitResidue_eq_false hres
    · rw [hz, sub_zero]
      exact ho
    · exact ⟨by omega, by omega, hc⟩

theorem owed_run {t : PurchaseTerms} (hstart : Convertible t.conversion t.totals.txn) {o : ℤ}
    {cs : List ObligationReducer} (h : Run (ObligationStep t) t.totals.txn cs o) : Owed t o := by
  refine h.invariant (fun _ _ _ ho hstep => owed_step ho hstep) ⟨?_, le_rfl, .inr hstart.one_le⟩
  have := t.totals.txn_minor.1
  omega

/-- Paying all of a clearable amount in the purchase currency passes every guard. -/
theorem Owed.pay_all {t : PurchaseTerms} {o : ℤ} (ho : Owed t o) (hpos : 0 < o)
    (hc : t.conversion.Valid) {payment : SettlementConversion} (hp : Convertible payment o) :
    PaymentAllocationInput.Lawful ⟨t.at o, true, o, payment, o⟩ := by
  have hle := ho.le_total
  have hmax := t.totals.txn_minor.2
  have hone : 1 ≤ t.conversion.base o := by
    rcases ho.clearable with hz | h1
    · omega
    · exact h1
  have hone' := hp.one_le
  exact
    { payment_minor := ⟨hpos, hle.trans hmax⟩
      same := fun _ => rfl
      range := ⟨t.totals.txn_minor, t.totals.base_minor, ⟨hpos.le, hle.trans hmax⟩, hle⟩
      applied_pos := hpos
      applied_le := le_rfl
      conversion := hc
      converted := by show t.conversion.base o ≠ 0; omega
      payment_conversion := hp.valid
      payment_converted := by show payment.base o ≠ 0; omega
      residue := by
        show strands (o - o) t.conversion = .ok false
        rw [sub_self, strands_zero] }

/-! ## 3. Credit notes -/

/-- A credit note's original pair with its snapshot. -/
structure CreditTerms where
  totals : CreditTotals
  conversion : SettlementConversion

def CreditTerms.at (t : CreditTerms) (rb : ℤ) : CreditNoteState :=
  ⟨t.totals.original, t.totals.carrying, rb, t.conversion⟩

/-- One accepted consumer takes the remaining amount to what is left. -/
inductive RemainderStep (t : CreditTerms) : ℤ → CreditConsumer → ℤ → Prop
  | consume {rb : ℤ} {c : CreditConsumer} {cr : CreditSide} (hat : c.note = t.at rb)
      (h : c.Accepted cr) : RemainderStep t rb c cr.remainingAfterMinor

structure Remaining (t : CreditTerms) (rb : ℤ) : Prop where
  nonneg : 0 ≤ rb
  le_original : rb ≤ t.totals.original
  clearable : Clearable t.conversion rb

/-- An accepted consumer passed the residue guard of its note. -/
theorem CreditConsumer.Accepted.residue {c : CreditConsumer} {cr : CreditSide}
    (h : c.Accepted cr) :
    0 ≤ cr.remainingAfterMinor ∧ cr.remainingAfterMinor ≤ c.note.remainingMinor ∧
      Clearable c.note.conversion cr.remainingAfterMinor := by
  obtain ⟨consumed, _, hpos, hle, hside⟩ := h.side
  have hafter : cr.remainingAfterMinor = c.note.remainingMinor - consumed := by
    rw [← hside]
    rfl
  have hstrands : strands cr.remainingAfterMinor c.note.conversion = .ok false := by
    cases h with
    | allocation hok =>
      obtain ⟨hl, rfl⟩ := planCreditAllocation_eq_ok.mp hok
      exact hl.note_residue
    | refund hok =>
      obtain ⟨hl, rfl⟩ := planRefund_eq_ok.mp hok
      exact hl.note_residue
  exact ⟨by omega, by omega, clearable_of_strands (by omega) hstrands⟩

theorem remaining_step {t : CreditTerms} {rb rb' : ℤ} {c : CreditConsumer} (hr : Remaining t rb)
    (h : RemainderStep t rb c rb') : Remaining t rb' := by
  cases h with
  | consume hat hacc =>
    have hle := hr.le_original
    obtain ⟨h0, h1, hc⟩ := hacc.residue
    rw [hat] at h1 hc
    have h1' : _ ≤ rb := h1
    exact ⟨h0, h1'.trans hle, hc⟩

theorem remaining_run {t : CreditTerms} (hstart : Convertible t.conversion t.totals.original)
    {rb : ℤ} {cs : List CreditConsumer} (h : Run (RemainderStep t) t.totals.original cs rb) :
    Remaining t rb := by
  refine h.invariant (fun _ _ _ hr hstep => remaining_step hr hstep)
    ⟨?_, le_rfl, .inr hstart.one_le⟩
  have := t.totals.original_minor.1
  omega

/-- Refunding all of a clearable remainder in the note currency passes every guard. -/
theorem Remaining.refund_all {t : CreditTerms} {rb : ℤ} (hr : Remaining t rb) (hpos : 0 < rb)
    (hc : t.conversion.Valid) {receipt : SettlementConversion} (hm : Convertible receipt rb) :
    RefundInput.Lawful ⟨t.at rb, true, rb, rb, receipt⟩ := by
  have hle := hr.le_original
  have hmax := t.totals.original_minor.2
  have hone : 1 ≤ t.conversion.base rb := by
    rcases hr.clearable with hz | h1
    · omega
    · exact h1
  have hone' := hm.one_le
  exact
    { note_range :=
        ⟨t.totals.original_minor, t.totals.carrying_minor, ⟨hpos.le, hle.trans hmax⟩, hle⟩
      consumed_pos := hpos
      consumed_le := le_rfl
      note_conversion := hc
      note_converted := by show t.conversion.base rb ≠ 0; omega
      receipt_minor := ⟨hpos, hle.trans hmax⟩
      same := fun _ => rfl
      receipt_conversion := hm.valid
      receipt_converted := by show receipt.base rb ≠ 0; omega
      note_residue := by
        show strands (rb - rb) t.conversion = .ok false
        rw [sub_self, strands_zero] }

/-! ## 4. Nothing is ever stranded -/

/-- **No obligation is ever stranded.** From a purchase whose total converts to at least one base
    unit, in every state any run of accepted reducers reaches with something owed, one payment of
    exactly that in the purchase currency, at a snapshot that converts it to at least one base
    unit, is accepted and leaves nothing owed. The same holds of the remainder of a credit note
    and one refund of all of it. -/
theorem obligations_never_stranded :
    (∀ (t : PurchaseTerms) (o : ℤ) (cs : List ObligationReducer) (payment : SettlementConversion),
      Convertible t.conversion t.totals.txn → Run (ObligationStep t) t.totals.txn cs o → 0 < o →
      Convertible payment o →
      ∃ p, planPaymentAllocation ⟨t.at o, true, o, payment, o⟩ = .ok p ∧ o - p.appliedMinor = 0) ∧
    (∀ (t : CreditTerms) (rb : ℤ) (cs : List CreditConsumer) (receipt : SettlementConversion),
      Convertible t.conversion t.totals.original →
      Run (RemainderStep t) t.totals.original cs rb → 0 < rb → Convertible receipt rb →
      ∃ p, planRefund ⟨t.at rb, true, rb, rb, receipt⟩ = .ok p ∧ p.remainingAfterMinor = 0) := by
  constructor
  · intro t o cs payment hstart hrun hpos hp
    have hl := (owed_run hstart hrun).pay_all hpos hstart.valid hp
    exact ⟨_, planPaymentAllocation_eq_ok.mpr ⟨hl, rfl⟩, sub_self o⟩
  · intro t rb cs receipt hstart hrun hpos hm
    have hl := (remaining_run hstart hrun).refund_all hpos hstart.valid hm
    exact ⟨_, planRefund_eq_ok.mpr ⟨hl, rfl⟩, sub_self rb⟩

/-- A purchase of 100 at 0.37, of which 33 are paid. -/
def sampleTerms : PurchaseTerms := ⟨sampleTotals, ⟨3700000000, 2, 2⟩⟩

/-- A note of 100 at 0.02, of which 60 are refunded. -/
def sampleCreditTerms : CreditTerms := ⟨sampleCredit, ⟨200000000, 2, 2⟩⟩

theorem obligations_never_stranded_sample :
    (∃ p, planPaymentAllocation ⟨sampleTerms.at 67, true, 67, ⟨3800000000, 2, 2⟩, 67⟩ = .ok p ∧
      67 - p.appliedMinor = 0) ∧
    (∃ p, planRefund ⟨sampleCreditTerms.at 40, true, 40, 40, ⟨300000000, 2, 2⟩⟩ = .ok p ∧
      p.remainingAfterMinor = 0) :=
  ⟨obligations_never_stranded.1 sampleTerms 67 [.payment (samplePayment 100 33)]
      ⟨3800000000, 2, 2⟩ ⟨37, by decide, by decide⟩
      (.single (.payment rfl (p := (samplePayment 100 33).plan) (by decide))) (by decide)
      ⟨25, by decide, by decide⟩,
    obligations_never_stranded.2 sampleCreditTerms 40 [.refund (sampleRefund 100 60)]
      ⟨300000000, 2, 2⟩ ⟨2, by decide, by decide⟩
      (.single (.consume rfl (.refund (p := (sampleRefund 100 60).plan) (by decide))))
      (by decide) ⟨1, by decide, by decide⟩⟩

end Daftar.Inventory
