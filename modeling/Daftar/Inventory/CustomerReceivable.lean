/-
  File: Daftar/Inventory/CustomerReceivable.lean
  Subject: What a customer owes, per currency.

  * `customerArOutstanding` is the routine, `receivable` the read over it.
  * `owedTxn` and `owedBase` add up what is left of invoices. After a COMMIT, what owes nothing in
    its own currency owes nothing in base (`owedBase_of_owedTxn`).
  * `customerArOutstanding_eq`: where they fit a BIGINT, the routine answers these sums.
  * `totalsAgree`: a currency it leaves out has nothing outstanding, in either amount.
-/

import Daftar.Inventory.OpenInvoices
import Daftar.Library.Grouping
import Mathlib.Algebra.Order.BigOperators.Group.List

namespace Daftar.Inventory.Receivables

open Fallible
open Grouping
open KeysetPages
open ReceivableTables

/-! ## 1. The routine -/

/-- The open invoices of the customer. -/
def openRows (db : ReceivableTables) (customerId : Uuid) : List InvoiceRow :=
  db.invoices.rows.filter fun i => i.customerId = some customerId ∧ i.status = .issued

/-- The array the routines ask about. Without an open invoice it is NULL, which asks about none. -/
def openInvoiceIds (db : ReceivableTables) (customerId : Uuid) : List Uuid :=
  (openRows db customerId).map InvoiceRow.id

structure CurrencyRow where
  currencyCode : String
  txnMinor : ℤ
  baseMinor : ℤ
  deriving DecidableEq

def sumTxn (rows : List OutstandingRow) : ℤ := (rows.map OutstandingRow.outstandingTxnMinor).sum

def sumBase (rows : List OutstandingRow) : ℤ := (rows.map OutstandingRow.outstandingBaseMinor).sum

/-- `customer_ar_outstanding`. The order of its groups is not promised. -/
def customerArOutstanding (db : ReceivableTables) (customerId : Uuid) :
    Routine (List CurrencyRow) := do
  let rows ← invoiceOutstanding db (openInvoiceIds db customerId)
  ((groups OutstandingRow.currencyCode rows).filter fun g => sumTxn g.2 ≠ 0).mapM fun g => do
    let txnMinor ← castBigint (sumTxn g.2)
    let baseMinor ← castBigint (sumBase g.2)
    pure ⟨g.1, txnMinor, baseMinor⟩

structure CurrencyAmount where
  currency : String
  txnMinor : ℤ
  deriving DecidableEq

structure CustomerReceivable where
  customerId : Uuid
  baseMinor : ℤ
  baseCurrency : String
  byCurrency : List CurrencyAmount
  deriving DecidableEq

/-- `receivable`. Its amounts are texts; BigInt reads the base amounts back and adds them up. -/
def receivable (db : ReceivableTables) (customers : List Uuid) (baseCurrency : String)
    (customerId : Uuid) : Except ReadRefusal CustomerReceivable := do
  refuseIf (customerId ∉ customers) .customerNotFound
  let found ← (customerArOutstanding db customerId).mapError .database
  let rows := ordered CurrencyRow.currencyCode found
  pure ⟨customerId, (rows.map CurrencyRow.baseMinor).sum, baseCurrency,
    rows.map fun r => ⟨r.currencyCode, r.txnMinor⟩⟩

/-! ## 2. What invoices owe -/

section Owed

variable {db : ReceivableTables} {customerId : Uuid} {i : InvoiceRow} {is js : List InvoiceRow}

/-- What is left of invoices, in the currency of each and in base. -/
def owedTxn (db : ReceivableTables) (is : List InvoiceRow) : ℤ :=
  (is.map fun i => (db.outstandingOf i).outstandingTxnMinor).sum

def owedBase (db : ReceivableTables) (is : List InvoiceRow) : ℤ :=
  (is.map fun i => (db.outstandingOf i).outstandingBaseMinor).sum

theorem sumTxn_outstandingOf : sumTxn (is.map db.outstandingOf) = owedTxn db is := by
  unfold sumTxn owedTxn
  rw [List.map_map]
  rfl

theorem sumBase_outstandingOf : sumBase (is.map db.outstandingOf) = owedBase db is := by
  unfold sumBase owedBase
  rw [List.map_map]
  rfl

theorem mem_openRows : i ∈ openRows db customerId ↔
    i ∈ db.invoices.rows ∧ i.customerId = some customerId ∧ i.status = .issued := by
  unfold openRows
  rw [List.mem_filter, decide_eq_true_eq]

theorem asked_openInvoiceIds :
    db.asked (openInvoiceIds db customerId) = openRows db customerId := by
  unfold ReceivableTables.asked
  apply List.filter_congr
  intro i hi
  rw [decide_eq_decide]
  constructor
  · intro hid
    obtain ⟨j, hj, hij⟩ := List.mem_map.mp hid
    obtain ⟨hrow, hopen⟩ := mem_openRows.mp hj
    rwa [← List.inj_on_of_nodup_map db.invoices.keys hrow hi hij]
  · exact fun hopen => List.mem_map_of_mem (mem_openRows.mpr ⟨hi, hopen⟩)

theorem invoiceOutstanding_open : invoiceOutstanding db (openInvoiceIds db customerId) =
    .ok ((openRows db customerId).map db.outstandingOf) := by
  have hnames : db.Names (openInvoiceIds db customerId) := by
    intro id hid
    obtain ⟨i, hi, rfl⟩ := List.mem_map.mp hid
    exact ⟨i, (mem_openRows.mp hi).1, rfl⟩
  rw [invoiceOutstanding_eq_ok.mpr ⟨hnames, rfl⟩, asked_openInvoiceIds]

theorem currencyCode_comp_outstandingOf :
    OutstandingRow.currencyCode ∘ db.outstandingOf = InvoiceRow.currencyCode := by
  funext i
  exact outstandingOf_currencyCode

end Owed

/-! ## 3. After a COMMIT -/

section Settled

variable {db : ReceivableDb} {customerId : Uuid} {i : InvoiceRow} {is js : List InvoiceRow}

/-- **An invoice that owes nothing in its currency owes nothing in base**: what was settled of it
    released its whole base. -/
theorem outstandingBase_of_settled (hi : i ∈ db.invoices.rows)
    (h : (db.outstandingOf i).outstandingTxnMinor = 0) :
    (db.outstandingOf i).outstandingBaseMinor = 0 := by
  obtain ⟨_, hshare⟩ := db.settled i hi
  have hbase : paidBase db.reducers i.id =
      apShare i.totalBaseMinor i.totalTxnMinor (paidTxn db.reducers i.id) := hshare
  unfold outstandingOf at h ⊢
  split
  · rfl
  · rename_i hst
    rw [if_neg hst] at h
    split
    · rfl
    · rename_i hcash
      rw [if_neg hcash] at h
      have hpaid : i.totalTxnMinor = paidTxn db.reducers i.id := sub_eq_zero.mp h
      show i.totalBaseMinor - paidBase db.reducers i.id = 0
      rw [hbase, ← hpaid, apShare_total _ i.total_txn.1, sub_self]

theorem outstandingBase_nonneg (hi : i ∈ db.invoices.rows) :
    0 ≤ (db.outstandingOf i).outstandingBaseMinor := by
  have hbound := (ReceivableDb.paidBase_bounds hi).2
  unfold outstandingOf
  split
  · exact le_rfl
  · split
    · exact le_rfl
    · exact sub_nonneg.mpr hbound

/-- Fewer invoices owe no more. -/
theorem owedTxn_mono (hsub : is.Sublist js) (hjs : ∀ i ∈ js, i ∈ db.invoices.rows) :
    0 ≤ owedTxn db is ∧ owedTxn db is ≤ owedTxn db js := by
  have hnonneg : ∀ x ∈ js.map fun i => (db.outstandingOf i).outstandingTxnMinor, 0 ≤ x := by
    intro x hx
    obtain ⟨i, hi, rfl⟩ := List.mem_map.mp hx
    exact (ReceivableDb.outstandingOf_bounds (hjs i hi)).1
  have hmap := hsub.map fun i => (db.outstandingOf i).outstandingTxnMinor
  exact ⟨List.sum_nonneg fun x hx => hnonneg x (hmap.subset hx), hmap.sum_le_sum hnonneg⟩

theorem owedBase_mono (hsub : is.Sublist js) (hjs : ∀ i ∈ js, i ∈ db.invoices.rows) :
    0 ≤ owedBase db is ∧ owedBase db is ≤ owedBase db js := by
  have hnonneg : ∀ x ∈ js.map fun i => (db.outstandingOf i).outstandingBaseMinor, 0 ≤ x := by
    intro x hx
    obtain ⟨i, hi, rfl⟩ := List.mem_map.mp hx
    exact outstandingBase_nonneg (hjs i hi)
  have hmap := hsub.map fun i => (db.outstandingOf i).outstandingBaseMinor
  exact ⟨List.sum_nonneg fun x hx => hnonneg x (hmap.subset hx), hmap.sum_le_sum hnonneg⟩

/-- **Invoices that owe nothing in their currency owe nothing in base.** -/
theorem owedBase_of_owedTxn (his : ∀ i ∈ is, i ∈ db.invoices.rows) (h : owedTxn db is = 0) :
    owedBase db is = 0 := by
  have hzero : ∀ i ∈ is, (db.outstandingOf i).outstandingBaseMinor = 0 := by
    intro i hi
    have hone := owedTxn_mono (List.singleton_sublist.mpr hi) his
    have hsingle : owedTxn db [i] = (db.outstandingOf i).outstandingTxnMinor := List.sum_singleton
    refine outstandingBase_of_settled (his i hi) ?_
    omega
  unfold owedBase
  rw [List.map_congr_left hzero]
  exact List.sum_map_zero

end Settled

/-! ## 4. What the routine answers -/

section Totals

variable {db : ReceivableDb} {customerId : Uuid} {i : InvoiceRow} {currency : String}
  {customers : List Uuid} {baseCurrency : String}

/-- The open invoices of the customer in one currency. -/
def openIn (db : ReceivableTables) (customerId : Uuid) (currency : String) : List InvoiceRow :=
  (openRows db customerId).filter fun i => i.currencyCode = currency

/-- What the customer owes in each currency fits a BIGINT. -/
def AmountsFit (db : ReceivableTables) (customerId : Uuid) : Prop :=
  ∀ i ∈ openRows db customerId, IsBigint (owedTxn db (openIn db customerId i.currencyCode)) ∧
    IsBigint (owedBase db (openIn db customerId i.currencyCode))

instance (db : ReceivableTables) (customerId : Uuid) : Decidable (AmountsFit db customerId) :=
  inferInstanceAs (Decidable (∀ i ∈ openRows db customerId, _ ∧ _))

/-- The answer as a plain function. -/
def totalsOf (db : ReceivableTables) (customerId : Uuid) : List CurrencyRow :=
  ((groups InvoiceRow.currencyCode (openRows db customerId)).filter fun g =>
    owedTxn db g.2 ≠ 0).map fun g => ⟨g.1, owedTxn db g.2, owedBase db g.2⟩

theorem mem_openGroups {g : String × List InvoiceRow} :
    g ∈ groups InvoiceRow.currencyCode (openRows db customerId) ↔
      (∃ i ∈ openRows db customerId, i.currencyCode = g.1) ∧ g.2 = openIn db customerId g.1 :=
  mem_groups

theorem customerArOutstanding_eq (h : AmountsFit db customerId) :
    customerArOutstanding db customerId = .ok (totalsOf db customerId) := by
  unfold customerArOutstanding totalsOf
  rw [invoiceOutstanding_open, ok_bind, groups_map, currencyCode_comp_outstandingOf,
    List.filter_map, List.mapM_map]
  simp only [Function.comp_def, sumTxn_outstandingOf, sumBase_outstandingOf]
  refine mapM_eq_map_of fun g hg => ?_
  obtain ⟨⟨i, hi, hcurrency⟩, hrows⟩ := mem_openGroups.mp (List.mem_of_mem_filter hg)
  have hfit := h i hi
  rw [hcurrency, ← hrows] at hfit
  rw [castBigint_int_eq_ok.mpr ⟨hfit.1, rfl⟩, castBigint_int_eq_ok.mpr ⟨hfit.2, rfl⟩]
  rfl

/-- The totals of a customer: what the open invoices of each currency owe, and nothing is owed in
    a currency without a row. -/
structure TotalsAgree (db : ReceivableTables) (customerId : Uuid) (totals : List CurrencyRow) :
    Prop where
  currencies : (totals.map CurrencyRow.currencyCode).Nodup
  amounts : ∀ t ∈ totals, t.txnMinor = owedTxn db (openIn db customerId t.currencyCode) ∧
    t.baseMinor = owedBase db (openIn db customerId t.currencyCode)
  omitted : ∀ currency ∉ totals.map CurrencyRow.currencyCode,
    owedTxn db (openIn db customerId currency) = 0 ∧
      owedBase db (openIn db customerId currency) = 0

theorem openIn_rows (hi : i ∈ openIn db customerId currency) : i ∈ db.invoices.rows :=
  (mem_openRows.mp (List.mem_of_mem_filter hi)).1

/-- **A currency that is left out has nothing outstanding**, in either amount. -/
theorem totalsAgree : TotalsAgree db customerId (totalsOf db customerId) where
  currencies := by
    unfold totalsOf
    rw [List.map_map]
    exact (nodup_groups_key _).sublist (List.filter_sublist.map Prod.fst)
  amounts := by
    intro t ht
    obtain ⟨g, hg, rfl⟩ := List.mem_map.mp ht
    rw [← (mem_openGroups.mp (List.mem_of_mem_filter hg)).2]
    exact ⟨rfl, rfl⟩
  omitted := by
    intro currency hcurrency
    have hzero : owedTxn db (openIn db customerId currency) = 0 := by
      by_contra hne
      have hsome : openIn db customerId currency ≠ [] := fun hnil => hne (by rw [hnil]; rfl)
      obtain ⟨i, hi⟩ := List.exists_mem_of_ne_nil _ hsome
      obtain ⟨hopen, hcode⟩ := List.mem_filter.mp hi
      have hgroup : (currency, openIn db customerId currency) ∈
          groups InvoiceRow.currencyCode (openRows db customerId) :=
        mem_openGroups.mpr ⟨⟨i, hopen, of_decide_eq_true hcode⟩, rfl⟩
      have hrow : ⟨currency, owedTxn db (openIn db customerId currency),
          owedBase db (openIn db customerId currency)⟩ ∈ totalsOf db customerId :=
        List.mem_map.mpr ⟨_, List.mem_filter.mpr ⟨hgroup, decide_eq_true hne⟩, rfl⟩
      exact hcurrency (List.mem_map_of_mem hrow)
    exact ⟨hzero, owedBase_of_owedTxn (fun _ hi => openIn_rows hi) hzero⟩

/-- The base of the totals is the base of all that is open. -/
theorem sum_totalsOf : ((totalsOf db customerId).map CurrencyRow.baseMinor).sum =
    owedBase db (openRows db customerId) := by
  have hzero : ∀ g ∈ groups InvoiceRow.currencyCode (openRows db customerId),
      decide (owedTxn db g.2 ≠ 0) = false → owedBase db g.2 = 0 := by
    intro g hg hnone
    have hall : ∀ i ∈ g.2, i ∈ db.invoices.rows := by
      rw [(mem_openGroups.mp hg).2]
      exact fun _ hi => openIn_rows hi
    exact owedBase_of_owedTxn hall (not_not.mp (of_decide_eq_false hnone))
  unfold totalsOf
  rw [List.map_map]
  exact (sum_filter_of_zero hzero).trans (sum_groups InvoiceRow.currencyCode _ _)

theorem receivable_eq (hcustomer : customerId ∈ customers) (h : AmountsFit db customerId) :
    ∃ r, receivable db customers baseCurrency customerId = .ok r ∧
      r.baseMinor = owedBase db (openRows db customerId) := by
  unfold receivable
  rw [refuseIf_of_not (not_not.mpr hcustomer), customerArOutstanding_eq h]
  refine ⟨_, rfl, ?_⟩
  show ((ordered CurrencyRow.currencyCode (totalsOf db customerId)).map _).sum = _
  rw [((perm_ordered _).map _).sum_eq, sum_totalsOf]

end Totals

end Daftar.Inventory.Receivables
