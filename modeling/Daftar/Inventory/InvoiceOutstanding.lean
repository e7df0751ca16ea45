/-
  File: Daftar/Inventory/InvoiceOutstanding.lean
  Subject: What an invoice is paid and still owes, read for a set of invoices at once.

  * `ReceivableTables` is what one business shows a reader: its invoices with their sales, and the
    two reducer tables. A `ReceivableDb` has the reducers as their COMMIT-time check leaves them.
  * `invoiceOutstanding` is the one definition, over an array of ids; the single form asks it about
    one.
  * `invoiceOutstanding_eq_ok`: it finds every invoice asked about, each one once, and raises for an
    id that names none.
-/

import Daftar.Identifiers
import Daftar.Inventory.SqlNumeric
import Daftar.Library.Tables
import Mathlib.Data.List.Dedup
import Mathlib.Data.List.Perm.Subperm

namespace Daftar.Inventory.Receivables

open Fallible
open Rounding
open Tables

/-! ## 1. Tables -/

inductive InvoiceStatus
  | draft | issued | void
  deriving DecidableEq, Repr

def InvoiceStatus.text : InvoiceStatus → String
  | draft => "draft"
  | issued => "open"
  | void => "void"

inductive SettlementMode
  | cash | credit
  deriving DecidableEq, Repr

/-- A row of `invoices`, its totals as their checks leave them. A date is its day number. -/
structure InvoiceRow where
  id : Uuid
  saleId : Uuid
  customerId : Option Uuid
  status : InvoiceStatus
  issueDate : ℤ
  dueDate : Option ℤ
  currencyCode : String
  totalTxnMinor : ℤ
  totalBaseMinor : ℤ
  sourceToBaseRate : ℚ
  total_txn : IsMinor 1 totalTxnMinor
  total_base : IsMinor 1 totalBaseMinor

structure SaleRow where
  id : Uuid
  settlementMode : SettlementMode
  deriving DecidableEq

/-- What a reader takes of a payment allocation or of a credit application. -/
structure ReducerRow where
  invoiceId : Uuid
  invoiceAmountAppliedMinor : ℤ
  invoiceCarryingBaseReleasedMinor : ℤ
  deriving DecidableEq

/-- The amounts applied to an invoice and the carrying base they released. -/
def paidTxn (reducers : List ReducerRow) (id : Uuid) : ℤ :=
  ((reducers.filter fun d => d.invoiceId = id).map (·.invoiceAmountAppliedMinor)).sum

def paidBase (reducers : List ReducerRow) (id : Uuid) : ℤ :=
  ((reducers.filter fun d => d.invoiceId = id).map (·.invoiceCarryingBaseReleasedMinor)).sum

/-- The tables of one business as a reader sees them. Every invoice has its sale, and what it is paid
    and what is left of it are amounts of a BIGINT, of either sign. -/
structure ReceivableTables where
  invoices : Table InvoiceRow.id
  sales : Table SaleRow.id
  paymentAllocations : List ReducerRow
  customerCreditApplications : List ReducerRow
  sale_fk : ∀ i ∈ invoices.rows, (sales.find? i.saleId).isSome
  fits : ∀ i ∈ invoices.rows,
    (IsBigint (paidTxn (paymentAllocations ++ customerCreditApplications) i.id) ∧
      IsBigint (paidBase (paymentAllocations ++ customerCreditApplications) i.id)) ∧
    IsBigint (i.totalTxnMinor - paidTxn (paymentAllocations ++ customerCreditApplications) i.id) ∧
      IsBigint (i.totalBaseMinor - paidBase (paymentAllocations ++ customerCreditApplications) i.id)

/-- The tables after a COMMIT: the reducers of an invoice form a lawful chain. They settle at most
    its total and have released the share of its base that goes with what they settled. -/
structure ReceivableDb extends ReceivableTables where
  settled : ∀ i ∈ invoices.rows,
    (0 ≤ paidTxn (paymentAllocations ++ customerCreditApplications) i.id ∧
      paidTxn (paymentAllocations ++ customerCreditApplications) i.id ≤ i.totalTxnMinor) ∧
    paidBase (paymentAllocations ++ customerCreditApplications) i.id =
      apShare i.totalBaseMinor i.totalTxnMinor
        (paidTxn (paymentAllocations ++ customerCreditApplications) i.id)

instance : Coe ReceivableDb ReceivableTables := ⟨ReceivableDb.toReceivableTables⟩

/-! ## 2. The reader of record -/

/-- A row of the answer. -/
structure OutstandingRow where
  invoiceId : Uuid
  paidTxnMinor : ℤ
  paidBaseMinor : ℤ
  outstandingTxnMinor : ℤ
  outstandingBaseMinor : ℤ
  currencyCode : String
  dueDate : Option ℤ
  issueDate : ℤ
  deriving DecidableEq

/-- The answer for one invoice from the sums of its reducers, none of them when there is none. -/
def outstandingRow (i : InvoiceRow) (s : SaleRow) (paid base : ℤ) : Routine OutstandingRow :=
  if i.status ≠ .issued then .ok ⟨i.id, 0, 0, 0, 0, i.currencyCode, i.dueDate, i.issueDate⟩
  else if s.settlementMode = .cash then
    .ok ⟨i.id, i.totalTxnMinor, i.totalBaseMinor, 0, 0, i.currencyCode, i.dueDate, i.issueDate⟩
  else do
    let paidTxnMinor ← castBigint paid
    let paidBaseMinor ← castBigint base
    let outstandingTxnMinor ← castBigint (i.totalTxnMinor - paid)
    let outstandingBaseMinor ← castBigint (i.totalBaseMinor - base)
    pure ⟨i.id, paidTxnMinor, paidBaseMinor, outstandingTxnMinor, outstandingBaseMinor,
      i.currencyCode, i.dueDate, i.issueDate⟩

def invoiceNotFound : SqlError :=
  .raised "invoice.not_found: the invoice does not exist in this business"

/-- The invoices of an array joined with their sales. -/
def askedInvoices (db : ReceivableTables) (ids : List Uuid) : List (InvoiceRow × SaleRow) :=
  (db.invoices.rows.filter fun i => i.id ∈ ids).filterMap fun i =>
    (db.sales.find? i.saleId).map (Prod.mk i)

/-- The reducers of the invoices of an array. -/
def askedReducers (db : ReceivableTables) (ids : List Uuid) : List ReducerRow :=
  (db.paymentAllocations.filter fun a => a.invoiceId ∈ ids) ++
    db.customerCreditApplications.filter fun c => c.invoiceId ∈ ids

/-- `invoice_outstanding(business, invoice_id[])`. The distinct ids are counted only where the rows
    found are not as many as the ids. -/
def invoiceOutstanding (db : ReceivableTables) (ids : List Uuid) : Routine (List OutstandingRow) := do
  let reducers := askedReducers db ids
  let rows ← (askedInvoices db ids).mapM fun p =>
    outstandingRow p.1 p.2 (paidTxn reducers p.1.id) (paidBase reducers p.1.id)
  refuseIf (rows.length ≠ ids.length ∧ rows.length ≠ ids.dedup.length) invoiceNotFound
  pure rows

/-- The four figures the single form answers. -/
def OutstandingRow.figures (o : OutstandingRow) : ℤ × ℤ × ℤ × ℤ :=
  (o.paidTxnMinor, o.paidBaseMinor, o.outstandingTxnMinor, o.outstandingBaseMinor)

/-- `invoice_outstanding(business, invoice)`. -/
def invoiceOutstandingOne (db : ReceivableTables) (id : Uuid) : Routine (List (ℤ × ℤ × ℤ × ℤ)) := do
  let rows ← invoiceOutstanding db [id]
  pure (rows.map (·.figures))

/-! ## 3. What it answers -/

namespace ReceivableTables

variable (db : ReceivableTables)

def reducers : List ReducerRow := db.paymentAllocations ++ db.customerCreditApplications

/-- An invoice whose sale was settled in cash. -/
def IsCash (i : InvoiceRow) : Prop :=
  (db.sales.find? i.saleId).map (·.settlementMode) = some .cash

instance (i : InvoiceRow) : Decidable (db.IsCash i) := inferInstanceAs (Decidable (_ = _))

/-- The answer for an invoice as a plain function. -/
def outstandingOf (i : InvoiceRow) : OutstandingRow :=
  if i.status ≠ .issued then ⟨i.id, 0, 0, 0, 0, i.currencyCode, i.dueDate, i.issueDate⟩
  else if db.IsCash i then
    ⟨i.id, i.totalTxnMinor, i.totalBaseMinor, 0, 0, i.currencyCode, i.dueDate, i.issueDate⟩
  else
    ⟨i.id, paidTxn db.reducers i.id, paidBase db.reducers i.id,
      i.totalTxnMinor - paidTxn db.reducers i.id, i.totalBaseMinor - paidBase db.reducers i.id,
      i.currencyCode, i.dueDate, i.issueDate⟩

variable {db} {i : InvoiceRow} {ids : List Uuid}

@[simp] theorem outstandingOf_invoiceId : (db.outstandingOf i).invoiceId = i.id := by
  unfold outstandingOf
  split
  · rfl
  · split <;> rfl

@[simp] theorem outstandingOf_currencyCode :
    (db.outstandingOf i).currencyCode = i.currencyCode := by
  unfold outstandingOf
  split
  · rfl
  · split <;> rfl

@[simp] theorem outstandingOf_dueDate : (db.outstandingOf i).dueDate = i.dueDate := by
  unfold outstandingOf
  split
  · rfl
  · split <;> rfl

@[simp] theorem outstandingOf_issueDate : (db.outstandingOf i).issueDate = i.issueDate := by
  unfold outstandingOf
  split
  · rfl
  · split <;> rfl

/-- A cash invoice owes nothing. -/
theorem outstandingOf_cash (h : db.IsCash i) : (db.outstandingOf i).outstandingTxnMinor = 0 := by
  unfold outstandingOf
  simp only [h, if_true]
  split <;> rfl

/-- Sums over the reducers of an array are sums over all of them, for an invoice of the array. -/
theorem filter_askedReducers {id : Uuid} (h : id ∈ ids) :
    ((askedReducers db ids).filter fun d => d.invoiceId = id) =
      db.reducers.filter fun d => d.invoiceId = id := by
  have hkeep : ∀ d : ReducerRow, (decide (d.invoiceId = id) && decide (d.invoiceId ∈ ids)) =
      decide (d.invoiceId = id) := by
    intro d
    by_cases hd : d.invoiceId = id
    · rw [hd, decide_eq_true h, Bool.and_true]
    · rw [decide_eq_false hd, Bool.false_and]
  unfold askedReducers reducers
  rw [List.filter_append, List.filter_append, List.filter_filter, List.filter_filter]
  simp only [hkeep]

theorem outstandingRow_of {s : SaleRow} (hi : i ∈ db.invoices.rows)
    (hs : db.sales.find? i.saleId = some s) :
    outstandingRow i s (paidTxn db.reducers i.id) (paidBase db.reducers i.id) =
      .ok (db.outstandingOf i) := by
  have hcash : db.IsCash i ↔ s.settlementMode = .cash := by
    unfold IsCash
    rw [hs, Option.map_some, Option.some.injEq]
  unfold outstandingRow outstandingOf
  by_cases hst : i.status ≠ .issued
  · rw [if_pos hst, if_pos hst]
  · rw [if_neg hst, if_neg hst]
    by_cases hc : s.settlementMode = .cash
    · rw [if_pos hc, if_pos (hcash.mpr hc)]
    · rw [if_neg hc, if_neg (mt hcash.mp hc)]
      obtain ⟨⟨h1, h2⟩, h3, h4⟩ := db.fits i hi
      have h1 := castBigint_int_eq_ok.mpr ⟨h1, rfl⟩
      have h2 := castBigint_int_eq_ok.mpr ⟨h2, rfl⟩
      have h3 := castBigint_int_eq_ok.mpr ⟨h3, rfl⟩
      have h4 := castBigint_int_eq_ok.mpr ⟨h4, rfl⟩
      rw [Int.cast_sub] at h3 h4
      unfold reducers
      simp only [h1, h2, h3, h4, ok_bind]
      rfl

/-- The invoices of an array. -/
def asked (db : ReceivableTables) (ids : List Uuid) : List InvoiceRow :=
  db.invoices.rows.filter fun i => i.id ∈ ids

theorem mem_asked : i ∈ db.asked ids ↔ i ∈ db.invoices.rows ∧ i.id ∈ ids := by
  unfold asked
  rw [List.mem_filter, decide_eq_true_eq]

theorem askedInvoices_map : (askedInvoices db ids).map Prod.fst = db.asked ids := by
  have hall : ∀ rows : List InvoiceRow, (∀ i ∈ rows, (db.sales.find? i.saleId).isSome) →
      (rows.filterMap fun i => (db.sales.find? i.saleId).map (Prod.mk i)).map Prod.fst = rows := by
    intro rows h
    induction rows with
    | nil => rfl
    | cons i rows ih =>
        rw [List.forall_mem_cons] at h
        obtain ⟨s, hs⟩ := Option.isSome_iff_exists.mp h.1
        rw [List.filterMap_cons_some (by rw [hs, Option.map_some]), List.map_cons, ih h.2]
  exact hall _ fun i hi => db.sale_fk i (List.mem_of_mem_filter hi)

/-- The loop over the invoices found never raises. -/
theorem mapM_askedInvoices :
    (askedInvoices db ids).mapM (fun p => outstandingRow p.1 p.2
      (paidTxn (askedReducers db ids) p.1.id) (paidBase (askedReducers db ids) p.1.id)) =
      .ok ((db.asked ids).map db.outstandingOf) := by
  have hrow : ∀ p ∈ askedInvoices db ids, outstandingRow p.1 p.2
      (paidTxn (askedReducers db ids) p.1.id) (paidBase (askedReducers db ids) p.1.id) =
      .ok (db.outstandingOf p.1) := by
    intro p hp
    obtain ⟨i, hi, hps⟩ := List.mem_filterMap.mp hp
    obtain ⟨s, hs, rfl⟩ := Option.map_eq_some_iff.mp hps
    obtain ⟨hrows, hid⟩ := mem_asked.mp hi
    unfold paidTxn paidBase
    rw [filter_askedReducers hid]
    exact outstandingRow_of hrows hs
  rw [← askedInvoices_map, List.map_map]
  exact mapM_eq_map_of hrow

/-! ## 4. One row for each id that names an invoice -/

theorem nodup_asked_ids : ((db.asked ids).map InvoiceRow.id).Nodup :=
  db.invoices.keys.sublist (List.filter_sublist.map _)

theorem asked_ids_subset : (db.asked ids).map InvoiceRow.id ⊆ ids.dedup := by
  intro id hid
  obtain ⟨i, hi, rfl⟩ := List.mem_map.mp hid
  exact List.mem_dedup.mpr (mem_asked.mp hi).2

theorem asked_ids_subperm : List.Subperm ((db.asked ids).map InvoiceRow.id) ids.dedup :=
  List.Nodup.subperm nodup_asked_ids asked_ids_subset

/-- Every id names an invoice. -/
def Names (db : ReceivableTables) (ids : List Uuid) : Prop :=
  ∀ id ∈ ids, ∃ i ∈ db.invoices.rows, i.id = id

/-- **As many rows as distinct ids**: every id names an invoice. -/
theorem length_asked_iff : (db.asked ids).length = ids.dedup.length ↔ db.Names ids := by
  rw [← List.length_map InvoiceRow.id]
  constructor
  · intro hlen id hid
    have hmem := (asked_ids_subperm.perm_of_length_le hlen.ge).mem_iff.mpr (List.mem_dedup.mpr hid)
    obtain ⟨i, hi, hid'⟩ := List.mem_map.mp hmem
    exact ⟨i, (mem_asked.mp hi).1, hid'⟩
  · intro hnames
    refine List.Perm.length_eq ((List.perm_ext_iff_of_nodup nodup_asked_ids
      (List.nodup_dedup ids)).mpr fun id => ?_)
    constructor
    · exact fun h => asked_ids_subset h
    · intro h
      have hid := List.mem_dedup.mp h
      obtain ⟨i, hi, rfl⟩ := hnames id hid
      exact List.mem_map_of_mem (mem_asked.mpr ⟨hi, hid⟩)

end ReceivableTables

open ReceivableTables

/-- The refusal is reached exactly when an id names no invoice. -/
theorem refuses_iff {db : ReceivableTables} {ids : List Uuid} :
    ((db.asked ids).length ≠ ids.length ∧ (db.asked ids).length ≠ ids.dedup.length) ↔
      ¬ db.Names ids := by
  have hle : (db.asked ids).length ≤ ids.dedup.length := by
    have := (@asked_ids_subperm db ids).length_le
    rwa [List.length_map] at this
  have hdedup : ids.dedup.length ≤ ids.length := (List.dedup_sublist ids).length_le
  rw [← length_asked_iff]
  omega

/-- **The set-based reader** answers for every invoice its ids name, once each, and raises exactly
    when an id names none. -/
theorem invoiceOutstanding_eq_ok {db : ReceivableTables} {ids : List Uuid}
    {rows : List OutstandingRow} :
    invoiceOutstanding db ids = .ok rows ↔
      db.Names ids ∧ (db.asked ids).map db.outstandingOf = rows := by
  unfold invoiceOutstanding
  simp only [mapM_askedInvoices, ok_bind, bind_eq_ok, refuseIf_eq_ok, exists_const, pure_eq_ok,
    List.length_map, refuses_iff, not_not]

theorem invoiceOutstanding_of_not_names {db : ReceivableTables} {ids : List Uuid}
    (h : ¬ db.Names ids) : invoiceOutstanding db ids = .error invoiceNotFound := by
  unfold invoiceOutstanding
  simp only [mapM_askedInvoices, ok_bind, List.length_map, refuseIf_of (refuses_iff.mpr h),
    error_bind]

/-- The answer holds one row for an invoice. -/
theorem rows_filter_eq {db : ReceivableTables} {ids : List Uuid} {i : InvoiceRow}
    (hi : i ∈ db.invoices.rows) (hid : i.id ∈ ids) :
    (((db.asked ids).map db.outstandingOf).filter fun o => o.invoiceId = i.id) =
      [db.outstandingOf i] := by
  have hfilter : (db.asked ids).filter (fun j => j.id = i.id) = [i] :=
    filter_key nodup_asked_ids (mem_asked.mpr ⟨hi, hid⟩)
  rw [List.filter_map]
  have hcomp : ((fun o : OutstandingRow => decide (o.invoiceId = i.id)) ∘ db.outstandingOf) =
      fun j => decide (j.id = i.id) := by
    funext j
    rw [Function.comp_apply, outstandingOf_invoiceId]
  rw [hcomp, hfilter, List.map_singleton]

/-- The answer of the single form. -/
theorem invoiceOutstandingOne_eq_ok {db : ReceivableTables} {i : InvoiceRow}
    (hi : i ∈ db.invoices.rows) :
    invoiceOutstandingOne db i.id = .ok [(db.outstandingOf i).figures] := by
  have hnames : db.Names [i.id] := by
    intro id hid
    exact ⟨i, hi, (List.mem_singleton.mp hid).symm⟩
  have hasked : db.asked [i.id] = [i] := by
    have hsub : (db.asked [i.id]).map InvoiceRow.id ⊆ [i.id] := fun id hid =>
      List.mem_dedup.mp (asked_ids_subset hid)
    have hmem : i ∈ db.asked [i.id] := mem_asked.mpr ⟨hi, List.mem_singleton_self _⟩
    have hlen := length_asked_iff.mpr hnames
    obtain ⟨j, hj⟩ := List.length_eq_one_iff.mp hlen
    rw [hj] at hmem ⊢
    rw [List.mem_singleton.mp hmem]
  unfold invoiceOutstandingOne
  rw [invoiceOutstanding_eq_ok.mpr ⟨hnames, rfl⟩, hasked, ok_bind]
  rfl

/-- The two forms agree on a list of ids: the set-based one has one row for each of them, which the
    single one answers too, and where an id names no invoice both raise. -/
structure SetAgrees (db : ReceivableTables) (ids : List Uuid) : Prop where
  named : db.Names ids → ∃ rows, invoiceOutstanding db ids = .ok rows ∧
    (rows.map OutstandingRow.invoiceId).Nodup ∧
    (∀ id, id ∈ rows.map OutstandingRow.invoiceId ↔ id ∈ ids) ∧
    ∀ o ∈ rows, invoiceOutstandingOne db o.invoiceId = .ok [o.figures]
  unnamed : ¬ db.Names ids → invoiceOutstanding db ids = .error invoiceNotFound ∧
    ∃ id ∈ ids, invoiceOutstandingOne db id = .error invoiceNotFound

theorem setAgrees (db : ReceivableTables) (ids : List Uuid) : SetAgrees db ids where
  named := by
    intro hnames
    have hids : ((db.asked ids).map db.outstandingOf).map OutstandingRow.invoiceId =
        (db.asked ids).map InvoiceRow.id := by
      rw [List.map_map]
      exact List.map_congr_left fun _ _ => outstandingOf_invoiceId
    refine ⟨_, invoiceOutstanding_eq_ok.mpr ⟨hnames, rfl⟩, ?_, ?_, ?_⟩
    · rw [hids]
      exact nodup_asked_ids
    · intro id
      rw [hids]
      constructor
      · exact fun hid => List.mem_dedup.mp (asked_ids_subset hid)
      · intro hid
        obtain ⟨i, hi, rfl⟩ := hnames id hid
        exact List.mem_map_of_mem (mem_asked.mpr ⟨hi, hid⟩)
    · intro o ho
      obtain ⟨i, hi, rfl⟩ := List.mem_map.mp ho
      rw [outstandingOf_invoiceId]
      exact invoiceOutstandingOne_eq_ok (mem_asked.mp hi).1
  unnamed := by
    intro hnames
    refine ⟨invoiceOutstanding_of_not_names hnames, ?_⟩
    unfold Names at hnames
    rw [not_forall₂] at hnames
    obtain ⟨id, hid, hnone⟩ := hnames
    refine ⟨id, hid, ?_⟩
    have hone : ¬ db.Names [id] := fun h => hnone (h id (List.mem_singleton_self id))
    unfold invoiceOutstandingOne
    rw [invoiceOutstanding_of_not_names hone]
    rfl

/-! ## 5. After a COMMIT -/

namespace ReceivableDb

variable {db : ReceivableDb} {i : InvoiceRow}

/-- What was released of an invoice is between nothing and its base. -/
theorem paidBase_bounds (hi : i ∈ db.invoices.rows) :
    0 ≤ paidBase db.reducers i.id ∧ paidBase db.reducers i.id ≤ i.totalBaseMinor := by
  obtain ⟨⟨h0, hle⟩, hshare⟩ := db.settled i hi
  have hb : 0 ≤ i.totalBaseMinor := zero_le_one.trans i.total_base.1
  have ht : 0 < i.totalTxnMinor := i.total_txn.1
  have hlo := apShare_mono hb ht h0
  have hhi := apShare_mono hb ht hle
  rw [apShare_zero] at hlo
  rw [apShare_total _ ht] at hhi
  unfold reducers
  rw [hshare]
  exact ⟨hlo, hhi⟩

/-- What an invoice owes is between nothing and its total. -/
theorem outstandingOf_bounds (hi : i ∈ db.invoices.rows) :
    0 ≤ (db.outstandingOf i).outstandingTxnMinor ∧
      (db.outstandingOf i).outstandingTxnMinor ≤ i.totalTxnMinor := by
  have ht : 1 ≤ i.totalTxnMinor := i.total_txn.1
  obtain ⟨⟨h0, hle⟩, _⟩ := db.settled i hi
  have h0' : 0 ≤ paidTxn db.reducers i.id := h0
  have hle' : paidTxn db.reducers i.id ≤ i.totalTxnMinor := hle
  unfold outstandingOf
  split
  · exact ⟨le_rfl, zero_le_one.trans ht⟩
  · split
    · exact ⟨le_rfl, zero_le_one.trans ht⟩
    · exact ⟨sub_nonneg.mpr hle', sub_le_self _ h0'⟩

end ReceivableDb

end Daftar.Inventory.Receivables
