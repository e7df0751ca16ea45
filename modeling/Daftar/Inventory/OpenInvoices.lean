/-
  File: Daftar/Inventory/OpenInvoices.lean
  Subject: The open invoices of a customer, page by page.

  * `customerOpenInvoicesPage` is the routine: it takes candidates a chunk at a time and keeps those
    the set-based reader finds something outstanding for.
  * `customerOpenInvoicesPage_eq`: it is filter, then limit, whatever the size of a chunk.
  * `openInvoices` is the read over it, which asks for one row more than it shows.
  * `openInvoices_walk`: following its cursor yields every open invoice exactly once.
-/

import Daftar.Inventory.InvoiceOutstanding
import Daftar.Library.KeysetPages
import Mathlib.Data.Prod.Lex
import Mathlib.Data.String.Basic

namespace Daftar.Inventory.Receivables

open Fallible
open KeysetPages
open ReceivableTables
open Tables

/-! ## 1. The routine -/

/-- `(issue_date, id)`; a uuid has the order of its text. -/
abbrev InvoiceKey := ℤ ×ₗ String

def InvoiceRow.key (i : InvoiceRow) : InvoiceKey := toLex (i.issueDate, i.id.text)

/-- A row of the page. -/
structure OpenInvoiceRow where
  invoiceId : Uuid
  issueDate : ℤ
  paidTxnMinor : ℤ
  paidBaseMinor : ℤ
  outstandingTxnMinor : ℤ
  outstandingBaseMinor : ℤ
  currencyCode : String
  dueDate : Option ℤ
  deriving DecidableEq

def OpenInvoiceRow.key (o : OpenInvoiceRow) : InvoiceKey := toLex (o.issueDate, o.invoiceId.text)

def IsInteger (v : ℤ) : Prop := -2 ^ 31 ≤ v ∧ v < 2 ^ 31

instance (v : ℤ) : Decidable (IsInteger v) := inferInstanceAs (Decidable (_ ∧ _))

/-- `greatest(p_limit * 4, 64)`; a NULL is passed over. -/
def chunkSize : Option ℤ → Routine ℕ
  | none => .ok 64
  | some limit =>
      if IsInteger (limit * 4) then .ok (max (limit * 4) 64).toNat else .error .integerOutOfRange

/-- `v_cur_id IS NULL OR (i.issue_date, i.id) > (v_cur_date, v_cur_id)`. No row is behind a NULL
    date. -/
def afterCursor (curDate : Option ℤ) (curId : Option Uuid) (i : InvoiceRow) : Bool :=
  match curId, curDate with
  | none, _ => true
  | some _, none => false
  | some id, some date => toLex (date, id.text) < i.key

/-- The open invoices of the customer whose sale is not a cash sale. -/
def isCandidate (db : ReceivableTables) (customerId : Uuid) (i : InvoiceRow) : Bool :=
  i.customerId = some customerId && i.status = .issued &&
    (db.sales.find? i.saleId).any fun s => s.settlementMode ≠ .cash

def nextCandidates (db : ReceivableTables) (customerId : Uuid) (curDate : Option ℤ)
    (curId : Option Uuid) (chunk : ℕ) : List InvoiceRow :=
  (ordered InvoiceRow.key (db.invoices.rows.filter fun i =>
    isCandidate db customerId i && afterCursor curDate curId i)).take chunk

/-- The candidates joined with what is outstanding of them. -/
def joinOutstanding (got : List InvoiceRow) (answer : List OutstandingRow) : List OpenInvoiceRow :=
  got.flatMap fun k =>
    (answer.filter fun o => o.invoiceId = k.id ∧ o.outstandingTxnMinor ≠ 0).map fun o =>
      ⟨o.invoiceId, k.issueDate, o.paidTxnMinor, o.paidBaseMinor, o.outstandingTxnMinor,
        o.outstandingBaseMinor, o.currencyCode, o.dueDate⟩

/-- The loop. It has no result where its turns do not suffice. -/
def pageLoop (db : ReceivableTables) (customerId : Uuid) (limit chunk : ℕ) :
    ℕ → Option ℤ → Option Uuid → ℕ → Option (Routine (List OpenInvoiceRow))
  | 0, _, _, _ => none
  | turns + 1, curDate, curId, emitted =>
      let got := nextCandidates db customerId curDate curId chunk
      if got.length = 0 then some (.ok [])
      else
        match invoiceOutstanding db (got.map InvoiceRow.id) with
        | .error e => some (.error e)
        | .ok answer =>
            let added := (ordered OpenInvoiceRow.key (joinOutstanding got answer)).take (limit - emitted)
            if limit ≤ emitted + added.length ∨ got.length < chunk then some (.ok added)
            else
              (pageLoop db customerId limit chunk turns (got.getLast?.map InvoiceRow.issueDate)
                (got.getLast?.map InvoiceRow.id) (emitted + added.length)).map ((added ++ ·) <$> ·)

/-- The date of a cursor that has only its id. -/
def resolveDate (db : ReceivableTables) (afterDate : Option ℤ) : Option Uuid → Option ℤ
  | none => afterDate
  | some id =>
      match afterDate with
      | none => (db.invoices.find? id).map InvoiceRow.issueDate
      | some date => some date

/-- `customer_open_invoices_page`. -/
def customerOpenInvoicesPage (turns : ℕ) (db : ReceivableTables) (customerId : Uuid)
    (afterIssueDate : Option ℤ) (afterId : Option Uuid) (limit : Option ℤ) :
    Option (Routine (List OpenInvoiceRow)) :=
  match chunkSize limit with
  | .error e => some (.error e)
  | .ok chunk =>
      match limit with
      | none => some (.ok [])
      | some n =>
          if n ≤ 0 then some (.ok [])
          else pageLoop db customerId n.toNat chunk turns (resolveDate db afterIssueDate afterId) afterId 0

/-! ## 2. The read over it -/

inductive SettlementState
  | unpaid | part | paid
  deriving DecidableEq, Repr

def SettlementState.text : SettlementState → String
  | unpaid => "unpaid"
  | part => "partial"
  | paid => "paid"

/-- `invoice_settlement_state`. -/
def invoiceSettlementState (db : ReceivableTables) (id : Uuid) : Routine SettlementState := do
  let i ← someOr (db.invoices.find? id) invoiceNotFound
  let rows ← invoiceOutstandingOne db id
  let paid := rows.head?.map Prod.fst
  pure (if paid.any (· ≤ 0) then .unpaid else if paid.any (i.totalTxnMinor ≤ ·) then .paid else .part)

structure CustomerOpenInvoice where
  invoiceId : Uuid
  issueDate : ℤ
  dueDate : Option ℤ
  currency : String
  totalTxnMinor : ℤ
  outstandingTxnMinor : ℤ
  outstandingBaseMinor : ℤ
  settlementState : SettlementState
  daysPastDue : ℤ
  hasExplicitDueDate : Bool
  ageDays : ℤ
  isCredit : Bool
  deriving DecidableEq

def CustomerOpenInvoice.key (o : CustomerOpenInvoice) : InvoiceKey :=
  toLex (o.issueDate, o.invoiceId.text)

/-- The columns of a row of the page and of its invoice. Every document is an invoice, so a credit
    is one by its sign. -/
def openInvoiceColumns (asOf : ℤ) (o : OpenInvoiceRow) (i : InvoiceRow) (state : SettlementState) :
    CustomerOpenInvoice where
  invoiceId := o.invoiceId
  issueDate := o.issueDate
  dueDate := o.dueDate
  currency := o.currencyCode
  totalTxnMinor := i.totalTxnMinor
  outstandingTxnMinor := o.outstandingTxnMinor
  outstandingBaseMinor := o.outstandingBaseMinor
  settlementState := state
  daysPastDue := if o.outstandingTxnMinor < 0 then 0 else asOf - o.dueDate.getD o.issueDate
  hasExplicitDueDate := o.dueDate.isSome
  ageDays := asOf - o.issueDate
  isCredit := o.outstandingTxnMinor < 0

structure CustomerOpenInvoicesQuery where
  asOf : ℤ
  cursor : Option Uuid
  limit : Option ℕ

structure CustomerOpenInvoices where
  customerId : Uuid
  asOf : ℤ
  items : List CustomerOpenInvoice
  nextCursor : Option Uuid
  deriving DecidableEq

inductive ReadRefusal
  | customerNotFound
  | agingBucketMappingInvalid (cause : Option String)
  | database (e : SqlError)
  deriving DecidableEq, Repr

def DEFAULT_LIMIT : ℕ := 20

/-- The statement over a page: its rows with their invoices, in order. -/
def openInvoiceItems (db : ReceivableTables) (asOf : ℤ) (page : List OpenInvoiceRow) :
    Routine (List CustomerOpenInvoice) := do
  let joined := page.filterMap fun o => (db.invoices.find? o.invoiceId).map (Prod.mk o)
  let items ← joined.mapM fun oi => do
    let state ← invoiceSettlementState db oi.2.id
    pure (openInvoiceColumns asOf oi.1 oi.2 state)
  pure (ordered CustomerOpenInvoice.key items)

/-- The first items of a fetch that asked for one more. -/
def openInvoicesOf (customerId : Uuid) (asOf : ℤ) (size : ℕ) (found : List CustomerOpenInvoice) :
    CustomerOpenInvoices :=
  let items := found.take size
  ⟨customerId, asOf, items,
    if size < found.length then items.getLast?.map CustomerOpenInvoice.invoiceId else none⟩

/-- `openInvoices`, for the customers of the business. -/
def openInvoices (turns : ℕ) (db : ReceivableTables) (customers : List Uuid) (customerId : Uuid)
    (q : CustomerOpenInvoicesQuery) : Option (Except ReadRefusal CustomerOpenInvoices) :=
  if customerId ∉ customers then some (.error .customerNotFound)
  else
    let size := q.limit.getD DEFAULT_LIMIT
    (customerOpenInvoicesPage turns db customerId none q.cursor (some (size + 1))).map fun page => do
      let rows ← page.mapError .database
      let found ← (openInvoiceItems db q.asOf rows).mapError .database
      pure (openInvoicesOf customerId q.asOf size found)

/-! ## 3. What the loop finds -/

section Loop

variable {db : ReceivableTables} {customerId : Uuid} {i : InvoiceRow} {got : List InvoiceRow}
  {curDate : Option ℤ} {curId : Option Uuid} {limit chunk emitted turns : ℕ}

/-- Something is outstanding of the invoice. -/
def IsOutstanding (db : ReceivableTables) (i : InvoiceRow) : Bool :=
  (db.outstandingOf i).outstandingTxnMinor ≠ 0

/-- The row of the page of an invoice. -/
def pageRow (db : ReceivableTables) (i : InvoiceRow) : OpenInvoiceRow :=
  ⟨i.id, i.issueDate, (db.outstandingOf i).paidTxnMinor, (db.outstandingOf i).paidBaseMinor,
    (db.outstandingOf i).outstandingTxnMinor, (db.outstandingOf i).outstandingBaseMinor,
    i.currencyCode, i.dueDate⟩

/-- The customer's invoices with something outstanding, behind a cursor and in order. -/
def invoicesAfter (db : ReceivableTables) (customerId : Uuid) (curDate : Option ℤ)
    (curId : Option Uuid) : List InvoiceRow :=
  ordered InvoiceRow.key (db.invoices.rows.filter fun i =>
    i.customerId = some customerId && IsOutstanding db i && afterCursor curDate curId i)

theorem invoiceKeys_nodup (db : ReceivableTables) :
    (db.invoices.rows.map InvoiceRow.key).Nodup := by
  refine List.pairwise_map.mpr ((List.pairwise_map.mp db.invoices.keys).imp fun hne hkey => hne ?_)
  simp only [InvoiceRow.key, EmbeddingLike.apply_eq_iff_eq, Prod.mk.injEq] at hkey
  exact Uuid.ext_text hkey.2

theorem filter_keys_nodup (p : InvoiceRow → Bool) :
    ((db.invoices.rows.filter p).map InvoiceRow.key).Nodup :=
  (invoiceKeys_nodup db).sublist (List.filter_sublist.map _)

/-- **What is not a candidate has nothing outstanding.** -/
theorem isCandidate_of_outstanding (hi : i ∈ db.invoices.rows)
    (hout : IsOutstanding db i = true) (hcustomer : i.customerId = some customerId) :
    isCandidate db customerId i = true := by
  have hne : (db.outstandingOf i).outstandingTxnMinor ≠ 0 := of_decide_eq_true hout
  have hstatus : i.status = .issued := by
    by_contra hst
    refine hne ?_
    unfold outstandingOf
    rw [if_pos hst]
  have hcash : ¬ db.IsCash i := fun hc => hne (outstandingOf_cash hc)
  obtain ⟨s, hs⟩ := Option.isSome_iff_exists.mp (db.sale_fk i hi)
  unfold IsCash at hcash
  rw [hs, Option.map_some, Option.some.injEq] at hcash
  unfold isCandidate
  rw [hs, hcustomer, hstatus]
  simp [hcash]

theorem customer_of_isCandidate (h : isCandidate db customerId i = true) :
    i.customerId = some customerId := by
  simp only [isCandidate, Bool.and_eq_true, decide_eq_true_eq] at h
  exact h.1.1

/-- All candidates in order, which the loop takes its chunks from. -/
def allCandidates (db : ReceivableTables) (customerId : Uuid) : List InvoiceRow :=
  ordered InvoiceRow.key (db.invoices.rows.filter fun i => isCandidate db customerId i)

theorem strict_allCandidates : Strict InvoiceRow.key (allCandidates db customerId) :=
  strict_ordered (filter_keys_nodup _)

theorem mem_allCandidates (h : i ∈ allCandidates db customerId) : i ∈ db.invoices.rows :=
  List.mem_of_mem_filter (mem_ordered.mp h)

/-- The key of a cursor that has both of its parts, or none. -/
def cursorKey (curDate : Option ℤ) (curId : Option Uuid) : Option InvoiceKey :=
  curId.bind fun id => curDate.map fun date => toLex (date, id.text)

/-- A cursor that can be compared with. -/
def Comparable (curDate : Option ℤ) (curId : Option Uuid) : Prop := curId.isSome → curDate.isSome

theorem afterCursor_eq (h : Comparable curDate curId) :
    afterCursor curDate curId i = beyond InvoiceRow.key (cursorKey curDate curId) i := by
  cases curId with
  | none => rfl
  | some id =>
      obtain ⟨date, rfl⟩ := Option.isSome_iff_exists.mp (h rfl)
      rfl

/-- With a date that is NULL no row is behind the cursor. -/
theorem afterCursor_null (h : ¬ Comparable curDate curId) : afterCursor curDate curId i = false := by
  cases curId with
  | none => exact absurd (fun hs => by cases hs) h
  | some id =>
      cases curDate with
      | none => rfl
      | some date => exact absurd (fun _ => rfl) h

theorem nextCandidates_eq (h : Comparable curDate curId) :
    nextCandidates db customerId curDate curId chunk =
      ((allCandidates db customerId).filter
        (beyond InvoiceRow.key (cursorKey curDate curId))).take chunk := by
  unfold nextCandidates allCandidates
  rw [← ordered_filter (filter_keys_nodup _), List.filter_filter]
  congr 2
  apply List.filter_congr
  intro i _
  rw [afterCursor_eq h, Bool.and_comm]

/-- **The outstanding rows of a chunk** are the rows of its invoices with something outstanding. -/
theorem joinOutstanding_eq (hsub : ∀ i ∈ got, i ∈ db.invoices.rows) :
    joinOutstanding got ((db.asked (got.map InvoiceRow.id)).map db.outstandingOf) =
      (got.filter (IsOutstanding db)).map (pageRow db) := by
  have hone : ∀ i ∈ got, (((db.asked (got.map InvoiceRow.id)).map db.outstandingOf).filter fun o =>
      o.invoiceId = i.id ∧ o.outstandingTxnMinor ≠ 0) =
      if IsOutstanding db i then [db.outstandingOf i] else [] := by
    intro i hi
    have hid : i.id ∈ got.map InvoiceRow.id := List.mem_map_of_mem hi
    have hrow := rows_filter_eq (hsub i hi) hid
    have hand : ∀ o : OutstandingRow,
        decide (o.invoiceId = i.id ∧ o.outstandingTxnMinor ≠ 0) =
          (decide (o.outstandingTxnMinor ≠ 0) && decide (o.invoiceId = i.id)) := by
      intro o
      rw [Bool.decide_and, Bool.and_comm]
    simp only [hand]
    rw [← List.filter_filter, hrow, List.filter_singleton, ← Bool.cond_eq_ite]
    rfl
  unfold joinOutstanding
  generalize hids : (db.asked (got.map InvoiceRow.id)).map db.outstandingOf = answer at hone ⊢
  clear hids hsub
  induction got with
  | nil => rfl
  | cons i got ih =>
      rw [List.forall_mem_cons] at hone
      rw [List.flatMap_cons, ih hone.2, hone.1]
      cases hout : IsOutstanding db i with
      | false => rw [if_neg (by decide), List.filter_cons_of_neg (by rw [hout]; decide)]; rfl
      | true =>
          rw [if_pos rfl, List.filter_cons_of_pos hout, List.map_cons]
          simp only [List.map_cons, outstandingOf_invoiceId, outstandingOf_currencyCode,
            outstandingOf_dueDate]
          rfl

/-- The rows of strictly ordered invoices need no sorting. -/
theorem ordered_pageRows (h : Strict InvoiceRow.key got) :
    ordered OpenInvoiceRow.key (got.map (pageRow db)) = got.map (pageRow db) := by
  have hstrict : Strict OpenInvoiceRow.key (got.map (pageRow db)) := List.pairwise_map.mpr h
  have hkeys : ((got.map (pageRow db)).map OpenInvoiceRow.key).Nodup :=
    List.pairwise_map.mpr (hstrict.imp fun hlt => ne_of_lt hlt)
  exact (strict_ordered hkeys).eq_of_perm hstrict (perm_ordered _)

/-- **The loop is a scan in chunks** for the candidates with something outstanding. -/
theorem pageLoop_eq_chunkScan (h : Comparable curDate curId) :
    pageLoop db customerId limit chunk turns curDate curId emitted =
      (chunkScan InvoiceRow.key (allCandidates db customerId) (IsOutstanding db) limit chunk turns
        (cursorKey curDate curId) emitted).map fun found => .ok (found.map (pageRow db)) := by
  induction turns generalizing curDate curId emitted with
  | zero => rfl
  | succ turns ih =>
      rw [pageLoop, chunkScan, nextCandidates_eq h]
      generalize hgot : ((allCandidates db customerId).filter
        (beyond InvoiceRow.key (cursorKey curDate curId))).take chunk = got
      have hsub : ∀ i ∈ got, i ∈ db.invoices.rows := by
        intro i hi
        rw [← hgot] at hi
        exact mem_allCandidates (List.mem_of_mem_filter (List.mem_of_mem_take hi))
      have hstrict : Strict InvoiceRow.key got := by
        rw [← hgot]
        exact (strict_allCandidates.filter _).take
      have hnames : db.Names (got.map InvoiceRow.id) := by
        intro id hid
        obtain ⟨i, hi, rfl⟩ := List.mem_map.mp hid
        exact ⟨i, hsub i hi, rfl⟩
      simp only [invoiceOutstanding_eq_ok.mpr ⟨hnames, rfl⟩, joinOutstanding_eq hsub,
        ordered_pageRows (hstrict.filter _), ← List.map_take, List.length_map]
      split
      · rfl
      · rename_i hne
        split
        · rfl
        · obtain ⟨x, hx⟩ : ∃ x, got.getLast? = some x := by
            cases hlast : got.getLast? with
            | none => exact absurd (List.length_eq_zero_iff.mpr (List.getLast?_eq_none_iff.mp hlast)) hne
            | some x => exact ⟨x, rfl⟩
          have hnext : Comparable (some x.issueDate) (some x.id) := fun _ => rfl
          have hkey : cursorKey (some x.issueDate) (some x.id) = some x.key := rfl
          rw [hx, Option.map_some, Option.map_some, Option.map_some, ih hnext, hkey, Option.map_map,
            Option.map_map]
          congr 1
          funext found
          show Except.ok _ = Except.ok _
          rw [List.map_append]

/-- **The loop finds the first invoices with something outstanding behind its cursor**, whatever the
    size of a chunk. -/
theorem pageLoop_eq (hchunk : 1 ≤ chunk) (hturns : db.invoices.rows.length < turns) :
    pageLoop db customerId limit chunk turns curDate curId 0 =
      some (.ok (((invoicesAfter db customerId curDate curId).take limit).map (pageRow db))) := by
  by_cases h : Comparable curDate curId
  · have hlen : ((allCandidates db customerId).filter
        (beyond InvoiceRow.key (cursorKey curDate curId))).length < turns := by
      refine lt_of_le_of_lt ((List.length_filter_le _ _).trans ?_) hturns
      unfold allCandidates
      rw [(perm_ordered _).length_eq]
      exact List.length_filter_le _ _
    have hkeep : ((allCandidates db customerId).filter
        (beyond InvoiceRow.key (cursorKey curDate curId))).filter (IsOutstanding db) =
        invoicesAfter db customerId curDate curId := by
      unfold allCandidates invoicesAfter
      rw [← ordered_filter (filter_keys_nodup _), List.filter_filter,
        ← ordered_filter (filter_keys_nodup _), List.filter_filter]
      congr 1
      apply List.filter_congr
      intro i hi
      rw [← afterCursor_eq h]
      cases hout : IsOutstanding db i with
      | false => simp only [Bool.false_and, Bool.and_false]
      | true =>
          by_cases hc : i.customerId = some customerId
          · rw [isCandidate_of_outstanding hi hout hc, hc]
            simp
          · have hnot : isCandidate db customerId i = false :=
              Bool.eq_false_iff.mpr fun hcand => hc (customer_of_isCandidate hcand)
            rw [hnot, decide_eq_false hc]
            simp
    rw [pageLoop_eq_chunkScan h, chunkScan_eq strict_allCandidates hchunk hlen, Option.map_some, hkeep,
      Nat.sub_zero]
  · have hnone : invoicesAfter db customerId curDate curId = [] := by
      unfold invoicesAfter
      simp only [afterCursor_null h, Bool.and_false, List.filter_false]
      rfl
    obtain ⟨t, rfl⟩ : ∃ t, turns = t + 1 := ⟨turns - 1, by omega⟩
    have hgot : nextCandidates db customerId curDate curId chunk = [] := by
      unfold nextCandidates
      simp only [afterCursor_null h, Bool.and_false, List.filter_false]
      exact List.take_nil
    rw [pageLoop, hgot, hnone, List.take_nil]
    rfl

/-- **The page is filter, then limit.** -/
theorem customerOpenInvoicesPage_eq {afterDate : Option ℤ} {afterId : Option Uuid} {n : ℤ}
    (hlo : 1 ≤ n) (hhi : n ≤ 2 ^ 29 - 1) (hturns : db.invoices.rows.length < turns) :
    customerOpenInvoicesPage turns db customerId afterDate afterId (some n) =
      some (.ok (((invoicesAfter db customerId (resolveDate db afterDate afterId) afterId).take
        n.toNat).map (pageRow db))) := by
  have hchunk : chunkSize (some n) = .ok (max (n * 4) 64).toNat := by
    have hfits : IsInteger (n * 4) := ⟨by omega, by omega⟩
    unfold chunkSize
    simp only [hfits, if_true]
  unfold customerOpenInvoicesPage
  rw [hchunk]
  simp only
  rw [if_neg (by omega), pageLoop_eq (by omega) hturns]

end Loop

/-! ## 4. What the read shows -/

section Read

variable {db : ReceivableTables} {customerId : Uuid} {i : InvoiceRow} {asOf : ℤ}
  {is : List InvoiceRow} {turns : ℕ} {customers : List Uuid} {q : CustomerOpenInvoicesQuery}
  {cursor : Option Uuid}

def stateOf (db : ReceivableTables) (i : InvoiceRow) : SettlementState :=
  if (db.outstandingOf i).paidTxnMinor ≤ 0 then .unpaid
  else if i.totalTxnMinor ≤ (db.outstandingOf i).paidTxnMinor then .paid
  else .part

/-- The item of an invoice. -/
def itemOf (db : ReceivableTables) (asOf : ℤ) (i : InvoiceRow) : CustomerOpenInvoice :=
  openInvoiceColumns asOf (pageRow db i) i (stateOf db i)

theorem invoiceSettlementState_eq (hi : i ∈ db.invoices.rows) :
    invoiceSettlementState db i.id = .ok (stateOf db i) := by
  have hfind : db.invoices.find? i.id = some i := Table.find?_eq_some.mpr ⟨hi, rfl⟩
  unfold invoiceSettlementState
  rw [hfind, someOr_some, ok_bind, invoiceOutstandingOne_eq_ok hi, ok_bind]
  simp only [List.head?_cons, Option.map_some, OutstandingRow.figures, Option.any_some,
    decide_eq_true_eq]
  rfl

/-- **The statement over a page never raises**, and it keeps the order of the page. -/
theorem openInvoiceItems_eq (hsub : ∀ i ∈ is, i ∈ db.invoices.rows) (hstrict : Strict InvoiceRow.key is) :
    openInvoiceItems db asOf (is.map (pageRow db)) = .ok (is.map (itemOf db asOf)) := by
  have hjoin : (is.map (pageRow db)).filterMap (fun o =>
      (db.invoices.find? o.invoiceId).map (Prod.mk o)) = is.map fun i => (pageRow db i, i) := by
    rw [List.filterMap_map]
    clear hstrict
    induction is with
    | nil => rfl
    | cons i is ih =>
        rw [List.forall_mem_cons] at hsub
        have hfind : db.invoices.find? (pageRow db i).invoiceId = some i :=
          Table.find?_eq_some.mpr ⟨hsub.1, rfl⟩
        rw [List.filterMap_cons_some (by rw [Function.comp_apply, hfind]; rfl), ih hsub.2, List.map_cons]
  have hitems : (is.map fun i => (pageRow db i, i)).mapM (fun oi => do
      let state ← invoiceSettlementState db oi.2.id
      pure (openInvoiceColumns asOf oi.1 oi.2 state)) = .ok (is.map (itemOf db asOf)) := by
    rw [List.mapM_map]
    refine mapM_eq_map_of fun i hi => ?_
    rw [Function.comp_apply, invoiceSettlementState_eq (hsub i hi)]
    rfl
  have hitem : Strict CustomerOpenInvoice.key (is.map (itemOf db asOf)) := List.pairwise_map.mpr hstrict
  have hkeys : ((is.map (itemOf db asOf)).map CustomerOpenInvoice.key).Nodup :=
    List.pairwise_map.mpr (hitem.imp fun hlt => ne_of_lt hlt)
  unfold openInvoiceItems
  simp only [hjoin, hitems, ok_bind, (strict_ordered hkeys).eq_of_perm hitem (perm_ordered _)]
  rfl

/-- All open invoices of the customer, in order. -/
def openOnes (db : ReceivableTables) (customerId : Uuid) : List InvoiceRow :=
  ordered InvoiceRow.key (db.invoices.rows.filter fun i =>
    i.customerId = some customerId && IsOutstanding db i)

theorem strict_openOnes : Strict InvoiceRow.key (openOnes db customerId) :=
  strict_ordered (filter_keys_nodup _)

theorem mem_openOnes : i ∈ openOnes db customerId ↔ i ∈ db.invoices.rows ∧
    i.customerId = some customerId ∧ (db.outstandingOf i).outstandingTxnMinor ≠ 0 := by
  unfold openOnes IsOutstanding
  rw [mem_ordered, List.mem_filter, Bool.and_eq_true, decide_eq_true_eq, decide_eq_true_eq]

/-- A cursor of the read: none, or an invoice's id. -/
def Issued (db : ReceivableTables) (cursor : Option Uuid) : Prop :=
  ∀ id, cursor = some id → ∃ i ∈ db.invoices.rows, i.id = id

/-- The key of an issued cursor. -/
def issuedKey (db : ReceivableTables) (cursor : Option Uuid) : Option InvoiceKey :=
  cursorKey (resolveDate db none cursor) cursor

theorem issuedKey_some (hi : i ∈ db.invoices.rows) : issuedKey db (some i.id) = some i.key := by
  have hfind : db.invoices.find? i.id = some i := Table.find?_eq_some.mpr ⟨hi, rfl⟩
  unfold issuedKey resolveDate
  simp only [hfind]
  rfl

theorem invoicesAfter_issued (h : Issued db cursor) :
    invoicesAfter db customerId (resolveDate db none cursor) cursor =
      (openOnes db customerId).filter (beyond InvoiceRow.key (issuedKey db cursor)) := by
  have hcomparable : Comparable (resolveDate db none cursor) cursor := by
    intro hsome
    obtain ⟨id, rfl⟩ := Option.isSome_iff_exists.mp hsome
    obtain ⟨i, hi, rfl⟩ := h id rfl
    have hfind : db.invoices.find? i.id = some i := Table.find?_eq_some.mpr ⟨hi, rfl⟩
    show ((db.invoices.find? i.id).map InvoiceRow.issueDate).isSome = true
    rw [hfind]
    rfl
  unfold invoicesAfter openOnes issuedKey
  rw [← ordered_filter (filter_keys_nodup _), List.filter_filter]
  congr 1
  apply List.filter_congr
  intro i _
  rw [afterCursor_eq hcomparable, Bool.and_comm]

/-- What a request shows: the first of the invoices behind its cursor. -/
def shown (db : ReceivableTables) (customerId : Uuid) (asOf : ℤ) (size : ℕ) (behind : List InvoiceRow) :
    CustomerOpenInvoices :=
  ⟨customerId, asOf, (behind.take size).map (itemOf db asOf),
    if behind.drop size ≠ [] then (behind.take size).getLast?.map InvoiceRow.id else none⟩

/-- The request is for a customer of the business and for a page the routine can count. -/
structure Askable (customers : List Uuid) (customerId : Uuid) (size : ℕ) : Prop where
  customer : customerId ∈ customers
  atLeastOne : 1 ≤ size
  countable : (size : ℤ) + 1 ≤ 2 ^ 29 - 1

theorem openInvoices_eq (hask : Askable customers customerId (q.limit.getD DEFAULT_LIMIT))
    (hturns : db.invoices.rows.length < turns) :
    openInvoices turns db customers customerId q =
      some (.ok (shown db customerId q.asOf (q.limit.getD DEFAULT_LIMIT)
        (invoicesAfter db customerId (resolveDate db none q.cursor) q.cursor))) := by
  obtain ⟨hcustomer, _, hcount⟩ := hask
  generalize hsize : q.limit.getD DEFAULT_LIMIT = size at hcount
  generalize hbehind : invoicesAfter db customerId (resolveDate db none q.cursor) q.cursor = behind
  have hnat : ((size : ℤ) + 1).toNat = size + 1 := by omega
  have hsub : ∀ i ∈ behind.take (size + 1), i ∈ db.invoices.rows := by
    intro i hi
    rw [← hbehind] at hi
    exact List.mem_of_mem_filter (mem_ordered.mp (List.mem_of_mem_take hi))
  have hstrict : Strict InvoiceRow.key (behind.take (size + 1)) := by
    rw [← hbehind]
    exact (strict_ordered (filter_keys_nodup _)).take
  unfold openInvoices
  simp only [hsize]
  rw [if_neg (not_not.mpr hcustomer),
    customerOpenInvoicesPage_eq (by omega) (by omega) hturns, hbehind, hnat, Option.map_some]
  simp only [Except.mapError, ok_bind, openInvoiceItems_eq hsub hstrict, openInvoicesOf, shown]
  have htake : ((behind.take (size + 1)).map (itemOf db q.asOf)).take size =
      (behind.take size).map (itemOf db q.asOf) := by rw [← List.map_take, take_lookAhead]
  have hlast : ((behind.take size).map (itemOf db q.asOf)).getLast?.map
      CustomerOpenInvoice.invoiceId = (behind.take size).getLast?.map InvoiceRow.id := by
    rw [List.getLast?_map, Option.map_map]
    rfl
  rw [htake, hlast, List.length_map]
  simp only [if_congr lt_length_lookAhead rfl rfl]
  rfl

/-- The requests of a walk: everything but the cursor stays. -/
def Shows (turns : ℕ) (db : ReceivableTables) (customers : List Uuid) (customerId : Uuid)
    (q : CustomerOpenInvoicesQuery) (cursor : Option Uuid) (page : CustomerOpenInvoices) : Prop :=
  openInvoices turns db customers customerId { q with cursor := cursor } = some (.ok page)

/-- The items an issued cursor leaves. -/
def LeavesOpen (db : ReceivableTables) (customerId : Uuid) (asOf : ℤ) (cursor : Option Uuid)
    (items : List CustomerOpenInvoice) : Prop :=
  Issued db cursor ∧ items = ((openOnes db customerId).filter
    (beyond InvoiceRow.key (issuedKey db cursor))).map (itemOf db asOf)

theorem shows_iff (hask : Askable customers customerId (q.limit.getD DEFAULT_LIMIT))
    (hturns : db.invoices.rows.length < turns) (hissued : Issued db cursor)
    {page : CustomerOpenInvoices} : Shows turns db customers customerId q cursor page ↔
      page = shown db customerId q.asOf (q.limit.getD DEFAULT_LIMIT)
        ((openOnes db customerId).filter (beyond InvoiceRow.key (issuedKey db cursor))) := by
  unfold Shows
  rw [openInvoices_eq (q := { q with cursor := cursor }) hask hturns, invoicesAfter_issued hissued,
    Option.some.injEq, Except.ok.injEq]
  exact eq_comm

/-- **Every page is a front of the items its cursor leaves.** -/
theorem openInvoices_fronts (hask : Askable customers customerId (q.limit.getD DEFAULT_LIMIT))
    (hturns : db.invoices.rows.length < turns) :
    Fronts (Shows turns db customers customerId q) CustomerOpenInvoices.nextCursor
      CustomerOpenInvoices.items (LeavesOpen db customerId q.asOf) := by
  intro cursor items page hleaves hshows
  obtain ⟨hissued, rfl⟩ := hleaves
  obtain rfl := (shows_iff hask hturns hissued).mp hshows
  have hone := hask.atLeastOne
  generalize q.limit.getD DEFAULT_LIMIT = size at *
  have hmem : ∀ i ∈ (openOnes db customerId).filter (beyond InvoiceRow.key (issuedKey db cursor)),
      i ∈ db.invoices.rows := fun i hi => (mem_openOnes.mp (List.mem_of_mem_filter hi)).1
  have hstrict : Strict InvoiceRow.key (openOnes db customerId) := strict_openOnes
  have hbehind := fun x => @filter_beyond_chunk _ _ _ _ _ size hstrict (issuedKey db cursor) x
  generalize (openOnes db customerId).filter (beyond InvoiceRow.key (issuedKey db cursor)) = behind at *
  refine ⟨(behind.drop size).map (itemOf db q.asOf), ?_, fun hnone => ?_, fun id hid => ?_⟩
  · show behind.map _ = (behind.take size).map _ ++ _
    rw [← List.map_append, List.take_append_drop]
  · by_contra hne
    have hdrop : behind.drop size ≠ [] := fun hnil => hne (by rw [hnil]; rfl)
    obtain ⟨x, hx⟩ := getLast?_take_of_lt hone hdrop
    simp only [shown, if_pos hdrop, hx] at hnone
    cases hnone
  · simp only [shown] at hid
    split at hid
    · obtain ⟨x, hx, rfl⟩ := Option.map_eq_some_iff.mp hid
      have hrow := hmem x (List.mem_of_mem_take (List.mem_of_getLast? hx))
      refine ⟨fun hnil => ?_, ⟨?_, ?_⟩⟩
      · have htake : behind.take size = [] := List.map_eq_nil_iff.mp hnil
        rw [htake] at hx
        cases hx
      · intro id heq
        exact ⟨x, hrow, Option.some.inj heq⟩
      · rw [issuedKey_some hrow, hbehind x hx]
    · cases hid

/-- **Following the cursor of the read yields every open invoice exactly once**, in order. -/
theorem openInvoices_walk (hask : Askable customers customerId (q.limit.getD DEFAULT_LIMIT))
    (hturns : db.invoices.rows.length < turns) :
    ∃ pages, Walk (Shows turns db customers customerId q) CustomerOpenInvoices.nextCursor none pages ∧
      (∀ others, Walk (Shows turns db customers customerId q) CustomerOpenInvoices.nextCursor none
        others → others = pages) ∧
      pages.flatMap CustomerOpenInvoices.items = (openOnes db customerId).map (itemOf db q.asOf) := by
  have hfront : Fronts (Shows turns db customers customerId q) _ _ _ :=
    openInvoices_fronts hask hturns
  have hnone : LeavesOpen db customerId q.asOf none ((openOnes db customerId).map (itemOf db q.asOf)) := by
    refine ⟨nofun, ?_⟩
    have hall : (openOnes db customerId).filter (beyond InvoiceRow.key (issuedKey db none)) =
        openOnes db customerId := List.filter_eq_self.mpr fun _ _ => rfl
    rw [hall]
  have hstep : ∀ c items, LeavesOpen db customerId q.asOf c items →
      ∃ page, Shows turns db customers customerId q c page := fun c items h =>
    ⟨_, (shows_iff hask hturns h.1).mpr rfl⟩
  have hfun : ∀ c r s, Shows turns db customers customerId q c r →
      Shows turns db customers customerId q c s → r = s := fun c r s hr hs =>
    Except.ok.inj (Option.some.inj (hr.symm.trans hs))
  obtain ⟨pages, hpages⟩ := exists_walk hfront hstep hnone
  exact ⟨pages, hpages, fun others h => h.unique hfun hpages, hpages.rows_eq hfront hnone⟩

end Read

/-! ## 5. The page and the walk -/

/-- **The open-invoice page is filter, then limit, and its walk loses nothing.** With more turns than
    there are invoices the loop ends, whatever the size of its chunks; what the cash filter leaves
    out has nothing outstanding; and the cursors of the read lead through every open invoice. -/
theorem open_invoices_page (db : ReceivableTables) (customerId : Uuid) :
    (∀ (afterDate : Option ℤ) (afterId : Option Uuid) (limit : ℤ) (turns : ℕ),
      1 ≤ limit → limit ≤ 2 ^ 29 - 1 → db.invoices.rows.length < turns →
      customerOpenInvoicesPage turns db customerId afterDate afterId (some limit) =
        some (.ok (((invoicesAfter db customerId (resolveDate db afterDate afterId) afterId).take
          limit.toNat).map (pageRow db)))) ∧
    (∀ (afterDate : Option ℤ) (afterId : Option Uuid) (limit chunk turns : ℕ),
      1 ≤ chunk → db.invoices.rows.length < turns →
      pageLoop db customerId limit chunk turns afterDate afterId 0 =
        some (.ok (((invoicesAfter db customerId afterDate afterId).take limit).map (pageRow db)))) ∧
    (∀ i ∈ db.invoices.rows, db.IsCash i → (db.outstandingOf i).outstandingTxnMinor = 0) ∧
    ∀ (customers : List Uuid) (q : CustomerOpenInvoicesQuery) (turns : ℕ),
      Askable customers customerId (q.limit.getD DEFAULT_LIMIT) → db.invoices.rows.length < turns →
      ∃ pages, Walk (Shows turns db customers customerId q) CustomerOpenInvoices.nextCursor none pages ∧
        (∀ others, Walk (Shows turns db customers customerId q) CustomerOpenInvoices.nextCursor none
          others → others = pages) ∧
        pages.flatMap CustomerOpenInvoices.items = (openOnes db customerId).map (itemOf db q.asOf) :=
  ⟨fun _ _ _ _ hlo hhi hturns => customerOpenInvoicesPage_eq hlo hhi hturns,
    fun _ _ _ _ _ hchunk hturns => pageLoop_eq hchunk hturns,
    fun _ _ hcash => outstandingOf_cash hcash,
    fun _ _ _ hask hturns => openInvoices_walk hask hturns⟩

def openSampleId (d : ℕ) : Uuid := .sample d

def openSampleInvoice (d : ℕ) : InvoiceRow where
  id := openSampleId d
  saleId := openSampleId 7
  customerId := some (openSampleId 8)
  status := .issued
  issueDate := 9000
  dueDate := none
  currencyCode := "EUR"
  totalTxnMinor := 1100
  totalBaseMinor := 2200
  sourceToBaseRate := 2
  total_txn := by decide
  total_base := by decide

/-- Three invoices of one day: one paid in full, one paid twice over, one not paid. -/
def openSample : ReceivableTables where
  invoices := ⟨[openSampleInvoice 3, openSampleInvoice 1, openSampleInvoice 2], by decide +kernel⟩
  sales := ⟨[⟨openSampleId 7, .credit⟩], List.nodup_singleton _⟩
  paymentAllocations := [⟨openSampleId 1, 1100, 2200⟩, ⟨openSampleId 2, 2200, 4400⟩]
  customerCreditApplications := []
  sale_fk := by decide +kernel
  fits := by decide +kernel

theorem open_invoices_page_sample :
    (customerOpenInvoicesPage 4 openSample (openSampleId 8) none none (some 1) =
        some (.ok (((invoicesAfter openSample (openSampleId 8) none none).take 1).map
          (pageRow openSample)))) ∧
      ∃ pages, Walk (Shows 4 openSample [openSampleId 8] (openSampleId 8) ⟨9010, none, some 1⟩)
          CustomerOpenInvoices.nextCursor none pages ∧
        pages.flatMap CustomerOpenInvoices.items =
          (openOnes openSample (openSampleId 8)).map (itemOf openSample 9010) := by
  obtain ⟨hpage, _, _, hwalk⟩ := open_invoices_page openSample (openSampleId 8)
  obtain ⟨pages, hpages, _, hitems⟩ := hwalk [openSampleId 8] ⟨9010, none, some 1⟩ 4
    ⟨List.mem_singleton_self _, by decide, by decide⟩ (by decide)
  exact ⟨hpage none none 1 4 (by decide) (by decide) (by decide), pages, hpages, hitems⟩

example : (openOnes openSample (openSampleId 8)).map (fun i => i.id) =
    [openSampleId 2, openSampleId 3] := by
  decide +kernel

end Daftar.Inventory.Receivables
