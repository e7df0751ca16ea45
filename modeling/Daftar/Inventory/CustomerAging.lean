/-
  File: Daftar/Inventory/CustomerAging.lean
  Subject: What a customer owes, by how long it has been due.

  * `customerArAging` and `customerArOpenDocumentCounts` are the two routines, `agingRows` the
    statement that joins them.
  * `inBand_iff`: over ascending boundaries the routine counts an invoice into the one band its days
    past due are in.
  * `customerArAging_eq`: where the figures fit their columns, every band is what its invoices owe.
  * `agingRows_eq`: no band and no counter of the join stands alone.
-/

import Daftar.Inventory.CustomerReceivable

namespace Daftar.Inventory.Receivables

open Fallible
open Grouping
open KeysetPages
open ReceivableTables
open Tables

/-! ## 1. The routines -/

structure AgingRow where
  bucketNo : ℤ
  currencyCode : String
  txnMinor : ℤ
  baseMinor : ℤ
  invoiceCount : ℤ
  deriving DecidableEq

/-- `n::integer` of a BIGINT. -/
def castInteger (n : ℤ) : Routine ℤ := do
  refuseIf (¬ IsInteger n) .integerOutOfRange
  pure n

/-- Without a due date an invoice is due from its issue date. -/
def OutstandingRow.daysPastDue (asOf : ℤ) (o : OutstandingRow) : ℤ :=
  asOf - o.dueDate.getD o.issueDate

/-- One more than the thresholds that are exceeded. -/
def bandNo (bucketDays : List ℤ) (days : ℤ) : ℤ :=
  1 + ((bucketDays.countP fun threshold => days > threshold : ℕ) : ℤ)

/-- `customer_ar_aging`. -/
def customerArAging (db : ReceivableTables) (customerId : Uuid) (asOf : ℤ) (bucketDays : List ℤ) :
    Routine (List AgingRow) := do
  let rows ← invoiceOutstanding db (openInvoiceIds db customerId)
  let banded ← (rows.filter fun o => o.outstandingTxnMinor ≠ 0).mapM fun o => do
    let bucketNo ← castInteger (bandNo bucketDays (o.daysPastDue asOf))
    pure (bucketNo, o)
  (groups (fun b => (b.1, b.2.currencyCode)) banded).mapM fun g => do
    let txnMinor ← castBigint (sumTxn (g.2.map Prod.snd))
    let baseMinor ← castBigint (sumBase (g.2.map Prod.snd))
    let invoiceCount ← castInteger g.2.length
    pure ⟨g.1.1, g.1.2, txnMinor, baseMinor, invoiceCount⟩

structure OpenDocumentCounts where
  currency : String
  openDebitCount : ℤ
  openCreditCount : ℤ
  deriving DecidableEq

/-- `count(DISTINCT invoice_id) FILTER (WHERE …)`. -/
def countInvoices (rows : List OutstandingRow) (p : OutstandingRow → Bool) : ℕ :=
  ((rows.filter p).map OutstandingRow.invoiceId).dedup.length

/-- `customer_ar_open_document_counts`. -/
def customerArOpenDocumentCounts (db : ReceivableTables) (customerId : Uuid) :
    Routine (List OpenDocumentCounts) := do
  let rows ← invoiceOutstanding db (openInvoiceIds db customerId)
  (groups OutstandingRow.currencyCode (rows.filter fun o => o.outstandingTxnMinor ≠ 0)).mapM
    fun g => do
      let debit ← castInteger (countInvoices g.2 fun o => o.outstandingTxnMinor > 0)
      let credit ← castInteger (countInvoices g.2 fun o => o.outstandingTxnMinor < 0)
      pure ⟨g.1, debit, credit⟩

/-- A row of the statement. The join leaves NULL what a side without a partner lacks. -/
structure CustomerAgingSqlRow where
  bucketNo : Option ℤ
  currencyCode : Option String
  txnMinor : Option ℤ
  baseMinor : Option ℤ
  invoiceCount : Option ℤ
  openDebitCount : Option ℤ
  openCreditCount : Option ℤ
  deriving DecidableEq

def sqlRow (j : Option AgingRow × Option OpenDocumentCounts) : CustomerAgingSqlRow where
  bucketNo := j.1.map AgingRow.bucketNo
  currencyCode := (j.1.map AgingRow.currencyCode).or (j.2.map OpenDocumentCounts.currency)
  txnMinor := j.1.map AgingRow.txnMinor
  baseMinor := j.1.map AgingRow.baseMinor
  invoiceCount := j.1.map AgingRow.invoiceCount
  openDebitCount := j.2.map OpenDocumentCounts.openDebitCount
  openCreditCount := j.2.map OpenDocumentCounts.openCreditCount

/-- `ORDER BY bucket_no NULLS FIRST, currency_code NULLS FIRST`. -/
def CustomerAgingSqlRow.key (r : CustomerAgingSqlRow) : WithBot ℤ ×ₗ WithBot String :=
  toLex (r.bucketNo, r.currencyCode)

/-- The bands joined with the counters of their currency. -/
def agingRows (db : ReceivableTables) (customerId : Uuid) (asOf : ℤ) (bucketDays : List ℤ) :
    Routine (List CustomerAgingSqlRow) := do
  let c ← customerArOpenDocumentCounts db customerId
  let a ← customerArAging db customerId asOf bucketDays
  pure (ordered CustomerAgingSqlRow.key
    ((fullJoin AgingRow.currencyCode OpenDocumentCounts.currency a c).map sqlRow))

/-! ## 2. Bands -/

/-- Beyond every boundary before the band, and beyond none after it. -/
def InBand (bucketDays : List ℤ) (bucketNo days : ℤ) : Prop :=
  (1 ≤ bucketNo ∧ bucketNo ≤ bucketDays.length + 1) ∧
    (∀ t ∈ bucketDays.take (bucketNo - 1).toNat, t < days) ∧
      ∀ t ∈ bucketDays.drop (bucketNo - 1).toNat, days ≤ t

instance (bucketDays : List ℤ) (bucketNo days : ℤ) : Decidable (InBand bucketDays bucketNo days) :=
  inferInstanceAs (Decidable (_ ∧ _ ∧ _))

section Bands

variable {bucketDays : List ℤ} {bucketNo days : ℤ}

theorem bandNo_bounds : 1 ≤ bandNo bucketDays days ∧
    bandNo bucketDays days ≤ bucketDays.length + 1 := by
  have hle := List.countP_le_length (p := fun t : ℤ => decide (days > t)) (l := bucketDays)
  unfold bandNo
  omega

/-- In ascending order the boundaries that are exceeded come first. -/
theorem exceeded_first (h : bucketDays.Pairwise (· < ·)) :
    (∀ t ∈ bucketDays.take (bucketDays.countP fun t => days > t), t < days) ∧
      ∀ t ∈ bucketDays.drop (bucketDays.countP fun t => days > t), days ≤ t := by
  induction bucketDays with
  | nil => exact ⟨nofun, nofun⟩
  | cons b bs ih =>
      obtain ⟨hb, hbs⟩ := List.pairwise_cons.mp h
      obtain ⟨htake, hdrop⟩ := ih hbs
      by_cases hdays : days > b
      · have hcount : (b :: bs).countP (fun t => days > t) = bs.countP (fun t => days > t) + 1 :=
          List.countP_cons_of_pos (decide_eq_true hdays)
        rw [hcount, List.take_succ_cons, List.drop_succ_cons]
        exact ⟨List.forall_mem_cons.mpr ⟨hdays, htake⟩, hdrop⟩
      · -- Where the first is not exceeded, none is.
        have hle : ∀ t ∈ b :: bs, days ≤ t :=
          List.forall_mem_cons.mpr ⟨not_lt.mp hdays, fun t ht => (not_lt.mp hdays).trans (hb t ht).le⟩
        have hnone : (b :: bs).countP (fun t => days > t) = 0 := by
          rw [List.countP_eq_zero]
          intro t ht hgt
          exact absurd (of_decide_eq_true hgt) (not_lt.mpr (hle t ht))
        rw [hnone]
        exact ⟨nofun, hle⟩

/-- **The band that is counted is the band the days are in.** -/
theorem inBand_iff (h : bucketDays.Pairwise (· < ·)) :
    InBand bucketDays bucketNo days ↔ bandNo bucketDays days = bucketNo := by
  constructor
  · intro hband
    obtain ⟨⟨h1, hlen⟩, htake, hdrop⟩ := hband
    have hbefore : (bucketDays.take (bucketNo - 1).toNat).countP (fun t => days > t) =
        (bucketDays.take (bucketNo - 1).toNat).length :=
      List.countP_eq_length.mpr fun t ht => decide_eq_true (htake t ht)
    have hafter : (bucketDays.drop (bucketNo - 1).toNat).countP (fun t => days > t) = 0 :=
      List.countP_eq_zero.mpr fun t ht hgt =>
        absurd (of_decide_eq_true hgt) (not_lt.mpr (hdrop t ht))
    have hcount : bucketDays.countP (fun t => days > t) = (bucketNo - 1).toNat := by
      conv_lhs => rw [← List.take_append_drop (bucketNo - 1).toNat bucketDays]
      rw [List.countP_append, hbefore, hafter, List.length_take]
      omega
    unfold bandNo
    rw [hcount]
    omega
  · intro hband
    subst hband
    have hcount : (bandNo bucketDays days - 1).toNat =
        bucketDays.countP fun t => days > t := by
      unfold bandNo
      omega
    refine ⟨bandNo_bounds, ?_⟩
    rw [hcount]
    exact exceeded_first h

end Bands

/-! ## 3. What the routines answer -/

section Aging

variable {db : ReceivableDb} {customerId : Uuid} {i : InvoiceRow} {is : List InvoiceRow} {asOf : ℤ}
  {bucketDays : List ℤ} {currency : String}

def InvoiceRow.daysPastDue (asOf : ℤ) (i : InvoiceRow) : ℤ := asOf - i.dueDate.getD i.issueDate

/-- The invoices of the customer that owe something. -/
def owing (db : ReceivableTables) (customerId : Uuid) : List InvoiceRow :=
  (openRows db customerId).filter (IsOutstanding db)

def bandKey (asOf : ℤ) (bucketDays : List ℤ) (i : InvoiceRow) : ℤ × String :=
  (bandNo bucketDays (i.daysPastDue asOf), i.currencyCode)

/-- The figures of a customer fit the columns of the two routines. -/
structure AgingFits (db : ReceivableTables) (customerId : Uuid) (bucketDays : List ℤ) : Prop where
  amounts : AmountsFit db customerId
  invoices : IsInteger (openRows db customerId).length
  bands : IsInteger (bucketDays.length + 1)

/-- The answers as plain functions. -/
def bandsOf (db : ReceivableTables) (customerId : Uuid) (asOf : ℤ) (bucketDays : List ℤ) :
    List AgingRow :=
  (groups (bandKey asOf bucketDays) (owing db customerId)).map fun g =>
    ⟨g.1.1, g.1.2, owedTxn db g.2, owedBase db g.2, g.2.length⟩

def countsOf (db : ReceivableTables) (is : List InvoiceRow) (currency : String) :
    OpenDocumentCounts :=
  ⟨currency, countInvoices (is.map db.outstandingOf) fun o => o.outstandingTxnMinor > 0,
    countInvoices (is.map db.outstandingOf) fun o => o.outstandingTxnMinor < 0⟩

theorem mem_owing : i ∈ owing db customerId ↔
    i ∈ openRows db customerId ∧ (db.outstandingOf i).outstandingTxnMinor ≠ 0 := by
  unfold owing IsOutstanding
  rw [List.mem_filter, decide_eq_true_eq]

theorem filter_outstandingOf :
    ((openRows db customerId).map db.outstandingOf).filter (fun o => o.outstandingTxnMinor ≠ 0) =
      (owing db customerId).map db.outstandingOf := by
  rw [List.filter_map]
  rfl

theorem castInteger_of_le {n : ℤ} {m : ℕ} (h0 : 0 ≤ n) (hle : n ≤ m) (hm : IsInteger m) :
    castInteger n = .ok n := by
  have hn : IsInteger n := ⟨by omega, lt_of_le_of_lt hle hm.2⟩
  unfold castInteger
  rw [refuseIf_of_not (not_not.mpr hn)]
  rfl

theorem castBigint_of_le {n m : ℤ} (h : 0 ≤ n ∧ n ≤ m) (hm : IsBigint m) :
    castBigint n = .ok n :=
  castBigint_int_eq_ok.mpr ⟨⟨by omega, lt_of_le_of_lt h.2 hm.2⟩, rfl⟩

theorem mem_bandGroups {g : (ℤ × String) × List InvoiceRow} :
    g ∈ groups (bandKey asOf bucketDays) (owing db customerId) ↔
      (∃ i ∈ owing db customerId, bandKey asOf bucketDays i = g.1) ∧
        g.2 = (owing db customerId).filter fun i => bandKey asOf bucketDays i = g.1 :=
  mem_groups

/-- The invoices of a band are invoices of its currency. -/
theorem band_sublist {key : ℤ × String} :
    ((owing db customerId).filter fun i => bandKey asOf bucketDays i = key).Sublist
      (openIn db customerId key.2) := by
  unfold owing openIn
  rw [List.filter_filter]
  refine List.monotone_filter_right _ fun i hi => ?_
  rw [Bool.and_eq_true, decide_eq_true_eq] at hi
  rw [decide_eq_true_eq, ← hi.1]
  rfl

theorem mapM_banded (h : IsInteger (bucketDays.length + 1)) :
    ((owing db customerId).map db.outstandingOf).mapM (fun o => do
      let bucketNo ← castInteger (bandNo bucketDays (o.daysPastDue asOf))
      pure (bucketNo, o)) = .ok ((owing db customerId).map fun i =>
        (bandNo bucketDays (i.daysPastDue asOf), db.outstandingOf i)) := by
  rw [List.mapM_map]
  refine mapM_eq_map_of fun i _ => ?_
  have hdays : (db.outstandingOf i).daysPastDue asOf = i.daysPastDue asOf := by
    unfold OutstandingRow.daysPastDue InvoiceRow.daysPastDue
    rw [outstandingOf_dueDate, outstandingOf_issueDate]
  have hband := @bandNo_bounds bucketDays (i.daysPastDue asOf)
  have hcast : castInteger (bandNo bucketDays (i.daysPastDue asOf)) = .ok _ :=
    castInteger_of_le (by omega) hband.2 h
  rw [Function.comp_apply, hdays, hcast]
  rfl

/-- **Every band is what its invoices owe**, and how many they are. -/
theorem customerArAging_eq (h : AgingFits db customerId bucketDays) :
    customerArAging db customerId asOf bucketDays = .ok (bandsOf db customerId asOf bucketDays) := by
  have hkey : ((fun b : ℤ × OutstandingRow => (b.1, b.2.currencyCode)) ∘ fun i =>
      (bandNo bucketDays (i.daysPastDue asOf), db.outstandingOf i)) = bandKey asOf bucketDays := by
    funext i
    exact Prod.ext rfl outstandingOf_currencyCode
  have hrows : ∀ is : List InvoiceRow, (is.map fun i =>
      (bandNo bucketDays (i.daysPastDue asOf), db.outstandingOf i)).map Prod.snd =
        is.map db.outstandingOf := fun is => List.map_map
  unfold customerArAging bandsOf
  rw [invoiceOutstanding_open, ok_bind, filter_outstandingOf, mapM_banded h.bands, ok_bind, groups_map,
    hkey, List.mapM_map]
  simp only [Function.comp_def, hrows, sumTxn_outstandingOf, sumBase_outstandingOf, List.length_map]
  refine mapM_eq_map_of fun g hg => ?_
  obtain ⟨⟨i, hi, hband⟩, hmembers⟩ := mem_bandGroups.mp hg
  have hsub := @band_sublist db customerId asOf bucketDays g.1
  rw [← hmembers] at hsub
  have hfit := h.amounts i (mem_owing.mp hi).1
  have hcurrency : i.currencyCode = g.1.2 := congrArg Prod.snd hband
  rw [hcurrency] at hfit
  have hcount : g.2.length ≤ (openRows db customerId).length :=
    (hsub.trans List.filter_sublist).length_le
  rw [castBigint_of_le (owedTxn_mono hsub fun _ hj => openIn_rows hj) hfit.1,
    castBigint_of_le (owedBase_mono hsub fun _ hj => openIn_rows hj) hfit.2,
    castInteger_of_le (by omega) (by exact_mod_cast hcount) h.invoices]
  rfl

theorem countInvoices_le {rows : List OutstandingRow} {p : OutstandingRow → Bool} :
    countInvoices rows p ≤ rows.length := by
  unfold countInvoices
  refine (List.dedup_sublist _).length_le.trans ?_
  rw [List.length_map]
  exact List.length_filter_le _ _

theorem customerArOpenDocumentCounts_eq (h : IsInteger (openRows db customerId).length) :
    customerArOpenDocumentCounts db customerId =
      .ok ((groups InvoiceRow.currencyCode (owing db customerId)).map fun g =>
        countsOf db g.2 g.1) := by
  unfold customerArOpenDocumentCounts
  rw [invoiceOutstanding_open, ok_bind, filter_outstandingOf, groups_map,
    currencyCode_comp_outstandingOf, List.mapM_map]
  refine mapM_eq_map_of fun g hg => ?_
  have hle : g.2.length ≤ (openRows db customerId).length := by
    rw [(mem_groups.mp hg).2]
    exact (List.filter_sublist.trans List.filter_sublist).length_le
  have hcast : ∀ p, castInteger (countInvoices (g.2.map db.outstandingOf) p) =
      .ok (countInvoices (g.2.map db.outstandingOf) p : ℤ) := by
    intro p
    have hcount := @countInvoices_le (g.2.map db.outstandingOf) p
    rw [List.length_map] at hcount
    exact castInteger_of_le (Int.natCast_nonneg _) (Int.ofNat_le.mpr (hcount.trans hle)) h
  have hdebit := hcast fun o => o.outstandingTxnMinor > 0
  have hcredit := hcast fun o => o.outstandingTxnMinor < 0
  rw [Function.comp_apply, hdebit, ok_bind, hcredit, ok_bind]
  rfl

/-- An invoice that owes something is counted in a band of its currency. -/
theorem exists_band (hi : i ∈ owing db customerId) : ∃ b ∈ bandsOf db customerId asOf bucketDays,
    b.bucketNo = bandNo bucketDays (i.daysPastDue asOf) ∧ b.currencyCode = i.currencyCode := by
  have hgroup : (bandKey asOf bucketDays i, (owing db customerId).filter fun j =>
      bandKey asOf bucketDays j = bandKey asOf bucketDays i) ∈
      groups (bandKey asOf bucketDays) (owing db customerId) :=
    mem_bandGroups.mpr ⟨⟨i, hi, rfl⟩, rfl⟩
  exact ⟨_, List.mem_map_of_mem hgroup, rfl, rfl⟩

/-! ## 4. The join -/

/-- A row of the statement as a correct database yields it. -/
structure CustomerAgingBandRow where
  bucketNo : ℤ
  currencyCode : String
  txnMinor : ℤ
  baseMinor : ℤ
  invoiceCount : ℤ
  openDebitCount : ℤ
  openCreditCount : ℤ
  deriving DecidableEq

def CustomerAgingBandRow.wire (r : CustomerAgingBandRow) : CustomerAgingSqlRow :=
  ⟨some r.bucketNo, some r.currencyCode, some r.txnMinor, some r.baseMinor, some r.invoiceCount,
    some r.openDebitCount, some r.openCreditCount⟩

/-- The counters of a currency. -/
def counters (db : ReceivableTables) (customerId : Uuid) (currency : String) : OpenDocumentCounts :=
  countsOf db ((owing db customerId).filter fun i => i.currencyCode = currency) currency

def bandRow (db : ReceivableTables) (customerId : Uuid) (a : AgingRow) : CustomerAgingBandRow :=
  ⟨a.bucketNo, a.currencyCode, a.txnMinor, a.baseMinor, a.invoiceCount,
    (counters db customerId a.currencyCode).openDebitCount,
    (counters db customerId a.currencyCode).openCreditCount⟩

/-- Every band has the counters of its currency, and every counter has a band. -/
theorem fullJoin_bands : fullJoin AgingRow.currencyCode OpenDocumentCounts.currency
    (bandsOf db customerId asOf bucketDays)
    ((groups InvoiceRow.currencyCode (owing db customerId)).map fun g => countsOf db g.2 g.1) =
      (bandsOf db customerId asOf bucketDays).map fun a =>
        (some a, some (counters db customerId a.currencyCode)) := by
  apply fullJoin_eq
  · rw [List.map_map]
    exact nodup_groups_key _
  · intro a ha
    obtain ⟨g, hg, rfl⟩ := List.mem_map.mp ha
    obtain ⟨⟨i, hi, hband⟩, _⟩ := mem_bandGroups.mp hg
    have hgroup : (g.1.2, (owing db customerId).filter fun i => i.currencyCode = g.1.2) ∈
        groups InvoiceRow.currencyCode (owing db customerId) :=
      mem_groups.mpr ⟨⟨i, hi, congrArg Prod.snd hband⟩, rfl⟩
    exact ⟨List.mem_map_of_mem hgroup, rfl⟩
  · intro c hc
    obtain ⟨g, hg, rfl⟩ := List.mem_map.mp hc
    obtain ⟨⟨i, hi, hcurrency⟩, _⟩ := mem_groups.mp hg
    obtain ⟨b, hb, _, hcode⟩ := @exists_band db customerId i asOf bucketDays hi
    exact List.mem_map.mpr ⟨b, hb, hcode.trans hcurrency⟩

/-- **No row of the statement lacks a column**: they are the bands with the counters of their
    currency. -/
theorem agingRows_eq (h : AgingFits db customerId bucketDays) :
    ∃ rows : List CustomerAgingBandRow,
      agingRows db customerId asOf bucketDays = .ok (rows.map CustomerAgingBandRow.wire) ∧
        rows.Perm ((bandsOf db customerId asOf bucketDays).map (bandRow db customerId)) := by
  refine ⟨ordered (CustomerAgingSqlRow.key ∘ CustomerAgingBandRow.wire)
    ((bandsOf db customerId asOf bucketDays).map (bandRow db customerId)), ?_, perm_ordered _⟩
  unfold agingRows
  rw [customerArOpenDocumentCounts_eq h.invoices, ok_bind, customerArAging_eq h, ok_bind,
    fullJoin_bands, ← ordered_map, List.map_map, List.map_map]
  rfl

/-! ## 5. What the bands add up to -/

/-- The bands of a customer: each is what the invoices in it owe and how many they are, every
    invoice that owes something is in one of them, and those of a currency add up to what is owed
    in it. -/
structure BandsAgree (db : ReceivableTables) (customerId : Uuid) (asOf : ℤ) (bucketDays : List ℤ)
    (bands : List AgingRow) : Prop where
  amounts : ∀ b ∈ bands,
    ∃ is, is = ((owing db customerId).filter fun i => i.currencyCode = b.currencyCode ∧
        InBand bucketDays b.bucketNo (i.daysPastDue asOf)) ∧
      b.txnMinor = owedTxn db is ∧ b.baseMinor = owedBase db is ∧ b.invoiceCount = is.length
  once : ∀ i ∈ owing db customerId, ∃! b, b ∈ bands ∧ b.currencyCode = i.currencyCode ∧
    InBand bucketDays b.bucketNo (i.daysPastDue asOf)
  totals : ∀ currency,
    ((bands.filter fun b => b.currencyCode = currency).map AgingRow.txnMinor).sum =
        owedTxn db (openIn db customerId currency) ∧
      ((bands.filter fun b => b.currencyCode = currency).map AgingRow.baseMinor).sum =
        owedBase db (openIn db customerId currency)

theorem nodup_bands : ((bandsOf db customerId asOf bucketDays).map fun b =>
    (b.bucketNo, b.currencyCode)).Nodup := by
  unfold bandsOf
  rw [List.map_map]
  exact nodup_groups_key _

/-- What the bands of a currency add up to, for a weight of invoices that owe something. -/
theorem sum_bands {w : InvoiceRow → ℤ} (hw : ∀ i ∈ db.invoices.rows,
    (db.outstandingOf i).outstandingTxnMinor = 0 → w i = 0) (currency : String) :
    (((groups (bandKey asOf bucketDays) (owing db customerId)).filter fun g =>
      g.1.2 = currency).map fun g => (g.2.map w).sum).sum =
        ((openIn db customerId currency).map w).sum := by
  have hgroups := sum_groups_filter (bandKey asOf bucketDays) w (owing db customerId)
    fun k => k.2 = currency
  have hswap : (owing db customerId).filter (fun i => (bandKey asOf bucketDays i).2 = currency) =
      (openIn db customerId currency).filter (IsOutstanding db) := by
    unfold owing openIn
    rw [List.filter_filter, List.filter_filter]
    exact List.filter_congr fun i _ => Bool.and_comm _ _
  rw [hgroups, hswap]
  refine sum_filter_of_zero fun i hi hnone => hw i (openIn_rows hi) ?_
  exact not_not.mp (of_decide_eq_false hnone)

/-- **The bands are the whole receivable**: of each currency, and in base. -/
theorem sum_bandsOf : ((bandsOf db customerId asOf bucketDays).map AgingRow.baseMinor).sum =
    owedBase db (openRows db customerId) := by
  have hgroups := sum_groups (bandKey asOf bucketDays)
    (fun i => (db.outstandingOf i).outstandingBaseMinor) (owing db customerId)
  unfold bandsOf
  rw [List.map_map]
  refine hgroups.trans (sum_filter_of_zero fun i hi hnone => ?_)
  exact outstandingBase_of_settled (mem_openRows.mp hi).1 (not_not.mp (of_decide_eq_false hnone))

theorem bandsAgree (h : bucketDays.Pairwise (· < ·)) :
    BandsAgree db customerId asOf bucketDays (bandsOf db customerId asOf bucketDays) where
  amounts := by
    intro b hb
    obtain ⟨g, hg, rfl⟩ := List.mem_map.mp hb
    refine ⟨g.2, ?_, rfl, rfl, rfl⟩
    rw [(mem_bandGroups.mp hg).2]
    apply List.filter_congr
    intro i _
    rw [decide_eq_decide, inBand_iff h]
    show (bandNo bucketDays (i.daysPastDue asOf), i.currencyCode) = (g.1.1, g.1.2) ↔ _
    rw [Prod.mk.injEq, and_comm]
  once := by
    intro i hi
    obtain ⟨b, hb, hno, hcode⟩ := @exists_band db customerId i asOf bucketDays hi
    refine ⟨b, ⟨hb, hcode, (inBand_iff h).mpr hno.symm⟩, ?_⟩
    intro b' hb'
    obtain ⟨hmem, hcode', hin⟩ := hb'
    have hkey : (b'.bucketNo, b'.currencyCode) = (b.bucketNo, b.currencyCode) := by
      rw [hno, hcode, hcode', (inBand_iff h).mp hin]
    exact List.inj_on_of_nodup_map nodup_bands hmem hb hkey
  totals := by
    intro currency
    unfold bandsOf
    rw [List.filter_map, List.map_map, List.map_map]
    exact ⟨sum_bands (fun _ _ h => h) currency,
      sum_bands (fun _ hi h => outstandingBase_of_settled hi h) currency⟩

end Aging

end Daftar.Inventory.Receivables
