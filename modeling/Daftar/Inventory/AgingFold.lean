/-
  File: Daftar/Inventory/AgingFold.lean
  Subject: The aging of a customer folded into its buckets, beside the receivable of record.

  * `foldCustomerAging` places the rows of the statement; `bandRowOrRefuse` refuses a row that lacks
    a column. `aging` is the read around it.
  * `foldRow_eq` is one row: it changes its own bucket only. `foldRows_eq` is the loop.
  * `ReadersAgree` is what the readers of a receivable have in common.
-/

import Daftar.Inventory.CustomerAging

namespace Daftar.Inventory.Receivables

open Fallible
open Grouping
open KeysetPages
open ReceivableTables

/-! ## 1. The fold -/

/-- The labels of the bands from a lower boundary on. -/
def bucketLabelsFrom : ℤ → List ℤ → List String
  | _, [] => []
  | lower, boundary :: days =>
      (if boundary = 0 then "not-due" else toString lower ++ "-" ++ toString boundary) ::
        bucketLabelsFrom (boundary + 1) days

def agingBucketLabels (days : List ℤ) : List String :=
  bucketLabelsFrom 0 days ++ ["over-" ++ toString (days.getLast?.getD 0)]

structure AgingBucket where
  label : String
  fromDays : Option ℤ
  toDays : Option ℤ
  baseMinor : ℤ
  byCurrency : List CurrencyAmount
  invoiceCount : ℤ
  deriving DecidableEq

structure FoldedAging where
  buckets : List AgingBucket
  openCounts : List OpenDocumentCounts
  totalBaseMinor : ℤ
  deriving DecidableEq

def bucketMappingInvalid : ReadRefusal := .agingBucketMappingInvalid none

def agingRowRefusal (rowIndex : ℕ) (column : String) : ReadRefusal :=
  .agingBucketMappingInvalid (some ("customer_ar_aging row " ++ toString rowIndex ++
    " carries no " ++ column ++ ": the FULL JOIN against the per-currency document counters left " ++
    "it out, which a correct database cannot do"))

def bandRowOrRefuse (row : CustomerAgingSqlRow) (rowIndex : ℕ) :
    Except ReadRefusal CustomerAgingBandRow := do
  let bucketNo ← someOr row.bucketNo (agingRowRefusal rowIndex "bucket_no")
  let currencyCode ← someOr row.currencyCode (agingRowRefusal rowIndex "currency_code")
  let txnMinor ← someOr row.txnMinor (agingRowRefusal rowIndex "txn_minor")
  let baseMinor ← someOr row.baseMinor (agingRowRefusal rowIndex "base_minor")
  let invoiceCount ← someOr row.invoiceCount (agingRowRefusal rowIndex "invoice_count")
  let openDebitCount ← someOr row.openDebitCount (agingRowRefusal rowIndex "open_debit_count")
  let openCreditCount ← someOr row.openCreditCount (agingRowRefusal rowIndex "open_credit_count")
  pure ⟨bucketNo, currencyCode, txnMinor, baseMinor, invoiceCount, openDebitCount, openCreditCount⟩

/-- The empty bucket of a label. The first has no lower boundary, the last no upper one. -/
def emptyBucket (bucketDays : List ℤ) (label : String) (i : ℕ) : Except ReadRefusal AgingBucket := do
  let previousBoundary ←
    if i = 0 then pure none else some <$> someOr bucketDays[i - 1]? bucketMappingInvalid
  pure ⟨label, previousBoundary.map (· + 1), bucketDays[i]?, 0, [], 0⟩

/-- The counters of a currency that is new, or the same ones again. -/
def countOpen (openCounts : List OpenDocumentCounts) (r : CustomerAgingBandRow) :
    Except ReadRefusal (List OpenDocumentCounts) :=
  match openCounts.find? fun c => c.currency = r.currencyCode with
  | none => .ok (openCounts ++ [⟨r.currencyCode, r.openDebitCount, r.openCreditCount⟩])
  | some seen => do
      refuseIf (seen.openDebitCount ≠ r.openDebitCount ∨ seen.openCreditCount ≠ r.openCreditCount)
        bucketMappingInvalid
      pure openCounts

def AgingBucket.add (b : AgingBucket) (r : CustomerAgingBandRow) : AgingBucket :=
  { b with
    baseMinor := b.baseMinor + r.baseMinor
    invoiceCount := b.invoiceCount + r.invoiceCount
    byCurrency := b.byCurrency ++ [⟨r.currencyCode, r.txnMinor⟩] }

/-- The place of the bucket of a row: `bucket_no` counts from one. -/
def CustomerAgingBandRow.bucketIndex (r : CustomerAgingBandRow) : ℕ := (r.bucketNo - 1).toNat

/-- One row. Its columns are INTEGERs, so what the fold asks of their fractions holds. -/
def foldRow (s : FoldedAging) (row : CustomerAgingSqlRow) (rowIndex : ℕ) :
    Except ReadRefusal FoldedAging := do
  let r ← bandRowOrRefuse row rowIndex
  refuseIf (r.bucketNo < 1 ∨ r.bucketNo > s.buckets.length) bucketMappingInvalid
  refuseIf (r.openDebitCount < 0) bucketMappingInvalid
  refuseIf (r.openCreditCount < 0) bucketMappingInvalid
  let openCounts ← countOpen s.openCounts r
  let _ ← someOr s.buckets[r.bucketIndex]? bucketMappingInvalid
  pure ⟨s.buckets.modify r.bucketIndex (·.add r), openCounts, s.totalBaseMinor + r.baseMinor⟩

def foldRows (s : FoldedAging) (rows : List CustomerAgingSqlRow) : Except ReadRefusal FoldedAging :=
  rows.zipIdx.foldlM (fun s row => foldRow s row.1 row.2) s

def foldCustomerAging (rows : List CustomerAgingSqlRow) (labels : List String)
    (bucketDays : List ℤ) : Except ReadRefusal FoldedAging := do
  refuseIf (labels.length ≠ bucketDays.length + 1) bucketMappingInvalid
  let buckets ← labels.zipIdx.mapM fun label => emptyBucket bucketDays label.1 label.2
  let folded ← foldRows ⟨buckets, [], 0⟩ rows
  pure { folded with openCounts := ordered OpenDocumentCounts.currency folded.openCounts }

structure CustomerAging where
  customerId : Uuid
  asOf : ℤ
  baseCurrency : String
  bucketDays : List ℤ
  folded : FoldedAging
  deriving DecidableEq

/-- `aging`. -/
def aging (db : ReceivableTables) (customers : List Uuid) (baseCurrency : String)
    (customerId : Uuid) (asOf : ℤ) (bucketDays : List ℤ) : Except ReadRefusal CustomerAging := do
  refuseIf (customerId ∉ customers) .customerNotFound
  let rows ← (agingRows db customerId asOf bucketDays).mapError .database
  let folded ← foldCustomerAging rows (agingBucketLabels bucketDays) bucketDays
  pure ⟨customerId, asOf, baseCurrency, bucketDays, folded⟩

/-! ## 2. The shape -/

theorem length_bucketLabelsFrom (lower : ℤ) (days : List ℤ) :
    (bucketLabelsFrom lower days).length = days.length := by
  induction days generalizing lower with
  | nil => rfl
  | cons boundary days ih => rw [bucketLabelsFrom, List.length_cons, ih, List.length_cons]

theorem length_agingBucketLabels (days : List ℤ) :
    (agingBucketLabels days).length = days.length + 1 := by
  unfold agingBucketLabels
  rw [List.length_append, length_bucketLabelsFrom]
  rfl

section Shape

variable {labels : List String} {bucketDays : List ℤ}

/-- The buckets before a row is placed. -/
def emptyBuckets (labels : List String) (bucketDays : List ℤ) : List AgingBucket :=
  labels.zipIdx.map fun label =>
    ⟨label.1, if label.2 = 0 then none else bucketDays[label.2 - 1]?.map (· + 1),
      bucketDays[label.2]?, 0, [], 0⟩

theorem mapM_emptyBucket (h : labels.length = bucketDays.length + 1) :
    (labels.zipIdx.mapM fun label => emptyBucket bucketDays label.1 label.2) =
      .ok (emptyBuckets labels bucketDays) := by
  refine mapM_eq_map_of fun label hlabel => ?_
  have hlt : label.2 < labels.length := by
    have := List.snd_lt_of_mem_zipIdx hlabel
    omega
  unfold emptyBucket
  by_cases hzero : label.2 = 0
  · simp only [hzero, if_true]
    rfl
  · have hin : label.2 - 1 < bucketDays.length := by omega
    have hboundary : bucketDays[label.2 - 1]? = some bucketDays[label.2 - 1] :=
      List.getElem?_eq_getElem hin
    simp only [if_neg hzero, hboundary, someOr_some]
    rfl

end Shape

/-! ## 3. Rows in their buckets -/

/-- The buckets with every row added to its own. -/
def placeAll (rows : List CustomerAgingBandRow) (buckets : List AgingBucket) : List AgingBucket :=
  rows.foldl (fun bs r => bs.modify r.bucketIndex (·.add r)) buckets

section Place

variable {rows : List CustomerAgingBandRow} {buckets : List AgingBucket} {b : AgingBucket}

/-- A bucket after several rows. -/
theorem foldl_add (rows : List CustomerAgingBandRow) (b : AgingBucket) :
    rows.foldl AgingBucket.add b =
      { b with
        baseMinor := b.baseMinor + (rows.map CustomerAgingBandRow.baseMinor).sum
        invoiceCount := b.invoiceCount + (rows.map CustomerAgingBandRow.invoiceCount).sum
        byCurrency := b.byCurrency ++ rows.map fun r => ⟨r.currencyCode, r.txnMinor⟩ } := by
  induction rows generalizing b with
  | nil => simp
  | cons r rows ih =>
      rw [List.foldl_cons, ih]
      simp only [AgingBucket.add, List.map_cons, List.sum_cons, List.append_assoc,
        List.singleton_append, add_assoc]

/-- **A bucket holds its own rows and no others.** -/
theorem getElem?_placeAll (rows : List CustomerAgingBandRow) (buckets : List AgingBucket) (j : ℕ) :
    (placeAll rows buckets)[j]? =
      buckets[j]?.map ((rows.filter fun r => r.bucketIndex = j).foldl AgingBucket.add) := by
  induction rows generalizing buckets with
  | nil =>
      show buckets[j]? = _
      cases buckets[j]? <;> rfl
  | cons r rows ih =>
      have hstep : placeAll (r :: rows) buckets =
          placeAll rows (buckets.modify r.bucketIndex (·.add r)) := rfl
      rw [hstep, ih, List.getElem?_modify]
      by_cases hj : r.bucketIndex = j
      · have hown : (r :: rows).filter (fun r => r.bucketIndex = j) =
            r :: rows.filter fun r => r.bucketIndex = j :=
          List.filter_cons_of_pos (decide_eq_true hj)
        simp only [if_pos hj, hown]
        cases buckets[j]? <;> rfl
      · have hother : (r :: rows).filter (fun r => r.bucketIndex = j) =
            rows.filter fun r => r.bucketIndex = j :=
          List.filter_cons_of_neg (mt of_decide_eq_true hj)
        simp only [if_neg hj, hother]
        cases buckets[j]? <;> rfl

theorem length_placeAll (rows : List CustomerAgingBandRow) (buckets : List AgingBucket) :
    (placeAll rows buckets).length = buckets.length := by
  induction rows generalizing buckets with
  | nil => rfl
  | cons r rows ih => exact (ih _).trans (List.length_modify _ _ _)

theorem sum_modify {r : CustomerAgingBandRow} : ∀ {buckets : List AgingBucket} {j : ℕ},
    j < buckets.length → ((buckets.modify j (·.add r)).map AgingBucket.baseMinor).sum =
      (buckets.map AgingBucket.baseMinor).sum + r.baseMinor
  | b :: bs, 0, _ => by
      rw [List.modify_zero_cons, List.map_cons, List.sum_cons, List.map_cons, List.sum_cons,
        add_right_comm]
      rfl
  | b :: bs, j + 1, h => by
      rw [List.modify_succ_cons, List.map_cons, List.sum_cons, List.map_cons, List.sum_cons,
        sum_modify (Nat.lt_of_succ_lt_succ h), add_assoc]

/-- No amount is lost between the buckets. -/
theorem sum_placeAll (h : ∀ r ∈ rows, r.bucketIndex < buckets.length) :
    ((placeAll rows buckets).map AgingBucket.baseMinor).sum =
      (buckets.map AgingBucket.baseMinor).sum +
        (rows.map CustomerAgingBandRow.baseMinor).sum := by
  induction rows generalizing buckets with
  | nil => exact (add_zero _).symm
  | cons r rows ih =>
      rw [List.forall_mem_cons] at h
      have hrest : ∀ x ∈ rows, x.bucketIndex < (buckets.modify r.bucketIndex (·.add r)).length := by
        rw [List.length_modify]
        exact h.2
      have hstep : placeAll (r :: rows) buckets =
          placeAll rows (buckets.modify r.bucketIndex (·.add r)) := rfl
      rw [hstep, ih hrest, sum_modify h.1, List.map_cons, List.sum_cons, add_assoc]

end Place

/-! ## 4. The loop -/

section Fold

variable {counts : String → ℤ × ℤ} {n : ℕ} {s : FoldedAging} {r : CustomerAgingBandRow}
  {rows : List CustomerAgingBandRow} {openCounts : List OpenDocumentCounts}

/-- The row has one of the buckets, and the counters of its currency. -/
structure Placed (n : ℕ) (counts : String → ℤ × ℤ) (r : CustomerAgingBandRow) : Prop where
  bucket : 1 ≤ r.bucketNo ∧ r.bucketNo ≤ n
  nonneg : 0 ≤ r.openDebitCount ∧ 0 ≤ r.openCreditCount
  counters : counts r.currencyCode = (r.openDebitCount, r.openCreditCount)

/-- The counters read so far are those of their currencies. -/
def Counted (counts : String → ℤ × ℤ) (openCounts : List OpenDocumentCounts) : Prop :=
  ∀ c ∈ openCounts, counts c.currency = (c.openDebitCount, c.openCreditCount)

theorem Placed.bucketIndex_lt (h : Placed n counts r) : r.bucketIndex < n := by
  obtain ⟨h1, hn⟩ := h.bucket
  unfold CustomerAgingBandRow.bucketIndex
  omega

theorem countOpen_eq (hr : Placed n counts r) (hc : Counted counts openCounts) :
    ∃ l, countOpen openCounts r = .ok l ∧ Counted counts l := by
  unfold countOpen
  split
  · refine ⟨_, rfl, List.forall_mem_append.mpr ⟨hc, ?_⟩⟩
    exact List.forall_mem_singleton.mpr hr.counters
  · rename_i seen hseen
    have hcode : seen.currency = r.currencyCode := by simpa using List.find?_some hseen
    have hsame := hc seen (List.mem_of_find?_eq_some hseen)
    rw [hcode, hr.counters, Prod.mk.injEq] at hsame
    refine ⟨openCounts, ?_, hc⟩
    rw [refuseIf_of_not]
    · rfl
    · rw [hsame.1, hsame.2]
      simp

/-- **A placed row changes its own bucket only**, and is never refused. -/
theorem foldRow_eq (hr : Placed s.buckets.length counts r) (hc : Counted counts s.openCounts)
    (rowIndex : ℕ) : ∃ l, foldRow s r.wire rowIndex =
      .ok ⟨s.buckets.modify r.bucketIndex (·.add r), l, s.totalBaseMinor + r.baseMinor⟩ ∧
        Counted counts l := by
  obtain ⟨l, hl, hcounted⟩ := countOpen_eq hr hc
  refine ⟨l, ?_, hcounted⟩
  have hrow : bandRowOrRefuse r.wire rowIndex = .ok r := rfl
  have hno : ¬ (r.bucketNo < 1 ∨ r.bucketNo > s.buckets.length) := by
    have := hr.bucket
    omega
  have hbucket := List.getElem?_eq_getElem hr.bucketIndex_lt
  unfold foldRow
  rw [hrow, ok_bind, refuseIf_of_not hno, ok_bind, refuseIf_of_not (not_lt.mpr hr.nonneg.1), ok_bind,
    refuseIf_of_not (not_lt.mpr hr.nonneg.2), ok_bind, hl, ok_bind, hbucket, someOr_some]
  rfl

/-- **The loop is never refused**: it places all rows and adds up their base. -/
theorem foldRows_eq (hrows : ∀ r ∈ rows, Placed s.buckets.length counts r)
    (hc : Counted counts s.openCounts) :
    ∃ l, foldRows s (rows.map CustomerAgingBandRow.wire) = .ok ⟨placeAll rows s.buckets, l,
      s.totalBaseMinor + (rows.map CustomerAgingBandRow.baseMinor).sum⟩ := by
  unfold foldRows
  generalize 0 = k
  induction rows generalizing s k with
  | nil => exact ⟨s.openCounts, by rw [List.map_nil, List.map_nil, List.sum_nil, add_zero]; rfl⟩
  | cons r rows ih =>
      rw [List.forall_mem_cons] at hrows
      obtain ⟨l, hstep, hcounted⟩ := foldRow_eq hrows.1 hc k
      have hrest : ∀ x ∈ rows,
          Placed (s.buckets.modify r.bucketIndex (·.add r)).length counts x := by
        rw [List.length_modify]
        exact hrows.2
      obtain ⟨l', hl'⟩ := @ih ⟨s.buckets.modify r.bucketIndex (·.add r), l,
        s.totalBaseMinor + r.baseMinor⟩ hrest hcounted (k + 1)
      refine ⟨l', ?_⟩
      rw [List.map_cons, List.zipIdx_cons, List.foldlM_cons, hstep, ok_bind, hl', List.map_cons,
        List.sum_cons, add_assoc]
      rfl

end Fold

/-! ## 5. The readers of a receivable -/

section Readers

variable {db : ReceivableDb} {customerId : Uuid} {asOf : ℤ} {bucketDays : List ℤ} {j : ℕ}
  {rows : List CustomerAgingBandRow}

/-- The counters of a currency as the rows carry them. -/
def counterPair (db : ReceivableTables) (customerId : Uuid) (currency : String) : ℤ × ℤ :=
  ((counters db customerId currency).openDebitCount,
    (counters db customerId currency).openCreditCount)

/-- The rows of the statement have their buckets. -/
theorem placed_bandRow {a : AgingRow} (ha : a ∈ bandsOf db customerId asOf bucketDays) :
    Placed (bucketDays.length + 1) (counterPair db customerId) (bandRow db customerId a) := by
  obtain ⟨g, hg, rfl⟩ := List.mem_map.mp ha
  obtain ⟨⟨i, hi, hband⟩, _⟩ := mem_bandGroups.mp hg
  have hno : bandNo bucketDays (i.daysPastDue asOf) = g.1.1 := congrArg Prod.fst hband
  refine ⟨?_, ⟨Int.natCast_nonneg _, Int.natCast_nonneg _⟩, rfl⟩
  show 1 ≤ g.1.1 ∧ g.1.1 ≤ _
  rw [← hno]
  exact_mod_cast bandNo_bounds

/-- What the rows of one bucket add up to, for a weight of invoices. -/
theorem sum_bucket (h : bucketDays.Pairwise (· < ·)) (w : InvoiceRow → ℤ) :
    (((groups (bandKey asOf bucketDays) (owing db customerId)).filter fun g =>
      (g.1.1 - 1).toNat = j).map fun g => (g.2.map w).sum).sum =
        (((owing db customerId).filter fun i =>
          InBand bucketDays (j + 1) (i.daysPastDue asOf)).map w).sum := by
  rw [sum_groups_filter (bandKey asOf bucketDays) w (owing db customerId)
    fun k => (k.1 - 1).toNat = j]
  congr 2
  apply List.filter_congr
  intro i _
  have hno := @bandNo_bounds bucketDays (i.daysPastDue asOf)
  rw [decide_eq_decide, inBand_iff h]
  show (bandNo bucketDays (i.daysPastDue asOf) - 1).toNat = j ↔ _
  omega

/-- What the fold makes of the statement's rows. -/
structure FoldAgrees (db : ReceivableTables) (customerId : Uuid) (asOf : ℤ) (bucketDays : List ℤ)
    (folded : FoldedAging) : Prop where
  buckets : folded.buckets.length = bucketDays.length + 1
  amounts : ∀ (j : ℕ) (b : AgingBucket), folded.buckets[j]? = some b →
    ∃ is, is = ((owing db customerId).filter fun i =>
        InBand bucketDays (j + 1) (i.daysPastDue asOf)) ∧
      b.baseMinor = owedBase db is ∧ b.invoiceCount = is.length
  sum : (folded.buckets.map AgingBucket.baseMinor).sum = folded.totalBaseMinor
  total : folded.totalBaseMinor = owedBase db (openRows db customerId)

theorem length_emptyBuckets {labels : List String} :
    (emptyBuckets labels bucketDays).length = labels.length := by
  unfold emptyBuckets
  rw [List.length_map, List.length_zipIdx]

theorem sum_emptyBuckets {labels : List String} :
    ((emptyBuckets labels bucketDays).map AgingBucket.baseMinor).sum = 0 := by
  unfold emptyBuckets
  rw [List.map_map]
  exact List.sum_map_zero

theorem empty_of_getElem? {labels : List String} {b : AgingBucket}
    (h : (emptyBuckets labels bucketDays)[j]? = some b) : b.baseMinor = 0 ∧ b.invoiceCount = 0 := by
  obtain ⟨label, _, rfl⟩ := List.mem_map.mp (List.mem_of_getElem? h)
  exact ⟨rfl, rfl⟩

/-- **The fold never refuses the rows of the statement.** -/
theorem foldCustomerAging_eq
    (hrows : rows.Perm ((bandsOf db customerId asOf bucketDays).map (bandRow db customerId))) :
    ∃ l, foldCustomerAging (rows.map CustomerAgingBandRow.wire) (agingBucketLabels bucketDays)
      bucketDays = .ok ⟨placeAll rows (emptyBuckets (agingBucketLabels bucketDays) bucketDays), l,
        (rows.map CustomerAgingBandRow.baseMinor).sum⟩ := by
  have hlabels := length_agingBucketLabels bucketDays
  have hplaced : ∀ r ∈ rows, Placed (emptyBuckets (agingBucketLabels bucketDays) bucketDays).length
      (counterPair db customerId) r := by
    intro r hr
    obtain ⟨a, ha, rfl⟩ := List.mem_map.mp (hrows.subset hr)
    rw [length_emptyBuckets, hlabels]
    exact placed_bandRow ha
  obtain ⟨l, hl⟩ := @foldRows_eq (counterPair db customerId)
    ⟨emptyBuckets (agingBucketLabels bucketDays) bucketDays, [], 0⟩ rows hplaced nofun
  refine ⟨ordered OpenDocumentCounts.currency l, ?_⟩
  unfold foldCustomerAging
  rw [refuseIf_of_not (not_not.mpr hlabels), ok_bind, mapM_emptyBucket hlabels, ok_bind, hl, zero_add]
  rfl

/-- What the rows of one bucket carry is what its invoices owe, and how many they are. -/
theorem sum_rows (h : bucketDays.Pairwise (· < ·))
    (hrows : rows.Perm ((bandsOf db customerId asOf bucketDays).map (bandRow db customerId))) :
    ((rows.filter fun r => r.bucketIndex = j).map CustomerAgingBandRow.baseMinor).sum =
        owedBase db ((owing db customerId).filter fun i =>
          InBand bucketDays (j + 1) (i.daysPastDue asOf)) ∧
      ((rows.filter fun r => r.bucketIndex = j).map CustomerAgingBandRow.invoiceCount).sum =
        ((owing db customerId).filter fun i =>
          InBand bucketDays (j + 1) (i.daysPastDue asOf)).length := by
  have hperm := hrows.filter fun r => r.bucketIndex = j
  unfold bandsOf at hperm
  rw [List.map_map, List.filter_map] at hperm
  rw [(hperm.map CustomerAgingBandRow.baseMinor).sum_eq,
    (hperm.map CustomerAgingBandRow.invoiceCount).sum_eq, List.map_map, List.map_map]
  have hcount : ∀ is : List InvoiceRow, (is.map fun _ => (1 : ℤ)).sum = is.length := by
    intro is
    rw [List.map_const', List.sum_replicate, nsmul_one]
  refine ⟨sum_bucket h fun i => (db.outstandingOf i).outstandingBaseMinor, ?_⟩
  have hone := @sum_bucket db customerId asOf bucketDays j h fun _ => 1
  simp only [hcount] at hone
  exact hone

/-- **What is folded is the receivable**: each bucket, and the total. -/
theorem foldAgrees (h : bucketDays.Pairwise (· < ·))
    (hrows : rows.Perm ((bandsOf db customerId asOf bucketDays).map (bandRow db customerId)))
    (l : List OpenDocumentCounts) :
    FoldAgrees db customerId asOf bucketDays
      ⟨placeAll rows (emptyBuckets (agingBucketLabels bucketDays) bucketDays), l,
        (rows.map CustomerAgingBandRow.baseMinor).sum⟩ where
  buckets := by
    rw [length_placeAll, length_emptyBuckets, length_agingBucketLabels]
  amounts := by
    intro j b hb
    rw [getElem?_placeAll] at hb
    obtain ⟨e, he, rfl⟩ := Option.map_eq_some_iff.mp hb
    obtain ⟨hbase, hcount⟩ := empty_of_getElem? he
    obtain ⟨hsum, hlen⟩ := @sum_rows db customerId asOf bucketDays j rows h hrows
    refine ⟨_, rfl, ?_⟩
    rw [foldl_add]
    simp only [hbase, hcount, zero_add]
    exact ⟨hsum, hlen⟩
  sum := by
    have hindex : ∀ r ∈ rows, r.bucketIndex <
        (emptyBuckets (agingBucketLabels bucketDays) bucketDays).length := by
      intro r hr
      obtain ⟨a, ha, rfl⟩ := List.mem_map.mp (hrows.subset hr)
      rw [length_emptyBuckets, length_agingBucketLabels]
      exact (placed_bandRow ha).bucketIndex_lt
    rw [sum_placeAll hindex, sum_emptyBuckets, zero_add]
  total := by
    show (rows.map CustomerAgingBandRow.baseMinor).sum = _
    rw [(hrows.map _).sum_eq, List.map_map]
    exact sum_bandsOf

/-- The readers of what a customer owes agree. -/
structure ReadersAgree (db : ReceivableTables) (customerId : Uuid) (asOf : ℤ) (bucketDays : List ℤ) :
    Prop where
  single : ∀ ids, SetAgrees db ids
  totals : ∃ totals, customerArOutstanding db customerId = .ok totals ∧
    TotalsAgree db customerId totals
  bands : ∃ bands, customerArAging db customerId asOf bucketDays = .ok bands ∧
    BandsAgree db customerId asOf bucketDays bands
  fold : ∃ rows folded, agingRows db customerId asOf bucketDays = .ok rows ∧
    foldCustomerAging rows (agingBucketLabels bucketDays) bucketDays = .ok folded ∧
    FoldAgrees db customerId asOf bucketDays folded
  reads : ∀ (customers : List Uuid) (baseCurrency : String), customerId ∈ customers →
    ∃ a r, aging db customers baseCurrency customerId asOf bucketDays = .ok a ∧
      receivable db customers baseCurrency customerId = .ok r ∧
      a.folded.totalBaseMinor = r.baseMinor

end Readers

/-- **All receivable readers agree**, in every settled state and for ascending boundaries, where the
    figures of the customer fit the columns of the routines. -/
theorem receivable_readers_agree (db : ReceivableDb) (customerId : Uuid) (asOf : ℤ)
    (bucketDays : List ℤ) (hascending : bucketDays.Pairwise (· < ·))
    (hfits : AgingFits db customerId bucketDays) :
    ReadersAgree db customerId asOf bucketDays := by
  obtain ⟨rows, hrows, hperm⟩ := @agingRows_eq db customerId asOf bucketDays hfits
  obtain ⟨folded, hfold, hagrees⟩ : ∃ folded, foldCustomerAging
      (rows.map CustomerAgingBandRow.wire) (agingBucketLabels bucketDays) bucketDays = .ok folded ∧
      FoldAgrees db customerId asOf bucketDays folded := by
    obtain ⟨l, hfold⟩ := foldCustomerAging_eq hperm
    exact ⟨_, hfold, foldAgrees hascending hperm l⟩
  refine ⟨setAgrees db, ⟨_, customerArOutstanding_eq hfits.amounts, totalsAgree⟩,
    ⟨_, customerArAging_eq hfits, bandsAgree hascending⟩, ⟨_, _, hrows, hfold, hagrees⟩, ?_⟩
  intro customers baseCurrency hcustomer
  obtain ⟨r, hr, htotal⟩ := @receivable_eq db customerId customers baseCurrency hcustomer hfits.amounts
  refine ⟨⟨customerId, asOf, baseCurrency, bucketDays, folded⟩, r, ?_, hr,
    hagrees.total.trans htotal.symm⟩
  unfold aging
  rw [refuseIf_of_not (not_not.mpr hcustomer), ok_bind, hrows]
  show (foldCustomerAging _ _ _ >>= _) = _
  rw [hfold]
  rfl

def agingSampleInvoice (d : ℕ) (currency : String) (dueDate : Option ℤ) (txn base : ℤ)
    (htxn : IsMinor 1 txn) (hbase : IsMinor 1 base) : InvoiceRow where
  id := openSampleId d
  saleId := openSampleId d
  customerId := some (openSampleId 8)
  status := .issued
  issueDate := 9000
  dueDate := dueDate
  currencyCode := currency
  totalTxnMinor := txn
  totalBaseMinor := base
  sourceToBaseRate := 1
  total_txn := htxn
  total_base := hbase

/-- One invoice paid in part, one paid and credited in full, one in another currency and overdue. -/
def agingSample : ReceivableDb where
  invoices := ⟨[agingSampleInvoice 1 "EUR" none 3 10 (by decide) (by decide),
    agingSampleInvoice 2 "EUR" none 3 10 (by decide) (by decide),
    agingSampleInvoice 3 "USD" (some 9001) 5 7 (by decide) (by decide)], by decide +kernel⟩
  sales := ⟨[⟨openSampleId 1, .credit⟩, ⟨openSampleId 2, .credit⟩, ⟨openSampleId 3, .credit⟩],
    by decide +kernel⟩
  paymentAllocations := [⟨openSampleId 1, 1, 3⟩, ⟨openSampleId 2, 1, 3⟩]
  customerCreditApplications := [⟨openSampleId 2, 2, 7⟩]
  sale_fk := by decide +kernel
  fits := by decide +kernel
  settled := by decide +kernel

theorem receivable_readers_agree_sample :
    ReadersAgree agingSample (openSampleId 8) 9040 [0, 30, 60, 90] :=
  receivable_readers_agree agingSample (openSampleId 8) 9040 [0, 30, 60, 90] (by decide)
    ⟨by decide +kernel, by decide +kernel, by decide +kernel⟩

example : (bandsOf agingSample (openSampleId 8) 9040 [0, 30, 60, 90]).map
    (fun b => (b.bucketNo, b.currencyCode, b.baseMinor)) = [(3, "EUR", 7), (3, "USD", 7)] := by
  decide +kernel

/-- Ten unpaid invoices of the greatest total there is. -/
def bulkSample : ReceivableDb where
  invoices := ⟨(List.range 10).map fun d =>
    agingSampleInvoice d "EUR" none (10 ^ 18) (10 ^ 18) (by decide) (by decide), by decide +kernel⟩
  sales := ⟨(List.range 10).map fun d => ⟨openSampleId d, .credit⟩, by decide +kernel⟩
  paymentAllocations := []
  customerCreditApplications := []
  sale_fk := by decide +kernel
  fits := by decide +kernel
  settled := by decide +kernel

/-- Their sum is no BIGINT, so the routines raise. -/
theorem not_receivable_readers_agree : ¬ ∀ (db : ReceivableDb) (customerId : Uuid) (asOf : ℤ)
    (bucketDays : List ℤ), bucketDays.Pairwise (· < ·) →
      ReadersAgree db customerId asOf bucketDays := by
  intro hall
  obtain ⟨totals, htotals, _⟩ := (hall bulkSample (openSampleId 8) 9040 [] List.Pairwise.nil).totals
  have hraised : customerArOutstanding bulkSample (openSampleId 8) = .error .bigintOutOfRange := by
    decide +kernel
  rw [hraised] at htotals
  cases htotals

end Daftar.Inventory.Receivables
