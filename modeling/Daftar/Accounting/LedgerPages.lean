/-
  File: Daftar/Accounting/LedgerPages.lean
  Subject: The ledger of an account page by page.

  * `page_cut`: what is before a page, the page and what is behind it are the account's ledger.
  * A `Position` is where a cursor stands among the lines up to the last date of the range. A request
    answers the page there (`Position.request`), and its cursor stands behind it (`Position.next`).
  * `ledger_pages_tile`: the same with its balances, and a walk from the start reads the range.
-/

import Daftar.Accounting.LedgerReport

namespace Daftar.Accounting.Reports

open CivilDate
open Fallible
open KeysetPages
open Reconciliation (JsNumber)

/-! ## 1. The ledger and its cuts -/

section Cuts

variable {db : ReportDb} {q : LedgerQuery} {x y : LedgerLine} {cursor : Option LedgerKey}

/-- The lines of the account in the order of their keys. -/
def ledgerLines (db : ReportDb) (q : LedgerQuery) : List LedgerLine :=
  ordered LedgerLine.key (accountLines db q)

theorem key_eq (h : x.key = y.key) : x.entry.id = y.entry.id ∧ x.line.lineNo = y.line.lineNo := by
  simp only [LedgerLine.key, EmbeddingLike.apply_eq_iff_eq, Prod.mk.injEq] at h
  exact ⟨Uuid.ext_text h.2.1, h.2.2⟩

/-- **No two lines have one key.** -/
theorem keys_nodup : ((accountLines db q).map LedgerLine.key).Nodup := by
  have hjoined : (joinedLines db).Pairwise fun a b => a.key ≠ b.key := by
    unfold joinedLines
    rw [List.pairwise_flatMap]
    refine ⟨fun e he => ?_, ?_⟩
    · rw [List.pairwise_map]
      exact (List.pairwise_map.mp (db.lineNumbers e he).1).imp fun hne hkey => hne (key_eq hkey).2
    · refine (List.pairwise_map.mp db.journal.pk).imp fun hne a ha b hb hkey => ?_
      obtain ⟨_, _, rfl⟩ := List.mem_map.mp ha
      obtain ⟨_, _, rfl⟩ := List.mem_map.mp hb
      exact hne (key_eq hkey).1
  exact List.pairwise_map.mpr (hjoined.filter _)

theorem strict_ledgerLines : Strict LedgerLine.key (ledgerLines db q) := strict_ordered keys_nodup

theorem date_le_of_key_le (h : x.key ≤ y.key) : x.entry.entryDate ≤ y.entry.entryDate := by
  rcases Prod.Lex.le_iff.mp h with hlt | heq
  · exact le_of_lt hlt
  · exact le_of_eq heq.1

theorem opens_of_lt {d : ℤ} (h : x.key < y.key) (hy : opens d cursor y = true) :
    opens d cursor x = true := by
  have hdate := date_le_of_key_le h.le
  cases cursor with
  | none =>
      simp only [opens, decide_eq_true_eq] at hy ⊢
      omega
  | some c =>
      simp only [opens, Bool.or_eq_true, Bool.and_eq_true, decide_eq_true_eq] at hy ⊢
      by_cases hd : x.entry.entryDate < d
      · exact .inl hd
      · rcases hy with hy | hy
        · omega
        · exact .inr ⟨not_lt.mp hd, h.le.trans hy.2⟩

/-- A page takes what the opening figure leaves, up to the last date. -/
theorem pages_eq (d e : ℤ) :
    pages d e cursor x = (!opens d cursor x && decide (x.entry.entryDate ≤ e)) := by
  rw [Bool.eq_iff_iff]
  cases cursor with
  | none =>
      simp only [pages, opens, Bool.and_true, Bool.and_eq_true, decide_eq_true_eq,
        Bool.not_eq_eq_eq_not, Bool.not_true, decide_eq_false_iff_not, not_lt]
  | some c =>
      simp only [pages, opens, Bool.and_eq_true, decide_eq_true_eq, Bool.not_eq_eq_eq_not,
        Bool.not_true, Bool.or_eq_false_iff, Bool.and_eq_false_imp, decide_eq_false_iff_not, not_lt,
        not_le]
      exact ⟨fun ⟨⟨hd, he⟩, hc⟩ => ⟨⟨hd, fun _ => hc⟩, he⟩, fun ⟨⟨hd, hc⟩, he⟩ => ⟨⟨hd, he⟩, hc hd⟩⟩

theorem perm_openingLines :
    ((ledgerLines db q).filter (opens q.dateFrom cursor)).Perm (openingLines db q cursor) :=
  (perm_ordered _).filter _

theorem pageLines_eq : pageLines db q cursor =
    ((ledgerLines db q).filter fun x => !opens q.dateFrom cursor x).filter
      fun x => x.entry.entryDate ≤ q.dateTo := by
  unfold pageLines ledgerLines
  rw [ordered_filter keys_nodup, List.filter_filter]
  apply List.filter_congr
  intro x _
  rw [pages_eq, Bool.and_comm]

/-- **What is before a page, the page and what is behind it are the account's ledger.** -/
theorem page_cut (n : ℕ) : ∃ after, (ledgerLines db q).filter (opens q.dateFrom cursor) ++
    (pageLines db q cursor).take n ++ after = ledgerLines db q := by
  have hstrict : Strict LedgerLine.key (ledgerLines db q) := strict_ledgerLines
  have hopen := filter_append_filter_not (p := opens q.dateFrom cursor) hstrict
    fun _ _ => opens_of_lt
  have hto := filter_append_filter_not (p := fun x => decide (x.entry.entryDate ≤ q.dateTo))
    (hstrict.filter fun x => !opens q.dateFrom cursor x)
    (fun a b hab hb => decide_eq_true ((date_le_of_key_le hab.le).trans (of_decide_eq_true hb)))
  refine ⟨(pageLines db q cursor).drop n ++
    ((ledgerLines db q).filter fun x => !opens q.dateFrom cursor x).filter
      (fun x => !decide (x.entry.entryDate ≤ q.dateTo)), ?_⟩
  calc _ = (ledgerLines db q).filter (opens q.dateFrom cursor) ++
      (((pageLines db q cursor).take n ++ (pageLines db q cursor).drop n) ++
        ((ledgerLines db q).filter fun x => !opens q.dateFrom cursor x).filter
          (fun x => !decide (x.entry.entryDate ≤ q.dateTo))) := by simp only [List.append_assoc]
    _ = ledgerLines db q := by
        rw [List.take_append_drop, pageLines_eq, hto, hopen]

end Cuts

/-! ## 2. A walk through the pages -/

section Walks

variable {db : ReportDb} {q : LedgerQuery} {account : Account} {baseCurrency : Currency}
  {x : LedgerLine} {raw : Option String} {before rest : List LedgerLine} {report : LedgerReport}

/-- A cursor has room for the date and the number of the line. -/
structure LedgerLine.Fits (x : LedgerLine) : Prop where
  date : FourDigitYear x.entry.entryDate
  lineNo : x.line.lineNo ≤ 999999999

/-- The lines up to a date, which `balances` sums as of it, in their order. -/
def linesUpTo (db : ReportDb) (q : LedgerQuery) (asOf : ℤ) : List LedgerLine :=
  (ledgerLines db q).filter fun x => x.entry.entryDate ≤ asOf

/-- The lines of the range. -/
def rangeLines (db : ReportDb) (q : LedgerQuery) : List LedgerLine :=
  (ledgerLines db q).filter fun x => q.dateFrom ≤ x.entry.entryDate ∧ x.entry.entryDate ≤ q.dateTo

def linesBefore (db : ReportDb) (q : LedgerQuery) : List LedgerLine :=
  (ledgerLines db q).filter fun x => x.entry.entryDate < q.dateFrom

theorem mem_accountLines (h : x ∈ accountLines db q) :
    x.entry ∈ db.journal.entries ∧ x.line ∈ x.entry.lines := by
  obtain ⟨e, he, hx⟩ := List.mem_flatMap.mp (List.mem_filter.mp h).1
  obtain ⟨l, hl, rfl⟩ := List.mem_map.mp hx
  exact ⟨he, hl⟩

/-- **The cursor of a line is one its format has room for.** -/
theorem carried_cursor (hx : x ∈ accountLines db q) (hfits : x.Fits) : x.cursor.Carried := by
  obtain ⟨he, hl⟩ := mem_accountLines hx
  have hpos := ((db.lineNumbers x.entry he).2 x.line hl).1
  have hdate : (isoDate x.entry.entryDate).toList = isoDateChars x.entry.entryDate :=
    String.toList_ofList
  refine ⟨?_, x.entry.id.canonical, hpos, hfits.lineNo⟩
  show DATE_RE (isoDate x.entry.entryDate).toList = true
  rw [hdate]
  exact dateRe_isoDate hfits.date

theorem castCursor_cursor (hfits : x.Fits) : castCursor x.cursor = .ok x.key := by
  have hline := hfits.lineNo
  unfold castCursor LedgerLine.cursor
  simp only [castDate_isoDate hfits.date, ok_bind]
  rw [refuseIf_of_not (by rw [x.entry.id.canonical]; decide), ok_bind, refuseIf_of_not (by omega),
    ok_bind]
  rfl

/-- Where a cursor stands: which lines up to the last date are before it and which are not. -/
structure Position (db : ReportDb) (q : LedgerQuery) (raw : Option String)
    (before rest : List LedgerLine) : Prop where
  cut : before ++ rest = linesUpTo db q q.dateTo
  start : raw = none → before = linesBefore db q
  resumed : ∀ text, raw = some text → ∃ x, before.getLast? = some x ∧
    q.dateFrom ≤ x.entry.entryDate ∧ text = encodeLedgerCursor x.cursor

theorem filter_linesUpTo {p : LedgerLine → Bool} {r : LedgerLine → Bool}
    (h : ∀ x, (p x && decide (x.entry.entryDate ≤ q.dateTo)) = r x) :
    (linesUpTo db q q.dateTo).filter p = (ledgerLines db q).filter r := by
  unfold linesUpTo
  rw [List.filter_filter]
  exact List.filter_congr fun x _ => h x

/-- The start of a walk stands before the first date. -/
theorem position_none (hrange : q.dateFrom ≤ q.dateTo) :
    Position db q none (linesBefore db q) (rangeLines db q) := by
  refine ⟨?_, fun _ => rfl, nofun⟩
  have hcut := filter_append_filter_not (l := linesUpTo db q q.dateTo)
    (p := fun x => decide (x.entry.entryDate < q.dateFrom)) (strict_ledgerLines.filter _)
    (fun a b hab hb => decide_eq_true ((date_le_of_key_le hab.le).trans_lt (of_decide_eq_true hb)))
  have hbefore : (linesUpTo db q q.dateTo).filter (fun x => decide (x.entry.entryDate < q.dateFrom)) =
      linesBefore db q := by
    refine filter_linesUpTo fun x => ?_
    rw [Bool.eq_iff_iff, Bool.and_eq_true, decide_eq_true_eq, decide_eq_true_eq]
    omega
  have hrest : (linesUpTo db q q.dateTo).filter
      (fun x => !decide (x.entry.entryDate < q.dateFrom)) = rangeLines db q := by
    refine filter_linesUpTo fun x => ?_
    rw [Bool.eq_iff_iff, Bool.and_eq_true, Bool.not_eq_true', decide_eq_false_iff_not,
      decide_eq_true_eq, decide_eq_true_eq]
    omega
  rw [← hcut, hbefore, hrest]

/-- **The two statements read what is before a cursor and what is not**, up to the last date. -/
theorem Position.statements (hpos : Position db q raw before rest) (hrange : q.dateFrom ≤ q.dateTo)
    (hfits : ∀ x ∈ accountLines db q, x.Fits) : ∃ cursor key,
    ledgerRequest db q raw = ledger db { q with cursor := cursor } ∧ castCursor? cursor = .ok key ∧
      (openingLines db q key).Perm before ∧ pageLines db q key = rest := by
  cases raw with
  | none =>
      refine ⟨none, none, rfl, rfl, ?_, ?_⟩
      · rw [hpos.start rfl]
        exact perm_openingLines.symm
      · have hstart : Position db q none _ _ := position_none hrange
        have hrest : rest = rangeLines db q := by
          have hcut := hpos.cut.trans hstart.cut.symm
          rw [hpos.start rfl] at hcut
          exact List.append_cancel_left hcut
        rw [hrest, pageLines_eq, List.filter_filter]
        unfold rangeLines
        apply List.filter_congr
        intro x _
        rw [Bool.eq_iff_iff]
        simp only [opens, Bool.and_eq_true, decide_eq_true_eq, Bool.not_eq_true',
          decide_eq_false_iff_not, not_lt]
        exact and_comm
  | some text =>
      obtain ⟨x, hlast, hfrom, rfl⟩ := hpos.resumed text rfl
      have hupTo : x ∈ linesUpTo db q q.dateTo := by
        rw [← hpos.cut]
        exact List.mem_append_left _ (List.mem_of_getLast? hlast)
      obtain ⟨hledger, hto⟩ := List.mem_filter.mp hupTo
      have hto := of_decide_eq_true hto
      have hx := mem_ordered.mp hledger
      have hstrict : Strict LedgerLine.key (linesUpTo db q q.dateTo) := strict_ledgerLines.filter _
      -- The last line before the cursor has its key, so a comparison with that key is the cut.
      have htake : (linesUpTo db q q.dateTo).take before.length = before := by
        rw [← hpos.cut, List.take_left]
      have hrest : (linesUpTo db q q.dateTo).filter (fun y => x.key < y.key) = rest := by
        rw [filter_beyond_last (n := before.length) hstrict (by rw [htake]; exact hlast), ← hpos.cut,
          List.drop_left]
      have hbefore : (linesUpTo db q q.dateTo).filter (fun y => y.key ≤ x.key) = before := by
        have hcut := filter_append_filter_not (p := fun y => decide (y.key ≤ x.key)) hstrict
          (fun a b hab hb => decide_eq_true (hab.le.trans (of_decide_eq_true hb)))
        have hnot : (fun y : LedgerLine => !decide (y.key ≤ x.key)) =
            fun y => decide (x.key < y.key) := by
          funext y
          rw [← decide_not, decide_eq_decide, not_le]
        rw [hnot, hrest] at hcut
        exact List.append_cancel_right (hcut.trans hpos.cut.symm)
      refine ⟨some x.cursor, some x.key, ?_, ?_, ?_, ?_⟩
      · unfold ledgerRequest
        simp only [decodeLedgerCursor_encode (carried_cursor hx (hfits x hx))]
        rfl
      · unfold castCursor?
        simp only [castCursor_cursor (hfits x hx)]
        rfl
      · refine perm_openingLines.symm.trans (List.Perm.of_eq ?_)
        rw [← hbefore]
        refine (filter_linesUpTo fun y => ?_).symm
        rw [Bool.eq_iff_iff]
        simp only [opens, Bool.and_eq_true, Bool.or_eq_true, decide_eq_true_eq]
        constructor
        · rintro ⟨hkey, _⟩
          by_cases hd : y.entry.entryDate < q.dateFrom
          · exact .inl hd
          · exact .inr ⟨not_lt.mp hd, hkey⟩
        · rintro (hd | ⟨_, hkey⟩)
          · refine ⟨not_lt.mp fun hlt => ?_, by omega⟩
            have := date_le_of_key_le hlt.le
            omega
          · have := date_le_of_key_le hkey
            exact ⟨hkey, by omega⟩
      · rw [← hrest, pageLines_eq, List.filter_filter]
        refine (filter_linesUpTo fun y => ?_).symm
        rw [Bool.eq_iff_iff]
        simp only [opens, Bool.and_eq_true, decide_eq_true_eq, Bool.not_eq_true',
          Bool.or_eq_false_iff, Bool.and_eq_false_imp, decide_eq_false_iff_not, not_lt, not_le]
        constructor
        · rintro ⟨hkey, hy⟩
          have := date_le_of_key_le hkey.le
          exact ⟨hy, by omega, fun _ => hkey⟩
        · rintro ⟨hy, hd, hkey⟩
          exact ⟨hkey hd, hy⟩

theorem one_le_boundPage (limit : JsNumber) : 1 ≤ boundPage limit := by
  unfold boundPage DEFAULT_PAGE_SIZE MAX_PAGE_SIZE
  split
  · rename_i r
    split
    · decide
    · rename_i hint
      obtain ⟨_, hone⟩ := not_or.mp hint
      have hnum : 0 < r.num := Rat.num_pos.mpr (lt_of_lt_of_le one_pos (not_lt.mp hone))
      omega
  · decide

/-- The page at a position. -/
def pageAt (q : LedgerQuery) (account : Account) (baseCurrency : Currency)
    (before rest : List LedgerLine) : LedgerReport where
  account := account
  dateFrom := q.dateFrom
  dateTo := q.dateTo
  baseCurrency := baseCurrency
  openingMinor := net account.type before
  rows := rowsFrom account.type (net account.type before) (rest.take (boundPage q.limit))
  closingMinor := net account.type before + net account.type (rest.take (boundPage q.limit))
  nextCursor :=
    if rest.drop (boundPage q.limit) ≠ [] then
      (rest.take (boundPage q.limit)).getLast?.map fun x => encodeLedgerCursor x.cursor
    else none

/-- What a walk of one query needs of its database. -/
structure Walkable (db : ReportDb) (q : LedgerQuery) (account : Account) (baseCurrency : Currency) :
    Prop where
  base : db.baseCurrency = some baseCurrency
  account : db.accounts.find? q.accountId = some account
  range : q.dateFrom ≤ q.dateTo
  fits : ∀ x ∈ accountLines db q, x.Fits

/-- **A request answers the page at its position.** -/
theorem Position.request (hpos : Position db q raw before rest)
    (hwalk : Walkable db q account baseCurrency) :
    ledgerRequest db q raw = .ok (pageAt q account baseCurrency before rest) := by
  obtain ⟨cursor, key, hrequest, hkey, hopening, hpage⟩ := hpos.statements hwalk.range hwalk.fits
  rw [hrequest, ledger_of (q := { q with cursor := cursor }) hwalk.range hwalk.base hwalk.account hkey]
  have hnet : net account.type (openingLines db { q with cursor := cursor } key) =
      net account.type before := net_perm hopening
  have hpage : pageLines db { q with cursor := cursor } key = rest := hpage
  unfold reportOf pageAt
  rw [hnet, hpage]

/-- The cursor of a page stands behind its last line. -/
theorem Position.next (hpos : Position db q raw before rest)
    (hwalk : Walkable db q account baseCurrency) {text : String}
    (hnext : (pageAt q account baseCurrency before rest).nextCursor = some text) :
    rest.take (boundPage q.limit) ≠ [] ∧
      Position db q (some text) (before ++ rest.take (boundPage q.limit))
        (rest.drop (boundPage q.limit)) := by
  obtain ⟨_, key, _, _, _, hpage⟩ := hpos.statements hwalk.range hwalk.fits
  simp only [pageAt] at hnext
  split at hnext
  · obtain ⟨x, hlast, rfl⟩ := Option.map_eq_some_iff.mp hnext
    have hx := List.mem_of_getLast? hlast
    have hfrom : q.dateFrom ≤ x.entry.entryDate := by
      have hmem := hpage ▸ List.mem_of_mem_take hx
      have hcond := (List.mem_filter.mp (mem_ordered.mp hmem)).2
      simp only [pages, Bool.and_eq_true, decide_eq_true_eq] at hcond
      exact hcond.1.1
    refine ⟨List.ne_nil_of_mem hx, ?_, nofun, fun _ htext => ⟨x, ?_, hfrom, (Option.some.inj htext).symm⟩⟩
    · rw [List.append_assoc, List.take_append_drop, hpos.cut]
    · rw [List.getLast?_append, hlast]
      rfl
  · cases hnext

/-- A page without a cursor is the last one. -/
theorem pageAt_last (hnext : (pageAt q account baseCurrency before rest).nextCursor = none) :
    rest.drop (boundPage q.limit) = [] := by
  by_contra hne
  obtain ⟨x, hx⟩ := getLast?_take_of_lt (one_le_boundPage q.limit) hne
  simp only [pageAt, if_pos hne, hx] at hnext
  cases hnext

/-- The requests of a walk: everything but the cursor stays. -/
def Answers (db : ReportDb) (q : LedgerQuery) (raw : Option String) (report : LedgerReport) : Prop :=
  ledgerRequest db q raw = .ok report

/-- The rows a cursor leaves, with their balances. -/
def Leaves (db : ReportDb) (q : LedgerQuery) (account : Account) (raw : Option String)
    (rows : List LedgerRow) : Prop :=
  ∃ before rest, Position db q raw before rest ∧
    rows = rowsFrom account.type (net account.type before) rest

/-- **Every page is a front of the rows its cursor leaves.** -/
theorem ledger_fronts (hwalk : Walkable db q account baseCurrency) :
    Fronts (Answers db q) LedgerReport.nextCursor LedgerReport.rows (Leaves db q account) := by
  intro raw rows report hleaves hanswer
  obtain ⟨before, rest, hpos, rfl⟩ := hleaves
  have hreport : pageAt q account baseCurrency before rest = report :=
    Except.ok.inj ((hpos.request hwalk).symm.trans hanswer)
  subst hreport
  refine ⟨rowsFrom account.type (net account.type (before ++ rest.take (boundPage q.limit)))
    (rest.drop (boundPage q.limit)), ?_, fun hnone => ?_, fun text htext => ?_⟩
  · rw [net_append]
    show _ = rowsFrom account.type (net account.type before) (rest.take (boundPage q.limit)) ++ _
    rw [← rowsFrom_append, List.take_append_drop]
  · rw [pageAt_last hnone]
    rfl
  · obtain ⟨hne, hnext⟩ := hpos.next hwalk htext
    exact ⟨fun hnil => hne (rowsFrom_eq_nil.mp hnil), _, _, hnext, rfl⟩

theorem leaves_none (hrange : q.dateFrom ≤ q.dateTo) : Leaves db q account none
    (rowsFrom account.type (net account.type (linesBefore db q)) (rangeLines db q)) :=
  ⟨_, _, position_none hrange, rfl⟩

theorem answers_unique (raw : Option String) (r s : LedgerReport) (hr : Answers db q raw r)
    (hs : Answers db q raw s) : r = s := Except.ok.inj (hr.symm.trans hs)

theorem exists_answer (hwalk : Walkable db q account baseCurrency) (raw : Option String)
    (rows : List LedgerRow) (h : Leaves db q account raw rows) : ∃ r, Answers db q raw r := by
  obtain ⟨before, rest, hpos, _⟩ := h
  exact ⟨_, hpos.request hwalk⟩

/-- A page opens with the balance the page before it closed with. -/
theorem opening_eq_closing (hwalk : Walkable db q account baseCurrency) {rows : List LedgerRow}
    {r s : LedgerReport} {text : String} (h : Leaves db q account raw rows) (hr : Answers db q raw r)
    (hnext : r.nextCursor = some text) (hs : Answers db q (some text) s) :
    s.openingMinor = r.closingMinor := by
  obtain ⟨before, rest, hpos, _⟩ := h
  obtain rfl := Except.ok.inj ((hpos.request hwalk).symm.trans hr)
  obtain ⟨_, hpos'⟩ := hpos.next hwalk hnext
  obtain rfl := Except.ok.inj ((hpos'.request hwalk).symm.trans hs)
  exact net_append _ _

/-- The last page closes with the balance of all lines up to the last date. -/
theorem closing_of_last (hwalk : Walkable db q account baseCurrency) {rows : List LedgerRow}
    {r : LedgerReport} (h : Leaves db q account raw rows) (hr : Answers db q raw r)
    (hnext : r.nextCursor = none) :
    r.closingMinor = net account.type (linesUpTo db q q.dateTo) := by
  obtain ⟨before, rest, hpos, _⟩ := h
  obtain rfl := Except.ok.inj ((hpos.request hwalk).symm.trans hr)
  have hall : rest.take (boundPage q.limit) = rest := by
    have hcut := List.take_append_drop (boundPage q.limit) rest
    rwa [pageAt_last hnext, List.append_nil] at hcut
  show net account.type before + net account.type (rest.take (boundPage q.limit)) = _
  rw [hall, ← net_append, hpos.cut]

/-- What `balances` answers for the account as of a date. -/
def balanceMinor (db : ReportDb) (q : LedgerQuery) (type : AccountType) (asOf : ℤ) : ℤ :=
  let lines := (accountLines db q).filter fun x => x.entry.entryDate ≤ asOf
  presentationNet type (debitSum lines) (creditSum lines)

theorem net_linesUpTo (type : AccountType) (asOf : ℤ) :
    net type (linesUpTo db q asOf) = balanceMinor db q type asOf :=
  net_perm ((perm_ordered _).filter _)

/-- The last row has the balance of all of them behind it. -/
theorem runningMinor_getLast {type : AccountType} {running : ℤ} {lines : List LedgerLine}
    {row : LedgerRow} (h : (rowsFrom type running lines).getLast? = some row) :
    row.runningMinor = running + net type lines := by
  induction lines generalizing running with
  | nil => cases h
  | cons x xs ih =>
      have hcons : net type (x :: xs) = net type [x] + net type xs := net_append [x] xs
      cases xs with
      | nil =>
          obtain rfl := Option.some.inj h
          rfl
      | cons y ys =>
          have hrest : (rowsFrom type (running + net type [x]) (y :: ys)).getLast? = some row := h
          rw [ih hrest, hcons, add_assoc]

/-- **Ledger pages tile the ledger.** Every page is cut out of the account's ledger right behind the
    lines of its opening figure; and where every line fits in a cursor, following the cursors reads
    the range once and in order, with balances that go on from page to page up to the account's. -/
theorem ledger_pages_tile (db : ReportDb) (q : LedgerQuery) :
    (∀ report, ledger db q = .ok report → ∃ key before page after,
      castCursor? q.cursor = .ok key ∧ before.Perm (openingLines db q key) ∧
      before ++ page ++ after = ledgerLines db q ∧ page.length ≤ boundPage q.limit ∧
      report.openingMinor = net report.account.type before ∧
      report.rows = rowsFrom report.account.type report.openingMinor page ∧
      report.closingMinor = net report.account.type (before ++ page)) ∧
    (∀ x ∈ accountLines db q, x.Fits →
      decodeLedgerCursor (encodeLedgerCursor x.cursor) = .ok x.cursor) ∧
    ∀ account baseCurrency, Walkable db q account baseCurrency →
      ∃ reports, Walk (Answers db q) LedgerReport.nextCursor none reports ∧
        (∀ others, Walk (Answers db q) LedgerReport.nextCursor none others → others = reports) ∧
        reports.flatMap LedgerReport.rows =
          rowsFrom account.type (net account.type (linesBefore db q)) (rangeLines db q) ∧
        reports.IsChain (fun r s => s.openingMinor = r.closingMinor) ∧
        ∃ last, reports.getLast? = some last ∧
          last.closingMinor = balanceMinor db q account.type q.dateTo ∧
          ∀ row, last.rows.getLast? = some row → row.runningMinor = last.closingMinor := by
  refine ⟨?_, fun x hx hfits => decodeLedgerCursor_encode (carried_cursor hx hfits), ?_⟩
  · intro report hreport
    obtain ⟨_, baseCurrency, account, key, _, _, hkey, rfl⟩ := ledger_eq_ok.mp hreport
    obtain ⟨after, hcut⟩ := @page_cut db q key (boundPage q.limit)
    have hnet : net account.type (openingLines db q key) =
        net account.type ((ledgerLines db q).filter (opens q.dateFrom key)) :=
      (net_perm perm_openingLines).symm
    refine ⟨key, _, _, after, hkey, perm_openingLines, hcut, List.length_take_le _ _, hnet, rfl, ?_⟩
    show net account.type (openingLines db q key) + _ = _
    rw [hnet, net_append]
    rfl
  · intro account baseCurrency hwalk
    have hfront := ledger_fronts hwalk
    have hnone : Leaves db q account none _ := leaves_none hwalk.range
    obtain ⟨reports, hreports⟩ := exists_walk hfront (exists_answer hwalk) hnone
    obtain ⟨raw, rows, last, hlast, hleaves, hanswer, hnext⟩ := hreports.getLast hfront hnone
    have hclosing := closing_of_last hwalk hleaves hanswer hnext
    refine ⟨reports, hreports, fun others hothers => hothers.unique answers_unique hreports,
      hreports.rows_eq hfront hnone, hreports.isChain hfront
        (fun _ _ _ _ _ h hr hn hs => opening_eq_closing hwalk h hr hn hs) hnone,
      last, hlast, ?_, fun row hrow => ?_⟩
    · rw [hclosing, net_linesUpTo]
    · obtain ⟨before, rest, hpos, _⟩ := hleaves
      obtain rfl := Except.ok.inj ((hpos.request hwalk).symm.trans hanswer)
      exact runningMinor_getLast hrow

end Walks

/-! ## 3. Samples -/

def sampleId : Uuid := ⟨"9b1deb4d-3b7d-4bad-9bdd-2b0d7b3dcb6d", by decide +kernel⟩

def sampleCash : Account where
  id := sampleId
  code := "1100"
  name := "Cash"
  type := .asset
  systemKey := some "cash"
  isActive := true
  codeCheck := by decide +kernel
  nameCheck := by decide +kernel
  systemKeyType := fun k hk => by
    obtain rfl := Option.some.inj hk
    decide +kernel

/-- A hundred of the base currency on one side of the account. -/
def sampleRow (lineNo debitMinor creditMinor : ℕ) : LineRow where
  lineNo := lineNo
  accountId := sampleId
  debitMinor := debitMinor
  creditMinor := creditMinor
  baseMinor := 100
  baseCurrency := .ils
  txnCurrency := .ils
  txnMinor := 100
  rate := RATE_SCALE
  rateSource := "base"
  rateAt := 0
  branchId := none
  warehouseId := none
  memo := none

theorem sampleRow_checks {n debit credit : ℕ}
    (h : (debit = 100 ∧ credit = 0) ∨ (debit = 0 ∧ credit = 100)) :
    (sampleRow n debit credit).Checks := by
  have hcap : 0 < 100 ∧ 100 ≤ MAX_MONEY_MINOR := by decide
  have hrate : 0 < RATE_SCALE := by decide
  rcases h with ⟨rfl, rfl⟩ | ⟨rfl, rfl⟩
  · exact ⟨.inl ⟨hcap.1, rfl⟩, rfl, hcap, hcap, hrate, .inl ⟨rfl, rfl, rfl, rfl⟩, nofun⟩
  · exact ⟨.inr ⟨rfl, hcap.1⟩, rfl, hcap, hcap, hrate, .inl ⟨rfl, rfl, rfl, rfl⟩, nofun⟩

def sampleEntry (n : ℕ) : PostedEntry where
  id := sampleId
  source := ⟨sampleId, sampleId, "manual", sampleId⟩
  entryDate := 9000
  description := none
  actorUserId := sampleId
  requestId := none
  postingFingerprint := ""
  lines := [⟨sampleRow n 100 0, sampleRow_checks (.inl ⟨rfl, rfl⟩)⟩,
    ⟨sampleRow (n + 1) 0 100, sampleRow_checks (.inr ⟨rfl, rfl⟩)⟩]

/-- One entry whose two lines are numbered from `n` on. -/
def sampleDb (n : ℕ) (h0 : 0 < n) (h1 : n < 2147483647) : ReportDb where
  baseCurrency := some .ils
  accounts := ⟨[sampleCash], List.nodup_singleton _, List.nodup_singleton _, List.nodup_singleton _⟩
  journal := ⟨[sampleEntry n], List.nodup_singleton _, List.nodup_singleton _⟩
  lineNumbers := by
    intro e he
    rw [List.mem_singleton.mp he]
    refine ⟨List.nodup_cons.mpr ⟨?_, List.nodup_singleton _⟩, fun l hl => ?_⟩
    · rw [List.map_singleton, List.mem_singleton]
      exact Nat.ne_of_lt (Nat.lt_succ_self n)
    · simp only [sampleEntry, List.mem_cons, List.not_mem_nil, or_false] at hl
      rcases hl with rfl | rfl
      · exact ⟨h0, h1.le⟩
      · exact ⟨Nat.succ_pos n, h1⟩

def sampleQuery : LedgerQuery := ⟨sampleId, 8990, 9010, .all none, .finite 1, none⟩

/-- Two pages of one line each. -/
theorem ledger_pages_tile_sample :
    ∃ reports, Walk (Answers (sampleDb 1 (by decide) (by decide)) sampleQuery)
        LedgerReport.nextCursor none reports ∧
      reports.flatMap LedgerReport.rows =
        rowsFrom .asset (net .asset (linesBefore (sampleDb 1 (by decide) (by decide)) sampleQuery))
          (rangeLines (sampleDb 1 (by decide) (by decide)) sampleQuery) := by
  have hwalk : Walkable (sampleDb 1 (by decide) (by decide)) sampleQuery sampleCash .ils :=
    ⟨rfl, by decide +kernel, by decide, fun x hx => by
      obtain ⟨he, hl⟩ := mem_accountLines hx
      have hentry : x.entry = sampleEntry 1 := List.mem_singleton.mp he
      rw [hentry] at hl
      refine ⟨by rw [hentry]; decide +kernel, ?_⟩
      simp only [sampleEntry, List.mem_cons, List.not_mem_nil, or_false] at hl
      rcases hl with hl | hl <;> rw [hl] <;> decide⟩
  obtain ⟨reports, hreports, _, hrows, _⟩ :=
    (ledger_pages_tile (sampleDb 1 (by decide) (by decide)) sampleQuery).2.2 sampleCash .ils hwalk
  exact ⟨reports, hreports, hrows⟩

/-- The same entry, its lines numbered past nine digits. -/
def wideDb : ReportDb := sampleDb 1000000000 (by decide) (by decide)

/-- The cursor behind its first line. -/
def wideCursor : LedgerCursor := ⟨"2024-08-22", sampleId.text, 1000000000⟩

/-- **The cursor of a line numbered past nine digits is refused**, so no walk gets to the end. -/
theorem not_ledger_pages_tile :
    ¬ (∀ x ∈ accountLines wideDb sampleQuery,
      decodeLedgerCursor (encodeLedgerCursor x.cursor) = .ok x.cursor) ∧
    ¬ ∃ reports, Walk (Answers wideDb sampleQuery) LedgerReport.nextCursor none reports := by
  have hrefused : decodeLedgerCursor (encodeLedgerCursor wideCursor) = .error cursorRefusal := by
    decide +kernel
  have hfirst : ledgerRequest wideDb sampleQuery none =
      .ok (reportOf wideDb sampleQuery sampleCash .ils none) := by
    have hstart : ledgerRequest wideDb sampleQuery none = ledger wideDb sampleQuery := rfl
    rw [hstart]
    exact ledger_of (by decide) rfl (by decide +kernel) rfl
  have hnext : (reportOf wideDb sampleQuery sampleCash .ils none).nextCursor =
      some (encodeLedgerCursor wideCursor) := by
    decide +kernel
  refine ⟨fun h => ?_, fun ⟨reports, hwalk⟩ => ?_⟩
  · have hhead : (accountLines wideDb sampleQuery).head?.map LedgerLine.cursor = some wideCursor := by
      decide +kernel
    obtain ⟨x, hx, hcursor⟩ := Option.map_eq_some_iff.mp hhead
    have hok := h x (List.mem_of_head? hx)
    rw [hcursor, hrefused] at hok
    cases hok
  · cases hwalk with
    | last h hnone =>
        obtain rfl := Except.ok.inj (hfirst.symm.trans h)
        rw [hnext] at hnone
        cases hnone
    | more h hsome hrest =>
        obtain rfl := Except.ok.inj (hfirst.symm.trans h)
        obtain rfl := Option.some.inj (hnext.symm.trans hsome)
        obtain ⟨r, _, _, hr⟩ := hrest.head
        simp only [Answers, ledgerRequest, hrefused] at hr
        cases hr

end Daftar.Accounting.Reports
