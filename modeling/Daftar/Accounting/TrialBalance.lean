/-
  File: Daftar/Accounting/TrialBalance.lean
  Subject: The trial balance and the account balances, from the journal each time.

  * `accountTotals` is the aggregate both reports read: a left join from the chart to the sums of
    the lines, so an account without lines is a row of zeros.
  * `trialBalance_eq_ok` and `balances_eq` say what the reports answer as plain functions of the lines.
  * `books_render`: of books that any history has made the business-wide trial balance is never
    refused, and trial balance, account balances and ledger give every account one figure.
-/

import Daftar.Accounting.LedgerReport
import Daftar.Accounting.StandingEntries

namespace Daftar.Accounting.Reports

open Fallible
open Grouping
open Histories
open KeysetPages

/-! ## 1. The aggregate -/

inductive TrialBalanceRange
  | asOf (date : ℤ)
  | range (dateFrom dateTo : ℤ)

def TrialBalanceRange.admits : TrialBalanceRange → PostedEntry → Bool
  | .asOf date, e => e.entryDate ≤ date
  | .range dateFrom dateTo, e => dateFrom ≤ e.entryDate && e.entryDate ≤ dateTo

structure RawAccountTotals extends RawTotals where
  account : Account

/-- `accountTotalsSql`: per account the sums of the lines that meet the condition, or zeros. -/
def accountTotals (db : ReportDb) (lineCondition : LedgerLine → Bool)
    (accountCondition : Account → Bool) : List RawAccountTotals :=
  let totals := groups (fun x : LedgerLine => x.line.accountId)
    ((joinedLines db).filter lineCondition)
  (ordered Account.code (db.accounts.rows.filter accountCondition)).map fun a =>
    match totals.find? fun g => g.1 = a.id with
    | some g => ⟨⟨toString (debitSum g.2), toString (creditSum g.2)⟩, a⟩
    | none => ⟨⟨toString (0 : ℤ), toString (0 : ℤ)⟩, a⟩

structure TrialBalanceQuery where
  range : TrialBalanceRange
  branch : ReportBranchScope
  includeZeroActivity : Option Bool

def trialBalanceTotals (db : ReportDb) (q : TrialBalanceQuery) : List RawAccountTotals :=
  accountTotals db (fun x => q.range.admits x.entry && branchPredicate q.branch x) fun _ => true

structure BalancesQuery where
  asOf : ℤ
  accountIds : Option (List Uuid)
  branch : ReportBranchScope
  includeZeroActivity : Option Bool

/-- No list and an empty one are no restriction. -/
def BalancesQuery.asks (q : BalancesQuery) (id : Uuid) : Bool :=
  match q.accountIds with
  | some (i :: is) => (i :: is).contains id
  | _ => true

def balanceTotals (db : ReportDb) (q : BalancesQuery) : List RawAccountTotals :=
  accountTotals db
    (fun x => x.entry.entryDate ≤ q.asOf && branchPredicate q.branch x && q.asks x.line.accountId)
    fun a => q.asks a.id

/-! ## 2. The reports -/

/-- Why a trial balance is not answered. -/
inductive TrialBalanceFailure
  | refused (error : AccountingError)
  /-- `accounting.report_unbalanced`, which carries no amounts. -/
  | unbalanced (message : String)
  deriving DecidableEq, Repr

structure TrialBalanceRow where
  account : Account
  totalDebitMinor : ℤ
  totalCreditMinor : ℤ
  netMinor : ℤ
  baseCurrency : Currency

inductive TrialBalanceKind
  | wholeBusiness | branchDimension
  deriving DecidableEq, Repr

structure TrialBalanceReport where
  rows : List TrialBalanceRow
  totalDebitMinor : ℤ
  totalCreditMinor : ℤ
  baseCurrency : Currency
  isBalanced : Bool
  kind : TrialBalanceKind

def isWholeBusinessScope : ReportBranchScope → Bool
  | .all none => true
  | _ => false

/-- What the loop over the totals has gathered. -/
structure TrialTotals where
  rows : List TrialBalanceRow
  totalDebitMinor : ℤ
  totalCreditMinor : ℤ

def trialStep (base : Currency) (zero : Option Bool) (t : TrialTotals) (r : RawAccountTotals) :
    Canonical TrialTotals := do
  let debit ← exactMinor r.debit "debit total"
  let credit ← exactMinor r.credit "credit total"
  let rows :=
    if debit = 0 ∧ credit = 0 ∧ zero ≠ some true then t.rows
    else t.rows ++
      [⟨r.account, debit, credit, presentationNet r.account.type debit credit, base⟩]
  pure ⟨rows, t.totalDebitMinor + debit, t.totalCreditMinor + credit⟩

def trialBalance (db : ReportDb) (q : TrialBalanceQuery) :
    Except TrialBalanceFailure TrialBalanceReport := do
  let base ← (requireBaseCurrency db).mapError .refused
  let t ← ((trialBalanceTotals db q).foldlM (trialStep base q.includeZeroActivity)
    ⟨[], 0, 0⟩).mapError .refused
  let whole := isWholeBusinessScope q.branch
  refuseIf (whole = true ∧ t.totalDebitMinor ≠ t.totalCreditMinor)
    (.unbalanced "the business-wide trial balance does not balance and will not be rendered")
  pure ⟨t.rows, t.totalDebitMinor, t.totalCreditMinor, base, t.totalDebitMinor = t.totalCreditMinor,
    if whole then .wholeBusiness else .branchDimension⟩

structure AccountBalanceRow where
  account : Account
  balanceMinor : ℤ
  currency : Currency
  asOf : ℤ

def balanceStep (base : Currency) (q : BalancesQuery) (out : List AccountBalanceRow)
    (r : RawAccountTotals) : Canonical (List AccountBalanceRow) := do
  let debit ← exactMinor r.debit "debit total"
  let credit ← exactMinor r.credit "credit total"
  if debit = 0 ∧ credit = 0 ∧ q.includeZeroActivity ≠ some true then pure out
  else pure (out ++ [⟨r.account, presentationNet r.account.type debit credit, base, q.asOf⟩])

def balances (db : ReportDb) (q : BalancesQuery) : Canonical (List AccountBalanceRow) := do
  let base ← requireBaseCurrency db
  (balanceTotals db q).foldlM (balanceStep base q) []

/-! ## 3. What they answer -/

/-- The lines of an account among some lines. -/
def ofAccount (lines : List LedgerLine) (a : Account) : List LedgerLine :=
  lines.filter fun x => x.line.accountId = a.id

/-- The account has amounts, or is asked for without. -/
def shown (zero : Option Bool) (lines : List LedgerLine) (a : Account) : Bool :=
  zero = some true ∨ debitSum (ofAccount lines a) ≠ 0 ∨ creditSum (ofAccount lines a) ≠ 0

/-- Every line is on an account of the chart. -/
def ReportDb.Charted (db : ReportDb) : Prop :=
  ∀ x ∈ joinedLines db, x.line.accountId ∈ db.accounts.rows.map Account.id

/-- The totals of an account among some lines, as text. -/
def totalsOf (lines : List LedgerLine) (a : Account) : RawAccountTotals :=
  ⟨⟨toString (debitSum (ofAccount lines a)), toString (creditSum (ofAccount lines a))⟩, a⟩

def trialRow (base : Currency) (lines : List LedgerLine) (a : Account) : TrialBalanceRow :=
  ⟨a, debitSum (ofAccount lines a), creditSum (ofAccount lines a), net a.type (ofAccount lines a),
    base⟩

/-- The lines of the window. -/
def trialLines (db : ReportDb) (q : TrialBalanceQuery) : List LedgerLine :=
  (joinedLines db).filter fun x => q.range.admits x.entry && branchPredicate q.branch x

/-- The answer as a plain function. -/
def trialReport (db : ReportDb) (q : TrialBalanceQuery) (base : Currency) : TrialBalanceReport where
  rows := ((ordered Account.code db.accounts.rows).filter
    (shown q.includeZeroActivity (trialLines db q))).map (trialRow base (trialLines db q))
  totalDebitMinor := debitSum (trialLines db q)
  totalCreditMinor := creditSum (trialLines db q)
  baseCurrency := base
  isBalanced := debitSum (trialLines db q) = creditSum (trialLines db q)
  kind := if isWholeBusinessScope q.branch then .wholeBusiness else .branchDimension

section Answers

variable {db : ReportDb} {base : Currency} {zero : Option Bool} {lines : List LedgerLine}
  {accounts : List Account} {a : Account} {lineCondition : LedgerLine → Bool}
  {accountCondition : Account → Bool} {t : TrialTotals}

/-- **The left join to the grouped sums gives every account the sums of its own lines.** -/
theorem accountTotals_eq : accountTotals db lineCondition accountCondition =
    (ordered Account.code (db.accounts.rows.filter accountCondition)).map
      (totalsOf ((joinedLines db).filter lineCondition)) := by
  unfold accountTotals
  refine List.map_congr_left fun a _ => ?_
  split
  · rename_i g hg
    have hid : g.1 = a.id := by simpa using List.find?_some hg
    have hrows := (mem_groups.mp (List.mem_of_find?_eq_some hg)).2
    rw [hid] at hrows
    rw [hrows]
    rfl
  · rename_i hnone
    have hempty : ofAccount ((joinedLines db).filter lineCondition) a = [] := by
      refine List.filter_eq_nil_iff.mpr fun x hx hsame => ?_
      have hgroup : (a.id, ((joinedLines db).filter lineCondition).filter
          fun x => x.line.accountId = a.id) ∈
            groups (fun x : LedgerLine => x.line.accountId)
              ((joinedLines db).filter lineCondition) :=
        mem_groups.mpr ⟨⟨x, hx, by simpa using hsame⟩, rfl⟩
      exact absurd (decide_eq_true rfl) (List.find?_eq_none.mp hnone _ hgroup)
    unfold totalsOf
    rw [hempty]
    rfl

theorem shown_eq_false : shown zero lines a = false ↔ debitSum (ofAccount lines a) = 0 ∧
    creditSum (ofAccount lines a) = 0 ∧ zero ≠ some true := by
  unfold shown
  rw [decide_eq_false_iff_not]
  tauto

/-- What is not shown has no amount. -/
theorem net_of_not_shown (h : shown zero lines a = false) : net a.type (ofAccount lines a) = 0 := by
  obtain ⟨hdebit, hcredit, _⟩ := shown_eq_false.mp h
  unfold net presentationNet
  rw [hdebit, hcredit]
  split <;> rfl

/-- One round of the loop. -/
theorem trialStep_totalsOf : trialStep base zero t (totalsOf lines a) =
    .ok ⟨t.rows ++ ([a].filter (shown zero lines)).map (trialRow base lines),
      t.totalDebitMinor + debitSum (ofAccount lines a),
      t.totalCreditMinor + creditSum (ofAccount lines a)⟩ := by
  unfold trialStep totalsOf
  simp only [exactMinor_toString, ok_bind]
  by_cases h : shown zero lines a = true
  · have hnot : ¬ (debitSum (ofAccount lines a) = 0 ∧ creditSum (ofAccount lines a) = 0 ∧
        zero ≠ some true) := by
      rw [← shown_eq_false, h]
      decide
    rw [if_neg hnot, List.filter_cons_of_pos h]
    rfl
  · rw [if_pos (shown_eq_false.mp (by simpa using h)), List.filter_cons_of_neg h]
    simp only [List.filter_nil, List.map_nil, List.append_nil]
    rfl

/-- **The loop keeps the accounts that are shown and sums over all.** -/
theorem trialLoop : (accounts.map (totalsOf lines)).foldlM (trialStep base zero) t =
    .ok ⟨t.rows ++ (accounts.filter (shown zero lines)).map (trialRow base lines),
      t.totalDebitMinor + (accounts.map fun a => debitSum (ofAccount lines a)).sum,
      t.totalCreditMinor + (accounts.map fun a => creditSum (ofAccount lines a)).sum⟩ := by
  induction accounts generalizing t with
  | nil => simp
  | cons a accounts ih =>
      have hfilter : (a :: accounts).filter (shown zero lines) =
          [a].filter (shown zero lines) ++ accounts.filter (shown zero lines) := by
        rw [← List.filter_append, List.singleton_append]
      rw [List.map_cons, List.foldlM_cons, trialStep_totalsOf, ok_bind, ih, hfilter, List.map_append,
        List.map_cons, List.map_cons, List.sum_cons, List.sum_cons, List.append_assoc, add_assoc,
        add_assoc]

/-- The accounts of the chart divide the lines among them. -/
theorem sum_ofAccount (w : LedgerLine → ℤ)
    (hlines : ∀ x ∈ lines, x.line.accountId ∈ db.accounts.rows.map Account.id) :
    ((ordered Account.code db.accounts.rows).map fun a => ((ofAccount lines a).map w).sum).sum =
      (lines.map w).sum := by
  have hperm : ((ordered Account.code db.accounts.rows).map Account.id).Perm
      (db.accounts.rows.map Account.id) := (perm_ordered _).map _
  have hkeys : (((ordered Account.code db.accounts.rows).map Account.id).map fun id =>
      ((lines.filter fun x => x.line.accountId = id).map w).sum).sum = (lines.map w).sum :=
    sum_keys w (hperm.nodup_iff.mpr db.accounts.pk) fun x hx => hperm.mem_iff.mpr (hlines x hx)
  rw [List.map_map] at hkeys
  exact hkeys

variable {q : TrialBalanceQuery} {report : TrialBalanceReport}

theorem trialLines_charted (hc : db.Charted) :
    ∀ x ∈ trialLines db q, x.line.accountId ∈ db.accounts.rows.map Account.id :=
  fun x hx => hc x (List.mem_of_mem_filter hx)

/-- **What the trial balance answers**, and when it does. -/
theorem trialBalance_eq_ok (hc : db.Charted) (hbase : db.baseCurrency = some base) :
    trialBalance db q = .ok report ↔ (isWholeBusinessScope q.branch = true →
      debitSum (trialLines db q) = creditSum (trialLines db q)) ∧ report = trialReport db q base := by
  have htotals : trialBalanceTotals db q = (ordered Account.code db.accounts.rows).map
      (totalsOf (trialLines db q)) := by
    have hall : (db.accounts.rows.filter fun _ => true) = db.accounts.rows :=
      List.filter_eq_self.mpr fun _ _ => rfl
    unfold trialBalanceTotals
    rw [accountTotals_eq, hall]
    rfl
  have hdebit : ((ordered Account.code db.accounts.rows).map fun a =>
      debitSum (ofAccount (trialLines db q) a)).sum = debitSum (trialLines db q) :=
    sum_ofAccount (fun x => (x.line.debitMinor : ℤ)) (trialLines_charted hc)
  have hcredit : ((ordered Account.code db.accounts.rows).map fun a =>
      creditSum (ofAccount (trialLines db q) a)).sum = creditSum (trialLines db q) :=
    sum_ofAccount (fun x => (x.line.creditMinor : ℤ)) (trialLines_charted hc)
  have hloop := @trialLoop base q.includeZeroActivity (trialLines db q)
    (ordered Account.code db.accounts.rows) ⟨[], 0, 0⟩
  rw [List.nil_append, zero_add, zero_add, hdebit, hcredit] at hloop
  simp only [trialBalance, requireBaseCurrency, hbase, someOr_some, htotals, hloop, Except.mapError,
    ok_bind, bind_eq_ok, refuseIf_eq_ok, exists_const, pure_eq_ok]
  constructor
  · rintro ⟨hnot, rfl⟩
    exact ⟨fun hw => not_not.mp fun hne => hnot ⟨hw, hne⟩, rfl⟩
  · rintro ⟨hbalance, rfl⟩
    exact ⟨fun hw => hw.2 (hbalance hw.1), rfl⟩

end Answers

/-! ## 4. One figure -/

/-- The balance of an account as of a date, within a scope. -/
def figure (db : ReportDb) (branch : ReportBranchScope) (asOf : ℤ) (a : Account) : ℤ :=
  net a.type ((joinedLines db).filter fun x =>
    x.line.accountId = a.id && branchPredicate branch x && x.entry.entryDate ≤ asOf)

/-- Rows give accounts their figures: each at most once, and those that have none are left out only
    with nothing. -/
structure States (rows : List (Account × ℤ)) (accounts : List Account) (figures : Account → ℤ) :
    Prop where
  stated : ∀ r ∈ rows, r.1 ∈ accounts ∧ r.2 = figures r.1
  once : (rows.map Prod.fst).Nodup
  rest : ∀ a ∈ accounts, a ∉ rows.map Prod.fst → figures a = 0

/-- The lines that the balances are sums of. -/
def balanceLines (db : ReportDb) (q : BalancesQuery) : List LedgerLine :=
  (joinedLines db).filter fun x =>
    x.entry.entryDate ≤ q.asOf && branchPredicate q.branch x && q.asks x.line.accountId

def balanceRow (base : Currency) (q : BalancesQuery) (lines : List LedgerLine) (a : Account) :
    AccountBalanceRow :=
  ⟨a, net a.type (ofAccount lines a), base, q.asOf⟩

section Figures

variable {db : ReportDb} {base : Currency} {lines : List LedgerLine} {accounts : List Account}
  {a : Account} {branch : ReportBranchScope} {asOf : ℤ}

theorem balanceLoop {q : BalancesQuery} {out : List AccountBalanceRow} :
    (accounts.map (totalsOf lines)).foldlM (balanceStep base q) out =
      .ok (out ++ (accounts.filter (shown q.includeZeroActivity lines)).map
        (balanceRow base q lines)) := by
  induction accounts generalizing out with
  | nil => simp
  | cons a accounts ih =>
      have hstep : balanceStep base q out (totalsOf lines a) =
          .ok (out ++ ([a].filter (shown q.includeZeroActivity lines)).map
            (balanceRow base q lines)) := by
        unfold balanceStep totalsOf
        simp only [exactMinor_toString, ok_bind, ← shown_eq_false]
        by_cases h : shown q.includeZeroActivity lines a = true
        · rw [if_neg (by rw [h]; decide), List.filter_cons_of_pos h]
          rfl
        · rw [if_pos (by simpa using h), List.filter_cons_of_neg h]
          simp
      have hfilter : (a :: accounts).filter (shown q.includeZeroActivity lines) =
          [a].filter (shown q.includeZeroActivity lines) ++
            accounts.filter (shown q.includeZeroActivity lines) := by
        rw [← List.filter_append, List.singleton_append]
      rw [List.map_cons, List.foldlM_cons, hstep, ok_bind, ih, hfilter, List.map_append,
        List.append_assoc]

/-- **What the balances answer.** -/
theorem balances_eq {q : BalancesQuery} (hbase : db.baseCurrency = some base) : balances db q =
    .ok (((ordered Account.code (db.accounts.rows.filter fun a => q.asks a.id)).filter
      (shown q.includeZeroActivity (balanceLines db q))).map
        (balanceRow base q (balanceLines db q))) := by
  unfold balances requireBaseCurrency balanceTotals
  rw [hbase, someOr_some, ok_bind, accountTotals_eq]
  exact balanceLoop

/-- Rows made of the accounts that are shown state the figures of their lines. -/
theorem states_shown {zero : Option Bool} {figures : Account → ℤ} (hnodup : accounts.Nodup)
    (hfigures : ∀ a ∈ accounts, net a.type (ofAccount lines a) = figures a) :
    States ((accounts.filter (shown zero lines)).map fun a => (a, net a.type (ofAccount lines a)))
      accounts figures := by
  refine ⟨?_, ?_, ?_⟩
  · intro r hr
    obtain ⟨a, ha, rfl⟩ := List.mem_map.mp hr
    have hmem := List.mem_of_mem_filter ha
    exact ⟨hmem, hfigures a hmem⟩
  · rw [List.map_map]
    exact (hnodup.filter _).map fun _ _ h => h
  · intro a ha hnone
    by_cases h : shown zero lines a = true
    · have hrow : a ∈ ((accounts.filter (shown zero lines)).map fun a =>
          (a, net a.type (ofAccount lines a))).map Prod.fst := by
        rw [List.map_map]
        exact List.mem_map.mpr ⟨a, List.mem_filter.mpr ⟨ha, h⟩, rfl⟩
      exact absurd hrow hnone
    · rw [← hfigures a ha]
      exact net_of_not_shown (by simpa using h)

theorem nodup_accounts (p : Account → Bool) :
    (ordered Account.code (db.accounts.rows.filter p)).Nodup := by
  have hrows : db.accounts.rows.Nodup := List.Nodup.of_map _ db.accounts.pk
  exact (perm_ordered _).nodup_iff.mpr (hrows.filter p)

/-- What two adjoining windows say together. -/
theorem figure_sub (dateFrom dateTo : ℤ) (h : dateFrom ≤ dateTo + 1) :
    net a.type ((joinedLines db).filter fun x => x.line.accountId = a.id &&
      branchPredicate branch x && (dateFrom ≤ x.entry.entryDate && x.entry.entryDate ≤ dateTo)) =
      figure db branch dateTo a - figure db branch (dateFrom - 1) a := by
  have hcut := @net_perm a.type _ _ (List.filter_append_perm
    (fun x : LedgerLine => decide (x.entry.entryDate ≤ dateFrom - 1))
    ((joinedLines db).filter fun x => x.line.accountId = a.id && branchPredicate branch x &&
      x.entry.entryDate ≤ dateTo))
  rw [net_append, List.filter_filter, List.filter_filter] at hcut
  unfold figure
  rw [← hcut]
  have hbefore : (joinedLines db).filter (fun x => decide (x.entry.entryDate ≤ dateFrom - 1) &&
      (x.line.accountId = a.id && branchPredicate branch x && x.entry.entryDate ≤ dateTo)) =
      (joinedLines db).filter fun x => x.line.accountId = a.id && branchPredicate branch x &&
        x.entry.entryDate ≤ dateFrom - 1 := by
    refine List.filter_congr fun x _ => ?_
    by_cases hd : x.entry.entryDate ≤ dateFrom - 1
    · have hto : x.entry.entryDate ≤ dateTo := by omega
      simp [hd, hto]
    · simp [hd]
  have hwithin : (joinedLines db).filter (fun x => !decide (x.entry.entryDate ≤ dateFrom - 1) &&
      (x.line.accountId = a.id && branchPredicate branch x && x.entry.entryDate ≤ dateTo)) =
      (joinedLines db).filter fun x => x.line.accountId = a.id && branchPredicate branch x &&
        (dateFrom ≤ x.entry.entryDate && x.entry.entryDate ≤ dateTo) := by
    refine List.filter_congr fun x _ => ?_
    by_cases hd : dateFrom ≤ x.entry.entryDate
    · have hnot : ¬ x.entry.entryDate ≤ dateFrom - 1 := by omega
      simp [hd, hnot]
    · have hle : x.entry.entryDate ≤ dateFrom - 1 := by omega
      simp [hd, hle]
  rw [hbefore, hwithin, add_sub_cancel_left]

/-- The lines of the trial balance on an account. -/
theorem ofAccount_trialLines {q : TrialBalanceQuery} : ofAccount (trialLines db q) a =
    (joinedLines db).filter fun x =>
      x.line.accountId = a.id && branchPredicate q.branch x && q.range.admits x.entry := by
  unfold ofAccount trialLines
  rw [List.filter_filter]
  refine List.filter_congr fun x _ => ?_
  rw [Bool.and_comm (q.range.admits x.entry), Bool.and_assoc]

theorem net_asOf {zero : Option Bool} :
    net a.type (ofAccount (trialLines db ⟨.asOf asOf, branch, zero⟩) a) = figure db branch asOf a := by
  rw [ofAccount_trialLines]
  rfl

theorem net_range {zero : Option Bool} {dateFrom dateTo : ℤ} (h : dateFrom ≤ dateTo + 1) :
    net a.type (ofAccount (trialLines db ⟨.range dateFrom dateTo, branch, zero⟩) a) =
      figure db branch dateTo a - figure db branch (dateFrom - 1) a := by
  rw [ofAccount_trialLines, ← figure_sub dateFrom dateTo h]
  rfl

theorem net_balances {q : BalancesQuery} (h : q.asks a.id = true) :
    net a.type (ofAccount (balanceLines db q) a) = figure db q.branch q.asOf a := by
  unfold ofAccount balanceLines figure
  rw [List.filter_filter]
  congr 1
  refine List.filter_congr fun x _ => ?_
  by_cases hx : x.line.accountId = a.id
  · rw [hx, h, Bool.and_true, Bool.and_comm (decide (x.entry.entryDate ≤ q.asOf)), Bool.and_assoc]
  · rw [decide_eq_false hx]
    rfl

/-- **The opening figure of a ledger is the balance of the day before.** -/
theorem openingMinor_eq {q : LedgerQuery} {report : LedgerReport} (hq : q.cursor = none)
    (h : ledger db q = .ok report) :
    report.openingMinor = figure db q.branch (q.dateFrom - 1) report.account := by
  obtain ⟨_, base, account, cursor, _, haccount, hcursor, rfl⟩ := ledger_eq_ok.mp h
  rw [hq] at hcursor
  obtain rfl := Except.ok.inj hcursor
  have hid : q.accountId = account.id := by
    have hfound := List.find?_some haccount
    exact (of_decide_eq_true hfound).symm
  show net account.type (openingLines db q none) = figure db q.branch (q.dateFrom - 1) account
  unfold openingLines accountLines figure
  rw [List.filter_filter, hid]
  congr 1
  refine List.filter_congr fun x _ => ?_
  have hday : opens q.dateFrom none x = decide (x.entry.entryDate ≤ q.dateFrom - 1) :=
    decide_eq_decide.mpr Int.le_sub_one_iff.symm
  rw [hday, Bool.and_comm]

end Figures

/-! ## 5. Of every history -/

theorem debitSum_append (xs ys : List LedgerLine) :
    debitSum (xs ++ ys) = debitSum xs + debitSum ys := by
  unfold debitSum
  rw [List.map_append, List.sum_append]

theorem creditSum_append (xs ys : List LedgerLine) :
    creditSum (xs ++ ys) = creditSum xs + creditSum ys := by
  unfold creditSum
  rw [List.map_append, List.sum_append]

/-- The lines of one entry. -/
theorem debitSum_lines (e : PostedEntry) (lines : List JournalLine) :
    debitSum (lines.map (LedgerLine.mk e)) = ((lines.map fun l => l.debitMinor).sum : ℕ) := by
  induction lines with
  | nil => rfl
  | cons l lines ih =>
      rw [List.map_cons, List.map_cons, List.sum_cons, Nat.cast_add, ← ih]
      rfl

theorem creditSum_lines (e : PostedEntry) (lines : List JournalLine) :
    creditSum (lines.map (LedgerLine.mk e)) = ((lines.map fun l => l.creditMinor).sum : ℕ) := by
  induction lines with
  | nil => rfl
  | cons l lines ih =>
      rw [List.map_cons, List.map_cons, List.sum_cons, Nat.cast_add, ← ih]
      rfl

/-- Debit minus credit of a line. -/
def signedMinor (x : LedgerLine) : ℤ := x.line.debitMinor - x.line.creditMinor

theorem sum_signedMinor (lines : List LedgerLine) :
    (lines.map signedMinor).sum = debitSum lines - creditSum lines := by
  induction lines with
  | nil => rfl
  | cons x lines ih =>
      unfold debitSum creditSum at ih ⊢
      rw [List.map_cons, List.map_cons, List.map_cons, List.sum_cons, List.sum_cons, List.sum_cons,
        ih]
      unfold signedMinor
      ring

theorem net_debit {type : AccountType} (h : normalBalanceOf type = .debit)
    (lines : List LedgerLine) : net type lines = (lines.map signedMinor).sum := by
  unfold net presentationNet
  rw [if_pos h, sum_signedMinor]

theorem net_credit {type : AccountType} (h : normalBalanceOf type ≠ .debit)
    (lines : List LedgerLine) : net type lines = -(lines.map signedMinor).sum := by
  unfold net presentationNet
  rw [if_neg h, sum_signedMinor, neg_sub]

section Balanced

variable {db : ReportDb} {q : TrialBalanceQuery} {s : Ledger}

/-- The lines of whole entries balance where every entry does. -/
theorem sums_of_entries {entries : List PostedEntry} (p : PostedEntry → Bool)
    (h : ∀ e ∈ entries,
      (e.lines.map fun l => l.debitMinor).sum = (e.lines.map fun l => l.creditMinor).sum) :
    debitSum ((entries.flatMap fun e => e.lines.map (LedgerLine.mk e)).filter fun x => p x.entry) =
      creditSum ((entries.flatMap fun e => e.lines.map (LedgerLine.mk e)).filter
        fun x => p x.entry) := by
  induction entries with
  | nil => rfl
  | cons e entries ih =>
      have ih := ih fun e' he' => h e' (List.mem_cons_of_mem _ he')
      rw [List.flatMap_cons, List.filter_append, debitSum_append, creditSum_append, ih]
      congr 1
      by_cases hp : p e = true
      · have hall : (e.lines.map (LedgerLine.mk e)).filter (fun x => p x.entry) =
            e.lines.map (LedgerLine.mk e) := by
          refine List.filter_eq_self.mpr fun x hx => ?_
          obtain ⟨l, _, rfl⟩ := List.mem_map.mp hx
          exact hp
        rw [hall, debitSum_lines, creditSum_lines, h e List.mem_cons_self]
      · have hnone : (e.lines.map (LedgerLine.mk e)).filter (fun x => p x.entry) = [] := by
          refine List.filter_eq_nil_iff.mpr fun x hx => ?_
          obtain ⟨l, _, rfl⟩ := List.mem_map.mp hx
          exact hp
        rw [hnone]
        rfl

/-- What the accounts of one normal balance come to. -/
def sideTotal (rows : List TrialBalanceRow) (n : NormalBalance) : ℤ :=
  ((rows.filter fun r => normalBalanceOf r.account.type = n).map fun r => r.netMinor).sum

/-- What is not shown does not count. -/
theorem sideTotal_eq {base : Currency} (n : NormalBalance) :
    sideTotal (trialReport db q base).rows n =
      (((ordered Account.code db.accounts.rows).filter fun a => normalBalanceOf a.type = n).map
        fun a => net a.type (ofAccount (trialLines db q) a)).sum := by
  unfold sideTotal trialReport
  rw [List.filter_map, List.map_map, List.filter_filter]
  have hswap : (ordered Account.code db.accounts.rows).filter (fun a =>
      ((fun r : TrialBalanceRow => decide (normalBalanceOf r.account.type = n)) ∘
        trialRow base (trialLines db q)) a && shown q.includeZeroActivity (trialLines db q) a) =
      ((ordered Account.code db.accounts.rows).filter fun a => normalBalanceOf a.type = n).filter
        (shown q.includeZeroActivity (trialLines db q)) := by
    rw [List.filter_filter]
    exact List.filter_congr fun a _ => Bool.and_comm _ _
  rw [hswap]
  exact sum_filter_of_zero fun a _ h => net_of_not_shown h

/-- Debit minus credit over accounts of both kinds. -/
theorem sum_sides {lines : List LedgerLine} (accounts : List Account) :
    (accounts.map fun a => ((ofAccount lines a).map signedMinor).sum).sum =
      ((accounts.filter fun a => normalBalanceOf a.type = .debit).map
        fun a => net a.type (ofAccount lines a)).sum -
      ((accounts.filter fun a => normalBalanceOf a.type = .credit).map
        fun a => net a.type (ofAccount lines a)).sum := by
  induction accounts with
  | nil => rfl
  | cons a accounts ih =>
      rw [List.map_cons, List.sum_cons, ih]
      by_cases h : normalBalanceOf a.type = .debit
      · have hnot : normalBalanceOf a.type ≠ .credit := by
          rw [h]
          decide
        rw [List.filter_cons_of_pos (by simp [h]), List.filter_cons_of_neg (by simp [hnot]),
          List.map_cons, List.sum_cons, net_debit h]
        ring
      · have hcredit : normalBalanceOf a.type = .credit := by
          cases hn : normalBalanceOf a.type with
          | debit => exact absurd hn h
          | credit => rfl
        rw [List.filter_cons_of_neg (by simp [h]), List.filter_cons_of_pos (by simp [hcredit]),
          List.map_cons, List.sum_cons, net_credit h]
        ring

/-- **Where the totals agree, the debit-normal accounts come to what the credit-normal ones do.** -/
theorem sideTotal_debit_eq_credit {base : Currency} (hc : db.Charted)
    (hbalance : debitSum (trialLines db q) = creditSum (trialLines db q)) :
    sideTotal (trialReport db q base).rows .debit =
      sideTotal (trialReport db q base).rows .credit := by
  have hzero := sum_ofAccount signedMinor (trialLines_charted (q := q) hc)
  rw [sum_signedMinor, hbalance, sub_self, sum_sides] at hzero
  rw [sideTotal_eq, sideTotal_eq]
  exact sub_eq_zero.mp hzero

end Balanced

/-- A report reads the committed tables of some books. -/
structure ReportDb.Reads (db : ReportDb) (books : Ledger) : Prop where
  baseCurrency : db.baseCurrency = some books.baseCurrency
  accounts : db.accounts = books.accounts
  journal : db.journal = books.journal

/-- What the reports of some books say: they are never refused for want of balance, and every one
    gives an account the same figure for the same day and scope. -/
structure BooksRender (db : ReportDb) : Prop where
  whole : ∀ range zero, ∃ report, trialBalance db ⟨range, .all none, zero⟩ = .ok report ∧
    report.isBalanced = true ∧ report.totalDebitMinor = report.totalCreditMinor ∧
    sideTotal report.rows .debit = sideTotal report.rows .credit
  totals : ∀ q, ∃ report, trialBalance db q = .ok report ∧
    report.totalDebitMinor = debitSum (trialLines db q) ∧
    report.totalCreditMinor = creditSum (trialLines db q)
  position : ∀ date branch zero report,
    trialBalance db ⟨.asOf date, branch, zero⟩ = .ok report →
    States (report.rows.map fun r => (r.account, r.netMinor)) db.accounts.rows
      (figure db branch date)
  movement : ∀ dateFrom dateTo branch zero report, dateFrom ≤ dateTo →
    trialBalance db ⟨.range dateFrom dateTo, branch, zero⟩ = .ok report →
    States (report.rows.map fun r => (r.account, r.netMinor)) db.accounts.rows
      fun a => figure db branch dateTo a - figure db branch (dateFrom - 1) a
  balances : ∀ q, ∃ rows, balances db q = .ok rows ∧
    States (rows.map fun r => (r.account, r.balanceMinor))
      (db.accounts.rows.filter fun a => q.asks a.id) (figure db q.branch q.asOf)
  opening : ∀ q report, q.cursor = none → ledger db q = .ok report →
    report.openingMinor = figure db q.branch (q.dateFrom - 1) report.account

section Histories

variable {db : ReportDb} {books : Ledger} {start : SourceLedger}

theorem States.of_perm {rows : List (Account × ℤ)} {xs ys : List Account} {figures : Account → ℤ}
    (h : States rows xs figures) (hp : xs.Perm ys) : States rows ys figures :=
  ⟨fun r hr => ⟨hp.mem_iff.mp (h.stated r hr).1, (h.stated r hr).2⟩, h.once,
    fun a ha => h.rest a (hp.mem_iff.mpr ha)⟩

theorem charted_of_kept (h : books.Kept) (hdb : db.Reads books) : db.Charted := by
  intro x hx
  obtain ⟨e, he, hxe⟩ := List.mem_flatMap.mp hx
  obtain ⟨l, hl, rfl⟩ := List.mem_map.mp hxe
  rw [hdb.journal] at he
  obtain ⟨a, ha, hid⟩ := h.charted e he l hl
  rw [hdb.accounts]
  exact List.mem_map.mpr ⟨a, ha, hid⟩

/-- A report of the whole business has whole entries in its window. -/
theorem balanced_of_kept (h : books.Kept) (hdb : db.Reads books) (range : TrialBalanceRange)
    (zero : Option Bool) : debitSum (trialLines db ⟨range, .all none, zero⟩) =
      creditSum (trialLines db ⟨range, .all none, zero⟩) := by
  have hlines : trialLines db ⟨range, .all none, zero⟩ =
      (joinedLines db).filter fun x => range.admits x.entry :=
    List.filter_congr fun x _ => Bool.and_true _
  have hbalanced : ∀ e ∈ db.journal.entries,
      (e.lines.map fun l => l.debitMinor).sum = (e.lines.map fun l => l.creditMinor).sum := by
    rw [hdb.journal]
    exact h.balanced
  rw [hlines]
  exact sums_of_entries range.admits hbalanced

theorem render_of_kept (h : books.Kept) (hdb : db.Reads books) : BooksRender db := by
  have hc := charted_of_kept h hdb
  have hreport : ∀ q, trialBalance db q = .ok (trialReport db q books.baseCurrency) := by
    intro q
    refine (trialBalance_eq_ok hc hdb.baseCurrency).mpr ⟨fun hwhole => ?_, rfl⟩
    obtain ⟨range, branch, zero⟩ := q
    cases branch with
    | all branchId =>
        cases branchId with
        | none => exact balanced_of_kept h hdb range zero
        | some b => cases hwhole
    | assigned bs => cases hwhole
  have hrows : ∀ (q : TrialBalanceQuery) (figures : Account → ℤ),
      (∀ a ∈ ordered Account.code db.accounts.rows,
        net a.type (ofAccount (trialLines db q) a) = figures a) →
      States ((trialReport db q books.baseCurrency).rows.map fun r => (r.account, r.netMinor))
        db.accounts.rows figures := by
    intro q figures hfigures
    have hnodup : (ordered Account.code db.accounts.rows).Nodup :=
      (perm_ordered _).nodup_iff.mpr (List.Nodup.of_map _ db.accounts.pk)
    unfold trialReport
    rw [List.map_map]
    exact (states_shown hnodup hfigures).of_perm (perm_ordered _)
  refine ⟨?_, ?_, ?_, ?_, ?_, ?_⟩
  · intro range zero
    have hbalance := balanced_of_kept h hdb range zero
    exact ⟨_, hreport _, decide_eq_true hbalance, hbalance, sideTotal_debit_eq_credit hc hbalance⟩
  · exact fun q => ⟨_, hreport q, rfl, rfl⟩
  · intro date branch zero report hok
    obtain rfl := Except.ok.inj ((hreport _).symm.trans hok)
    exact hrows _ _ fun a _ => net_asOf
  · intro dateFrom dateTo branch zero report hle hok
    obtain rfl := Except.ok.inj ((hreport _).symm.trans hok)
    exact hrows _ _ fun a _ => net_range (by omega)
  · intro q
    refine ⟨_, balances_eq hdb.baseCurrency, ?_⟩
    rw [List.map_map]
    have hfigures : ∀ a ∈ ordered Account.code (db.accounts.rows.filter fun a => q.asks a.id),
        net a.type (ofAccount (balanceLines db q) a) = figure db q.branch q.asOf a := by
      intro a ha
      exact net_balances (List.mem_filter.mp (mem_ordered.mp ha)).2
    exact (states_shown (nodup_accounts _) hfigures).of_perm (perm_ordered _)
  · exact fun q report hq hok => openingMinor_eq hq hok

/-- **The books render**, whatever history made them: the trial balance of the whole business is
    never refused and balances, and trial balance, balances and ledger agree on every account. -/
theorem books_render (hj : start.ledger.journal = .empty) (history : List SourceCall)
    (hdb : db.Reads (afterAll sourceCall start history).ledger) : BooksRender db := by
  have hkept : (afterAll sourceCall start history).ledger.Kept := by
    refine afterAll_invariant (I := fun s : SourceLedger => s.ledger.Kept) (fun s c _ t r hs hok => ?_)
      (Ledger.kept_empty hj)
    exact (sourceCall_effect hok).kept hs
  exact render_of_kept hkept hdb

/-- What the reports read of the sample: an adjustment and its reversal. -/
def sampleBooksDb (h : ∀ e ∈ sampleReversed.ledger.journal.entries,
    (e.lines.map fun l => l.lineNo).Nodup ∧ ∀ l ∈ e.lines, 0 < l.lineNo ∧ l.lineNo ≤ 2147483647) :
    ReportDb where
  baseCurrency := some sampleReversed.ledger.baseCurrency
  accounts := sampleReversed.ledger.accounts
  journal := sampleReversed.ledger.journal
  lineNumbers := h

theorem books_render_sample : ∃ db : ReportDb, db.Reads sampleReversed.ledger ∧
    (joinedLines db).length = 4 ∧ BooksRender db := by
  have hlines : (∀ e ∈ sampleReversed.ledger.journal.entries,
      (e.lines.map fun l => l.lineNo).Nodup ∧
        ∀ l ∈ e.lines, 0 < l.lineNo ∧ l.lineNo ≤ 2147483647) ∧
      (sampleReversed.ledger.journal.entries.flatMap fun e =>
        e.lines.map (LedgerLine.mk e)).length = 4 := by
    decide +kernel
  have hreads : (sampleBooksDb hlines.1).Reads sampleReversed.ledger := ⟨rfl, rfl, rfl⟩
  have hreached : (sampleBooksDb hlines.1).Reads (afterAll sourceCall sampleSources
      [sampleAdjust, .reverse sampleReversalMoment sampleReversal]).ledger := by
    rw [sampleReversed_after]
    exact hreads
  exact ⟨_, hreads, hlines.2, books_render rfl _ hreached⟩

end Histories

end Daftar.Accounting.Reports
