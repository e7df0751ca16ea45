/-
  File: Daftar/Accounting/OpeningEntry.lean
  Subject: The entry of an opening balance says its positions, and closes them with equity.

  * The derived payload is text again; `timestamptz_instantText` and its neighbours read back what
    was written.
  * `openingLines_say`: past the schema, the accounts and the casts, the inserted lines are the
    positions in their order, and the plug.
-/

import Daftar.Accounting.OpeningBalance

namespace Daftar.Accounting

open AsciiText
open CivilDate
open DoubleEntry
open Fallible

/-! ## 1. Numbers and instants read back -/

section ReadBack

variable {n rate : ℕ} {t u : ℤ}

theorem bigint_toString (h : bigint (toString n) = .ok rate) : rate = n := by
  have hchars : (toString n).toList = Nat.toDigits 10 n := Nat.toList_repr
  unfold bigint digitsValue at h
  rw [hchars, Nat.ofDigitChars_ten_toDigits] at h
  dsimp only at h
  split at h
  · exact (Except.ok.inj h).symm
  · cases h

theorem filter_isDigit {cs : List Char} (h : ∀ c ∈ cs, c.isDigit = true) :
    cs.filter Char.isDigit = cs := List.filter_eq_self.mpr h

/-- The point of a rate is left out, its digits are those of the whole number. -/
theorem numericRate_rateText (rate : ℕ) : numericRate (String.ofList (rateText rate)) = .ok rate := by
  have hdigits : ∀ c ∈ Nat.toDigits 10 (rate / RATE_SCALE), c.isDigit = true := fun _ hc =>
    Nat.isDigit_of_mem_toDigits (by decide) (by decide) hc
  have hlen : (padded 10 (rate % RATE_SCALE)).length = 10 :=
    length_padded (by decide) (Nat.mod_lt _ (by decide))
  have hpoint : Char.isDigit '.' = false := rfl
  unfold numericRate digitsValue rateText
  rw [String.toList_ofList, List.filter_append, List.filter_cons_of_neg (by rw [hpoint]; decide),
    filter_isDigit hdigits, filter_isDigit fun _ hc => isDigit_of_mem_padded hc,
    Nat.ofDigitChars_append, Nat.ofDigitChars_ten_toDigits,
    Nat.ofDigitChars_eq_ofDigitChars_zero, hlen, ofDigitChars_padded]
  exact congrArg Except.ok (Nat.div_add_mod rate RATE_SCALE)

theorem le_length_padded (width n : ℕ) : width ≤ (padded width n).length := by
  unfold padded
  rw [List.length_append, List.length_replicate]
  omega

theorem digitsValue_of_padded {width n : ℕ} {cs : List Char} (h : padded width n = cs) :
    digitsValue cs = n := h ▸ ofDigitChars_padded width n

/-- **An instant read back is the one written**, from the year 1 on. -/
theorem timestamptz_instantText (hre : INSTANT_RE (String.ofList (instantText t)) = true)
    (hyear : 1 ≤ (civil (t / 86400)).year)
    (h : timestamptz (String.ofList (instantText t)) = .ok u) : u = t := by
  have hlen : (instantText t).length = 20 := by
    have h := matchesEach_length hre
    rwa [String.toList_ofList] at h
  have hbounds := civil_bounds (t / 86400)
  have hera : eraYear (civil (t / 86400)).year = (civil (t / 86400)).year.toNat := by
    unfold eraYear
    rw [if_neg (by omega)]
  -- Twenty characters leave each part its own width.
  simp only [instantText, isoDateChars] at hlen h
  generalize hy : padded 4 (eraYear (civil (t / 86400)).year) = y at hlen h
  generalize hm : padded 2 (civil (t / 86400)).month.toNat = m at hlen h
  generalize hd : padded 2 (civil (t / 86400)).day.toNat = d at hlen h
  generalize hh : padded 2 ((t % 86400).toNat / 3600) = hour at hlen h
  generalize hi : padded 2 ((t % 86400).toNat / 60 % 60) = i at hlen h
  generalize hs : padded 2 ((t % 86400).toNat % 60) = sec at hlen h
  have hlens := And.intro (hy ▸ le_length_padded 4 _) (And.intro (hm ▸ le_length_padded 2 _)
    (And.intro (hd ▸ le_length_padded 2 _) (And.intro (hh ▸ le_length_padded 2 _)
      (And.intro (hi ▸ le_length_padded 2 _) (hs ▸ le_length_padded 2 _)))))
  simp only [List.length_append, List.length_cons, List.length_nil] at hlen
  obtain ⟨y1, y2, y3, y4, rfl⟩ := List.length_eq_four.mp (show y.length = 4 by omega)
  obtain ⟨m1, m2, rfl⟩ := List.length_eq_two.mp (show m.length = 2 by omega)
  obtain ⟨d1, d2, rfl⟩ := List.length_eq_two.mp (show d.length = 2 by omega)
  obtain ⟨h1, h2, rfl⟩ := List.length_eq_two.mp (show hour.length = 2 by omega)
  obtain ⟨i1, i2, rfl⟩ := List.length_eq_two.mp (show i.length = 2 by omega)
  obtain ⟨s1, s2, rfl⟩ := List.length_eq_two.mp (show sec.length = 2 by omega)
  simp only [timestamptz, instantPart, String.toList_ofList, List.cons_append, List.nil_append,
    List.drop_succ_cons, List.drop_zero, List.take_succ_cons, List.take_zero,
    digitsValue_of_padded hy, digitsValue_of_padded hm, digitsValue_of_padded hd,
    digitsValue_of_padded hh, digitsValue_of_padded hi, digitsValue_of_padded hs] at h
  split at h
  · rename_i hok
    have hdate : (⟨(eraYear (civil (t / 86400)).year : ℤ), ((civil (t / 86400)).month.toNat : ℤ),
        ((civil (t / 86400)).day.toNat : ℤ)⟩ : Civil) = civil (t / 86400) := by
      rw [hera, Int.toNat_of_nonneg (by omega), Int.toNat_of_nonneg (by omega),
        Int.toNat_of_nonneg hbounds.2.2]
    rw [hdate] at hok h
    have hday := civil_injective hok.2.1
    rw [hday] at h
    rw [← Except.ok.inj h]
    push_cast
    omega
  · cases h

end ReadBack

/-! ## 2. What a line says -/

/-- The account an element names. -/
def AccountRef.Names : AccountRef → Account → Prop
  | .system k, a => a.systemKey = some k
  | .code c, a => a.code = c

/-- The columns of a line on an account that says what is stated, of no branch and no warehouse. -/
def PositionRow.line (p : PositionRow) (lineNo : ℕ) (accountId : Uuid) : LineRow where
  lineNo := lineNo
  accountId := accountId
  debitMinor := if p.side = .D then p.baseMinor else 0
  creditMinor := if p.side = .C then p.baseMinor else 0
  baseMinor := p.baseMinor
  baseCurrency := p.baseCurrency
  txnCurrency := p.txnCurrency
  txnMinor := p.txnMinor
  rate := p.rate
  rateSource := p.rateSource.text
  rateAt := p.rateAt
  branchId := none
  warehouseId := none
  memo := p.memo

def Says (accounts : AccountTable) (p : PositionRow) (l : JournalLine) : Prop :=
  ∃ a ∈ accounts.rows, p.account.Names a ∧ l.toLineRow = p.line l.lineNo a.id

/-- The text of an instant lies in the years that are read back. -/
def PositionRow.Dated (p : PositionRow) : Prop := 1 ≤ (civil (p.rateAt / 86400)).year

/-- The element of a derived line. -/
def PositionRow.element (p : PositionRow) : Jsonb :=
  journalElement p.account p.side p.baseMinor p.baseCurrency p.txnMinor p.txnCurrency p.rate
    p.rateSource.text (some (String.ofList (instantText p.rateAt))) p.memo

section Lines

variable {m : PostingMoment} {accounts : AccountTable} {p : PositionRow} {pl : PostingLine}
  {l : JournalLine} {n : ℕ} {a : Account}

theorem upper_code : ∀ c : Currency, upper c.code = c.code := by
  intro c
  cases c <;> decide

theorem accountText_element {key : String} :
    accountText p.element key = (refObject p.account).text key := rfl

theorem names_of_namedAccount (h : namedAccount accounts p.element = some a) :
    a ∈ accounts.rows ∧ p.account.Names a := by
  refine ⟨List.mem_of_find?_eq_some h, ?_⟩
  have hfound := List.find?_some h
  have hnamed := of_decide_eq_true hfound
  simp only [accountText_element] at hnamed
  cases hp : p.account with
  | system key =>
      rw [hp] at hnamed
      rcases hnamed with ⟨_, _, hkey⟩ | ⟨hkind, _⟩
      · exact hkey
      · exact absurd (Option.some.inj hkind) (by decide)
  | code code =>
      rw [hp] at hnamed
      rcases hnamed with ⟨hkind, _⟩ | ⟨_, hcode⟩
      · exact absurd (Option.some.inj hkind) (by decide)
      · exact Option.some.inj hcode

/-- The texts of a derived line. -/
structure Texts (p : PositionRow) (e : Jsonb) : Prop where
  side : e.text "side" = some (sideText p.side)
  baseMinor : e.text "base_amount_minor" = some (toString p.baseMinor)
  baseCurrency : e.text "base_currency" = some p.baseCurrency.code
  txnMinor : e.text "txn_amount_minor" = some (toString p.txnMinor)
  txnCurrency : e.text "txn_currency" = some p.txnCurrency.code
  rate : e.text "fx_rate" = some (String.ofList (rateText p.rate))
  rateSource : e.text "fx_rate_source" = some p.rateSource.text
  rateAt : e.text "fx_rate_at" = some (String.ofList (instantText p.rateAt))
  branchId : e.text "branch_id" = none
  warehouseId : e.text "warehouse_id" = none
  memo : e.text "memo" = p.memo

theorem texts_element (p : PositionRow) : Texts p p.element := by
  refine ⟨rfl, rfl, rfl, rfl, rfl, rfl, rfl, rfl, rfl, rfl, ?_⟩
  cases h : p.memo with
  | none =>
      simp only [PositionRow.element, h]
      rfl
  | some memo =>
      simp only [PositionRow.element, h]
      rfl

theorem castText_some {α : Type} {cast : String → Except Refusal α} {text : String} {x : α}
    (h : castText cast (some text) = .ok (some x)) : cast text = .ok x := by
  obtain ⟨y, hy, he⟩ := map_eq_ok.mp h
  rw [hy, Option.some.inj he]

theorem currency_of_upper {c d : Currency} {text : String} (ht : some text = some (upper c.code))
    (h : currencyKey text = .ok d) : d = c :=
  code_injective _ _ ((currencyKey_eq_ok h).trans ((Option.some.inj ht).trans (upper_code c)))

theorem sideText_eq_iff {s : Side} : (sideText s = "D" ↔ s = .D) ∧ (sideText s = "C" ↔ s = .C) := by
  cases s with
  | D => decide
  | C => decide

/-- **A derived line, inserted, says what was stated**; its instant, from the year 1 on. -/
theorem says_of_inserted (hinstant : fails INSTANT_RE (p.element.text "fx_rate_at") = false)
    (hres : resolveLine accounts p.element = .ok pl) (h : journalLine m n pl = .ok l) :
    ∃ rateAt, (p.Dated → rateAt = p.rateAt) ∧ Says accounts { p with rateAt := rateAt } l := by
  obtain ⟨hfields, haccount⟩ := resolveLine_eq_ok.mp hres
  obtain ⟨hbase, htxn, hrate, hat, hbranch, hwarehouse, _, hside, hbasecur, htxncur, hsource, hmemo⟩ :=
    postingFields_eq_ok.mp hfields
  obtain ⟨f, a, base, txn, hfacts, hacc, hb, ht, hrow⟩ := journalLine_row h
  obtain ⟨_, g2, g3, g4, g5, g6, g7, g8, g9, g10, g11⟩ := PostingFields.facts?_eq_some.mp hfacts
  obtain ⟨ha, hnames⟩ := names_of_namedAccount (haccount.symm.trans hacc)
  have hx := texts_element p
  rw [hx.baseMinor, g3] at hbase
  rw [hx.txnMinor, g5] at htxn
  rw [hx.rate, g7] at hrate
  rw [hx.rateAt, g9] at hat
  rw [hx.branchId, g10] at hbranch
  rw [hx.warehouseId, g11] at hwarehouse
  rw [hx.side, g2] at hside
  rw [hx.baseCurrency, g4] at hbasecur
  rw [hx.txnCurrency, g6] at htxncur
  rw [hx.rateSource, g8] at hsource
  rw [hx.memo] at hmemo
  rw [hx.rateAt] at hinstant
  have hre : INSTANT_RE (String.ofList (instantText p.rateAt)) = true := by
    simpa only [fails, Bool.not_eq_false'] using hinstant
  refine ⟨f.rateAt, fun hp => timestamptz_instantText hre hp (castText_some hat), a, ha, hnames, ?_⟩
  have hrate := Except.ok.inj ((castText_some hrate).symm.trans (numericRate_rateText p.rate))
  have hbranch := Except.ok.inj hbranch
  have hwarehouse := Except.ok.inj hwarehouse
  rw [hrow, lineRow, PositionRow.line, currency_of_upper hbasecur hb, currency_of_upper htxncur ht,
    Option.some.inj hside, Option.some.inj hsource, bigint_toString (castText_some hbase),
    bigint_toString (castText_some htxn), hrate, hmemo, ← hbranch, ← hwarehouse]
  simp only [sideText_eq_iff]

end Lines

/-! ## 3. The lines of the entry -/

/-- The line that closes the positions, dated at an instant. -/
def plugRows (base : Currency) (rateAt : ℤ) (ps : List Position) : List PositionRow :=
  let plug := (sideTotal .D ps - sideTotal .C ps) + (sideTotal .C ps - sideTotal .D ps)
  if 0 < plug then
    [⟨.system OPENING_EQUITY, if sideTotal .C ps < sideTotal .D ps then .C else .D, plug, base, plug,
      base, RATE_SCALE, .base, rateAt, none⟩]
  else []

/-- The entry of an opening balance: the positions as they are stored, then the plug. -/
structure Opened (accounts : AccountTable) (base : Currency) (o : OpeningBalance)
    (e : PostedEntry) : Prop where
  sourceType : e.source.sourceType = "opening_balance"
  sourceId : e.source.sourceId = o.id
  date : o.asOfDate = .day e.entryDate
  lines : ∃ rateAt, (1 ≤ (civil e.entryDate).year → rateAt = e.entryDate * 86400) ∧
    List.Forall₂ (Says accounts)
      (o.positions.map (fun p => p.toPositionRow) ++ plugRows base rateAt o.positions) e.lines

section Entry

variable {m : PostingMoment} {accounts other : AccountTable} {used : List Uuid} {base : Currency}
  {o : OpeningBalance} {e : PostedEntry} {date rateAt : ℤ} {ps : List Position}
  {rows : List PositionRow} {pls : List PostingLine} {ls : List JournalLine}

theorem midnightText_day : midnightText (.day date) =
    some (String.ofList (instantText (date * 86400))) := by
  have hday : date * 86400 / 86400 = date := by omega
  have hzero : (date * 86400 % 86400).toNat = 0 := by omega
  unfold midnightText instantText
  rw [hday, hzero]
  rfl

theorem plugElement_day : plugElement base (.day date) ps =
    (plugRows base (date * 86400) ps).map PositionRow.element := by
  unfold plugElement plugRows
  rw [midnightText_day]
  dsimp only
  split
  · rfl
  · rfl

theorem openingElements_day (hdate : o.asOfDate = .day date) : openingElements base o =
    (o.positions.map (fun p => p.toPositionRow) ++ plugRows base (date * 86400) o.positions).map
      PositionRow.element := by
  unfold openingElements
  rw [hdate, plugElement_day, List.map_append, List.map_map]
  rfl

/-- A line says what is stated, its instant too from the year 1 on. -/
def SaysDated (accounts : AccountTable) (p : PositionRow) (l : JournalLine) : Prop :=
  ∃ rateAt, (p.Dated → rateAt = p.rateAt) ∧ Says accounts { p with rateAt := rateAt } l

theorem instant_of_malformed {e : Jsonb} (h : malformed e = false) :
    fails INSTANT_RE (e.text "fx_rate_at") = false := by
  simp only [malformed, Bool.or_eq_false_iff] at h
  exact h.1.1.1.1.1.1.1.2

theorem saysDated_of_inserted (hrows : ∀ p ∈ rows, malformed p.element = false)
    (hres : (rows.map PositionRow.element).mapM (resolveLine accounts) = .ok pls)
    (h : journalLines m pls = .ok ls) : List.Forall₂ (SaysDated accounts) rows ls := by
  replace hres := mapM_eq_ok.mp hres
  replace h := journalLines_eq_ok h
  induction rows generalizing pls ls with
  | nil =>
      cases hres
      cases h
      exact .nil
  | cons p rows ih =>
      rw [List.forall_mem_cons] at hrows
      cases hres with
      | cons hline hres =>
          cases h with
          | cons hinserted h =>
              obtain ⟨n, hinserted⟩ := hinserted
              exact .cons (says_of_inserted (instant_of_malformed hrows.1) hline hinserted)
                (ih hrows.2 hres h)

/-- The lines past the positions are dated with the entry. -/
theorem says_of_saysDated (hrows : ∀ p ∈ rows, p.Dated)
    (h : List.Forall₂ (SaysDated accounts) (rows ++ plugRows base (date * 86400) ps) ls) :
    ∃ rateAt, (1 ≤ (civil date).year → rateAt = date * 86400) ∧
      List.Forall₂ (Says accounts) (rows ++ plugRows base rateAt ps) ls := by
  induction rows generalizing ls with
  | nil =>
      rw [List.nil_append] at h
      by_cases hplug : 0 < (sideTotal .D ps - sideTotal .C ps) + (sideTotal .C ps - sideTotal .D ps)
      · simp only [plugRows, if_pos hplug] at h ⊢
        cases h with
        | cons hline hnil =>
            obtain ⟨rateAt, hat, hsays⟩ := hline
            cases hnil
            refine ⟨rateAt, fun hyear => hat ?_, .cons hsays .nil⟩
            have hday : date * 86400 / 86400 = date := by omega
            rwa [PositionRow.Dated, hday]
      · simp only [plugRows, if_neg hplug] at h ⊢
        cases h
        exact ⟨date * 86400, fun _ => rfl, .nil⟩
  | cons p rows ih =>
      rw [List.forall_mem_cons] at hrows
      cases h with
      | cons hline h =>
          obtain ⟨rateAt, hat, hsays⟩ := ih hrows.2 h
          obtain ⟨_, hsame, hline⟩ := hline
          rw [hsame hrows.1] at hline
          exact ⟨rateAt, hat, .cons hline hsays⟩

/-- **The entry of an opening balance is its positions and the plug.** -/
theorem openingLines_say (hdate : o.asOfDate = .day date)
    (hdated : ∀ p ∈ o.positions, p.toPositionRow.Dated) {es : List Jsonb}
    (hpayload : checkPayload (some (.array (openingElements base o))) = .ok es)
    (hres : es.mapM (resolveLine accounts) = .ok pls) (h : journalLines m pls = .ok ls) :
    ∃ rateAt, (1 ≤ (civil date).year → rateAt = date * 86400) ∧
      List.Forall₂ (Says accounts)
        (o.positions.map (fun p => p.toPositionRow) ++ plugRows base rateAt o.positions) ls := by
  obtain ⟨helements, _, hschema⟩ := checkPayload_eq_ok.mp hpayload
  cases helements
  rw [openingElements_day hdate] at hres hschema
  have hformed : ∀ p ∈ o.positions.map (fun p => p.toPositionRow) ++
      plugRows base (date * 86400) o.positions, malformed p.element = false :=
    fun p hp => (hschema _ (List.mem_map_of_mem hp)).wellFormed
  refine says_of_saysDated (fun p hp => ?_) (saysDated_of_inserted hformed hres h)
  obtain ⟨q, hq, rfl⟩ := List.mem_map.mp hp
  exact hdated q hq

/-- Accounts with posted lines keep the names that positions gave them. -/
theorem Says.keep {p : PositionRow} {l : JournalLine} (h : Says accounts p l)
    (hk : Keeps used accounts other) (hused : l.accountId ∈ used) : Says other p l := by
  obtain ⟨a, ha, hnames, hrow⟩ := h
  have hid : a.id = l.accountId := by
    rw [hrow]
    rfl
  obtain ⟨b, hb, hbid, hcode, hkey⟩ := hk a ha (hid ▸ hused)
  refine ⟨b, hb, ?_, hbid ▸ hrow⟩
  cases hp : p.account with
  | system key =>
      rw [hp] at hnames
      exact hkey.trans hnames
  | code code =>
      rw [hp] at hnames
      exact hcode.trans hnames

theorem Opened.keep (h : Opened accounts base o e) (hk : Keeps used accounts other)
    (hused : ∀ l ∈ e.lines, l.accountId ∈ used) : Opened other base o e := by
  obtain ⟨rateAt, hat, hlines⟩ := h.lines
  refine ⟨h.sourceType, h.sourceId, h.date, rateAt, hat, ?_⟩
  refine List.forall₂_iff_zip.mpr ⟨hlines.length_eq, fun hpl => ?_⟩
  exact (List.forall₂_zip hlines hpl).keep hk (hused _ (List.of_mem_zip hpl).2)

end Entry

end Daftar.Accounting
