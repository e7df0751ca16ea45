/-
  File: Daftar/Accounting/FingerprintAgreement.lean
  Subject: What the stream of a posting identifies, and the stream the database builds.

  * No field of a line holds a separator but the one that ends it, so a stream is read back into its
    header and its lines (`commandStream_eq_iff`), and a line into its fields (`SameLineFacts`).
  * `Represents` are the values of a command in the types of the database. Where every year has one
    spelling on both sides, from 1 to 9999, the streams are the same
    (`commandStream_eq_postingStream`).
-/

import Daftar.Accounting.Fingerprint
import Daftar.Accounting.PostingHistory

namespace Daftar.Accounting

open AsciiText
open CivilDate
open Fallible
open Framing
open IsoInstant
open Sha256
open Inventory.Payload (CANONICAL_UUID_RE printable_of_uuid)

/-! ## 1. Accounts -/

/-- The account is named as the chart of accounts names its own. -/
def AccountRef.InChart : AccountRef → Prop
  | .system _ => True
  | .code text => ACCOUNT_CODE_RE text = true

theorem isLower_or_digit_of_systemKey {key : String} (h : SYSTEM_KEY_RE key = true) :
    ∀ c ∈ key.toList, 32 ≤ c.toNat ∧ c ≠ ':' := by
  simp only [SYSTEM_KEY_RE, Bool.and_eq_true, List.all_eq_true] at h
  intro c hc
  have hchar := h.2 c hc
  simp only [Bool.or_eq_true, Bool.and_eq_true, decide_eq_true_eq, beq_iff_eq] at hchar
  rcases hchar with (hchar | hchar) | rfl
  · have h1 : 97 ≤ c.toNat := hchar.1
    refine ⟨by omega, ?_⟩
    rintro rfl
    exact absurd h1 (by decide)
  · refine ⟨(printable_of_isDigit hchar).1, ?_⟩
    rintro rfl
    cases hchar
  · decide

theorem canonicalAccountIdentity_eq_ok {ref : AccountRef} {identity : String}
    (h : canonicalAccountIdentity ref = .ok identity) :
    (∃ key, ref = .system key ∧ SYSTEM_KEY_RE key = true ∧ identity = key) ∨
      ∃ code, ref = .code code ∧ identity = "code:" ++ code := by
  cases ref with
  | system key =>
      simp only [canonicalAccountIdentity, bind_eq_ok, refuseIf_eq_ok, exists_const,
        pure_eq_ok] at h
      exact .inl ⟨key, rfl, Bool.eq_true_of_not_eq_false h.1, h.2.symm⟩
  | code code =>
      simp only [canonicalAccountIdentity, bind_eq_ok, refuseIf_eq_ok, exists_const,
        pure_eq_ok] at h
      exact .inr ⟨code, rfl, h.2.symm⟩

theorem plain_accountIdentity {ref : AccountRef} {identity : String}
    (h : canonicalAccountIdentity ref = .ok identity) (hchart : ref.InChart) :
    Plain identity.toList := by
  obtain ⟨key, rfl, hkey, rfl⟩ | ⟨code, rfl, rfl⟩ := canonicalAccountIdentity_eq_ok h
  · exact fun c hc => (isLower_or_digit_of_systemKey hkey c hc).1
  · rw [String.toList_append]
    have hprefix : Plain "code:".toList := by
      decide
    exact hprefix.append (plain_accountCode hchart)

/-- **One identity, one account**: a key has no colon. -/
theorem canonicalAccountIdentity_inj {ref ref' : AccountRef} {identity : String}
    (h : canonicalAccountIdentity ref = .ok identity)
    (h' : canonicalAccountIdentity ref' = .ok identity) : ref = ref' := by
  have hcolon : ∀ {key code : String}, SYSTEM_KEY_RE key = true → key ≠ "code:" ++ code := by
    rintro _ code hkey rfl
    have hmem : ':' ∈ ("code:" ++ code).toList := by
      rw [String.toList_append]
      exact List.mem_append_left _ (by decide)
    exact (isLower_or_digit_of_systemKey hkey _ hmem).2 rfl
  obtain ⟨key, rfl, hkey, rfl⟩ | ⟨code, rfl, rfl⟩ := canonicalAccountIdentity_eq_ok h <;>
    obtain ⟨key', rfl, hkey', heq⟩ | ⟨code', rfl, heq⟩ := canonicalAccountIdentity_eq_ok h'
  · rw [heq]
  · exact absurd heq (hcolon hkey)
  · exact absurd heq.symm (hcolon hkey')
  · have hlist := congrArg String.toList heq
    rw [String.toList_append, String.toList_append] at hlist
    rw [String.toList_injective (List.append_cancel_left hlist)]

/-! ## 2. Lines -/

/-- The canonical values of a line. -/
structure CanonicalLineInput.Canonicals (line : CanonicalLineInput)
    (baseCurrency txnCurrency rate instant : String) (branch warehouse : List Char) : Prop where
  identity : line.accountIdentity ≠ ""
  rateSource : line.fxRateSource ∈ ["base", "manual", "provider"]
  side : line.side = "D" ∨ line.side = "C"
  baseAmount : 0 ≤ line.baseAmountMinor
  baseCurrency : canonicalCurrency line.baseCurrency = .ok baseCurrency
  txnAmount : 0 ≤ line.txnAmountMinor
  txnCurrency : canonicalCurrency line.txnCurrency = .ok txnCurrency
  rate : canonicalRate line.fxRate = .ok rate
  rateAt : canonicalInstantSecond line.fxRateAt = .ok instant
  branch : dimension line.branchId = .ok branch
  warehouse : dimension line.warehouseId = .ok warehouse

/-- The texts of a line, its identity first. -/
def lineTexts (line : CanonicalLineInput) (baseCurrency txnCurrency rate instant : String)
    (branch warehouse : List Char) : List (List Char) :=
  [line.accountIdentity.toList, line.side.toList, Nat.toDigits 10 line.baseAmountMinor.toNat,
    baseCurrency.toList, Nat.toDigits 10 line.txnAmountMinor.toNat, txnCurrency.toList, rate.toList,
    line.fxRateSource.toList, instant.toList, branch, warehouse]

theorem canonicalFields_eq_ok {line : CanonicalLineInput} {fields : List (List Char)} :
    canonicalFields line = .ok fields ↔
      ∃ baseCurrency txnCurrency rate instant branch warehouse,
        line.Canonicals baseCurrency txnCurrency rate instant branch warehouse ∧
        fields = lineTexts line baseCurrency txnCurrency rate instant branch warehouse := by
  simp only [canonicalFields, canonicalSide, canonicalAmount, bind_eq_ok, refuseIf_eq_ok,
    exists_const, pure_eq_ok, not_not, not_and_or, not_lt]
  constructor
  · intro h
    obtain ⟨hid, hsource, _, ⟨hside, rfl⟩, _, ⟨hbase, rfl⟩, bc, hbc, _, ⟨htxn, rfl⟩, tc, htc, rate,
      hrate, instant, hinstant, branch, hbranch, warehouse, hwarehouse, rfl⟩ := h
    exact ⟨bc, tc, rate, instant, branch, warehouse, ⟨hid, hsource, hside, hbase, hbc, htxn, htc,
      hrate, hinstant, hbranch, hwarehouse⟩, rfl⟩
  · intro h
    obtain ⟨bc, tc, rate, instant, branch, warehouse, hc, rfl⟩ := h
    exact ⟨hc.identity, hc.rateSource, _, ⟨hc.side, rfl⟩, _, ⟨hc.baseAmount, rfl⟩, bc,
      hc.baseCurrency, _, ⟨hc.txnAmount, rfl⟩, tc, hc.txnCurrency, rate, hc.rate, instant,
      hc.rateAt, branch, hc.branch, warehouse, hc.warehouse, rfl⟩

/-- A text that holds neither separator of a line. -/
def NoSeparator (cs : List Char) : Prop := UNIT_SEPARATOR ∉ cs ∧ RECORD_SEPARATOR ∉ cs

theorem Plain.noSeparator {cs : List Char} (h : Plain cs) : NoSeparator cs := ⟨h.unit, h.record⟩

theorem noSeparator_dimension {value : Option String} {text : List Char}
    (h : dimension value = .ok text) : NoSeparator text := by
  cases value with
  | none =>
      obtain rfl := (pure_eq_ok _ _).mp h
      unfold NoSeparator
      decide
  | some v =>
      obtain ⟨u, hu, rfl⟩ := map_eq_ok.mp h
      exact (plain_of_printable (printable_of_uuid (canonicalUuid_eq_ok hu))).noSeparator

section Lines

variable {line : CanonicalLineInput} {baseCurrency txnCurrency rate instant : String}
  {branch warehouse : List Char}

theorem CanonicalLineInput.Canonicals.noSeparator
    (h : line.Canonicals baseCurrency txnCurrency rate instant branch warehouse)
    (hid : Plain line.accountIdentity.toList) :
    ∀ field ∈ lineTexts line baseCurrency txnCurrency rate instant branch warehouse,
      NoSeparator field := by
  have hside : Plain line.side.toList := by
    rcases h.side with hs | hs <;> rw [hs] <;> decide
  have hsource : Plain line.fxRateSource.toList := by
    have hs := h.rateSource
    simp only [List.mem_cons, List.not_mem_nil, or_false] at hs
    rcases hs with hs | hs | hs <;> rw [hs] <;> decide
  have hcurrency : ∀ {x v}, canonicalCurrency x = .ok v → Plain v.toList := fun hx =>
    plain_of_printable (printable_of_currency (canonicalCurrency_eq_ok hx))
  simp only [lineTexts, List.forall_mem_cons]
  exact ⟨hid.noSeparator, hside.noSeparator, (plain_toDigits _).noSeparator,
    (hcurrency h.baseCurrency).noSeparator, (plain_toDigits _).noSeparator,
    (hcurrency h.txnCurrency).noSeparator,
    (plain_of_printable (printable_canonicalRate h.rate)).noSeparator, hsource.noSeparator,
    (plain_of_printable (printable_canonicalInstantSecond h.rateAt)).noSeparator,
    noSeparator_dimension h.branch, noSeparator_dimension h.warehouse,
    fun _ h => absurd h List.not_mem_nil⟩

end Lines

/-- The canonical line of a command's line. -/
def commandLine (line : PostingLineCommand) : Canonical (List Char) :=
  toCanonicalLine line >>= canonicalLine

/-- What an accepted line of a command is made of. -/
theorem commandLine_eq_ok {line : PostingLineCommand} {text : List Char}
    (h : commandLine line = .ok text) : ∃ input baseCurrency txnCurrency rate instant branch
      warehouse, toCanonicalLine line = .ok input ∧
      input.Canonicals baseCurrency txnCurrency rate instant branch warehouse ∧
      text = [UNIT_SEPARATOR].intercalate
        (lineTexts input baseCurrency txnCurrency rate instant branch warehouse) := by
  obtain ⟨input, hinput, htext⟩ := bind_eq_ok.mp h
  obtain ⟨fields, hfields, rfl⟩ := map_eq_ok.mp htext
  obtain ⟨bc, tc, rate, instant, branch, warehouse, hc, rfl⟩ := canonicalFields_eq_ok.mp hfields
  exact ⟨input, bc, tc, rate, instant, branch, warehouse, hinput, hc, rfl⟩

theorem toCanonicalLine_eq_ok {line : PostingLineCommand} {input : CanonicalLineInput}
    (h : toCanonicalLine line = .ok input) :
    canonicalAccountIdentity line.account = .ok input.accountIdentity ∧ input.side = line.side ∧
      input.baseAmountMinor = line.baseAmountMinor ∧ input.baseCurrency = line.baseCurrency ∧
      input.txnAmountMinor = line.txnAmountMinor ∧ input.txnCurrency = line.txnCurrency ∧
      input.fxRate = line.fxRate ∧ input.fxRateSource = line.fxRateSource ∧
      input.fxRateAt = line.fxRateAt ∧ input.branchId = line.branchId ∧
      input.warehouseId = line.warehouseId := by
  obtain ⟨identity, hid, hpure⟩ := bind_eq_ok.mp h
  obtain rfl := (pure_eq_ok _ _).mp hpure
  exact ⟨hid, rfl, rfl, rfl, rfl, rfl, rfl, rfl, rfl, rfl, rfl⟩

/-- The lines state the same amounts, sides, accounts, currencies, rates and dimensions. -/
structure SameLineFacts (a b : PostingLineCommand) : Prop where
  account : a.account = b.account
  side : a.side = b.side
  baseAmount : a.baseAmountMinor = b.baseAmountMinor
  baseCurrency : canonicalCurrency a.baseCurrency = canonicalCurrency b.baseCurrency
  txnAmount : a.txnAmountMinor = b.txnAmountMinor
  txnCurrency : canonicalCurrency a.txnCurrency = canonicalCurrency b.txnCurrency
  rate : rateOf a.fxRate = rateOf b.fxRate
  rateSource : a.fxRateSource = b.fxRateSource
  rateAt : canonicalInstantSecond a.fxRateAt = canonicalInstantSecond b.fxRateAt
  branch : dimension a.branchId = dimension b.branchId
  warehouse : dimension a.warehouseId = dimension b.warehouseId

theorem toDigits_injective {m n : ℕ} (h : Nat.toDigits 10 m = Nat.toDigits 10 n) : m = n := by
  have hm : Nat.ofDigitChars 10 (Nat.toDigits 10 m) 0 = m := Nat.ofDigitChars_ten_toDigits
  rw [← hm, h]
  exact Nat.ofDigitChars_ten_toDigits

/-- **A line is read back into its fields.** -/
theorem sameLineFacts_of_commandLine {a b : PostingLineCommand} {text : List Char}
    (ha : commandLine a = .ok text) (hb : commandLine b = .ok text) (hac : a.account.InChart)
    (hbc : b.account.InChart) : SameLineFacts a b := by
  obtain ⟨x, _, _, _, _, _, _, hx, hcx, rfl⟩ := commandLine_eq_ok ha
  obtain ⟨y, _, _, _, _, _, _, hy, hcy, htext⟩ := commandLine_eq_ok hb
  obtain ⟨hidx, hsidex, hbasex, hbcx, htxnx, htcx, hratex, hsourcex, hatx, hbrx, hwx⟩ :=
    toCanonicalLine_eq_ok hx
  obtain ⟨hidy, hsidey, hbasey, hbcy, htxny, htcy, hratey, hsourcey, haty, hbry, hwy⟩ :=
    toCanonicalLine_eq_ok hy
  have hfields := congrArg (List.splitOn UNIT_SEPARATOR) htext
  rw [List.splitOn_intercalate _ (fun f hf => (hcx.noSeparator
      (plain_accountIdentity hidx hac) f hf).1) (List.cons_ne_nil _ _),
    List.splitOn_intercalate _ (fun f hf => (hcy.noSeparator
      (plain_accountIdentity hidy hbc) f hf).1) (List.cons_ne_nil _ _)] at hfields
  simp only [lineTexts, List.cons.injEq, and_true] at hfields
  obtain ⟨hid, hside, hbase, hcur, htxn, htcur, hrate, hsource, hat, hbranch, hware⟩ := hfields
  have hid := String.toList_injective hid
  have hside := String.toList_injective hside
  have hcur := String.toList_injective hcur
  have htcur := String.toList_injective htcur
  have hrate := String.toList_injective hrate
  have hsource := String.toList_injective hsource
  have hat := String.toList_injective hat
  have hbase := toDigits_injective hbase
  have htxn := toDigits_injective htxn
  have h1 := hcx.baseAmount
  have h2 := hcy.baseAmount
  have h3 := hcx.txnAmount
  have h4 := hcy.txnAmount
  have hbaseAmount : a.baseAmountMinor = b.baseAmountMinor := by omega
  have htxnAmount : a.txnAmountMinor = b.txnAmountMinor := by omega
  subst hcur htcur hrate hat hbranch hware
  rw [← hid] at hidy
  refine ⟨canonicalAccountIdentity_inj hidx hidy, ?_, hbaseAmount, ?_, htxnAmount, ?_, ?_, ?_, ?_, ?_,
    ?_⟩
  · rw [← hsidex, hside, hsidey]
  · rw [← hbcx, ← hbcy, hcx.baseCurrency, hcy.baseCurrency]
  · rw [← htcx, ← htcy, hcx.txnCurrency, hcy.txnCurrency]
  · rw [← hratex, ← hratey, ← (rateOf_canonicalRate hcx.rate).1, (rateOf_canonicalRate hcy.rate).1]
  · rw [← hsourcex, hsource, hsourcey]
  · rw [← hatx, ← haty, hcx.rateAt, hcy.rateAt]
  · rw [← hbrx, ← hbry, hcx.branch, hcy.branch]
  · rw [← hwx, ← hwy, hcx.warehouse, hcy.warehouse]

/-! ## 3. Streams -/

/-- The canonical lines of a command, in its order. -/
def commandLines (command : PostingRequest) : Canonical (List (List Char)) :=
  command.lines.mapM commandLine

/-- A source type over lower-case letters, digits and underscore. -/
def SourceTypeText (text : String) : Prop :=
  ∀ c ∈ text.toList, isLower c = true ∨ c.isDigit = true ∨ c = '_'

theorem SourceTypeText.plain {text : String} (h : SourceTypeText text) : Plain text.toList := by
  intro c hc
  rcases h c hc with hl | hd | rfl
  · simp only [isLower, Bool.and_eq_true, decide_eq_true_eq] at hl
    have h1 : 97 ≤ c.toNat := hl.1
    omega
  · exact (printable_of_isDigit hd).1
  · decide

/-- The accounts of the lines are named as in the chart, the source type is of its alphabet. -/
structure PostingRequest.WellNamed (command : PostingRequest) : Prop where
  accounts : ∀ line ∈ command.lines, line.account.InChart
  sourceType : SourceTypeText command.header.sourceType

theorem commandStream_eq_ok {command : PostingRequest} {stream : List UInt8}
    (h : commandStream command = .ok stream) : ∃ head lines,
      canonicalHeader command.header = .ok head ∧ commandLines command = .ok lines ∧
      stream = utf8 (String.ofList (frame '\n' head ++ frame RECORD_SEPARATOR
        (sortedLines lines))) := by
  simp only [commandStream, canonicalStream, bind_eq_ok, refuseIf_eq_ok, exists_const,
    pure_eq_ok] at h
  obtain ⟨inputs, hinputs, -, -, head, hhead, lines, hlines, rfl⟩ := h
  refine ⟨head, lines, hhead, ?_, rfl⟩
  exact (mapM_bind_eq_ok hinputs hlines)

theorem printable_of_dateRe {cs : List Char} (h : DATE_RE cs = true) :
    ∀ c ∈ cs, 32 ≤ c.toNat ∧ c.toNat < 127 := by
  refine matchesEach_forall (fun p hp c hc => ?_) h
  simp only [List.mem_append, List.mem_cons, List.mem_replicate] at hp
  have hp' : p = Char.isDigit ∨ p = (· == '-') := by tauto
  rcases hp' with rfl | rfl
  · exact printable_of_isDigit hc
  · rw [beq_iff_eq.mp hc]
    decide

theorem plain_of_dateRe {cs : List Char} (h : DATE_RE cs = true) : Plain cs :=
  fun c hc => (printable_of_dateRe h c hc).1

theorem canonicalHeader_eq_ok {header : CanonicalHeaderInput} {head : List (List Char)} :
    canonicalHeader header = .ok head ↔ ∃ tenant business source date,
      canonicalUuid header.tenantId = .ok tenant ∧ canonicalUuid header.businessId = .ok business ∧
      canonicalUuid header.sourceId = .ok source ∧ canonicalDate header.entryDate = .ok date ∧
      head = ["acctfp/1".toList, tenant.toList, business.toList, header.sourceType.toList,
        source.toList, date] := by
  simp only [canonicalHeader, bind_eq_ok, pure_eq_ok]
  constructor
  · intro h
    obtain ⟨t, ht, b, hb, s, hs, d, hd, rfl⟩ := h
    exact ⟨t, b, s, d, ht, hb, hs, hd, rfl⟩
  · intro h
    obtain ⟨t, b, s, d, ht, hb, hs, hd, rfl⟩ := h
    exact ⟨t, ht, b, hb, s, hs, d, hd, rfl⟩

theorem canonicalDate_eq_ok {value : String} {date : List Char} (h : canonicalDate value = .ok date) :
    DATE_RE date = true ∧ civil (dayOfDate date) = civilOfDate date := by
  simp only [canonicalDate, bind_eq_ok, refuseIf_eq_ok, exists_const, pure_eq_ok, not_not] at h
  obtain ⟨hre, hday, rfl⟩ := h
  exact ⟨Bool.eq_true_of_not_eq_false hre, hday⟩

/-- The header's lines hold no line feed. -/
theorem plain_canonicalHeader {header : CanonicalHeaderInput} {head : List (List Char)}
    (h : canonicalHeader header = .ok head) (hsource : SourceTypeText header.sourceType) :
    head.length = 6 ∧ ∀ line ∈ head, '\n' ∉ line := by
  obtain ⟨t, b, s, d, ht, hb, hs, hd, rfl⟩ := canonicalHeader_eq_ok.mp h
  have hnl : ∀ {cs : List Char}, Plain cs → '\n' ∉ cs := fun hp hm => absurd (hp _ hm) (by decide)
  have huuid : ∀ {x v}, canonicalUuid x = .ok v → '\n' ∉ v.toList := fun hx =>
    hnl (plain_of_printable (printable_of_uuid (canonicalUuid_eq_ok hx)))
  refine ⟨rfl, ?_⟩
  simp only [List.forall_mem_cons]
  exact ⟨by decide, huuid ht, huuid hb, hnl hsource.plain, huuid hs,
    hnl (plain_of_dateRe (canonicalDate_eq_ok hd).1), fun _ h => absurd h List.not_mem_nil⟩

theorem commandLines_clean {command : PostingRequest} {lines : List (List Char)}
    (h : commandLines command = .ok lines) (hnamed : command.WellNamed) :
    ∀ line ∈ lines, RECORD_SEPARATOR ∉ line := by
  intro text htext
  obtain ⟨line, hline, hok⟩ := mapM_source h htext
  obtain ⟨input, _, _, _, _, _, _, hinput, hc, rfl⟩ := commandLine_eq_ok hok
  have hplain := plain_accountIdentity (toCanonicalLine_eq_ok hinput).1 (hnamed.accounts line hline)
  intro hm
  rcases mem_intercalate hm with hm | ⟨field, hfield, hm⟩
  · exact absurd hm (by decide)
  · exact (hc.noSeparator hplain field hfield).2 hm

/-- **Two streams are equal exactly when the headers and the multisets of lines are.** -/
theorem commandStream_eq_iff {c d : PostingRequest} {s t : List UInt8} {ls ms : List (List Char)}
    (hs : commandStream c = .ok s) (ht : commandStream d = .ok t) (hc : c.WellNamed)
    (hd : d.WellNamed) (hls : commandLines c = .ok ls) (hms : commandLines d = .ok ms) :
    s = t ↔ canonicalHeader c.header = canonicalHeader d.header ∧ ls.Perm ms := by
  obtain ⟨hc', ls', hhc, hlc, rfl⟩ := commandStream_eq_ok hs
  obtain ⟨hd', ms', hhd, hld, rfl⟩ := commandStream_eq_ok ht
  obtain rfl := Except.ok.inj (hls.symm.trans hlc)
  obtain rfl := Except.ok.inj (hms.symm.trans hld)
  obtain ⟨hlenc, hcleanc⟩ := plain_canonicalHeader hhc hc.sourceType
  obtain ⟨hlend, hcleand⟩ := plain_canonicalHeader hhd hd.sourceType
  have hsorted : ∀ {ls : List (List Char)}, (∀ l ∈ ls, RECORD_SEPARATOR ∉ l) →
      ∀ l ∈ sortedLines ls, RECORD_SEPARATOR ∉ l :=
    fun hall l hl => hall l ((sortedLines_perm _).mem_iff.mp hl)
  constructor
  · intro heq
    obtain ⟨hhead, hbody⟩ := frame_append_inj (hlenc.trans hlend.symm) hcleanc hcleand
      (String.ofList_injective (utf8_injective heq))
    have hlines := congrArg (unframe RECORD_SEPARATOR) hbody
    rw [unframe_frame (hsorted (commandLines_clean hls hc)),
      unframe_frame (hsorted (commandLines_clean hms hd))] at hlines
    refine ⟨by rw [hhc, hhd, hhead], ?_⟩
    exact (sortedLines_perm _).symm.trans (hlines ▸ sortedLines_perm _)
  · intro h
    rw [hhc, hhd] at h
    rw [Except.ok.inj h.1, sortedLines_of_perm h.2]

/-! ## 4. The values of a command in the database -/

/-- 2000-01-01, in seconds from 1970. -/
def POSTGRES_EPOCH_SECONDS : ℤ := 946684800

def DimensionRepresents : Option String → Option Uuid → Prop
  | some value, some u => canonicalUuid value = .ok u.text
  | none, none => True
  | _, _ => False

/-- The arguments of `accounting_canonical_line` have the values of the line. -/
structure LineRepresents (line : PostingLineCommand) (f : LineFacts) : Prop where
  identity : canonicalAccountIdentity line.account = .ok f.identity
  side : line.side = f.side
  baseAmount : line.baseAmountMinor = f.baseMinor
  baseCurrency : canonicalCurrency line.baseCurrency = .ok (upper f.baseCurrency)
  txnAmount : line.txnAmountMinor = f.txnMinor
  txnCurrency : canonicalCurrency line.txnCurrency = .ok (upper f.txnCurrency)
  rate : rateOf line.fxRate = some ((f.rate : ℚ) / RATE_SCALE)
  rateSource : line.fxRateSource = f.rateSource
  rateAt : ∃ t, line.fxRateAt = some t ∧ t.ms = (f.rateAt + POSTGRES_EPOCH_SECONDS) * 1000
  branch : DimensionRepresents line.branchId f.branchId
  warehouse : DimensionRepresents line.warehouseId f.warehouseId

/-- The arguments of `accounting_fingerprint` have the values of the command. -/
structure Represents (command : PostingRequest) (source : PostingSource) (date : ℤ)
    (facts : List LineFacts) : Prop where
  tenantId : canonicalUuid command.header.tenantId = .ok source.tenantId.text
  businessId : canonicalUuid command.header.businessId = .ok source.businessId.text
  sourceType : command.header.sourceType = source.sourceType
  sourceId : canonicalUuid command.header.sourceId = .ok source.sourceId.text
  entryDate : ∃ v, canonicalDate command.header.entryDate = .ok v ∧ civil date = civilOfDate v
  lines : List.Forall₂ LineRepresents command.lines facts

/-- The years of the entry date and of the instants of the rates are at least `first` and have four
    digits. -/
def YearsFrom (first date : ℤ) (facts : List LineFacts) : Prop :=
  (first ≤ (civil date).year ∧ (civil date).year ≤ 9999) ∧
    ∀ f ∈ facts, first ≤ (civil (f.rateAt / 86400)).year ∧ (civil (f.rateAt / 86400)).year ≤ 9999

/-! ## 5. One spelling -/

/-- **A date text is the text of its day**, from the year 1 on. -/
theorem isoDateChars_of_date {v : List Char} {date : ℤ} (hre : DATE_RE v = true)
    (hday : civil date = civilOfDate v) (hyear : 1 ≤ (civil date).year) : isoDateChars date = v := by
  simp only [DATE_RE, List.replicate, List.cons_append, List.nil_append, matchesEach_cons,
    matchesEach_nil, beq_iff_eq] at hre
  obtain ⟨a, _, rfl, ha, b, _, rfl, hb, c, _, rfl, hc, d, _, rfl, hd, _, _, rfl, rfl, f, _, rfl, hf, g,
    _, rfl, hg, _, _, rfl, rfl, i, _, rfl, hi, j, _, rfl, hj, rfl⟩ := hre
  have hcivil : civil date = ⟨digitsValue [a, b, c, d], digitsValue [f, g], digitsValue [i, j]⟩ := hday
  rw [hcivil] at hyear
  have hera : eraYear (digitsValue [a, b, c, d] : ℤ) = digitsValue [a, b, c, d] := by
    unfold eraYear
    rw [if_neg (by simp only at hyear; omega), Int.toNat_natCast]
  have hy : padded 4 (digitsValue [a, b, c, d]) = [a, b, c, d] :=
    padded_ofDigitChars (by decide) (by simp [ha, hb, hc, hd]) rfl
  have hm : padded 2 (digitsValue [f, g]) = [f, g] :=
    padded_ofDigitChars (by decide) (by simp [hf, hg]) rfl
  have hd : padded 2 (digitsValue [i, j]) = [i, j] :=
    padded_ofDigitChars (by decide) (by simp [hi, hj]) rfl
  rw [isoDateChars, hcivil, hera, Int.toNat_natCast, Int.toNat_natCast, hy, hm, hd]
  rfl

/-- **An instant has one text**, from the year 1 to 9999. -/
theorem instantText_of_instant {t : TimeValue} {rateAt : ℤ}
    (ht : t.ms = (rateAt + POSTGRES_EPOCH_SECONDS) * 1000)
    (hyear : 1 ≤ (civil (rateAt / 86400)).year ∧ (civil (rateAt / 86400)).year ≤ 9999) :
    (isoChars t.ms).take 19 ++ ['Z'] = instantText rateAt := by
  unfold POSTGRES_EPOCH_SECONDS at ht
  have hday : t.ms / 86400000 - 10957 = rateAt / 86400 := by omega
  have hdate : dateOf t.ms = civil (rateAt / 86400) := by rw [dateOf, hday]
  have hms : msOfDay t.ms = (rateAt % 86400).toNat * 1000 := by
    unfold msOfDay
    omega
  have hshort : HasShortYear t.ms := by
    unfold HasShortYear
    rw [hdate]
    omega
  have hera : eraYear (civil (rateAt / 86400)).year = (civil (rateAt / 86400)).year.toNat := by
    unfold eraYear
    rw [if_neg (by omega)]
  have hhour : msOfDay t.ms / 3600000 = (rateAt % 86400).toNat / 3600 := by omega
  have hmin : msOfDay t.ms / 60000 % 60 = (rateAt % 86400).toNat / 60 % 60 := by omega
  have hsec : msOfDay t.ms / 1000 % 60 = (rateAt % 86400).toNat % 60 := by omega
  rw [take_isoChars_of_year hshort, secondChars, minuteChars, yearChars_of_year hshort, hhour, hmin,
    hsec, hdate]
  simp only [instantText, isoDateChars, hera, List.append_assoc, List.cons_append]

theorem dropZeros_head : ∀ {cs ds : List Char}, dropZeros cs = '0' :: ds → ds = []
  | [], _, h => by cases h
  | [c], _, h => by
      unfold dropZeros at h
      split at h
      · rename_i heq
        cases heq
      · exact (List.cons.inj h).2.symm
  | c :: d :: cs, ds, h => by
      unfold dropZeros at h
      split at h
      · rename_i heq
        cases heq
        exact dropZeros_head h
      · rename_i hnot
        obtain ⟨rfl, -⟩ := List.cons.inj h
        exact absurd rfl (hnot d cs)

/-- Digits without leading zeros are the digits of their number. -/
theorem toDigits_dropZeros {cs : List Char} (hne : cs ≠ []) (h : ∀ c ∈ cs, c.isDigit = true) :
    Nat.toDigits 10 (Nat.ofDigitChars 10 (dropZeros cs) 0) = dropZeros cs := by
  obtain ⟨hne', h'⟩ := dropZeros_spec hne h
  have hpad := padded_ofDigitChars (List.length_pos_iff.mpr hne') h' rfl
  have hpos := Nat.length_toDigits_pos (b := 10) (n := Nat.ofDigitChars 10 (dropZeros cs) 0)
  unfold padded at hpad
  cases hk : (dropZeros cs).length - (Nat.toDigits 10 (Nat.ofDigitChars 10 (dropZeros cs) 0)).length
    with
  | zero =>
      rw [hk] at hpad
      exact hpad
  | succ k =>
      -- A zero in front of the digits would be the only one of them.
      rw [hk, List.replicate_succ, List.cons_append] at hpad
      have hnil := congrArg List.length (dropZeros_head hpad.symm)
      rw [List.length_append, List.length_nil] at hnil
      omega

/-- **A rate has one text.** -/
theorem rateText_of_rate {value v : String} {rate : ℕ} (h : canonicalRate value = .ok v)
    (hrate : rateOf value = some ((rate : ℚ) / RATE_SCALE)) : v.toList = rateText rate := by
  obtain ⟨whole, frac, hgroups, hne, hwhole, hfrac, hlen, rfl⟩ := canonicalRate_eq_ok h
  rw [rateOf, hgroups, Option.map_some, Option.some.injEq, ← groupsValue_canonical hlen] at hrate
  have hfrac' := isDigit_of_mem_padEnd10 hfrac
  have hlen' : (padEnd10 frac).length = 10 := by
    rw [padEnd10, List.length_append, List.length_replicate]
    omega
  have hlt := ofDigitChars_lt hfrac' 0
  rw [hlen', Nat.zero_add, Nat.one_mul] at hlt
  have hpad := padded_ofDigitChars (by decide) hfrac' hlen'
  have hdigits := toDigits_dropZeros hne hwhole
  unfold groupsValue at hrate
  simp only [hlen'] at hrate
  generalize Nat.ofDigitChars 10 (dropZeros whole) 0 = w at hrate hdigits
  generalize Nat.ofDigitChars 10 (padEnd10 frac) 0 = f at hrate hlt hpad
  have hnum : rate = w * RATE_SCALE + f := by
    have hscale : (RATE_SCALE : ℚ) = 10 ^ 10 := by norm_num [RATE_SCALE]
    rw [hscale, eq_div_iff (by positivity), add_mul, div_mul_cancel₀ _ (by positivity)] at hrate
    have hcast : ((w * RATE_SCALE + f : ℕ) : ℚ) = rate := by
      rw [← hrate, Nat.cast_add, Nat.cast_mul, hscale]
    exact (Nat.cast_injective hcast).symm
  unfold RATE_SCALE at hnum
  rw [String.toList_ofList, rateText, RATE_SCALE, show rate / 10000000000 = w by omega,
    show rate % 10000000000 = f by omega, hdigits, hpad]

theorem dimensionText_of_dimension {value : Option String} {u : Option Uuid} {text : List Char}
    (h : dimension value = .ok text) (hu : DimensionRepresents value u) :
    text = dimensionText u := by
  cases value with
  | some v =>
      cases u with
      | some u =>
          obtain ⟨w, hw, rfl⟩ := map_eq_ok.mp h
          have hwu : w = u.text := Except.ok.inj (hw.symm.trans hu)
          rw [hwu, dimensionText]
      | none => exact absurd hu id
  | none =>
      cases u with
      | some u => exact absurd hu id
      | none => exact ((pure_eq_ok _ _).mp h).symm

/-- **A line is spelled as the database spells it.** -/
theorem chars_of_commandLine {line : PostingLineCommand} {f : LineFacts} {text : List Char}
    (h : commandLine line = .ok text) (hf : LineRepresents line f)
    (hyear : 1 ≤ (civil (f.rateAt / 86400)).year ∧ (civil (f.rateAt / 86400)).year ≤ 9999) :
    text = f.chars := by
  obtain ⟨input, bc, tc, rate, instant, branch, warehouse, hinput, hc, rfl⟩ := commandLine_eq_ok h
  obtain ⟨hid, hside, hbase, hbcur, htxn, htcur, hrate, hsource, hat, hbr, hwh⟩ :=
    toCanonicalLine_eq_ok hinput
  have hid := Except.ok.inj (hid.symm.trans hf.identity)
  have hbc := Except.ok.inj (hc.baseCurrency.symm.trans (hbcur ▸ hf.baseCurrency))
  have htc := Except.ok.inj (hc.txnCurrency.symm.trans (htcur ▸ hf.txnCurrency))
  have hrate := rateText_of_rate hc.rate (hrate ▸ hf.rate)
  have hbranch := dimensionText_of_dimension hc.branch (hbr ▸ hf.branch)
  have hware := dimensionText_of_dimension hc.warehouse (hwh ▸ hf.warehouse)
  obtain ⟨t, ht, hms⟩ := hf.rateAt
  have hinstant : instant.toList = instantText f.rateAt := by
    obtain ⟨t', ht', -, rfl⟩ := canonicalInstantSecond_eq_ok.mp hc.rateAt
    rw [hat, ht] at ht'
    obtain rfl := Option.some.inj ht'
    rw [String.toList_ofList, instantText_of_instant hms hyear]
  rw [LineFacts.chars, LineFacts.fields, lineTexts, hid, hside, hf.side, hbase, hf.baseAmount,
    Int.toNat_natCast, hbc, htxn, hf.txnAmount, Int.toNat_natCast, htc, hrate, hsource,
    hf.rateSource, hinstant, hbranch, hware]

theorem chars_of_commandLines {lines : List PostingLineCommand} {facts : List LineFacts}
    {texts : List (List Char)} (hr : List.Forall₂ LineRepresents lines facts)
    (h : List.Forall₂ (fun line text => commandLine line = .ok text) lines texts)
    (hyears : ∀ f ∈ facts,
      1 ≤ (civil (f.rateAt / 86400)).year ∧ (civil (f.rateAt / 86400)).year ≤ 9999) :
    texts = facts.map LineFacts.chars := by
  induction hr generalizing texts with
  | nil =>
      cases h
      rfl
  | cons hlf _ ih =>
      cases h with
      | cons htext hrest =>
          rw [List.map_cons, ← ih hrest fun g hg => hyears g (List.mem_cons_of_mem _ hg),
            chars_of_commandLine htext hlf (hyears _ List.mem_cons_self)]

/-- **The stream is the one the database builds of the same values.** -/
theorem commandStream_eq_postingStream {command : PostingRequest} {stream : List UInt8}
    {source : PostingSource} {date : ℤ} {facts : List LineFacts}
    (h : commandStream command = .ok stream) (hr : Represents command source date facts)
    (hyears : YearsFrom 1 date facts) :
    stream = postingStream source date (facts.map LineFacts.chars) := by
  obtain ⟨head, lines, hhead, hlines, rfl⟩ := commandStream_eq_ok h
  obtain ⟨tenant, business, sourceId, v, ht, hb, hs, hv, rfl⟩ := canonicalHeader_eq_ok.mp hhead
  obtain ⟨v', hv', hday⟩ := hr.entryDate
  obtain rfl := Except.ok.inj (hv'.symm.trans hv)
  have hdate := isoDateChars_of_date (canonicalDate_eq_ok hv).1 hday hyears.1.1
  have htexts := chars_of_commandLines hr.lines (mapM_eq_ok.mp hlines) hyears.2
  rw [postingStream, postingChars, PostingSource.header, hdate, htexts,
    Except.ok.inj (ht.symm.trans hr.tenantId), Except.ok.inj (hb.symm.trans hr.businessId),
    Except.ok.inj (hs.symm.trans hr.sourceId), hr.sourceType]

/-! ## 6. What the stream identifies -/

/-- The stream of a posting identifies it up to the order of its lines, and is the stream of the
    database for every posting whose years are from `first` to 9999. -/
structure IdentifiesPostings (first : ℤ) : Prop where
  streams : ∀ c d s t ls ms, commandStream c = .ok s → commandStream d = .ok t → c.WellNamed →
    d.WellNamed → commandLines c = .ok ls → commandLines d = .ok ms →
    (s = t ↔ canonicalHeader c.header = canonicalHeader d.header ∧ ls.Perm ms)
  lines : ∀ a b text, commandLine a = .ok text → commandLine b = .ok text → a.account.InChart →
    b.account.InChart → SameLineFacts a b
  database : ∀ command stream source date facts, commandStream command = .ok stream →
    Represents command source date facts → YearsFrom first date facts →
    stream = postingStream source date (facts.map LineFacts.chars)

/-- **The stream of a posting identifies it, on both sides, from the year 1 on.** -/
theorem identifiesPostings : IdentifiesPostings 1 where
  streams _ _ _ _ _ _ hs ht hc hd hls hms := commandStream_eq_iff hs ht hc hd hls hms
  lines _ _ _ ha hb hac hbc := sameLineFacts_of_commandLine ha hb hac hbc
  database _ _ _ _ _ h hr hyears := commandStream_eq_postingStream h hr hyears

def sampleStreamId : Uuid := .sample 1

def sampleCash (baseCurrency : String) : PostingLineCommand :=
  ⟨.system "cash", "D", 100, baseCurrency, 100, "ILS", "1", "base", some ⟨946684800000, by decide⟩,
    none, some sampleStreamId.text⟩

def sampleSales : PostingLineCommand :=
  ⟨.code "4000", "C", 100, "ILS", 100, "ILS", "1.0", "base", some ⟨946684800000, by decide⟩, none,
    none⟩

/-- 100 from one account to another, at the rate of 1. -/
def sampleRequest (date : String) : PostingRequest where
  header := ⟨sampleStreamId.text, sampleStreamId.text, "sale", sampleStreamId.text, date⟩
  lines := [sampleCash "ils", sampleSales]

/-- The same lines in the other order, and the currency in capitals. -/
def sampleReordered (date : String) : PostingRequest where
  header := (sampleRequest date).header
  lines := [sampleSales, sampleCash "ILS"]

def sampleRequestSource : PostingSource := ⟨sampleStreamId, sampleStreamId, "sale", sampleStreamId⟩

def sampleLineFacts : List LineFacts :=
  [⟨"cash", "D", 100, "ILS", 100, "ILS", RATE_SCALE, "base", 0, none, some sampleStreamId⟩,
    ⟨"code:4000", "C", 100, "ILS", 100, "ILS", RATE_SCALE, "base", 0, none, none⟩]

theorem sampleRequest_represents {text : String} {date : ℤ}
    (hdate : canonicalDate text = .ok text.toList) (hday : civil date = civilOfDate text.toList) :
    Represents (sampleRequest text) sampleRequestSource date sampleLineFacts := by
  have hid : canonicalUuid sampleStreamId.text = .ok sampleStreamId.text := by decide +kernel
  have hat : ∃ t : TimeValue, (some ⟨946684800000, by decide⟩ : Date) = some t ∧
      t.ms = (0 + POSTGRES_EPOCH_SECONDS) * 1000 := ⟨_, rfl, rfl⟩
  refine ⟨hid, hid, rfl, hid, ⟨_, hdate, hday⟩, .cons ?_ (.cons ?_ .nil)⟩
  · exact ⟨by decide +kernel, rfl, rfl, by decide +kernel, rfl, by decide +kernel, by decide +kernel,
      rfl, hat, trivial, hid⟩
  · exact ⟨by decide +kernel, rfl, rfl, by decide +kernel, rfl, by decide +kernel, by decide +kernel,
      rfl, hat, trivial, trivial⟩

theorem sampleRequest_accepted :
    (commandStream (sampleRequest "2024-08-22")).isOk = true ∧
      (commandStream (sampleReordered "2024-08-22")).isOk = true ∧
      commandLines (sampleRequest "2024-08-22") = .ok (sampleLineFacts.map LineFacts.chars) ∧
      commandLines (sampleReordered "2024-08-22") =
        .ok (sampleLineFacts.map LineFacts.chars).reverse ∧
      (commandLine (sampleCash "ils")).isOk = true ∧
      commandLine (sampleCash "ils") = commandLine (sampleCash "ILS") := by
  decide +kernel

/-- A posting has the stream of the database, whatever the order of its lines; and a line states the
    same in either spelling of its currency. -/
theorem identifiesPostings_sample :
    commandStream (sampleRequest "2024-08-22") =
        .ok (postingStream sampleRequestSource 9000 (sampleLineFacts.map LineFacts.chars)) ∧
      commandStream (sampleReordered "2024-08-22") = commandStream (sampleRequest "2024-08-22") ∧
      SameLineFacts (sampleCash "ils") (sampleCash "ILS") := by
  have hr : Represents (sampleRequest "2024-08-22") sampleRequestSource 9000 sampleLineFacts :=
    sampleRequest_represents (by decide +kernel) (by decide +kernel)
  have hyears : YearsFrom 1 9000 sampleLineFacts := ⟨by decide +kernel, by decide +kernel⟩
  have hcode : ACCOUNT_CODE_RE "4000" = true := by decide
  have hlower : "sale".toList.all isLower = true := by decide
  have htype : SourceTypeText "sale" := fun c hc => .inl (List.all_eq_true.mp hlower c hc)
  have hnamed : (sampleRequest "2024-08-22").WellNamed :=
    ⟨by simpa [sampleRequest, sampleCash, sampleSales, AccountRef.InChart] using hcode, htype⟩
  have hnamed' : (sampleReordered "2024-08-22").WellNamed :=
    ⟨by simpa [sampleReordered, sampleCash, sampleSales, AccountRef.InChart] using hcode, htype⟩
  obtain ⟨hs, ht, hls, hms, hline, hspelling⟩ := sampleRequest_accepted
  obtain ⟨s, hs⟩ := exists_of_isOk hs
  obtain ⟨t, ht⟩ := exists_of_isOk ht
  obtain ⟨text, hline⟩ := exists_of_isOk hline
  refine ⟨?_, ?_, ?_⟩
  · rw [hs, identifiesPostings.database _ _ _ _ _ hs hr hyears]
  · have hsame : t = s := (identifiesPostings.streams _ _ _ _ _ _ ht hs hnamed' hnamed hms hls).mpr
      ⟨rfl, List.reverse_perm _⟩
    rw [hs, ht, hsame]
  · exact identifiesPostings.lines _ _ text hline (hspelling ▸ hline) trivial trivial

/-- **The year 0 is 1 BC to the database**, and its text names the year 1. -/
theorem not_identifiesPostings_of_year_zero : ¬ IdentifiesPostings 0 := by
  intro h
  have hr : Represents (sampleRequest "0000-01-01") sampleRequestSource (-730485) sampleLineFacts :=
    sampleRequest_represents (by decide +kernel) (by decide +kernel)
  have hyears : YearsFrom 0 (-730485) sampleLineFacts := ⟨by decide +kernel, by decide +kernel⟩
  cases hs : commandStream (sampleRequest "0000-01-01") with
  | error e =>
      have hok : (commandStream (sampleRequest "0000-01-01")).toOption.isSome = true := by
        decide +kernel
      rw [hs] at hok
      cases hok
  | ok stream =>
      rw [h.database _ _ _ _ _ hs hr hyears] at hs
      exact absurd hs (by decide +kernel)

end Daftar.Accounting
