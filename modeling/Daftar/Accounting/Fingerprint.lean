/-
  File: Daftar/Accounting/Fingerprint.lean
  Subject: The canonical text of the fields of a posting and of a rate, on the side of the API.

  * Each encoder refuses what is not a value of its kind and writes every other value one way.
  * `rateOf` is the number a rate text names. `rateOf_canonicalRate`: its canonical text names the
    same one.
  * `canonicalInstantSecond` cuts the ISO text of an instant after nineteen characters.
  * `canonicalStream` is the stream of a posting. As on the side of the database, a line is kept as
    its characters: UTF-8 keeps the order of texts, so sorting the texts sorts the bytes.
-/

import Mathlib.Data.Rat.Defs
import Mathlib.Tactic.Positivity
import Mathlib.Tactic.Ring
import Daftar.Library.IsoInstant
import Daftar.Accounting.PostingLines

namespace Daftar.Accounting

open AsciiText
open CivilDate
open Fallible
open Framing
open IsoInstant
open Sha256
open Inventory.Payload (CANONICAL_UUID_RE printable_of_uuid)

/-! ## 1. Refusals -/

inductive AccountingErrorCode
  | payloadInvalid
  | fxSameCurrency
  | accountNotFound
  | reportRangeInvalid
  | reportScopeInvalid
  | reportCursorInvalid
  | reportAmountInvalid
  deriving DecidableEq, Repr

structure AccountingError where
  code : AccountingErrorCode
  message : String
  deriving DecidableEq, Repr

def payloadInvalid (message : String) : AccountingError := ⟨.payloadInvalid, message⟩

abbrev Canonical := Except AccountingError

def invalid (what : String) : AccountingError :=
  ⟨.payloadInvalid, "canonical fingerprint input is invalid: " ++ what⟩

/-! ## 2. Letters and spaces -/

/-- White space and line terminators. -/
def isSpace (c : Char) : Bool :=
  [0x9, 0xa, 0xb, 0xc, 0xd, 0x20, 0xa0, 0x1680, 0x2028, 0x2029, 0x202f, 0x205f, 0x3000, 0xfeff].contains
    c.toNat || (0x2000 ≤ c.toNat && c.toNat ≤ 0x200a)

def trim (value : String) : List Char :=
  ((value.toList.dropWhile isSpace).reverse.dropWhile isSpace).reverse

/-- The characters that are written in `A` to `Z` alone in upper case. Every other one keeps a
    character outside and no pattern here admits that, so it stands for itself. -/
def upperChars (c : Char) : List Char :=
  match c.toNat with
  | 0xdf => ['S', 'S']
  | 0x131 => ['I']
  | 0x17f => ['S']
  | 0xfb00 => ['F', 'F']
  | 0xfb01 => ['F', 'I']
  | 0xfb02 => ['F', 'L']
  | 0xfb03 => ['F', 'F', 'I']
  | 0xfb04 => ['F', 'F', 'L']
  | 0xfb05 => ['S', 'T']
  | 0xfb06 => ['S', 'T']
  | _ => [c.toUpper]

def toUpperCase (cs : List Char) : List Char := cs.flatMap upperChars

/-- Outside ASCII no character has a hexadecimal digit for its lower case. -/
def toLowerCase (cs : List Char) : List Char := cs.map Char.toLower

/-! ## 3. Fields -/

def canonicalUuid (value : String) : Canonical String := do
  let v := String.ofList (toLowerCase (trim value))
  refuseIf (CANONICAL_UUID_RE v = false) (invalid "uuid")
  pure v

def isUpperAlpha (c : Char) : Bool := 'A' ≤ c && c ≤ 'Z'

/-- `/^[A-Z]{3}$/` -/
def CURRENCY_RE (cs : List Char) : Bool := matchesEach (List.replicate 3 isUpperAlpha) cs

def canonicalCurrency (value : String) : Canonical String := do
  let v := toUpperCase (trim value)
  refuseIf (CURRENCY_RE v = false) (invalid "currency")
  pure (String.ofList v)

/-- The groups of `/^(\d+)(?:\.(\d{1,10}))?$/`, the second one empty where it is missing. -/
def rateGroups (cs : List Char) : Option (List Char × List Char) :=
  let whole := cs.takeWhile Char.isDigit
  if whole = [] then none
  else
    match cs.dropWhile Char.isDigit with
    | [] => some (whole, [])
    | '.' :: frac =>
        if frac.all Char.isDigit = true ∧ 1 ≤ frac.length ∧ frac.length ≤ 10 then some (whole, frac)
        else none
    | _ => none

/-- `.replace(/^0+(?=\d)/, '')` -/
def dropZeros : List Char → List Char
  | '0' :: d :: ds => dropZeros (d :: ds)
  | ds => ds

/-- `.padEnd(10, '0')` -/
def padEnd10 (cs : List Char) : List Char := cs ++ List.replicate (10 - cs.length) '0'

def canonicalRate (value : String) : Canonical String := do
  let (whole, frac) ← someOr (rateGroups (trim value)) (invalid "rate")
  pure (String.ofList (dropZeros whole ++ '.' :: padEnd10 frac))

/-- A `Date`, or none where its time is not a number. -/
abbrev Date := Option TimeValue

def canonicalInstantSecond (value : Date) : Canonical String := do
  let t ← someOr value (invalid "instant")
  refuseIf (t.ms % 1000 ≠ 0) (invalid "instant carries sub-second precision")
  pure (String.ofList ((isoChars t.ms).take 19 ++ ['Z']))

/-! ## 4. Lines and streams -/

/-- A non-negative integer in decimal. -/
def canonicalAmount (value : ℤ) : Canonical (List Char) := do
  refuseIf (value < 0) (invalid "amount is negative")
  pure (Nat.toDigits 10 value.toNat)

/-- `/^\d{4}-\d{2}-\d{2}$/` -/
def DATE_RE (cs : List Char) : Bool :=
  matchesEach (List.replicate 4 Char.isDigit ++ (· == '-') :: List.replicate 2 Char.isDigit ++
    (· == '-') :: List.replicate 2 Char.isDigit) cs

/-- The civil date a text of this pattern names. -/
def civilOfDate (cs : List Char) : Civil :=
  ⟨digitsValue (cs.take 4), digitsValue ((cs.drop 5).take 2), digitsValue ((cs.drop 8).take 2)⟩

/-- The day of a date text, were it a date of the calendar. -/
def dayOfDate (cs : List Char) : ℤ := date2j (civilOfDate cs) - POSTGRES_EPOCH_JDATE

/-- `YYYY-MM-DD`. A date that is none of the calendar is not read back. -/
def canonicalDate (value : String) : Canonical (List Char) := do
  let v := trim value
  refuseIf (DATE_RE v = false) (invalid "date")
  refuseIf (civil (dayOfDate v) ≠ civilOfDate v) (invalid "date is not a real calendar date")
  pure v

def canonicalSide (side : String) : Canonical String := do
  refuseIf (side ≠ "D" ∧ side ≠ "C") (invalid "side")
  pure side

/-- One line, with the identity of its account. -/
structure CanonicalLineInput where
  accountIdentity : String
  side : String
  baseAmountMinor : ℤ
  baseCurrency : String
  txnAmountMinor : ℤ
  txnCurrency : String
  fxRate : String
  fxRateSource : String
  fxRateAt : Date
  branchId : Option String
  warehouseId : Option String
  deriving DecidableEq

structure CanonicalHeaderInput where
  tenantId : String
  businessId : String
  sourceType : String
  sourceId : String
  entryDate : String
  deriving DecidableEq

/-- Its uuid, or a NUL for none. -/
def dimension : Option String → Canonical (List Char)
  | some value => String.toList <$> canonicalUuid value
  | none => pure [Char.ofNat 0]

/-- The eleven fields of a line. -/
def canonicalFields (line : CanonicalLineInput) : Canonical (List (List Char)) := do
  refuseIf (line.accountIdentity = "") (invalid "account identity is empty")
  refuseIf (line.fxRateSource ∉ ["base", "manual", "provider"]) (invalid "fx rate source")
  let side ← canonicalSide line.side
  let baseAmount ← canonicalAmount line.baseAmountMinor
  let baseCurrency ← canonicalCurrency line.baseCurrency
  let txnAmount ← canonicalAmount line.txnAmountMinor
  let txnCurrency ← canonicalCurrency line.txnCurrency
  let rate ← canonicalRate line.fxRate
  let instant ← canonicalInstantSecond line.fxRateAt
  let branch ← dimension line.branchId
  let warehouse ← dimension line.warehouseId
  pure [line.accountIdentity.toList, side.toList, baseAmount, baseCurrency.toList, txnAmount,
    txnCurrency.toList, rate.toList, line.fxRateSource.toList, instant.toList, branch, warehouse]

/-- `canonicalLineBytes` -/
def canonicalLine (line : CanonicalLineInput) : Canonical (List Char) :=
  [UNIT_SEPARATOR].intercalate <$> canonicalFields line

/-- The six lines of the header. -/
def canonicalHeader (header : CanonicalHeaderInput) : Canonical (List (List Char)) := do
  let tenant ← canonicalUuid header.tenantId
  let business ← canonicalUuid header.businessId
  let source ← canonicalUuid header.sourceId
  let date ← canonicalDate header.entryDate
  pure ["acctfp/1".toList, tenant.toList, business.toList, header.sourceType.toList, source.toList,
    date]

def canonicalStream (header : CanonicalHeaderInput) (lines : List CanonicalLineInput) :
    Canonical (List UInt8) := do
  refuseIf (lines = []) (invalid "a posting has no lines")
  refuseIf (header.sourceType = "") (invalid "source type is empty")
  let head ← canonicalHeader header
  let lines ← lines.mapM canonicalLine
  pure (utf8 (String.ofList (frame '\n' head ++ frame RECORD_SEPARATOR (sortedLines lines))))

inductive AccountRef
  | system (systemKey : String)
  | code (code : String)
  deriving DecidableEq

/-- `.length`, in UTF-16 code units. -/
def utf16Length (s : String) : ℕ := (s.toList.map fun c => if c.toNat < 0x10000 then 1 else 2).sum

def canonicalAccountIdentity : AccountRef → Canonical String
  | .system systemKey => do
      refuseIf (SYSTEM_KEY_RE systemKey = false)
        ⟨.payloadInvalid, "system account key is malformed"⟩
      pure systemKey
  | .code code => do
      refuseIf (utf16Length code = 0 ∨ 64 < utf16Length code)
        ⟨.payloadInvalid, "account code is malformed"⟩
      pure ("code:" ++ code)

structure PostingLineCommand where
  account : AccountRef
  side : String
  baseAmountMinor : ℤ
  baseCurrency : String
  txnAmountMinor : ℤ
  txnCurrency : String
  fxRate : String
  fxRateSource : String
  fxRateAt : Date
  branchId : Option String
  warehouseId : Option String
  deriving DecidableEq

def toCanonicalLine (line : PostingLineCommand) : Canonical CanonicalLineInput := do
  let accountIdentity ← canonicalAccountIdentity line.account
  pure
    { accountIdentity := accountIdentity
      side := line.side
      baseAmountMinor := line.baseAmountMinor
      baseCurrency := line.baseCurrency
      txnAmountMinor := line.txnAmountMinor
      txnCurrency := line.txnCurrency
      fxRate := line.fxRate
      fxRateSource := line.fxRateSource
      fxRateAt := line.fxRateAt
      branchId := line.branchId
      warehouseId := line.warehouseId }

/-- A posting command of the API: its header and its lines. -/
structure PostingRequest where
  header : CanonicalHeaderInput
  lines : List PostingLineCommand

/-- The stream `computeCommandFingerprint` digests. -/
def commandStream (command : PostingRequest) : Canonical (List UInt8) := do
  let lines ← command.lines.mapM toCanonicalLine
  canonicalStream command.header lines

/-! ## 5. Accepted fields -/

theorem canonicalUuid_eq_ok {value v : String} (h : canonicalUuid value = .ok v) :
    CANONICAL_UUID_RE v = true := by
  simp only [canonicalUuid, bind_eq_ok, refuseIf_eq_ok, exists_const, pure_eq_ok] at h
  obtain ⟨hre, rfl⟩ := h
  exact Bool.eq_true_of_not_eq_false hre

theorem canonicalCurrency_eq_ok {value v : String} (h : canonicalCurrency value = .ok v) :
    CURRENCY_RE v.toList = true := by
  simp only [canonicalCurrency, bind_eq_ok, refuseIf_eq_ok, exists_const, pure_eq_ok] at h
  obtain ⟨hre, rfl⟩ := h
  rw [String.toList_ofList]
  exact Bool.eq_true_of_not_eq_false hre

theorem printable_of_currency {cs : List Char} (h : CURRENCY_RE cs = true) :
    ∀ c ∈ cs, 32 ≤ c.toNat ∧ c.toNat < 127 := by
  refine matchesEach_forall (fun p hp c hc => ?_) h
  rw [(List.mem_replicate.mp hp).2, isUpperAlpha, Bool.and_eq_true, decide_eq_true_eq,
    decide_eq_true_eq] at hc
  have h1 : 65 ≤ c.toNat := hc.1
  have h2 : c.toNat ≤ 90 := hc.2
  omega

theorem canonicalInstantSecond_eq_ok {value : Date} {v : String} :
    canonicalInstantSecond value = .ok v ↔ ∃ t, value = some t ∧ t.ms % 1000 = 0 ∧
      v = String.ofList ((isoChars t.ms).take 19 ++ ['Z']) := by
  simp only [canonicalInstantSecond, bind_eq_ok, someOr_eq_ok, refuseIf_eq_ok, exists_const,
    not_not, pure_eq_ok]
  constructor
  · intro h
    obtain ⟨t, ht, hsec, hv⟩ := h
    exact ⟨t, ht, hsec, hv.symm⟩
  · intro h
    obtain ⟨t, ht, hsec, hv⟩ := h
    exact ⟨t, ht, hsec, hv.symm⟩

theorem printable_canonicalInstantSecond {value : Date} {v : String}
    (h : canonicalInstantSecond value = .ok v) : Printable v := by
  obtain ⟨t, -, -, rfl⟩ := canonicalInstantSecond_eq_ok.mp h
  intro c hc
  rw [String.toList_ofList] at hc
  rcases List.mem_append.mp hc with hc | hc
  · exact printable_isoChars _ c (List.mem_of_mem_take hc)
  · rw [List.mem_singleton.mp hc]
    decide

/-! ## 6. Rates -/

/-- The number two groups of digits write. -/
def groupsValue (groups : List Char × List Char) : ℚ :=
  Nat.ofDigitChars 10 groups.1 0 + Nat.ofDigitChars 10 groups.2 0 / 10 ^ groups.2.length

/-- The number a rate text names. -/
def rateOf (value : String) : Option ℚ := (rateGroups (trim value)).map groupsValue

theorem ofDigitChars_dropZeros : ∀ cs, Nat.ofDigitChars 10 (dropZeros cs) 0 = Nat.ofDigitChars 10 cs 0
  | [] => rfl
  | [c] => by
      unfold dropZeros
      split
      · rename_i heq
        cases heq
      · rfl
  | c :: d :: ds => by
      have ih := ofDigitChars_dropZeros (d :: ds)
      unfold dropZeros
      split
      · rename_i heq
        cases heq
        rw [ih]
        rfl
      · rfl

/-- **The canonical groups of a rate write the same number.** -/
theorem groupsValue_canonical {whole frac : List Char} (h : frac.length ≤ 10) :
    groupsValue (dropZeros whole, padEnd10 frac) = groupsValue (whole, frac) := by
  have hlen : (padEnd10 frac).length = 10 := by
    rw [padEnd10, List.length_append, List.length_replicate]
    omega
  have hpow : (10 : ℚ) ^ 10 = 10 ^ frac.length * 10 ^ (10 - frac.length) := by
    rw [← pow_add]
    congr 1
    omega
  simp only [groupsValue]
  rw [ofDigitChars_dropZeros, hlen, padEnd10, Nat.ofDigitChars_append,
    Nat.ofDigitChars_replicate_zero, hpow, Nat.cast_mul, Nat.cast_pow, Nat.cast_ofNat, mul_comm,
    mul_div_mul_right _ _ (by positivity)]

theorem rateGroups_eq_some {cs : List Char} {groups : List Char × List Char}
    (h : rateGroups cs = some groups) : groups.1 ≠ [] ∧ (∀ c ∈ groups.1, c.isDigit = true) ∧
      (∀ c ∈ groups.2, c.isDigit = true) ∧ groups.2.length ≤ 10 := by
  simp only [rateGroups] at h
  have hwhole : ∀ c ∈ cs.takeWhile Char.isDigit, c.isDigit = true :=
    List.all_eq_true.mp List.all_takeWhile
  split at h
  · cases h
  rename_i hne
  split at h
  · cases h
    exact ⟨hne, hwhole, fun _ hc => absurd hc List.not_mem_nil, by simp⟩
  · split at h
    · rename_i hfrac
      cases h
      exact ⟨hne, hwhole, List.all_eq_true.mp hfrac.1, hfrac.2.2⟩
    · cases h
  · cases h

theorem rateGroups_of_groups {whole frac : List Char} (hne : whole ≠ [])
    (hwhole : ∀ c ∈ whole, c.isDigit = true) (hfrac : ∀ c ∈ frac, c.isDigit = true)
    (h1 : 1 ≤ frac.length) (h2 : frac.length ≤ 10) :
    rateGroups (whole ++ '.' :: frac) = some (whole, frac) := by
  have hdot : ('.' : Char).isDigit = false := rfl
  have htake : (whole ++ '.' :: frac).takeWhile Char.isDigit = whole := by
    rw [List.takeWhile_append_of_pos hwhole, List.takeWhile_cons, hdot]
    exact List.append_nil _
  have hdrop : (whole ++ '.' :: frac).dropWhile Char.isDigit = '.' :: frac := by
    rw [List.dropWhile_append_of_pos hwhole, List.dropWhile_cons, hdot]
    rfl
  simp only [rateGroups, htake, hdrop]
  rw [if_neg hne, if_pos ⟨List.all_eq_true.mpr hfrac, h1, h2⟩]

theorem dropZeros_spec : ∀ {cs : List Char}, cs ≠ [] → (∀ c ∈ cs, c.isDigit = true) →
    dropZeros cs ≠ [] ∧ ∀ c ∈ dropZeros cs, c.isDigit = true
  | [c], hne, h => by
      unfold dropZeros
      split
      · rename_i heq
        cases heq
      · exact ⟨hne, h⟩
  | c :: d :: ds, hne, h => by
      unfold dropZeros
      split
      · rename_i heq
        cases heq
        exact dropZeros_spec (List.cons_ne_nil _ _) fun c hc => h c (List.mem_cons_of_mem _ hc)
      · exact ⟨hne, h⟩

theorem trim_of_noSpace {cs : List Char} (h : ∀ c ∈ cs, isSpace c = false) :
    trim (String.ofList cs) = cs := by
  have hdrop : ∀ {ds : List Char}, (∀ c ∈ ds, isSpace c = false) → ds.dropWhile isSpace = ds := by
    intro ds hds
    cases ds with
    | nil => rfl
    | cons d ds =>
        rw [List.dropWhile_cons, hds d List.mem_cons_self]
        rfl
  rw [trim, String.toList_ofList, hdrop h, hdrop fun c hc => h c (List.mem_reverse.mp hc),
    List.reverse_reverse]

theorem isSpace_of_isDigit {c : Char} (h : c.isDigit = true) : isSpace c = false := by
  simp only [Char.isDigit, Bool.and_eq_true, decide_eq_true_eq, ge_iff_le,
    UInt32.le_iff_toNat_le] at h
  have h1 : 48 ≤ c.toNat := h.1
  have h2 : c.toNat ≤ 57 := h.2
  simp only [isSpace, Bool.or_eq_false_iff, List.contains_eq_mem, decide_eq_false_iff_not,
    Bool.and_eq_false_iff, List.mem_cons, List.not_mem_nil, or_false]
  omega

/-- What the canonical text of a rate is made of. -/
theorem canonicalRate_eq_ok {value v : String} (h : canonicalRate value = .ok v) :
    ∃ whole frac, rateGroups (trim value) = some (whole, frac) ∧ whole ≠ [] ∧
      (∀ c ∈ whole, c.isDigit = true) ∧ (∀ c ∈ frac, c.isDigit = true) ∧ frac.length ≤ 10 ∧
      v = String.ofList (dropZeros whole ++ '.' :: padEnd10 frac) := by
  simp only [canonicalRate, bind_eq_ok, someOr_eq_ok] at h
  obtain ⟨⟨whole, frac⟩, hgroups, hv⟩ := h
  obtain ⟨hne, hwhole, hfrac, hlen⟩ := rateGroups_eq_some hgroups
  exact ⟨whole, frac, hgroups, hne, hwhole, hfrac, hlen, ((pure_eq_ok _ _).mp hv).symm⟩

theorem isDigit_of_mem_padEnd10 {frac : List Char} (h : ∀ c ∈ frac, c.isDigit = true) :
    ∀ c ∈ padEnd10 frac, c.isDigit = true := by
  intro c hc
  rcases List.mem_append.mp hc with hc | hc
  · exact h c hc
  · rw [(List.mem_replicate.mp hc).2]
    rfl

/-- **A rate and its canonical text name one number.** -/
theorem rateOf_canonicalRate {value v : String} (h : canonicalRate value = .ok v) :
    rateOf v = rateOf value ∧ (rateOf value).isSome := by
  obtain ⟨whole, frac, hgroups, hne, hwhole, hfrac, hlen, rfl⟩ := canonicalRate_eq_ok h
  obtain ⟨hne', hwhole'⟩ := dropZeros_spec hne hwhole
  have hfrac' := isDigit_of_mem_padEnd10 hfrac
  have hlen' : (padEnd10 frac).length = 10 := by
    rw [padEnd10, List.length_append, List.length_replicate]
    omega
  have hspace : ∀ c ∈ dropZeros whole ++ '.' :: padEnd10 frac, isSpace c = false := by
    intro c hc
    rcases List.mem_append.mp hc with hc | hc
    · exact isSpace_of_isDigit (hwhole' c hc)
    · rcases List.mem_cons.mp hc with rfl | hc
      · rfl
      · exact isSpace_of_isDigit (hfrac' c hc)
  have hcanon : rateGroups (trim (String.ofList (dropZeros whole ++ '.' :: padEnd10 frac))) =
      some (dropZeros whole, padEnd10 frac) := by
    rw [trim_of_noSpace hspace]
    exact rateGroups_of_groups hne' hwhole' hfrac' (by omega) (by omega)
  refine ⟨?_, by rw [rateOf, hgroups]; rfl⟩
  rw [rateOf, rateOf, hcanon, hgroups, Option.map_some, Option.map_some,
    groupsValue_canonical hlen]

theorem printable_canonicalRate {value v : String} (h : canonicalRate value = .ok v) :
    Printable v := by
  obtain ⟨whole, frac, -, hne, hwhole, hfrac, -, rfl⟩ := canonicalRate_eq_ok h
  intro c hc
  rw [String.toList_ofList] at hc
  rcases List.mem_append.mp hc with hc | hc
  · exact printable_of_isDigit ((dropZeros_spec hne hwhole).2 c hc)
  · rcases List.mem_cons.mp hc with rfl | hc
    · decide
    · exact printable_of_isDigit (isDigit_of_mem_padEnd10 hfrac c hc)

end Daftar.Accounting
