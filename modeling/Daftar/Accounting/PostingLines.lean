/-
  File: Daftar/Accounting/PostingLines.lean
  Subject: The lines of a posting: their payload, their canonical text and the fingerprint.

  * A payload element is checked by conditions of SQL: a condition on a NULL is not true, so a null
    passes every check that is a comparison of its text (`fails`).
  * `PostingFields` is an element after the casts, with its NULLs. It has canonical text when
    nothing but a dimension is NULL (`PostingFields.facts?`).
  * Canonical text is kept as characters, the bytes are their UTF-8. UTF-8 keeps the order of
    texts, so sorting the texts sorts the bytes.
-/

import Daftar.Accounting.Periods
import Daftar.Library.CivilDate
import Daftar.Library.Jsonb
import Daftar.Library.Sha256
import Mathlib.Data.Char
import Mathlib.Data.List.Lex

namespace Daftar.Accounting

open AsciiText
open CivilDate
open Fallible
open Framing
open Sha256

/-! ## 1. Currencies -/

/-- The rows of `currencies`. -/
inductive Currency
  | ils | jod | lbp | syp | try_ | usd | eur
  deriving DecidableEq, Repr

def Currency.code : Currency → String
  | ils => "ILS"
  | jod => "JOD"
  | lbp => "LBP"
  | syp => "SYP"
  | try_ => "TRY"
  | usd => "USD"
  | eur => "EUR"

def Currency.minorUnits : Currency → ℕ
  | jod => 3
  | _ => 2

def Currency.all : List Currency := [ils, jod, lbp, syp, try_, usd, eur]

def currency? (code : String) : Option Currency := Currency.all.find? fun c => c.code = code

/-- `upper`, of the letters a currency code is written in. -/
def upper (text : String) : String := String.ofList (text.toList.map Char.toUpper)

/-! ## 2. The exact input schema -/

def POSTING_LINE_KEYS : List String :=
  [ "account", "side", "base_amount_minor", "base_currency", "txn_amount_minor", "txn_currency",
    "fx_rate", "fx_rate_source", "fx_rate_at", "branch_id", "warehouse_id", "memo" ]

/-- `^[1-9][0-9]{0,18}$`. -/
def AMOUNT_RE (text : String) : Bool :=
  match text.toList with
  | c :: cs => '1' ≤ c && c ≤ '9' && cs.all Char.isDigit && cs.length ≤ 18
  | [] => false

/-- `^[0-9]{1,10}\.[0-9]{10}$`. -/
def RATE_RE (text : String) : Bool :=
  let whole := text.toList.takeWhile Char.isDigit
  1 ≤ whole.length && whole.length ≤ 10 &&
    matchesEach ((· == '.') :: List.replicate 10 Char.isDigit) (text.toList.drop whole.length)

def instantClasses : List (Char → Bool) :=
  let two := [Char.isDigit, Char.isDigit]
  two ++ two ++ [(· == '-')] ++ two ++ [(· == '-')] ++ two ++ [(· == 'T')] ++ two ++ [(· == ':')] ++
    two ++ [(· == ':')] ++ two ++ [(· == 'Z')]

/-- `^[0-9]{4}-[0-9]{2}-[0-9]{2}T[0-9]{2}:[0-9]{2}:[0-9]{2}Z$`. -/
def INSTANT_RE (text : String) : Bool := matchesEach instantClasses text.toList

/-- `^[a-z0-9_]{1,64}$`. -/
def SYSTEM_KEY_RE (text : String) : Bool :=
  1 ≤ text.toList.length && text.toList.length ≤ 64 &&
    text.toList.all fun c => ('a' ≤ c && c ≤ 'z') || c.isDigit || c == '_'

/-- The negation of a test is true. Of a NULL it is neither true nor false. -/
def fails (test : String → Bool) : Option String → Bool
  | some text => !test text
  | none => false

/-- A field of the account reference, as text. -/
def accountText (e : Jsonb) (key : String) : Option String :=
  (e.member "account").bind fun a => a.text key

/-- The row counts among those that do not match the schema. -/
def malformed (e : Jsonb) : Bool :=
  fails (· == "string") (e.typeOf "base_amount_minor")
    || fails (· == "string") (e.typeOf "txn_amount_minor")
    || fails (· == "string") (e.typeOf "fx_rate")
    || fails AMOUNT_RE (e.text "base_amount_minor")
    || fails AMOUNT_RE (e.text "txn_amount_minor")
    || fails RATE_RE (e.text "fx_rate")
    || fails (["D", "C"].contains ·) (e.text "side")
    || fails (["base", "manual", "provider"].contains ·) (e.text "fx_rate_source")
    || fails INSTANT_RE (e.text "fx_rate_at")
    || fails (· == "object") (e.typeOf "account")
    || fails (["system", "code"].contains ·) (accountText e "kind")
    || (accountText e "kind" == some "system" &&
        !SYSTEM_KEY_RE ((accountText e "system_key").getD ""))
    || (accountText e "kind" == some "code" && (accountText e "code").getD "" == "")
    || fails (["string", "null"].contains ·) (e.typeOf "branch_id")
    || fails (["string", "null"].contains ·) (e.typeOf "warehouse_id")
    || fails (["string", "null"].contains ·) (e.typeOf "memo")

/-- The keys of an element; of anything but an object they cannot be read. -/
def objectKeys : Jsonb → Except Refusal (List String)
  | .object members => .ok (members.map Prod.fst)
  | _ => .error (.database "22023")

/-- The elements of an array of at least two. -/
def payloadElements : Option Jsonb → Except Refusal (List Jsonb)
  | some (.array elements) => do
    refuseIf (elements.length < 2) (.accounting .payloadInvalid)
    pure elements
  | _ => .error (.accounting .payloadInvalid)

def checkPayload (lines : Option Jsonb) : Except Refusal (List Jsonb) := do
  let elements ← payloadElements lines
  let keys ← elements.mapM objectKeys
  refuseIf (∃ ks ∈ keys, ∃ k ∈ ks, k ∉ POSTING_LINE_KEYS) (.accounting .payloadUnknownField)
  refuseIf (∃ e ∈ elements, ∃ k ∈ POSTING_LINE_KEYS, e.hasKey k = false)
    (.accounting .payloadMissingField)
  refuseIf (∃ e ∈ elements, malformed e = true) (.accounting .payloadInvalid)
  pure elements

/-! ## 3. Casts -/

def digitsValue (cs : List Char) : ℕ := Nat.ofDigitChars 10 cs 0

def BIGINT_MAX : ℕ := 9223372036854775807

/-- `text::bigint`, of a text of digits. -/
def bigint (text : String) : Except Refusal ℕ :=
  let n := digitsValue text.toList
  if n ≤ BIGINT_MAX then .ok n else .error (.database "22003")

/-- `text::numeric(20,10)`, in ten-billionths. -/
def numericRate (text : String) : Except Refusal ℕ :=
  .ok (digitsValue (text.toList.filter Char.isDigit))

/-- The number in some of the characters of an instant. -/
def instantPart (text : String) (start width : ℕ) : ℕ :=
  digitsValue ((text.toList.drop start).take width)

/-- The Julian day number of a civil date. -/
def date2j (d : Civil) : ℤ :=
  let month := if 2 < d.month then d.month + 1 else d.month + 13
  let year := if 2 < d.month then d.year + 4800 else d.year + 4799
  let century := year / 100
  year * 365 - 32167 + year / 4 - century + century / 4 + 7834 * month / 256 + d.day

/-- `text::timestamptz` of an instant in UTC, in seconds since 2000-01-01. A leap second is the
    first second of the next minute, and `24:00:00` the first of the next day. -/
def timestamptz (text : String) : Except Refusal ℤ :=
  let date : Civil := ⟨instantPart text 0 4, instantPart text 5 2, instantPart text 8 2⟩
  let day := date2j date - POSTGRES_EPOCH_JDATE
  let hour := instantPart text 11 2
  let minute := instantPart text 14 2
  let second := instantPart text 17 2
  let time := hour * 3600 + minute * 60 + second
  if 1 ≤ date.year ∧ civil day = date ∧ minute ≤ 59 ∧ second ≤ 60 ∧ time ≤ 86400 then
    .ok (day * 86400 + time)
  else .error (.database "22008")

/-- Sixteen bytes in hexadecimal, a hyphen allowed after every second byte but the last. -/
def uuidDigits : ℕ → List Char → Option (List Char × List Char)
  | 0, cs => some ([], cs)
  | n + 1, c :: d :: cs =>
    let rest := if n % 2 = 0 ∧ n ≠ 0 ∧ cs.head? = some '-' then cs.tail else cs
    if hexLower c.toLower && hexLower d.toLower then
      (uuidDigits n rest).map fun r => (c.toLower :: d.toLower :: r.1, r.2)
    else none
  | _ + 1, _ => none

def formatUuid (ds : List Char) : String :=
  String.ofList (ds.take 8 ++ '-' :: ((ds.drop 8).take 4 ++ '-' :: ((ds.drop 12).take 4 ++
    '-' :: ((ds.drop 16).take 4 ++ '-' :: ds.drop 20))))

/-- `text::uuid`. -/
def uuid (text : String) : Except Refusal Uuid :=
  let cs := text.toList
  let braced := cs.head? = some '\x7b'
  match uuidDigits 16 (if braced then cs.tail else cs) with
  | some (ds, rest) =>
    if h : Inventory.Payload.CANONICAL_UUID_RE (formatUuid ds) = true ∧
        rest = if braced then ['\x7d'] else [] then .ok ⟨formatUuid ds, h.1⟩
    else .error (.database "22P02")
  | none => .error (.database "22P02")

/-- A cast of a text that may be NULL. -/
def castText {α : Type} (cast : String → Except Refusal α) : Option String → Except Refusal (Option α)
  | some text => some <$> cast text
  | none => .ok none

/-! ## 4. Fields -/

/-- What a line says, past the casts. -/
structure PostingFields where
  identity : Option String
  side : Option String
  baseMinor : Option ℕ
  baseCurrency : Option String
  txnMinor : Option ℕ
  txnCurrency : Option String
  rate : Option ℕ
  rateSource : Option String
  rateAt : Option ℤ
  branchId : Option Uuid
  warehouseId : Option Uuid
  memo : Option String
  deriving DecidableEq

/-- The name an element gives its account. -/
def accountIdentity (e : Jsonb) : Option String :=
  if accountText e "kind" = some "system" then accountText e "system_key"
  else (accountText e "code").map ("code:" ++ ·)

def postingFields (e : Jsonb) : Except Refusal PostingFields := do
  let baseMinor ← castText bigint (e.text "base_amount_minor")
  let txnMinor ← castText bigint (e.text "txn_amount_minor")
  let rate ← castText numericRate (e.text "fx_rate")
  let rateAt ← castText timestamptz (e.text "fx_rate_at")
  let branchId ← castText uuid (e.text "branch_id")
  let warehouseId ← castText uuid (e.text "warehouse_id")
  pure
    { identity := accountIdentity e
      side := e.text "side"
      baseMinor := baseMinor
      baseCurrency := (e.text "base_currency").map upper
      txnMinor := txnMinor
      txnCurrency := (e.text "txn_currency").map upper
      rate := rate
      rateSource := e.text "fx_rate_source"
      rateAt := rateAt
      branchId := branchId
      warehouseId := warehouseId
      memo := e.text "memo" }

/-! ## 5. Canonical lines -/

/-- The canonical facts of a line, none of them NULL but a dimension. -/
structure LineFacts where
  identity : String
  side : String
  baseMinor : ℕ
  baseCurrency : String
  txnMinor : ℕ
  txnCurrency : String
  rate : ℕ
  rateSource : String
  rateAt : ℤ
  branchId : Option Uuid
  warehouseId : Option Uuid
  deriving DecidableEq

def UNIT_SEPARATOR : Char := Char.ofNat 31

def RECORD_SEPARATOR : Char := Char.ofNat 30

def RATE_SCALE : ℕ := 10000000000

/-- `to_char(rate, 'FM9999999990.0000000000')`. -/
def rateText (rate : ℕ) : List Char :=
  Nat.toDigits 10 (rate / RATE_SCALE) ++ '.' :: padded 10 (rate % RATE_SCALE)

/-- `to_char(instant, 'YYYY-MM-DD"T"HH24:MI:SS"Z"')`. -/
def instantText (instant : ℤ) : List Char :=
  let second := (instant % 86400).toNat
  isoDateChars (instant / 86400) ++ 'T' :: (padded 2 (second / 3600) ++ ':' ::
    (padded 2 (second / 60 % 60) ++ ':' :: (padded 2 (second % 60) ++ ['Z'])))

/-- A dimension, or a NUL for none. -/
def dimensionText : Option Uuid → List Char
  | some u => u.text.toList
  | none => [Char.ofNat 0]

def LineFacts.fields (f : LineFacts) : List (List Char) :=
  [ f.identity.toList, f.side.toList, Nat.toDigits 10 f.baseMinor, (upper f.baseCurrency).toList,
    Nat.toDigits 10 f.txnMinor, (upper f.txnCurrency).toList, rateText f.rate,
    f.rateSource.toList, instantText f.rateAt, dimensionText f.branchId,
    dimensionText f.warehouseId ]

/-- Eleven fields, a separator between each two. -/
def LineFacts.chars (f : LineFacts) : List Char := [UNIT_SEPARATOR].intercalate f.fields

def PostingFields.facts? (l : PostingFields) : Option LineFacts := do
  let identity ← l.identity
  let side ← l.side
  let baseMinor ← l.baseMinor
  let baseCurrency ← l.baseCurrency
  let txnMinor ← l.txnMinor
  let txnCurrency ← l.txnCurrency
  let rate ← l.rate
  let rateSource ← l.rateSource
  let rateAt ← l.rateAt
  pure ⟨identity, side, baseMinor, baseCurrency, txnMinor, txnCurrency, rate, rateSource, rateAt,
    l.branchId, l.warehouseId⟩

/-- `accounting_canonical_line`: NULL as soon as one of its texts is. -/
def accountingCanonicalLine (l : PostingFields) : Option (List Char) :=
  l.facts?.map LineFacts.chars

/-! ## 6. The fingerprint -/

/-- The source a posting is for. -/
structure PostingSource where
  tenantId : Uuid
  businessId : Uuid
  sourceType : String
  sourceId : Uuid
  deriving DecidableEq

def PostingSource.header (s : PostingSource) (date : ℤ) : List (List Char) :=
  [ "acctfp/1".toList, s.tenantId.text.toList, s.businessId.text.toList, s.sourceType.toList,
    s.sourceId.text.toList, isoDateChars date ]

/-- Lines in the order of their texts, each with its terminator. -/
def sortedLines (lines : List (List Char)) : List (List Char) := lines.insertionSort (· ≤ ·)

def postingChars (s : PostingSource) (date : ℤ) (lines : List (List Char)) : List Char :=
  frame '\n' (s.header date) ++ frame RECORD_SEPARATOR (sortedLines lines)

def postingStream (s : PostingSource) (date : ℤ) (lines : List (List Char)) : List UInt8 :=
  utf8 (String.ofList (postingChars s date lines))

/-- `accounting_fingerprint`. The text of an infinite date is NULL, and so is the digest; the
    aggregate leaves out the lines that are NULL. -/
def accountingFingerprint (s : PostingSource) (date : Option PgDate)
    (lines : List (Option (List Char))) : Option String :=
  match date with
  | some (.day d) => some (digest (postingStream s d (lines.filterMap id)))
  | _ => none

end Daftar.Accounting
