/-
  File: Daftar/Accounting/LedgerCursor.lean
  Subject: The text cursor of a ledger page.

  * `encodeLedgerCursor` writes the ordering tuple of a line behind a version, `decodeLedgerCursor`
    reads a text back or refuses it.
  * `Carried` are the tuples the format has room for: a line number has at most nine digits.
    `decodeLedgerCursor_encode`: such a tuple is read back; `decodeLedgerCursor_carried`: nothing
    else is ever read.
  * `castDate_isoDate`: the date of a line, from year 1 to 9999, is read back from its text.
-/

import Daftar.Accounting.FingerprintAgreement
import Daftar.Library.Base64Url

namespace Daftar.Accounting

open AsciiText
open Base64Url (isLetter)
open CivilDate
open Fallible
open Inventory.Payload (CANONICAL_UUID_RE printable_of_uuid)

/-! ## 1. The format -/

def LEDGER_CURSOR_VERSION : String := "glc/1"

structure LedgerCursor where
  entryDate : String
  entryId : String
  lineNo : ℕ
  deriving DecidableEq, Repr

def cursorRefusal : AccountingError :=
  ⟨.reportCursorInvalid, "the pagination cursor is not one this server issued"⟩

/-- `Buffer.from(text, 'utf8')` -/
def utf8Bytes (cs : List Char) : List UInt8 := cs.flatMap String.utf8EncodeChar

/-- `.toString('utf8')`. A byte past ASCII is kept as a replacement character, for bytes that are the
    UTF-8 of a character past ASCII too: no part of a cursor admits either. -/
def utf8Chars (bytes : List UInt8) : List Char :=
  bytes.map fun b => if b.toNat < 0x80 then Char.ofNat b.toNat else '\ufffd'

def cursorPayload (c : LedgerCursor) : List Char :=
  c.entryDate.toList ++ '|' :: (c.entryId.toList ++ '|' :: Nat.toDigits 10 c.lineNo)

/-- A version and the dot behind it. -/
def versionMark (version : String) : List Char := version.toList ++ ['.']

def encodeLedgerCursor (c : LedgerCursor) : String :=
  String.ofList (versionMark LEDGER_CURSOR_VERSION ++ Base64Url.encode (utf8Bytes (cursorPayload c)))

def splitCursor (raw version : String) : Canonical (List (List Char)) := do
  refuseIf (utf16Length raw = 0 ∨ 512 < utf16Length raw) cursorRefusal
  refuseIf ((versionMark version).isPrefixOf raw.toList = false) cursorRefusal
  let payload := raw.toList.drop (versionMark version).length
  refuseIf (payload = [] ∨ payload.all isLetter = false) cursorRefusal
  let decoded := utf8Chars (Base64Url.decode payload)
  refuseIf (256 < decoded.length) cursorRefusal
  pure (decoded.splitOn '|')

/-- `/^[1-9]\d{0,8}$/` -/
def LINE_NO_RE : List Char → Bool
  | c :: cs => c.isDigit && c != '0' && cs.length ≤ 8 && cs.all Char.isDigit
  | [] => false

def decodeLedgerCursor (raw : String) : Canonical LedgerCursor := do
  let parts ← splitCursor raw LEDGER_CURSOR_VERSION
  match parts with
  | [entryDate, entryId, lineNoText] =>
      refuseIf (DATE_RE entryDate = false ∨ CANONICAL_UUID_RE (String.ofList entryId) = false ∨
        LINE_NO_RE lineNoText = false) cursorRefusal
      pure ⟨String.ofList entryDate, String.ofList entryId, digitsValue lineNoText⟩
  | _ => .error cursorRefusal

/-- What the format has room for. -/
structure LedgerCursor.Carried (c : LedgerCursor) : Prop where
  date : DATE_RE c.entryDate.toList = true
  uuid : CANONICAL_UUID_RE c.entryId = true
  lineNo : 1 ≤ c.lineNo ∧ c.lineNo ≤ 999999999

/-! ## 2. Line numbers -/

/-- **A line number of at most nine digits has the pattern of one.** -/
theorem lineNoRe_toDigits {n : ℕ} (h0 : 1 ≤ n) (h1 : n ≤ 999999999) :
    LINE_NO_RE (Nat.toDigits 10 n) = true := by
  have hlen := Nat.toDigits_length 10 n 9 (by decide) (by omega)
  have hdigits : ∀ d ∈ Nat.toDigits 10 n, d.isDigit = true := fun d hm =>
    Nat.isDigit_of_mem_toDigits (by decide) (by decide) hm
  cases hd : Nat.toDigits 10 n with
  | nil => exact absurd hd Nat.toDigits_ne_nil
  | cons c cs =>
      rw [hd, List.length_cons] at hlen
      rw [hd] at hdigits
      simp only [LINE_NO_RE, Bool.and_eq_true, bne_iff_ne, decide_eq_true_eq, List.all_eq_true]
      exact ⟨⟨⟨hdigits c List.mem_cons_self, toDigits_head h0 hd⟩, by omega⟩,
        fun d hm => hdigits d (List.mem_cons_of_mem c hm)⟩

theorem le_ofDigitChars (cs : List Char) (m : ℕ) : m ≤ Nat.ofDigitChars 10 cs m := by
  induction cs generalizing m with
  | nil => rfl
  | cons c cs ih =>
      rw [Nat.ofDigitChars_cons]
      exact le_trans (by omega) (ih _)

/-- A text of this pattern is a line number of at most nine digits. -/
theorem digitsValue_lineNoRe {cs : List Char} (h : LINE_NO_RE cs = true) :
    1 ≤ digitsValue cs ∧ digitsValue cs ≤ 999999999 := by
  cases cs with
  | nil => cases h
  | cons c cs =>
      simp only [LINE_NO_RE, Bool.and_eq_true, bne_iff_ne, ne_eq, decide_eq_true_eq,
        List.all_eq_true] at h
      obtain ⟨⟨⟨hc, h0⟩, hlen⟩, hcs⟩ := h
      have hall : ∀ d ∈ c :: cs, d.isDigit = true := List.forall_mem_cons.mpr ⟨hc, hcs⟩
      have hlt := ofDigitChars_lt hall 0
      have hpow : 10 ^ (c :: cs).length ≤ 10 ^ 9 :=
        Nat.pow_le_pow_right (by decide) (by rw [List.length_cons]; omega)
      have hge := le_ofDigitChars cs (10 * 0 + (c.toNat - '0'.toNat))
      have hchar : 48 ≤ c.toNat ∧ c.toNat ≠ 48 := by
        refine ⟨?_, fun h48 => h0 (Char.toNat_inj.mp h48)⟩
        simp only [Char.isDigit, Bool.and_eq_true, decide_eq_true_eq, ge_iff_le,
          UInt32.le_iff_toNat_le] at hc
        exact hc.1
      have hzero : '0'.toNat = 48 := rfl
      unfold digitsValue
      rw [Nat.zero_add, Nat.one_mul] at hlt
      rw [Nat.ofDigitChars_cons] at hlt ⊢
      omega

/-! ## 3. Round trip -/

theorem utf8Bytes_printable {cs : List Char} (h : ∀ c ∈ cs, 32 ≤ c.toNat ∧ c.toNat < 127) :
    utf8Bytes cs = cs.map fun c => UInt8.ofNat c.toNat := by
  induction cs with
  | nil => rfl
  | cons c cs ih =>
      have hc := h c List.mem_cons_self
      have hone : String.utf8EncodeChar c = [UInt8.ofNat c.toNat] := by
        have hsize : c.utf8Size = 1 := by
          have hle : c.val ≤ 0x7f := by
            rw [UInt32.le_iff_toNat_le]
            exact Nat.le_of_lt_succ (lt_trans hc.2 (by decide))
          simp [Char.utf8Size, hle]
        rw [String.utf8EncodeChar_eq_singleton hsize]
        rfl
      have ih := ih fun d hd => h d (List.mem_cons_of_mem c hd)
      unfold utf8Bytes at ih ⊢
      rw [List.flatMap_cons, ih, hone, List.map_cons, List.singleton_append]

/-- Printable text is read back from its bytes. -/
theorem utf8Chars_utf8Bytes {cs : List Char} (h : ∀ c ∈ cs, 32 ≤ c.toNat ∧ c.toNat < 127) :
    utf8Chars (utf8Bytes cs) = cs := by
  rw [utf8Bytes_printable h]
  unfold utf8Chars
  rw [List.map_map]
  conv_rhs => rw [← List.map_id cs]
  apply List.map_congr_left
  intro c hc
  have hp := h c hc
  have hb : (UInt8.ofNat c.toNat).toNat = c.toNat := by
    rw [UInt8.toNat_ofNat']
    omega
  show (if (UInt8.ofNat c.toNat).toNat < 0x80 then Char.ofNat (UInt8.ofNat c.toNat).toNat
    else '\ufffd') = c
  rw [hb, if_pos (by omega), Char.ofNat_toNat]

theorem utf16Length_printable {s : String} (h : Printable s) : utf16Length s = s.toList.length := by
  unfold utf16Length
  have hone : s.toList.map (fun c => if c.toNat < 0x10000 then 1 else 2) =
      s.toList.map fun _ => 1 := by
    apply List.map_congr_left
    intro c hc
    have := h c hc
    rw [if_pos (by omega)]
  rw [hone, List.map_const', List.sum_replicate_nat, Nat.mul_one]

namespace LedgerCursor

variable {c : LedgerCursor}

theorem Carried.printable (h : c.Carried) :
    ∀ d ∈ cursorPayload c, 32 ≤ d.toNat ∧ d.toNat < 127 := by
  have hbar : 32 ≤ '|'.toNat ∧ '|'.toNat < 127 := by decide
  intro d hd
  simp only [cursorPayload, List.mem_append, List.mem_cons] at hd
  rcases hd with hd | rfl | hd | rfl | hd
  · exact printable_of_dateRe h.date d hd
  · exact hbar
  · exact printable_of_uuid h.uuid d hd
  · exact hbar
  · exact printable_of_isDigit (Nat.isDigit_of_mem_toDigits (by decide) (by decide) hd)

theorem Carried.length_payload (h : c.Carried) : (cursorPayload c).length ≤ 57 := by
  have hdate : c.entryDate.toList.length = 10 := matchesEach_length h.date
  have huuid : c.entryId.toList.length = 36 := matchesEach_length h.uuid
  have hline := Nat.toDigits_length 10 c.lineNo 9 (by decide) (by have := h.lineNo.2; omega)
  simp only [cursorPayload, List.length_append, List.length_cons]
  omega

/-- A bar stands in no part of a cursor. -/
theorem Carried.split (h : c.Carried) : (cursorPayload c).splitOn '|' =
    [c.entryDate.toList, c.entryId.toList, Nat.toDigits 10 c.lineNo] := by
  have hclass : ∀ {cs : List Char} {ps : List (Char → Bool)}, (∀ p ∈ ps, p '|' = false) →
      matchesEach ps cs = true → '|' ∉ cs := by
    intro cs ps hps hm hbar
    exact matchesEach_forall (P := fun d => d ≠ '|') (fun p hp d hd he => by
      rw [he, hps p hp] at hd
      cases hd) hm '|' hbar rfl
  have hparts : ∀ part ∈ [c.entryDate.toList, c.entryId.toList, Nat.toDigits 10 c.lineNo],
      '|' ∉ part := by
    intro part hpart
    simp only [List.mem_cons, List.not_mem_nil, or_false] at hpart
    rcases hpart with rfl | rfl | rfl
    · exact hclass (by decide) h.date
    · exact hclass (by decide) h.uuid
    · intro hbar
      exact absurd (Nat.isDigit_of_mem_toDigits (by decide) (by decide) hbar) (by decide)
  rw [← List.splitOn_intercalate '|' hparts (by simp)]
  congr 1
  simp [cursorPayload, List.intercalate]

end LedgerCursor

theorem splitCursor_encode {c : LedgerCursor} (h : c.Carried) :
    splitCursor (encodeLedgerCursor c) LEDGER_CURSOR_VERSION =
      .ok [c.entryDate.toList, c.entryId.toList, Nat.toDigits 10 c.lineNo] := by
  have hlist : (encodeLedgerCursor c).toList = versionMark LEDGER_CURSOR_VERSION ++
      Base64Url.encode (utf8Bytes (cursorPayload c)) := String.toList_ofList
  have hbytes : (utf8Bytes (cursorPayload c)).length = (cursorPayload c).length := by
    rw [utf8Bytes_printable h.printable, List.length_map]
  have hmark : (versionMark LEDGER_CURSOR_VERSION).length = 6 := by decide
  have hencoded := Base64Url.length_encode (utf8Bytes (cursorPayload c))
  have hpayload := h.length_payload
  have hsome : 1 ≤ (cursorPayload c).length := by
    simp only [cursorPayload, List.length_append, List.length_cons]
    omega
  have hprint : Printable (encodeLedgerCursor c) := by
    intro d hd
    rw [hlist] at hd
    rcases List.mem_append.mp hd with hd | hd
    · have hmarked : ((versionMark LEDGER_CURSOR_VERSION).all fun d =>
          32 ≤ d.toNat ∧ d.toNat < 127) = true := by decide
      rw [List.all_eq_true] at hmarked
      exact of_decide_eq_true (hmarked d hd)
    · exact Base64Url.printable_of_isLetter (Base64Url.letters_encode d hd)
  have hlen : utf16Length (encodeLedgerCursor c) = 6 + (4 * (cursorPayload c).length + 2) / 3 := by
    rw [utf16Length_printable hprint, hlist, List.length_append, hmark, hencoded, hbytes]
  have hdrop : (encodeLedgerCursor c).toList.drop (versionMark LEDGER_CURSOR_VERSION).length =
      Base64Url.encode (utf8Bytes (cursorPayload c)) := by rw [hlist, List.drop_left]
  have hne : Base64Url.encode (utf8Bytes (cursorPayload c)) ≠ [] := by
    intro hnil
    rw [hnil, hbytes, List.length_nil] at hencoded
    omega
  have hfront : (versionMark LEDGER_CURSOR_VERSION).isPrefixOf (encodeLedgerCursor c).toList = true := by
    rw [hlist]
    exact List.isPrefixOf_iff_prefix.mpr (List.prefix_append _ _)
  unfold splitCursor
  rw [refuseIf_of_not (by rw [hlen]; omega), ok_bind, refuseIf_of_not (by rw [hfront]; decide), ok_bind]
  simp only [hdrop]
  rw [refuseIf_of_not (by
    rw [not_or, Bool.not_eq_false, List.all_eq_true]
    exact ⟨hne, Base64Url.letters_encode⟩), ok_bind, Base64Url.decode_encode,
    utf8Chars_utf8Bytes h.printable, refuseIf_of_not (by omega), ok_bind, h.split]
  rfl

/-- **A cursor the format has room for is read back from its text.** -/
theorem decodeLedgerCursor_encode {c : LedgerCursor} (h : c.Carried) :
    decodeLedgerCursor (encodeLedgerCursor c) = .ok c := by
  have hvalue : digitsValue (Nat.toDigits 10 c.lineNo) = c.lineNo := Nat.ofDigitChars_ten_toDigits
  unfold decodeLedgerCursor
  rw [splitCursor_encode h, ok_bind]
  simp only [String.ofList_toList]
  rw [refuseIf_of_not (by
    rw [h.date, h.uuid, lineNoRe_toDigits h.lineNo.1 h.lineNo.2]
    decide), ok_bind, hvalue]
  rfl

/-- **Whatever text is read is a cursor the format has room for.** -/
theorem decodeLedgerCursor_carried {raw : String} {c : LedgerCursor}
    (h : decodeLedgerCursor raw = .ok c) : c.Carried := by
  unfold decodeLedgerCursor at h
  obtain ⟨parts, _, h⟩ := bind_eq_ok.mp h
  split at h
  · simp only [bind_eq_ok, refuseIf_eq_ok, exists_const, pure_eq_ok, not_or, Bool.not_eq_false] at h
    obtain ⟨⟨hdate, huuid, hline⟩, rfl⟩ := h
    exact ⟨by rw [String.toList_ofList]; exact hdate, huuid, digitsValue_lineNoRe hline⟩
  · cases h

/-! ## 4. Dates -/

/-- A year that begins in March has the days of January and February at its end. -/
theorem days_of_four {d : ℤ} (h0 : 0 ≤ d) (h1 : d < 1461) :
    (dayOfYear d * 2141 / 65536 ≤ 13 → yearOfFour d * 365 + dayOfYear d = d + 63) ∧
      (14 ≤ dayOfYear d * 2141 / 65536 →
        (yearOfFour d - 1) * 365 + (yearOfFour d - 1) / 4 + dayOfYear d = d + 63) := by
  have hy : yearOfFour d = 0 ∨ yearOfFour d = 1 ∨ yearOfFour d = 2 ∨ yearOfFour d = 3 := by
    have := yearOfFour_bounds h0 h1
    omega
  have hday : yearOfFour d = d * 4 / 1461 := rfl
  unfold dayOfYear
  generalize yearOfFour d = y at hy hday ⊢
  rcases hy with rfl | rfl | rfl | rfl
  · rw [if_neg (by decide)]
    omega
  · rw [if_pos (by decide)]
    omega
  · rw [if_pos (by decide)]
    omega
  · rw [if_pos (by decide)]
    omega

/-- The centuries of a year give back the days the calendar leaves out up to it. -/
theorem century_of_days {jd y count : ℤ} (h0 : 123 ≤ count) (h1 : count ≤ 488)
    (h : y * 365 + y / 4 + count = julianDay jd + 63) :
    y * 365 - 32167 + y / 4 - y / 100 + y / 100 / 4 + count = jd := by
  have hjd : julianDay jd = jd + 32044 + 60 + (jd + 32044) / 146097 * 3 +
      ((jd + 32044 - (jd + 32044) / 146097 * 146097) * 4 + 3) / 146097 := rfl
  rw [hjd] at h
  have hcentury : y / 100 = (jd + 32044) / 146097 * 4 +
      ((jd + 32044 - (jd + 32044) / 146097 * 146097) * 4 + 3) / 146097 := by
    omega
  omega

/-- The month of an index that counts from March on. -/
theorem month_of_index {m : ℤ} (h0 : 4 ≤ m) (h1 : m ≤ 15) :
    (m ≤ 13 → (m + 10) % 12 + 1 + 1 = m) ∧ (14 ≤ m → (m + 10) % 12 + 1 + 13 = m) := by
  refine ⟨fun h => ?_, fun h => ?_⟩
  · have : (m + 10) / 12 = 1 := by omega
    omega
  · have : (m + 10) / 12 = 2 := by omega
    omega

/-- **A day number is read back from its civil date.** -/
theorem date2j_j2date (jd : ℤ) : date2j (j2date jd) = jd := by
  have hday : 0 ≤ julianDay jd - julianDay jd / 1461 * 1461 ∧
      julianDay jd - julianDay jd / 1461 * 1461 < 1461 := by omega
  have hcount := dayOfYear_bounds (julianDay jd - julianDay jd / 1461 * 1461)
  have hindex := monthIndex_bounds hcount.1 hcount.2
  obtain ⟨hearly, hlate⟩ := month_of_index hindex.1 hindex.2
  have hfour := yearOfFour_bounds hday.1 hday.2
  obtain ⟨hlow, hhigh⟩ := days_of_four hday.1 hday.2
  have hcentury := fun y h => @century_of_days jd y _ hcount.1 hcount.2 h
  have hyear : (j2date jd).year = yearOfFour (julianDay jd - julianDay jd / 1461 * 1461) +
      julianDay jd / 1461 * 4 - 4800 := rfl
  have hmonth : (j2date jd).month =
      (dayOfYear (julianDay jd - julianDay jd / 1461 * 1461) * 2141 / 65536 + 10) % 12 + 1 := rfl
  have hdate : (j2date jd).day = dayOfYear (julianDay jd - julianDay jd / 1461 * 1461) -
      7834 * (dayOfYear (julianDay jd - julianDay jd / 1461 * 1461) * 2141 / 65536) / 256 := rfl
  simp only [date2j]
  generalize j2date jd = d at *
  generalize dayOfYear (julianDay jd - julianDay jd / 1461 * 1461) = count at *
  generalize yearOfFour (julianDay jd - julianDay jd / 1461 * 1461) = four at *
  generalize julianDay jd = j at *
  by_cases hm : count * 2141 / 65536 ≤ 13
  · have hmarch := hearly hm
    have hj := hlow hm
    have := hcentury (four + j / 1461 * 4) (by omega)
    rw [← hmonth] at hmarch
    rw [if_pos (by omega), if_pos (by omega), hmarch]
    have hback : d.year + 4800 = four + j / 1461 * 4 := by omega
    rw [hback]
    omega
  · have hmarch := hlate (by omega)
    have hj := hhigh (by omega)
    have := hcentury (four - 1 + j / 1461 * 4) (by omega)
    rw [← hmonth] at hmarch
    rw [if_neg (by omega), if_neg (by omega), hmarch]
    have hback : d.year + 4799 = four - 1 + j / 1461 * 4 := by omega
    rw [hback]
    omega

/-- Why a report is not answered. -/
inductive ReportFailure
  | refused (error : AccountingError)
  | database (sqlstate : String)
  deriving DecidableEq, Repr

/-- `text::date`, of a text of the pattern. -/
def castDate (text : String) : Except ReportFailure ℤ :=
  if 1 ≤ (civilOfDate text.toList).year ∧
      civil (dayOfDate text.toList) = civilOfDate text.toList then .ok (dayOfDate text.toList)
  else .error (.database "22008")

/-- The date is one of the years that are written in four digits. -/
def FourDigitYear (date : ℤ) : Prop := 1 ≤ (civil date).year ∧ (civil date).year ≤ 9999

instance (date : ℤ) : Decidable (FourDigitYear date) := inferInstanceAs (Decidable (_ ∧ _))

theorem matchesEach_append {ps qs : List (Char → Bool)} {cs ds : List Char}
    (hp : matchesEach ps cs = true) (hq : matchesEach qs ds = true) :
    matchesEach (ps ++ qs) (cs ++ ds) = true := by
  induction ps generalizing cs with
  | nil => rw [matchesEach_nil.mp hp]; exact hq
  | cons p ps ih =>
      obtain ⟨c, cs, rfl, hc, hcs⟩ := matchesEach_cons.mp hp
      rw [List.cons_append, List.cons_append, matchesEach, hc, ih hcs]
      rfl

theorem civil_day_le (date : ℤ) : (civil date).day ≤ 31 := by
  simp only [civil, j2date]
  have h := dayOfYear_bounds
    (julianDay (date + POSTGRES_EPOCH_JDATE) - julianDay (date + POSTGRES_EPOCH_JDATE) / 1461 * 1461)
  generalize dayOfYear _ = c at h ⊢
  omega

/-- The parts of a date text of four-digit years. -/
theorem isoDateChars_parts {date : ℤ} (h : FourDigitYear date) :
    eraYear (civil date).year = (civil date).year.toNat ∧
      (padded 4 (civil date).year.toNat).length = 4 ∧
      (padded 2 (civil date).month.toNat).length = 2 ∧
      (padded 2 (civil date).day.toNat).length = 2 := by
  have hb := civil_bounds date
  have hd := civil_day_le date
  obtain ⟨h0, h1⟩ := h
  refine ⟨?_, length_padded (by decide) (by omega), length_padded (by decide) (by omega),
    length_padded (by decide) (by omega)⟩
  unfold eraYear
  rw [if_neg (by omega)]

theorem digitsRe_padded {width n : ℕ} (h : (padded width n).length = width) :
    matchesEach (List.replicate width Char.isDigit) (padded width n) = true := by
  have hdigits : ∀ c ∈ padded width n, c.isDigit = true := fun _ hc => isDigit_of_mem_padded hc
  have hall := Sha256.matchesEach_replicate hdigits
  rwa [h] at hall

theorem dateRe_isoDate {date : ℤ} (h : FourDigitYear date) : DATE_RE (isoDateChars date) = true := by
  obtain ⟨hera, hy, hm, hd⟩ := isoDateChars_parts h
  unfold DATE_RE isoDateChars
  rw [hera, List.append_assoc, List.cons_append]
  have hdash : ∀ {ps cs}, matchesEach ps cs = true →
      matchesEach ((· == '-') :: ps) ('-' :: cs) = true := fun h => h
  exact matchesEach_append (digitsRe_padded hy)
    (hdash (matchesEach_append (digitsRe_padded hm) (hdash (digitsRe_padded hd))))

theorem civilOfDate_isoDate {date : ℤ} (h : FourDigitYear date) :
    civilOfDate (isoDateChars date) = civil date := by
  obtain ⟨hera, hy, hm, hd⟩ := isoDateChars_parts h
  have hb := civil_bounds date
  have hvalue : ∀ width n, digitsValue (padded width n) = n := ofDigitChars_padded
  unfold civilOfDate isoDateChars
  rw [hera]
  have htake : (padded 4 (civil date).year.toNat ++ '-' :: (padded 2 (civil date).month.toNat ++
      '-' :: padded 2 (civil date).day.toNat)).take 4 = padded 4 (civil date).year.toNat := by
    rw [List.take_left' hy]
  have hmonth : (padded 4 (civil date).year.toNat ++ '-' :: (padded 2 (civil date).month.toNat ++
      '-' :: padded 2 (civil date).day.toNat)).drop 5 =
      padded 2 (civil date).month.toNat ++ '-' :: padded 2 (civil date).day.toNat := by
    rw [show 5 = 4 + 1 from rfl, ← List.drop_drop, List.drop_left' hy, List.drop_one, List.tail_cons]
  have hday : (padded 4 (civil date).year.toNat ++ '-' :: (padded 2 (civil date).month.toNat ++
      '-' :: padded 2 (civil date).day.toNat)).drop 8 = padded 2 (civil date).day.toNat := by
    rw [show 8 = 5 + (2 + 1) from rfl, ← List.drop_drop, hmonth, ← List.drop_drop,
      List.drop_left' hm, List.drop_one, List.tail_cons]
  rw [htake, hmonth, hday, List.take_left' hm, List.take_of_length_le (le_of_eq hd), hvalue, hvalue,
    hvalue]
  obtain ⟨h0, _⟩ := h
  generalize civil date = c at *
  obtain ⟨year, month, day⟩ := c
  simp only [Civil.mk.injEq]
  simp only at h0 hb
  omega

/-- **The date of a four-digit year is read back from its text.** -/
theorem castDate_isoDate {date : ℤ} (h : FourDigitYear date) :
    castDate (isoDate date) = .ok date := by
  have hlist : (isoDate date).toList = isoDateChars date := String.toList_ofList
  have hday : dayOfDate (isoDateChars date) = date := by
    unfold dayOfDate
    rw [civilOfDate_isoDate h, civil, date2j_j2date]
    omega
  unfold castDate
  rw [hlist, hday, civilOfDate_isoDate h, if_pos ⟨h.1, rfl⟩]

end Daftar.Accounting
