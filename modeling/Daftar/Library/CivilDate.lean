/-
  File: Daftar/Library/CivilDate.lean
  Subject: Dates as day counts, and the civil dates they name.

  * A date is the number of days since 2000-01-01. `j2date` turns a Julian day number into year,
    month and day of the proleptic Gregorian calendar, in four stages.
  * `civil_injective`: each stage can be undone, so no two dates have one year, month and day.
  * `isoDate` is the text `YYYY-MM-DD`. A year before 1 is written as its year of the other era, so
    `isoDate_injective` is about the years from 1 on.
-/

import Mathlib.Data.Nat.Digits.Defs
import Daftar.Library.AsciiText
import Daftar.Library.Framing

namespace CivilDate

open AsciiText
open Framing

/-! ## 1. From days to civil dates -/

/-- The day number of 2000-01-01. -/
def POSTGRES_EPOCH_JDATE : ℤ := 2451545

/-- A day number, with the days added that the Gregorian calendar leaves out. -/
def julianDay (jd : ℤ) : ℤ :=
  let julian := jd + 32044
  let quad := julian / 146097
  let extra := (julian - quad * 146097) * 4 + 3
  julian + 60 + quad * 3 + extra / 146097

/-- The year within its group of four. -/
def yearOfFour (day : ℤ) : ℤ := day * 4 / 1461

/-- The day within the year, counted from a day of the autumn before. -/
def dayOfYear (day : ℤ) : ℤ :=
  (if yearOfFour day ≠ 0 then (day + 305) % 365 else (day + 306) % 366) + 123

structure Civil where
  year : ℤ
  month : ℤ
  day : ℤ
  deriving DecidableEq

def j2date (jd : ℤ) : Civil :=
  let julian := julianDay jd
  let quad := julian / 1461
  let day := julian - quad * 1461
  let count := dayOfYear day
  let m := count * 2141 / 65536
  { year := yearOfFour day + quad * 4 - 4800
    month := (m + 10) % 12 + 1
    day := count - 7834 * m / 256 }

def civil (date : ℤ) : Civil := j2date (date + POSTGRES_EPOCH_JDATE)

/-! ## 2. No two dates are one civil date -/

theorem julianDay_strictMono {a b : ℤ} (h : a < b) : julianDay a < julianDay b := by
  simp only [julianDay]
  have hquad : (a + 32044) / 146097 ≤ (b + 32044) / 146097 := by omega
  rcases Int.lt_or_eq_of_le hquad with hlt | heq
  · -- A group of 400 years later, at most three days are given back.
    omega
  · rw [heq]
    omega

theorem julianDay_injective {a b : ℤ} (h : julianDay a = julianDay b) : a = b := by
  rcases Int.lt_trichotomy a b with hlt | heq | hgt
  · exact absurd h (Int.ne_of_lt (julianDay_strictMono hlt))
  · exact heq
  · exact absurd h.symm (Int.ne_of_lt (julianDay_strictMono hgt))

theorem yearOfFour_bounds {d : ℤ} (h0 : 0 ≤ d) (h1 : d < 1461) :
    0 ≤ yearOfFour d ∧ yearOfFour d ≤ 3 := by
  unfold yearOfFour
  omega

theorem dayOfYear_bounds (d : ℤ) : 123 ≤ dayOfYear d ∧ dayOfYear d ≤ 488 := by
  unfold dayOfYear
  split <;> omega

/-- In one year of four, the day of the year says which day it is. -/
theorem dayOfYear_injective {a b : ℤ} (ha : 0 ≤ a) (ha' : a < 1461) (hb : 0 ≤ b) (hb' : b < 1461)
    (hy : yearOfFour a = yearOfFour b) (h : dayOfYear a = dayOfYear b) : a = b := by
  unfold dayOfYear at h
  rw [← hy] at h
  have hcase : yearOfFour a = 0 ∨ yearOfFour a = 1 ∨ yearOfFour a = 2 ∨ yearOfFour a = 3 := by
    have := yearOfFour_bounds ha ha'
    omega
  -- A year has at most as many days as its count has residues.
  rcases hcase with h0 | h1 | h2 | h3
  · rw [h0] at h hy
    unfold yearOfFour at hy h0
    rw [if_neg (by decide), if_neg (by decide)] at h
    omega
  · rw [h1] at h hy
    unfold yearOfFour at hy h1
    rw [if_pos (by decide), if_pos (by decide)] at h
    omega
  · rw [h2] at h hy
    unfold yearOfFour at hy h2
    rw [if_pos (by decide), if_pos (by decide)] at h
    omega
  · rw [h3] at h hy
    unfold yearOfFour at hy h3
    rw [if_pos (by decide), if_pos (by decide)] at h
    omega

/-- The months counted from the one a count of 123 days falls in. -/
theorem monthIndex_bounds {count : ℤ} (h0 : 123 ≤ count) (h1 : count ≤ 488) :
    4 ≤ count * 2141 / 65536 ∧ count * 2141 / 65536 ≤ 15 := by
  omega

theorem j2date_injective {a b : ℤ} (h : j2date a = j2date b) : a = b := by
  apply julianDay_injective
  simp only [j2date, Civil.mk.injEq] at h
  generalize julianDay a = x at h ⊢
  generalize julianDay b = y at h ⊢
  obtain ⟨hyear, hmonth, hday⟩ := h
  have hx := yearOfFour_bounds (d := x - x / 1461 * 1461) (by omega) (by omega)
  have hy := yearOfFour_bounds (d := y - y / 1461 * 1461) (by omega) (by omega)
  have hcx := dayOfYear_bounds (x - x / 1461 * 1461)
  have hcy := dayOfYear_bounds (y - y / 1461 * 1461)
  have hmx := monthIndex_bounds hcx.1 hcx.2
  have hmy := monthIndex_bounds hcy.1 hcy.2
  have hquad : x / 1461 = y / 1461 := by omega
  have hfour : yearOfFour (x - x / 1461 * 1461) = yearOfFour (y - y / 1461 * 1461) := by omega
  generalize dayOfYear (x - x / 1461 * 1461) * 2141 / 65536 = mx at hmx hmonth hday
  generalize dayOfYear (y - y / 1461 * 1461) * 2141 / 65536 = my at hmy hmonth hday
  have hm : mx = my := by omega
  rw [hm] at hday
  have hcount : dayOfYear (x - x / 1461 * 1461) = dayOfYear (y - y / 1461 * 1461) := by omega
  have := dayOfYear_injective (by omega) (by omega) (by omega) (by omega) hfour hcount
  omega

theorem civil_injective {a b : ℤ} (h : civil a = civil b) : a = b := by
  have := j2date_injective h
  omega

theorem civil_bounds (date : ℤ) :
    1 ≤ (civil date).month ∧ (civil date).month ≤ 12 ∧ 0 ≤ (civil date).day := by
  simp only [civil, j2date]
  have h := dayOfYear_bounds
    (julianDay (date + POSTGRES_EPOCH_JDATE) - julianDay (date + POSTGRES_EPOCH_JDATE) / 1461 * 1461)
  generalize dayOfYear _ = c at h ⊢
  omega

/-! ## 3. Text -/

/-- A number in decimal, with zeros before it up to a width. -/
def padded (width n : ℕ) : List Char :=
  List.replicate (width - (Nat.toDigits 10 n).length) '0' ++ Nat.toDigits 10 n

/-- The number of a year in its era. -/
def eraYear (year : ℤ) : ℕ := (if year ≤ 0 then 1 - year else year).toNat

def isoDateChars (date : ℤ) : List Char :=
  padded 4 (eraYear (civil date).year) ++ '-' ::
    (padded 2 (civil date).month.toNat ++ '-' :: padded 2 (civil date).day.toNat)

/-- `to_char(date, 'YYYY-MM-DD')`. -/
def isoDate (date : ℤ) : String := String.ofList (isoDateChars date)

theorem ofDigitChars_zeros (k : ℕ) (cs : List Char) :
    Nat.ofDigitChars 10 (List.replicate k '0' ++ cs) 0 = Nat.ofDigitChars 10 cs 0 := by
  induction k with
  | zero => rfl
  | succ k ih =>
      rw [List.replicate_succ, List.cons_append, Nat.ofDigitChars_cons]
      exact ih

theorem ofDigitChars_padded (width n : ℕ) : Nat.ofDigitChars 10 (padded width n) 0 = n := by
  unfold padded
  rw [ofDigitChars_zeros, Nat.ofDigitChars_ten_toDigits]

theorem padded_injective {width m n : ℕ} (h : padded width m = padded width n) : m = n := by
  rw [← ofDigitChars_padded width m, h, ofDigitChars_padded]

theorem length_padded {width n : ℕ} (hw : 0 < width) (h : n < 10 ^ width) :
    (padded width n).length = width := by
  have hlen := Nat.toDigits_length 10 n width hw h
  unfold padded
  rw [List.length_append, List.length_replicate]
  omega

theorem isDigit_of_mem_padded {width n : ℕ} {c : Char} (h : c ∈ padded width n) :
    c.isDigit = true := by
  rcases List.mem_append.mp h with hz | hd
  · rw [(List.mem_replicate.mp hz).2]
    rfl
  · exact Nat.isDigit_of_mem_toDigits (by omega) (by omega) hd

/-- **Digits are determined by their number and the value they continue.** -/
theorem ofDigitChars_inj : ∀ {cs ds : List Char} {m n : ℕ}, (∀ c ∈ cs, c.isDigit = true) →
    (∀ d ∈ ds, d.isDigit = true) → cs.length = ds.length →
    Nat.ofDigitChars 10 cs m = Nat.ofDigitChars 10 ds n → m = n ∧ cs = ds
  | [], [], m, n, _, _, _, h => ⟨by simpa using h, rfl⟩
  | [], _ :: _, _, _, _, _, hlen, _ => by cases hlen
  | _ :: _, [], _, _, _, _, hlen, _ => by cases hlen
  | c :: cs, d :: ds, m, n, hc, hd, hlen, h => by
      rw [Nat.ofDigitChars_cons, Nat.ofDigitChars_cons] at h
      obtain ⟨heq, hrest⟩ := ofDigitChars_inj (fun x hx => hc x (List.mem_cons_of_mem _ hx))
        (fun x hx => hd x (List.mem_cons_of_mem _ hx)) (Nat.succ.inj hlen) h
      have hdigit : ∀ {x : Char}, x.isDigit = true → 48 ≤ x.toNat ∧ x.toNat ≤ 57 := by
        intro x hx
        simp only [Char.isDigit, Bool.and_eq_true, decide_eq_true_eq, ge_iff_le,
          UInt32.le_iff_toNat_le] at hx
        exact hx
      have hcd := hdigit (hc c List.mem_cons_self)
      have hdd := hdigit (hd d List.mem_cons_self)
      have hzero : '0'.toNat = 48 := rfl
      rw [hzero] at heq
      have hchar : c.toNat = d.toNat := by omega
      rw [hrest, Char.toNat_inj.mp hchar]
      exact ⟨by omega, rfl⟩

theorem ofDigitChars_lt {cs : List Char} (h : ∀ c ∈ cs, c.isDigit = true) (m : ℕ) :
    Nat.ofDigitChars 10 cs m < (m + 1) * 10 ^ cs.length := by
  induction cs generalizing m with
  | nil => simp
  | cons c cs ih =>
      have hc := h c List.mem_cons_self
      simp only [Char.isDigit, Bool.and_eq_true, decide_eq_true_eq, ge_iff_le,
        UInt32.le_iff_toNat_le] at hc
      have h2 : c.toNat ≤ 57 := hc.2
      have hzero : '0'.toNat = 48 := rfl
      rw [Nat.ofDigitChars_cons, List.length_cons, pow_succ, hzero]
      calc Nat.ofDigitChars 10 cs (10 * m + (c.toNat - 48))
          < (10 * m + (c.toNat - 48) + 1) * 10 ^ cs.length :=
            ih (fun x hx => h x (List.mem_cons_of_mem _ hx)) _
        _ ≤ (m + 1) * 10 * 10 ^ cs.length := Nat.mul_le_mul_right _ (by omega)
        _ = (m + 1) * (10 ^ cs.length * 10) := by rw [Nat.mul_assoc, Nat.mul_comm 10]

/-- A number is written without a zero in front. -/
theorem toDigits_head {n : ℕ} (h : 1 ≤ n) {c : Char} {cs : List Char}
    (hd : Nat.toDigits 10 n = c :: cs) : c ≠ '0' := by
  intro h0
  have hvalue : Nat.ofDigitChars 10 cs 0 = n := by
    have hn := Nat.ofDigitChars_ten_toDigits (n := n)
    rw [hd, h0, Nat.ofDigitChars_cons] at hn
    exact hn
  have hdigits : ∀ d ∈ cs, d.isDigit = true := fun d hm =>
    Nat.isDigit_of_mem_toDigits (by decide) (by decide) (hd ▸ List.mem_cons_of_mem c hm)
  have hlt := ofDigitChars_lt hdigits 0
  rw [hvalue, Nat.zero_add, Nat.one_mul] at hlt
  cases hcs : cs with
  | nil =>
      rw [hcs, List.length_nil, Nat.pow_zero] at hlt
      omega
  | cons d ds =>
      have hlen := Nat.toDigits_length 10 n cs.length (by rw [hcs]; exact Nat.succ_pos _) hlt
      rw [hd, List.length_cons] at hlen
      omega

/-- **A width of digits is its value, padded.** -/
theorem padded_ofDigitChars {width : ℕ} {cs : List Char} (hw : 0 < width)
    (h : ∀ c ∈ cs, c.isDigit = true) (hlen : cs.length = width) :
    padded width (Nat.ofDigitChars 10 cs 0) = cs := by
  have hlt := ofDigitChars_lt h 0
  rw [hlen, Nat.zero_add, Nat.one_mul] at hlt
  have hpad := length_padded hw hlt
  exact (ofDigitChars_inj (fun c hc => isDigit_of_mem_padded hc) h (hpad.trans hlen.symm)
    (ofDigitChars_padded width _)).2

theorem hyphen_notMem_padded (width n : ℕ) : '-' ∉ padded width n := by
  intro h
  exact absurd (isDigit_of_mem_padded h) (by decide)

theorem printable_isoDate (date : ℤ) : Printable (isoDate date) := by
  have hpadded : ∀ width n, ∀ c ∈ padded width n, 32 ≤ c.toNat ∧ c.toNat < 127 :=
    fun width n c hc => printable_of_isDigit (isDigit_of_mem_padded hc)
  have hyphen : 32 ≤ '-'.toNat ∧ '-'.toNat < 127 := by decide
  intro c hc
  unfold isoDate isoDateChars at hc
  rw [String.toList_ofList] at hc
  rcases List.mem_append.mp hc with hc | hc
  · exact hpadded _ _ c hc
  · rcases List.mem_cons.mp hc with rfl | hc
    · exact hyphen
    · rcases List.mem_append.mp hc with hc | hc
      · exact hpadded _ _ c hc
      · rcases List.mem_cons.mp hc with rfl | hc
        · exact hyphen
        · exact hpadded _ _ c hc

/-- **No two dates from year 1 on have one text.** -/
theorem isoDate_injective {a b : ℤ} (ha : 1 ≤ (civil a).year) (hb : 1 ≤ (civil b).year)
    (h : isoDate a = isoDate b) : a = b := by
  have hc : isoDateChars a = isoDateChars b := String.ofList_injective h
  unfold isoDateChars at hc
  obtain ⟨hy, hrest⟩ := cut_inj (hyphen_notMem_padded _ _) (hyphen_notMem_padded _ _) hc
  obtain ⟨hm, hd⟩ := cut_inj (hyphen_notMem_padded _ _) (hyphen_notMem_padded _ _) hrest
  have hy' := padded_injective hy
  have hm' := padded_injective hm
  have hd' := padded_injective hd
  have hba := civil_bounds a
  have hbb := civil_bounds b
  unfold eraYear at hy'
  rw [if_neg (by omega), if_neg (by omega)] at hy'
  apply civil_injective
  generalize civil a = x at *
  generalize civil b = y at *
  cases x
  cases y
  simp only [Civil.mk.injEq] at *
  omega

example : isoDate 9000 = "2024-08-22" := by decide +kernel

end CivilDate
