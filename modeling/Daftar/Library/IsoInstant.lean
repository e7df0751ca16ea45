/-
  File: Daftar/Library/IsoInstant.lean
  Subject: Instants in milliseconds and their ISO 8601 text.

  * A time value is a number of milliseconds since 1970-01-01, at most `MAX_TIME` away from it.
  * `isoChars` writes four digits for a year from 0 to 9999, and a sign and six digits for any other
    one, so the text has two lengths.
  * `secondChars`: the text up to the second. The first nineteen characters are these for a year of
    four digits (`take_isoChars_of_year`), and end with the minute for another one
    (`take_isoChars_of_not_year`).
-/

import Daftar.Library.CivilDate

namespace IsoInstant

open CivilDate

/-! ## 1. The text -/

/-- The largest distance from 1970 of a time value, in milliseconds. -/
def MAX_TIME : ℤ := 8640000000000000

/-- A time value. -/
structure TimeValue where
  ms : ℤ
  range : -MAX_TIME ≤ ms ∧ ms ≤ MAX_TIME
  deriving DecidableEq

/-- The civil date of a time value; 2000-01-01 is 10957 days after 1970-01-01. -/
def dateOf (ms : ℤ) : Civil := civil (ms / 86400000 - 10957)

def msOfDay (ms : ℤ) : ℕ := (ms % 86400000).toNat

def HasShortYear (ms : ℤ) : Prop := 0 ≤ (dateOf ms).year ∧ (dateOf ms).year ≤ 9999

instance (ms : ℤ) : Decidable (HasShortYear ms) := inferInstanceAs (Decidable (_ ∧ _))

def isoYear (year : ℤ) : List Char :=
  if 0 ≤ year ∧ year ≤ 9999 then padded 4 year.toNat
  else (if year < 0 then '-' else '+') :: padded 6 year.natAbs

def yearChars (ms : ℤ) : List Char := isoYear (dateOf ms).year

theorem yearChars_of_year {ms : ℤ} (h : HasShortYear ms) :
    yearChars ms = padded 4 (dateOf ms).year.toNat := if_pos h

theorem yearChars_of_not_year {ms : ℤ} (h : ¬ HasShortYear ms) : yearChars ms =
    (if (dateOf ms).year < 0 then '-' else '+') :: padded 6 (dateOf ms).year.natAbs := if_neg h

/-- Year, month, day, hour and minute. -/
def minuteChars (ms : ℤ) : List Char :=
  yearChars ms ++ '-' :: (padded 2 (dateOf ms).month.toNat ++ '-' ::
    (padded 2 (dateOf ms).day.toNat ++ 'T' :: (padded 2 (msOfDay ms / 3600000) ++ ':' ::
      padded 2 (msOfDay ms / 60000 % 60))))

/-- Year to second. -/
def secondChars (ms : ℤ) : List Char :=
  minuteChars ms ++ ':' :: padded 2 (msOfDay ms / 1000 % 60)

/-- `toISOString` -/
def isoChars (ms : ℤ) : List Char :=
  secondChars ms ++ '.' :: (padded 3 (msOfDay ms % 1000) ++ ['Z'])

/-! ## 2. Lengths -/

theorem msOfDay_lt (ms : ℤ) : msOfDay ms < 86400000 := by
  unfold msOfDay
  omega

theorem dateOf_bounds (ms : ℤ) : 1 ≤ (dateOf ms).month ∧ (dateOf ms).month ≤ 12 ∧
    0 ≤ (dateOf ms).day ∧ (dateOf ms).day ≤ 31 := by
  have h := civil_bounds (ms / 86400000 - 10957)
  refine ⟨h.1, h.2.1, h.2.2, ?_⟩
  simp only [dateOf, civil, j2date]
  generalize julianDay _ - julianDay _ / 1461 * 1461 = d
  have hc := dayOfYear_bounds d
  generalize dayOfYear d = c at hc ⊢
  omega

/-- The years of time values have at most six digits. -/
theorem year_bounds (t : TimeValue) : (dateOf t.ms).year.natAbs < 1000000 := by
  obtain ⟨ms, h1, h2⟩ := t
  unfold MAX_TIME at h1 h2
  simp only [dateOf, civil, j2date, julianDay, yearOfFour, POSTGRES_EPOCH_JDATE]
  omega

theorem length_yearChars_of_year {ms : ℤ} (h : HasShortYear ms) : (yearChars ms).length = 4 := by
  rw [yearChars_of_year h]
  exact length_padded (by decide) (by have := h.1; have := h.2; omega)

theorem length_yearChars_of_not_year {t : TimeValue} (h : ¬ HasShortYear t.ms) :
    (yearChars t.ms).length = 7 := by
  rw [yearChars_of_not_year h, List.length_cons, length_padded (by decide) (year_bounds t)]

theorem length_minuteChars (ms : ℤ) : (minuteChars ms).length = (yearChars ms).length + 12 := by
  have hd := dateOf_bounds ms
  have ht := msOfDay_lt ms
  simp only [minuteChars, List.length_append, List.length_cons]
  rw [length_padded (by decide) (by omega), length_padded (by decide) (by omega),
    length_padded (by decide) (by omega), length_padded (by decide) (by omega)]

theorem length_secondChars (ms : ℤ) : (secondChars ms).length = (yearChars ms).length + 15 := by
  rw [secondChars, List.length_append, length_minuteChars, List.length_cons,
    length_padded (by decide) (by omega)]

/-- **Nineteen characters hold the second** of a year of four digits. -/
theorem take_isoChars_of_year {ms : ℤ} (h : HasShortYear ms) :
    (isoChars ms).take 19 = secondChars ms := by
  rw [isoChars, List.take_append_of_le_length, List.take_of_length_le]
  all_goals rw [length_secondChars, length_yearChars_of_year h]

/-- **They end with the minute** of any other one. -/
theorem take_isoChars_of_not_year {t : TimeValue} (h : ¬ HasShortYear t.ms) :
    (isoChars t.ms).take 19 = minuteChars t.ms := by
  have hlen : (minuteChars t.ms).length = 19 := by
    rw [length_minuteChars, length_yearChars_of_not_year h]
  rw [isoChars, secondChars, List.append_assoc, List.take_append_of_le_length hlen.ge,
    List.take_of_length_le hlen.le]

/-! ## 3. What the text determines -/

theorem minuteChars_inj {a b : ℤ} (hlen : (yearChars a).length = (yearChars b).length)
    (h : minuteChars a = minuteChars b) : yearChars a = yearChars b ∧
      (dateOf a).month = (dateOf b).month ∧ (dateOf a).day = (dateOf b).day ∧
      msOfDay a / 60000 = msOfDay b / 60000 := by
  unfold minuteChars at h
  have ha := dateOf_bounds a
  have hb := dateOf_bounds b
  have hdash := hyphen_notMem_padded
  have hdigit : ∀ {c : Char} w n, c.isDigit = false → c ∉ padded w n := fun w n hc hm => by
    rw [isDigit_of_mem_padded hm] at hc
    cases hc
  obtain ⟨hy, h⟩ := List.append_inj h hlen
  obtain ⟨hm, h⟩ := Framing.cut_inj (hdash _ _) (hdash _ _) (List.cons.inj h).2
  obtain ⟨hd, h⟩ := Framing.cut_inj (hdigit _ _ (by decide)) (hdigit _ _ (by decide)) h
  obtain ⟨hh, h⟩ := Framing.cut_inj (hdigit _ _ (by decide)) (hdigit _ _ (by decide)) h
  have hm := padded_injective hm
  have hd := padded_injective hd
  have hh := padded_injective hh
  have hmin := padded_injective h
  exact ⟨hy, by omega, by omega, by omega⟩

theorem dateOf_inj {a b : ℤ} (h : dateOf a = dateOf b) : a / 86400000 = b / 86400000 := by
  have := civil_injective h
  omega

/-- One text of the year, month and day, one day. -/
theorem day_inj {a b : ℤ} (hyear : (dateOf a).year = (dateOf b).year)
    (hmonth : (dateOf a).month = (dateOf b).month) (hday : (dateOf a).day = (dateOf b).day) :
    a / 86400000 = b / 86400000 := by
  apply dateOf_inj
  generalize dateOf a = x at *
  generalize dateOf b = y at *
  cases x
  cases y
  simp only [Civil.mk.injEq] at *
  exact ⟨hyear, hmonth, hday⟩

theorem year_inj {a b : ℤ} (h : yearChars a = yearChars b) :
    (dateOf a).year = (dateOf b).year := by
  have hdigit : ∀ {c : Char} {cs w n}, c.isDigit = false → c :: cs ≠ padded w n :=
    fun {c cs w n} hc he => by
      have hmem : c ∈ padded w n := he ▸ List.mem_cons_self
      rw [isDigit_of_mem_padded hmem] at hc
      cases hc
  have hsign : ∀ x : ℤ, (if x < 0 then '-' else '+').isDigit = false := fun x => by
    split <;> rfl
  by_cases ha : HasShortYear a <;> by_cases hb : HasShortYear b
  · rw [yearChars_of_year ha, yearChars_of_year hb] at h
    have h := padded_injective h
    have := ha.1
    have := hb.1
    omega
  · rw [yearChars_of_year ha, yearChars_of_not_year hb] at h
    exact absurd h.symm (hdigit (hsign _))
  · rw [yearChars_of_not_year ha, yearChars_of_year hb] at h
    exact absurd h (hdigit (hsign _))
  · rw [yearChars_of_not_year ha, yearChars_of_not_year hb] at h
    obtain ⟨hs, hn⟩ := List.cons.inj h
    have hn := padded_injective hn
    split at hs <;> split at hs
    · omega
    · cases hs
    · cases hs
    · omega

/-- **The text up to the minute determines the minute.** -/
theorem minute_of_minuteChars {a b : ℤ} (hlen : (yearChars a).length = (yearChars b).length)
    (h : minuteChars a = minuteChars b) : a / 60000 = b / 60000 := by
  obtain ⟨hy, hm, hd, ht⟩ := minuteChars_inj hlen h
  have hday := day_inj (year_inj hy) hm hd
  unfold msOfDay at ht
  omega

/-- **The text up to the second determines the second.** -/
theorem second_of_secondChars {a b : ℤ} (ha : HasShortYear a) (hb : HasShortYear b)
    (h : secondChars a = secondChars b) : a / 1000 = b / 1000 := by
  have hlen : (yearChars a).length = (yearChars b).length := by
    rw [length_yearChars_of_year ha, length_yearChars_of_year hb]
  unfold secondChars at h
  obtain ⟨hmin, hsec⟩ := List.append_inj h (by rw [length_minuteChars, length_minuteChars, hlen])
  have hsec := padded_injective (List.cons.inj hsec).2
  have hmin := minute_of_minuteChars hlen hmin
  unfold msOfDay at hsec
  omega

/-- Within a minute the text up to the minute is one. -/
theorem minuteChars_of_minute {a b : ℤ} (h : a / 60000 = b / 60000) :
    minuteChars a = minuteChars b := by
  have hday : a / 86400000 = b / 86400000 := by omega
  have hdate : dateOf a = dateOf b := by rw [dateOf, dateOf, hday]
  have htime : msOfDay a / 60000 = msOfDay b / 60000 := by
    unfold msOfDay
    omega
  have hhour : msOfDay a / 3600000 = msOfDay b / 3600000 := by omega
  have hyear : yearChars a = yearChars b := by rw [yearChars, yearChars, hdate]
  rw [minuteChars, minuteChars, hyear, hdate, htime, hhour]

theorem hasShortYear_of_minute {a b : ℤ} (h : a / 60000 = b / 60000) :
    HasShortYear a ↔ HasShortYear b := by
  have hday : a / 86400000 = b / 86400000 := by omega
  rw [HasShortYear, HasShortYear, dateOf, dateOf, hday]

/-- **A year of four digits and another one share no first character.** -/
theorem take_isoChars_ne {a b : ℤ} (ha : HasShortYear a) (hb : ¬ HasShortYear b) {n : ℕ}
    (hn : 0 < n) : (isoChars a).take n ≠ (isoChars b).take n := by
  intro h
  have hhead := congrArg List.head? h
  rw [List.head?_take, List.head?_take, if_neg hn.ne', if_neg hn.ne'] at hhead
  have hyear : ∀ x : ℤ, (yearChars x).head?.isSome → (isoChars x).head? = (yearChars x).head? := by
    intro x hx
    unfold isoChars secondChars minuteChars
    simp only [List.append_assoc, List.head?_append]
    exact Option.or_of_isSome hx
  have hlen := length_yearChars_of_year ha
  have hsome : (yearChars a).head?.isSome := by
    rw [List.isSome_head?]
    intro hnil
    rw [hnil] at hlen
    cases hlen
  have hb' : (yearChars b).head? = some (if (dateOf b).year < 0 then '-' else '+') := by
    rw [yearChars_of_not_year hb]
    rfl
  rw [hyear a hsome, hyear b (by rw [hb']; rfl), hb'] at hhead
  have hmem := List.mem_of_head? hhead
  rw [yearChars_of_year ha] at hmem
  have hdigit := isDigit_of_mem_padded hmem
  split at hdigit <;> cases hdigit

/-- The text is digits and signs. -/
theorem printable_isoChars (ms : ℤ) : ∀ c ∈ isoChars ms, 32 ≤ c.toNat ∧ c.toNat < 127 := by
  have hpadded : ∀ {w n}, ∀ c ∈ padded w n, 32 ≤ c.toNat ∧ c.toNat < 127 :=
    fun c hc => AsciiText.printable_of_isDigit (isDigit_of_mem_padded hc)
  have hyear : ∀ c ∈ yearChars ms, 32 ≤ c.toNat ∧ c.toNat < 127 := by
    by_cases h : HasShortYear ms
    · rw [yearChars_of_year h]
      exact hpadded
    · rw [yearChars_of_not_year h, List.forall_mem_cons]
      refine ⟨?_, hpadded⟩
      split <;> decide
  simp only [isoChars, secondChars, minuteChars, List.forall_mem_append, List.forall_mem_cons]
  have hsigns : ∀ c ∈ ['-', 'T', ':', '.', 'Z'], 32 ≤ c.toNat ∧ c.toNat < 127 :=
    (by decide : AsciiText.Printable "-T:.Z")
  simp only [List.forall_mem_cons] at hsigns
  obtain ⟨hdash, ht, hcolon, hdot, hz, hnil⟩ := hsigns
  exact ⟨⟨⟨hyear, hdash, hpadded, hdash, hpadded, ht, hpadded, hcolon, hpadded⟩, hcolon, hpadded⟩,
    hdot, hpadded, hz, hnil⟩

example : String.ofList (isoChars 253402300800000) = "+010000-01-01T00:00:00.000Z" := by
  decide +kernel

end IsoInstant
