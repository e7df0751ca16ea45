/-
  File: Daftar/Accounting/Fx.lean
  Subject: The exact conversion of an amount to the base currency, and the one rounding law.

  * `rateScaled` is the rate times 10^10 (`rateScaled_of_rateOf`), `convertToBaseMinor` the
    conversion over a registry of currencies.
  * `one_rounding_law`: the conversions of the two packages, the signed rounding and the rounding
    of the cart are one function.
-/

import Daftar.Accounting.FingerprintAgreement
import Daftar.Inventory.SupplierSettlement
import Daftar.Pos.CartPricing

namespace Daftar.Accounting

open CivilDate
open Fallible
open Rounding

/-! ## 1. The conversion -/

structure CurrencyMeta where
  code : String
  minorUnits : ℤ
  deriving DecidableEq, Repr

def REGISTRY : List CurrencyMeta :=
  [⟨"ILS", 2⟩, ⟨"JOD", 3⟩, ⟨"LBP", 2⟩, ⟨"SYP", 2⟩, ⟨"TRY", 2⟩, ⟨"USD", 2⟩, ⟨"EUR", 2⟩]

inductive FxError
  | accounting (error : AccountingError)
  | unsupportedCurrency (message : String)
  deriving DecidableEq, Repr

/-- The minor units of a currency of the registry. -/
def minorUnitsOf (registry : List CurrencyMeta) (code : String) : Except FxError ℤ := do
  let currency ← someOr (registry.find? fun c => c.code = String.ofList (toUpperCase code.toList))
    (.unsupportedCurrency ("Unsupported currency: " ++ code))
  pure currency.minorUnits

/-- The rate times 10^10: the digits before and after the point, read as one number. -/
def rateScaled (fxRate : String) : Canonical ℤ := do
  let canonical ← canonicalRate fxRate
  let whole := canonical.toList.takeWhile (· != '.')
  let frac := ((canonical.toList.dropWhile (· != '.')).drop 1).takeWhile (· != '.')
  pure (Nat.ofDigitChars 10 (whole ++ frac) 0)

def pow10 (exp : ℤ) : ℤ := 10 ^ (max exp 0).toNat

/-- The quotient, one more past the half, and the even one of two at the half. -/
def halfEvenQuotient (num den : ℤ) : ℤ :=
  let q := num / den
  let r := num - q * den
  let twice := 2 * r
  if twice > den then q + 1
  else if twice < den then q
  else if q % 2 = 0 then q
  else q + 1

structure ConversionParams where
  txnAmountMinor : ℤ
  txnCurrency : String
  baseCurrency : String
  fxRate : String
  deriving DecidableEq, Repr

def convertToBaseMinor (registry : List CurrencyMeta) (params : ConversionParams) :
    Except FxError ℤ := do
  refuseIf (params.txnAmountMinor ≤ 0)
    (.accounting (payloadInvalid "transaction amount must be positive"))
  let et ← minorUnitsOf registry params.txnCurrency
  let eb ← minorUnitsOf registry params.baseCurrency
  let scaled ← (rateScaled params.fxRate).mapError .accounting
  refuseIf (scaled ≤ 0) (.accounting (payloadInvalid "fx rate must be positive"))
  let num := params.txnAmountMinor * scaled * pow10 (eb - et)
  let den := 10000000000 * pow10 (et - eb)
  pure (halfEvenQuotient num den)

/-! ## 2. The scaled rate -/

/-- A rate text that names a number has a canonical one. -/
theorem canonicalRate_of_rateOf {text : String} {r : ℚ} (h : rateOf text = some r) :
    ∃ v, canonicalRate text = .ok v := by
  obtain ⟨groups, hgroups, _⟩ := Option.map_eq_some_iff.mp h
  exact ⟨_, by rw [canonicalRate, hgroups]; rfl⟩

theorem ne_dot_of_isDigit {cs : List Char} (h : ∀ c ∈ cs, c.isDigit = true) :
    ∀ c ∈ cs, (c != '.') = true := by
  intro c hc
  rw [bne_iff_ne]
  rintro rfl
  exact absurd (h '.' hc) (by decide)

theorem takeWhile_digits {whole : List Char} (h : ∀ c ∈ whole, c.isDigit = true)
    (rest : List Char) : (whole ++ '.' :: rest).takeWhile (· != '.') = whole ∧
      (whole ++ '.' :: rest).dropWhile (· != '.') = '.' :: rest := by
  have hne := ne_dot_of_isDigit h
  constructor
  · rw [List.takeWhile_append_of_pos hne]
    simp
  · rw [List.dropWhile_append_of_pos hne]
    simp

/-- **The scaled rate** of a text is the number it names, times 10^10. -/
theorem rateScaled_of_rateOf {text : String} {rate : ℤ}
    (h : rateOf text = some ((rate : ℚ) / 10 ^ 10)) : rateScaled text = .ok rate := by
  obtain ⟨v, hv⟩ := canonicalRate_of_rateOf h
  obtain ⟨whole, frac, hgroups, hne, hwhole, hfrac, hlen, rfl⟩ := canonicalRate_eq_ok hv
  have hfrac' := isDigit_of_mem_padEnd10 hfrac
  have hlen' : (padEnd10 frac).length = 10 := by
    rw [padEnd10, List.length_append, List.length_replicate]
    omega
  have hvalue : groupsValue (dropZeros whole, padEnd10 frac) = (rate : ℚ) / 10 ^ 10 := by
    rw [groupsValue_canonical hlen]
    rw [rateOf, hgroups] at h
    exact Option.some.inj h
  have hrate : ((Nat.ofDigitChars 10 (dropZeros whole ++ padEnd10 frac) 0 : ℕ) : ℤ) = rate := by
    unfold groupsValue at hvalue
    simp only [hlen'] at hvalue
    rw [eq_div_iff (by positivity), add_mul, div_mul_cancel₀ _ (by positivity)] at hvalue
    rw [Nat.ofDigitChars_append, Nat.ofDigitChars_eq_ofDigitChars_zero, hlen', mul_comm]
    exact_mod_cast hvalue
  obtain ⟨htake, hdrop⟩ := takeWhile_digits (dropZeros_spec hne hwhole).2 (padEnd10 frac)
  have htail : (padEnd10 frac).takeWhile (· != '.') = padEnd10 frac :=
    List.takeWhile_eq_self_iff.mpr (ne_dot_of_isDigit hfrac')
  rw [rateScaled, hv]
  simp only [ok_bind, String.toList_ofList, htake, hdrop, List.drop_one, List.tail_cons, htail,
    pure_eq_ok, hrate]

/-- **The canonical text** of a rate names it. -/
theorem rateOf_rateText (rate : ℕ) :
    rateOf (String.ofList (rateText rate)) = some ((rate : ℚ) / 10 ^ 10) := by
  have hwhole : ∀ c ∈ Nat.toDigits 10 (rate / RATE_SCALE), c.isDigit = true :=
    fun c hc => Nat.isDigit_of_mem_toDigits (by omega) (by omega) hc
  have hfrac : ∀ c ∈ padded 10 (rate % RATE_SCALE), c.isDigit = true := fun c hc =>
    isDigit_of_mem_padded hc
  have hlen : (padded 10 (rate % RATE_SCALE)).length = 10 :=
    length_padded (by omega) (Nat.mod_lt _ (by decide))
  have hspace : ∀ c ∈ rateText rate, isSpace c = false := by
    intro c hc
    rcases List.mem_append.mp hc with hc | hc
    · exact isSpace_of_isDigit (hwhole c hc)
    · rcases List.mem_cons.mp hc with rfl | hc
      · rfl
      · exact isSpace_of_isDigit (hfrac c hc)
  have hne : Nat.toDigits 10 (rate / RATE_SCALE) ≠ [] :=
    List.length_pos_iff.mp (Nat.length_toDigits_pos)
  have hdiv : (rate : ℚ) = (rate / RATE_SCALE : ℕ) * 10 ^ 10 + (rate % RATE_SCALE : ℕ) := by
    have h := Nat.div_add_mod' rate RATE_SCALE
    have hscale : (RATE_SCALE : ℚ) = 10 ^ 10 := by norm_num [RATE_SCALE]
    rw [← hscale]
    exact_mod_cast h.symm
  rw [rateOf, trim_of_noSpace hspace, rateText,
    rateGroups_of_groups hne hwhole hfrac (by omega) (by omega), Option.map_some, groupsValue]
  simp only [hlen, ofDigitChars_padded, Nat.ofDigitChars_ten_toDigits]
  rw [hdiv, add_div, mul_div_cancel_right₀ _ (by positivity)]

/-- It is its own canonical text. -/
theorem canonicalRate_rateText (rate : ℕ) :
    canonicalRate (String.ofList (rateText rate)) = .ok (String.ofList (rateText rate)) := by
  have hrate := rateOf_rateText rate
  obtain ⟨v, hv⟩ := canonicalRate_of_rateOf hrate
  have hscale : (RATE_SCALE : ℚ) = 10 ^ 10 := by norm_num [RATE_SCALE]
  have htext := rateText_of_rate hv (hscale ▸ hrate)
  rw [hv, ← htext, String.ofList_toList]

/-! ## 3. One rounding -/

/-- **The quotient is nearest-even.** -/
theorem halfEvenQuotient_eq (num : ℤ) {den : ℤ} (hd : 0 < den) :
    halfEvenQuotient num den = nearestEven num den := by
  have hd' : (0 : ℚ) < den := by exact_mod_cast hd
  have hle : ((num / den : ℤ) : ℚ) ≤ (num : ℚ) / den := by
    rw [le_div_iff₀ hd']
    exact_mod_cast Int.ediv_mul_le num hd.ne'
  have hlt : (num : ℚ) / den < (num / den : ℤ) + 1 := by
    rw [div_lt_iff₀ hd']
    exact_mod_cast Int.lt_ediv_add_one_mul_self num hd
  have htwice : 2 * ((num : ℚ) / den - (num / den : ℤ)) =
      ((2 * (num - num / den * den) : ℤ) : ℚ) / den := by
    push_cast
    field_simp
  have hbump := (isNearestEven_bump hle hlt).unique (isNearestEven_nearestEven num hd)
  simp only [htwice, one_lt_div hd', div_eq_one_iff_eq hd'.ne', Int.cast_lt, Int.cast_inj,
    Int.even_iff] at hbump
  rw [← hbump]
  simp only [halfEvenQuotient]
  split_ifs <;> omega

/-- A power of ten, its exponent split by sign. -/
theorem zpow_split (z : ℤ) :
    (10 : ℚ) ^ z = (10 ^ (max 0 z).toNat : ℤ) / (10 ^ (max 0 (-z)).toNat : ℤ) := by
  rcases Int.eq_nat_or_neg z with ⟨n, rfl | rfl⟩
  · simp
  · simp

/-- **What a conversion is for**: the amount times the rate, at the scale of the base currency. -/
theorem conversion_base_isNearestEven (c : Inventory.SettlementConversion) (x : ℤ) :
    IsNearestEven ((x : ℚ) * (c.rateR10 / 10 ^ 10) * 10 ^ (c.baseExponent - c.txnExponent))
      (c.base x) := by
  have h := isNearestEven_nearestEven (x * c.num) c.den_pos
  have hvalue : ((x * c.num : ℤ) : ℚ) / (c.den : ℤ) =
      (x : ℚ) * (c.rateR10 / 10 ^ 10) * 10 ^ (c.baseExponent - c.txnExponent) := by
    rw [zpow_split, Inventory.SettlementConversion.num, Inventory.SettlementConversion.den,
      Inventory.R10, neg_sub]
    push_cast
    ring
  rwa [hvalue] at h

theorem mapError_eq_ok {α : Type} {x : Canonical α} {a : α} :
    x.mapError FxError.accounting = .ok a ↔ x = .ok a := by
  cases x <;> simp [Except.mapError]

/-- **The conversion of the accounting package** is the snapshot's. -/
theorem convertToBaseMinor_eq {registry : List CurrencyMeta} {params : ConversionParams}
    {c : Inventory.SettlementConversion} (hx : 0 < params.txnAmountMinor)
    (het : minorUnitsOf registry params.txnCurrency = .ok c.txnExponent)
    (heb : minorUnitsOf registry params.baseCurrency = .ok c.baseExponent)
    (hrate : rateOf params.fxRate = some ((c.rateR10 : ℚ) / 10 ^ 10)) (hpos : 0 < c.rateR10) :
    convertToBaseMinor registry params = .ok (c.base params.txnAmountMinor) := by
  have hnum : params.txnAmountMinor * c.rateR10 * pow10 (c.baseExponent - c.txnExponent) =
      params.txnAmountMinor * c.num := by
    rw [pow10, Inventory.SettlementConversion.num, max_comm, mul_assoc]
  have hden : 10000000000 * pow10 (c.txnExponent - c.baseExponent) = c.den := by
    rw [pow10, Inventory.SettlementConversion.den, max_comm]
    rfl
  unfold convertToBaseMinor
  rw [refuseIf_of_not (not_le.mpr hx), ok_bind, het, ok_bind, heb, ok_bind,
    mapError_eq_ok.mpr (rateScaled_of_rateOf hrate), ok_bind, refuseIf_of_not (not_le.mpr hpos),
    ok_bind]
  simp only [hnum, hden]
  rw [halfEvenQuotient_eq _ c.den_pos]
  rfl

/-- **One rounding law**: the two conversions, the signed rounding and the cart's. -/
theorem one_rounding_law :
    (∀ (registry : List CurrencyMeta) (params : ConversionParams) (rate et eb : ℤ),
      1 ≤ params.txnAmountMinor → params.txnAmountMinor ≤ 10 ^ 18 → 0 < rate →
      rateOf params.fxRate = some ((rate : ℚ) / 10 ^ 10) →
      minorUnitsOf registry params.txnCurrency = .ok et →
      minorUnitsOf registry params.baseCurrency = .ok eb →
      0 ≤ et ∧ et ≤ 4 → 0 ≤ eb ∧ eb ≤ 4 →
      ∃ base, convertToBaseMinor registry params = .ok base ∧
        Inventory.convertToBase params.txnAmountMinor rate et eb = .ok base ∧
        IsNearestEven ((params.txnAmountMinor : ℚ) * (rate / 10 ^ 10) * 10 ^ (eb - et)) base) ∧
    (∀ rate : ℕ, canonicalRate (String.ofList (rateText rate)) =
        .ok (String.ofList (rateText rate)) ∧
      rateOf (String.ofList (rateText rate)) = some ((rate : ℚ) / 10 ^ 10)) ∧
    (∀ n d : ℤ, d ≠ 0 → ∃ q, Inventory.roundHalfEven n d = .ok q ∧
      IsNearestEven ((n : ℚ) / d) q ∧ Inventory.roundHalfEven (-n) d = .ok (-q) ∧
      Inventory.roundHalfEven n (-d) = .ok (-q)) ∧
    (∀ m n d p q : ℤ, 0 < d → m ≤ n → Inventory.roundHalfEven m d = .ok p →
      Inventory.roundHalfEven n d = .ok q → p ≤ q) ∧
    (∀ (n d : ℤ) (label : String) (into : List Pos.RoundingEntry), 0 < d →
      ∃ q, Inventory.roundHalfEven n d = .ok q ∧
        Pos.halfEvenAtLineGrain n d label into = .ok (q, into ++ [⟨.line, label⟩])) := by
  refine ⟨?_, fun rate => ⟨canonicalRate_rateText rate, rateOf_rateText rate⟩, ?_, ?_, ?_⟩
  · intro registry params rate et eb hx hcap hpos hrate het heb hetb hebb
    have hbase := convertToBaseMinor_eq (c := ⟨rate, et, eb⟩) hx het heb hrate hpos
    have hinv : Inventory.convert params.txnAmountMinor ⟨rate, et, eb⟩ = .ok _ :=
      Inventory.convert_eq_ok.mpr ⟨⟨by omega, hcap⟩, ⟨hpos, hetb, hebb⟩, rfl⟩
    exact ⟨_, hbase, hinv, conversion_base_isNearestEven ⟨rate, et, eb⟩ _⟩
  · intro n d hd
    refine ⟨_, Inventory.roundHalfEven_eq_ok hd, isNearestEven_nearestEven_of_ne n hd, ?_, ?_⟩
    · rw [Inventory.roundHalfEven_eq_ok hd, nearestEven_neg]
    · rw [Inventory.roundHalfEven_eq_ok (neg_ne_zero.mpr hd), nearestEven_neg_right]
  · intro m n d p q hd hmn hp hq
    rw [Inventory.roundHalfEven_pos hd, Except.ok.injEq] at hp hq
    rw [← hp, ← hq]
    exact nearestEven_mono hd hmn
  · intro n d label into hd
    refine ⟨_, Inventory.roundHalfEven_pos hd, ?_⟩
    rw [Pos.halfEvenAtLineGrain, refuseIf_of_not (not_le.mpr hd), ok_bind, Pos.halfEven_eq hd]
    rfl

/-- A dinar amount at a rate of 1.5, in a currency of two digits. -/
theorem one_rounding_law_sample :
    ∃ base, convertToBaseMinor REGISTRY ⟨1005, "JOD", "USD", "1.5"⟩ = .ok base ∧
      Inventory.convertToBase 1005 15000000000 3 2 = .ok base ∧
      IsNearestEven (((1005 : ℤ) : ℚ) * ((15000000000 : ℤ) / 10 ^ 10) * 10 ^ (2 - 3 : ℤ)) base :=
  one_rounding_law.1 REGISTRY ⟨1005, "JOD", "USD", "1.5"⟩ 15000000000 3 2 (by norm_num)
    (by norm_num) (by norm_num) (by decide +kernel) (by decide +kernel) (by decide +kernel)
    (by norm_num) (by norm_num)

end Daftar.Accounting
