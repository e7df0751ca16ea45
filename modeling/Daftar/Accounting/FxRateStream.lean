/-
  File: Daftar/Accounting/FxRateStream.lean
  Subject: The canonical stream of a rate entry, and what it determines.

  * Every field is one line of the stream, so streams are equal line by line.
  * The line of the instant names its second for the years 0 to 9999, and its minute for any other
    year. `fxRateCanonicalStream_determines_iff`: the stream of a rate entry is that of no other
    facts exactly when its instant has such a year, or no later second of its minute is an instant.
-/

import Daftar.Accounting.Fingerprint
import Daftar.Library.Sha256

namespace Daftar.Accounting

open AsciiText
open Fallible
open Framing
open IsoInstant
open Sha256
open Inventory.Payload (CANONICAL_UUID_RE printable_of_uuid)

/-! ## 1. The stream -/

def FXRATE_VERSION : String := "fxrate/1"

/-- Every immutable fact of one rate entry. -/
structure FxRateFacts where
  tenantId : String
  businessId : String
  rateId : String
  fromCurrency : String
  toCurrency : String
  rate : String
  effectiveAt : Date
  source : String
  deriving DecidableEq

/-- The lines of the stream. -/
def FxRateFacts.lines (facts : FxRateFacts) : Canonical (List String) := do
  refuseIf (facts.source ≠ "manual") ⟨.payloadInvalid, "the only FX rate source is manual"⟩
  let source ← canonicalCurrency facts.fromCurrency
  let target ← canonicalCurrency facts.toCurrency
  refuseIf (source = target) ⟨.fxSameCurrency, "a currency has no exchange rate against itself"⟩
  let tenant ← canonicalUuid facts.tenantId
  let business ← canonicalUuid facts.businessId
  let rateId ← canonicalUuid facts.rateId
  let rate ← canonicalRate facts.rate
  let instant ← canonicalInstantSecond facts.effectiveAt
  pure [FXRATE_VERSION, tenant, business, rateId, source, target, rate, instant, facts.source]

/-- Each line closed by a line feed, in UTF-8. -/
def streamOfLines (lines : List String) : List UInt8 :=
  utf8 (String.ofList (frame '\n' (lines.map String.toList)))

def fxRateCanonicalStream (facts : FxRateFacts) : Canonical (List UInt8) :=
  streamOfLines <$> facts.lines

/-! ## 2. Lines -/

theorem streamOfLines_injective {xs ys : List String} (hx : ∀ x ∈ xs, Printable x)
    (hy : ∀ y ∈ ys, Printable y) (h : streamOfLines xs = streamOfLines ys) : xs = ys := by
  have hframe := String.ofList_injective (utf8_injective h)
  have hclean : ∀ {zs : List String}, (∀ z ∈ zs, Printable z) →
      ∀ line ∈ zs.map String.toList, '\n' ∉ line := by
    intro zs hz line hline
    obtain ⟨z, hmem, rfl⟩ := List.mem_map.mp hline
    exact (hz z hmem).notMem (by decide)
  have hlines := congrArg (unframe '\n') hframe
  rw [unframe_frame (hclean hx), unframe_frame (hclean hy)] at hlines
  exact List.map_injective_iff.mpr (fun _ _ h => String.toList_injective h) hlines

/-- The canonical values of a rate entry. -/
structure FxRateFacts.Canonicals (facts : FxRateFacts)
    (tenant business rateId source target rate instant : String) : Prop where
  tenantId : canonicalUuid facts.tenantId = .ok tenant
  businessId : canonicalUuid facts.businessId = .ok business
  rateId : canonicalUuid facts.rateId = .ok rateId
  fromCurrency : canonicalCurrency facts.fromCurrency = .ok source
  toCurrency : canonicalCurrency facts.toCurrency = .ok target
  different : source ≠ target
  rate : canonicalRate facts.rate = .ok rate
  effectiveAt : canonicalInstantSecond facts.effectiveAt = .ok instant
  source : facts.source = "manual"

theorem FxRateFacts.lines_eq_ok {facts : FxRateFacts} {ls : List String} :
    facts.lines = .ok ls ↔ ∃ tenant business rateId source target rate instant,
      facts.Canonicals tenant business rateId source target rate instant ∧
      ls = [FXRATE_VERSION, tenant, business, rateId, source, target, rate, instant, "manual"] := by
  simp only [FxRateFacts.lines, bind_eq_ok, refuseIf_eq_ok, exists_const, pure_eq_ok, not_not]
  constructor
  · intro h
    obtain ⟨hsource, source, hfrom, target, hto, hne, tenant, ht, business, hb, rateId, hid, rate,
      hrate, instant, hinstant, rfl⟩ := h
    rw [hsource]
    exact ⟨_, _, _, _, _, _, _, ⟨ht, hb, hid, hfrom, hto, hne, hrate, hinstant, hsource⟩, rfl⟩
  · intro h
    obtain ⟨tenant, business, rateId, source, target, rate, instant, hc, rfl⟩ := h
    exact ⟨hc.source, _, hc.fromCurrency, _, hc.toCurrency, hc.different, _, hc.tenantId, _,
      hc.businessId, _, hc.rateId, _, hc.rate, _, hc.effectiveAt, by rw [hc.source]⟩

theorem FxRateFacts.Canonicals.printable {facts : FxRateFacts}
    {tenant business rateId source target rate instant : String}
    (h : facts.Canonicals tenant business rateId source target rate instant) :
    ∀ line ∈ [FXRATE_VERSION, tenant, business, rateId, source, target, rate, instant, "manual"],
      Printable line := by
  have hversion : Printable FXRATE_VERSION := by
    decide
  have hmanual : Printable "manual" := by
    decide
  simp only [List.forall_mem_cons]
  exact ⟨hversion, printable_of_uuid (canonicalUuid_eq_ok h.tenantId),
    printable_of_uuid (canonicalUuid_eq_ok h.businessId),
    printable_of_uuid (canonicalUuid_eq_ok h.rateId),
    printable_of_currency (canonicalCurrency_eq_ok h.fromCurrency),
    printable_of_currency (canonicalCurrency_eq_ok h.toCurrency), printable_canonicalRate h.rate,
    printable_canonicalInstantSecond h.effectiveAt, hmanual, fun _ h => absurd h List.not_mem_nil⟩

/-- The facts agree in all but their instants, which have one canonical text. -/
structure SameLines (a b : FxRateFacts) : Prop where
  tenantId : canonicalUuid a.tenantId = canonicalUuid b.tenantId
  businessId : canonicalUuid a.businessId = canonicalUuid b.businessId
  rateId : canonicalUuid a.rateId = canonicalUuid b.rateId
  fromCurrency : canonicalCurrency a.fromCurrency = canonicalCurrency b.fromCurrency
  toCurrency : canonicalCurrency a.toCurrency = canonicalCurrency b.toCurrency
  rate : canonicalRate a.rate = canonicalRate b.rate
  effectiveAt : canonicalInstantSecond a.effectiveAt = canonicalInstantSecond b.effectiveAt
  source : a.source = b.source

/-- **One stream, one canonical value in every field.** -/
theorem sameLines_of_stream {a b : FxRateFacts} {stream : List UInt8}
    (ha : fxRateCanonicalStream a = .ok stream) (hb : fxRateCanonicalStream b = .ok stream) :
    SameLines a b := by
  obtain ⟨as, has, hstream⟩ := map_eq_ok.mp ha
  obtain ⟨bs, hbs, rfl⟩ := map_eq_ok.mp hb
  obtain ⟨_, _, _, _, _, _, _, hca, rfl⟩ := FxRateFacts.lines_eq_ok.mp has
  obtain ⟨_, _, _, _, _, _, _, hcb, rfl⟩ := FxRateFacts.lines_eq_ok.mp hbs
  have hlines := streamOfLines_injective hca.printable hcb.printable hstream
  simp only [List.cons.injEq, and_true, true_and] at hlines
  obtain ⟨rfl, rfl, rfl, rfl, rfl, rfl, rfl⟩ := hlines
  exact ⟨hca.tenantId.trans hcb.tenantId.symm, hca.businessId.trans hcb.businessId.symm,
    hca.rateId.trans hcb.rateId.symm, hca.fromCurrency.trans hcb.fromCurrency.symm,
    hca.toCurrency.trans hcb.toCurrency.symm, hca.rate.trans hcb.rate.symm,
    hca.effectiveAt.trans hcb.effectiveAt.symm, hca.source.trans hcb.source.symm⟩

theorem stream_of_sameLines {a b : FxRateFacts} {stream : List UInt8}
    (ha : fxRateCanonicalStream a = .ok stream) (h : SameLines a b) :
    fxRateCanonicalStream b = .ok stream := by
  obtain ⟨as, has, rfl⟩ := map_eq_ok.mp ha
  obtain ⟨_, _, _, _, _, _, _, hc, rfl⟩ := FxRateFacts.lines_eq_ok.mp has
  refine map_eq_ok.mpr ⟨_, FxRateFacts.lines_eq_ok.mpr ⟨_, _, _, _, _, _, _, ?_, rfl⟩, rfl⟩
  exact ⟨h.tenantId ▸ hc.tenantId, h.businessId ▸ hc.businessId, h.rateId ▸ hc.rateId,
    h.fromCurrency ▸ hc.fromCurrency, h.toCurrency ▸ hc.toCurrency, hc.different, h.rate ▸ hc.rate,
    h.effectiveAt ▸ hc.effectiveAt, h.source ▸ hc.source⟩

/-! ## 3. What the stream determines -/

/-- The same tenant, business, rate and currencies, the same number for the rate, and the same
    instant to the second. -/
structure SameRateFacts (a b : FxRateFacts) : Prop where
  tenantId : canonicalUuid a.tenantId = canonicalUuid b.tenantId
  businessId : canonicalUuid a.businessId = canonicalUuid b.businessId
  rateId : canonicalUuid a.rateId = canonicalUuid b.rateId
  fromCurrency : canonicalCurrency a.fromCurrency = canonicalCurrency b.fromCurrency
  toCurrency : canonicalCurrency a.toCurrency = canonicalCurrency b.toCurrency
  rate : rateOf a.rate = rateOf b.rate
  second : a.effectiveAt.map (·.ms / 1000) = b.effectiveAt.map (·.ms / 1000)

theorem rateOf_eq_of_canonicalRate {x y v : String} (hx : canonicalRate x = .ok v)
    (hy : canonicalRate y = .ok v) : rateOf x = rateOf y :=
  (rateOf_canonicalRate hx).1.symm.trans (rateOf_canonicalRate hy).1

/-- One canonical text of two instants: one second, or one minute of years without one. -/
theorem canonicalInstantSecond_eq {s t : TimeValue} {v : String}
    (hs : canonicalInstantSecond (some s) = .ok v) (ht : canonicalInstantSecond (some t) = .ok v) :
    (HasShortYear s.ms ∧ s.ms / 1000 = t.ms / 1000) ∨
      (¬ HasShortYear s.ms ∧ s.ms / 60000 = t.ms / 60000) := by
  obtain ⟨_, hs', -, rfl⟩ := canonicalInstantSecond_eq_ok.mp hs
  obtain ⟨_, ht', -, heq⟩ := canonicalInstantSecond_eq_ok.mp ht
  cases hs'
  cases ht'
  have htake := List.append_cancel_right (String.ofList_injective heq)
  by_cases hys : HasShortYear s.ms <;> by_cases hyt : HasShortYear t.ms
  · rw [take_isoChars_of_year hys, take_isoChars_of_year hyt] at htake
    exact .inl ⟨hys, second_of_secondChars hys hyt htake⟩
  · exact absurd htake (take_isoChars_ne hys hyt (by decide))
  · exact absurd htake.symm (take_isoChars_ne hyt hys (by decide))
  · rw [take_isoChars_of_not_year hys, take_isoChars_of_not_year hyt] at htake
    refine .inr ⟨hys, minute_of_minuteChars ?_ htake⟩
    rw [length_yearChars_of_not_year hys, length_yearChars_of_not_year hyt]

/-- Another second of the minute, unless the minute's first one is the last instant there is. -/
theorem exists_other_second {t : TimeValue} (hsec : t.ms % 1000 = 0) (ht : t.ms ≠ MAX_TIME) :
    ∃ s : TimeValue, s.ms % 1000 = 0 ∧ s.ms / 60000 = t.ms / 60000 ∧ s.ms / 1000 ≠ t.ms / 1000 := by
  obtain ⟨ms, h1, h2⟩ := t
  unfold MAX_TIME at *
  simp only at hsec ht ⊢
  by_cases hfirst : ms % 60000 = 0
  · exact ⟨⟨ms + 1000, by unfold MAX_TIME; omega⟩, by simp only; omega, by simp only; omega,
      by simp only; omega⟩
  · exact ⟨⟨ms - ms % 60000, by unfold MAX_TIME; omega⟩, by simp only; omega, by simp only; omega,
      by simp only; omega⟩

/-- **The stream of a rate entry determines its facts** exactly when its instant is in the years
    0 to 9999, or is the last instant there is. -/
theorem fxRateCanonicalStream_determines_iff {a : FxRateFacts} {t : TimeValue}
    {stream : List UInt8} (ha : fxRateCanonicalStream a = .ok stream)
    (ht : a.effectiveAt = some t) :
    (∀ b, fxRateCanonicalStream b = .ok stream → SameRateFacts a b) ↔
      HasShortYear t.ms ∨ t.ms = MAX_TIME := by
  obtain ⟨as, has, hstream⟩ := map_eq_ok.mp ha
  obtain ⟨_, _, _, _, _, _, v, hc, -⟩ := FxRateFacts.lines_eq_ok.mp has
  have hv := hc.effectiveAt
  obtain ⟨_, ht', hsec, hveq⟩ := canonicalInstantSecond_eq_ok.mp hv
  obtain rfl := Option.some.inj (ht.symm.trans ht')
  constructor
  · intro hall
    by_contra hnot
    obtain ⟨hyear, hmax⟩ := not_or.mp hnot
    obtain ⟨s, hs, hmin, hne⟩ := exists_other_second hsec hmax
    have hsyear : ¬ HasShortYear s.ms := (hasShortYear_of_minute hmin).not.mpr hyear
    have hsame : SameLines a { a with effectiveAt := some s } := by
      refine ⟨rfl, rfl, rfl, rfl, rfl, rfl, hv.trans ?_, rfl⟩
      refine (canonicalInstantSecond_eq_ok.mpr ⟨s, rfl, hs, ?_⟩).symm
      rw [hveq, take_isoChars_of_not_year hyear, take_isoChars_of_not_year hsyear,
        minuteChars_of_minute hmin]
    have hsecond := (hall _ (stream_of_sameLines ha hsame)).second
    rw [ht] at hsecond
    exact hne (Option.some.inj hsecond).symm
  · intro hcond b hb
    have hsame := sameLines_of_stream ha hb
    refine ⟨hsame.tenantId, hsame.businessId, hsame.rateId, hsame.fromCurrency, hsame.toCurrency,
      rateOf_eq_of_canonicalRate hc.rate (hsame.rate ▸ hc.rate), ?_⟩
    have hvb : canonicalInstantSecond b.effectiveAt = .ok v := hsame.effectiveAt ▸ hv
    obtain ⟨s, hbs, hs, -⟩ := canonicalInstantSecond_eq_ok.mp hvb
    rw [hbs] at hvb
    rw [ht] at hv
    rw [ht, hbs]
    refine congrArg some ?_
    show t.ms / 1000 = s.ms / 1000
    rcases canonicalInstantSecond_eq hv hvb with ⟨-, heq⟩ | ⟨hyear, hmin⟩
    · exact heq
    · -- The last instant is the first second of its minute, and no later one is an instant.
      have hmax := hcond.resolve_left hyear
      have hrange := s.range
      unfold MAX_TIME at hmax hrange
      omega

def sampleUuidText : String := "00000000-0000-4000-8000-000000000001"

def sampleRate (instant : TimeValue) : FxRateFacts :=
  { tenantId := sampleUuidText, businessId := sampleUuidText, rateId := sampleUuidText,
    fromCurrency := "usd", toCurrency := "ILS", rate := "03.5", effectiveAt := some instant,
    source := "manual" }

/-- 2024-08-22T00:00:00Z. -/
def sampleInstant : TimeValue := ⟨1724284800000, by decide⟩

theorem fxRateCanonicalStream_determines_iff_sample :
    (∀ b, fxRateCanonicalStream b = fxRateCanonicalStream (sampleRate sampleInstant) →
      SameRateFacts (sampleRate sampleInstant) b) ↔
    HasShortYear sampleInstant.ms ∨ sampleInstant.ms = MAX_TIME := by
  have hstream : fxRateCanonicalStream (sampleRate sampleInstant) = .ok (utf8 ("fxrate/1\n" ++
      sampleUuidText ++ "\n" ++ sampleUuidText ++ "\n" ++ sampleUuidText ++
      "\nUSD\nILS\n3.5000000000\n2024-08-22T00:00:00Z\nmanual\n")) := by decide +kernel
  have hinstant : (sampleRate sampleInstant).effectiveAt = some sampleInstant := rfl
  have hiff := fxRateCanonicalStream_determines_iff hstream hinstant
  rwa [← hstream] at hiff

/-- The first two seconds of the year 10000. -/
def sampleLateInstant : TimeValue := ⟨253402300800000, by decide⟩

def sampleLaterInstant : TimeValue := ⟨253402300801000, by decide⟩

/-- **Two instants of the year 10000 have one stream.** -/
theorem not_fxRateCanonicalStream_injective :
    ¬ ∀ a b stream, fxRateCanonicalStream a = .ok stream → fxRateCanonicalStream b = .ok stream →
      SameRateFacts a b := by
  intro h
  have hstream : ∀ t, t = sampleLateInstant ∨ t = sampleLaterInstant →
      fxRateCanonicalStream (sampleRate t) = .ok (utf8 ("fxrate/1\n" ++
        sampleUuidText ++ "\n" ++ sampleUuidText ++ "\n" ++ sampleUuidText ++
        "\nUSD\nILS\n3.5000000000\n+010000-01-01T00:00Z\nmanual\n")) := by
    intro t ht
    rcases ht with rfl | rfl <;> decide +kernel
  have hsame := (h _ _ _ (hstream _ (.inl rfl)) (hstream _ (.inr rfl))).second
  exact absurd hsame (by decide)

end Daftar.Accounting
