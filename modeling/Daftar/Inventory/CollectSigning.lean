/-
  File: Daftar/Inventory/CollectSigning.lean
  Subject: When the figures of a planned payment can be signed.

  * `PaymentToBind` is a request with what was read for it; its plan's figures are its payload.
  * `intentHeader_fits`, `payloadHeader_fits`: what the field specs ask of an intent and of a payload.
  * `customerCollectPaymentPayload_iff`: what a payload asks beyond its accepted intent.
  * `customerCollectPaymentPayload_accepts_iff`: of a request whose intent and plan are accepted,
    the payload is accepted exactly when the rate, the whole base and every dust fit a BIGINT.
-/

import Daftar.Inventory.CollectPayment

namespace Daftar.Inventory.Customer

open Accounting (isUpperAlpha upperChars toUpperCase CURRENCY_RE)
open AsciiText
open Fallible
open Payload
open Rounding

/-! ## 1. Binding a payment -/

/-- One allocation with the invoice it settles as read. -/
structure AllocationToBind where
  allocationId : String
  invoiceId : String
  invoiceCurrency : String
  invoice : InvoiceArState
  paymentAmountMinor : ℤ
  appliedMinor : ℤ
  deriving DecidableEq, Repr

/-- A request with the posting account, the snapshot and the invoices read for it. -/
structure PaymentToBind extends CollectPaymentHeader where
  postingAccountId : String
  rate : ReceivableRateFields
  currencyExponent : ℤ
  baseExponent : ℤ
  allocations : List AllocationToBind
  deriving DecidableEq, Repr

namespace PaymentToBind

variable (i : PaymentToBind)

/-- The request, before any state is read. -/
def intent : CollectPaymentIntentInput :=
  ⟨i.toCollectPaymentHeader, i.allocations.map fun a =>
    ⟨a.allocationId, a.invoiceId, a.paymentAmountMinor, a.appliedMinor⟩⟩

def planInput : CustomerPaymentInput :=
  { amountMinor := i.amountMinor
    payment := ⟨i.rate.rateR10, i.currencyExponent, i.baseExponent⟩
    legs := i.allocations.map fun a =>
      ⟨a.invoice, a.invoiceCurrency = i.currency, a.paymentAmountMinor, a.appliedMinor⟩ }

/-- An allocation with the figures planned for it. -/
def boundAllocation (a : AllocationToBind) (p : CustomerPaymentAllocationPlan) :
    CollectPaymentPayloadAllocation :=
  { allocationId := a.allocationId, invoiceId := a.invoiceId
    paymentAmountMinor := p.paymentAmountMinor, appliedMinor := p.invoiceAmountAppliedMinor
    invoiceCurrency := a.invoiceCurrency, paymentBaseMinor := p.paymentBaseMinor
    arReleasedBeforeMinor := p.arReleasedBeforeMinor
    carryingReleasedMinor := p.invoiceCarryingReleasedMinor
    arDustBaseMinor := p.arDustBaseMinor, realizedFxMinor := p.realizedFxMinor }

/-- The payload a plan is signed in. -/
def payload (plan : CustomerPaymentPlan) : CollectPaymentPayloadInput :=
  { toCollectPaymentHeader := i.toCollectPaymentHeader
    postingAccountId := i.postingAccountId, rate := i.rate
    baseAmountMinor := plan.baseAmountMinor
    credit := plan.credit.map fun c => ⟨c.originalAmountMinor, c.originalCarryingBaseMinor⟩
    allocations := List.zipWith boundAllocation i.allocations plan.allocations }

/-- The seconds of the largest instant a `Date` holds. -/
def DATE_LIMIT_SECONDS : ℤ := 8640000000000

/-- Identifiers are canonical, currencies three upper-case letters; the rate is coherent, and its
    instant is one a `Date` holds. -/
structure WellFormed : Prop where
  posting : CANONICAL_UUID_RE i.postingAccountId = true
  currency : CURRENCY_RE i.currency.toList = true
  invoices : ∀ a ∈ i.allocations, CURRENCY_RE a.invoiceCurrency.toList = true
  coherent : ¬ i.rate.Incoherent
  rate_id : ∀ v ∈ i.rate.rateId, CANONICAL_UUID_RE v = true
  instant : -DATE_LIMIT_SECONDS ≤ i.rate.rateAtEpochSeconds ∧
    i.rate.rateAtEpochSeconds ≤ DATE_LIMIT_SECONDS

instance : Decidable i.WellFormed :=
  decidable_of_iff (CANONICAL_UUID_RE i.postingAccountId = true ∧
    CURRENCY_RE i.currency.toList = true ∧
    (∀ a ∈ i.allocations, CURRENCY_RE a.invoiceCurrency.toList = true) ∧ ¬ i.rate.Incoherent ∧
    (∀ v ∈ i.rate.rateId, CANONICAL_UUID_RE v = true) ∧
    (-DATE_LIMIT_SECONDS ≤ i.rate.rateAtEpochSeconds ∧
      i.rate.rateAtEpochSeconds ≤ DATE_LIMIT_SECONDS))
    ⟨fun ⟨a, b, c, d, e, f⟩ => ⟨a, b, c, d, e, f⟩, fun h => ⟨h.1, h.2, h.3, h.4, h.5, h.6⟩⟩

end PaymentToBind

/-! ## 2. Currency codes -/

theorem currency_chars {cs : List Char} (h : CURRENCY_RE cs = true) :
    ∃ a b c, cs = [a, b, c] ∧ isUpperAlpha a = true ∧ isUpperAlpha b = true ∧
      isUpperAlpha c = true := by
  unfold CURRENCY_RE at h
  simp only [List.replicate_succ, List.replicate_zero, matchesEach_cons, matchesEach_nil] at h
  obtain ⟨a, _, rfl, ha, b, _, rfl, hb, c, _, rfl, hc, rfl⟩ := h
  exact ⟨a, b, c, rfl, ha, hb, hc⟩

/-- The upper-case letters, one by one. -/
theorem upperAlpha_cases {P : Char → Prop} (hP : ∀ k < 26, P (Char.ofNat (65 + k))) {c : Char}
    (h : isUpperAlpha c = true) : P c := by
  simp only [isUpperAlpha, Bool.and_eq_true, decide_eq_true_eq, Char.le_def,
    UInt32.le_iff_toNat_le] at h
  have h' : 65 ≤ c.toNat ∧ c.toNat ≤ 90 := h
  have hc := hP (c.toNat - 65) (by omega)
  rwa [show 65 + (c.toNat - 65) = c.toNat by omega, Char.ofNat_toNat] at hc

theorem isLowerAlpha_lowerChar {c : Char} (h : isUpperAlpha c = true) :
    isLowerAlpha (lowerChar c) = true := by
  refine upperAlpha_cases (P := fun c => isLowerAlpha (lowerChar c) = true) ?_ h
  decide

theorem upperChars_of_upper {c : Char} (h : isUpperAlpha c = true) : upperChars c = [c] := by
  refine upperAlpha_cases (P := fun c => upperChars c = [c]) ?_ h
  decide

theorem toUpperCase_of_currency {cs : List Char} (h : CURRENCY_RE cs = true) :
    toUpperCase cs = cs := by
  obtain ⟨a, b, c, rfl, ha, hb, hc⟩ := currency_chars h
  simp only [toUpperCase, List.flatMap_cons, List.flatMap_nil, upperChars_of_upper ha,
    upperChars_of_upper hb, upperChars_of_upper hc]
  rfl

/-- A currency is a registry code in lower case. -/
theorem currency_code {s : String} (h : CURRENCY_RE s.toList = true) :
    REGISTRY_CODE_RE (String.ofList (s.toList.map lowerChar)) = true := by
  obtain ⟨a, b, c, hs, ha, hb, hc⟩ := currency_chars h
  simp only [hs, REGISTRY_CODE_RE, String.toList_ofList, List.map_cons, List.map_nil,
    List.all_cons, List.all_nil, isCodeChar, isLowerAlpha_lowerChar ha, isLowerAlpha_lowerChar hb,
    isLowerAlpha_lowerChar hc, Bool.true_or, Bool.and_true, List.length_cons, List.length_nil]
  rfl

/-! ## 3. What the field specs ask -/

theorem fieldFits_uuid {name : String} {v : String} :
    FieldFits (spec name .uuid) (.uuid v) ↔ CANONICAL_UUID_RE v = true := and_iff_right rfl

theorem fieldFits_integer {name : String} {v : ℤ} :
    FieldFits (spec name .integer) (int v) ↔ FitsInt8 v := and_iff_right rfl

theorem fieldFits_code {name : String} {v : String} :
    FieldFits (spec name .code) (.code v) ↔ REGISTRY_CODE_RE v = true := and_iff_right rfl

theorem fieldFits_idField {name : String} {v : Option String} :
    FieldFits (specNullable name .uuid) (idField v) ↔ ∀ u ∈ v, CANONICAL_UUID_RE u = true := by
  cases v with
  | none => simp [FieldFits, idField, specNullable]
  | some u => simp [FieldFits, idField, specNullable]

theorem fieldFits_nullableInt {name : String} {v : Option ℤ} :
    FieldFits (specNullable name .integer) (nullableInt v) ↔ ∀ n ∈ v, FitsInt8 n := by
  cases v with
  | none => simp [FieldFits, nullableInt, specNullable]
  | some n => simp [FieldFits, nullableInt, specNullable, int, JsInteger.Fits]

theorem fieldFits_source {name : String} {v : RateSource} :
    FieldFits (spec name .code) (.code v.text) := by
  rw [fieldFits_code]
  cases v <;> decide

/-- The specs of the eight words of the reference, and the words written under them. -/
def ReferenceFits (words : List (Option ℤ)) : Prop :=
  List.Forall₂ FieldFits (textWordSpecs "reference" true) (words.map wordField)

def CurrencyFits (currency : String) : Prop :=
  REGISTRY_CODE_RE (String.ofList (currency.toList.map lowerChar)) = true

theorem fieldFits_currency {name currency : String} :
    FieldFits (spec name .code) (code currency) ↔ CurrencyFits currency := fieldFits_code

def intentHeader : List InventoryPayloadFieldSpec :=
  [spec "payment_id" .uuid, spec "customer_id" .uuid, spec "payment_method_id" .uuid,
    spec "payment_date" .integer, spec "currency" .code, spec "amount" .integer] ++
    textWordSpecs "reference" true ++
    [specNullable "credit_id" .uuid, specNullable "credit_amount" .integer,
      spec "allocation_count" .integer]

def intentGroup : List InventoryPayloadFieldSpec :=
  [spec "allocation_id" .uuid, spec "invoice_id" .uuid, spec "payment_amount" .integer,
    spec "applied" .integer]

def payloadHeader : List InventoryPayloadFieldSpec :=
  [spec "payment_id" .uuid, spec "customer_id" .uuid, spec "payment_method_id" .uuid,
    spec "posting_account_id" .uuid, spec "payment_date" .integer, spec "currency" .code,
    spec "amount" .integer, specNullable "rate_id" .uuid, spec "rate" .integer,
    spec "rate_source" .code, spec "rate_at" .integer, spec "base_amount" .integer] ++
    textWordSpecs "reference" true ++
    [specNullable "credit_id" .uuid, specNullable "credit_amount" .integer,
      specNullable "credit_carrying_base" .integer, spec "allocation_count" .integer]

def payloadGroup : List InventoryPayloadFieldSpec :=
  [spec "allocation_id" .uuid, spec "invoice_id" .uuid, spec "invoice_currency" .code,
    spec "payment_amount" .integer, spec "payment_base" .integer, spec "applied" .integer,
    spec "ar_released_before" .integer, spec "carrying_released" .integer,
    spec "ar_dust" .integer, spec "realized" .integer]

/-- The two schemas of a payment. -/
theorem payloadSchema_collect : INVENTORY_PAYLOAD_SCHEMAS .customerCollectPayment =
    withGroup payloadHeader "allocation_count" payloadGroup := rfl

theorem intentSchema_collect : inventoryIntentSchema .customerCollectPayment =
    withGroup intentHeader "allocation_count" intentGroup := by
  have hheader : payloadHeader.filter (keep .customerCollectPayment) = intentHeader := by
    rfl
  have hgroup : payloadGroup.filter (keep .customerCollectPayment) = intentGroup := by
    rfl
  have hcount : (intentHeader.any fun s => s.name == "allocation_count") = true := by
    rfl
  rw [inventoryIntentSchema_withGroup payloadSchema_collect (by rwa [hheader]), hheader, hgroup]

/-- What the specs ask of a payload beyond its intent. -/
structure CollectPaymentPayloadInput.FiguresFit (input : CollectPaymentPayloadInput) : Prop where
  rate : FitsInt8 input.rate.rateR10
  instant : FitsInt8 input.rate.rateAtEpochSeconds
  base : FitsInt8 input.baseAmountMinor
  credit : ∀ c ∈ input.credit,
    FitsInt8 c.originalAmountMinor ∧ FitsInt8 c.originalCarryingBaseMinor
  allocations : ∀ a ∈ input.allocations, CurrencyFits a.invoiceCurrency ∧
    FitsInt8 a.paymentBaseMinor ∧ FitsInt8 a.arReleasedBeforeMinor ∧
    FitsInt8 a.carryingReleasedMinor ∧ FitsInt8 a.arDustBaseMinor ∧ FitsInt8 a.realizedFxMinor

theorem intentGroup_fits {a : CollectPaymentIntentAllocation} :
    List.Forall₂ FieldFits intentGroup a.fields ↔
      a.Canonical ∧ FitsInt8 a.paymentAmountMinor ∧ FitsInt8 a.appliedMinor := by
  simp only [intentGroup, CollectPaymentIntentAllocation.fields, List.forall₂_cons,
    List.forall₂_nil_left_iff, fieldFits_uuid, fieldFits_integer, and_true,
    CollectPaymentIntentAllocation.Canonical, and_assoc]

theorem payloadGroup_fits {a : CollectPaymentPayloadAllocation} :
    List.Forall₂ FieldFits payloadGroup a.payloadFields ↔
      a.toCollectPaymentIntentAllocation.Canonical ∧ CurrencyFits a.invoiceCurrency ∧
        FitsInt8 a.paymentAmountMinor ∧ FitsInt8 a.paymentBaseMinor ∧ FitsInt8 a.appliedMinor ∧
        FitsInt8 a.arReleasedBeforeMinor ∧ FitsInt8 a.carryingReleasedMinor ∧
        FitsInt8 a.arDustBaseMinor ∧ FitsInt8 a.realizedFxMinor := by
  simp only [payloadGroup, CollectPaymentPayloadAllocation.payloadFields, List.forall₂_cons,
    List.forall₂_nil_left_iff, fieldFits_uuid, fieldFits_integer, fieldFits_currency, and_true,
    CollectPaymentIntentAllocation.Canonical, and_assoc]

theorem intentHeader_fits {input : CollectPaymentIntentInput} {date : ℤ}
    {words : List (Option ℤ)} (hw : words.length = 8) :
    List.Forall₂ FieldFits intentHeader (input.headerFields date words) ↔
      input.toCollectPaymentHeader.Canonical ∧ FitsInt8 date ∧ CurrencyFits input.currency ∧
        FitsInt8 input.amountMinor ∧ ReferenceFits words ∧
        (∀ n ∈ surplusMinor input, FitsInt8 n) ∧ FitsInt8 input.allocations.length := by
  have hwords : (textWordSpecs "reference" true).length = (words.map wordField).length := by
    rw [List.length_map, hw]
    rfl
  rw [intentHeader, CollectPaymentIntentInput.headerFields,
    forall₂_append_iff (by rw [List.length_append, List.length_append, hwords]; rfl),
    forall₂_append_iff (by rfl)]
  simp only [List.forall₂_cons, List.forall₂_nil_left_iff, fieldFits_uuid, fieldFits_integer,
    fieldFits_currency, fieldFits_idField, fieldFits_nullableInt, and_true]
  constructor
  · intro h
    obtain ⟨⟨⟨hp, hc, hm, hd, hcur, ha⟩, hr⟩, hcr, hs, hn⟩ := h
    exact ⟨⟨hp, hc, hm, hcr⟩, hd, hcur, ha, hr, hs, hn⟩
  · intro h
    obtain ⟨⟨hp, hc, hm, hcr⟩, hd, hcur, ha, hr, hs, hn⟩ := h
    exact ⟨⟨⟨hp, hc, hm, hd, hcur, ha⟩, hr⟩, hcr, hs, hn⟩

theorem payloadHeader_fits {input : CollectPaymentPayloadInput} {date : ℤ}
    {words : List (Option ℤ)} (hw : words.length = 8) :
    List.Forall₂ FieldFits payloadHeader (input.headerFields date words) ↔
      input.toCollectPaymentHeader.Canonical ∧ CANONICAL_UUID_RE input.postingAccountId = true ∧
        FitsInt8 date ∧ CurrencyFits input.currency ∧ FitsInt8 input.amountMinor ∧
        (∀ v ∈ input.rate.rateId, CANONICAL_UUID_RE v = true) ∧ FitsInt8 input.rate.rateR10 ∧
        FitsInt8 input.rate.rateAtEpochSeconds ∧ FitsInt8 input.baseAmountMinor ∧
        ReferenceFits words ∧
        (∀ n ∈ input.credit.map (·.originalAmountMinor), FitsInt8 n) ∧
        (∀ n ∈ input.credit.map (·.originalCarryingBaseMinor), FitsInt8 n) ∧
        FitsInt8 input.allocations.length := by
  have hwords : (textWordSpecs "reference" true).length = (words.map wordField).length := by
    rw [List.length_map, hw]
    rfl
  have hsource : FieldFits (spec "rate_source" .code) (.code input.rate.source.text) :=
    fieldFits_source
  rw [payloadHeader, CollectPaymentPayloadInput.headerFields,
    forall₂_append_iff (by simp only [List.length_append, hwords]; rfl),
    forall₂_append_iff (by rfl)]
  simp only [ReceivableRateFields.fields, List.cons_append, List.nil_append, List.forall₂_cons,
    List.forall₂_nil_left_iff, fieldFits_uuid, fieldFits_integer, fieldFits_currency,
    fieldFits_idField, fieldFits_nullableInt, hsource, and_true, true_and]
  constructor
  · intro h
    obtain ⟨⟨⟨hp, hc, hm, hpost, hd, hcur, ha, hid, hr10, hat, hb⟩, hr⟩, hcr, hoa, hob, hn⟩ := h
    exact ⟨⟨hp, hc, hm, hcr⟩, hpost, hd, hcur, ha, hid, hr10, hat, hb, hr, hoa, hob, hn⟩
  · intro h
    obtain ⟨⟨hp, hc, hm, hcr⟩, hpost, hd, hcur, ha, hid, hr10, hat, hb, hr, hoa, hob, hn⟩ := h
    exact ⟨⟨⟨hp, hc, hm, hpost, hd, hcur, ha, hid, hr10, hat, hb⟩, hr⟩, hcr, hoa, hob, hn⟩

/-! ## 4. Accepted requests -/

theorem countAt_length {fields : List InventoryPayloadField} {k n : ℕ}
    (hn : n ≤ CUSTOMER_PAYMENT_MAX_ALLOCATIONS) (h : fields[k]? = some (int n)) :
    CountAt fields k n := by
  refine ⟨.bigint n, h, ?_, rfl⟩
  unfold CUSTOMER_PAYMENT_MAX_ALLOCATIONS at hn
  show INT8_MIN ≤ (n : ℤ) ∧ (n : ℤ) ≤ INT8_MAX
  unfold INT8_MIN INT8_MAX
  omega

theorem intent_count {input : CollectPaymentIntentInput} {date : ℤ} {words : List (Option ℤ)}
    (hl : input.allocations.length ≤ CUSTOMER_PAYMENT_MAX_ALLOCATIONS) (hw : words.length = 8) :
    CountAt (input.headerFields date words) (countIndex intentHeader "allocation_count")
      (input.allocations.map (·.fields)).length := by
  have hindex : countIndex intentHeader "allocation_count" = 16 := by
    rfl
  rw [List.length_map]
  refine countAt_length hl ?_
  rw [hindex, CollectPaymentIntentInput.headerFields, List.getElem?_append_right (by simp [hw])]
  simp [hw]

theorem payload_count {input : CollectPaymentPayloadInput} {date : ℤ} {words : List (Option ℤ)}
    (hl : input.allocations.length ≤ CUSTOMER_PAYMENT_MAX_ALLOCATIONS) (hw : words.length = 8) :
    CountAt (input.headerFields date words) (countIndex payloadHeader "allocation_count")
      (input.allocations.map (·.payloadFields)).length := by
  have hindex : countIndex payloadHeader "allocation_count" = 23 := by
    rfl
  rw [List.length_map]
  refine countAt_length hl ?_
  rw [hindex, CollectPaymentPayloadInput.headerFields,
    List.getElem?_append_right (by simp [hw, ReceivableRateFields.fields])]
  simp [hw, ReceivableRateFields.fields]

/-- The intent's stream is accepted exactly when its parts are. -/
theorem intent_stream_iff {input : CollectPaymentIntentInput} {date : ℤ} {words : List (Option ℤ)}
    (hl : input.allocations.length ≤ CUSTOMER_PAYMENT_MAX_ALLOCATIONS) (hw : words.length = 8) :
    (∃ sha, inventoryIntentSha256 .customerCollectPayment input.tenantId input.businessId
        (input.headerFields date words ++ (input.allocations.map (·.fields)).flatten) = .ok sha) ↔
      CANONICAL_UUID_RE input.tenantId = true ∧ CANONICAL_UUID_RE input.businessId = true ∧
        List.Forall₂ FieldFits intentHeader (input.headerFields date words) ∧
        ∀ a ∈ input.allocations, List.Forall₂ FieldFits intentGroup a.fields := by
  have hlines := @canonicalStream_lines .customerCollectPayment input.tenantId input.businessId
    intentHeader intentGroup "allocation_count" (input.headerFields date words)
    (input.allocations.map (·.fields)) rfl (by decide)
    (by simp [CollectPaymentIntentInput.headerFields, intentHeader, textWordSpecs, hw])
    (by simp [CollectPaymentIntentAllocation.fields, intentGroup]) (intent_count hl hw)
  rw [List.forall_mem_map, ← intentSchema_collect] at hlines
  rw [← hlines]
  simp only [inventoryIntentSha256, bind_eq_ok, pure_eq_ok, canonicalInventoryIntent_text]
  constructor
  · intro h
    obtain ⟨_, bytes, h, _⟩ := h
    exact ⟨bytes, h⟩
  · intro h
    obtain ⟨bytes, h⟩ := h
    exact ⟨_, bytes, h, rfl⟩

theorem payload_stream_iff {input : CollectPaymentPayloadInput} {date : ℤ}
    {words : List (Option ℤ)} (hl : input.allocations.length ≤ CUSTOMER_PAYMENT_MAX_ALLOCATIONS)
    (hw : words.length = 8) :
    (∃ p, buildInventoryPayload .customerCollectPayment input.tenantId input.businessId
        (input.headerFields date words ++
          (input.allocations.map (·.payloadFields)).flatten) = .ok p) ↔
      CANONICAL_UUID_RE input.tenantId = true ∧ CANONICAL_UUID_RE input.businessId = true ∧
        List.Forall₂ FieldFits payloadHeader (input.headerFields date words) ∧
        ∀ a ∈ input.allocations, List.Forall₂ FieldFits payloadGroup a.payloadFields := by
  have hlines := @canonicalStream_lines .customerCollectPayment input.tenantId input.businessId
    payloadHeader payloadGroup "allocation_count" (input.headerFields date words)
    (input.allocations.map (·.payloadFields)) rfl (by decide)
    (by simp [CollectPaymentPayloadInput.headerFields, payloadHeader, textWordSpecs, hw,
      ReceivableRateFields.fields])
    (by simp [CollectPaymentPayloadAllocation.payloadFields, payloadGroup]) (payload_count hl hw)
  rw [List.forall_mem_map, ← payloadSchema_collect] at hlines
  rw [← hlines]
  simp only [buildInventoryPayload, bind_eq_ok, pure_eq_ok, canonicalInventoryPayload_text]
  constructor
  · intro h
    obtain ⟨_, bytes, h, _⟩ := h
    exact ⟨bytes, h⟩
  · intro h
    obtain ⟨bytes, h⟩ := h
    exact ⟨_, bytes, h, rfl⟩

/-- What an accepted intent says of the fields it shares with its payload. -/
structure IntentAccepted (input : CollectPaymentIntentInput) (date : ℤ)
    (words : List (Option ℤ)) : Prop where
  date_eq : yyyymmdd input.paymentDate = .ok date
  words_eq : documentTextWords input.reference "reference" 1 RECEIVABLES_REFERENCE_MAX = .ok words
  lawful : input.Lawful
  tenant : CANONICAL_UUID_RE input.tenantId = true
  business : CANONICAL_UUID_RE input.businessId = true
  ids : input.toCollectPaymentHeader.Canonical
  date : FitsInt8 date
  currency : CurrencyFits input.currency
  amount : FitsInt8 input.amountMinor
  reference : ReferenceFits words
  count : FitsInt8 input.allocations.length
  allocations : ∀ a ∈ input.allocations,
    a.Canonical ∧ FitsInt8 a.paymentAmountMinor ∧ FitsInt8 a.appliedMinor

theorem intentAccepted_of_ok {input : CollectPaymentIntentInput} {sha : String}
    (h : customerCollectPaymentIntentSha256 input = .ok sha) :
    ∃ date words, IntentAccepted input date words := by
  simp only [customerCollectPaymentIntentSha256, bind_eq_ok, collectIntentFields_eq_ok,
    call_eq_ok] at h
  obtain ⟨_, ⟨hl, hids, _, date, hdate, words, hwords, rfl⟩, hsha⟩ := h
  have hw := length_documentTextWords hwords
  obtain ⟨ht, hb, hheader, hall⟩ := (intent_stream_iff hl.count hw).mp ⟨sha, hsha⟩
  obtain ⟨_, hd, hcur, ha, href, _, hcount⟩ := (intentHeader_fits hw).mp hheader
  exact ⟨date, words, hdate, hwords, hl, ht, hb, hids, hd, hcur, ha, href, hcount,
    fun a ha => intentGroup_fits.mp (hall a ha)⟩

/-- **What a payload asks beyond its intent**: its figures agree, its rate is coherent, and every
    figure fits its field. -/
theorem customerCollectPaymentPayload_iff {input : CollectPaymentPayloadInput} {sha : String}
    (h : customerCollectPaymentIntentSha256 input.intent = .ok sha) :
    (∃ built, customerCollectPaymentPayload input = .ok built) ↔
      ((∀ a ∈ input.allocations, a.Bound input.currency) ∧
        input.baseAmountMinor = (input.allocations.map (·.paymentBaseMinor)).sum +
          ((input.credit.map (·.originalCarryingBaseMinor)).getD 0) ∧
        (input.credit = none ↔ input.creditId = none) ∧
        ∀ c ∈ input.credit, some c.originalAmountMinor = surplusMinor input.intent) ∧
      CANONICAL_UUID_RE input.postingAccountId = true ∧ ¬ input.rate.Incoherent ∧
      (∀ v ∈ input.rate.rateId, CANONICAL_UUID_RE v = true) ∧ input.FiguresFit := by
  obtain ⟨date, words, hi⟩ := intentAccepted_of_ok h
  have hw := length_documentTextWords hi.words_eq
  have hcount : input.allocations.length ≤ CUSTOMER_PAYMENT_MAX_ALLOCATIONS := by
    have := hi.lawful.count
    rwa [CollectPaymentPayloadInput.intent, List.length_map] at this
  have hlength : FitsInt8 input.allocations.length := by
    have := hi.count
    rwa [CollectPaymentPayloadInput.intent, List.length_map] at this
  have hallocs : ∀ a ∈ input.allocations, a.toCollectPaymentIntentAllocation.Canonical ∧
      FitsInt8 a.paymentAmountMinor ∧ FitsInt8 a.appliedMinor := fun a ha =>
    hi.allocations _ (List.mem_map_of_mem ha)
  have hstream := @payload_stream_iff input date words hcount hw
  simp only [payloadHeader_fits hw, payloadGroup_fits] at hstream
  have hdate : yyyymmdd input.paymentDate = .ok date := hi.date_eq
  have hwords : documentTextWords input.reference "reference" 1 RECEIVABLES_REFERENCE_MAX =
      .ok words := hi.words_eq
  simp only [customerCollectPaymentPayload, h, ok_bind, bind_eq_ok, boundBaseTotal_eq_ok,
    refuseIf_eq_ok, exists_const, collectPayloadFields_eq_ok, call_eq_ok, pure_eq_ok, not_not,
    not_exists, not_and, ne_eq]
  constructor
  · intro hb
    obtain ⟨_, _, ⟨hbound, rfl⟩, hbase, hcid, hoa, _, ⟨_, hpost, ⟨hrate, hrid⟩, _, date', hdate',
      words', hwords', rfl⟩, p, hp, _⟩ := hb
    rw [hdate, Except.ok.injEq] at hdate'
    rw [hwords, Except.ok.injEq] at hwords'
    subst hdate' hwords'
    obtain ⟨_, _, ⟨_, _, _, _, _, _, hr10, hat, hbfit, _, hoafit, hobfit, _⟩, hfits⟩ :=
      hstream.mp ⟨p, hp⟩
    refine ⟨⟨hbound, hbase, hcid, hoa⟩, hpost, hrate, hrid, hr10, hat, hbfit, ?_, ?_⟩
    · intro c hc
      exact ⟨hoafit _ (Option.mem_map_of_mem _ hc), hobfit _ (Option.mem_map_of_mem _ hc)⟩
    · intro a ha
      obtain ⟨_, hcur, _, hpb, _, hx, hrel, hdust, hreal⟩ := hfits a ha
      exact ⟨hcur, hpb, hx, hrel, hdust, hreal⟩
  · intro hb
    obtain ⟨⟨hbound, hbase, hcid, hoa⟩, hpost, hrate, hrid, hfit⟩ := hb
    have hoption : ∀ (g : CollectPaymentCredit → ℤ), (∀ c ∈ input.credit, FitsInt8 (g c)) →
        ∀ n ∈ input.credit.map g, FitsInt8 n := by
      intro g hg n hn
      obtain ⟨c, hc, rfl⟩ := Option.mem_map.mp hn
      exact hg c hc
    obtain ⟨p, hp⟩ := hstream.mpr ⟨hi.tenant, hi.business,
      ⟨hi.ids, hpost, hi.date, hi.currency, hi.amount, hrid, hfit.rate, hfit.instant, hfit.base,
        hi.reference, hoption _ fun c hc => (hfit.credit c hc).1,
        hoption _ fun c hc => (hfit.credit c hc).2, hlength⟩,
      fun a ha => by
        obtain ⟨hcan, hpa, happ⟩ := hallocs a ha
        obtain ⟨hcur, hpb, hx, hrel, hdust, hreal⟩ := hfit.allocations a ha
        exact ⟨hcan, hcur, hpa, hpb, happ, hx, hrel, hdust, hreal⟩⟩
    exact ⟨_, _, ⟨hbound, rfl⟩, hbase, hcid, hoa, _, ⟨hi.ids, hpost, ⟨hrate, hrid⟩,
      fun a ha => (hallocs a ha).1, date, hdate, words, hwords, rfl⟩, p, hp, rfl⟩

/-! ## 5. The figures of a plan -/

theorem fitsInt8_of_minor {m v : ℤ} (hm : 0 ≤ m) (h : IsMinor m v) : FitsInt8 v := by
  have h1 := h.1
  have h2 := h.2
  unfold VALUE_LIMIT_MINOR at h2
  unfold FitsInt8 INT8_MIN INT8_MAX
  omega

namespace PaymentToBind

variable {i : PaymentToBind}

/-- An allocation as the plan reads it. -/
def planned (i : PaymentToBind) (a : AllocationToBind) : CustomerPaymentAllocationInput :=
  ⟨a.invoice, a.invoiceCurrency = i.currency, a.paymentAmountMinor,
    ⟨i.rate.rateR10, i.currencyExponent, i.baseExponent⟩, a.appliedMinor⟩

theorem allocations_plan : i.planInput.plan.allocations =
    i.allocations.map fun a => (i.planned a).plan := by
  show (i.allocations.map _).map _ = _
  rw [List.map_map]
  rfl

theorem allocations_payload : (i.payload i.planInput.plan).allocations =
    i.allocations.map fun a => boundAllocation a (i.planned a).plan := by
  show List.zipWith boundAllocation i.allocations i.planInput.plan.allocations = _
  rw [allocations_plan, List.zipWith_map_right, List.zipWith_self]

theorem intent_payload : (i.payload i.planInput.plan).intent = i.intent := by
  unfold CollectPaymentPayloadInput.intent
  rw [allocations_payload, List.map_map]
  rfl

theorem planned_lawful (h : i.planInput.Lawful) {a : AllocationToBind} (ha : a ∈ i.allocations) :
    (i.planned a).Lawful := h.legs _ (List.mem_map_of_mem ha)

/-- The surplus of a request is the surplus planned. -/
theorem surplus_intent (hl : i.intent.Lawful) :
    surplusMinor i.intent = if 0 < i.planInput.surplus then some i.planInput.surplus else none := by
  have hsum : (i.intent.allocations.map (·.paymentAmountMinor)).sum = i.planInput.allocated := by
    show ((i.allocations.map _).map _).sum = ((i.allocations.map _).map _).sum
    rw [List.map_map, List.map_map]
    rfl
  have hs := hl.surplus
  rw [hsum] at hs
  have hsurplus : i.planInput.surplus = i.intent.amountMinor - i.planInput.allocated := rfl
  unfold surplusMinor
  by_cases hc : i.intent.creditId = none
  · rw [if_pos hc, if_neg]
    intro hpos
    exact absurd hc (hs.mp (by omega))
  · have hlt := hs.mpr hc
    rw [if_neg hc, if_pos (by omega), ← List.foldl_map
      (f := CollectPaymentIntentAllocation.paymentAmountMinor) (g := (· + ·)),
      ← List.sum_eq_foldl, hsum, ← hsurplus]

/-- The figures of an allocation fit as soon as the whole base and the dust do. -/
theorem figures_fit (h : i.planInput.Lawful) (hbase : i.planInput.plan.baseAmountMinor ≤ INT8_MAX)
    {a : AllocationToBind} (ha : a ∈ i.allocations)
    (hdust : INT8_MIN ≤ (i.planned a).plan.arDustBaseMinor) :
    FitsInt8 (i.planned a).plan.paymentBaseMinor ∧
      FitsInt8 (i.planned a).plan.arReleasedBeforeMinor ∧
      FitsInt8 (i.planned a).plan.invoiceCarryingReleasedMinor ∧
      FitsInt8 (i.planned a).plan.arDustBaseMinor ∧
      FitsInt8 (i.planned a).plan.realizedFxMinor := by
  have hall := h.figures_within (by decide) hbase (List.mem_map_of_mem ha) hdust
  simp only [CustomerPaymentAllocationPlan.figures, List.forall_mem_cons, List.not_mem_nil,
    false_implies, implies_true, and_true] at hall
  exact hall

/-- The checks of a payload hold of every planned payment. -/
theorem payload_agrees (hwf : i.WellFormed) (hl : i.intent.Lawful) (h : i.planInput.Lawful) :
    (∀ b ∈ (i.payload i.planInput.plan).allocations, b.Bound i.currency) ∧
      (i.payload i.planInput.plan).baseAmountMinor =
        ((i.payload i.planInput.plan).allocations.map (·.paymentBaseMinor)).sum +
          (((i.payload i.planInput.plan).credit.map (·.originalCarryingBaseMinor)).getD 0) ∧
      ((i.payload i.planInput.plan).credit = none ↔ i.creditId = none) ∧
      ∀ c ∈ (i.payload i.planInput.plan).credit,
        some c.originalAmountMinor = surplusMinor (i.payload i.planInput.plan).intent := by
  refine ⟨?_, ?_, ?_, ?_⟩
  · rw [allocations_payload]
    intro b hb
    obtain ⟨a, ha, rfl⟩ := List.mem_map.mp hb
    refine ⟨rfl, fun hcur => (planned_lawful h ha).same ?_⟩
    have hcur' : toUpperCase a.invoiceCurrency.toList = toUpperCase i.currency.toList := hcur
    rw [toUpperCase_of_currency (hwf.invoices a ha), toUpperCase_of_currency hwf.currency] at hcur'
    exact decide_eq_true (String.toList_inj.mp hcur')
  · have hcloses := (CustomerPaymentInput.plan_closes h.allocated_le).2
    rw [allocations_payload, List.map_map]
    rw [allocations_plan, List.map_map] at hcloses
    rw [payload, Option.map_map]
    exact hcloses.symm
  · have hs := surplus_intent hl
    have hcredit : surplusMinor i.intent = none ↔ i.creditId = none := by
      unfold surplusMinor
      by_cases hc : i.intent.creditId = none
      · rw [if_pos hc]
        exact iff_of_true rfl hc
      · rw [if_neg hc]
        exact iff_of_false nofun hc
    rw [← hcredit, hs]
    by_cases hpos : 0 < i.planInput.surplus
    · simp [payload, CustomerPaymentInput.plan, hpos]
    · simp [payload, CustomerPaymentInput.plan, hpos]
  · intro c hc
    rw [intent_payload, surplus_intent hl]
    by_cases hpos : 0 < i.planInput.surplus
    · simp only [payload, CustomerPaymentInput.plan, hpos, if_true, Option.map_some,
        Option.mem_some_iff] at hc
      subst hc
      rw [if_pos hpos]
      rfl
    · simp [payload, CustomerPaymentInput.plan, hpos] at hc

end PaymentToBind

/-! ## 6. When a planned payment can be signed -/

/-- **A planned payment can be signed exactly when** its rate and its whole base fit a BIGINT and no
    allocation's dust is below one: every other figure fits by itself. -/
theorem customerCollectPaymentPayload_accepts_iff {i : PaymentToBind} {sha : String}
    {plan : CustomerPaymentPlan} (hwf : i.WellFormed)
    (hintent : customerCollectPaymentIntentSha256 i.intent = .ok sha)
    (hplan : planCustomerPayment i.planInput = .ok plan) :
    (∃ built, customerCollectPaymentPayload (i.payload plan) = .ok built) ↔
      i.rate.rateR10 ≤ INT8_MAX ∧ plan.baseAmountMinor ≤ INT8_MAX ∧
        ∀ p ∈ plan.allocations, INT8_MIN ≤ p.arDustBaseMinor := by
  obtain ⟨hl, rfl⟩ := planCustomerPayment_eq_ok.mp hplan
  obtain ⟨_, _, hi⟩ := intentAccepted_of_ok hintent
  have hsha : customerCollectPaymentIntentSha256 (i.payload i.planInput.plan).intent = .ok sha := by
    rw [PaymentToBind.intent_payload, hintent]
  have hrate : 0 < i.rate.rateR10 := by
    have hc := hwf.coherent
    unfold ReceivableRateFields.Incoherent at hc
    split at hc
    · have h1 : i.rate.rateR10 = DOMESTIC_RATE_R10 := by
        by_contra hne
        exact hc (.inl hne)
      rw [h1]
      decide
    · exact not_le.mp fun hle => hc (.inl hle)
  rw [customerCollectPaymentPayload_iff hsha]
  constructor
  · intro hb
    obtain ⟨_, _, _, _, hfit⟩ := hb
    refine ⟨hfit.rate.2, hfit.base.2, ?_⟩
    rw [PaymentToBind.allocations_plan]
    intro p hp
    obtain ⟨a, ha, rfl⟩ := List.mem_map.mp hp
    have hb := hfit.allocations (PaymentToBind.boundAllocation a (i.planned a).plan)
    rw [PaymentToBind.allocations_payload] at hb
    exact (hb (List.mem_map_of_mem ha)).2.2.2.2.1.1
  · intro hb
    obtain ⟨hr, hbase, hdust⟩ := hb
    rw [PaymentToBind.allocations_plan] at hdust
    refine ⟨PaymentToBind.payload_agrees hwf hi.lawful hl, hwf.posting, hwf.coherent, hwf.rate_id,
      ⟨?_, hr⟩, ?_, ⟨?_, hbase⟩, ?_, ?_⟩
    · exact (by decide : INT8_MIN ≤ 0).trans hrate.le
    · have h1 := hwf.instant
      unfold PaymentToBind.DATE_LIMIT_SECONDS at h1
      show INT8_MIN ≤ i.rate.rateAtEpochSeconds ∧ i.rate.rateAtEpochSeconds ≤ INT8_MAX
      unfold INT8_MIN INT8_MAX
      omega
    · exact (by decide : INT8_MIN ≤ 1).trans hl.base_pos
    · intro c hc
      by_cases hpos : 0 < i.planInput.surplus
      · simp only [PaymentToBind.payload, CustomerPaymentInput.plan, hpos, if_true,
          Option.map_some, Option.mem_some_iff] at hc
        subst hc
        have hcreation := hl.creation hpos
        exact ⟨fitsInt8_of_minor zero_le_one hcreation.surplus_minor,
          fitsInt8_of_minor zero_le_one hcreation.carrying_minor⟩
      · simp [PaymentToBind.payload, CustomerPaymentInput.plan, hpos] at hc
    · rw [PaymentToBind.allocations_payload]
      intro b hb
      obtain ⟨a, ha, rfl⟩ := List.mem_map.mp hb
      exact ⟨currency_code (hwf.invoices a ha),
        PaymentToBind.figures_fit hl hbase ha (hdust _ (List.mem_map_of_mem ha))⟩

/-- An invoice of 1.00 in base, paid whole by `amount` of a foreign currency at `rateR10`. -/
def samplePayment (amount rateR10 : ℤ) : PaymentToBind where
  tenantId := "11111111-1111-4111-8111-111111111111"
  businessId := "22222222-2222-4222-8222-222222222222"
  paymentId := "33333333-3333-4333-8333-333333333333"
  customerId := "44444444-4444-4444-8444-444444444444"
  paymentMethodId := "55555555-5555-4555-8555-555555555555"
  paymentDate := "2026-02-28"
  currency := "USD"
  amountMinor := amount
  reference := some "TR-1"
  creditId := none
  postingAccountId := "66666666-6666-4666-8666-666666666666"
  rate := ⟨some "77777777-7777-4777-8777-777777777777", rateR10, .provider, 1772236800⟩
  currencyExponent := 2
  baseExponent := 2
  allocations :=
    [⟨"88888888-8888-4888-8888-888888888888", "99999999-9999-4999-8999-999999999999", "TRY",
      ⟨100, 100, 100, ⟨10000000000, 2, 2⟩⟩, amount, 100⟩]

theorem customerCollectPaymentPayload_accepts_iff_sample :
    (∃ built, customerCollectPaymentPayload ((samplePayment 100 35000000000).payload
        (samplePayment 100 35000000000).planInput.plan) = .ok built) ↔
      (samplePayment 100 35000000000).rate.rateR10 ≤ INT8_MAX ∧
        (samplePayment 100 35000000000).planInput.plan.baseAmountMinor ≤ INT8_MAX ∧
        ∀ p ∈ (samplePayment 100 35000000000).planInput.plan.allocations,
          INT8_MIN ≤ p.arDustBaseMinor :=
  @customerCollectPaymentPayload_accepts_iff (samplePayment 100 35000000000)
    "859ee9d1e95c96bde089101d68ee45499261cce3fdd9cd8cb96db4fece7b7b44" _ (by decide +kernel)
    (by decide +kernel) (by decide +kernel)

/-- Nothing bounds a conversion: `base_amount` is 10^19, and the payload is refused. -/
theorem not_every_planned_payment_signed : ¬ ∀ (i : PaymentToBind) (sha : String)
    (plan : CustomerPaymentPlan), i.WellFormed →
    customerCollectPaymentIntentSha256 i.intent = .ok sha →
    planCustomerPayment i.planInput = .ok plan →
    ∃ built, customerCollectPaymentPayload (i.payload plan) = .ok built := by
  intro hall
  obtain ⟨built, hbuilt⟩ := hall (samplePayment 1000000000000000000 100000000000)
    (resultD (customerCollectPaymentIntentSha256
      (samplePayment 1000000000000000000 100000000000).intent) "")
    (samplePayment 1000000000000000000 100000000000).planInput.plan (by decide +kernel)
    (by decide +kernel) (by decide +kernel)
  have hrefused : (customerCollectPaymentPayload
      ((samplePayment 1000000000000000000 100000000000).payload
        (samplePayment 1000000000000000000 100000000000).planInput.plan)).isOk = false := by
    decide +kernel
  rw [hbuilt] at hrefused
  cases hrefused

end Daftar.Inventory.Customer
