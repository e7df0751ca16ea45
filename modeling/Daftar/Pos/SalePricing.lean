/-
  File: Daftar/Pos/SalePricing.lean
  Subject: The arithmetic of the sale the till commits.

  * `saleLines` are the lines of the sale request: one for each stock key of the snapshot.
  * `resolveVariants` finds the stock variant of each, `readSalePriceFacts` its catalogue facts.
  * `price` rounds each line once, caps its discount at its gross, and sums exactly.
  * `priceSaleLine_eq_ok` and `priceSaleLine_eq_discountInvalid` say when a turn of its loop accepts
    and when it refuses the discount.
-/

import Daftar.Pos.CartPricing

namespace Daftar.Pos

open Fallible
open Rounding

/-! ## 1. The request -/

structure SaleCommitLine where
  lineId : Uuid
  productId : Uuid
  variantId : Option Uuid
  quantity : ℤ
  discountMinor : ℤ
  deriving DecidableEq

def saleLine (g : CartSnapshotLine) : SaleCommitLine where
  lineId := g.cartLineId
  productId := g.productId
  variantId := g.merchantVariantId
  quantity := g.qtyQ4
  discountMinor := g.discountMinor

def saleLines (snapshot : List CartSnapshotLine) : List SaleCommitLine :=
  (mergeByStockKey snapshot).map saleLine

/-! ## 2. The catalogue reads -/

structure ResolvedVariant where
  productId : Uuid
  variantId : Uuid
  merchantVariantId : Option Uuid
  deriving DecidableEq

/-- With a variant id, a variant of the product that is not the base one; without one, the base. -/
def resolveVariant (cat : Catalogue) (line : SaleCommitLine) : Except Refusal ResolvedVariant :=
  let variants := cat.rows.filter fun r => r.productId = line.productId
  match variants with
  | [] => .error (.inventory .inventoryProductNotFound)
  | _ :: _ =>
    match line.variantId with
    | none =>
      match variants.find? fun r => r.isBase with
      | some row => .ok ⟨line.productId, row.variantId, none⟩
      | none =>
        if (variants.any fun r => !r.isBase) = true then .error (.inventory .inventoryVariantRequired)
        else .error (.inventory .inventoryVariantNotFound)
    | some wanted =>
      match variants.find? fun r => decide (r.variantId = wanted) && !r.isBase with
      | some row => .ok ⟨line.productId, row.variantId, some wanted⟩
      | none => .error (.inventory .inventoryVariantNotFound)

def resolveVariants (cat : Catalogue) (lines : List SaleCommitLine) :
    Except Refusal (List ResolvedVariant) :=
  lines.mapM (resolveVariant cat)

structure SalePriceFacts where
  productId : Uuid
  variantId : Uuid
  productStatus : CatalogueStatus
  variantStatus : CatalogueStatus
  trackInventory : Bool
  unitDecimals : Option ℕ
  priceMinor : Option ℤ
  priceCurrency : Option String
  nameSnapshot : String
  deriving DecidableEq

def CatalogueRow.priceFacts (r : CatalogueRow) : SalePriceFacts where
  productId := r.productId
  variantId := r.variantId
  productStatus := r.productStatus
  variantStatus := r.variantStatus
  trackInventory := r.trackInventory
  unitDecimals := r.unitDecimals
  priceMinor := r.priceMinor
  priceCurrency := r.priceCurrency
  nameSnapshot := r.nameSnapshot

/-- The facts of every variant asked for, keyed by the variant; one the business does not hold is
    absent. -/
def readSalePriceFacts (cat : Catalogue) (variantIds : List Uuid) (variantId : Uuid) :
    Option SalePriceFacts :=
  if variantId ∈ variantIds then
    (cat.rows.find? fun r => r.variantId = variantId).map CatalogueRow.priceFacts
  else none

/-! ## 3. Pricing -/

def Q4_STEP : List ℤ := [10000, 1000, 100, 10, 1]

/-- Exact representability with so many decimals; more than four is refused. -/
def assertQuantityRepresentable (q4 : ℤ) (unitDecimals : ℕ) : Except Refusal Unit :=
  match Q4_STEP[unitDecimals]? with
  | none => .error (.inventory .inventoryUnitDecimalsInvalid)
  | some step =>
    refuseIf ((if q4 < 0 then -q4 else q4) % step ≠ 0) (.inventory .inventoryQuantityPrecisionInvalid)

structure PricedLine where
  lineId : Uuid
  productId : Uuid
  merchantVariantId : Option Uuid
  variantId : Uuid
  nameSnapshot : String
  qtyQ4 : ℤ
  unitPriceC10 : ℤ
  unitPriceTxnMinor : ℤ
  grossTxnMinor : ℤ
  discountMinor : ℤ
  netTxnMinor : ℤ
  deriving DecidableEq

structure PricedSale where
  currency : String
  subtotalTxnMinor : ℤ
  discountTxnMinor : ℤ
  totalTxnMinor : ℤ
  lines : List PricedLine
  deriving DecidableEq

def MAX_SALE_LINES : ℕ := 200

/-- The variables of the pricing loop. -/
structure SaleLoop where
  currency : Option String
  lines : List PricedLine
  subtotal : ℤ
  discount : ℤ

def SaleLoop.start : SaleLoop := ⟨none, [], 0, 0⟩

/-- The facts every later step of a turn reads: tracked, active, priced and named. -/
structure LineFacts where
  productId : Uuid
  unitDecimals : ℕ
  priceMinor : ℤ
  priceCurrency : String
  nameSnapshot : String

/-- The current-state checks of a turn, in order. -/
def saleLineFacts (f : SalePriceFacts) : Except Refusal LineFacts :=
  match f.unitDecimals with
  | none => .error (.inventory .inventoryProductNotTracked)
  | some unitDecimals => do
    refuseIf (f.trackInventory = false) (.inventory .inventoryProductNotTracked)
    refuseIf (f.productStatus ≠ .active) (.inventory .inventoryProductArchived)
    refuseIf (f.variantStatus ≠ .active) (.inventory .inventoryVariantArchived)
    match f.priceMinor, f.priceCurrency with
    | some priceMinor, some priceCurrency => do
      refuseIf (f.nameSnapshot = "") (.sale .productNotPriced)
      pure ⟨f.productId, unitDecimals, priceMinor, priceCurrency, f.nameSnapshot⟩
    | _, _ => .error (.sale .productNotPriced)

/-- The loop with one more priced line. -/
def SaleLoop.push (s : SaleLoop) (l : SaleCommitLine) (v : ResolvedVariant) (f : LineFacts)
    (qtyQ4 grossTxnMinor discountMinor : ℤ) : SaleLoop where
  currency := some (s.currency.getD f.priceCurrency)
  lines := s.lines ++
    [{ lineId := l.lineId
       productId := f.productId
       merchantVariantId := v.merchantVariantId
       variantId := v.variantId
       nameSnapshot := f.nameSnapshot
       qtyQ4 := qtyQ4
       unitPriceC10 := f.priceMinor * 10 ^ 10
       unitPriceTxnMinor := f.priceMinor
       grossTxnMinor := grossTxnMinor
       discountMinor := discountMinor
       netTxnMinor := grossTxnMinor - discountMinor }]
  subtotal := s.subtotal + grossTxnMinor
  discount := s.discount + discountMinor

/-- One turn of the loop. The catalogue price is an integer count of minor units, so the quotient
    is taken at the quantity scale. -/
def priceSaleLine (facts : Uuid → Option SalePriceFacts) (s : SaleLoop) (l : SaleCommitLine)
    (v : ResolvedVariant) : Except Refusal SaleLoop :=
  match facts v.variantId with
  | none => .error (.sale .productNotFound)
  | some sf => do
    let f ← saleLineFacts sf
    refuseIf (currencyClash s.currency f.priceCurrency = true) (.sale .currencyUnknown)
    let qtyQ4 ← parseQuantity l.quantity
    assertQuantityRepresentable qtyQ4 f.unitDecimals
    let grossTxnMinor := halfEven (qtyQ4 * f.priceMinor) QUANTITY_SCALE
    let discountMinor ← parseMinor l.discountMinor
    refuseIf (grossTxnMinor < discountMinor) (.sale .discountInvalid)
    pure (s.push l v f qtyQ4 grossTxnMinor discountMinor)

def priceSaleLines (facts : Uuid → Option SalePriceFacts) :
    SaleLoop → List SaleCommitLine → List ResolvedVariant → Except Refusal SaleLoop
  | s, [], _ => .ok s
  | _, _ :: _, [] => .error (.sale .productNotFound)
  | s, l :: lines, v :: resolved => do
    let t ← priceSaleLine facts s l v
    priceSaleLines facts t lines resolved

/-- The totals of a priced loop. -/
def SaleLoop.sale (s : SaleLoop) : Except Refusal PricedSale :=
  match s.currency with
  | none => .error (.sale .linesRequired)
  | some currency => do
    let totalTxnMinor := s.subtotal - s.discount
    refuseIf (totalTxnMinor ≤ 0) (.sale .totalZero)
    pure ⟨currency, s.subtotal, s.discount, totalTxnMinor, s.lines⟩

def price (lines : List SaleCommitLine) (resolved : List ResolvedVariant)
    (facts : Uuid → Option SalePriceFacts) : Except Refusal PricedSale := do
  refuseIf (lines.length = 0 ∨ MAX_SALE_LINES < lines.length) (.sale .linesRequired)
  let s ← priceSaleLines facts .start lines resolved
  s.sale

/-! ## 4. One turn -/

/-- What a turn asks before it compares the discount with the gross: the variant is tracked,
    active, priced and named, the quantity is in range and representable, the discount in range. -/
structure Admitted (row : CatalogueRow) (quantity discount : ℤ) : Prop where
  tracked : row.trackInventory = true
  decimals : ∃ d, row.unitDecimals = some d ∧ assertQuantityRepresentable quantity d = .ok ()
  product_active : row.productStatus = .active
  variant_active : row.variantStatus = .active
  priced : row.priceMinor ≠ none ∧ row.priceCurrency ≠ none
  named : row.nameSnapshot ≠ ""
  quantity_range : -QTY_DOMAIN_Q4 < quantity ∧ quantity < QTY_DOMAIN_Q4
  discount_range : -VALUE_LIMIT_MINOR ≤ discount ∧ discount ≤ VALUE_LIMIT_MINOR

/-- The rounded gross of a quantity at a row's price. -/
def CatalogueRow.gross (row : CatalogueRow) (quantity : ℤ) : ℤ :=
  nearestEven (quantity * row.priceMinor.getD 0) QUANTITY_SCALE

theorem saleLineFacts_eq_ok {row : CatalogueRow} {f : LineFacts} :
    saleLineFacts row.priceFacts = .ok f ↔
      row.trackInventory = true ∧ row.productStatus = .active ∧ row.variantStatus = .active ∧
        row.nameSnapshot ≠ "" ∧ row.unitDecimals = some f.unitDecimals ∧
        row.priceMinor = some f.priceMinor ∧ row.priceCurrency = some f.priceCurrency ∧
        f.productId = row.productId ∧ f.nameSnapshot = row.nameSnapshot := by
  cases hd : row.unitDecimals with
  | none => simp [saleLineFacts, CatalogueRow.priceFacts, hd]
  | some d =>
      cases hp : row.priceMinor with
      | none =>
          simp only [saleLineFacts, CatalogueRow.priceFacts, hd, hp, bind_eq_ok, refuseIf_eq_ok]
          simp
      | some p =>
          cases hc : row.priceCurrency with
          | none =>
              simp only [saleLineFacts, CatalogueRow.priceFacts, hd, hp, hc, bind_eq_ok,
                refuseIf_eq_ok]
              simp
          | some c =>
              cases f
              simp only [saleLineFacts, CatalogueRow.priceFacts, hd, hp, hc, bind_eq_ok,
                refuseIf_eq_ok, exists_const, pure_eq_ok, Bool.not_eq_false, not_not,
                LineFacts.mk.injEq, Option.some.injEq]
              tauto

/-- The checks of a turn never refuse a discount. -/
theorem saleLineFacts_ne_discountInvalid (sf : SalePriceFacts) :
    saleLineFacts sf ≠ .error (.sale .discountInvalid) := by
  intro h
  unfold saleLineFacts at h
  split at h
  · cases h
  · split at h
    · simp only [bind_eq_error, refuseIf_eq_error, pure_ne_error, reduceCtorEq,
        Refusal.sale.injEq, and_false, exists_false, or_false] at h
    · simp [bind_eq_error] at h

theorem assertQuantityRepresentable_ne_discountInvalid (q4 : ℤ) (d : ℕ) :
    assertQuantityRepresentable q4 d ≠ .error (.sale .discountInvalid) := by
  intro h
  unfold assertQuantityRepresentable at h
  split at h
  · cases h
  · simp at h

/-- **An accepted turn** at the row its facts come from. -/
theorem priceSaleLine_eq_ok {facts : Uuid → Option SalePriceFacts} {s t : SaleLoop}
    {l : SaleCommitLine} {v : ResolvedVariant} {row : CatalogueRow}
    (hf : facts v.variantId = some row.priceFacts)
    (h : priceSaleLine facts s l v = .ok t) :
    Admitted row l.quantity l.discountMinor ∧ l.discountMinor ≤ row.gross l.quantity ∧
      t.subtotal = s.subtotal + row.gross l.quantity ∧ t.discount = s.discount + l.discountMinor ∧
      ∃ c, row.priceCurrency = some c ∧ t.currency = some (s.currency.getD c) := by
  unfold priceSaleLine at h
  rw [hf] at h
  simp only [bind_eq_ok, refuseIf_eq_ok, exists_const, pure_eq_ok, not_lt, parseQuantity_eq_ok,
    parseMinor_eq_ok, saleLineFacts_eq_ok, halfEven_eq scale_pos] at h
  obtain ⟨f, ⟨ht, hp, hv, hn, hd, hprice, hcur, _, _⟩, _, _, ⟨hq, rfl⟩, _, hrep, _, ⟨hdr, rfl⟩, hcap,
    rfl⟩ := h
  have hg : nearestEven (l.quantity * f.priceMinor) QUANTITY_SCALE = row.gross l.quantity := by
    unfold CatalogueRow.gross
    rw [hprice, Option.getD_some]
  rw [hg] at hcap
  refine ⟨⟨ht, ⟨_, hd, hrep⟩, hp, hv, ⟨?_, ?_⟩, hn, hq, hdr⟩, hcap, ?_, rfl, _, hcur, rfl⟩
  · rw [hprice]
    exact Option.some_ne_none _
  · rw [hcur]
    exact Option.some_ne_none _
  · exact congrArg (s.subtotal + ·) hg

/-- An admitted turn in the basket's currency either takes the line or refuses its discount. -/
theorem priceSaleLine_of_admitted {facts : Uuid → Option SalePriceFacts} {s : SaleLoop}
    {l : SaleCommitLine} {v : ResolvedVariant} {row : CatalogueRow} {currency : String}
    (hf : facts v.variantId = some row.priceFacts) (hc : row.priceCurrency = some currency)
    (hs : s.currency = none ∨ s.currency = some currency)
    (ha : Admitted row l.quantity l.discountMinor) :
    (row.gross l.quantity < l.discountMinor →
      priceSaleLine facts s l v = .error (.sale .discountInvalid)) ∧
    (l.discountMinor ≤ row.gross l.quantity → ∃ t, priceSaleLine facts s l v = .ok t) := by
  obtain ⟨d, hd, hrep⟩ := ha.decimals
  obtain ⟨p, hp⟩ := Option.ne_none_iff_exists'.mp ha.priced.1
  have hfacts : saleLineFacts row.priceFacts =
      .ok ⟨row.productId, d, p, currency, row.nameSnapshot⟩ :=
    saleLineFacts_eq_ok.mpr ⟨ha.tracked, ha.product_active, ha.variant_active, ha.named, hd, hp, hc,
      rfl, rfl⟩
  have hclash : ¬ currencyClash s.currency currency = true := by
    rcases hs with hs | hs <;> simp [currencyClash, hs]
  have hq := parseQuantity_eq_ok.mpr ⟨ha.quantity_range, rfl⟩
  have hm := parseMinor_eq_ok.mpr ⟨ha.discount_range, rfl⟩
  have hg : halfEven (l.quantity * p) QUANTITY_SCALE = row.gross l.quantity := by
    rw [halfEven_eq scale_pos]
    unfold CatalogueRow.gross
    rw [hp, Option.getD_some]
  have hturn : priceSaleLine facts s l v =
      (refuseIf (row.gross l.quantity < l.discountMinor) (.sale .discountInvalid) >>= fun _ =>
        pure (s.push l v ⟨row.productId, d, p, currency, row.nameSnapshot⟩ l.quantity
          (row.gross l.quantity) l.discountMinor)) := by
    unfold priceSaleLine
    rw [hf]
    simp only [hfacts, ok_bind, refuseIf_of_not hclash, hq, hrep, hm, hg]
  constructor
  · intro hlt
    rw [hturn, bind_eq_error]
    exact .inl (refuseIf_eq_error.mpr ⟨hlt, rfl⟩)
  · intro hle
    rw [hturn, refuseIf_of_not (not_lt.mpr hle), ok_bind]
    exact ⟨_, rfl⟩

/-- **A turn refuses a discount only on an admitted line**, and then the discount is above the
    gross. -/
theorem priceSaleLine_eq_discountInvalid {facts : Uuid → Option SalePriceFacts} {s : SaleLoop}
    {l : SaleCommitLine} {v : ResolvedVariant} {row : CatalogueRow}
    (hf : facts v.variantId = some row.priceFacts)
    (h : priceSaleLine facts s l v = .error (.sale .discountInvalid)) :
    Admitted row l.quantity l.discountMinor ∧ row.gross l.quantity < l.discountMinor := by
  unfold priceSaleLine at h
  rw [hf] at h
  simp only [bind_eq_error, refuseIf_eq_error, saleLineFacts_ne_discountInvalid, false_or,
    assertQuantityRepresentable_ne_discountInvalid, parseQuantity, parseMinor, bind_eq_ok,
    refuseIf_eq_ok, exists_const, pure_eq_ok, pure_ne_error, saleLineFacts_eq_ok,
    halfEven_eq scale_pos, Refusal.sale.injEq, reduceCtorEq, and_false, or_false, and_true, not_or, not_le,
    not_lt] at h
  obtain ⟨f, ⟨ht, hp, hv, hn, hd, hprice, hcur, _, _⟩, _, _, ⟨hq, rfl⟩, _, hrep, _, ⟨hdr, rfl⟩, hlt⟩ := h
  have hg : nearestEven (l.quantity * f.priceMinor) QUANTITY_SCALE = row.gross l.quantity := by
    unfold CatalogueRow.gross
    rw [hprice, Option.getD_some]
  rw [hg] at hlt
  refine ⟨⟨ht, ⟨_, hd, hrep⟩, hp, hv, ⟨?_, ?_⟩, hn, hq, hdr⟩, hlt⟩
  · rw [hprice]
    exact Option.some_ne_none _
  · rw [hcur]
    exact Option.some_ne_none _

/-! ## 5. The lines a priced sale keeps -/

/-- A priced line without its prices. -/
def PricedLine.line (l : PricedLine) : SaleCommitLine where
  lineId := l.lineId
  productId := l.productId
  variantId := l.merchantVariantId
  quantity := l.qtyQ4
  discountMinor := l.discountMinor

/-- The resolved variant is of the line's product and is its merchant variant. -/
def ResolvesTo (facts : Uuid → Option SalePriceFacts) (l : SaleCommitLine) (v : ResolvedVariant) :
    Prop :=
  v.merchantVariantId = l.variantId ∧ ∀ f, facts v.variantId = some f → f.productId = l.productId

theorem saleLineFacts_productId {sf : SalePriceFacts} {f : LineFacts}
    (h : saleLineFacts sf = .ok f) : f.productId = sf.productId := by
  unfold saleLineFacts at h
  split at h
  · cases h
  · split at h
    · simp only [bind_eq_ok, refuseIf_eq_ok, exists_const, pure_eq_ok] at h
      obtain ⟨_, _, _, _, rfl⟩ := h
      rfl
    · simp [bind_eq_ok] at h

/-- **A priced turn adds the line it was given**, with its prices. -/
theorem priceSaleLine_lines {facts : Uuid → Option SalePriceFacts} {s t : SaleLoop}
    {l : SaleCommitLine} {v : ResolvedVariant} (hv : ResolvesTo facts l v)
    (h : priceSaleLine facts s l v = .ok t) :
    t.lines.map PricedLine.line = s.lines.map PricedLine.line ++ [l] := by
  unfold priceSaleLine at h
  cases hf : facts v.variantId with
  | none =>
      rw [hf] at h
      cases h
  | some sf =>
      rw [hf] at h
      simp only [bind_eq_ok, refuseIf_eq_ok, exists_const, pure_eq_ok, parseQuantity_eq_ok,
        parseMinor_eq_ok] at h
      obtain ⟨f, hfacts, _, _, ⟨_, rfl⟩, _, _, _, ⟨_, rfl⟩, _, rfl⟩ := h
      have hp : f.productId = l.productId := (saleLineFacts_productId hfacts).trans (hv.2 sf hf)
      simp only [SaleLoop.push, List.map_append, List.map_cons, List.map_nil, PricedLine.line, hv.1,
        hp]

theorem priceSaleLines_lines {facts : Uuid → Option SalePriceFacts} :
    ∀ {lines : List SaleCommitLine} {resolved : List ResolvedVariant} {s t : SaleLoop},
      List.Forall₂ (ResolvesTo facts) lines resolved →
      priceSaleLines facts s lines resolved = .ok t →
      t.lines.map PricedLine.line = s.lines.map PricedLine.line ++ lines
  | [], _, s, t, _, h => by
      cases h
      rw [List.append_nil]
  | l :: lines, _, s, t, .cons hv hrest, h => by
      rw [priceSaleLines, bind_eq_ok] at h
      obtain ⟨u, hu, ht⟩ := h
      rw [priceSaleLines_lines hrest ht, priceSaleLine_lines hv hu, List.append_assoc,
        List.singleton_append]

/-- **An accepted sale has the lines it was given.** -/
theorem price_lines {lines : List SaleCommitLine} {resolved : List ResolvedVariant}
    {facts : Uuid → Option SalePriceFacts} {sale : PricedSale}
    (hv : List.Forall₂ (ResolvesTo facts) lines resolved)
    (h : price lines resolved facts = .ok sale) : sale.lines.map PricedLine.line = lines := by
  simp only [price, bind_eq_ok] at h
  obtain ⟨_, _, s, hs, hsale⟩ := h
  unfold SaleLoop.sale at hsale
  split at hsale
  · cases hsale
  · simp only [bind_eq_ok, refuseIf_eq_ok, exists_const, pure_eq_ok] at hsale
    obtain ⟨_, rfl⟩ := hsale
    exact priceSaleLines_lines hv hs

/-- A resolved variant stands on a catalogue row of the line's product. -/
theorem resolveVariant_eq_ok {cat : Catalogue} {l : SaleCommitLine} {v : ResolvedVariant}
    (h : resolveVariant cat l = .ok v) :
    v.merchantVariantId = l.variantId ∧
      ∃ row ∈ cat.rows, row.variantId = v.variantId ∧ row.productId = l.productId := by
  have hof : ∀ (p : CatalogueRow → Bool) (row : CatalogueRow),
      (cat.rows.filter fun r => decide (r.productId = l.productId)).find? p = some row →
        row ∈ cat.rows ∧ row.productId = l.productId := by
    intro p row hrow
    have hm := List.mem_of_find?_eq_some hrow
    exact ⟨List.mem_of_mem_filter hm, of_decide_eq_true (List.mem_filter.mp hm).2⟩
  unfold resolveVariant at h
  simp only at h
  split at h
  · cases h
  · cases hv : l.variantId with
    | none =>
        simp only [hv] at h
        split at h
        · rename_i row hrow
          cases h
          obtain ⟨hmem, hprod⟩ := hof _ row hrow
          exact ⟨rfl, row, hmem, rfl, hprod⟩
        · split at h <;> cases h
    | some wanted =>
        simp only [hv] at h
        split at h
        · rename_i row hrow
          cases h
          obtain ⟨hmem, hprod⟩ := hof _ row hrow
          exact ⟨rfl, row, hmem, rfl, hprod⟩
        · cases h

/-- The facts read for a resolved variant are of the line's product. -/
theorem resolvesTo_of_resolveVariant {cat : Catalogue} {l : SaleCommitLine} {v : ResolvedVariant}
    (h : resolveVariant cat l = .ok v) (variantIds : List Uuid) :
    ResolvesTo (readSalePriceFacts cat variantIds) l v := by
  obtain ⟨hm, row, hrow, hv, hp⟩ := resolveVariant_eq_ok h
  refine ⟨hm, fun f hf => ?_⟩
  unfold readSalePriceFacts at hf
  split at hf
  · obtain ⟨r, hr, rfl⟩ := Option.map_eq_some_iff.mp hf
    have hrv : r.variantId = v.variantId := by simpa using List.find?_some hr
    rw [← hp, ← cat.variant_unique r (List.mem_of_find?_eq_some hr) row hrow (hrv.trans hv.symm)]
    rfl
  · cases hf

end Daftar.Pos
