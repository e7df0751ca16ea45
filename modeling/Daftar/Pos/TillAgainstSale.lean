/-
  File: Daftar/Pos/TillAgainstSale.lean
  Subject: What the till shows against what the sale charges.

  * The till rounds each cart line, the sale rounds each stock key; `dropped` is the part of a minor
    unit that rounding leaves out.
  * `priceCheckout` prices the merged lines, as the sale's plan does. Over a basket it refuses a
    discount exactly at the first key whose discount is above its gross
    (`priceSaleLines_eq_discountInvalid`).
  * `chargesWhatItShows_iff`: the two agree exactly when the discounts of each key fit its gross
    and the parts dropped by line sum to the parts dropped by key.
  * `not_chargesWhatItShows_halves`: two halves of one product do not.
-/

import Daftar.Pos.SalePricing
import Mathlib.Algebra.BigOperators.Ring.List
import Mathlib.Algebra.Order.BigOperators.Group.List

namespace Daftar.Pos

open Fallible
open Grouping
open Inventory.Payload
open Rounding

variable {cat : Catalogue}

/-! ## 1. The checkout's pricing -/

/-- The sale's plan, from the snapshot to the priced lines. -/
def priceCheckout (cat : Catalogue) (snapshot : List CartSnapshotLine) :
    Except Refusal PricedSale := do
  let resolved ← resolveVariants cat (saleLines snapshot)
  price (saleLines snapshot) resolved
    (readSalePriceFacts cat (resolved.map ResolvedVariant.variantId))

/-- An accepted plan sells the merged lines of the snapshot. -/
theorem priceCheckout_lines {snapshot : List CartSnapshotLine} {sale : PricedSale}
    (h : priceCheckout cat snapshot = .ok sale) :
    sale.lines.map PricedLine.line = saleLines snapshot := by
  simp only [priceCheckout, bind_eq_ok] at h
  obtain ⟨resolved, hres, hprice⟩ := h
  exact price_lines
    ((mapM_eq_ok.mp hres).imp fun _ _ hv => resolvesTo_of_resolveVariant hv _) hprice

/-- The till charges what it shows: the sale never refuses a discount, and an accepted sale has the
    figures of the cart. -/
def ChargesWhatItShows (basket : List (BasketLine cat)) (cart : PricedCart) : Prop :=
  priceCheckout cat (basket.map BasketLine.snapshot) ≠ .error (.sale .discountInvalid) ∧
    ∀ sale, priceCheckout cat (basket.map BasketLine.snapshot) = .ok sale →
      sale.subtotalTxnMinor = cart.subtotalMinor ∧ sale.discountTxnMinor = cart.discountMinor ∧
        sale.totalTxnMinor = cart.totalMinor

/-! ## 2. The part rounding drops -/

/-- The part of `n` that half-even rounding at the quantity scale leaves out, with its sign. -/
def dropped (n : ℤ) : ℤ :=
  let r := n % QUANTITY_SCALE
  if 2 * r < QUANTITY_SCALE ∨ (2 * r = QUANTITY_SCALE ∧ n / QUANTITY_SCALE % 2 = 0) then r
  else r - QUANTITY_SCALE

theorem scale_mul_nearestEven (n : ℤ) :
    QUANTITY_SCALE * nearestEven n QUANTITY_SCALE = n - dropped n := by
  obtain ⟨hle, hge, htie⟩ := nearestEven_spec n scale_pos
  rw [Int.even_iff] at htie
  unfold dropped
  simp only [QUANTITY_SCALE] at hle hge htie ⊢
  generalize nearestEven n (10 ^ 4) = q at hle hge htie ⊢
  norm_num at hle hge htie ⊢
  split <;> omega

theorem dropped_of_dvd {n : ℤ} (h : QUANTITY_SCALE ∣ n) : dropped n = 0 := by
  unfold dropped
  rw [Int.emod_eq_zero_of_dvd h]
  simp [scale_pos]

/-! ## 3. The lines of a basket -/

namespace BasketLine

/-- The catalogue price. -/
def unitPrice (b : BasketLine cat) : ℤ := b.row.priceMinor.getD 0

def resolved (b : BasketLine cat) : ResolvedVariant :=
  ⟨b.row.productId, b.row.variantId, b.row.merchantVariantId⟩

end BasketLine

theorem find?_eq_of_unique {α : Type} {p : α → Bool} {xs : List α} {x : α} (hx : x ∈ xs)
    (hp : p x = true) (hu : ∀ y ∈ xs, p y = true → y = x) : xs.find? p = some x := by
  cases hf : xs.find? p with
  | none => exact absurd hp (List.find?_eq_none.mp hf x hx)
  | some y => rw [hu y (List.mem_of_find?_eq_some hf) (List.find?_some hf)]

/-- A basket line's variant is found again from its product and its merchant variant. -/
theorem resolveVariant_mergedLine (basket : List (BasketLine cat)) (b : BasketLine cat) :
    resolveVariant cat (saleLine (mergedLine basket b)) = .ok b.resolved := by
  have hmem : b.row ∈ cat.rows.filter fun r => r.productId = b.row.productId :=
    List.mem_filter.mpr ⟨b.held, by simp⟩
  have hrow : ∀ r ∈ cat.rows.filter (fun r => decide (r.productId = b.row.productId)),
      r ∈ cat.rows ∧ r.productId = b.row.productId := by
    intro r hr
    exact ⟨List.mem_of_mem_filter hr, of_decide_eq_true (List.mem_filter.mp hr).2⟩
  have hp : (saleLine (mergedLine basket b)).productId = b.row.productId := rfl
  unfold resolveVariant
  simp only [hp]
  split
  · rename_i hnil
    rw [hnil] at hmem
    cases hmem
  · cases hbase : b.row.isBase with
    | true =>
        have hv : (saleLine (mergedLine basket b)).variantId = none := by
          show b.row.merchantVariantId = none
          unfold CatalogueRow.merchantVariantId
          rw [if_pos hbase]
        have hfind : (cat.rows.filter fun r => decide (r.productId = b.row.productId)).find?
            (fun r => r.isBase) = some b.row :=
          find?_eq_of_unique hmem hbase fun r hr hrb =>
            cat.base_unique r (hrow r hr).1 b.row b.held hrb hbase (hrow r hr).2
        rw [hv]
        simp only [hfind]
        unfold BasketLine.resolved
        rw [show b.row.merchantVariantId = _ from hv]
    | false =>
        have hv : (saleLine (mergedLine basket b)).variantId = some b.row.variantId := by
          show b.row.merchantVariantId = some b.row.variantId
          unfold CatalogueRow.merchantVariantId
          rw [if_neg (by simp [hbase])]
        have hfind : (cat.rows.filter fun r => decide (r.productId = b.row.productId)).find?
            (fun r => decide (r.variantId = b.row.variantId) && !r.isBase) = some b.row := by
          refine find?_eq_of_unique hmem (by simp [hbase]) fun r hr hrv => ?_
          rw [Bool.and_eq_true] at hrv
          exact cat.variant_unique r (hrow r hr).1 b.row b.held (of_decide_eq_true hrv.1)
        rw [hv]
        simp only [hfind]
        unfold BasketLine.resolved
        rw [show b.row.merchantVariantId = _ from hv]

theorem resolveVariants_basket (basket : List (BasketLine cat)) :
    resolveVariants cat (saleLines (basket.map BasketLine.snapshot)) =
      .ok ((heads BasketLine.key basket).map BasketLine.resolved) := by
  unfold resolveVariants saleLines
  rw [mapM_eq_ok, mergeByStockKey_snapshot, List.map_map, List.forall₂_map_left_iff,
    List.forall₂_map_right_iff]
  exact List.forall₂_same.mpr fun b _ => resolveVariant_mergedLine basket b

/-- The facts read for a line of the basket are those of its row. -/
theorem readSalePriceFacts_basket {bs : List (BasketLine cat)} {b : BasketLine cat} (hb : b ∈ bs) :
    readSalePriceFacts cat ((bs.map BasketLine.resolved).map ResolvedVariant.variantId)
      b.resolved.variantId = some b.row.priceFacts := by
  unfold readSalePriceFacts
  rw [if_pos (List.mem_map_of_mem (List.mem_map_of_mem hb))]
  have hfind : cat.rows.find? (fun r => decide (r.variantId = b.resolved.variantId)) = some b.row :=
    find?_eq_of_unique b.held (by simp [BasketLine.resolved]) fun r hr hrv =>
      cat.variant_unique r hr b.row b.held (of_decide_eq_true hrv)
  rw [hfind]
  rfl

/-! ## 4. The sale's loop over the keys of a basket -/

/-- Admission of the key of `b`. -/
def KeyAdmitted (basket : List (BasketLine cat)) (b : BasketLine cat) : Prop :=
  Admitted b.row (keyQuantity basket b) (keyDiscount basket b)

/-- The gross of the key of `b`. -/
def keyGross (basket : List (BasketLine cat)) (b : BasketLine cat) : ℤ :=
  b.row.gross (keyQuantity basket b)

theorem quantity_saleLine_mergedLine (basket : List (BasketLine cat)) (b : BasketLine cat) :
    (saleLine (mergedLine basket b)).quantity = keyQuantity basket b := rfl

theorem discountMinor_saleLine_mergedLine (basket : List (BasketLine cat)) (b : BasketLine cat) :
    (saleLine (mergedLine basket b)).discountMinor = keyDiscount basket b := rfl

section Loop

variable {basket hs : List (BasketLine cat)} {facts : Uuid → Option SalePriceFacts} {base : String}
  (hfacts : ∀ b ∈ hs, facts b.resolved.variantId = some b.row.priceFacts)
  (hbase : ∀ b ∈ hs, b.row.priceCurrency = some base)
include hfacts hbase

theorem priceSaleLines_run : ∀ {s t : SaleLoop},
    priceSaleLines facts s (hs.map fun b => saleLine (mergedLine basket b))
      (hs.map BasketLine.resolved) = .ok t →
      (∀ b ∈ hs, KeyAdmitted basket b ∧ keyDiscount basket b ≤ keyGross basket b) ∧
        t.subtotal = s.subtotal + (hs.map (keyGross basket)).sum ∧
        t.discount = s.discount + (hs.map (keyDiscount basket)).sum ∧
        (hs = [] → t.currency = s.currency) := by
  induction hs with
  | nil =>
      intro s t h
      cases h
      exact ⟨fun _ hb => absurd hb List.not_mem_nil, by simp, by simp, fun _ => rfl⟩
  | cons b hs ih =>
      intro s t h
      rw [List.map_cons, List.map_cons, priceSaleLines, bind_eq_ok] at h
      obtain ⟨u, hu, ht⟩ := h
      obtain ⟨hadm, hcap, hsub, hdis, _⟩ := priceSaleLine_eq_ok (hfacts b List.mem_cons_self) hu
      rw [quantity_saleLine_mergedLine] at hadm hcap hsub
      rw [discountMinor_saleLine_mergedLine] at hadm hcap hdis
      obtain ⟨hall, hsub', hdis', _⟩ := ih (fun c hc => hfacts c (List.mem_cons_of_mem _ hc))
        (fun c hc => hbase c (List.mem_cons_of_mem _ hc)) ht
      refine ⟨?_, ?_, ?_, fun hnil => absurd hnil (List.cons_ne_nil _ _)⟩
      · intro c hc
        rcases List.mem_cons.mp hc with rfl | hc
        · exact ⟨hadm, hcap⟩
        · exact hall c hc
      · rw [hsub', hsub, List.map_cons, List.sum_cons, ← add_assoc]
        rfl
      · rw [hdis', hdis, List.map_cons, List.sum_cons, ← add_assoc]

/-- Where every key is admitted and fits, the loop takes all of them. -/
theorem priceSaleLines_of_fit : ∀ {s : SaleLoop}, (s.currency = none ∨ s.currency = some base) →
    (∀ b ∈ hs, KeyAdmitted basket b ∧ keyDiscount basket b ≤ keyGross basket b) →
      ∃ t, priceSaleLines facts s (hs.map fun b => saleLine (mergedLine basket b))
        (hs.map BasketLine.resolved) = .ok t ∧ (hs ≠ [] → t.currency = some base) := by
  induction hs with
  | nil => exact fun _ _ => ⟨_, rfl, fun h => absurd rfl h⟩
  | cons b hs ih =>
      intro s hs' hall
      have hb := hall b List.mem_cons_self
      have hc := hbase b List.mem_cons_self
      obtain ⟨u, hu⟩ := (priceSaleLine_of_admitted (l := saleLine (mergedLine basket b))
        (hfacts b List.mem_cons_self) hc hs' hb.1).2 hb.2
      obtain ⟨_, _, _, _, c, hrow, hcur⟩ := priceSaleLine_eq_ok (hfacts b List.mem_cons_self) hu
      have hu' : u.currency = some base := by
        rw [hc, Option.some.injEq] at hrow
        rw [hcur, ← hrow]
        rcases hs' with hs' | hs' <;> rw [hs'] <;> rfl
      obtain ⟨t, ht, htc⟩ := ih (fun c hc => hfacts c (List.mem_cons_of_mem _ hc))
        (fun c hc => hbase c (List.mem_cons_of_mem _ hc)) (.inr hu')
        (fun c hc => hall c (List.mem_cons_of_mem _ hc))
      refine ⟨t, ?_, fun _ => ?_⟩
      · rw [List.map_cons, List.map_cons, priceSaleLines, hu, ok_bind, ht]
      · by_cases hnil : hs = []
        · subst hnil
          cases ht
          exact hu'
        · exact htc hnil

/-- **The loop refuses a discount exactly when some key is reached, admitted, and discounted above
    its gross.** -/
theorem priceSaleLines_eq_discountInvalid : ∀ {s : SaleLoop},
    (s.currency = none ∨ s.currency = some base) →
    (priceSaleLines facts s (hs.map fun b => saleLine (mergedLine basket b))
      (hs.map BasketLine.resolved) = .error (.sale .discountInvalid) ↔
      ∃ before b after, hs = before ++ b :: after ∧ (∀ h ∈ before ++ [b], KeyAdmitted basket h) ∧
        keyGross basket b < keyDiscount basket b) := by
  induction hs with
  | nil =>
      intro s _
      constructor
      · intro h
        cases h
      · rintro ⟨before, b, after, hnil, _⟩
        cases before <;> cases hnil
  | cons c hs ih =>
      intro s hs'
      have hf := hfacts c List.mem_cons_self
      have hc := hbase c List.mem_cons_self
      have ih' := fun {t : SaleLoop} =>
        ih (fun b hb => hfacts b (List.mem_cons_of_mem _ hb))
          (fun b hb => hbase b (List.mem_cons_of_mem _ hb)) (s := t)
      -- An accepted turn leaves the basket's currency.
      have hcur : ∀ t, priceSaleLine facts s (saleLine (mergedLine basket c)) c.resolved = .ok t →
          t.currency = some base := by
        intro t ht
        obtain ⟨_, _, _, _, cc, hrow, hcc⟩ := priceSaleLine_eq_ok hf ht
        rw [hc, Option.some.injEq] at hrow
        rw [hcc, ← hrow]
        rcases hs' with hs' | hs' <;> rw [hs'] <;> rfl
      rw [List.map_cons, List.map_cons, priceSaleLines, bind_eq_error]
      constructor
      · rintro (h | ⟨t, ht, h⟩)
        · obtain ⟨hadm, hlt⟩ := priceSaleLine_eq_discountInvalid hf h
          refine ⟨[], c, hs, rfl, ?_, hlt⟩
          intro x hx
          rw [List.nil_append, List.mem_singleton] at hx
          rw [hx]
          exact hadm
        · obtain ⟨before, b, after, rfl, hadm, hlt⟩ := (ih' (.inr (hcur t ht))).mp h
          refine ⟨c :: before, b, after, rfl, ?_, hlt⟩
          intro x hx
          rw [List.cons_append] at hx
          rcases List.mem_cons.mp hx with rfl | hx
          · exact (priceSaleLine_eq_ok hf ht).1
          · exact hadm x hx
      · rintro ⟨before, b, after, heq, hadm, hlt⟩
        cases before with
        | nil =>
            rw [List.nil_append, List.cons.injEq] at heq
            obtain ⟨rfl, _⟩ := heq
            have hb : KeyAdmitted basket c := hadm c (by simp)
            exact .inl ((priceSaleLine_of_admitted (l := saleLine (mergedLine basket c)) hf hc hs'
              hb).1 hlt)
        | cons d before =>
            rw [List.cons_append, List.cons.injEq] at heq
            obtain ⟨rfl, rfl⟩ := heq
            have hb : KeyAdmitted basket c := hadm c (by simp)
            have hturn := priceSaleLine_of_admitted (l := saleLine (mergedLine basket c)) hf hc hs' hb
            by_cases hfit : keyDiscount basket c ≤ keyGross basket c
            · obtain ⟨t, ht⟩ := hturn.2 hfit
              refine .inr ⟨t, ht, (ih' (.inr (hcur t ht))).mpr ⟨before, b, after, rfl, ?_, hlt⟩⟩
              intro x hx
              exact hadm x (List.mem_cons_of_mem _ hx)
            · exact .inl (hturn.1 (not_le.mp hfit))

end Loop

/-! ## 5. When the two agree -/

section Sums

variable (basket : List (BasketLine cat))

/-- Over the keys, the merged quantities at their prices are the lines at theirs. -/
theorem sum_keyQuantity_mul :
    ((heads BasketLine.key basket).map fun b => keyQuantity basket b * b.unitPrice).sum =
      (basket.map fun b => b.quantityQ4 * b.unitPrice).sum := by
  rw [← sum_heads BasketLine.key (fun b => b.quantityQ4 * b.unitPrice) basket]
  congr 1
  apply List.map_congr_left
  intro b _
  unfold keyQuantity
  rw [← List.sum_map_mul_right]
  congr 1
  apply List.map_congr_left
  intro c hc
  -- A member of the key stands on the same row.
  have hrow := BasketLine.row_eq_of_key (of_decide_eq_true (List.mem_filter.mp hc).2)
  show c.quantityQ4 * b.unitPrice = c.quantityQ4 * c.unitPrice
  unfold BasketLine.unitPrice
  rw [hrow]

theorem sum_keyDiscount :
    ((heads BasketLine.key basket).map (keyDiscount basket)).sum =
      (basket.map BasketLine.requestedDiscountMinor).sum :=
  sum_heads BasketLine.key BasketLine.requestedDiscountMinor basket

/-- A sum of rounded grosses is the sum of the products less what rounding drops. -/
theorem scale_mul_sum_gross {α : Type} (f : α → ℤ) (xs : List α) :
    QUANTITY_SCALE * (xs.map fun x => nearestEven (f x) QUANTITY_SCALE).sum =
      (xs.map f).sum - (xs.map fun x => dropped (f x)).sum := by
  induction xs with
  | nil => simp
  | cons x xs ih =>
      simp only [List.map_cons, List.sum_cons]
      rw [mul_add, ih, scale_mul_nearestEven]
      ring

end Sums

/-- The till and the sale agree on a basket: at each key the sale reaches, the summed discount
    requests fit the price of the summed quantity less what rounding drops; and where every key is
    admitted and something is left to charge, the parts dropped line by line sum to the parts
    dropped key by key. -/
structure Agree (basket : List (BasketLine cat)) : Prop where
  covered : ∀ before b after, heads BasketLine.key basket = before ++ b :: after →
    (∀ h ∈ before ++ [b], KeyAdmitted basket h) →
      QUANTITY_SCALE * keyDiscount basket b + dropped (keyQuantity basket b * b.unitPrice) ≤
        keyQuantity basket b * b.unitPrice
  dropped_eq : (∀ h ∈ heads BasketLine.key basket, KeyAdmitted basket h) →
    ((heads BasketLine.key basket).map fun b =>
        QUANTITY_SCALE * keyDiscount basket b + dropped (keyQuantity basket b * b.unitPrice)).sum <
      (basket.map fun b => b.quantityQ4 * b.unitPrice).sum →
    (basket.map fun b => dropped (b.quantityQ4 * b.unitPrice)).sum =
      ((heads BasketLine.key basket).map fun b =>
        dropped (keyQuantity basket b * b.unitPrice)).sum

/-- A key's discount fits its gross exactly when it is covered. -/
theorem covered_iff (basket : List (BasketLine cat)) (b : BasketLine cat) :
    QUANTITY_SCALE * keyDiscount basket b + dropped (keyQuantity basket b * b.unitPrice) ≤
        keyQuantity basket b * b.unitPrice ↔ keyDiscount basket b ≤ keyGross basket b := by
  have h := scale_mul_nearestEven (keyQuantity basket b * b.unitPrice)
  have hg : keyGross basket b = nearestEven (keyQuantity basket b * b.unitPrice) QUANTITY_SCALE := rfl
  rw [← hg] at h
  simp only [QUANTITY_SCALE] at h ⊢
  omega

/-- What the sale totals, over the keys. -/
theorem scale_mul_sum_keyGross (basket : List (BasketLine cat)) :
    QUANTITY_SCALE * ((heads BasketLine.key basket).map (keyGross basket)).sum =
      (basket.map fun b => b.quantityQ4 * b.unitPrice).sum -
        ((heads BasketLine.key basket).map fun b =>
          dropped (keyQuantity basket b * b.unitPrice)).sum := by
  rw [← sum_keyQuantity_mul]
  exact scale_mul_sum_gross (fun b => keyQuantity basket b * b.unitPrice) _

/-- What the till totals, over the lines. -/
theorem scale_mul_sum_lineGross (basket : List (BasketLine cat)) :
    QUANTITY_SCALE * ((basket.map BasketLine.stored).map StoredCartLine.gross).sum =
      (basket.map fun b => b.quantityQ4 * b.unitPrice).sum -
        (basket.map fun b => dropped (b.quantityQ4 * b.unitPrice)).sum := by
  rw [List.map_map]
  exact scale_mul_sum_gross (fun b => b.quantityQ4 * b.unitPrice) basket

section Agreement

variable {basket : List (BasketLine cat)} {base : String}
  (hbase : ∀ b ∈ basket, b.row.priceCurrency = some base)
include hbase

/-- The facts and the currency of the keys, for the loop lemmas. -/
theorem heads_facts :
    (∀ b ∈ heads BasketLine.key basket,
      readSalePriceFacts cat (((heads BasketLine.key basket).map BasketLine.resolved).map
        ResolvedVariant.variantId) b.resolved.variantId = some b.row.priceFacts) ∧
      ∀ b ∈ heads BasketLine.key basket, b.row.priceCurrency = some base :=
  ⟨fun _ hb => readSalePriceFacts_basket hb, fun b hb => hbase b (mem_of_mem_heads hb)⟩

omit hbase in
theorem priceCheckout_basket : priceCheckout cat (basket.map BasketLine.snapshot) =
    price ((heads BasketLine.key basket).map fun b => saleLine (mergedLine basket b))
      ((heads BasketLine.key basket).map BasketLine.resolved)
      (readSalePriceFacts cat (((heads BasketLine.key basket).map BasketLine.resolved).map
        ResolvedVariant.variantId)) := by
  unfold priceCheckout
  rw [resolveVariants_basket, ok_bind]
  unfold saleLines
  rw [mergeByStockKey_snapshot, List.map_map]
  rfl

/-- An accepted sale: every key admitted and fitting, and the totals of the keys. -/
theorem priceCheckout_eq_ok {sale : PricedSale}
    (h : priceCheckout cat (basket.map BasketLine.snapshot) = .ok sale) :
    (∀ b ∈ heads BasketLine.key basket,
      KeyAdmitted basket b ∧ keyDiscount basket b ≤ keyGross basket b) ∧
      sale.subtotalTxnMinor = ((heads BasketLine.key basket).map (keyGross basket)).sum ∧
      sale.discountTxnMinor = ((heads BasketLine.key basket).map (keyDiscount basket)).sum ∧
      sale.totalTxnMinor = sale.subtotalTxnMinor - sale.discountTxnMinor ∧
      0 < sale.totalTxnMinor := by
  rw [priceCheckout_basket] at h
  simp only [price, bind_eq_ok, refuseIf_eq_ok, exists_const] at h
  obtain ⟨_, s, hs, hsale⟩ := h
  obtain ⟨hf, hb⟩ := heads_facts hbase
  obtain ⟨hall, hsub, hdis, _⟩ := priceSaleLines_run hf hb hs
  unfold SaleLoop.sale at hsale
  split at hsale
  · cases hsale
  · simp only [bind_eq_ok, refuseIf_eq_ok, exists_const, pure_eq_ok, not_le] at hsale
    obtain ⟨hpos, rfl⟩ := hsale
    refine ⟨hall, ?_, ?_, rfl, hpos⟩
    · rw [hsub]
      exact zero_add _
    · rw [hdis]
      exact zero_add _

/-- Keys that are admitted and fit, and something to charge: the sale is accepted. -/
theorem priceCheckout_of_fit (hlen : basket.length ≤ MAX_SALE_LINES)
    (hall : ∀ b ∈ heads BasketLine.key basket,
      KeyAdmitted basket b ∧ keyDiscount basket b ≤ keyGross basket b)
    (hpos : ((heads BasketLine.key basket).map (keyDiscount basket)).sum <
      ((heads BasketLine.key basket).map (keyGross basket)).sum) :
    ∃ sale, priceCheckout cat (basket.map BasketLine.snapshot) = .ok sale := by
  obtain ⟨hf, hb⟩ := heads_facts hbase
  obtain ⟨t, ht, hcur⟩ := priceSaleLines_of_fit hf hb (s := .start) (.inl rfl) hall
  obtain ⟨_, hsub, hdis, _⟩ := priceSaleLines_run hf hb ht
  have hne : heads BasketLine.key basket ≠ [] := by
    intro hnil
    rw [hnil] at hpos
    exact absurd hpos (lt_irrefl _)
  have hheads : (heads BasketLine.key basket).length ≤ MAX_SALE_LINES :=
    (length_heads_le basket).trans hlen
  have hguard : ¬ (((heads BasketLine.key basket).map fun b =>
      saleLine (mergedLine basket b)).length = 0 ∨ MAX_SALE_LINES < ((heads BasketLine.key
        basket).map fun b => saleLine (mergedLine basket b)).length) := by
    rw [List.length_map, not_or, not_lt, List.length_eq_zero_iff]
    exact ⟨hne, hheads⟩
  have htot : ¬ t.subtotal - t.discount ≤ 0 := by
    have h1 : t.subtotal = _ := hsub.trans (zero_add _)
    have h2 : t.discount = _ := hdis.trans (zero_add _)
    rw [h1, h2]
    omega
  rw [priceCheckout_basket]
  unfold price
  rw [refuseIf_of_not hguard, ok_bind, ht, ok_bind]
  unfold SaleLoop.sale
  rw [hcur hne]
  simp only [refuseIf_of_not htot, ok_bind]
  exact ⟨_, rfl⟩

/-- The sale refuses a discount exactly at a key it reaches that is not covered. -/
theorem priceCheckout_eq_discountInvalid (hlen : basket.length ≤ MAX_SALE_LINES) :
    priceCheckout cat (basket.map BasketLine.snapshot) = .error (.sale .discountInvalid) ↔
      ∃ before b after, heads BasketLine.key basket = before ++ b :: after ∧
        (∀ h ∈ before ++ [b], KeyAdmitted basket h) ∧ keyGross basket b < keyDiscount basket b := by
  obtain ⟨hf, hb⟩ := heads_facts hbase
  have hheads : (heads BasketLine.key basket).length ≤ MAX_SALE_LINES :=
    (length_heads_le basket).trans hlen
  rw [← priceSaleLines_eq_discountInvalid hf hb (s := .start) (.inl rfl), priceCheckout_basket]
  unfold price
  rw [bind_eq_error, refuseIf_eq_error]
  constructor
  · rintro (⟨_, he⟩ | ⟨_, _, h⟩)
    · cases he
    · rw [bind_eq_error] at h
      rcases h with h | ⟨s, _, hs⟩
      · exact h
      · unfold SaleLoop.sale at hs
        split at hs
        · cases hs
        · simp only [bind_eq_error, refuseIf_eq_error, pure_ne_error, Refusal.sale.injEq,
            reduceCtorEq, and_false, exists_false, or_false] at hs
  · intro h
    refine .inr ⟨(), ?_, ?_⟩
    · refine refuseIf_of_not ?_
      rw [List.length_map, not_or, not_lt, List.length_eq_zero_iff]
      refine ⟨?_, hheads⟩
      intro hnil
      rw [hnil] at h
      cases h
    · rw [h]
      rfl

/-- **Exactly when the till charges what it shows.** -/
theorem chargesWhatItShows_iff {fallbackCurrency : String} {cart : PricedCart}
    (hcart : priceCart (basket.map BasketLine.stored) fallbackCurrency = .ok cart) :
    ChargesWhatItShows basket cart ↔ Agree basket := by
  obtain ⟨hlen, _, hlines, hsub, hdis, htot⟩ := priceCart_spec hcart
  rw [List.length_map] at hlen
  have hkeys := scale_mul_sum_keyGross basket
  have hline := scale_mul_sum_lineGross basket
  rw [← hsub] at hline
  have hdis' : cart.discountMinor = ((heads BasketLine.key basket).map (keyDiscount basket)).sum := by
    rw [hdis, sum_keyDiscount, List.map_map]
    rfl
  -- The discount requests at the quantity scale, with what the keys drop.
  have hsplit : ((heads BasketLine.key basket).map fun b =>
        QUANTITY_SCALE * keyDiscount basket b + dropped (keyQuantity basket b * b.unitPrice)).sum =
      QUANTITY_SCALE * ((heads BasketLine.key basket).map (keyDiscount basket)).sum +
        ((heads BasketLine.key basket).map fun b =>
          dropped (keyQuantity basket b * b.unitPrice)).sum := by
    rw [List.sum_map_add, List.sum_map_mul_left]
  unfold ChargesWhatItShows
  rw [Ne, priceCheckout_eq_discountInvalid hbase hlen]
  constructor
  · rintro ⟨hnot, hsame⟩
    have hcov : ∀ before b after, heads BasketLine.key basket = before ++ b :: after →
        (∀ h ∈ before ++ [b], KeyAdmitted basket h) →
          keyDiscount basket b ≤ keyGross basket b := by
      intro before b after heq hadm
      by_contra hlt
      exact hnot ⟨before, b, after, heq, hadm, not_le.mp hlt⟩
    refine ⟨fun before b after heq hadm => (covered_iff basket b).mpr (hcov before b after heq hadm),
      fun hadm hlt => ?_⟩
    have hfit : ∀ b ∈ heads BasketLine.key basket,
        KeyAdmitted basket b ∧ keyDiscount basket b ≤ keyGross basket b := by
      intro b hb
      obtain ⟨before, after, heq⟩ := List.append_of_mem hb
      refine ⟨hadm b hb, hcov before b after heq fun h hh => hadm h ?_⟩
      rw [heq]
      rcases List.mem_append.mp hh with hh | hh
      · exact List.mem_append_left _ hh
      · rw [List.mem_singleton.mp hh]
        exact List.mem_append_right _ List.mem_cons_self
    rw [hsplit] at hlt
    have hpos : ((heads BasketLine.key basket).map (keyDiscount basket)).sum <
        ((heads BasketLine.key basket).map (keyGross basket)).sum := by
      simp only [QUANTITY_SCALE] at hlt hkeys
      omega
    obtain ⟨sale, hsale⟩ := priceCheckout_of_fit hbase hlen hfit hpos
    have hs := (priceCheckout_eq_ok hbase hsale).2.1
    rw [(hsame sale hsale).1] at hs
    rw [hs] at hline
    omega
  · intro hagree
    refine ⟨?_, ?_⟩
    · rintro ⟨before, b, after, heq, hadm, hlt⟩
      exact absurd ((covered_iff basket b).mp (hagree.covered before b after heq hadm))
        (not_le.mpr hlt)
    · intro sale hsale
      obtain ⟨hall, hs, hd, ht, hpos⟩ := priceCheckout_eq_ok hbase hsale
      have hdrop := hagree.dropped_eq (fun b hb => (hall b hb).1) (by
        rw [hsplit]
        rw [ht, hs, hd] at hpos
        simp only [QUANTITY_SCALE] at hkeys ⊢
        omega)
      have heq : sale.subtotalTxnMinor = cart.subtotalMinor := by
        rw [hs]
        simp only [QUANTITY_SCALE] at hkeys hline
        omega
      exact ⟨heq, hd.trans hdis'.symm, by rw [ht, htot, heq, hd, hdis']⟩

/-- A cart whose lines cost whole minor units is charged as shown: rounding drops nothing. -/
theorem chargesWhatItShows_of_whole {fallbackCurrency : String} {cart : PricedCart}
    (hcart : priceCart (basket.map BasketLine.stored) fallbackCurrency = .ok cart)
    (hwhole : ∀ b ∈ basket, QUANTITY_SCALE ∣ b.quantityQ4 * b.unitPrice) :
    ChargesWhatItShows basket cart := by
  have hkey : ∀ b, keyQuantity basket b * b.unitPrice =
      ((members BasketLine.key basket b).map fun c => c.quantityQ4 * c.unitPrice).sum := by
    intro b
    unfold keyQuantity
    rw [← List.sum_map_mul_right]
    congr 1
    apply List.map_congr_left
    intro c hc
    have hrow := BasketLine.row_eq_of_key (of_decide_eq_true (List.mem_filter.mp hc).2)
    show c.quantityQ4 * b.unitPrice = c.quantityQ4 * c.unitPrice
    unfold BasketLine.unitPrice
    rw [hrow]
  have hdvd : ∀ b, QUANTITY_SCALE ∣ keyQuantity basket b * b.unitPrice := by
    intro b
    rw [hkey]
    apply List.dvd_sum
    intro n hn
    obtain ⟨c, hc, rfl⟩ := List.mem_map.mp hn
    exact hwhole c (List.mem_of_mem_filter hc)
  obtain ⟨_, _, hlines, _⟩ := priceCart_spec hcart
  rw [chargesWhatItShows_iff hbase hcart]
  refine ⟨fun before b after _ _ => ?_, fun _ _ => ?_⟩
  · rw [dropped_of_dvd (hdvd b), add_zero, hkey]
    unfold keyDiscount
    rw [← List.sum_map_mul_left]
    apply List.sum_le_sum
    intro c hc
    have hcb := List.mem_of_mem_filter hc
    have hcap := (hlines c.stored (List.mem_map_of_mem hcb)).2
    have hgross := scale_mul_nearestEven (c.quantityQ4 * c.unitPrice)
    rw [dropped_of_dvd (hwhole c hcb), sub_zero] at hgross
    rw [← hgross]
    exact mul_le_mul_of_nonneg_left hcap scale_pos.le
  · have hl : (basket.map fun b => dropped (b.quantityQ4 * b.unitPrice)) = basket.map fun _ => 0 :=
      List.map_congr_left fun b hb => dropped_of_dvd (hwhole b hb)
    have hk : ((heads BasketLine.key basket).map fun b =>
        dropped (keyQuantity basket b * b.unitPrice)) =
          (heads BasketLine.key basket).map fun _ => 0 :=
      List.map_congr_left fun b _ => dropped_of_dvd (hdvd b)
    rw [hl, hk]
    simp

end Agreement

/-! ## 6. Two halves of one product -/

/-- A simple product sold by weight at 333 minor units. -/
def sampleRow : CatalogueRow where
  productId := .sample 1
  variantId := .sample 2
  isBase := true
  productStatus := .active
  variantStatus := .active
  trackInventory := true
  unitDecimals := some 3
  priceMinor := some 333
  priceCurrency := some "SAR"
  arabicName := "tea"
  nameSnapshot := "tea"

def sampleCatalogue : Catalogue where
  rows := [sampleRow]
  variant_unique := by
    intro a ha b hb _
    rw [List.mem_singleton.mp ha, List.mem_singleton.mp hb]
  base_unique := by
    intro a ha b hb _ _ _
    rw [List.mem_singleton.mp ha, List.mem_singleton.mp hb]

/-- Half a unit, scanned twice. -/
def sampleBasket : List (BasketLine sampleCatalogue) :=
  [ ⟨.sample 3, 1, 5000, 0, sampleRow, List.mem_singleton_self _⟩,
    ⟨.sample 4, 2, 5000, 0, sampleRow, List.mem_singleton_self _⟩ ]

/-- The till shows 166 twice, 332; the sale charges 333. -/
theorem not_chargesWhatItShows_halves :
    ¬ ∀ (base fallbackCurrency : String) (cart : PricedCart),
      priceCart (sampleBasket.map BasketLine.stored) fallbackCurrency = .ok cart →
      (∀ b ∈ sampleBasket, b.row.priceCurrency = some base) →
      ChargesWhatItShows sampleBasket cart := by
  intro h
  have hshown : (priceCart (sampleBasket.map BasketLine.stored) "SAR").toOption.map
      PricedCart.subtotalMinor = some 332 := by decide +kernel
  have hcharged : (priceCheckout sampleCatalogue (sampleBasket.map BasketLine.snapshot)).toOption.map
      PricedSale.subtotalTxnMinor = some 333 := by decide +kernel
  cases hc : priceCart (sampleBasket.map BasketLine.stored) "SAR" with
  | error e =>
      rw [hc] at hshown
      cases hshown
  | ok cart =>
      cases hs : priceCheckout sampleCatalogue (sampleBasket.map BasketLine.snapshot) with
      | error e =>
          rw [hs] at hcharged
          cases hcharged
      | ok sale =>
          rw [hc] at hshown
          rw [hs] at hcharged
          have hbase : ∀ b ∈ sampleBasket, b.row.priceCurrency = some "SAR" := by
            intro b hb
            rcases List.mem_cons.mp hb with rfl | hb
            · rfl
            · rw [List.mem_singleton.mp hb]
              rfl
          have hsame := (h "SAR" "SAR" cart hc hbase).2 sale hs
          have h1 : cart.subtotalMinor = 332 := Option.some.inj hshown
          have h2 : sale.subtotalTxnMinor = 333 := Option.some.inj hcharged
          rw [h1, h2] at hsame
          exact absurd hsame.1 (by decide)

/-- Two whole units of the product, scanned one by one. -/
def wholeBasket : List (BasketLine sampleCatalogue) :=
  [ ⟨.sample 3, 1, 10000, 0, sampleRow, List.mem_singleton_self _⟩,
    ⟨.sample 4, 2, 10000, 33, sampleRow, List.mem_singleton_self _⟩ ]

def wholeCart : PricedCart where
  currency := "SAR"
  subtotalMinor := 666
  discountMinor := 33
  totalMinor := 633
  taxMinor := 0
  lines := wholeBasket.map fun b =>
    { cartLineId := b.cartLineId
      productId := sampleRow.productId
      variantId := none
      nameSnapshot := "tea"
      quantityQ4 := 10000
      unitPriceMinor := 333
      grossMinor := 333
      discountMinor := b.requestedDiscountMinor
      netMinor := 333 - b.requestedDiscountMinor }
  rounding := wholeBasket.map fun b => ⟨.line, "line:" ++ b.cartLineId.text⟩

theorem wholeBasket_currency : ∀ b ∈ wholeBasket, b.row.priceCurrency = some "SAR" := by
  intro b hb
  rcases List.mem_cons.mp hb with rfl | hb
  · rfl
  · rw [List.mem_singleton.mp hb]
    rfl

theorem chargesWhatItShows_iff_whole :
    ChargesWhatItShows wholeBasket wholeCart ↔ Agree wholeBasket :=
  chargesWhatItShows_iff wholeBasket_currency
    (show priceCart (wholeBasket.map BasketLine.stored) "SAR" = .ok wholeCart by decide +kernel)

end Daftar.Pos
