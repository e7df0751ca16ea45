/-
  File: Daftar/Pos/CartProjection.lean
  Subject: The basket a cart command answers with: its live lines under the catalogue's prices.

  * `projection` joins the live lines of a session to `products` and `product_variants`.
  * `recompute` prices the projected lines; a command answers with it once its write is committed.
  * `recompute_eq_ok`: it accepts exactly what `priceCart` accepts.
-/

import Daftar.Pos.TillStore
import Mathlib.Data.List.Sort

namespace Daftar.Pos

open Fallible

/-! ## 1. The product tables -/

/-- A row of `products`, with its Arabic translation if there is one. -/
structure ProductRow where
  id : Uuid
  basePriceMinor : ℤ
  priceCurrency : String
  arabicName : Option String
  deriving DecidableEq

/-- A row of `product_variants`; one without a price has its product's. -/
structure VariantRow where
  id : Uuid
  productId : Uuid
  isBase : Bool
  priceMinor : Option ℤ
  deriving DecidableEq

/-- The products of one business and their variants, under their primary keys and the
    one-base-variant index. -/
structure ProductTables where
  products : List ProductRow
  variants : List VariantRow
  product_pk : (products.map ProductRow.id).Nodup
  variant_pk : (variants.map VariantRow.id).Nodup
  base_unique : ∀ a ∈ variants, ∀ b ∈ variants, a.isBase = true → b.isBase = true →
    a.productId = b.productId → a = b

namespace ProductTables

variable (tables : ProductTables)

def product? (id : Uuid) : Option ProductRow := tables.products.find? fun p => p.id = id

def variant? (id : Uuid) : Option VariantRow := tables.variants.find? fun v => v.id = id

/-- The hidden base variant of a product. -/
def baseVariantId (productId : Uuid) : Option Uuid :=
  (tables.variants.find? fun v => v.productId = productId ∧ v.isBase = true).map VariantRow.id

end ProductTables

/-! ## 2. The projection -/

/-- A line joined to its product and its variant. The two foreign keys of a line are apart, so the
    variant may be another product's: the price is the variant's own, else that of the line's
    product. -/
def projectedLine (tables : ProductTables) (l : CartLine) : Option StoredCartLine :=
  (tables.product? l.productId).map fun p =>
    { cartLineId := l.id
      productId := l.productId
      variantId := if (tables.variant? l.variantId).any VariantRow.isBase then none
        else some l.variantId
      quantity := l.figures.quantityQ4
      discountMinor := l.figures.requestedDiscountMinor
      unitPriceMinor := some
        (((tables.variant? l.variantId).bind VariantRow.priceMinor).getD p.basePriceMinor)
      priceCurrency := some p.priceCurrency
      nameSnapshot := p.arabicName.getD "" }

/-- Every live line of a session, in the order of its ordinals. -/
def projection (tables : ProductTables) (store : TillStore) (session : Uuid) :
    List StoredCartLine :=
  ((store.lines.rows.filter fun l : CartLine => l.LiveIn session).insertionSort
    fun a b => a.lineNo ≤ b.lineNo).filterMap (projectedLine tables)

/-! ## 3. The answer -/

/-- What a cart command answers with. Its texts are the integers they denote. -/
structure CartDto where
  tillSessionId : Uuid
  currency : String
  subtotalMinor : ℤ
  discountMinor : ℤ
  taxMinor : ℤ
  totalMinor : ℤ
  lines : List PricedCartLine
  deriving DecidableEq

def toDto (tillSessionId : Uuid) (cart : PricedCart) : CartDto where
  tillSessionId := tillSessionId
  currency := cart.currency
  subtotalMinor := cart.subtotalMinor
  discountMinor := cart.discountMinor
  taxMinor := cart.taxMinor
  totalMinor := cart.totalMinor
  lines := cart.lines

/-- The one place a cart figure is produced, with the rounding law asserted on the way out. -/
def recompute (tillSessionId : Uuid) (lines : List StoredCartLine) (fallbackCurrency : String) :
    Except Refusal CartDto := do
  let cart ← priceCart lines fallbackCurrency
  refuseIf (1 < (roundingGrains cart.rounding).length) (.pos .cartRoundingGrainInvalid)
  pure (toDto tillSessionId cart)

/-- **The answer refuses what `priceCart` refuses, and nothing else.** -/
theorem recompute_eq_ok {session : Uuid} {lines : List StoredCartLine} {fallbackCurrency : String}
    {dto : CartDto} : recompute session lines fallbackCurrency = .ok dto ↔
      ∃ cart, priceCart lines fallbackCurrency = .ok cart ∧ toDto session cart = dto := by
  have hgrains : ∀ cart : PricedCart, ¬ 1 < (roundingGrains cart.rounding).length := by
    intro cart
    rcases roundingGrains_line cart.rounding with h | h <;> simp [h]
  simp only [recompute, bind_eq_ok, refuseIf_eq_ok, exists_const, pure_eq_ok, hgrains,
    not_false_eq_true, true_and]

end Daftar.Pos
