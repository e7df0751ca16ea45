/-
  File: Daftar/Pos/Basket.lean
  Subject: The live lines of a till's basket, as the till and the checkout read them.

  * A `Catalogue` is the variants joined to their products; a variant is found by its id, and a
    product has at most one base variant.
  * A `BasketLine` is a cart line joined to its catalogue row. The till's projection and the
    checkout's snapshot are two readings of it.
  * `mergeByStockKey` makes one line of each stock key. `mergeByStockKey_snapshot` says which: the
    first line of the key with the key's quantities and discount requests summed.
-/

import Daftar.Identifiers
import Daftar.Library.Grouping

namespace Daftar.Pos

open AsciiText
open Grouping
open Inventory.Payload

/-! ## 1. Catalogue and basket -/

inductive CatalogueStatus
  | active | archived
  deriving DecidableEq, Repr

/-- A row of `product_variants` joined to its `products` row. The price is the variant's, else the
    product's; the till reads the Arabic name, the sale the first name there is. -/
structure CatalogueRow where
  productId : Uuid
  variantId : Uuid
  isBase : Bool
  productStatus : CatalogueStatus
  variantStatus : CatalogueStatus
  trackInventory : Bool
  unitDecimals : Option ℕ
  priceMinor : Option ℤ
  priceCurrency : Option String
  arabicName : String
  nameSnapshot : String
  deriving DecidableEq

/-- The variants of one business, under their primary key and the one-base-variant index. -/
structure Catalogue where
  rows : List CatalogueRow
  variant_unique : ∀ a ∈ rows, ∀ b ∈ rows, a.variantId = b.variantId → a = b
  base_unique : ∀ a ∈ rows, ∀ b ∈ rows, a.isBase = true → b.isBase = true →
    a.productId = b.productId → a = b

/-- A live row of `pos_cart_lines` joined to its catalogue row. Quantities are Q4 and the discount
    request is in minor units: the texts of both are the integers they denote. -/
structure BasketLine (cat : Catalogue) where
  cartLineId : Uuid
  lineNo : ℕ
  quantityQ4 : ℤ
  requestedDiscountMinor : ℤ
  row : CatalogueRow
  held : row ∈ cat.rows

/-- What the till's projection reads of a line. -/
structure StoredCartLine where
  cartLineId : Uuid
  productId : Uuid
  variantId : Option Uuid
  quantity : ℤ
  discountMinor : ℤ
  unitPriceMinor : Option ℤ
  priceCurrency : Option String
  nameSnapshot : String
  deriving DecidableEq

/-- One bound cart row of the checkout's snapshot; the merchant variant is `none` where the stock
    key is the hidden base variant. -/
structure CartSnapshotLine where
  cartLineId : Uuid
  lineNo : ℕ
  productId : Uuid
  merchantVariantId : Option Uuid
  qtyQ4 : ℤ
  discountMinor : ℤ
  deriving DecidableEq

section Readings

variable {cat : Catalogue}

def CatalogueRow.merchantVariantId (row : CatalogueRow) : Option Uuid :=
  if row.isBase = true then none else some row.variantId

def BasketLine.stored (l : BasketLine cat) : StoredCartLine where
  cartLineId := l.cartLineId
  productId := l.row.productId
  variantId := l.row.merchantVariantId
  quantity := l.quantityQ4
  discountMinor := l.requestedDiscountMinor
  unitPriceMinor := l.row.priceMinor
  priceCurrency := l.row.priceCurrency
  nameSnapshot := l.row.arabicName

def BasketLine.snapshot (l : BasketLine cat) : CartSnapshotLine where
  cartLineId := l.cartLineId
  lineNo := l.lineNo
  productId := l.row.productId
  merchantVariantId := l.row.merchantVariantId
  qtyQ4 := l.quantityQ4
  discountMinor := l.requestedDiscountMinor

end Readings

/-! ## 2. Stock keys -/

/-- The product and the merchant variant, if any, around a colon. -/
def stockKey (line : CartSnapshotLine) : String :=
  line.productId.text ++ ":" ++ (line.merchantVariantId.map Uuid.text).getD ""

theorem optionText_injective {u v : Option Uuid}
    (h : (u.map Uuid.text).getD "" = (v.map Uuid.text).getD "") : u = v := by
  have hlen : ∀ w : Uuid, w.text ≠ "" := by
    intro w he
    have := w.length_text
    rw [he] at this
    simp at this
  cases u with
  | none =>
      cases v with
      | none => rfl
      | some v => exact absurd h.symm (hlen v)
  | some u =>
      cases v with
      | none => exact absurd h (hlen u)
      | some v => exact congrArg some (Uuid.ext_text h)

/-- **A stock key names its product and variant.** The product's text has a fixed width. -/
theorem stockKey_eq_iff {a b : CartSnapshotLine} : stockKey a = stockKey b ↔
    a.productId = b.productId ∧ a.merchantVariantId = b.merchantVariantId := by
  constructor
  · intro h
    unfold stockKey at h
    have hl := congrArg String.toList h
    rw [String.toList_append, String.toList_append, String.toList_append, String.toList_append,
      List.append_assoc, List.append_assoc] at hl
    have hlen : a.productId.text.toList.length = b.productId.text.toList.length := by
      rw [a.productId.length_text, b.productId.length_text]
    obtain ⟨hp, hrest⟩ := List.append_inj hl hlen
    have hv := List.append_cancel_left hrest
    exact ⟨Uuid.ext_text (String.toList_inj.mp hp), optionText_injective (String.toList_inj.mp hv)⟩
  · rintro ⟨hp, hv⟩
    unfold stockKey
    rw [hp, hv]

/-! ## 3. One sale line per stock key -/

/-- The entry of a key takes the next line of that key in. -/
def addLine (found line : CartSnapshotLine) : CartSnapshotLine :=
  { found with
    qtyQ4 := found.qtyQ4 + line.qtyQ4
    discountMinor := found.discountMinor + line.discountMinor }

def mergeByStockKey (snapshot : List CartSnapshotLine) : List CartSnapshotLine :=
  group stockKey addLine snapshot

def CartSnapshotLine.identity (l : CartSnapshotLine) : Uuid × ℕ × Uuid × Option Uuid :=
  (l.cartLineId, l.lineNo, l.productId, l.merchantVariantId)

section AddLine

variable (a b : CartSnapshotLine)

theorem stockKey_addLine : stockKey (addLine a b) = stockKey a := rfl

theorem qtyQ4_addLine : (addLine a b).qtyQ4 = a.qtyQ4 + b.qtyQ4 := rfl

theorem discountMinor_addLine :
    (addLine a b).discountMinor = a.discountMinor + b.discountMinor := rfl

/-- An entry keeps the identity of its first line. -/
theorem identity_addLine : (addLine a b).identity = a.identity := rfl

end AddLine

/-- **The merged lines**: for each key its first line, with the quantities and the discount
    requests of all its lines summed. -/
theorem mergeByStockKey_eq (snapshot : List CartSnapshotLine) :
    mergeByStockKey snapshot = (heads stockKey snapshot).map fun h =>
      { h with
        qtyQ4 := ((members stockKey snapshot h).map CartSnapshotLine.qtyQ4).sum
        discountMinor := ((members stockKey snapshot h).map CartSnapshotLine.discountMinor).sum } := by
  unfold mergeByStockKey
  rw [group_eq stockKey_addLine]
  apply List.map_congr_left
  intro h hh
  have hq := weight_head qtyQ4_addLine hh
  have hd := weight_head discountMinor_addLine hh
  have hid := keep_foldl identity_addLine (members stockKey snapshot h).tail h
  rw [← hq, ← hd]
  generalize (members stockKey snapshot h).tail.foldl addLine h = m at hid
  cases m
  cases h
  simp only [CartSnapshotLine.identity, Prod.mk.injEq] at hid
  obtain ⟨rfl, rfl, rfl, rfl⟩ := hid
  rfl

section Keys

variable {cat : Catalogue}

def BasketLine.key (l : BasketLine cat) : String := stockKey l.snapshot

/-- Lines of one key stand on one catalogue row. -/
theorem BasketLine.row_eq_of_key {a b : BasketLine cat} (h : a.key = b.key) : a.row = b.row := by
  obtain ⟨hp, hv⟩ := stockKey_eq_iff.mp h
  have hp' : a.row.productId = b.row.productId := hp
  have hv' : a.row.merchantVariantId = b.row.merchantVariantId := hv
  unfold CatalogueRow.merchantVariantId at hv'
  cases ha : a.row.isBase <;> cases hb : b.row.isBase
  · rw [ha, hb] at hv'
    exact cat.variant_unique _ a.held _ b.held (Option.some.inj hv')
  · rw [ha, hb] at hv'
    cases hv'
  · rw [ha, hb] at hv'
    cases hv'
  · exact cat.base_unique _ a.held _ b.held ha hb hp'

/-- The summed quantity and discount request of the key of `b`. -/
def keyQuantity (basket : List (BasketLine cat)) (b : BasketLine cat) : ℤ :=
  ((members BasketLine.key basket b).map BasketLine.quantityQ4).sum

def keyDiscount (basket : List (BasketLine cat)) (b : BasketLine cat) : ℤ :=
  ((members BasketLine.key basket b).map BasketLine.requestedDiscountMinor).sum

/-- The line the checkout sells for the key of `b`. -/
def mergedLine (basket : List (BasketLine cat)) (b : BasketLine cat) : CartSnapshotLine :=
  { b.snapshot with
    qtyQ4 := keyQuantity basket b
    discountMinor := keyDiscount basket b }

theorem mergeByStockKey_snapshot (basket : List (BasketLine cat)) :
    mergeByStockKey (basket.map BasketLine.snapshot) =
      (heads BasketLine.key basket).map (mergedLine basket) := by
  rw [mergeByStockKey_eq, heads_map, List.map_map]
  apply List.map_congr_left
  intro b _
  simp only [Function.comp, members_map, List.map_map]
  rfl

end Keys

end Daftar.Pos
