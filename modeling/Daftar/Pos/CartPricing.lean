/-
  File: Daftar/Pos/CartPricing.lean
  Subject: The arithmetic of the till: what the cashier's screen shows.

  * `priceCart` rounds once a line, half-even, and sums exactly.
  * `priceLines_coheres`: the module's own closing check never refuses what the loop priced.
  * `priceCart_spec`: an accepted cart is the sum of its lines' rounded grosses less their discount
    requests.
-/

import Daftar.Library.NearestEven
import Daftar.Pos.Basket
import Daftar.Pos.Errors
import Mathlib.Data.List.Dedup

namespace Daftar.Pos

open Fallible
open Rounding

/-! ## 1. Fixed point -/

/-- Exclusive bound on quantity text in Q4, the column domain. -/
def QTY_DOMAIN_Q4 : ℤ := 10 ^ 18

/-- Inclusive bound on minor-unit text. -/
def VALUE_LIMIT_MINOR : ℤ := 10 ^ 18

/-- The scale quantities are exact at. -/
def QUANTITY_SCALE : ℤ := 10 ^ 4

/-- What is left of the parser once a text is the integer it denotes: the range. -/
def parseQuantity (q4 : ℤ) : Except Refusal ℤ := do
  refuseIf (q4 ≤ -QTY_DOMAIN_Q4 ∨ QTY_DOMAIN_Q4 ≤ q4) (.inventory .inventoryQuantityInvalid)
  pure q4

def parseMinor (v : ℤ) : Except Refusal ℤ := do
  refuseIf (v < -VALUE_LIMIT_MINOR ∨ VALUE_LIMIT_MINOR < v) (.inventory .inventoryValueOutOfRange)
  pure v

theorem parseQuantity_eq_ok {q4 q : ℤ} :
    parseQuantity q4 = .ok q ↔ (-QTY_DOMAIN_Q4 < q4 ∧ q4 < QTY_DOMAIN_Q4) ∧ q4 = q := by
  simp only [parseQuantity, bind_eq_ok, refuseIf_eq_ok, exists_const, pure_eq_ok, not_or, not_le]

theorem parseMinor_eq_ok {v w : ℤ} :
    parseMinor v = .ok w ↔ (-VALUE_LIMIT_MINOR ≤ v ∧ v ≤ VALUE_LIMIT_MINOR) ∧ v = w := by
  simp only [parseMinor, bind_eq_ok, refuseIf_eq_ok, exists_const, pure_eq_ok, not_or, not_lt]

/-- Half-even by quotient and remainder of the magnitude, the sign restored. -/
def halfEven (n d : ℤ) : ℤ :=
  let a := if n < 0 then -n else n
  let q := a / d
  let r := a - q * d
  let q' := if d < 2 * r ∨ (2 * r = d ∧ q % 2 ≠ 0) then q + 1 else q
  if n < 0 then -q' else q'

theorem halfEven_of_nonneg {n d : ℤ} (hn : 0 ≤ n) (hd : 0 < d) : halfEven n d = nearestEven n d := by
  lift n to ℕ using hn
  lift d to ℕ using hd.le
  rw [nearestEven_of_nonneg (Int.natCast_nonneg n) hd]
  have hn : ¬ (n : ℤ) < 0 := not_lt.mpr (Int.natCast_nonneg n)
  have hq : (n : ℤ) / d = ((n / d : ℕ) : ℤ) := (Int.natCast_ediv n d).symm
  have hle : n / d * d ≤ n := Nat.div_mul_le_self n d
  have hsub : (n : ℤ) - (n / d : ℕ) * d = ((n - n / d * d : ℕ) : ℤ) := by
    rw [Nat.cast_sub hle, Nat.cast_mul]
  have hiff : ((d : ℤ) < 2 * ((n - n / d * d : ℕ) : ℤ) ∨
      2 * ((n - n / d * d : ℕ) : ℤ) = d ∧ ((n / d : ℕ) : ℤ) % 2 ≠ 0) ↔
      (2 * (n - n / d * d) > d ∨ 2 * (n - n / d * d) = d ∧ n / d % 2 ≠ 0) := by
    omega
  simp only [halfEven, nearestEvenNat, Int.natAbs_natCast, hn, if_false, hq, hsub, hiff]
  split <;> simp

/-- **The till's rounding is nearest-even.** -/
theorem halfEven_eq {n d : ℤ} (hd : 0 < d) : halfEven n d = nearestEven n d := by
  by_cases hn : n < 0
  · have h := halfEven_of_nonneg (n := -n) (by omega) hd
    rw [nearestEven_neg] at h
    have hneg : halfEven n d = -halfEven (-n) d := by
      simp only [halfEven]
      rw [if_pos hn, if_pos hn, if_neg (show ¬ -n < 0 by omega), if_neg (show ¬ -n < 0 by omega)]
    rw [hneg, h, neg_neg]
  · exact halfEven_of_nonneg (by omega) hd

/-! ## 2. Pricing a cart -/

inductive RoundingGrain
  | line
  deriving DecidableEq, Repr

structure RoundingEntry where
  grain : RoundingGrain
  label : String
  deriving DecidableEq, Repr

/-- The distinct grains a pass rounded at. -/
def roundingGrains (ledger : List RoundingEntry) : List RoundingGrain :=
  (ledger.map RoundingEntry.grain).dedup

/-- The one rounding of the cart, which records itself in the ledger. -/
def halfEvenAtLineGrain (n d : ℤ) (label : String) (into : List RoundingEntry) :
    Except Refusal (ℤ × List RoundingEntry) := do
  refuseIf (d ≤ 0) (.pos .cartMinorUnitsInvalid)
  pure (halfEven n d, into ++ [⟨.line, label⟩])

structure PricedCartLine where
  cartLineId : Uuid
  productId : Uuid
  variantId : Option Uuid
  nameSnapshot : String
  quantityQ4 : ℤ
  unitPriceMinor : ℤ
  grossMinor : ℤ
  discountMinor : ℤ
  netMinor : ℤ
  deriving DecidableEq

structure PricedCart where
  currency : String
  subtotalMinor : ℤ
  discountMinor : ℤ
  totalMinor : ℤ
  taxMinor : ℤ
  lines : List PricedCartLine
  rounding : List RoundingEntry
  deriving DecidableEq

def MAX_CART_LINES : ℕ := 200

/-- The variables of the pricing loop. -/
structure CartLoop where
  currency : Option String
  priced : List PricedCartLine
  subtotal : ℤ
  discountTotal : ℤ
  entries : List RoundingEntry

def CartLoop.start : CartLoop := ⟨none, [], 0, 0, []⟩

/-- A line's currency must be the basket's, once there is one. -/
def currencyClash (current : Option String) (line : String) : Bool :=
  match current with
  | none => false
  | some c => c != line

/-- One turn of the loop. -/
def priceLine (s : CartLoop) (line : StoredCartLine) : Except Refusal CartLoop :=
  match line.unitPriceMinor, line.priceCurrency with
  | some price, some priceCurrency => do
    refuseIf (currencyClash s.currency priceCurrency = true) (.pos .cartCurrencyMixed)
    let quantityQ4 ← parseQuantity line.quantity
    refuseIf (quantityQ4 ≤ 0) (.pos .cartQuantityInvalid)
    let unitPriceMinor ← parseMinor price
    let (grossMinor, entries) ← halfEvenAtLineGrain (quantityQ4 * unitPriceMinor) QUANTITY_SCALE
      ("line:" ++ line.cartLineId.text) s.entries
    let discountMinor ← parseMinor line.discountMinor
    refuseIf (grossMinor < discountMinor) (.pos .cartDiscountInvalid)
    pure
      { currency := some (s.currency.getD priceCurrency)
        priced := s.priced ++
          [{ cartLineId := line.cartLineId
             productId := line.productId
             variantId := line.variantId
             nameSnapshot := line.nameSnapshot
             quantityQ4 := quantityQ4
             unitPriceMinor := unitPriceMinor
             grossMinor := grossMinor
             discountMinor := discountMinor
             netMinor := grossMinor - discountMinor }]
        subtotal := s.subtotal + grossMinor
        discountTotal := s.discountTotal + discountMinor
        entries := entries }
  | _, _ => .error (.pos .cartProductNotPriced)

/-- The module's structural law, checked on the way out. -/
def assertPricedCartCoheres (cart : PricedCart) : Except Refusal Unit := do
  let grains := roundingGrains cart.rounding
  refuseIf (1 < grains.length ∨ (grains.length = 1 ∧ grains ≠ [.line]))
    (.pos .cartRoundingGrainInvalid)
  let subtotal := (cart.lines.map PricedCartLine.grossMinor).sum
  let discount := (cart.lines.map PricedCartLine.discountMinor).sum
  refuseIf (cart.subtotalMinor ≠ subtotal ∨ cart.discountMinor ≠ discount ∨
    cart.totalMinor ≠ subtotal - discount) (.pos .cartRoundingGrainInvalid)
  refuseIf (cart.taxMinor ≠ 0) (.pos .cartMinorUnitsInvalid)

def CartLoop.cart (s : CartLoop) (fallbackCurrency : String) : PricedCart where
  currency := s.currency.getD fallbackCurrency
  subtotalMinor := s.subtotal
  discountMinor := s.discountTotal
  totalMinor := s.subtotal - s.discountTotal
  taxMinor := 0
  lines := s.priced
  rounding := s.entries

def priceCart (lines : List StoredCartLine) (fallbackCurrency : String) :
    Except Refusal PricedCart := do
  refuseIf (MAX_CART_LINES < lines.length) (.pos .cartLinesTooMany)
  let s ← lines.foldlM priceLine .start
  assertPricedCartCoheres (s.cart fallbackCurrency)
  pure (s.cart fallbackCurrency)

/-! ## 3. What an accepted cart is -/

/-- The rounded gross of a line. -/
def StoredCartLine.gross (line : StoredCartLine) : ℤ :=
  nearestEven (line.quantity * line.unitPriceMinor.getD 0) QUANTITY_SCALE

theorem scale_pos : 0 < QUANTITY_SCALE := by decide

theorem halfEvenAtLineGrain_eq_ok {n : ℤ} {label : String} {into : List RoundingEntry}
    {r : ℤ × List RoundingEntry} :
    halfEvenAtLineGrain n QUANTITY_SCALE label into = .ok r ↔
      (nearestEven n QUANTITY_SCALE, into ++ [⟨.line, label⟩]) = r := by
  have hs : ¬ QUANTITY_SCALE ≤ 0 := not_le.mpr scale_pos
  simp only [halfEvenAtLineGrain, bind_eq_ok, refuseIf_eq_ok, exists_const, pure_eq_ok, hs,
    not_false_eq_true, true_and, halfEven_eq scale_pos]

/-- One accepted turn: the line is priced, of positive quantity, and discounted within its gross. -/
theorem priceLine_eq_ok {s t : CartLoop} {line : StoredCartLine} (h : priceLine s line = .ok t) :
    (∃ price currency, line.unitPriceMinor = some price ∧ line.priceCurrency = some currency) ∧
      0 < line.quantity ∧ line.discountMinor ≤ line.gross ∧
      t.subtotal = s.subtotal + line.gross ∧
      t.discountTotal = s.discountTotal + line.discountMinor ∧
      ∃ p, t.priced = s.priced ++ [p] ∧ p.grossMinor = line.gross ∧
        p.discountMinor = line.discountMinor := by
  unfold priceLine at h
  split at h
  · rename_i price currency hp hc
    simp only [bind_eq_ok, refuseIf_eq_ok, exists_const, pure_eq_ok, not_le, not_lt,
      parseQuantity_eq_ok, parseMinor_eq_ok, halfEvenAtLineGrain_eq_ok] at h
    obtain ⟨_, _, ⟨_, rfl⟩, hq, _, ⟨_, rfl⟩, _, rfl, _, ⟨_, rfl⟩, hd, rfl⟩ := h
    have hg : nearestEven (line.quantity * price) QUANTITY_SCALE = line.gross := by
      unfold StoredCartLine.gross
      rw [hp, Option.getD_some]
    rw [hg] at hd
    exact ⟨⟨price, currency, hp, hc⟩, hq, hd, congrArg (s.subtotal + ·) hg, rfl, _, rfl, hg, rfl⟩
  · cases h

/-- What the closing check asks of the loop's variables. -/
structure CartLoop.Coheres (s : CartLoop) : Prop where
  subtotal_eq : s.subtotal = (s.priced.map PricedCartLine.grossMinor).sum
  discount_eq : s.discountTotal = (s.priced.map PricedCartLine.discountMinor).sum

theorem coheres_start : CartLoop.start.Coheres := ⟨rfl, rfl⟩

theorem coheres_step {s t : CartLoop} {line : StoredCartLine} (hs : s.Coheres)
    (h : priceLine s line = .ok t) : t.Coheres := by
  obtain ⟨_, _, _, hsub, hdis, p, hp, hg, hd⟩ := priceLine_eq_ok h
  refine ⟨?_, ?_⟩
  · rw [hsub, hp, List.map_append, List.sum_append, hs.subtotal_eq, List.map_singleton,
      List.sum_singleton, hg]
  · rw [hdis, hp, List.map_append, List.sum_append, hs.discount_eq, List.map_singleton,
      List.sum_singleton, hd]

/-- What the loop does over a whole basket. -/
theorem priceLines_run : ∀ {lines : List StoredCartLine} {s t : CartLoop},
    lines.foldlM priceLine s = .ok t →
      (s.Coheres → t.Coheres) ∧
      (∀ line ∈ lines, ∃ price currency, line.unitPriceMinor = some price ∧
        line.priceCurrency = some currency) ∧
      (∀ line ∈ lines, 0 < line.quantity ∧ line.discountMinor ≤ line.gross) ∧
      t.subtotal = s.subtotal + (lines.map StoredCartLine.gross).sum ∧
      t.discountTotal = s.discountTotal + (lines.map StoredCartLine.discountMinor).sum
  | [], s, t, h => by
      rw [List.foldlM_nil, pure_eq_ok] at h
      subst h
      exact ⟨id, nofun, nofun, by simp, by simp⟩
  | line :: lines, s, t, h => by
      rw [List.foldlM_cons, bind_eq_ok] at h
      obtain ⟨u, hu, ht⟩ := h
      obtain ⟨hpriced, hpos, hcap, hsub, hdis, _⟩ := priceLine_eq_ok hu
      obtain ⟨hco, hall, hlines, hsub', hdis'⟩ := priceLines_run ht
      refine ⟨fun hs => hco (coheres_step hs hu), ?_, ?_, ?_, ?_⟩
      · intro l hl
        rcases List.mem_cons.mp hl with rfl | hl
        · exact hpriced
        · exact hall l hl
      · intro l hl
        rcases List.mem_cons.mp hl with rfl | hl
        · exact ⟨hpos, hcap⟩
        · exact hlines l hl
      · rw [hsub', hsub, List.map_cons, List.sum_cons, add_assoc]
      · rw [hdis', hdis, List.map_cons, List.sum_cons, add_assoc]

theorem roundingGrains_line (ledger : List RoundingEntry) :
    roundingGrains ledger = [] ∨ roundingGrains ledger = [.line] := by
  unfold roundingGrains
  induction ledger with
  | nil => exact .inl rfl
  | cons e ledger ih =>
      rw [List.map_cons]
      have hg : e.grain = .line := by
        cases e.grain
        rfl
      rw [hg]
      by_cases hm : RoundingGrain.line ∈ ledger.map RoundingEntry.grain
      · rw [List.dedup_cons_of_mem hm]
        exact ih
      · rw [List.dedup_cons_of_notMem hm]
        rcases ih with ih | ih
        · exact .inr (by rw [ih])
        · exact absurd (List.mem_dedup.mp (ih ▸ List.mem_singleton_self _)) hm

/-- **The closing check never refuses what the loop priced.** -/
theorem priceLines_coheres {lines : List StoredCartLine} {s : CartLoop}
    (h : lines.foldlM priceLine .start = .ok s) (fallbackCurrency : String) :
    assertPricedCartCoheres (s.cart fallbackCurrency) = .ok () := by
  have hco := (priceLines_run h).1 coheres_start
  simp only [assertPricedCartCoheres, bind_eq_ok, refuseIf_eq_ok, exists_const]
  refine ⟨?_, ?_, ?_⟩
  · rcases roundingGrains_line (s.cart fallbackCurrency).rounding with hg | hg <;> rw [hg] <;> simp
  · rintro (hne | hne | hne)
    · exact hne hco.subtotal_eq
    · exact hne hco.discount_eq
    · refine hne ?_
      show s.subtotal - s.discountTotal = _
      rw [hco.subtotal_eq, hco.discount_eq]
      rfl
  · intro hne
    exact hne rfl

/-- **An accepted cart**: every line is priced, of positive quantity and discounted within its
    gross; the figures are the exact sums over the lines. -/
theorem priceCart_spec {lines : List StoredCartLine} {fallbackCurrency : String} {cart : PricedCart}
    (h : priceCart lines fallbackCurrency = .ok cart) :
    lines.length ≤ MAX_CART_LINES ∧
      (∀ line ∈ lines, ∃ price currency, line.unitPriceMinor = some price ∧
        line.priceCurrency = some currency) ∧
      (∀ line ∈ lines, 0 < line.quantity ∧ line.discountMinor ≤ line.gross) ∧
      cart.subtotalMinor = (lines.map StoredCartLine.gross).sum ∧
      cart.discountMinor = (lines.map StoredCartLine.discountMinor).sum ∧
      cart.totalMinor = cart.subtotalMinor - cart.discountMinor := by
  simp only [priceCart, bind_eq_ok, refuseIf_eq_ok, exists_const, pure_eq_ok, not_lt] at h
  obtain ⟨hlen, s, hs, _, _, rfl⟩ := h
  obtain ⟨_, hpriced, hlines, hsub, hdis⟩ := priceLines_run hs
  refine ⟨hlen, hpriced, hlines, ?_, ?_, rfl⟩
  · show s.subtotal = _
    rw [hsub]
    exact zero_add _
  · show s.discountTotal = _
    rw [hdis]
    exact zero_add _

end Daftar.Pos
