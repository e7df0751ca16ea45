/-
  File: Daftar/Pos/Errors.lean
  Subject: The refusals of the till and of the sale it commits.

  * `PosCode` and `SaleCode` are the `pos.*` and `sale.*` codes the modelled commands raise.
  * A `Refusal` is a code of one of the three families, whose text is the registry's, the SQLSTATE
    of a constraint no routine translates, or an untyped error raised for a defect.
-/

import Daftar.Inventory.Errors

namespace Daftar.Pos

inductive PosCode
  | cartLinesTooMany
  | cartProductNotPriced
  | cartCurrencyMixed
  | cartQuantityInvalid
  | cartDiscountInvalid
  | cartRoundingGrainInvalid
  | cartMinorUnitsInvalid
  | cartStatementPlanInvalid
  | cartDiscountNotPermitted
  | cartLineNotFound
  | cartLineConflict
  | cartLineImmutable
  | cartLineRemoved
  | cartPriceAuthorityRefused
  | cartFieldUnknown
  | sessionNotFound
  | sessionNotOpen
  | sessionNotOwned
  | sessionIdempotencyConflict
  | checkoutCartEmpty
  | checkoutCartStateChanged
  | checkoutIdempotencyConflict
  deriving DecidableEq, Repr

inductive SaleCode
  | linesRequired
  | productNotFound
  | productNotPriced
  | currencyUnknown
  | discountInvalid
  | totalZero
  | idempotencyConflict
  | stateChanged
  deriving DecidableEq, Repr

inductive Refusal
  | pos (code : PosCode)
  | sale (code : SaleCode)
  | inventory (code : Inventory.InventoryErrorCode)
  | database (sqlstate : String)
  | defect (message : String)
  deriving DecidableEq, Repr

end Daftar.Pos
