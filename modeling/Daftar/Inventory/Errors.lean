/-
  File: Daftar/Inventory/Errors.lean
  Subject: The typed refusals of the inventory package.

  * `InventoryErrorCode` is the closed vocabulary of machine codes, one constructor a code; the
    text before the dot of a code is the first word of its constructor.
  * `InventoryError` is a code with its message. A message never carries a number.
  * A `Fault` is such a refusal, or the untyped error of an internal check.
-/

import Daftar.Library.Fallible

namespace Daftar.Inventory

/-- The machine codes the modelled arithmetic raises. -/
inductive InventoryErrorCode
  | inventoryPayloadInvalid
  | inventoryQuantityInvalid
  | inventoryCostInvalid
  | inventoryUnitDecimalsInvalid
  | inventoryQuantityPrecisionInvalid
  | inventoryInsufficientStock
  | inventoryArithmeticInvalid
  | inventoryValueOutOfRange
  | inventoryQuantityOutOfRange
  | inventoryMovementShapeInvalid
  | inventoryTransferPairMismatch
  | inventoryRebuildSequenceInvalid
  | inventoryDuplicateLine
  | inventoryLinesRequired
  | inventoryAllocationInvalid
  | inventoryDeficitStateInvalid
  | inventoryReasonRequired
  | inventoryProductNotFound
  | inventoryProductNotTracked
  | inventoryProductArchived
  | inventoryVariantNotFound
  | inventoryVariantRequired
  | inventoryVariantArchived
  | inventoryAssertionPayloadMismatch
  | inventoryAssertionMalformed
  | inventoryWarehouseOutOfScope
  | inventoryUnitCostRequired
  | purchaseDiscountInvalid
  | purchaseTotalZero
  | purchaseLandedCostInvalid
  | purchaseLandedCostDenominatorZero
  | purchaseLandedCostAllocationMismatch
  | supplierReturnQuantityExceedsPurchased
  | supplierReturnValueZero
  | supplierReturnAmountBelowBaseUnit
  | supplierPaymentAllocationsInvalid
  | supplierPaymentAmountExceedsOutstanding
  | supplierPaymentAmountMismatch
  | supplierPaymentAmountBelowBaseUnit
  | supplierPaymentResidueBelowBaseUnit
  | supplierPaymentSettlementInconsistent
  | supplierCreditAllocationAmountExceedsOutstanding
  | supplierCreditAllocationAmountExceedsCredit
  | supplierCreditAllocationCreditExhausted
  | supplierCreditAllocationAmountMismatch
  | supplierCreditAllocationAmountBelowBaseUnit
  | supplierCreditAllocationResidueBelowBaseUnit
  | supplierRefundAmountExceedsCredit
  | supplierRefundCreditExhausted
  | supplierRefundAmountMismatch
  | supplierRefundAmountBelowBaseUnit
  | supplierRefundResidueBelowBaseUnit
  | supplierCreditNoteConsumptionInconsistent
  | customerPaymentArithmeticInvalid
  | customerPaymentAllocationsInvalid
  | customerPaymentAmountInvalid
  | customerPaymentAmountExceedsOutstanding
  | customerPaymentAmountBelowBaseUnit
  | customerPaymentAmountMismatch
  | customerPaymentResidueBelowBaseUnit
  | customerPaymentCreditBelowBaseUnit
  | customerCreditApplicationAmountInvalid
  | customerCreditApplicationAmountExceedsOutstanding
  | customerCreditApplicationAmountBelowBaseUnit
  | customerCreditApplicationAmountMismatch
  | customerCreditApplicationResidueBelowBaseUnit
  | customerCreditApplicationCreditExhausted
  | customerCreditApplicationAmountExceedsCredit
  | paymentMethodNameRequired
  | paymentMethodNameInvalid
  | saleTaxPolicyAbsent
  | saleTotalZero
  deriving DecidableEq, Repr

/-- A typed refusal: the stable code and its message. -/
structure InventoryError where
  code : InventoryErrorCode
  message : String
  deriving DecidableEq, Repr

/-- What an operation of the package returns: its result or a typed refusal. -/
abbrev Result (α : Type) := Except InventoryError α

/-- Raises a typed refusal. -/
def refuse {α : Type} (code : InventoryErrorCode) (message : String) : Result α :=
  .error ⟨code, message⟩

/-- A typed refusal, or an internal check that failed. -/
inductive Fault
  | refused (error : InventoryError)
  | defect (message : String)
  deriving DecidableEq, Repr

/-- A typed refusal on its way through code with internal checks. -/
def typed {α : Type} (x : Result α) : Except Fault α := x.mapError .refused

@[simp] theorem typed_eq_ok {α : Type} {x : Result α} {a : α} : typed x = .ok a ↔ x = .ok a :=
  Fallible.mapError_eq_ok

/-- A typed refusal is no defect. -/
theorem typed_refusesOnly {α : Type} (x : Result α) :
    Fallible.RefusesOnly (fun f => ∃ e, f = Fault.refused e) (typed x) := by
  intro f hf
  cases x with
  | ok a => cases hf
  | error e =>
    cases hf
    exact ⟨e, rfl⟩

end Daftar.Inventory
