/-
  File: Daftar/Accounting/Errors.lean
  Subject: The refusals of the accounting routines.

  * `AccountingCode` are the `accounting.*` codes the modelled routines and triggers raise.
  * A `Refusal` is such a code, or the SQLSTATE of a constraint no routine translates.
-/

import Daftar.Library.Fallible

namespace Daftar.Accounting

inductive AccountingCode
  | assertionWrongOperation
  | assertionPayloadMismatch
  | forbidden
  | payloadMissingField
  | payloadInvalid
  | payloadUnknownField
  | idempotencyConflict
  | periodRangeInvalid
  | periodOverlap
  | periodNotContiguous
  | periodPrependClosedHistory
  | periodNotFound
  | periodNotOpen
  | periodNotClosed
  | periodCloseOrder
  | periodReopenOrder
  | periodReopenReasonRequired
  | periodTopologyInvalid
  | periodClosedHistory
  | periodMissingForDate
  | periodClosed
  | accountOwnershipImmutable
  | systemAccountImmutable
  | accountIdentityLocked
  | baseCurrencyLocked
  | systemAccountMissing
  | accountNotFound
  | accountInactive
  | entryBaseCurrencyMismatch
  | entryDateInFuture
  | entryDateBeforeOriginal
  | entryTooFewLines
  | entryUnbalanced
  | entryFxArithmetic
  deriving DecidableEq, Repr

inductive Refusal
  | accounting (code : AccountingCode)
  | database (sqlstate : String)
  deriving DecidableEq, Repr

end Daftar.Accounting
