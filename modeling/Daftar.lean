import Daftar.Library.NearestEven
import Daftar.Library.Fallible
import Daftar.Library.Runs
import Daftar.Inventory.Errors
import Daftar.Inventory.Rounding
import Daftar.Inventory.Valuation
import Daftar.Inventory.StockRun
import Daftar.Inventory.SupplierSettlement
import Daftar.Library.Tiling
import Daftar.Inventory.SupplierReturn
import Daftar.Inventory.SettlementBalance
import Daftar.Inventory.SettlementChains
import Daftar.Inventory.Residues
import Daftar.Inventory.CustomerSettlement
import Daftar.Inventory.EntryBalance
import Daftar.Inventory.Payload.Schemas
import Daftar.Inventory.Payload.Stream
import Daftar.Inventory.Payload.Decode
import Daftar.Library.Grouping
import Daftar.Pos.Basket
import Daftar.Pos.Errors
import Daftar.Pos.CartPricing
import Daftar.Pos.SalePricing
import Daftar.Pos.TillAgainstSale
import Daftar.Pos.TillStore
import Daftar.Pos.CartRoutines
import Daftar.Pos.CartProjection
import Daftar.Pos.CartGate
import Daftar.Library.LockedTransactions
import Daftar.Pos.Checkout
import Daftar.Pos.CheckoutOutline
import Daftar.Library.CivilDate
import Daftar.Pos.CheckoutOnce
import Daftar.Accounting.Errors
import Daftar.Accounting.Periods
import Daftar.Library.Sha256
import Daftar.Accounting.PeriodCommands
import Daftar.Accounting.PeriodTopology
import Daftar.Accounting.ClosedBooks
import Daftar.Library.Histories
import Daftar.Accounting.PeriodReplay
import Daftar.Accounting.PostingLines
import Daftar.Accounting.Chart
import Daftar.Accounting.PostEntry
import Daftar.Accounting.PostingStream
import Daftar.Accounting.PostingHistory
import Daftar.Accounting.PostingReplay
import Daftar.Accounting.PostingIdempotence
import Daftar.Auth.AuthStore
import Daftar.Auth.AuthTransactions
import Daftar.Auth.RefreshRotation
import Daftar.Auth.PasswordReset
import Daftar.Credentials.DeliveryOutbox
import Daftar.Credentials.DeliveryLeases
import Daftar.Inventory.SqlNumeric
import Daftar.Inventory.SettlementTables
import Daftar.Inventory.ChainVerifiers
import Daftar.Inventory.SettlementGuards
import Daftar.Inventory.SettlementAgreement
import Daftar.Infra.AssertionSequences
import Daftar.Accounting.Fingerprint
import Daftar.Accounting.FxRateStream
import Daftar.Accounting.FingerprintAgreement
import Daftar.Inventory.StockPrimitive
import Daftar.Inventory.StockRebuild
import Daftar.Inventory.CustomerPayment
import Daftar.Inventory.ReceivableChains
import Daftar.Inventory.CollectPayment
import Daftar.Inventory.CollectSigning
import Daftar.Inventory.InvoiceOutstanding
import Daftar.Accounting.SalePosting
import Daftar.Inventory.CollectAgreement
import Daftar.Accounting.Fx
import Daftar.Inventory.LineReturns
import Daftar.Inventory.PurchaseResidue
import Daftar.Inventory.PurchaseReversal
import Daftar.Inventory.DeficitCoverage
import Daftar.Inventory.LandedCost
import Daftar.Accounting.LedgerCursor
import Daftar.Accounting.LedgerPages
import Daftar.Inventory.OpenInvoices
import Daftar.Pos.SaleMovements
import Daftar.Inventory.AgingFold
import Daftar.Inventory.Assertion
import Daftar.Inventory.FixedPoint
import Daftar.Library.JsonTree
import Daftar.Pos.PriceAuthority
import Daftar.Inventory.IntentFacts
import Daftar.Accounting.Sources
import Daftar.Accounting.Reversal
import Daftar.Accounting.OpeningBalance
import Daftar.Accounting.SourceHistory
import Daftar.Accounting.StandingEntries
import Daftar.Accounting.ReversalReplay
import Daftar.Accounting.OpeningEntry
import Daftar.Accounting.OpeningHistory
import Daftar.Accounting.TrialBalance
import Daftar.Tenancy.TenancySafety
