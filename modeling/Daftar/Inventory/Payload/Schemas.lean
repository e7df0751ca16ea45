/-
  File: Daftar/Inventory/Payload/Schemas.lean
  Subject: The `invpl/1` payload grammar: fields, field specs and the schema of every operation.

  * A schema is a header, perhaps a group repeated once per line, perhaps a trailer group after the
    lines, which may end with one cell per line.
  * `INVENTORY_PAYLOAD_SCHEMAS` is the registry; `OPERATION_CODE_RE_text`: every registered code
    has the registry's form, and `ofText_text`: its text names it alone.
-/

import Mathlib.Data.Int.Notation
import Mathlib.Data.List.Basic

namespace Daftar.Inventory.Payload

/-! ## 1. Operation codes -/

/-- The registered operation kinds, slice by slice. -/
inductive InventoryOperationCode
  | inventoryConfigureProduct | structureAssociateWarehouseBranch
  | structureDissociateWarehouseBranch
  | inventoryTransfer | inventoryAdjust | inventoryDamage | inventoryStocktakeOpen
  | inventoryStocktakeCount | inventoryStocktakeFinalize | inventoryOpening
  | supplierCreate | supplierUpdate | supplierArchive | supplierReactivate
  | purchaseDraft | purchaseCancel | purchaseReceive
  | purchaseReturn | purchaseReverse
  | paymentCreateMethod | paymentUpdateMethod | paymentDeactivateMethod | paymentActivateMethod
  | supplierPay | supplierAllocateCredit | supplierReceiveRefund
  | purchaseWriteOffResidue
  | customerCreate | customerUpdate | customerArchive | customerReactivate
  | saleCommit
  | posSessionOpen | posSessionClose | posCartSetLine | posCartRemoveLine
  | customerCollectPayment | customerApplyCredit
  deriving DecidableEq, Repr

namespace InventoryOperationCode

def text : InventoryOperationCode → String
  | inventoryConfigureProduct => "inventory.configure_product"
  | structureAssociateWarehouseBranch => "structure.associate_warehouse_branch"
  | structureDissociateWarehouseBranch => "structure.dissociate_warehouse_branch"
  | inventoryTransfer => "inventory.transfer"
  | inventoryAdjust => "inventory.adjust"
  | inventoryDamage => "inventory.damage"
  | inventoryStocktakeOpen => "inventory.stocktake_open"
  | inventoryStocktakeCount => "inventory.stocktake_count"
  | inventoryStocktakeFinalize => "inventory.stocktake_finalize"
  | inventoryOpening => "inventory.opening"
  | supplierCreate => "supplier.create"
  | supplierUpdate => "supplier.update"
  | supplierArchive => "supplier.archive"
  | supplierReactivate => "supplier.reactivate"
  | purchaseDraft => "purchase.draft"
  | purchaseCancel => "purchase.cancel"
  | purchaseReceive => "purchase.receive"
  | purchaseReturn => "purchase.return"
  | purchaseReverse => "purchase.reverse"
  | paymentCreateMethod => "payment.create_method"
  | paymentUpdateMethod => "payment.update_method"
  | paymentDeactivateMethod => "payment.deactivate_method"
  | paymentActivateMethod => "payment.activate_method"
  | supplierPay => "supplier.pay"
  | supplierAllocateCredit => "supplier.allocate_credit"
  | supplierReceiveRefund => "supplier.receive_refund"
  | purchaseWriteOffResidue => "purchase.write_off_residue"
  | customerCreate => "customer.create"
  | customerUpdate => "customer.update"
  | customerArchive => "customer.archive"
  | customerReactivate => "customer.reactivate"
  | saleCommit => "sale.commit"
  | posSessionOpen => "pos.session_open"
  | posSessionClose => "pos.session_close"
  | posCartSetLine => "pos.cart_set_line"
  | posCartRemoveLine => "pos.cart_remove_line"
  | customerCollectPayment => "customer.collect_payment"
  | customerApplyCredit => "customer.apply_credit"

end InventoryOperationCode

open InventoryOperationCode in
def INVENTORY_OPERATION_CODES : List InventoryOperationCode :=
  [ inventoryConfigureProduct, structureAssociateWarehouseBranch,
    structureDissociateWarehouseBranch,
    inventoryTransfer, inventoryAdjust, inventoryDamage, inventoryStocktakeOpen,
    inventoryStocktakeCount, inventoryStocktakeFinalize, inventoryOpening,
    supplierCreate, supplierUpdate, supplierArchive, supplierReactivate,
    purchaseDraft, purchaseCancel, purchaseReceive,
    purchaseReturn, purchaseReverse,
    paymentCreateMethod, paymentUpdateMethod, paymentDeactivateMethod, paymentActivateMethod,
    supplierPay, supplierAllocateCredit, supplierReceiveRefund,
    purchaseWriteOffResidue,
    customerCreate, customerUpdate, customerArchive, customerReactivate,
    saleCommit,
    posSessionOpen, posSessionClose, posCartSetLine, posCartRemoveLine,
    customerCollectPayment, customerApplyCredit ]

/-- The registered code a text names, if any. -/
def InventoryOperationCode.ofText (s : String) : Option InventoryOperationCode :=
  INVENTORY_OPERATION_CODES.find? fun op => op.text == s

theorem InventoryOperationCode.ofText_text (op : InventoryOperationCode) :
    ofText op.text = some op := by
  cases op <;> decide

theorem InventoryOperationCode.text_of_ofText {s : String} {op : InventoryOperationCode}
    (h : ofText s = some op) : op.text = s := by
  have hp := List.find?_some h
  simpa using hp

/-! ## 2. Character classes -/

def isLowerAlpha (c : Char) : Bool := 'a' ≤ c && c ≤ 'z'

def isLowerHex (c : Char) : Bool := ('0' ≤ c && c ≤ '9') || ('a' ≤ c && c ≤ 'f')

/-- `^[a-z]+(\.[a-z_]+)+$`, the registry's own CHECK on an operation code. -/
def OPERATION_CODE_RE (s : String) : Bool :=
  match s.toList.splitOn '.' with
  | first :: second :: rest =>
    !first.isEmpty && first.all isLowerAlpha &&
      (second :: rest).all fun part => !part.isEmpty && part.all fun c => isLowerAlpha c || c == '_'
  | _ => false

theorem OPERATION_CODE_RE_text (op : InventoryOperationCode) :
    OPERATION_CODE_RE op.text = true := by
  cases op <;> decide

/-! ## 3. Fields, specs and schemas -/

/-- An integer as JavaScript holds one: a `bigint`, or a `number`, which may be a negative zero or
    no integer at all (a fraction, an infinity, NaN). -/
inductive JsInteger
  | bigint (n : ℤ)
  | number (n : ℤ)
  | negativeZero
  | notInteger
  deriving DecidableEq, Repr

inductive InventoryPayloadField
  | uuid (value : String)
  | boolean (value : Bool)
  | integer (value : JsInteger)
  | code (value : String)
  | null
  deriving DecidableEq, Repr

inductive InventoryPayloadFieldType
  | uuid | boolean | integer | code
  deriving DecidableEq, Repr

def InventoryPayloadFieldType.text : InventoryPayloadFieldType → String
  | uuid => "uuid"
  | boolean => "boolean"
  | integer => "integer"
  | code => "code"

structure InventoryPayloadFieldSpec where
  name : String
  type : InventoryPayloadFieldType
  nullable : Bool
  deriving DecidableEq, Repr

/-- The group of `fields` repeats after the header, as often as `countField` says. -/
structure InventoryPayloadRepeat where
  countField : String
  fields : List InventoryPayloadFieldSpec

/-- The count follows the last line; each group may end with one cell for each line. -/
structure InventoryPayloadTrailer where
  countField : InventoryPayloadFieldSpec
  fields : List InventoryPayloadFieldSpec
  perLine : Option InventoryPayloadFieldSpec

/-- The source hangs `repeat` and `trailer` on the header array. -/
structure InventoryPayloadSchema where
  header : List InventoryPayloadFieldSpec
  «repeat» : Option InventoryPayloadRepeat
  trailer : Option InventoryPayloadTrailer

/-! ## 4. Building schemas -/

def spec (name : String) (type : InventoryPayloadFieldType) : InventoryPayloadFieldSpec :=
  ⟨name, type, false⟩

def specNullable (name : String) (type : InventoryPayloadFieldType) : InventoryPayloadFieldSpec :=
  ⟨name, type, true⟩

/-- A header and nothing else. -/
def fixed (header : List InventoryPayloadFieldSpec) : InventoryPayloadSchema :=
  ⟨header, none, none⟩

def withGroup (header : List InventoryPayloadFieldSpec) (countField : String)
    (groupFields : List InventoryPayloadFieldSpec) : InventoryPayloadSchema :=
  ⟨header, some ⟨countField, groupFields⟩, none⟩

def withLines (header lineFields : List InventoryPayloadFieldSpec) : InventoryPayloadSchema :=
  withGroup header "line_count" lineFields

def withLinesAndTrailer (header lineFields : List InventoryPayloadFieldSpec)
    (trailer : InventoryPayloadTrailer) : InventoryPayloadSchema :=
  ⟨header, some ⟨"line_count", lineFields⟩, some trailer⟩

/-- Eight unsigned 32-bit words of a text's SHA-256; eight NULLs for a NULL text. -/
def textWordSpecs (text : String) (nullable : Bool) : List InventoryPayloadFieldSpec :=
  (List.range 8).map fun i => ⟨text ++ "_w" ++ toString (i + 1), .integer, nullable⟩

def REASON_WORDS : List InventoryPayloadFieldSpec := textWordSpecs "reason" false

def SUPPLIER_TEXT : List InventoryPayloadFieldSpec :=
  textWordSpecs "name" false ++ textWordSpecs "phone" true ++ textWordSpecs "email" true ++
    textWordSpecs "tax_identifier" true ++ textWordSpecs "notes" true

/-- The supplier groups less the tax identifier. -/
def CUSTOMER_TEXT : List InventoryPayloadFieldSpec :=
  textWordSpecs "name" false ++ textWordSpecs "phone" true ++ textWordSpecs "email" true ++
    textWordSpecs "notes" true

def PAYMENT_METHOD_NAMES : List InventoryPayloadFieldSpec :=
  textWordSpecs "name_ar" true ++ textWordSpecs "name_en" true ++ textWordSpecs "name_tr" true

/-! ## 5. The registry -/

/-- Field order per operation kind, as the routine takes its arguments. -/
def INVENTORY_PAYLOAD_SCHEMAS : InventoryOperationCode → InventoryPayloadSchema
  | .inventoryConfigureProduct =>
    fixed
      [spec "product_id" .uuid, spec "track_inventory" .boolean,
       specNullable "unit_code" .code, specNullable "unit_decimals" .integer]
  | .structureAssociateWarehouseBranch =>
    fixed [spec "warehouse_id" .uuid, spec "branch_id" .uuid]
  | .structureDissociateWarehouseBranch =>
    fixed [spec "warehouse_id" .uuid, spec "branch_id" .uuid]
  | .inventoryTransfer =>
    withLines
      [spec "transfer_id" .uuid, spec "source_warehouse_id" .uuid,
       spec "destination_warehouse_id" .uuid, spec "line_count" .integer]
      [spec "variant_id" .uuid, spec "qty_q4" .integer]
  | .inventoryAdjust =>
    withLines
      ([spec "adjustment_id" .uuid, spec "warehouse_id" .uuid, spec "occurred_on" .integer] ++
       REASON_WORDS ++
       [spec "line_count" .integer])
      [spec "variant_id" .uuid, spec "qty_delta_q4" .integer,
       specNullable "unit_cost_c10" .integer, spec "expected_value" .integer]
  | .inventoryDamage =>
    withLines
      ([spec "adjustment_id" .uuid, spec "warehouse_id" .uuid, spec "occurred_on" .integer] ++
       REASON_WORDS ++
       [spec "line_count" .integer])
      [spec "variant_id" .uuid, spec "qty_q4" .integer, spec "expected_value" .integer]
  | .inventoryStocktakeOpen =>
    fixed [spec "stocktake_id" .uuid, spec "warehouse_id" .uuid]
  | .inventoryStocktakeCount =>
    withLines
      [spec "stocktake_id" .uuid, spec "warehouse_id" .uuid, spec "line_count" .integer]
      [spec "variant_id" .uuid, spec "counted_q4" .integer]
  | .inventoryStocktakeFinalize =>
    withLines
      [spec "stocktake_id" .uuid, spec "warehouse_id" .uuid, spec "outcome" .code,
       specNullable "occurred_on" .integer, spec "line_count" .integer]
      [spec "variant_id" .uuid, spec "variance_q4" .integer,
       specNullable "unit_cost_c10" .integer, spec "expected_value" .integer]
  | .inventoryOpening =>
    withLines
      [spec "opening_id" .uuid, spec "occurred_on" .integer,
       specNullable "opening_balance_id" .uuid, specNullable "position_minor" .integer,
       spec "line_count" .integer]
      [spec "warehouse_id" .uuid, spec "variant_id" .uuid, spec "qty_q4" .integer,
       spec "unit_cost_c10" .integer]
  | .supplierCreate =>
    fixed ([spec "supplier_id" .uuid] ++ SUPPLIER_TEXT)
  | .supplierUpdate =>
    fixed ([spec "supplier_id" .uuid, spec "expected_revision" .integer] ++ SUPPLIER_TEXT)
  | .supplierArchive =>
    fixed [spec "supplier_id" .uuid, spec "expected_revision" .integer]
  | .supplierReactivate =>
    fixed [spec "supplier_id" .uuid, spec "expected_revision" .integer]
  | .purchaseDraft =>
    withLinesAndTrailer
      ([spec "purchase_id" .uuid, spec "expected_revision" .integer, spec "supplier_id" .uuid,
        spec "warehouse_id" .uuid, specNullable "previous_warehouse_id" .uuid,
        spec "currency" .code, spec "document_date" .integer] ++
       textWordSpecs "supplier_reference" true ++
       textWordSpecs "notes" true ++
       [spec "tax_minor" .integer, spec "line_count" .integer])
      [spec "line_id" .uuid, spec "variant_id" .uuid, spec "qty_q4" .integer,
       spec "unit_price_c10" .integer, spec "discount_minor" .integer]
      { countField := spec "landed_count" .integer
        fields := [spec "landed_cost_id" .uuid, spec "mode" .code, spec "amount_minor" .integer] ++
         textWordSpecs "description" true
        perLine := some (specNullable "allocation_minor" .integer) }
  | .purchaseCancel =>
    fixed [spec "purchase_id" .uuid, spec "warehouse_id" .uuid, spec "draft_revision" .integer]
  | .purchaseReceive =>
    withLines
      [spec "purchase_id" .uuid, spec "warehouse_id" .uuid, spec "draft_revision" .integer,
       spec "supplier_id" .uuid, spec "supplier_revision" .integer,
       spec "document_date" .integer, spec "currency" .code, specNullable "rate_id" .uuid,
       spec "rate_r10" .integer, spec "rate_source" .code, spec "rate_at" .integer,
       spec "total_txn_minor" .integer, spec "total_base_minor" .integer,
       specNullable "coverage_adjustment_id" .uuid, spec "line_count" .integer]
      [spec "line_id" .uuid, spec "variant_id" .uuid, spec "qty_q4" .integer,
       spec "base_share_minor" .integer, spec "covered_q4" .integer,
       spec "catch_up_minor" .integer]
  | .purchaseReturn =>
    withLines
      ([spec "return_id" .uuid, spec "purchase_id" .uuid, spec "warehouse_id" .uuid,
        spec "document_date" .integer] ++
       textWordSpecs "reason" true ++
       [specNullable "credit_note_id" .uuid, spec "carrying_txn" .integer,
        spec "ap_txn" .integer, spec "ap_base" .integer, spec "credit_txn" .integer,
        spec "credit_base" .integer, spec "inventory_value" .integer, spec "ppv" .integer,
        spec "line_count" .integer])
      [spec "return_line_id" .uuid, spec "purchase_line_id" .uuid, spec "variant_id" .uuid,
       spec "qty_q4" .integer, spec "carrying_txn" .integer, spec "value_out" .integer]
  | .purchaseReverse =>
    withLines
      ([spec "purchase_id" .uuid, spec "warehouse_id" .uuid, spec "reversal_date" .integer] ++
       textWordSpecs "reason" false ++
       [spec "original_entry_id" .uuid, spec "total_value" .integer, spec "line_count" .integer])
      [spec "line_id" .uuid, spec "variant_id" .uuid, spec "qty_q4" .integer,
       spec "value" .integer]
  | .paymentCreateMethod =>
    fixed
      ([spec "payment_method_id" .uuid, spec "system_type" .code,
        spec "posting_account_id" .uuid, spec "requires_reference" .boolean,
        spec "sort_order" .integer] ++
       PAYMENT_METHOD_NAMES)
  | .paymentUpdateMethod =>
    fixed
      ([spec "payment_method_id" .uuid, spec "expected_revision" .integer,
        spec "posting_account_id" .uuid, spec "requires_reference" .boolean,
        spec "sort_order" .integer] ++
       PAYMENT_METHOD_NAMES)
  | .paymentDeactivateMethod =>
    fixed [spec "payment_method_id" .uuid, spec "expected_revision" .integer]
  | .paymentActivateMethod =>
    fixed [spec "payment_method_id" .uuid, spec "expected_revision" .integer]
  | .supplierPay =>
    withGroup
      ([spec "payment_id" .uuid, spec "supplier_id" .uuid, spec "payment_method_id" .uuid,
        spec "posting_account_id" .uuid, spec "payment_date" .integer, spec "currency" .code,
        spec "amount" .integer, specNullable "rate_id" .uuid, spec "rate" .integer,
        spec "rate_source" .code, spec "rate_at" .integer, spec "base_amount" .integer] ++
       textWordSpecs "reference" true ++
       [spec "allocation_count" .integer])
      "allocation_count"
      [spec "allocation_id" .uuid, spec "purchase_id" .uuid, spec "warehouse_id" .uuid,
       spec "purchase_currency" .code, spec "payment_amount" .integer,
       spec "payment_base" .integer, spec "applied" .integer, spec "released_before" .integer,
       spec "carrying_released" .integer, spec "ap_dust" .integer, spec "realized" .integer]
  | .supplierAllocateCredit =>
    fixed
      [spec "allocation_id" .uuid, spec "credit_note_id" .uuid, spec "purchase_id" .uuid,
       spec "warehouse_id" .uuid, spec "allocation_date" .integer,
       spec "credit_currency" .code, spec "consumed" .integer,
       spec "remaining_before" .integer, spec "credit_released" .integer,
       spec "credit_dust" .integer, spec "purchase_currency" .code, spec "applied" .integer,
       spec "ap_released_before" .integer, spec "ap_released" .integer,
       spec "ap_dust" .integer, spec "realized" .integer]
  | .supplierReceiveRefund =>
    fixed
      ([spec "refund_id" .uuid, spec "credit_note_id" .uuid, spec "payment_method_id" .uuid,
        spec "posting_account_id" .uuid, spec "refund_date" .integer,
        spec "source_currency" .code, spec "consumed" .integer,
        spec "remaining_before" .integer, spec "source_released" .integer,
        spec "source_dust" .integer, spec "receipt_currency" .code,
        spec "receipt_amount" .integer, specNullable "rate_id" .uuid, spec "rate" .integer,
        spec "rate_source" .code, spec "rate_at" .integer, spec "receipt_base" .integer,
        spec "realized" .integer] ++
       textWordSpecs "reference" true)
  | .purchaseWriteOffResidue =>
    fixed
      ([spec "purchase_id" .uuid, spec "write_off_date" .integer] ++
       textWordSpecs "reason" false ++
       [spec "residue" .integer, spec "released_before" .integer, spec "residue_base" .integer])
  | .customerCreate =>
    fixed ([spec "customer_id" .uuid] ++ CUSTOMER_TEXT)
  | .customerUpdate =>
    fixed ([spec "customer_id" .uuid, spec "expected_revision" .integer] ++ CUSTOMER_TEXT)
  | .customerArchive =>
    fixed [spec "customer_id" .uuid, spec "expected_revision" .integer]
  | .customerReactivate =>
    fixed [spec "customer_id" .uuid, spec "expected_revision" .integer]
  | .saleCommit =>
    withLines
      ([spec "sale_id" .uuid, spec "settlement_mode" .code, specNullable "customer_id" .uuid,
        spec "warehouse_id" .uuid, spec "branch_id" .uuid, spec "invoice_id" .uuid,
        spec "document_date" .integer, specNullable "due_date" .integer, spec "currency" .code,
        specNullable "rate_id" .uuid, spec "rate_r10" .integer, spec "rate_source" .code,
        spec "rate_at" .integer, spec "subtotal_txn_minor" .integer,
        spec "discount_txn_minor" .integer, spec "tax_minor" .integer,
        spec "total_txn_minor" .integer, spec "total_base_minor" .integer] ++
       textWordSpecs "notes" true ++
       [spec "line_count" .integer])
      [spec "line_id" .uuid, spec "product_id" .uuid, specNullable "merchant_variant_id" .uuid,
       spec "variant_id" .uuid, spec "qty_q4" .integer, spec "discount_minor" .integer,
       spec "unit_price_c10" .integer, spec "net_txn_minor" .integer,
       spec "base_share_minor" .integer]
  | .posSessionOpen =>
    fixed
      [spec "session_id" .uuid, spec "branch_id" .uuid, spec "warehouse_id" .uuid,
       spec "terminal_code" .code, spec "currency_code" .code,
       spec "opening_float_minor" .integer]
  | .posSessionClose =>
    fixed [spec "session_id" .uuid, spec "closing_count_minor" .integer]
  | .posCartSetLine =>
    fixed
      [spec "session_id" .uuid, spec "line_id" .uuid, spec "line_no" .integer,
       spec "product_id" .uuid, spec "variant_id" .uuid, spec "qty_q4" .integer,
       spec "requested_discount_minor" .integer]
  | .posCartRemoveLine =>
    fixed [spec "session_id" .uuid, spec "line_id" .uuid]
  | .customerCollectPayment =>
    withGroup
      ([spec "payment_id" .uuid, spec "customer_id" .uuid, spec "payment_method_id" .uuid,
        spec "posting_account_id" .uuid, spec "payment_date" .integer, spec "currency" .code,
        spec "amount" .integer, specNullable "rate_id" .uuid, spec "rate" .integer,
        spec "rate_source" .code, spec "rate_at" .integer, spec "base_amount" .integer] ++
       textWordSpecs "reference" true ++
       [specNullable "credit_id" .uuid, specNullable "credit_amount" .integer,
        specNullable "credit_carrying_base" .integer, spec "allocation_count" .integer])
      "allocation_count"
      [spec "allocation_id" .uuid, spec "invoice_id" .uuid, spec "invoice_currency" .code,
       spec "payment_amount" .integer, spec "payment_base" .integer, spec "applied" .integer,
       spec "ar_released_before" .integer, spec "carrying_released" .integer,
       spec "ar_dust" .integer, spec "realized" .integer]
  | .customerApplyCredit =>
    fixed
      [spec "application_id" .uuid, spec "credit_id" .uuid, spec "invoice_id" .uuid,
       spec "application_date" .integer, spec "credit_currency" .code,
       spec "consumed" .integer, spec "remaining_before" .integer,
       spec "credit_carrying_released" .integer, spec "credit_dust" .integer,
       spec "invoice_currency" .code, spec "applied" .integer,
       spec "ar_released_before" .integer, spec "carrying_released" .integer,
       spec "ar_dust" .integer, spec "realized" .integer]

end Daftar.Inventory.Payload
