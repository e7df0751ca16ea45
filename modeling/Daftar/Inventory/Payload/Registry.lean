/-
  File: Daftar/Inventory/Payload/Registry.lean
  Subject: The builders of suppliers, customers and payment methods.

  * Every field of these records is the client's, so each builder ends in `finishAll`: its intent is
    its whole payload.
  * A text is bound as eight words, and refused where it is not trimmed or out of its bounds.
-/

import Daftar.Inventory.Payload.CheckedFields

namespace Daftar.Inventory.Payload

open Fallible

/-- The result of a builder that signs the fields it checked and takes them all as intent. -/
def signAll (opCode : InventoryOperationCode) (tenantId businessId : String)
    (fields : Result (List InventoryPayloadField)) : Result MovementPayload := do
  let fields ← fields
  finishAll opCode tenantId businessId fields

/-- Where the schema keeps every field, the intent is the payload. -/
theorem signAll_signed {op : InventoryOperationCode} {tenantId businessId : String}
    {checked : Result (List InventoryPayloadField)} {r : MovementPayload} (hall : keepsAll op = true)
    (h : signAll op tenantId businessId checked = .ok r) :
    ∃ fields, checked = .ok fields ∧ Signed op tenantId businessId fields fields r := by
  obtain ⟨fields, hfields, hfin⟩ := bind_eq_ok.mp h
  exact ⟨fields, hfields, signed_all hall hfin⟩

/-! ## 1. Records -/

/-- The revision a client read of a record. -/
def revisionField (revision : JsInteger) (what : String) : Result InventoryPayloadField :=
  safeIntegerField revision 1 MAX_REVISION (what ++ " must be a positive integer revision")

/-- A record, and the revision the client read. -/
def lifecycleFields (id what : String) (expectedRevision : JsInteger) :
    Result (List InventoryPayloadField) := do
  let recordId ← uuidField id what
  let revision ← revisionField expectedRevision "expected_revision"
  pure [recordId, revision]

/-! ## 2. Suppliers -/

/-- The least and the greatest length of each of a supplier's texts. -/
structure SupplierTextBounds where
  name : TextBounds
  phone : TextBounds
  email : TextBounds
  taxIdentifier : TextBounds
  notes : TextBounds

/-- A text that is given has a character at least, an address three. -/
def SUPPLIER_TEXT_BOUNDS : SupplierTextBounds where
  name := ⟨1, 200⟩
  phone := ⟨1, 40⟩
  email := ⟨3, 254⟩
  taxIdentifier := ⟨1, 64⟩
  notes := ⟨1, 1000⟩

/-- A supplier's master data; only the name is required. -/
structure SupplierText where
  name : Option String
  phone : Option String
  email : Option String
  taxIdentifier : Option String
  notes : Option String
  deriving DecidableEq, Repr

/-- Five texts of eight words each, of a text left out eight NULLs. -/
def supplierTextFields (t : SupplierText) : Result (List InventoryPayloadField) := do
  refuseIf (t.name = none) (payloadInvalid "a supplier name is required")
  let name ← wordFields t.name "name" SUPPLIER_TEXT_BOUNDS.name
  let phone ← wordFields t.phone "phone" SUPPLIER_TEXT_BOUNDS.phone
  let email ← wordFields t.email "email" SUPPLIER_TEXT_BOUNDS.email
  let taxIdentifier ←
    wordFields t.taxIdentifier "tax identifier" SUPPLIER_TEXT_BOUNDS.taxIdentifier
  let notes ← wordFields t.notes "notes" SUPPLIER_TEXT_BOUNDS.notes
  pure (name ++ phone ++ email ++ taxIdentifier ++ notes)

/-- A new supplier, under an id its client chose. -/
structure SupplierCreatePayloadInput extends CommandScope, SupplierText where
  supplierId : String
  deriving DecidableEq, Repr

def supplierCreateFields (input : SupplierCreatePayloadInput) :
    Result (List InventoryPayloadField) := do
  let supplierId ← uuidField input.supplierId "supplier_id"
  let text ← supplierTextFields input.toSupplierText
  pure (supplierId :: text)

def supplierCreatePayload (input : SupplierCreatePayloadInput) : Result MovementPayload :=
  signAll .supplierCreate input.tenantId input.businessId (supplierCreateFields input)

/-- A supplier's texts replaced as a whole, by a client that has read a revision of it. -/
structure SupplierUpdatePayloadInput extends SupplierCreatePayloadInput where
  expectedRevision : JsInteger
  deriving DecidableEq, Repr

def supplierUpdateFields (input : SupplierUpdatePayloadInput) :
    Result (List InventoryPayloadField) := do
  let supplierId ← uuidField input.supplierId "supplier_id"
  let revision ← revisionField input.expectedRevision "expected_revision"
  let text ← supplierTextFields input.toSupplierText
  pure (supplierId :: revision :: text)

def supplierUpdatePayload (input : SupplierUpdatePayloadInput) : Result MovementPayload :=
  signAll .supplierUpdate input.tenantId input.businessId (supplierUpdateFields input)

/-- A supplier that is archived or made active again. -/
structure SupplierLifecyclePayloadInput extends CommandScope where
  supplierId : String
  expectedRevision : JsInteger
  deriving DecidableEq, Repr

/-- Archiving and reactivating sign the same fields, under their own operations. -/
def supplierLifecycleFields (input : SupplierLifecyclePayloadInput) :
    Result (List InventoryPayloadField) :=
  lifecycleFields input.supplierId "supplier_id" input.expectedRevision

def supplierArchivePayload (input : SupplierLifecyclePayloadInput) : Result MovementPayload :=
  signAll .supplierArchive input.tenantId input.businessId (supplierLifecycleFields input)

def supplierReactivatePayload (input : SupplierLifecyclePayloadInput) : Result MovementPayload :=
  signAll .supplierReactivate input.tenantId input.businessId (supplierLifecycleFields input)

/-! ## 3. Customers -/

/-- The least and the greatest length of each of a customer's texts. -/
structure CustomerTextBounds where
  name : TextBounds
  phone : TextBounds
  email : TextBounds
  notes : TextBounds

/-- The bounds of a supplier, without a tax identifier. -/
def CUSTOMER_TEXT_BOUNDS : CustomerTextBounds where
  name := ⟨1, 200⟩
  phone := ⟨1, 40⟩
  email := ⟨3, 254⟩
  notes := ⟨1, 1000⟩

/-- A customer's master data; only the name is required. -/
structure CustomerText where
  name : Option String
  phone : Option String
  email : Option String
  notes : Option String
  deriving DecidableEq, Repr

/-- Four texts of eight words each, of a text left out eight NULLs. -/
def customerTextFields (t : CustomerText) : Result (List InventoryPayloadField) := do
  refuseIf (t.name = none) (payloadInvalid "a customer name is required")
  let name ← wordFields t.name "name" CUSTOMER_TEXT_BOUNDS.name
  let phone ← wordFields t.phone "phone" CUSTOMER_TEXT_BOUNDS.phone
  let email ← wordFields t.email "email" CUSTOMER_TEXT_BOUNDS.email
  let notes ← wordFields t.notes "notes" CUSTOMER_TEXT_BOUNDS.notes
  pure (name ++ phone ++ email ++ notes)

/-- A new customer, under an id its client chose. -/
structure CustomerCreatePayloadInput extends CommandScope, CustomerText where
  customerId : String
  deriving DecidableEq, Repr

def customerCreateFields (input : CustomerCreatePayloadInput) :
    Result (List InventoryPayloadField) := do
  let customerId ← uuidField input.customerId "customer_id"
  let text ← customerTextFields input.toCustomerText
  pure (customerId :: text)

def customerCreatePayload (input : CustomerCreatePayloadInput) : Result MovementPayload :=
  signAll .customerCreate input.tenantId input.businessId (customerCreateFields input)

/-- A customer's texts replaced as a whole, by a client that has read a revision of it. -/
structure CustomerUpdatePayloadInput extends CustomerCreatePayloadInput where
  expectedRevision : JsInteger
  deriving DecidableEq, Repr

def customerUpdateFields (input : CustomerUpdatePayloadInput) :
    Result (List InventoryPayloadField) := do
  let customerId ← uuidField input.customerId "customer_id"
  let revision ← revisionField input.expectedRevision "expected_revision"
  let text ← customerTextFields input.toCustomerText
  pure (customerId :: revision :: text)

def customerUpdatePayload (input : CustomerUpdatePayloadInput) : Result MovementPayload :=
  signAll .customerUpdate input.tenantId input.businessId (customerUpdateFields input)

/-- A customer that is archived or made active again. -/
structure CustomerLifecyclePayloadInput extends CommandScope where
  customerId : String
  expectedRevision : JsInteger
  deriving DecidableEq, Repr

/-- Archiving and reactivating sign the same fields, under their own operations. -/
def customerLifecycleFields (input : CustomerLifecyclePayloadInput) :
    Result (List InventoryPayloadField) :=
  lifecycleFields input.customerId "customer_id" input.expectedRevision

def customerArchivePayload (input : CustomerLifecyclePayloadInput) : Result MovementPayload :=
  signAll .customerArchive input.tenantId input.businessId (customerLifecycleFields input)

def customerReactivatePayload (input : CustomerLifecyclePayloadInput) : Result MovementPayload :=
  signAll .customerReactivate input.tenantId input.businessId (customerLifecycleFields input)

/-! ## 4. Payment methods -/

/-- What kind of money a method takes. -/
inductive PaymentMethodSystemType
  | cash | card | bankTransfer | wallet | cheque | other
  deriving DecidableEq, Repr

/-- The code a type is signed as. -/
def PaymentMethodSystemType.text : PaymentMethodSystemType → String
  | cash => "cash"
  | card => "card"
  | bankTransfer => "bank_transfer"
  | wallet => "wallet"
  | cheque => "cheque"
  | other => "other"

def PAYMENT_METHOD_NAME_MAX : ℕ := 100

def PAYMENT_METHOD_SORT_ORDER_MAX : ℤ := 10000

/-- The names of a method, NULL where a locale has none. -/
structure PaymentMethodNames where
  ar : Option String
  en : Option String
  tr : Option String
  deriving DecidableEq, Repr

/-- A name that is refused is refused under the method's own code. -/
def paymentMethodNameWords (name : Option String) : Result (List InventoryPayloadField) :=
  (wordFields name "name" ⟨1, PAYMENT_METHOD_NAME_MAX⟩).mapError fun _ =>
    ⟨.paymentMethodNameInvalid, "a payment method name must be trimmed, 1..100 characters"⟩

/-- A method has a name in some language; all three are bound, in a fixed order. -/
def paymentMethodNameFields (names : PaymentMethodNames) : Result (List InventoryPayloadField) := do
  let locales := [names.ar, names.en, names.tr]
  refuseIf (∀ n ∈ locales, n = none)
    ⟨.paymentMethodNameRequired, "a payment method needs a name in at least one locale"⟩
  let words ← locales.mapM paymentMethodNameWords
  pure words.flatten

/-- The place of a method among the others. -/
def sortOrderField (sortOrder : JsInteger) : Result InventoryPayloadField :=
  safeIntegerField sortOrder 0 PAYMENT_METHOD_SORT_ORDER_MAX "sort_order must be 0..10000"

/-- What a client may change of a method. -/
structure PaymentMethodSettings where
  postingAccountId : String
  requiresReference : Bool
  sortOrder : JsInteger
  names : PaymentMethodNames
  deriving DecidableEq, Repr

/-- The settings in the order of the schemas, which create and update share. -/
def PaymentMethodSettings.fields (s : PaymentMethodSettings) :
    Result (List InventoryPayloadField) := do
  let postingAccountId ← uuidField s.postingAccountId "posting_account_id"
  let sortOrder ← sortOrderField s.sortOrder
  let names ← paymentMethodNameFields s.names
  pure (postingAccountId :: .boolean s.requiresReference :: sortOrder :: names)

/-- A new method; its type is stated once and never changed. -/
structure PaymentMethodCreatePayloadInput extends CommandScope, PaymentMethodSettings where
  paymentMethodId : String
  systemType : PaymentMethodSystemType
  deriving DecidableEq, Repr

def paymentMethodCreateFields (input : PaymentMethodCreatePayloadInput) :
    Result (List InventoryPayloadField) := do
  let paymentMethodId ← uuidField input.paymentMethodId "payment_method_id"
  let settings ← input.toPaymentMethodSettings.fields
  pure (paymentMethodId :: .code input.systemType.text :: settings)

def paymentMethodCreatePayload (input : PaymentMethodCreatePayloadInput) :
    Result MovementPayload :=
  signAll .paymentCreateMethod input.tenantId input.businessId (paymentMethodCreateFields input)

/-- New settings of a method, by a client that has read a revision of it. -/
structure PaymentMethodUpdatePayloadInput extends CommandScope, PaymentMethodSettings where
  paymentMethodId : String
  expectedRevision : JsInteger
  deriving DecidableEq, Repr

def paymentMethodUpdateFields (input : PaymentMethodUpdatePayloadInput) :
    Result (List InventoryPayloadField) := do
  let paymentMethodId ← uuidField input.paymentMethodId "payment_method_id"
  let revision ← revisionField input.expectedRevision "expected_revision"
  let settings ← input.toPaymentMethodSettings.fields
  pure (paymentMethodId :: revision :: settings)

def paymentMethodUpdatePayload (input : PaymentMethodUpdatePayloadInput) :
    Result MovementPayload :=
  signAll .paymentUpdateMethod input.tenantId input.businessId (paymentMethodUpdateFields input)

/-- A method that is taken out of use or put into use again. -/
structure PaymentMethodLifecyclePayloadInput extends CommandScope where
  paymentMethodId : String
  expectedRevision : JsInteger
  deriving DecidableEq, Repr

/-- Both sign the same fields, under their own operations. -/
def paymentMethodLifecycleFields (input : PaymentMethodLifecyclePayloadInput) :
    Result (List InventoryPayloadField) :=
  lifecycleFields input.paymentMethodId "payment_method_id" input.expectedRevision

def paymentMethodDeactivatePayload (input : PaymentMethodLifecyclePayloadInput) :
    Result MovementPayload :=
  signAll .paymentDeactivateMethod input.tenantId input.businessId
    (paymentMethodLifecycleFields input)

def paymentMethodActivatePayload (input : PaymentMethodLifecyclePayloadInput) :
    Result MovementPayload :=
  signAll .paymentActivateMethod input.tenantId input.businessId
    (paymentMethodLifecycleFields input)

end Daftar.Inventory.Payload
