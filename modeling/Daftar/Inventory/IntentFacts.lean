/-
  File: Daftar/Inventory/IntentFacts.lean
  Subject: Intents carry exactly the client's facts.

  * `Command` is a command of one of the builders, and `Command.built` what its builder makes of it.
  * `Command.sound`: the intent fields of every builder are the client's part of the fields it signs.
  * `intents_carry_client_facts`: the intent stream is the payload stream without the derived lines,
    and two commands have one intent stream exactly when they agree on the client's fields.
-/

import Daftar.Identifiers
import Daftar.Inventory.ApplyCredit
import Daftar.Inventory.Payload.Movement
import Daftar.Inventory.Payload.Returns
import Daftar.Inventory.Payload.Sale
import Daftar.Inventory.Payload.Settlement

namespace Daftar.Inventory.Payload

open Customer (CollectPaymentPayloadInput collectPayloadFields collectIntentFields
  customerCollectPaymentPayload customerCollectPaymentPayload_signed ApplyCreditPayloadInput
  applyFields applyIntentFields customerApplyCreditPayload customerApplyCreditPayload_signed)
open Fallible
open Framing
open Sha256

/-! ## 1. Commands -/

/-- A command of an operation with an intent digest: the builders of product configuration, of the
    warehouse structure and of the till return a payload alone. -/
inductive Command
  | transfer (input : TransferPayloadInput)
  | adjust (input : AdjustPayloadInput)
  | damage (input : DamagePayloadInput)
  | stocktakeOpen (input : StocktakeOpenPayloadInput)
  | stocktakeCount (input : StocktakeCountPayloadInput)
  | stocktakeFinalize (input : StocktakeFinalizePayloadInput)
  | opening (input : OpeningPayloadInput)
  | supplierCreate (input : SupplierCreatePayloadInput)
  | supplierUpdate (input : SupplierUpdatePayloadInput)
  | supplierArchive (input : SupplierLifecyclePayloadInput)
  | supplierReactivate (input : SupplierLifecyclePayloadInput)
  | purchaseDraft (input : PurchaseDraftPayloadInput)
  | purchaseCancel (input : PurchaseCancelPayloadInput)
  | purchaseReceive (input : PurchaseReceivePayloadInput)
  | supplierReturn (input : SupplierReturnPayloadInput)
  | purchaseReverse (input : PurchaseReversePayloadInput)
  | paymentMethodCreate (input : PaymentMethodCreatePayloadInput)
  | paymentMethodUpdate (input : PaymentMethodUpdatePayloadInput)
  | paymentMethodDeactivate (input : PaymentMethodLifecyclePayloadInput)
  | paymentMethodActivate (input : PaymentMethodLifecyclePayloadInput)
  | supplierPay (input : SupplierPayPayloadInput)
  | supplierAllocateCredit (input : SupplierAllocateCreditPayloadInput)
  | supplierReceiveRefund (input : SupplierReceiveRefundPayloadInput)
  | purchaseResidueWriteOff (input : PurchaseResidueWriteOffPayloadInput)
  | customerCreate (input : CustomerCreatePayloadInput)
  | customerUpdate (input : CustomerUpdatePayloadInput)
  | customerArchive (input : CustomerLifecyclePayloadInput)
  | customerReactivate (input : CustomerLifecyclePayloadInput)
  | saleCommit (input : SaleCommitPayloadInput)
  | collectPayment (input : CollectPaymentPayloadInput)
  | applyCredit (input : ApplyCreditPayloadInput)

/-- What a builder makes of a command: the fields it signs, the fields of its intent, and what it
    returns, each where it is accepted. -/
structure Built where
  opCode : InventoryOperationCode
  tenantId : String
  businessId : String
  fields : Option (List InventoryPayloadField)
  intentFields : Option (List InventoryPayloadField)
  result : Option MovementPayload

namespace Built

def of {ε ε' : Type} (opCode : InventoryOperationCode) (tenantId businessId : String)
    (fields intentFields : Except ε (List InventoryPayloadField))
    (result : Except ε' MovementPayload) : Built :=
  ⟨opCode, tenantId, businessId, fields.toOption, intentFields.toOption, result.toOption⟩

/-- Every field is intent. -/
def ofAll {ε' : Type} (opCode : InventoryOperationCode) (tenantId businessId : String)
    (fields : Result (List InventoryPayloadField)) (result : Except ε' MovementPayload) : Built :=
  of opCode tenantId businessId fields fields result

/-- The intent is the entries the builder does not mark as derived. -/
def ofEntries (opCode : InventoryOperationCode) (tenantId businessId : String)
    (entries : Result (List Entry)) (result : Result MovementPayload) : Built :=
  of opCode tenantId businessId ((List.map (·.field)) <$> entries) (clientEntries <$> entries)
    result

end Built

def Command.built : Command → Built
  | transfer i => .ofEntries .inventoryTransfer i.tenantId i.businessId (transferEntries i)
      (transferPayload i)
  | adjust i => .ofEntries .inventoryAdjust i.tenantId i.businessId (adjustEntries i)
      (adjustPayload i)
  | damage i => .ofEntries .inventoryDamage i.tenantId i.businessId (damageEntries i)
      (damagePayload i)
  | stocktakeOpen i => .ofEntries .inventoryStocktakeOpen i.tenantId i.businessId
      (.ok (stocktakeOpenEntries i)) (stocktakeOpenPayload i)
  | stocktakeCount i => .ofEntries .inventoryStocktakeCount i.tenantId i.businessId
      (stocktakeCountEntries i) (stocktakeCountPayload i)
  | stocktakeFinalize i => .ofEntries .inventoryStocktakeFinalize i.tenantId i.businessId
      (stocktakeFinalizeEntries i) (stocktakeFinalizePayload i)
  | opening i => .ofEntries .inventoryOpening i.tenantId i.businessId (openingEntries i)
      (openingPayload i)
  | supplierCreate i => .ofAll .supplierCreate i.tenantId i.businessId (supplierCreateFields i)
      (supplierCreatePayload i)
  | supplierUpdate i => .ofAll .supplierUpdate i.tenantId i.businessId (supplierUpdateFields i)
      (supplierUpdatePayload i)
  | supplierArchive i => .ofAll .supplierArchive i.tenantId i.businessId
      (supplierLifecycleFields i) (supplierArchivePayload i)
  | supplierReactivate i => .ofAll .supplierReactivate i.tenantId i.businessId
      (supplierLifecycleFields i) (supplierReactivatePayload i)
  | purchaseDraft i => .ofAll .purchaseDraft i.tenantId i.businessId (purchaseDraftFields i)
      ((fun p => p.1) <$> purchaseDraftPayload i)
  | purchaseCancel i => .ofAll .purchaseCancel i.tenantId i.businessId (purchaseCancelFields i)
      (purchaseCancelPayload i)
  | purchaseReceive i => .of .purchaseReceive i.tenantId i.businessId (purchaseReceiveFields i)
      (purchaseReceiveIntentFields i.toPurchaseReceiveIntentInput) (purchaseReceivePayload i)
  | supplierReturn i => .of .purchaseReturn i.tenantId i.businessId (supplierReturnFields i)
      (supplierReturnIntentFields i.intent) (supplierReturnPayload i)
  | purchaseReverse i => .of .purchaseReverse i.tenantId i.businessId (purchaseReverseFields i)
      (purchaseReverseIntentFields i.toPurchaseReverseIntentInput) (purchaseReversePayload i)
  | paymentMethodCreate i => .ofAll .paymentCreateMethod i.tenantId i.businessId
      (paymentMethodCreateFields i) (paymentMethodCreatePayload i)
  | paymentMethodUpdate i => .ofAll .paymentUpdateMethod i.tenantId i.businessId
      (paymentMethodUpdateFields i) (paymentMethodUpdatePayload i)
  | paymentMethodDeactivate i => .ofAll .paymentDeactivateMethod i.tenantId i.businessId
      (paymentMethodLifecycleFields i) (paymentMethodDeactivatePayload i)
  | paymentMethodActivate i => .ofAll .paymentActivateMethod i.tenantId i.businessId
      (paymentMethodLifecycleFields i) (paymentMethodActivatePayload i)
  | supplierPay i => .of .supplierPay i.tenantId i.businessId (payFields i)
      (payIntentFields i.intent) (supplierPayPayload i)
  | supplierAllocateCredit i => .of .supplierAllocateCredit i.tenantId i.businessId
      (allocateFields i) (allocateIntentFields i.toSupplierAllocateCreditIntentInput)
      (supplierAllocateCreditPayload i)
  | supplierReceiveRefund i => .of .supplierReceiveRefund i.tenantId i.businessId (refundFields i)
      (refundIntentFields i.toSupplierReceiveRefundIntentInput) (supplierReceiveRefundPayload i)
  | purchaseResidueWriteOff i => .of .purchaseWriteOffResidue i.tenantId i.businessId
      (residueFields i) (residueIntentFields i.toPurchaseResidueWriteOffIntentInput)
      (purchaseResidueWriteOffPayload i)
  | customerCreate i => .ofAll .customerCreate i.tenantId i.businessId (customerCreateFields i)
      (customerCreatePayload i)
  | customerUpdate i => .ofAll .customerUpdate i.tenantId i.businessId (customerUpdateFields i)
      (customerUpdatePayload i)
  | customerArchive i => .ofAll .customerArchive i.tenantId i.businessId
      (customerLifecycleFields i) (customerArchivePayload i)
  | customerReactivate i => .ofAll .customerReactivate i.tenantId i.businessId
      (customerLifecycleFields i) (customerReactivatePayload i)
  | saleCommit i => .of .saleCommit i.tenantId i.businessId (saleFields i)
      (saleIntentFields i.intent) (saleCommitPayload i)
  | collectPayment i => .of .customerCollectPayment i.tenantId i.businessId
      (collectPayloadFields i) (collectIntentFields i.intent) (customerCollectPaymentPayload i)
  | applyCredit i => .of .customerApplyCredit i.tenantId i.businessId (applyFields i)
      (applyIntentFields i.toApplyCreditIntentInput) (customerApplyCreditPayload i)

/-! ## 2. What the builders sign -/

/-- What is returned is signed over the fields, with their client's part as its intent. -/
def Built.Sound (b : Built) : Prop :=
  ∀ r, b.result = some r → ∃ fields intentFields, b.fields = some fields ∧
    b.intentFields = some intentFields ∧
    Signed b.opCode b.tenantId b.businessId fields intentFields r

section Sound

variable {ε ε' : Type} {op : InventoryOperationCode} {tenantId businessId : String}

theorem toOption_eq_some {α : Type} {x : Except ε α} {a : α} :
    x.toOption = some a ↔ x = .ok a := by
  cases x <;> simp [Except.toOption]

theorem Built.sound_of {fields intentFields : Except ε (List InventoryPayloadField)}
    {result : Except ε' MovementPayload}
    (h : ∀ r, result = .ok r → ∃ fs ifs, fields = .ok fs ∧ intentFields = .ok ifs ∧
      Signed op tenantId businessId fs ifs r) :
    (Built.of op tenantId businessId fields intentFields result).Sound := by
  intro r hr
  obtain ⟨fs, ifs, hfs, hifs, hsigned⟩ := h r (toOption_eq_some.mp hr)
  exact ⟨fs, ifs, toOption_eq_some.mpr hfs, toOption_eq_some.mpr hifs, hsigned⟩

theorem Built.sound_ofAll {fields : Result (List InventoryPayloadField)}
    {result : Except ε' MovementPayload}
    (h : ∀ r, result = .ok r → ∃ fs, fields = .ok fs ∧ Signed op tenantId businessId fs fs r) :
    (Built.ofAll op tenantId businessId fields result).Sound := by
  refine Built.sound_of fun r hr => ?_
  obtain ⟨fs, hfs, hsigned⟩ := h r hr
  exact ⟨fs, fs, hfs, hfs, hsigned⟩

theorem Built.sound_ofEntries {entries : Result (List Entry)} {result : Result MovementPayload}
    (h : ∀ r, result = .ok r → ∃ es, entries = .ok es ∧
      Signed op tenantId businessId (es.map (·.field)) (clientEntries es) r) :
    (Built.ofEntries op tenantId businessId entries result).Sound := by
  refine Built.sound_of fun r hr => ?_
  obtain ⟨es, hes, hsigned⟩ := h r hr
  exact ⟨_, _, map_eq_ok.mpr ⟨es, hes, rfl⟩, map_eq_ok.mpr ⟨es, hes, rfl⟩, hsigned⟩

end Sound

/-- **The intent fields of every builder are the client's part of the fields it signs.** -/
theorem Command.sound (c : Command) : c.built.Sound := by
  cases c with
  | transfer i => exact Built.sound_ofEntries fun r => transferPayload_signed
  | adjust i => exact Built.sound_ofEntries fun r => adjustPayload_signed
  | damage i => exact Built.sound_ofEntries fun r => damagePayload_signed
  | stocktakeOpen i =>
      exact Built.sound_ofEntries fun r hr => ⟨_, rfl, stocktakeOpenPayload_signed hr⟩
  | stocktakeCount i => exact Built.sound_ofEntries fun r => stocktakeCountPayload_signed
  | stocktakeFinalize i => exact Built.sound_ofEntries fun r => stocktakeFinalizePayload_signed
  | opening i => exact Built.sound_ofEntries fun r => openingPayload_signed
  | supplierCreate i => exact Built.sound_ofAll fun r => signAll_signed (by decide +kernel)
  | supplierUpdate i => exact Built.sound_ofAll fun r => signAll_signed (by decide +kernel)
  | supplierArchive i => exact Built.sound_ofAll fun r => signAll_signed (by decide +kernel)
  | supplierReactivate i => exact Built.sound_ofAll fun r => signAll_signed (by decide +kernel)
  | purchaseDraft i =>
      refine Built.sound_ofAll fun r hr => ?_
      obtain ⟨⟨signed, totals⟩, hp, rfl⟩ := map_eq_ok.mp hr
      exact purchaseDraftPayload_signed hp
  | purchaseCancel i => exact Built.sound_ofAll fun r => signAll_signed (by decide +kernel)
  | purchaseReceive i => exact Built.sound_of fun r => purchaseReceivePayload_signed
  | supplierReturn i => exact Built.sound_of fun r => supplierReturnPayload_signed
  | purchaseReverse i => exact Built.sound_of fun r => purchaseReversePayload_signed
  | paymentMethodCreate i => exact Built.sound_ofAll fun r => signAll_signed (by decide +kernel)
  | paymentMethodUpdate i => exact Built.sound_ofAll fun r => signAll_signed (by decide +kernel)
  | paymentMethodDeactivate i =>
      exact Built.sound_ofAll fun r => signAll_signed (by decide +kernel)
  | paymentMethodActivate i => exact Built.sound_ofAll fun r => signAll_signed (by decide +kernel)
  | supplierPay i => exact Built.sound_of fun r => supplierPayPayload_signed
  | supplierAllocateCredit i => exact Built.sound_of fun r => supplierAllocateCreditPayload_signed
  | supplierReceiveRefund i => exact Built.sound_of fun r => supplierReceiveRefundPayload_signed
  | purchaseResidueWriteOff i =>
      exact Built.sound_of fun r => purchaseResidueWriteOffPayload_signed
  | customerCreate i => exact Built.sound_ofAll fun r => signAll_signed (by decide +kernel)
  | customerUpdate i => exact Built.sound_ofAll fun r => signAll_signed (by decide +kernel)
  | customerArchive i => exact Built.sound_ofAll fun r => signAll_signed (by decide +kernel)
  | customerReactivate i => exact Built.sound_ofAll fun r => signAll_signed (by decide +kernel)
  | saleCommit i => exact Built.sound_of fun r => saleCommitPayload_signed
  | collectPayment i => exact Built.sound_of fun r => customerCollectPaymentPayload_signed
  | applyCredit i => exact Built.sound_of fun r => customerApplyCreditPayload_signed

/-! ## 3. Streams -/

/-- A command signs `fields`, and `intent` is the stream of its intent: the stream of the payload
    less the lines of the derived fields. -/
structure Built.Carries (b : Built) (r : MovementPayload) (fields : List InventoryPayloadField)
    (intent : List UInt8) : Prop where
  signs : b.fields = some fields
  projects : b.intentFields = some (clientFields b.opCode fields)
  payload : r.1.bytes =
    frame LF (preamble b.opCode b.tenantId b.businessId ++ fields.map fieldLine)
  stream : canonicalInventoryIntent b.opCode.text b.tenantId b.businessId
    (clientFields b.opCode fields) = .ok intent
  lines : intent = frame LF (preamble b.opCode b.tenantId b.businessId ++
    clientPart b.opCode fields (fields.map fieldLine))
  sha256 : r.2 = digest intent

theorem Built.Sound.carries {b : Built} (hb : b.Sound) {r : MovementPayload}
    (h : b.result = some r) : ∃ fields intent, b.Carries r fields intent ∧
      ∃ specs, expandSchema b.opCode (INVENTORY_PAYLOAD_SCHEMAS b.opCode) fields = .ok specs := by
  obtain ⟨fields, intentFields, hfields, hintent, hsigned⟩ := hb r h
  obtain rfl := hsigned.client
  have hp := hsigned.payload
  have hi := hsigned.intent
  simp only [buildInventoryPayload, inventoryIntentSha256, canonicalInventoryPayload_text,
    bind_eq_ok, pure_eq_ok] at hp hi
  obtain ⟨bytes, hbytes, hpayload⟩ := hp
  obtain ⟨intent, hstream, hsha⟩ := hi
  refine ⟨fields, intent, ⟨hfields, hintent, ?_, hstream, ?_, hsha.symm⟩,
    expandSchema_of_built hsigned.payload⟩
  · obtain ⟨_, _, _, _, _, hframe⟩ := canonicalStream_eq_frame.mp hbytes
    rw [← hpayload, hframe]
  · rw [canonicalInventoryIntent_text] at hstream
    obtain ⟨_, _, _, _, _, hframe⟩ := canonicalStream_eq_frame.mp hstream
    rw [clientPart_map, hframe]

/-- Commands of one operation that state the same state as many lines. -/
theorem statedCount_of_same {op op' : InventoryOperationCode}
    {fields fields' : List InventoryPayloadField} (hop : op = op')
    (h : ∃ specs, expandSchema op (INVENTORY_PAYLOAD_SCHEMAS op) fields = .ok specs)
    (h' : ∃ specs, expandSchema op' (INVENTORY_PAYLOAD_SCHEMAS op') fields' = .ok specs)
    (hsame : List.Forall₂ SameField (clientFields op fields) (clientFields op' fields')) :
    statedCount op fields = statedCount op' fields' := by
  subst hop
  obtain ⟨_, h⟩ := h
  obtain ⟨_, h'⟩ := h'
  exact statedCount_congr h h' hsame

/-- **Intents carry exactly the client's facts.** Each accepted command's intent stream is its
    payload stream less the lines of the derived fields, and its intent fields are the client's part
    of the fields it signs. Two commands have one intent stream exactly when their operation, their
    tenant, their business and their client's fields agree; commands that state different numbers
    of lines have different streams. -/
theorem intents_carry_client_facts {c c' : Command} {r r' : MovementPayload}
    (h : c.built.result = some r) (h' : c'.built.result = some r') :
    ∃ fields fields' intent intent', c.built.Carries r fields intent ∧
      c'.built.Carries r' fields' intent' ∧
      (intent = intent' ↔ c.built.opCode = c'.built.opCode ∧
        c.built.tenantId = c'.built.tenantId ∧ c.built.businessId = c'.built.businessId ∧
        List.Forall₂ SameField (clientFields c.built.opCode fields)
          (clientFields c'.built.opCode fields')) ∧
      (statedCount c.built.opCode fields ≠ statedCount c'.built.opCode fields' →
        intent ≠ intent') := by
  obtain ⟨fields, intent, hc, hspecs⟩ := c.sound.carries h
  obtain ⟨fields', intent', hc', hspecs'⟩ := c'.sound.carries h'
  have hs := hc.stream
  have hs' := hc'.stream
  rw [canonicalInventoryIntent_text] at hs hs'
  have hiff := canonicalStream_eq_iff inventoryIntentSchema hs hs'
  refine ⟨fields, fields', intent, intent', hc, hc', hiff, ?_⟩
  intro hcount heq
  obtain ⟨hop, _, _, hsame⟩ := hiff.mp heq
  exact hcount (statedCount_of_same hop hspecs hspecs' hsame)

/-- An opening of two lines, with the position the server read. -/
def sampleOpening (openingBalanceId : Option String) (positionMinor : Option ℤ) : Command :=
  .opening
    { tenantId := (Uuid.sample 1).text, businessId := (Uuid.sample 2).text
      openingId := (Uuid.sample 3).text, occurredOn := "2024-02-29"
      openingBalanceId := openingBalanceId, positionMinor := positionMinor
      lines := [⟨(Uuid.sample 4).text, (Uuid.sample 5).text, 10000, 25000⟩,
        ⟨(Uuid.sample 4).text, (Uuid.sample 6).text, 20000, 0⟩] }

/-- Two openings that differ in what the server read have one intent stream. -/
theorem intents_carry_client_facts_opening :
    ∃ r r' fields fields' intent, r.1.bytes ≠ r'.1.bytes ∧
      (sampleOpening none none).built.Carries r fields intent ∧
      (sampleOpening (some (Uuid.sample 7).text) (some 100)).built.Carries r' fields' intent := by
  have h : (sampleOpening none none).built.result.isSome = true := by decide +kernel
  have h' : (sampleOpening (some (Uuid.sample 7).text) (some 100)).built.result.isSome = true := by
    decide +kernel
  have hne : ((sampleOpening none none).built.result.get h).1.bytes ≠
      ((sampleOpening (some (Uuid.sample 7).text) (some 100)).built.result.get h').1.bytes := by
    decide +kernel +revert
  obtain ⟨fields, fields', intent, intent', hc, hc', _, _⟩ :=
    intents_carry_client_facts (Option.some_get h).symm (Option.some_get h').symm
  have hsame : (sampleOpening none none).built.intentFields =
      (sampleOpening (some (Uuid.sample 7).text) (some 100)).built.intentFields := by
    decide +kernel
  rw [hc.projects, hc'.projects] at hsame
  have hstream := hc.stream
  rw [Option.some.inj hsame] at hstream
  obtain rfl : intent = intent' := Except.ok.inj (hstream.symm.trans hc'.stream)
  exact ⟨_, _, fields, fields', intent, hne, hc, hc'⟩

end Daftar.Inventory.Payload
