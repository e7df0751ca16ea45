/-
  File: Daftar/Inventory/Payload/Intent.lean
  Subject: The intent of a command: its payload grammar without the server-derived fields.

  * `inventoryIntentSchema` keeps the fields a client states; a group whose count is derived goes as
    a whole.
  * `FieldFits` and `fieldLine`: what a spec admits and what a field writes, which does not depend
    on where it stands; `canonicalStream_eq_frame`: a stream is accepted exactly when its shape and
    its fields are, and it is the frame of its lines.
-/

import Daftar.Inventory.Payload.Decode
import Daftar.Library.Sha256

namespace Daftar.Inventory.Payload

open AsciiText
open Fallible
open Framing
open Sha256

/-! ## 1. The fields of an intent -/

def INVENTORY_SERVER_DERIVED_FIELDS : List String :=
  ["expected_value", "opening_balance_id", "position_minor", "variance_q4"]

/-- The names `text_w1` to `text_w8`. -/
def textWordNames (text : String) : List String :=
  (List.range 8).map fun i => text ++ "_w" ++ toString (i + 1)

/-- The client's fields, where a kind lists them; every other kind states all but the derived. -/
def INVENTORY_OPERATION_INTENT_FIELDS : InventoryOperationCode → Option (List String)
  | .purchaseReceive => some ["purchase_id", "warehouse_id", "draft_revision"]
  | .purchaseReturn =>
    some (["return_id", "purchase_id", "warehouse_id", "document_date"] ++
      textWordNames "reason" ++ ["line_count", "return_line_id", "purchase_line_id", "qty_q4"])
  | .purchaseReverse =>
    some (["purchase_id", "warehouse_id", "reversal_date"] ++ textWordNames "reason")
  | .supplierPay =>
    some (["payment_id", "supplier_id", "payment_method_id", "payment_date", "currency", "amount"] ++
      textWordNames "reference" ++
      ["allocation_count", "allocation_id", "purchase_id", "payment_amount", "applied"])
  | .supplierAllocateCredit =>
    some ["allocation_id", "credit_note_id", "purchase_id", "allocation_date", "consumed", "applied"]
  | .supplierReceiveRefund =>
    some (["refund_id", "credit_note_id", "payment_method_id", "refund_date", "consumed",
      "receipt_currency", "receipt_amount"] ++ textWordNames "reference")
  | .purchaseWriteOffResidue =>
    some (["purchase_id", "write_off_date"] ++ textWordNames "reason" ++ ["residue"])
  | .saleCommit =>
    some (["sale_id", "settlement_mode", "customer_id", "warehouse_id", "document_date", "due_date",
      "tax_minor"] ++ textWordNames "notes" ++
      ["line_count", "line_id", "product_id", "merchant_variant_id", "qty_q4", "discount_minor"])
  | .customerCollectPayment =>
    some (["payment_id", "customer_id", "payment_method_id", "payment_date", "currency", "amount"] ++
      textWordNames "reference" ++
      ["credit_id", "credit_amount", "allocation_count", "allocation_id", "invoice_id",
       "payment_amount", "applied"])
  | .customerApplyCredit =>
    some ["application_id", "credit_id", "invoice_id", "application_date", "consumed", "applied"]
  | _ => none

/-- The field belongs to the intent. -/
def keep (opCode : InventoryOperationCode) (s : InventoryPayloadFieldSpec) : Bool :=
  !INVENTORY_SERVER_DERIVED_FIELDS.contains s.name &&
    match INVENTORY_OPERATION_INTENT_FIELDS opCode with
    | none => true
    | some only => only.contains s.name

/-- The schema of a kind less its server-derived fields, header and group alike. -/
def inventoryIntentSchema (opCode : InventoryOperationCode) : InventoryPayloadSchema :=
  let schema := INVENTORY_PAYLOAD_SCHEMAS opCode
  let header := schema.header.filter (keep opCode)
  match schema.repeat with
  | none => fixed header
  | some rep =>
    if header.any (fun s => s.name == rep.countField) then
      let lineFields := rep.fields.filter (keep opCode)
      match schema.trailer with
      | none => withGroup header rep.countField lineFields
      | some trailer =>
        if keep opCode trailer.countField then
          withLinesAndTrailer header lineFields
            { countField := trailer.countField
              fields := trailer.fields.filter (keep opCode)
              perLine := trailer.perLine.filter (keep opCode) }
        else withGroup header rep.countField lineFields
    else fixed header

/-- The intent of a header and its lines, when their count is the client's. -/
theorem inventoryIntentSchema_withGroup {op : InventoryOperationCode} {countField : String}
    {header group : List InventoryPayloadFieldSpec}
    (hs : INVENTORY_PAYLOAD_SCHEMAS op = withGroup header countField group)
    (hc : ((header.filter (keep op)).any fun s => s.name == countField) = true) :
    inventoryIntentSchema op =
      withGroup (header.filter (keep op)) countField (group.filter (keep op)) := by
  simp only [inventoryIntentSchema, hs, withGroup, hc, if_true]

/-- The stream of a command's intent: the same encoder over the intent schema. -/
def canonicalInventoryIntent (opCode tenantId businessId : String)
    (fields : List InventoryPayloadField) : Result (List UInt8) :=
  match InventoryOperationCode.ofText opCode with
  | none => .error (payloadRefusal "names an unregistered operation kind")
  | some op => do
    refuseIf (OPERATION_CODE_RE opCode = false)
      (payloadRefusal "names an unregistered operation kind")
    canonicalStream op tenantId businessId (inventoryIntentSchema op) fields

def inventoryIntentSha256 (opCode : InventoryOperationCode) (tenantId businessId : String)
    (fields : List InventoryPayloadField) : Result String := do
  let bytes ← canonicalInventoryIntent opCode.text tenantId businessId fields
  pure (digest bytes)

/-- The canonical bytes of a command and their digest. -/
structure InventoryPayload where
  opCode : InventoryOperationCode
  bytes : List UInt8
  sha256 : String
  deriving DecidableEq, Repr

def buildInventoryPayload (opCode : InventoryOperationCode) (tenantId businessId : String)
    (fields : List InventoryPayloadField) : Result InventoryPayload := do
  let bytes ← canonicalInventoryPayload opCode.text tenantId businessId fields
  pure ⟨opCode, bytes, digest bytes⟩

theorem canonicalInventoryPayload_text {op : InventoryOperationCode} {tenantId businessId : String}
    {fields : List InventoryPayloadField} :
    canonicalInventoryPayload op.text tenantId businessId fields =
      canonicalStream op tenantId businessId (INVENTORY_PAYLOAD_SCHEMAS op) fields := by
  unfold canonicalInventoryPayload
  rw [op.ofText_text]
  simp only [OPERATION_CODE_RE_text, Bool.true_eq_false, refuseIf_of_not not_false, ok_bind]

theorem canonicalInventoryIntent_text {op : InventoryOperationCode} {tenantId businessId : String}
    {fields : List InventoryPayloadField} :
    canonicalInventoryIntent op.text tenantId businessId fields =
      canonicalStream op tenantId businessId (inventoryIntentSchema op) fields := by
  unfold canonicalInventoryIntent
  rw [op.ofText_text]
  simp only [OPERATION_CODE_RE_text, Bool.true_eq_false, refuseIf_of_not not_false, ok_bind]

/-! ## 2. What a field writes -/

def FitsInt8 (n : ℤ) : Prop := INT8_MIN ≤ n ∧ n ≤ INT8_MAX

instance (n : ℤ) : Decidable (FitsInt8 n) := inferInstanceAs (Decidable (_ ∧ _))

/-- What an integer field takes. -/
def JsInteger.Fits : JsInteger → Prop
  | .bigint n => FitsInt8 n
  | .number n => -MAX_SAFE_INTEGER ≤ n ∧ n ≤ MAX_SAFE_INTEGER
  | .negativeZero => True
  | .notInteger => False

/-- A spec admits a field: NULL where it may stand, else a canonical value of the spec's type. -/
def FieldFits (s : InventoryPayloadFieldSpec) : InventoryPayloadField → Prop
  | .null => s.nullable = true
  | .uuid value => s.type = .uuid ∧ CANONICAL_UUID_RE value = true
  | .boolean _ => s.type = .boolean
  | .integer value => s.type = .integer ∧ value.Fits
  | .code value => s.type = .code ∧ REGISTRY_CODE_RE value = true

/-- The line of a field. -/
def fieldLine : InventoryPayloadField → List UInt8
  | .null => [NUL]
  | .uuid value => asciiBytes value
  | .boolean value => asciiBytes (if value then "true" else "false")
  | .integer value => asciiBytes (toString (value.value.getD 0))
  | .code value => asciiBytes value

theorem encodeInteger_eq_ok {v : JsInteger} {what text : String} :
    encodeInteger v what = .ok text ↔ v.Fits ∧ toString (v.value.getD 0) = text := by
  cases v with
  | bigint n =>
      simp only [encodeInteger, toBigInt, ok_bind, bind_eq_ok, refuseIf_eq_ok, exists_const,
        pure_eq_ok, JsInteger.Fits, FitsInt8, JsInteger.value, Option.getD_some, not_or, not_lt]
  | number n =>
      simp only [encodeInteger, toBigInt, JsInteger.Fits, JsInteger.value, Option.getD_some]
      by_cases h : -MAX_SAFE_INTEGER ≤ n ∧ n ≤ MAX_SAFE_INTEGER
      · have hr : ¬ (n < INT8_MIN ∨ INT8_MAX < n) := by
          unfold MAX_SAFE_INTEGER at h
          unfold INT8_MIN INT8_MAX
          omega
        simp only [h, and_self, if_true, ok_bind, bind_eq_ok, refuseIf_eq_ok, exists_const,
          pure_eq_ok, hr, not_false_eq_true, true_and]
      · simp only [h, if_false, error_bind, false_and, reduceCtorEq]
  | negativeZero =>
      simp only [encodeInteger, toBigInt, ok_bind, bind_eq_ok, refuseIf_eq_ok, exists_const,
        pure_eq_ok, JsInteger.Fits, JsInteger.value, Option.getD_some, true_and]
      exact and_iff_right (by decide)
  | notInteger =>
      simp only [encodeInteger, toBigInt, error_bind, JsInteger.Fits, false_and, reduceCtorEq]

/-- **A field is encoded exactly when its spec admits it**, as its line. -/
theorem encodeInventoryField_eq_ok {f : InventoryPayloadField} {s : InventoryPayloadFieldSpec}
    {i : ℕ} {line : List UInt8} :
    encodeInventoryField f s i = .ok line ↔ FieldFits s f ∧ fieldLine f = line := by
  cases f with
  | null =>
      simp only [encodeInventoryField, bind_eq_ok, refuseIf_eq_ok, exists_const, pure_eq_ok,
        Bool.not_eq_false, FieldFits, fieldLine]
  | uuid value =>
      simp only [encodeInventoryField, bind_eq_ok, refuseIf_eq_ok, exists_const, pure_eq_ok,
        not_not, encodeUuid_eq_ok, FieldFits, fieldLine, ne_eq, and_assoc, exists_and_left,
        exists_eq_left']
  | boolean value =>
      simp only [encodeInventoryField, bind_eq_ok, refuseIf_eq_ok, exists_const, pure_eq_ok,
        not_not, FieldFits, fieldLine, ne_eq]
  | integer value =>
      simp only [encodeInventoryField, bind_eq_ok, refuseIf_eq_ok, exists_const, pure_eq_ok,
        not_not, encodeInteger_eq_ok, FieldFits, fieldLine, ne_eq, and_assoc, exists_and_left,
        exists_eq_left']
  | code value =>
      simp only [encodeInventoryField, bind_eq_ok, refuseIf_eq_ok, exists_const, pure_eq_ok,
        not_not, encodeCode_eq_ok, FieldFits, fieldLine, ne_eq, and_assoc, exists_and_left,
        exists_eq_left']

/-- As many specs as fields: the fields are encoded exactly when each fits its spec. -/
theorem encodeFields_eq_ok : ∀ {specs : List InventoryPayloadFieldSpec}
    {fields : List InventoryPayloadField} {i : ℕ} {lines : List (List UInt8)},
    fields.length = specs.length → (encodeFields i specs fields = .ok lines ↔
      List.Forall₂ FieldFits specs fields ∧ fields.map fieldLine = lines)
  | [], [], _, lines, _ => by
      constructor
      · intro h
        cases h
        exact ⟨.nil, rfl⟩
      · intro h
        obtain ⟨_, rfl⟩ := h
        rfl
  | s :: specs, f :: fields, i, lines, hl => by
      have hlen : fields.length = specs.length := Nat.succ.inj hl
      simp only [encodeFields_cons, encodeInventoryField_eq_ok, List.forall₂_cons, List.map_cons,
        encodeFields_eq_ok hlen]
      constructor
      · intro h
        obtain ⟨_, ⟨hf, rfl⟩, _, ⟨hfs, rfl⟩, rfl⟩ := h
        exact ⟨⟨hf, hfs⟩, rfl⟩
      · intro h
        obtain ⟨⟨hf, hfs⟩, rfl⟩ := h
        exact ⟨_, ⟨hf, rfl⟩, _, ⟨hfs, rfl⟩, rfl⟩

/-! ## 3. Accepted streams -/

theorem framed_of_printable {s : String} (h : Printable s) (hne : s.toList ≠ []) :
    unframeable (asciiBytes s) = false := by
  have hbytes : ∀ b ∈ asciiBytes s, 32 ≤ b.toNat := fun b hb => asciiBytes_mem h hb
  have hnot : ∀ b : UInt8, b.toNat < 32 → (asciiBytes s).contains b = false := by
    intro b hb
    rw [List.contains_eq_mem, decide_eq_false_iff_not]
    intro hm
    have := hbytes b hm
    omega
  have hempty : (asciiBytes s).isEmpty = false := by
    unfold asciiBytes
    rw [List.isEmpty_eq_false_iff]
    exact fun h0 => hne (List.map_eq_nil_iff.mp h0)
  simp only [unframeable, hempty, hnot LF (by decide), hnot NUL (by decide), Bool.and_false,
    Bool.or_false]

theorem toList_ne_nil_of_uuid {s : String} (h : CANONICAL_UUID_RE s = true) : s.toList ≠ [] := by
  intro h0
  have hlen := matchesEach_length h
  rw [h0] at hlen
  exact absurd hlen (by decide)

theorem toList_ne_nil_of_code {s : String} (h : REGISTRY_CODE_RE s = true) : s.toList ≠ [] := by
  intro h0
  simp only [REGISTRY_CODE_RE, h0, Bool.false_eq_true] at h

theorem toString_toList_ne_nil (n : ℤ) : (toString n).toList ≠ [] := by
  intro h0
  have hr := readDecimal_toString n
  rw [h0] at hr
  have hn : n = 0 := hr.symm
  subst hn
  exact absurd h0 (by decide)

/-- No line of a field breaks the framing. -/
theorem framed_fieldLine {s : InventoryPayloadFieldSpec} {f : InventoryPayloadField}
    (h : FieldFits s f) : unframeable (fieldLine f) = false := by
  cases f with
  | null => decide
  | uuid value => exact framed_of_printable (printable_of_uuid h.2) (toList_ne_nil_of_uuid h.2)
  | boolean value => cases value <;> decide
  | integer value => exact framed_of_printable (printable_toString _) (toString_toList_ne_nil _)
  | code value => exact framed_of_printable (printable_of_code h.2) (toList_ne_nil_of_code h.2)

/-- The four lines before the fields. -/
def preamble (opCode : InventoryOperationCode) (tenantId businessId : String) : List (List UInt8) :=
  [asciiBytes INVPL_DOMAIN, asciiBytes opCode.text, asciiBytes tenantId, asciiBytes businessId]

theorem framed_preamble {op : InventoryOperationCode} {tenantId businessId : String}
    (ht : CANONICAL_UUID_RE tenantId = true) (hb : CANONICAL_UUID_RE businessId = true) :
    ∀ line ∈ preamble op tenantId businessId, unframeable line = false := by
  have hop : op.text.toList ≠ [] := by
    cases op <;> decide
  intro line hline
  simp only [preamble, List.mem_cons, List.not_mem_nil, or_false] at hline
  rcases hline with rfl | rfl | rfl | rfl
  · decide
  · exact framed_of_printable (printable_opCode op) hop
  · exact framed_of_printable (printable_of_uuid ht) (toList_ne_nil_of_uuid ht)
  · exact framed_of_printable (printable_of_uuid hb) (toList_ne_nil_of_uuid hb)

/-- **A stream is accepted exactly when its shape, its identifiers and its fields are**, and it is
    the frame of the preamble and the lines of the fields. -/
theorem canonicalStream_eq_frame {op : InventoryOperationCode} {tenantId businessId : String}
    {schema : InventoryPayloadSchema} {fields : List InventoryPayloadField} {bytes : List UInt8} :
    canonicalStream op tenantId businessId schema fields = .ok bytes ↔
      ∃ specs, expandSchema op schema fields = .ok specs ∧
        CANONICAL_UUID_RE tenantId = true ∧ CANONICAL_UUID_RE businessId = true ∧
        List.Forall₂ FieldFits specs fields ∧
        frame LF (preamble op tenantId businessId ++ fields.map fieldLine) = bytes := by
  rw [canonicalStream_eq_ok]
  constructor
  · intro h
    obtain ⟨specs, hspecs, ht, hb, body, hbody, _, rfl⟩ := h
    obtain ⟨hfit, rfl⟩ := (encodeFields_eq_ok (streamSpecs_expandSchema hspecs hbody).1).mp hbody
    exact ⟨specs, hspecs, ht, hb, hfit, rfl⟩
  · intro h
    obtain ⟨specs, hspecs, ht, hb, hfit, rfl⟩ := h
    refine ⟨specs, hspecs, ht, hb, _, (encodeFields_eq_ok hfit.length_eq.symm).mpr ⟨hfit, rfl⟩, ?_,
      rfl⟩
    intro line hline
    have hline' : line ∈ preamble op tenantId businessId ++ fields.map fieldLine := hline
    rcases List.mem_append.mp hline' with hp | hf
    · exact framed_preamble ht hb line hp
    · obtain ⟨f, hf', rfl⟩ := List.mem_map.mp hf
      obtain ⟨s, _, hs⟩ := forall₂_source hfit hf'
      exact framed_fieldLine hs

/-! ## 4. Shapes -/

/-- The field at a position is the count `n`. -/
def CountAt (fields : List InventoryPayloadField) (k n : ℕ) : Prop :=
  ∃ v : JsInteger, fields[k]? = some (.integer v) ∧ v.Fits ∧ v.value = some (n : ℤ)

theorem readCount_iff {fields : List InventoryPayloadField} {k : ℕ} {name : String} {m : ℤ} :
    readCount fields k name = .ok m ↔ ∃ n : ℕ, CountAt fields k n ∧ (n : ℤ) = m := by
  constructor
  · intro h
    obtain ⟨h0, v, hv, hm⟩ := readCount_eq_ok h
    have hfit : v.Fits := by
      unfold readCount at h
      simp only [hv, bind_eq_ok, encodeInteger_eq_ok] at h
      obtain ⟨_, ⟨hfit, _⟩, _⟩ := h
      exact hfit
    have hcast : (m.toNat : ℤ) = m := Int.toNat_of_nonneg h0
    exact ⟨m.toNat, ⟨v, hv, hfit, by rw [hcast, hm]⟩, hcast⟩
  · intro h
    obtain ⟨n, ⟨v, hv, hfit, hn⟩, rfl⟩ := h
    have htext : encodeInteger v (fieldLabel k name) = .ok (toString (n : ℤ)) :=
      encodeInteger_eq_ok.mpr ⟨hfit, by rw [hn, Option.getD_some]⟩
    have hneg : ¬ (n : ℤ) < 0 := by omega
    simp only [readCount, hv, htext, ok_bind, readDecimal_toString, bind_eq_ok, refuseIf_eq_ok,
      exists_const, hneg, not_false_eq_true, true_and, pure_eq_ok]

/-- Where the count of a group stands in a header. -/
def countIndex (header : List InventoryPayloadFieldSpec) (countField : String) : ℕ :=
  header.findIdx fun s => s.name == countField

/-- The specs a schema gives to fields, from the counts they carry. -/
inductive Expands : InventoryPayloadSchema → List InventoryPayloadField →
    List InventoryPayloadFieldSpec → Prop
  | fixed {header : List InventoryPayloadFieldSpec} {fields : List InventoryPayloadField} :
      Expands ⟨header, none, none⟩ fields header
  | lines {header : List InventoryPayloadFieldSpec} {fields : List InventoryPayloadField}
      {rep : InventoryPayloadRepeat} {n : ℕ}
      (spec : isCountSpec header[countIndex header rep.countField]? = true)
      (nonempty : rep.fields ≠ []) (count : CountAt fields (countIndex header rep.countField) n) :
      Expands ⟨header, some rep, none⟩ fields (header ++ repeated n rep.fields)
  | trailer {header : List InventoryPayloadFieldSpec} {fields : List InventoryPayloadField}
      {rep : InventoryPayloadRepeat} {tr : InventoryPayloadTrailer} {n k : ℕ}
      (spec : isCountSpec header[countIndex header rep.countField]? = true)
      (nonempty : rep.fields ≠ []) (count : CountAt fields (countIndex header rep.countField) n)
      (trailerSpec : isCountSpec (some tr.countField) = true) (trailerNonempty : tr.fields ≠ [])
      (trailerCount : CountAt fields (header.length + n * rep.fields.length) k) :
      Expands ⟨header, some rep, some tr⟩ fields (header ++ repeated n rep.fields ++
        tr.countField :: repeated k (tr.fields ++ perLineCells tr n))

theorem length_repeated_natCast (n : ℕ) (group : List InventoryPayloadFieldSpec) :
    (repeated n group).length = n * group.length := by
  have h := length_repeated (Int.natCast_nonneg n) group
  exact_mod_cast h

theorem length_perLineCells_natCast (n : ℕ) (tr : InventoryPayloadTrailer) :
    ((perLineCells tr n).length : ℤ) = if tr.perLine.isSome then (n : ℤ) else 0 :=
  length_perLineCells (Int.natCast_nonneg n) tr

/-- **A schema is expanded exactly over fields of its shape**, one spec a field. -/
theorem expandSchema_eq_ok {op : InventoryOperationCode} {schema : InventoryPayloadSchema}
    {fields : List InventoryPayloadField} {specs : List InventoryPayloadFieldSpec} :
    expandSchema op schema fields = .ok specs ↔
      Expands schema fields specs ∧ fields.length = specs.length := by
  obtain ⟨header, rep, tr⟩ := schema
  cases rep with
  | none =>
      cases tr with
      | none =>
          simp only [expandSchema, bind_eq_ok, refuseIf_eq_ok, exists_const, pure_eq_ok, not_not,
            Option.isSome_none, Bool.false_eq_true, not_false_eq_true, true_and, ne_eq]
          constructor
          · intro h
            obtain ⟨hlen, rfl⟩ := h
            exact ⟨.fixed, hlen⟩
          · intro h
            obtain ⟨⟨⟩, hlen⟩ := h
            exact ⟨hlen, rfl⟩
      | some tr =>
          simp only [expandSchema, bind_eq_ok, refuseIf_eq_ok, exists_const, Option.isSome_some,
            not_true_eq_false, false_and, false_iff, not_and]
          intro h
          cases h
  | some rep =>
      cases tr with
      | none =>
          simp only [expandSchema, bind_eq_ok, refuseIf_eq_ok, exists_const, pure_eq_ok, not_or,
            Bool.not_eq_false, readCount_iff, not_not, ne_eq]
          constructor
          · intro h
            obtain ⟨⟨hspec, hne⟩, _, ⟨n, hn, rfl⟩, hlen, rfl⟩ := h
            refine ⟨.lines hspec hne hn, ?_⟩
            rw [List.length_append, length_repeated_natCast]
            exact_mod_cast hlen
          · intro h
            obtain ⟨hexp, hlen⟩ := h
            cases hexp with
            | lines hspec hne hn =>
                rw [List.length_append, length_repeated_natCast] at hlen
                exact ⟨⟨hspec, hne⟩, _, ⟨_, hn, rfl⟩, by exact_mod_cast hlen, rfl⟩
      | some tr =>
          simp only [expandSchema, expandTrailer, bind_eq_ok, refuseIf_eq_ok, exists_const,
            pure_eq_ok, not_or, Bool.not_eq_false, readCount_iff, not_not, ne_eq, not_le]
          have hat : ∀ n : ℕ, ((header.length : ℤ) + n * rep.fields.length).toNat =
              header.length + n * rep.fields.length := by
            intro n
            exact_mod_cast Int.toNat_natCast (header.length + n * rep.fields.length)
          have hshape : ∀ n k : ℕ, ((fields.length : ℤ) = header.length + n * rep.fields.length + 1 +
              k * (tr.fields.length + if tr.perLine.isSome then (n : ℤ) else 0) ↔
              fields.length = (header ++ repeated n rep.fields ++ tr.countField ::
                repeated k (tr.fields ++ perLineCells tr n)).length) := by
            intro n k
            rw [← length_perLineCells_natCast, List.length_append, List.length_append,
              List.length_cons, length_repeated_natCast, length_repeated_natCast, List.length_append]
            have hcomm : ∀ a b : ℕ, a + (b + 1) = a + 1 + b := fun a b => by omega
            rw [hcomm]
            exact_mod_cast Iff.rfl
          constructor
          · intro h
            obtain ⟨⟨hspec, hne⟩, _, ⟨n, hn, rfl⟩, ⟨htc, htne⟩, _, _, ⟨k, hk, rfl⟩, hlen, rfl⟩ := h
            rw [hat] at hk
            exact ⟨.trailer hspec hne hn htc htne hk, (hshape n k).mp hlen⟩
          · intro h
            obtain ⟨hexp, hlen⟩ := h
            cases hexp with
            | @trailer _ _ _ _ n k hspec hne hn htc htne hk =>
                have hlen' := (hshape n k).mpr hlen
                refine ⟨⟨hspec, hne⟩, _, ⟨n, hn, rfl⟩, ⟨htc, htne⟩, ?_, _,
                  ⟨k, (hat n).symm ▸ hk, rfl⟩, hlen', rfl⟩
                obtain ⟨v, hv, _⟩ := hk
                have := (List.getElem?_eq_some_iff.mp hv).1
                exact_mod_cast this

/-- A header and its lines are admitted apart. -/
theorem forall₂_append_iff {α β : Type} {R : α → β → Prop} : ∀ {as bs : List α} {cs ds : List β},
    as.length = cs.length →
      (List.Forall₂ R (as ++ bs) (cs ++ ds) ↔ List.Forall₂ R as cs ∧ List.Forall₂ R bs ds)
  | [], bs, [], ds, _ => by simp
  | a :: as, bs, c :: cs, ds, h => by
      rw [List.cons_append, List.cons_append, List.forall₂_cons, List.forall₂_cons,
        forall₂_append_iff (Nat.succ.inj h), and_assoc]

theorem repeated_succ (n : ℕ) (group : List InventoryPayloadFieldSpec) :
    repeated ((n + 1 : ℕ) : ℤ) group = group ++ repeated n group := by
  unfold repeated
  rw [Int.toNat_natCast, Int.toNat_natCast, List.replicate_succ, List.flatten_cons]

/-- Repeated groups are admitted one by one. -/
theorem forall₂_repeated {R : InventoryPayloadFieldSpec → InventoryPayloadField → Prop}
    {group : List InventoryPayloadFieldSpec} : ∀ {groups : List (List InventoryPayloadField)},
    (∀ g ∈ groups, g.length = group.length) →
      (List.Forall₂ R (repeated groups.length group) groups.flatten ↔
        ∀ g ∈ groups, List.Forall₂ R group g)
  | [], _ => by simp [repeated]
  | g :: groups, h => by
      rw [List.forall_mem_cons] at h
      rw [List.length_cons, repeated_succ, List.flatten_cons, forall₂_append_iff h.1.symm,
        forall₂_repeated h.2, List.forall_mem_cons]

theorem length_flatten_of_forall {α : Type} {k : ℕ} : ∀ {groups : List (List α)},
    (∀ g ∈ groups, g.length = k) → groups.flatten.length = groups.length * k
  | [], _ => by simp
  | g :: groups, h => by
      rw [List.forall_mem_cons] at h
      rw [List.flatten_cons, List.length_append, h.1, length_flatten_of_forall h.2, List.length_cons,
        Nat.succ_mul, add_comm]

/-- **The shape of a header and its lines is accepted**, each part as its specs admit it. -/
theorem expandSchema_lines {op : InventoryOperationCode}
    {header group : List InventoryPayloadFieldSpec} {countField : String}
    {hfields : List InventoryPayloadField} {groups : List (List InventoryPayloadField)}
    (spec : isCountSpec header[countIndex header countField]? = true) (nonempty : group ≠ [])
    (hlen : hfields.length = header.length) (hgroups : ∀ g ∈ groups, g.length = group.length)
    (count : CountAt hfields (countIndex header countField) groups.length) :
    expandSchema op (withGroup header countField group) (hfields ++ groups.flatten) =
      .ok (header ++ repeated groups.length group) := by
  refine expandSchema_eq_ok.mpr ⟨.lines spec nonempty ?_, ?_⟩
  · obtain ⟨v, hv, hrest⟩ := count
    refine ⟨v, ?_, hrest⟩
    rw [List.getElem?_append_left (List.getElem?_eq_some_iff.mp hv).1, hv]
  · rw [List.length_append, List.length_append, length_flatten_of_forall hgroups,
      length_repeated_natCast, hlen]

/-- **A header and its lines are accepted** when each of them is admitted. -/
theorem canonicalStream_lines {op : InventoryOperationCode} {tenantId businessId : String}
    {header group : List InventoryPayloadFieldSpec} {countField : String}
    {hfields : List InventoryPayloadField} {groups : List (List InventoryPayloadField)}
    (spec : isCountSpec header[countIndex header countField]? = true) (nonempty : group ≠ [])
    (hlen : hfields.length = header.length) (hgroups : ∀ g ∈ groups, g.length = group.length)
    (count : CountAt hfields (countIndex header countField) groups.length) :
    (∃ bytes, canonicalStream op tenantId businessId (withGroup header countField group)
        (hfields ++ groups.flatten) = .ok bytes) ↔
      CANONICAL_UUID_RE tenantId = true ∧ CANONICAL_UUID_RE businessId = true ∧
        List.Forall₂ FieldFits header hfields ∧ ∀ g ∈ groups, List.Forall₂ FieldFits group g := by
  have hexp : expandSchema op (withGroup header countField group) (hfields ++ groups.flatten) =
      .ok (header ++ repeated groups.length group) :=
    expandSchema_lines spec nonempty hlen hgroups count
  simp only [canonicalStream_eq_frame, hexp, Except.ok.injEq, exists_eq_left', exists_and_left,
    exists_eq', and_true, forall₂_append_iff hlen.symm, forall₂_repeated hgroups]

end Daftar.Inventory.Payload
