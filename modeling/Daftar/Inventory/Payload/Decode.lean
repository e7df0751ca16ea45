/-
  File: Daftar/Inventory/Payload/Decode.lean
  Subject: The stream is decoded from the schemas alone.

  * `PayloadValue` is what a field says; a `number` and a `bigint` of one value say the same.
  * `decodeInventoryPayload` reads a stream back: the operation names the schema, the counts in the
    stream give the number of lines.
  * `decode_canonicalStream`: whatever the encoder accepts is read back, for any schema.
  * `canonicalInventoryPayload_unambiguous`: one stream, one command.
-/

import Daftar.Inventory.Payload.Stream
import Mathlib.Algebra.Order.Ring.Int
import Mathlib.Tactic.Ring

namespace Daftar.Inventory.Payload

open AsciiText
open Fallible
open Framing

/-! ## 1. What a field says -/

inductive PayloadValue
  | uuid (value : String)
  | boolean (value : Bool)
  | integer (value : ℤ)
  | code (value : String)
  | null
  deriving DecidableEq, Repr

def JsInteger.value : JsInteger → Option ℤ
  | .bigint n => some n
  | .number n => some n
  | .negativeZero => some 0
  | .notInteger => none

def InventoryPayloadField.value : InventoryPayloadField → Option PayloadValue
  | .uuid s => some (.uuid s)
  | .boolean b => some (.boolean b)
  | .integer v => v.value.map .integer
  | .code s => some (.code s)
  | .null => some .null

/-- Equal fields, integers by value. -/
def SameField (f g : InventoryPayloadField) : Prop := ∃ v, f.value = some v ∧ g.value = some v

/-! ## 2. The decoder -/

def decodeField (s : InventoryPayloadFieldSpec) (line : List UInt8) : Option PayloadValue :=
  if line = [NUL] then some .null
  else
    match s.type with
    | .uuid => some (.uuid (asciiText line))
    | .boolean => some (.boolean (asciiText line == "true"))
    | .integer => some (.integer (readDecimal (asciiText line).toList))
    | .code => some (.code (asciiText line))

def decodeFields : List InventoryPayloadFieldSpec → List (List UInt8) → Option (List PayloadValue)
  | [], [] => some []
  | s :: specs, line :: lines => do
    let v ← decodeField s line
    let vs ← decodeFields specs lines
    pure (v :: vs)
  | _, _ => none

def decodeCount (lines : List (List UInt8)) (at_ : ℕ) : Option ℤ :=
  lines[at_]?.map fun line => readDecimal (asciiText line).toList

/-- The specs of the lines of a stream, from the counts it carries. -/
def streamSpecs (schema : InventoryPayloadSchema) (lines : List (List UInt8)) :
    Option (List InventoryPayloadFieldSpec) :=
  match schema.repeat with
  | none => some schema.header
  | some rep => do
    let count ← decodeCount lines (schema.header.findIdx fun s => s.name == rep.countField)
    match schema.trailer with
    | none => pure (schema.header ++ repeated count rep.fields)
    | some trailer => do
      let k ← decodeCount lines (schema.header.length + count * rep.fields.length).toNat
      pure (schema.header ++ repeated count rep.fields ++ trailer.countField ::
        repeated k (trailer.fields ++ perLineCells trailer count))

structure DecodedPayload where
  opCode : String
  tenantId : String
  businessId : String
  values : List PayloadValue
  deriving DecidableEq, Repr

def decodeInventoryPayload (bytes : List UInt8) : Option DecodedPayload :=
  match unframe LF bytes with
  | _ :: op :: tenant :: business :: body => do
    let opCode ← InventoryOperationCode.ofText (asciiText op)
    let specs ← streamSpecs (INVENTORY_PAYLOAD_SCHEMAS opCode) body
    let values ← decodeFields specs body
    pure ⟨asciiText op, asciiText tenant, asciiText business, values⟩
  | _ => none

/-! ## 3. Canonical text is printable -/

theorem printable_of_isLowerHex {c : Char} (h : isLowerHex c = true) :
    32 ≤ c.toNat ∧ c.toNat < 127 := by
  simp only [isLowerHex, Bool.or_eq_true, Bool.and_eq_true, decide_eq_true_eq, Char.le_def,
    UInt32.le_iff_toNat_le] at h
  have h' : (48 ≤ c.toNat ∧ c.toNat ≤ 57) ∨ (97 ≤ c.toNat ∧ c.toNat ≤ 102) := h
  omega

theorem printable_of_isLowerAlpha {c : Char} (h : isLowerAlpha c = true) :
    32 ≤ c.toNat ∧ c.toNat < 127 := by
  simp only [isLowerAlpha, Bool.and_eq_true, decide_eq_true_eq, Char.le_def,
    UInt32.le_iff_toNat_le] at h
  have h' : 97 ≤ c.toNat ∧ c.toNat ≤ 122 := h
  omega

theorem printable_of_isCodeChar {c : Char} (h : isCodeChar c = true) :
    32 ≤ c.toNat ∧ c.toNat < 127 := by
  simp only [isCodeChar, Bool.or_eq_true, beq_iff_eq] at h
  rcases h with (h | h) | rfl
  · exact printable_of_isLowerAlpha h
  · exact printable_of_isDigit h
  · decide

theorem printable_of_uuid {s : String} (h : CANONICAL_UUID_RE s = true) : Printable s := by
  unfold Printable
  refine matchesEach_forall ?_ h
  intro p hp c hc
  have hp' : p = isLowerHex ∨ p = (· == '-') := by
    simp only [canonicalUuidClasses, List.mem_append, List.mem_cons, List.mem_replicate] at hp
    tauto
  rcases hp' with rfl | rfl
  · exact printable_of_isLowerHex hc
  · rw [beq_iff_eq.mp hc]
    decide

theorem printable_of_code {s : String} (h : REGISTRY_CODE_RE s = true) : Printable s := by
  unfold REGISTRY_CODE_RE at h
  intro c hc
  split at h
  · cases h
  · rename_i d ds hs
    rw [hs] at hc
    simp only [Bool.and_eq_true, List.all_eq_true] at h
    rcases List.mem_cons.mp hc with rfl | hc'
    · exact printable_of_isLowerAlpha h.1.1
    · exact printable_of_isCodeChar (h.2 c hc')

/-- No operation code holds anything but letters, dots and underscores. -/
theorem printable_opCode (op : InventoryOperationCode) : Printable op.text := by
  cases op <;> decide

theorem asciiBytes_ne_null {s : String} (h : Printable s) : asciiBytes s ≠ [NUL] := by
  intro he
  have := asciiBytes_mem h (b := NUL) (he ▸ List.mem_singleton_self NUL)
  revert this
  decide

/-! ## 4. One field is read back -/

theorem encodeUuid_eq_ok {value what text : String} :
    encodeUuid value what = .ok text ↔ CANONICAL_UUID_RE value = true ∧ value = text := by
  simp only [encodeUuid, bind_eq_ok, refuseIf_eq_ok, exists_const, pure_eq_ok,
    Bool.not_eq_false]

theorem encodeCode_eq_ok {value what text : String} :
    encodeCode value what = .ok text ↔ REGISTRY_CODE_RE value = true ∧ value = text := by
  simp only [encodeCode, bind_eq_ok, refuseIf_eq_ok, exists_const, pure_eq_ok,
    Bool.not_eq_false]

theorem toBigInt_value {v : JsInteger} {what : String} {n : ℤ} (h : toBigInt v what = .ok n) :
    v.value = some n := by
  cases v with
  | bigint m => exact congrArg some (Except.ok.inj h)
  | number m =>
      simp only [toBigInt] at h
      split at h
      · exact congrArg some (Except.ok.inj h)
      · cases h
  | negativeZero => exact congrArg some (Except.ok.inj h)
  | notInteger => cases h

theorem encodeInteger_value {v : JsInteger} {what text : String}
    (h : encodeInteger v what = .ok text) : ∃ n : ℤ, v.value = some n ∧ text = toString n := by
  simp only [encodeInteger, bind_eq_ok, refuseIf_eq_ok, exists_const, pure_eq_ok] at h
  obtain ⟨n, hn, _, rfl⟩ := h
  exact ⟨n, toBigInt_value hn, rfl⟩

/-- A text line under its own spec is read by its type. -/
theorem decodeField_text {s : InventoryPayloadFieldSpec} {text : String} (h : Printable text) :
    decodeField s (asciiBytes text) =
      match s.type with
      | .uuid => some (.uuid text)
      | .boolean => some (.boolean (text == "true"))
      | .integer => some (.integer (readDecimal text.toList))
      | .code => some (.code text) := by
  unfold decodeField
  rw [if_neg (asciiBytes_ne_null h), asciiText_asciiBytes h]

/-- An integer field writes the decimal text of its value. -/
theorem encodeInventoryField_integer {v : JsInteger} {s : InventoryPayloadFieldSpec} {i : ℕ}
    {line : List UInt8} (h : encodeInventoryField (.integer v) s i = .ok line) :
    s.type = .integer ∧ ∃ n : ℤ, v.value = some n ∧ line = asciiBytes (toString n) := by
  simp only [encodeInventoryField, bind_eq_ok, refuseIf_eq_ok, exists_const, pure_eq_ok,
    not_not] at h
  obtain ⟨ht, text, htext, rfl⟩ := h
  obtain ⟨n, hn, rfl⟩ := encodeInteger_value htext
  exact ⟨ht, n, hn, rfl⟩

/-- **A line is read back under the spec it was written under.** -/
theorem decodeField_encode {f : InventoryPayloadField} {s : InventoryPayloadFieldSpec} {i : ℕ}
    {line : List UInt8} (h : encodeInventoryField f s i = .ok line) :
    ∃ v, f.value = some v ∧ decodeField s line = some v := by
  cases f with
  | null =>
      simp only [encodeInventoryField, bind_eq_ok, refuseIf_eq_ok, exists_const, pure_eq_ok] at h
      obtain ⟨_, rfl⟩ := h
      exact ⟨.null, rfl, if_pos rfl⟩
  | uuid value =>
      simp only [encodeInventoryField, bind_eq_ok, refuseIf_eq_ok, exists_const, pure_eq_ok,
        not_not, encodeUuid_eq_ok] at h
      obtain ⟨ht, _, ⟨hre, rfl⟩, rfl⟩ := h
      refine ⟨.uuid value, rfl, ?_⟩
      rw [decodeField_text (printable_of_uuid hre), ht]
  | boolean value =>
      simp only [encodeInventoryField, bind_eq_ok, refuseIf_eq_ok, exists_const, pure_eq_ok,
        not_not] at h
      obtain ⟨ht, rfl⟩ := h
      refine ⟨.boolean value, rfl, ?_⟩
      have hp : Printable (if value then "true" else "false") := by
        cases value <;> decide
      rw [decodeField_text hp, ht]
      cases value <;> rfl
  | integer v =>
      obtain ⟨ht, n, hn, rfl⟩ := encodeInventoryField_integer h
      refine ⟨.integer n, ?_, ?_⟩
      · show v.value.map PayloadValue.integer = _
        rw [hn, Option.map_some]
      · rw [decodeField_text (printable_toString n), ht, readDecimal_toString]
  | code value =>
      simp only [encodeInventoryField, bind_eq_ok, refuseIf_eq_ok, exists_const, pure_eq_ok,
        not_not, encodeCode_eq_ok] at h
      obtain ⟨ht, _, ⟨hre, rfl⟩, rfl⟩ := h
      refine ⟨.code value, rfl, ?_⟩
      rw [decodeField_text (printable_of_code hre), ht]

/-! ## 5. All fields are read back -/

theorem encodeFields_cons {i : ℕ} {s : InventoryPayloadFieldSpec}
    {specs : List InventoryPayloadFieldSpec} {f : InventoryPayloadField}
    {fields : List InventoryPayloadField} {lines : List (List UInt8)} :
    encodeFields i (s :: specs) (f :: fields) = .ok lines ↔
      ∃ line, encodeInventoryField f s i = .ok line ∧
        ∃ rest, encodeFields (i + 1) specs fields = .ok rest ∧ line :: rest = lines := by
  simp only [encodeFields, bind_eq_ok, pure_eq_ok]

/-- As many specs as fields: every field is written, and every line is read back. -/
theorem decodeFields_encode : ∀ {specs : List InventoryPayloadFieldSpec}
    {fields : List InventoryPayloadField} {i : ℕ} {lines : List (List UInt8)},
    fields.length = specs.length → encodeFields i specs fields = .ok lines →
      ∃ vs, decodeFields specs lines = some vs ∧ List.Forall₂ (fun f v => f.value = some v) fields vs
  | [], [], _, lines, _, h => by
      cases h
      exact ⟨[], rfl, .nil⟩
  | s :: specs, f :: fields, i, lines, hl, h => by
      obtain ⟨line, hline, rest, hrest, rfl⟩ := encodeFields_cons.mp h
      obtain ⟨v, hv, hd⟩ := decodeField_encode hline
      obtain ⟨vs, hvs, hf⟩ := decodeFields_encode (Nat.succ.inj hl) hrest
      refine ⟨v :: vs, ?_, .cons hv hf⟩
      simp only [decodeFields, hd, hvs]
      rfl

/-- The line at a position is the field there under the spec there. -/
theorem encodeFields_getElem? : ∀ {specs : List InventoryPayloadFieldSpec}
    {fields : List InventoryPayloadField} {i k : ℕ} {lines : List (List UInt8)}
    {s : InventoryPayloadFieldSpec} {f : InventoryPayloadField},
    encodeFields i specs fields = .ok lines → specs[k]? = some s → fields[k]? = some f →
      ∃ line, lines[k]? = some line ∧ encodeInventoryField f s (i + k) = .ok line
  | s :: specs, f :: fields, i, 0, lines, s', f', h, hs, hf => by
      obtain ⟨line, hline, rest, _, rfl⟩ := encodeFields_cons.mp h
      rw [List.getElem?_cons_zero, Option.some.injEq] at hs hf
      subst hs hf
      exact ⟨line, rfl, hline⟩
  | s :: specs, f :: fields, i, k + 1, lines, s', f', h, hs, hf => by
      obtain ⟨line, _, rest, hrest, rfl⟩ := encodeFields_cons.mp h
      rw [List.getElem?_cons_succ] at hs hf
      obtain ⟨l, hl, he⟩ := encodeFields_getElem? hrest hs hf
      refine ⟨l, hl, ?_⟩
      rw [show i + (k + 1) = i + 1 + k by omega]
      exact he

theorem readCount_eq_ok {fields : List InventoryPayloadField} {k : ℕ} {name : String} {n : ℤ}
    (h : readCount fields k name = .ok n) :
    0 ≤ n ∧ ∃ v, fields[k]? = some (.integer v) ∧ v.value = some n := by
  unfold readCount at h
  split at h
  · rename_i v hv
    simp only [bind_eq_ok, refuseIf_eq_ok, exists_const, pure_eq_ok, not_lt] at h
    obtain ⟨text, htext, h0, rfl⟩ := h
    obtain ⟨m, hm, rfl⟩ := encodeInteger_value htext
    rw [readDecimal_toString] at h0 ⊢
    exact ⟨h0, v, hv, hm⟩
  · cases h

/-- **A count is read back from its line**, whatever spec it stands under. -/
theorem decodeCount_encode {specs : List InventoryPayloadFieldSpec}
    {fields : List InventoryPayloadField} {lines : List (List UInt8)} {k : ℕ} {name : String}
    {n : ℤ} (h : encodeFields 0 specs fields = .ok lines) (hk : k < specs.length)
    (hc : readCount fields k name = .ok n) : decodeCount lines k = some n := by
  obtain ⟨_, v, hf, hv⟩ := readCount_eq_ok hc
  obtain ⟨line, hline, henc⟩ := encodeFields_getElem? h (List.getElem?_eq_getElem hk) hf
  obtain ⟨_, m, hm, rfl⟩ := encodeInventoryField_integer henc
  rw [hv, Option.some.injEq] at hm
  subst hm
  unfold decodeCount
  rw [hline, Option.map_some, asciiText_asciiBytes (printable_toString n), readDecimal_toString]

/-! ## 6. The specs are read back -/

theorem length_repeated {count : ℤ} (h : 0 ≤ count) (group : List InventoryPayloadFieldSpec) :
    ((repeated count group).length : ℤ) = count * group.length := by
  unfold repeated
  rw [List.length_flatten, List.map_replicate, List.sum_replicate_nat]
  push_cast
  rw [Int.toNat_of_nonneg h]

theorem length_perLineCells {count : ℤ} (h : 0 ≤ count) (trailer : InventoryPayloadTrailer) :
    ((perLineCells trailer count).length : ℤ) = if trailer.perLine.isSome then count else 0 := by
  unfold perLineCells
  cases trailer.perLine with
  | none => rfl
  | some cell => simp [Int.toNat_of_nonneg h]

/-- The trailer: as many specs as fields, and its count is read back. -/
theorem expandTrailer_spec {op : InventoryOperationCode} {schema : InventoryPayloadSchema}
    {rep : InventoryPayloadRepeat} {trailer : InventoryPayloadTrailer} {count : ℤ}
    {fields : List InventoryPayloadField} {specs : List InventoryPayloadFieldSpec}
    (hc : 0 ≤ count) (h : expandTrailer op schema rep trailer count fields = .ok specs) :
    fields.length = specs.length ∧
      ∃ k, readCount fields (schema.header.length + count * rep.fields.length).toNat
          trailer.countField.name = .ok k ∧
        (schema.header.length + count * rep.fields.length : ℤ).toNat < specs.length ∧
        specs = schema.header ++ repeated count rep.fields ++ trailer.countField ::
          repeated k (trailer.fields ++ perLineCells trailer count) := by
  simp only [expandTrailer, bind_eq_ok, refuseIf_eq_ok, exists_const, pure_eq_ok, not_not,
    not_le] at h
  obtain ⟨_, hbefore, k, hk, hlen, rfl⟩ := h
  have hk0 := (readCount_eq_ok hk).1
  have hspecs : ((schema.header ++ repeated count rep.fields ++ trailer.countField ::
      repeated k (trailer.fields ++ perLineCells trailer count)).length : ℤ) = fields.length := by
    rw [hlen, List.length_append, List.length_append, List.length_cons]
    push_cast
    rw [length_repeated hc, length_repeated hk0, List.length_append]
    push_cast
    rw [length_perLineCells hc]
    ring
  have hlines : 0 ≤ count * (rep.fields.length : ℤ) := mul_nonneg hc (Int.natCast_nonneg _)
  refine ⟨(Int.ofNat.inj hspecs).symm, k, hk, ?_, rfl⟩
  omega

/-- **Every accepted expansion has a spec for each field, and the stream gives it back.** -/
theorem streamSpecs_expandSchema {op : InventoryOperationCode} {schema : InventoryPayloadSchema}
    {fields : List InventoryPayloadField} {specs : List InventoryPayloadFieldSpec}
    {lines : List (List UInt8)} (h : expandSchema op schema fields = .ok specs)
    (henc : encodeFields 0 specs fields = .ok lines) :
    fields.length = specs.length ∧ streamSpecs schema lines = some specs := by
  unfold expandSchema at h
  unfold streamSpecs
  cases hrep : schema.repeat with
  | none =>
    simp only [hrep, bind_eq_ok, refuseIf_eq_ok, exists_const, pure_eq_ok, not_not] at h
    obtain ⟨_, hlen, rfl⟩ := h
    exact ⟨hlen, rfl⟩
  | some rep =>
    simp only [hrep, bind_eq_ok, refuseIf_eq_ok, exists_const, not_or, Bool.not_eq_false] at h
    obtain ⟨⟨hspec, _⟩, count, hcount, h⟩ := h
    have hc := (readCount_eq_ok hcount).1
    -- The count stands in the header.
    have hat : (schema.header.findIdx fun s => s.name == rep.countField) < schema.header.length := by
      by_contra hge
      rw [List.getElem?_eq_none (not_lt.mp hge)] at hspec
      cases hspec
    cases htr : schema.trailer with
    | some trailer =>
      simp only [htr] at h
      obtain ⟨hlen, k, hk, hlt, rfl⟩ := expandTrailer_spec hc h
      refine ⟨hlen, ?_⟩
      have h1 := decodeCount_encode henc (by
        rw [List.length_append, List.length_append]
        omega) hcount
      have h2 := decodeCount_encode henc hlt hk
      simp only [h1, h2, Option.bind_eq_bind, Option.bind_some, Option.pure_def]
    | none =>
      simp only [htr, bind_eq_ok, refuseIf_eq_ok, exists_const, pure_eq_ok, not_not] at h
      obtain ⟨hlen, rfl⟩ := h
      have h1 := decodeCount_encode henc (by
        rw [List.length_append]
        omega) hcount
      refine ⟨?_, ?_⟩
      · have := length_repeated hc rep.fields
        rw [List.length_append]
        omega
      · simp only [h1, Option.bind_eq_bind, Option.bind_some, Option.pure_def]

/-! ## 7. The stream is read back -/

theorem canonicalStream_eq_ok {op : InventoryOperationCode} {tenantId businessId : String}
    {schema : InventoryPayloadSchema} {fields : List InventoryPayloadField} {bytes : List UInt8} :
    canonicalStream op tenantId businessId schema fields = .ok bytes ↔
      ∃ specs, expandSchema op schema fields = .ok specs ∧
        CANONICAL_UUID_RE tenantId = true ∧ CANONICAL_UUID_RE businessId = true ∧
        ∃ body, encodeFields 0 specs fields = .ok body ∧
          (∀ line ∈ asciiBytes INVPL_DOMAIN :: asciiBytes op.text :: asciiBytes tenantId ::
            asciiBytes businessId :: body, unframeable line = false) ∧
          frame LF (asciiBytes INVPL_DOMAIN :: asciiBytes op.text :: asciiBytes tenantId ::
            asciiBytes businessId :: body) = bytes := by
  simp only [canonicalStream, bind_eq_ok, refuseIf_eq_ok, exists_const, pure_eq_ok,
    encodeUuid_eq_ok, List.any_eq_true, not_exists, not_and, Bool.not_eq_true]
  constructor
  · rintro ⟨specs, hspecs, _, ⟨ht, rfl⟩, _, ⟨hb, rfl⟩, body, hbody, hall, rfl⟩
    exact ⟨specs, hspecs, ht, hb, body, hbody, hall, rfl⟩
  · rintro ⟨specs, hspecs, ht, hb, body, hbody, hall, rfl⟩
    exact ⟨specs, hspecs, _, ⟨ht, rfl⟩, _, ⟨hb, rfl⟩, body, hbody, hall, rfl⟩

theorem not_mem_of_framed {line : List UInt8} (h : unframeable line = false) : LF ∉ line := by
  intro hm
  simp only [unframeable, Bool.or_eq_false_iff, List.contains_eq_mem, decide_eq_false_iff_not] at h
  exact h.1.2 hm

/-- **Whatever the encoder accepts is read back**: its lines under their specs. -/
theorem decode_canonicalStream {op : InventoryOperationCode} {tenantId businessId : String}
    {schema : InventoryPayloadSchema} {fields : List InventoryPayloadField} {bytes : List UInt8}
    (h : canonicalStream op tenantId businessId schema fields = .ok bytes) :
    ∃ body specs vs, unframe LF bytes = asciiBytes INVPL_DOMAIN :: asciiBytes op.text ::
        asciiBytes tenantId :: asciiBytes businessId :: body ∧
      Printable tenantId ∧ Printable businessId ∧ streamSpecs schema body = some specs ∧
      decodeFields specs body = some vs ∧
      List.Forall₂ (fun f v => f.value = some v) fields vs := by
  obtain ⟨specs, hspecs, ht, hb, body, hbody, hall, rfl⟩ := canonicalStream_eq_ok.mp h
  obtain ⟨hlen, hstream⟩ := streamSpecs_expandSchema hspecs hbody
  obtain ⟨vs, hvs, hf⟩ := decodeFields_encode hlen hbody
  refine ⟨body, specs, vs, ?_, printable_of_uuid ht, printable_of_uuid hb, hstream, hvs, hf⟩
  exact unframe_frame fun line hline => not_mem_of_framed (hall line hline)

theorem decode_canonicalInventoryPayload {op tenantId businessId : String}
    {fields : List InventoryPayloadField} {bytes : List UInt8}
    (h : canonicalInventoryPayload op tenantId businessId fields = .ok bytes) :
    ∃ vs, decodeInventoryPayload bytes = some ⟨op, tenantId, businessId, vs⟩ ∧
      List.Forall₂ (fun f v => f.value = some v) fields vs := by
  unfold canonicalInventoryPayload at h
  split at h
  · cases h
  · rename_i code hcode
    simp only [bind_eq_ok, refuseIf_eq_ok, exists_const] at h
    obtain ⟨body, specs, vs, hun, ht, hb, hspecs, hvs, hf⟩ := decode_canonicalStream h.2
    have htext := InventoryOperationCode.text_of_ofText hcode
    subst htext
    refine ⟨vs, ?_, hf⟩
    unfold decodeInventoryPayload
    rw [hun]
    simp only [asciiText_asciiBytes (printable_opCode code), asciiText_asciiBytes ht,
      asciiText_asciiBytes hb, hcode, hspecs, hvs, Option.bind_eq_bind, Option.bind_some,
      Option.pure_def]

/-- Two field lists that say the same values are the same, position by position. -/
theorem forall₂_sameField {fs gs : List InventoryPayloadField} {vs : List PayloadValue}
    (hf : List.Forall₂ (fun f v => f.value = some v) fs vs)
    (hg : List.Forall₂ (fun f v => f.value = some v) gs vs) : List.Forall₂ SameField fs gs := by
  induction hf generalizing gs with
  | nil =>
      cases hg
      exact .nil
  | cons hv _ ih =>
      cases hg with
      | cons hv' hg' => exact .cons ⟨_, hv, hv'⟩ (ih hg')

/-- **One stream, one command.** The stream is decoded from the schemas alone, and two accepted
    commands with one stream have the same operation, tenant, business and fields. -/
theorem canonicalInventoryPayload_unambiguous {op op' tenantId tenantId' businessId businessId' :
    String} {fields fields' : List InventoryPayloadField} {bytes : List UInt8}
    (h : canonicalInventoryPayload op tenantId businessId fields = .ok bytes)
    (h' : canonicalInventoryPayload op' tenantId' businessId' fields' = .ok bytes) :
    (op = op' ∧ tenantId = tenantId' ∧ businessId = businessId' ∧
      fields.length = fields'.length ∧ List.Forall₂ SameField fields fields') ∧
    ∃ vs, decodeInventoryPayload bytes = some ⟨op, tenantId, businessId, vs⟩ ∧
      List.Forall₂ (fun f v => f.value = some v) fields vs := by
  obtain ⟨vs, hd, hf⟩ := decode_canonicalInventoryPayload h
  obtain ⟨vs', hd', hf'⟩ := decode_canonicalInventoryPayload h'
  rw [hd] at hd'
  injection hd' with heq
  injection heq with hop ht hb hvs
  subst hvs
  have hsame := forall₂_sameField hf hf'
  exact ⟨⟨hop, ht, hb, hsame.length_eq, hsame⟩, vs, hd, hf⟩

/-- A transfer of one line, its integers as `number` or as `bigint`. -/
def sampleTransfer (integer : ℤ → JsInteger) : List InventoryPayloadField :=
  [ .uuid "33333333-3333-4333-8333-333333333333", .uuid "44444444-4444-4444-8444-444444444444",
    .uuid "55555555-5555-4555-8555-555555555555", .integer (integer 1),
    .uuid "66666666-6666-4666-8666-666666666666", .integer (integer (-25000)) ]

/-- The stream of that transfer, line by line. -/
def sampleStream : List UInt8 :=
  frame LF (List.map asciiBytes
    [ "invpl/1", "inventory.transfer", "11111111-1111-4111-8111-111111111111",
      "22222222-2222-4222-8222-222222222222", "33333333-3333-4333-8333-333333333333",
      "44444444-4444-4444-8444-444444444444", "55555555-5555-4555-8555-555555555555", "1",
      "66666666-6666-4666-8666-666666666666", "-25000" ])

theorem canonicalInventoryPayload_unambiguous_sample :
    ("inventory.transfer" = "inventory.transfer" ∧
      "11111111-1111-4111-8111-111111111111" = "11111111-1111-4111-8111-111111111111" ∧
      "22222222-2222-4222-8222-222222222222" = "22222222-2222-4222-8222-222222222222" ∧
      (sampleTransfer .number).length = (sampleTransfer .bigint).length ∧
      List.Forall₂ SameField (sampleTransfer .number) (sampleTransfer .bigint)) ∧
    ∃ vs, decodeInventoryPayload sampleStream = some ⟨"inventory.transfer",
        "11111111-1111-4111-8111-111111111111", "22222222-2222-4222-8222-222222222222", vs⟩ ∧
      List.Forall₂ (fun f v => f.value = some v) (sampleTransfer .number) vs :=
  canonicalInventoryPayload_unambiguous (by decide +kernel) (by decide +kernel)

end Daftar.Inventory.Payload
