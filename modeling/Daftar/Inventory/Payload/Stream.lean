/-
  File: Daftar/Inventory/Payload/Stream.lean
  Subject: The canonical `invpl/1` byte stream of one command.

  * `encodeInventoryField` writes one line; a value that is not canonical is refused.
  * `expandSchema` lists the spec of every line from the counts the fields carry.
  * `canonicalInventoryPayload` closes every line with LF, after the lines `invpl/1`, operation,
    tenant and business.
-/

import Daftar.Inventory.Errors
import Daftar.Inventory.Payload.Schemas
import Daftar.Library.AsciiText
import Daftar.Library.Framing
import Mathlib.Algebra.Group.Int.Defs

namespace Daftar.Inventory.Payload

open AsciiText
open Fallible
open Framing

/-! ## 1. Constants and refusals -/

def INVPL_DOMAIN : String := "invpl/1"

def INT8_MIN : ℤ := -(2 ^ 63)

def INT8_MAX : ℤ := 2 ^ 63 - 1

def MAX_SAFE_INTEGER : ℤ := 2 ^ 53 - 1

def LF : UInt8 := 0x0a

def NUL : UInt8 := 0x00

def payloadRefusal (what : String) : InventoryError :=
  ⟨.inventoryPayloadInvalid, "invpl/1 payload " ++ what⟩

/-! ## 2. One field -/

def canonicalUuidClasses : List (Char → Bool) :=
  List.replicate 8 isLowerHex ++ (· == '-') :: List.replicate 4 isLowerHex ++
    (· == '-') :: List.replicate 4 isLowerHex ++ (· == '-') :: List.replicate 4 isLowerHex ++
    (· == '-') :: List.replicate 12 isLowerHex

/-- `^[0-9a-f]{8}-[0-9a-f]{4}-[0-9a-f]{4}-[0-9a-f]{4}-[0-9a-f]{12}$` -/
def CANONICAL_UUID_RE (s : String) : Bool := matchesEach canonicalUuidClasses s.toList

def isCodeChar (c : Char) : Bool := isLowerAlpha c || c.isDigit || c == '_'

/-- `^[a-z][a-z0-9_]{0,31}$` -/
def REGISTRY_CODE_RE (s : String) : Bool :=
  match s.toList with
  | [] => false
  | c :: cs => isLowerAlpha c && decide (cs.length ≤ 31) && cs.all isCodeChar

def encodeUuid (value what : String) : Result String := do
  refuseIf (CANONICAL_UUID_RE value = false)
    (payloadRefusal (what ++ " is not a canonical lowercase uuid"))
  pure value

/-- A `bigint`, or a `number` that is a safe integer; `BigInt(-0)` is zero. -/
def toBigInt (value : JsInteger) (what : String) : Result ℤ :=
  match value with
  | .bigint n => .ok n
  | .number n =>
    if -MAX_SAFE_INTEGER ≤ n ∧ n ≤ MAX_SAFE_INTEGER then .ok n
    else .error (payloadRefusal (what ++ " is not an integer"))
  | .negativeZero => .ok 0
  | .notInteger => .error (payloadRefusal (what ++ " is not an integer"))

def encodeInteger (value : JsInteger) (what : String) : Result String := do
  let n ← toBigInt value what
  refuseIf (n < INT8_MIN ∨ INT8_MAX < n) (payloadRefusal (what ++ " is outside the bigint range"))
  pure (toString n)

def encodeCode (value what : String) : Result String := do
  refuseIf (REGISTRY_CODE_RE value = false)
    (payloadRefusal (what ++ " is not a registry code matching ^[a-z][a-z0-9_]\x7b0,31\x7d$"))
  pure value

def fieldLabel (index : ℕ) (name : String) : String :=
  "field " ++ toString (index + 1) ++ " (" ++ name ++ ")"

/-- The bytes of one field line, without its terminator. -/
def encodeInventoryField (field : InventoryPayloadField) (fieldSpec : InventoryPayloadFieldSpec)
    (index : ℕ) : Result (List UInt8) :=
  let what := fieldLabel index fieldSpec.name
  let wrongType := payloadRefusal (what ++ " must be of type " ++ fieldSpec.type.text)
  match field with
  | .null => do
    refuseIf (fieldSpec.nullable = false) (payloadRefusal (what ++ " may not be NULL"))
    pure [NUL]
  | .uuid value => do
    refuseIf (fieldSpec.type ≠ .uuid) wrongType
    let text ← encodeUuid value what
    pure (asciiBytes text)
  | .boolean value => do
    refuseIf (fieldSpec.type ≠ .boolean) wrongType
    pure (asciiBytes (if value then "true" else "false"))
  | .integer value => do
    refuseIf (fieldSpec.type ≠ .integer) wrongType
    let text ← encodeInteger value what
    pure (asciiBytes text)
  | .code value => do
    refuseIf (fieldSpec.type ≠ .code) wrongType
    let text ← encodeCode value what
    pure (asciiBytes text)

/-! ## 3. The spec of every line -/

/-- The count a group is repeated by: `BigInt` of the field's own canonical text. -/
def readCount (fields : List InventoryPayloadField) (at_ : ℕ) (name : String) : Result ℤ :=
  match fields[at_]? with
  | some (.integer value) => do
    let text ← encodeInteger value (fieldLabel at_ name)
    refuseIf (readDecimal text.toList < 0)
      (payloadRefusal (fieldLabel at_ name ++ " may not be negative"))
    pure (readDecimal text.toList)
  | _ => .error (payloadRefusal (fieldLabel at_ name ++ " must be an integer"))

def isCountSpec (countSpec : Option InventoryPayloadFieldSpec) : Bool :=
  match countSpec with
  | none => false
  | some s => s.type == .integer && !s.nullable

/-- A group, as many times as its count says. -/
def repeated (count : ℤ) (group : List InventoryPayloadFieldSpec) :
    List InventoryPayloadFieldSpec :=
  (List.replicate count.toNat group).flatten

/-- The cells that end a trailer group: one for each line. -/
def perLineCells (trailer : InventoryPayloadTrailer) (lineCount : ℤ) :
    List InventoryPayloadFieldSpec :=
  match trailer.perLine with
  | none => []
  | some cell => List.replicate lineCount.toNat cell

/-- Header, lines, the trailer's count, then each trailer group with its cells. -/
def expandTrailer (opCode : InventoryOperationCode) (schema : InventoryPayloadSchema)
    (rep : InventoryPayloadRepeat) (trailer : InventoryPayloadTrailer) (lineCount : ℤ)
    (fields : List InventoryPayloadField) : Result (List InventoryPayloadFieldSpec) := do
  let tc := trailer.countField
  refuseIf (isCountSpec (some tc) = false ∨ trailer.fields = [])
    (payloadRefusal ("schema for " ++ opCode.text ++ " has a malformed trailer group"))
  let before : ℤ := schema.header.length + lineCount * rep.fields.length
  refuseIf ((fields.length : ℤ) ≤ before)
    (payloadRefusal ("for " ++ opCode.text ++ " requires the " ++ tc.name ++
      " field after the lines"))
  let count ← readCount fields before.toNat tc.name
  let width : ℤ := trailer.fields.length + if trailer.perLine.isSome then lineCount else 0
  refuseIf ((fields.length : ℤ) ≠ before + 1 + count * width)
    (payloadRefusal ("for " ++ opCode.text ++ " requires " ++ toString trailer.fields.length ++
      " fields per " ++ tc.name ++ " group" ++
      if trailer.perLine.isSome then " plus one per line" else ""))
  pure (schema.header ++ repeated lineCount rep.fields ++ tc ::
    repeated count (trailer.fields ++ perLineCells trailer lineCount))

/-- Header, then the repeating group as often as its count field says. A count that does not match
    the number of fields is refused. -/
def expandSchema (opCode : InventoryOperationCode) (schema : InventoryPayloadSchema)
    (fields : List InventoryPayloadField) : Result (List InventoryPayloadFieldSpec) :=
  match schema.repeat with
  | none => do
    refuseIf (schema.trailer.isSome = true)
      (payloadRefusal ("schema for " ++ opCode.text ++ " has a trailer without lines"))
    refuseIf (fields.length ≠ schema.header.length)
      (payloadRefusal ("for " ++ opCode.text ++ " requires exactly " ++
        toString schema.header.length ++ " fields"))
    pure schema.header
  | some rep => do
    let at_ := schema.header.findIdx fun s => s.name == rep.countField
    refuseIf (isCountSpec schema.header[at_]? = false ∨ rep.fields = [])
      (payloadRefusal ("schema for " ++ opCode.text ++ " has a malformed repeating group"))
    let count ← readCount fields at_ rep.countField
    match schema.trailer with
    | some trailer => expandTrailer opCode schema rep trailer count fields
    | none => do
      refuseIf ((fields.length : ℤ) ≠ schema.header.length + count * rep.fields.length)
        (payloadRefusal ("for " ++ opCode.text ++ " requires " ++ toString schema.header.length ++
          " header fields plus " ++ toString rep.fields.length ++ " per line"))
      pure (schema.header ++ repeated count rep.fields)

/-! ## 4. The stream -/

def encodeFields : ℕ → List InventoryPayloadFieldSpec → List InventoryPayloadField →
    Result (List (List UInt8))
  | _, [], _ => .ok []
  | i, _ :: _, [] => .error (payloadRefusal ("field " ++ toString (i + 1) ++ " is missing"))
  | i, s :: specs, f :: fields => do
    let line ← encodeInventoryField f s i
    let lines ← encodeFields (i + 1) specs fields
    pure (line :: lines)

/-- No line may hold LF, and only a NULL line may hold NUL, as its only byte. -/
def unframeable (line : List UInt8) : Bool :=
  line.isEmpty || line.contains LF || (line != [NUL] && line.contains NUL)

def canonicalStream (opCode : InventoryOperationCode) (tenantId businessId : String)
    (schema : InventoryPayloadSchema) (fields : List InventoryPayloadField) :
    Result (List UInt8) := do
  let specs ← expandSchema opCode schema fields
  let tenant ← encodeUuid tenantId "tenant"
  let business ← encodeUuid businessId "business"
  let body ← encodeFields 0 specs fields
  let lines := asciiBytes INVPL_DOMAIN :: asciiBytes opCode.text :: asciiBytes tenant ::
    asciiBytes business :: body
  refuseIf (lines.any unframeable = true) (payloadRefusal "produced an unframeable line")
  pure (frame LF lines)

/-- The exact byte stream of one command. `ofText` is the registry test, and
    `OPERATION_CODE_RE` runs after it. -/
def canonicalInventoryPayload (opCode tenantId businessId : String)
    (fields : List InventoryPayloadField) : Result (List UInt8) :=
  match InventoryOperationCode.ofText opCode with
  | none => .error (payloadRefusal "names an unregistered operation kind")
  | some op => do
    refuseIf (OPERATION_CODE_RE opCode = false)
      (payloadRefusal "names an unregistered operation kind")
    canonicalStream op tenantId businessId (INVENTORY_PAYLOAD_SCHEMAS op) fields

end Daftar.Inventory.Payload
