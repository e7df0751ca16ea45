/-
  File: Daftar/Inventory/Assertion.lean
  Subject: The `invctl/1` assertion of one inventory command: minting and splitting.

  * `mintInventoryAssertion` joins nine checked components and their MAC with dots;
    `splitInventoryAssertion` cuts a text into ten. The MAC is a parameter and stays opaque.
  * `signedComponents_eq_ok`: what is signed, and when.
  * `mintInventoryAssertion_unambiguous`: a minted text is split into what was signed, and one
    preimage signs one set of claims.
-/

import Daftar.Accounting.Fingerprint
import Daftar.Infra.AssertionSequences
import Daftar.Library.Sha256

namespace Daftar.Inventory

open AsciiText
open Fallible
open Infra (splitDots joinDots INVCTL_VERSION INVENTORY_ASSERTION_COMPONENTS)
open IsoInstant (TimeValue)
open Payload
open Sha256 (HEX_64 utf8)

/-! ## 1. Patterns -/

def INVCTL_DOMAIN : String := "invctl/1"

def INVENTORY_ASSERTION_TTL_SECONDS : ℤ := 60

def isKidChar (c : Char) : Bool := c.isAlphanum || c == '_' || c == '-'

/-- `^[A-Za-z0-9_-]{1,32}$` -/
def KID_RE (s : String) : Bool :=
  decide (1 ≤ s.toList.length ∧ s.toList.length ≤ 32) && s.toList.all isKidChar

/-- `^[a-z]+(:[a-z_]+)+$` -/
def WIRE_OPERATION_CODE_RE (s : String) : Bool :=
  match s.toList.splitOn ':' with
  | first :: second :: rest =>
    !first.isEmpty && first.all isLowerAlpha &&
      (second :: rest).all fun part => !part.isEmpty && part.all fun c => isLowerAlpha c || c == '_'
  | _ => false

/-- `^[1-9][0-9]{0,18}$` -/
def EXP_RE (s : String) : Bool :=
  match s.toList with
  | [] => false
  | c :: cs => c.isDigit && c != '0' && decide (cs.length ≤ 18) && cs.all Char.isDigit

/-! ## 2. Claims -/

structure InventoryAssertionKey where
  kid : String
  secret : List UInt8
  deriving DecidableEq, Repr

structure InventoryAssertionClaims where
  actorUserId : String
  tenantId : String
  businessId : String
  opCode : String
  payloadSha256 : String
  jti : Option String
  deriving DecidableEq, Repr

structure InventoryAssertionParts where
  version : String
  kid : String
  actorUserId : String
  tenantId : String
  businessId : String
  wireOperation : String
  payloadSha256 : String
  exp : String
  jti : String
  mac : String
  components : List String
  deriving DecidableEq, Repr

def reject (what : String) : InventoryError :=
  ⟨.inventoryAssertionMalformed, "inventory assertion " ++ what⟩

/-! ## 3. Operations on the wire -/

def isInventoryOperationCode (value : String) : Bool := (InventoryOperationCode.ofText value).isSome

/-- `text.replace(/from/g, to)` of one character. -/
def replaceChar (before after : Char) (text : String) : String :=
  String.ofList (text.toList.map fun c => if c = before then after else c)

def wireOperationCode (opCode : String) : Result String := do
  refuseIf (isInventoryOperationCode opCode = false ∨ OPERATION_CODE_RE opCode = false)
    (reject "names an unregistered operation kind")
  let wire := replaceChar '.' ':' opCode
  refuseIf (WIRE_OPERATION_CODE_RE wire = false) (reject "produced a non-canonical wire operation")
  pure wire

def operationCodeFromWire (wire : String) : Result String := do
  refuseIf (WIRE_OPERATION_CODE_RE wire = false) (reject "carries a malformed wire operation")
  let opCode := replaceChar ':' '.' wire
  refuseIf (isInventoryOperationCode opCode = false) (reject "names an unregistered operation kind")
  pure opCode

/-! ## 4. Minting and splitting -/

def inventoryAssertionPreimage (signedComponents : List String) : Result (List UInt8) := do
  refuseIf (signedComponents.length ≠ INVENTORY_ASSERTION_COMPONENTS - 1)
    (reject "preimage requires exactly nine components")
  pure (utf8 (INVCTL_DOMAIN ++ "\n" ++ joinDots signedComponents))

/-- A `number` that is an integer. -/
def numberInteger : JsInteger → Option ℤ
  | .number n => some n
  | .negativeZero => some 0
  | _ => none

/-- One call of the minter, with the value `randomUUID()` has in it. -/
structure MintCall where
  claims : InventoryAssertionClaims
  key : InventoryAssertionKey
  now : Option TimeValue
  ttlSeconds : JsInteger
  randomUUID : String

/-- No component is empty, or holds a separator or white space. -/
def illegalComponent (c : String) : Bool :=
  c.toList.isEmpty || c.toList.contains '.' || c.toList.any Accounting.isSpace

/-- The nine components of a call, in order. -/
def signedComponents (call : MintCall) : Result (List String) := do
  let claims := call.claims
  refuseIf (KID_RE call.key.kid = false) (reject "requires a kid matching ^[A-Za-z0-9_-]\x7b1,32\x7d$")
  refuseIf (call.key.secret.length < 32) (reject "requires a secret of at least 32 bytes")
  refuseIf (CANONICAL_UUID_RE claims.actorUserId = false)
    (reject "requires a canonical lowercase actor uuid")
  refuseIf (CANONICAL_UUID_RE claims.tenantId = false)
    (reject "requires a canonical lowercase tenant uuid")
  refuseIf (CANONICAL_UUID_RE claims.businessId = false)
    (reject "requires a canonical lowercase business uuid")
  refuseIf (HEX_64 claims.payloadSha256 = false)
    (reject "requires a lowercase hex sha-256 payload digest")
  let wireOp ← wireOperationCode claims.opCode
  let ttl ← someOr (numberInteger call.ttlSeconds) (reject "requires a ttl of 1 to 60 seconds")
  refuseIf (ttl < 1 ∨ ttl > INVENTORY_ASSERTION_TTL_SECONDS)
    (reject "requires a ttl of 1 to 60 seconds")
  let now ← someOr call.now (reject "requires a valid minting time")
  let exp := toString (now.ms / 1000 + ttl)
  refuseIf (EXP_RE exp = false) (reject "produced a non-canonical expiry")
  let jti := claims.jti.getD call.randomUUID
  refuseIf (CANONICAL_UUID_RE jti = false) (reject "requires a canonical lowercase jti uuid")
  let signed := [INVCTL_VERSION, call.key.kid, claims.actorUserId, claims.tenantId,
    claims.businessId, wireOp, claims.payloadSha256, exp, jti]
  refuseIf (signed.any illegalComponent = true) (reject "claims contain an illegal component")
  pure signed

/-- `.digest('hex')` -/
def hex (bytes : List UInt8) : String :=
  String.ofList (bytes.flatMap fun b =>
    [Nat.digitChar (b.toNat / 16), Nat.digitChar (b.toNat % 16)])

/-- `hmac` is the MAC of a secret and a message. -/
def mintInventoryAssertion (hmac : List UInt8 → List UInt8 → List UInt8) (call : MintCall) :
    Result String := do
  let signed ← signedComponents call
  let preimage ← inventoryAssertionPreimage signed
  let mac := hex (hmac call.key.secret preimage)
  pure (joinDots signed ++ "." ++ mac)

def splitInventoryAssertion (raw : String) : Result InventoryAssertionParts :=
  let c := splitDots raw
  match c with
  | [version, kid, actorUserId, tenantId, businessId, wireOperation, payloadSha256, exp, jti, mac] =>
    if version ≠ INVCTL_VERSION then .error (reject "is malformed")
    else .ok ⟨version, kid, actorUserId, tenantId, businessId, wireOperation, payloadSha256, exp,
      jti, mac, c⟩
  | _ => .error (reject "is malformed")

/-! ## 5. Operations are read back -/

theorem replaceChar_replaceChar {before after : Char} {text : String} (h : after ∉ text.toList) :
    replaceChar after before (replaceChar before after text) = text := by
  unfold replaceChar
  rw [String.toList_ofList, List.map_map, ← String.toList_inj, String.toList_ofList]
  conv_rhs => rw [← List.map_id text.toList]
  refine List.map_congr_left fun c hc => ?_
  have hne : c ≠ after := fun heq => h (heq ▸ hc)
  by_cases hb : c = before
  · simp [hb]
  · simp [hb, hne]

theorem colon_notMem_text (op : InventoryOperationCode) : ':' ∉ op.text.toList := by
  cases op <;> decide

/-- **The wire form of an operation names it**: the rewriting is undone for every registered code. -/
theorem operationCodeFromWire_wireOperationCode {opCode wire : String}
    (h : wireOperationCode opCode = .ok wire) : operationCodeFromWire wire = .ok opCode := by
  simp only [wireOperationCode, bind_eq_ok, refuseIf_eq_ok, exists_const, pure_eq_ok, not_or,
    Bool.not_eq_false] at h
  obtain ⟨⟨hregistered, _⟩, hwire, rfl⟩ := h
  obtain ⟨op, hop⟩ := Option.isSome_iff_exists.mp hregistered
  have hcolon : ':' ∉ opCode.toList := by
    rw [← InventoryOperationCode.text_of_ofText hop]
    exact colon_notMem_text op
  simp only [operationCodeFromWire, hwire, Bool.true_eq_false, refuseIf_of_not not_false, ok_bind,
    replaceChar_replaceChar hcolon, hregistered]
  rfl

/-! ## 6. What is signed -/

namespace MintCall

variable (call : MintCall)

/-- The second the call is made in. -/
def mintingSecond : Option ℤ := call.now.map fun now => now.ms / 1000

/-- The second the assertion expires in. -/
def expiry : Option ℤ := do
  let second ← call.mintingSecond
  let ttl ← numberInteger call.ttlSeconds
  pure (second + ttl)

def jti : String := call.claims.jti.getD call.randomUUID

/-- The bytes the MAC of the call is taken over. -/
def preimage : Result (List UInt8) := signedComponents call >>= inventoryAssertionPreimage

/-- The parts are what the call signs. -/
structure SignedAs (call : MintCall) (parts : InventoryAssertionParts) : Prop where
  version : parts.version = INVCTL_VERSION
  kid : parts.kid = call.key.kid
  actorUserId : parts.actorUserId = call.claims.actorUserId
  tenantId : parts.tenantId = call.claims.tenantId
  businessId : parts.businessId = call.claims.businessId
  wireOperation : wireOperationCode call.claims.opCode = .ok parts.wireOperation
  operation : operationCodeFromWire parts.wireOperation = .ok call.claims.opCode
  payloadSha256 : parts.payloadSha256 = call.claims.payloadSha256
  exp : ∃ second exp, call.mintingSecond = some second ∧ call.expiry = some exp ∧
    parts.exp = toString exp ∧ second < exp ∧ exp ≤ second + INVENTORY_ASSERTION_TTL_SECONDS
  jti : parts.jti = call.jti

/-- Two calls sign the same claims. -/
structure SameClaims (call other : MintCall) : Prop where
  kid : call.key.kid = other.key.kid
  actorUserId : call.claims.actorUserId = other.claims.actorUserId
  tenantId : call.claims.tenantId = other.claims.tenantId
  businessId : call.claims.businessId = other.claims.businessId
  opCode : call.claims.opCode = other.claims.opCode
  payloadSha256 : call.claims.payloadSha256 = other.claims.payloadSha256
  expiry : call.expiry = other.expiry
  jti : call.jti = other.jti

end MintCall

/-- **What is signed, of an accepted call**: the claims in order, none with a separator in it. -/
theorem signedComponents_eq_ok {call : MintCall} {signed : List String}
    (h : signedComponents call = .ok signed) : ∃ wireOp second exp,
      wireOperationCode call.claims.opCode = .ok wireOp ∧ call.mintingSecond = some second ∧
      call.expiry = some exp ∧ second < exp ∧ exp ≤ second + INVENTORY_ASSERTION_TTL_SECONDS ∧
      signed = [INVCTL_VERSION, call.key.kid, call.claims.actorUserId, call.claims.tenantId,
        call.claims.businessId, wireOp, call.claims.payloadSha256, toString exp, call.jti] ∧
      ∀ c ∈ signed, '.' ∉ c.toList := by
  simp only [signedComponents, bind_eq_ok, refuseIf_eq_ok, exists_const, pure_eq_ok, someOr_eq_ok,
    not_or, not_lt, gt_iff_lt] at h
  obtain ⟨_, _, _, _, _, _, wireOp, hwire, ttl, httl, ⟨h1, h60⟩, now, hnow, _, _, hlegal, rfl⟩ := h
  have hsecond : call.mintingSecond = some (now.ms / 1000) := by
    rw [MintCall.mintingSecond, hnow, Option.map_some]
  refine ⟨wireOp, now.ms / 1000, now.ms / 1000 + ttl, hwire, hsecond, ?_, by omega, by omega, rfl,
    ?_⟩
  · unfold MintCall.expiry
    rw [hsecond, httl]
    rfl
  · intro c hc hdot
    refine hlegal (List.any_eq_true.mpr ⟨c, hc, ?_⟩)
    unfold illegalComponent
    rw [List.contains_eq_mem, decide_eq_true hdot, Bool.or_true, Bool.true_or]

/-- **One preimage signs one list of components.** -/
theorem inventoryAssertionPreimage_injective {signed signed' : List String} {bytes : List UInt8}
    (hne : signed ≠ []) (hne' : signed' ≠ []) (hdots : ∀ c ∈ signed, '.' ∉ c.toList)
    (hdots' : ∀ c ∈ signed', '.' ∉ c.toList)
    (h : inventoryAssertionPreimage signed = .ok bytes)
    (h' : inventoryAssertionPreimage signed' = .ok bytes) : signed = signed' := by
  simp only [inventoryAssertionPreimage, bind_eq_ok, refuseIf_eq_ok, exists_const, pure_eq_ok]
    at h h'
  have htext := Sha256.utf8_injective (h.2.trans h'.2.symm)
  have hchars : (INVCTL_DOMAIN ++ "\n").toList ++ (joinDots signed).toList =
      (INVCTL_DOMAIN ++ "\n").toList ++ (joinDots signed').toList := by
    rw [← String.toList_append, ← String.toList_append, htext]
  have hjoin := String.toList_inj.mp (List.append_cancel_left hchars)
  rw [← Infra.splitDots_joinDots hne hdots, hjoin, Infra.splitDots_joinDots hne' hdots']

/-! ## 7. What is minted -/

theorem hexDigit_of_mem_hex {bytes : List UInt8} {c : Char} (h : c ∈ (hex bytes).toList) :
    Sha256.hexLower c = true := by
  unfold hex at h
  rw [String.toList_ofList] at h
  obtain ⟨b, _, hc⟩ := List.mem_flatMap.mp h
  have hb := b.toNat_lt
  rcases List.mem_cons.mp hc with rfl | hc
  · exact Sha256.hexLower_digitChar (by omega)
  · rw [List.mem_singleton.mp hc]
    exact Sha256.hexLower_digitChar (by omega)

theorem joinDots_append_singleton {parts : List String} (hne : parts ≠ []) (last : String) :
    joinDots parts ++ "." ++ last = joinDots (parts ++ [last]) := by
  unfold joinDots
  rw [← String.toList_inj]
  simp only [String.toList_append, String.toList_ofList, List.map_append, List.map_cons,
    List.map_nil]
  induction parts with
  | nil => exact absurd rfl hne
  | cons part parts ih =>
      cases parts with
      | nil => simp [List.intercalate]
      | cons next parts =>
          have hrest := ih (List.cons_ne_nil next parts)
          simp only [List.map_cons, List.cons_append, List.intercalate_cons_cons,
            List.append_assoc] at hrest ⊢
          rw [hrest]

/-- A text is split exactly when it is ten components behind the version, and they are the parts. -/
theorem splitInventoryAssertion_eq_ok {raw : String} {p : InventoryAssertionParts} :
    splitInventoryAssertion raw = .ok p ↔ p.version = INVCTL_VERSION ∧
      p.components = splitDots raw ∧ splitDots raw = [p.version, p.kid, p.actorUserId, p.tenantId,
        p.businessId, p.wireOperation, p.payloadSha256, p.exp, p.jti, p.mac] := by
  simp only [splitInventoryAssertion]
  constructor
  · intro h
    split at h
    · rename_i hdots
      split at h
      · cases h
      · rename_i hversion
        cases h
        exact ⟨not_not.mp hversion, rfl, hdots⟩
    · cases h
  · intro h
    obtain ⟨hversion, hcomponents, hdots⟩ := h
    obtain ⟨version, kid, actor, tenant, business, wire, payload, exp, jti, mac, components⟩ := p
    simp only at hversion hcomponents hdots
    simp only [hdots, hversion, ne_eq, not_true_eq_false, if_false, hcomponents]

/-- **A minted text is split into what was signed, and the MAC.** -/
theorem splitInventoryAssertion_mint {hmac : List UInt8 → List UInt8 → List UInt8} {call : MintCall}
    {raw : String} (h : mintInventoryAssertion hmac call = .ok raw) :
    ∃ parts, splitInventoryAssertion raw = .ok parts ∧ call.SignedAs parts := by
  simp only [mintInventoryAssertion, bind_eq_ok, pure_eq_ok] at h
  obtain ⟨signed, hsigned, preimage, _, rfl⟩ := h
  obtain ⟨wireOp, second, exp, hwire, hsecond, hexp, hlt, hle, hlist, hdots⟩ :=
    signedComponents_eq_ok hsigned
  subst hlist
  have hhex : '.' ∉ (hex (hmac call.key.secret preimage)).toList := by
    intro hdot
    exact absurd (hexDigit_of_mem_hex hdot) (by decide)
  have hsplit : splitDots (joinDots [INVCTL_VERSION, call.key.kid, call.claims.actorUserId,
      call.claims.tenantId, call.claims.businessId, wireOp, call.claims.payloadSha256, toString exp,
      call.jti] ++ "." ++ hex (hmac call.key.secret preimage)) =
      [INVCTL_VERSION, call.key.kid, call.claims.actorUserId, call.claims.tenantId,
        call.claims.businessId, wireOp, call.claims.payloadSha256, toString exp, call.jti,
        hex (hmac call.key.secret preimage)] := by
    rw [joinDots_append_singleton (List.cons_ne_nil _ _),
      Infra.splitDots_joinDots (List.append_ne_nil_of_left_ne_nil (List.cons_ne_nil _ _) _)]
    · simp only [List.cons_append, List.nil_append]
    · intro part hpart
      rcases List.mem_append.mp hpart with hpart | hpart
      · exact hdots part hpart
      · rw [List.mem_singleton.mp hpart]
        exact hhex
  -- The text itself plays no further part.
  generalize joinDots _ ++ "." ++ hex _ = raw at hsplit ⊢
  generalize hex _ = mac at hsplit
  let parts : InventoryAssertionParts := ⟨INVCTL_VERSION, call.key.kid, call.claims.actorUserId,
    call.claims.tenantId, call.claims.businessId, wireOp, call.claims.payloadSha256, toString exp,
    call.jti, mac, splitDots raw⟩
  exact ⟨parts, splitInventoryAssertion_eq_ok.mpr ⟨rfl, rfl, hsplit⟩,
    { version := rfl
      kid := rfl
      actorUserId := rfl
      tenantId := rfl
      businessId := rfl
      wireOperation := hwire
      operation := operationCodeFromWire_wireOperationCode hwire
      payloadSha256 := rfl
      exp := ⟨second, exp, hsecond, hexp, rfl, hlt, hle⟩
      jti := rfl }⟩

/-- **Two calls with one preimage sign the same claims.** -/
theorem MintCall.sameClaims_of_preimage {x y : MintCall} {bytes : List UInt8}
    (hx : x.preimage = .ok bytes) (hy : y.preimage = .ok bytes) : x.SameClaims y := by
  obtain ⟨signed, hsigned, hpre⟩ := bind_eq_ok.mp hx
  obtain ⟨signed', hsigned', hpre'⟩ := bind_eq_ok.mp hy
  obtain ⟨wireOp, _, exp, hwire, _, hexp, _, _, hlist, hdots⟩ := signedComponents_eq_ok hsigned
  obtain ⟨wireOp', _, exp', hwire', _, hexp', _, _, hlist', hdots'⟩ :=
    signedComponents_eq_ok hsigned'
  have heq := inventoryAssertionPreimage_injective (by rw [hlist]; exact List.cons_ne_nil _ _)
    (by rw [hlist']; exact List.cons_ne_nil _ _) hdots hdots' hpre hpre'
  rw [hlist, hlist'] at heq
  simp only [List.cons.injEq, and_true, true_and] at heq
  obtain ⟨hkid, hactor, htenant, hbusiness, hop, hpayload, hexps, hjti⟩ := heq
  have hopCode : x.claims.opCode = y.claims.opCode := by
    have h1 := operationCodeFromWire_wireOperationCode hwire
    have h2 := operationCodeFromWire_wireOperationCode hwire'
    rw [hop, h2] at h1
    exact (Except.ok.inj h1).symm
  have hexpiry : exp = exp' := by
    rw [← readDecimal_toString exp, hexps, readDecimal_toString]
  exact
    { kid := hkid
      actorUserId := hactor
      tenantId := htenant
      businessId := hbusiness
      opCode := hopCode
      payloadSha256 := hpayload
      expiry := by rw [hexp, hexp', hexpiry]
      jti := hjti }

/-- **`invctl/1` framing is unambiguous**: each minted text is split into exactly what was signed,
    with an expiry in the sixty seconds after the minting second, and two preimages that agree byte
    for byte sign the same claims. -/
theorem mintInventoryAssertion_unambiguous {hmac : List UInt8 → List UInt8 → List UInt8}
    {x y : MintCall} {raw raw' : String} (hx : mintInventoryAssertion hmac x = .ok raw)
    (hy : mintInventoryAssertion hmac y = .ok raw') :
    (∃ parts, splitInventoryAssertion raw = .ok parts ∧ x.SignedAs parts) ∧
      (∃ parts, splitInventoryAssertion raw' = .ok parts ∧ y.SignedAs parts) ∧
      (∃ bytes, x.preimage = .ok bytes) ∧ (∃ bytes, y.preimage = .ok bytes) ∧
      (x.preimage = y.preimage → x.SameClaims y) := by
  have hpreimage : ∀ {call : MintCall} {text : String}, mintInventoryAssertion hmac call = .ok text →
      ∃ bytes, call.preimage = .ok bytes := by
    intro call text h
    simp only [mintInventoryAssertion, bind_eq_ok] at h
    obtain ⟨signed, hsigned, bytes, hbytes, _⟩ := h
    exact ⟨bytes, bind_eq_ok.mpr ⟨signed, hsigned, hbytes⟩⟩
  obtain ⟨bytes, hbytes⟩ := hpreimage hx
  refine ⟨splitInventoryAssertion_mint hx, splitInventoryAssertion_mint hy, ⟨bytes, hbytes⟩,
    hpreimage hy, fun h => ?_⟩
  exact MintCall.sameClaims_of_preimage hbytes (h ▸ hbytes)

/-- A stocktake opened at a second. -/
def sampleCall (seconds : ℤ) (jti : Option String) (h : -IsoInstant.MAX_TIME ≤ seconds * 1000 ∧
    seconds * 1000 ≤ IsoInstant.MAX_TIME) : MintCall where
  claims :=
    { actorUserId := "11111111-1111-4111-8111-111111111111"
      tenantId := "22222222-2222-4222-8222-222222222222"
      businessId := "33333333-3333-4333-8333-333333333333"
      opCode := "inventory.stocktake_open"
      payloadSha256 := "e3b0c44298fc1c149afbf4c8996fb92427ae41e4649b934ca495991b7852b855"
      jti := jti }
  key := ⟨"k-1", List.replicate 32 7⟩
  now := some ⟨seconds * 1000, h⟩
  ttlSeconds := .number 60
  randomUUID := "44444444-4444-4444-8444-444444444444"

/-- Two calls, one second apart. -/
def sampleCalls : MintCall × MintCall :=
  ⟨sampleCall 1772236800 none (by decide),
    sampleCall 1772236801 (some "55555555-5555-4555-8555-555555555555") (by decide)⟩

/-- What is minted with a MAC that repeats the secret. -/
def sampleText (call : MintCall) : String :=
  resultD (mintInventoryAssertion (fun secret _ => secret) call) ""

theorem mintInventoryAssertion_unambiguous_sample :
    (∃ parts, splitInventoryAssertion (sampleText sampleCalls.1) = .ok parts ∧
        sampleCalls.1.SignedAs parts) ∧
      (∃ parts, splitInventoryAssertion (sampleText sampleCalls.2) = .ok parts ∧
        sampleCalls.2.SignedAs parts) ∧
      (∃ bytes, sampleCalls.1.preimage = .ok bytes) ∧
      (∃ bytes, sampleCalls.2.preimage = .ok bytes) ∧
      (sampleCalls.1.preimage = sampleCalls.2.preimage →
        sampleCalls.1.SameClaims sampleCalls.2) :=
  @mintInventoryAssertion_unambiguous (fun secret _ => secret) sampleCalls.1 sampleCalls.2
    (sampleText sampleCalls.1) (sampleText sampleCalls.2) (eq_ok_resultD (by decide +kernel))
    (eq_ok_resultD (by decide +kernel))

/-! ## 8. The seam reads what is minted -/

/-- The seam splits a text as the package does, and keeps three of its parts. -/
theorem seam_splitInventoryAssertion {raw : String} {parts : InventoryAssertionParts}
    (h : splitInventoryAssertion raw = .ok parts) : Infra.splitInventoryAssertion raw =
      some ⟨parts.tenantId, parts.businessId, parts.wireOperation⟩ := by
  obtain ⟨hversion, _, hdots⟩ := splitInventoryAssertion_eq_ok.mp h
  unfold Infra.splitInventoryAssertion
  rw [hdots, hversion]
  rfl

/-- **What is minted coheres with the seam of its own tenant and business**, which reads the claimed
    operation from it. -/
theorem assertInventoryAssertionCoheres_mint {hmac : List UInt8 → List UInt8 → List UInt8}
    {call : MintCall} {raw : String} {scope : Infra.BusinessScope}
    (h : mintInventoryAssertion hmac call = .ok raw)
    (htrace : Infra.CANONICAL_TRACE_ID scope.businessTransactionId = true)
    (htenant : scope.tenantId = call.claims.tenantId)
    (hbusiness : scope.businessId = call.claims.businessId) :
    Infra.assertInventoryAssertionCoheres scope raw = .ok ⟨raw, call.claims.opCode⟩ := by
  obtain ⟨parts, hparts, hsigned⟩ := splitInventoryAssertion_mint h
  have hoperation : Infra.operationOfWire parts.wireOperation = call.claims.opCode := by
    have hop := hsigned.operation
    simp only [operationCodeFromWire, bind_eq_ok, refuseIf_eq_ok, exists_const, pure_eq_ok] at hop
    exact hop.2.2
  have hne : raw ≠ "" := by
    rintro rfl
    have hempty : (splitInventoryAssertion "").isOk = false := by decide
    rw [hparts] at hempty
    cases hempty
  simp only [Infra.assertInventoryAssertionCoheres, htrace, Bool.true_eq_false, hne,
    refuseIf_of_not not_false, ok_bind, seam_splitInventoryAssertion hparts, someOr_some, htenant,
    hbusiness, hsigned.tenantId, hsigned.businessId, ne_eq, not_true_eq_false, or_self, hoperation]
  rfl

end Daftar.Inventory
