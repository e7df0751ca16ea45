/-
  File: Daftar/Inventory/Payload/ClientPart.lean
  Subject: The client's part of a payload, and what an intent stream says.

  * `clientPart` takes from what stands under the fields of a payload the part of the client's
    fields: the kept names, and the lines only where their count is kept.
  * `clientFields_fixed`, `clientFields_lines`, `clientFields_header`, `clientFields_all`: the part
    by the shape of the schema.
  * `Signed`: a builder's result, its intent fields being the client's part of its payload fields.
  * `canonicalStream_eq_iff`: two accepted streams are equal exactly when they say the same.
-/

import Daftar.Inventory.Payload.Intent
import Daftar.Library.Selection

namespace Daftar.Inventory.Payload

open AsciiText
open Fallible
open Framing
open Selection
open Sha256

/-! ## 1. The client's part -/

/-- The count of the lines is the client's, if there are lines. -/
def linesKept (opCode : InventoryOperationCode) : Bool :=
  match (INVENTORY_PAYLOAD_SCHEMAS opCode).repeat with
  | none => true
  | some rep =>
    ((INVENTORY_PAYLOAD_SCHEMAS opCode).header.filter (keep opCode)).any fun s =>
      s.name == rep.countField

/-- The client's fields under the specs of a payload. Lines with a derived count go as a whole. -/
def clientMarks (opCode : InventoryOperationCode) (specs : List InventoryPayloadFieldSpec) :
    List Bool :=
  (if linesKept opCode then specs else (INVENTORY_PAYLOAD_SCHEMAS opCode).header).map (keep opCode)

/-- Of what stands under the fields of a payload, the part of the client's fields. -/
def clientPart {α : Type} (opCode : InventoryOperationCode) (fields : List InventoryPayloadField)
    (xs : List α) : List α :=
  match expandSchema opCode (INVENTORY_PAYLOAD_SCHEMAS opCode) fields with
  | .ok specs => select (clientMarks opCode specs) xs
  | .error _ => []

def clientFields (opCode : InventoryOperationCode) (fields : List InventoryPayloadField) :
    List InventoryPayloadField := clientPart opCode fields fields

/-- The number of lines a client states: the count of the lines, where it is the client's. -/
def statedCount (opCode : InventoryOperationCode) (fields : List InventoryPayloadField) :
    Option ℤ :=
  match (INVENTORY_PAYLOAD_SCHEMAS opCode).repeat with
  | none => none
  | some rep =>
    if linesKept opCode then
      match fields[countIndex (INVENTORY_PAYLOAD_SCHEMAS opCode).header rep.countField]? with
      | some (.integer v) => v.value
      | _ => none
    else none

section Shapes

variable {op : InventoryOperationCode} {fields : List InventoryPayloadField}
  {specs : List InventoryPayloadFieldSpec}

theorem clientPart_eq {α : Type} (xs : List α)
    (h : expandSchema op (INVENTORY_PAYLOAD_SCHEMAS op) fields = .ok specs) :
    clientPart op fields xs = select (clientMarks op specs) xs := by
  unfold clientPart
  rw [h]

theorem clientPart_map {α : Type} (f : InventoryPayloadField → α) :
    clientPart op fields (fields.map f) = (clientFields op fields).map f := by
  unfold clientFields clientPart
  split
  · rw [select_map]
  · rfl

/-- A payload without lines. -/
theorem clientFields_fixed {header : List InventoryPayloadFieldSpec}
    (hs : INVENTORY_PAYLOAD_SCHEMAS op = fixed header)
    (h : expandSchema op (INVENTORY_PAYLOAD_SCHEMAS op) fields = .ok specs) :
    clientFields op fields = select (header.map (keep op)) fields := by
  have hexp := (expandSchema_eq_ok.mp h).1
  rw [hs, fixed] at hexp
  cases hexp with
  | fixed =>
    rw [clientFields, clientPart_eq fields h, clientMarks, hs]
    exact congrArg (fun specs => select (List.map (keep op) specs) fields) (ite_self _)

theorem map_repeated (n : ℕ) (group : List InventoryPayloadFieldSpec) :
    (repeated n group).map (keep op) = (List.replicate n (group.map (keep op))).flatten := by
  unfold repeated
  rw [Int.toNat_natCast, List.map_flatten, List.map_replicate]

/-- A payload whose lines are the client's: its header's part, and each line's. -/
theorem clientFields_lines {α : Type} {header group : List InventoryPayloadFieldSpec}
    {countField : String} {hfields : List InventoryPayloadField} {lines : List α}
    {line : α → List InventoryPayloadField} (k : ℕ)
    (hs : INVENTORY_PAYLOAD_SCHEMAS op = withGroup header countField group)
    (hkept : linesKept op = true) (hk : countIndex header countField = k)
    (h : expandSchema op (INVENTORY_PAYLOAD_SCHEMAS op) (hfields ++ (lines.map line).flatten) =
      .ok specs)
    (hlen : hfields.length = header.length) (hline : ∀ l, (line l).length = group.length)
    (hcount : hfields[k]? = some (.integer (.bigint lines.length))) :
    clientFields op (hfields ++ (lines.map line).flatten) =
      select (header.map (keep op)) hfields ++
        (lines.map fun l => select (group.map (keep op)) (line l)).flatten := by
  have hexp := (expandSchema_eq_ok.mp h).1
  rw [hs, withGroup] at hexp
  cases hexp with
  | @lines _ _ _ n _ _ hn =>
    -- The count that is read is the number of lines.
    obtain ⟨v, hv, _, hvn⟩ := hn
    rw [hk, List.getElem?_append_left (List.getElem?_eq_some_iff.mp hcount).1, hcount] at hv
    obtain rfl : n = lines.length := by
      cases hv
      exact (Int.natCast_inj.mp (Option.some.inj hvn)).symm
    have hgroups : ∀ g ∈ lines.map line, g.length = (group.map (keep op)).length := by
      intro g hg
      obtain ⟨l, _, rfl⟩ := List.mem_map.mp hg
      rw [hline, List.length_map]
    have hflat := select_flatten hgroups
    rw [List.length_map, List.map_map] at hflat
    rw [clientFields, clientPart_eq _ h, clientMarks, if_pos hkept, List.map_append, map_repeated,
      select_append (by rw [List.length_map, hlen]), hflat]
    rfl

/-- A payload whose lines are derived: its header's part alone. -/
theorem clientFields_header {header group : List InventoryPayloadFieldSpec} {countField : String}
    {hfields rest : List InventoryPayloadField}
    (hs : INVENTORY_PAYLOAD_SCHEMAS op = withGroup header countField group)
    (hkept : linesKept op = false)
    (h : expandSchema op (INVENTORY_PAYLOAD_SCHEMAS op) (hfields ++ rest) = .ok specs)
    (hlen : hfields.length = header.length) :
    clientFields op (hfields ++ rest) = select (header.map (keep op)) hfields := by
  have hne : ¬ linesKept op = true := by rw [hkept]; exact Bool.false_ne_true
  rw [clientFields, clientPart_eq _ h, clientMarks, if_neg hne, hs]
  exact select_append_right (by rw [List.length_map, hlen]; rfl)

/-- Every field of a kind is the client's. -/
def keepsAll (opCode : InventoryOperationCode) : Bool :=
  let schema := INVENTORY_PAYLOAD_SCHEMAS opCode
  linesKept opCode && schema.header.all (keep opCode) &&
    (schema.repeat.all fun rep => rep.fields.all (keep opCode)) &&
    schema.trailer.all fun tr =>
      keep opCode tr.countField && tr.fields.all (keep opCode) && tr.perLine.all (keep opCode)

theorem mem_repeated {n : ℕ} {group : List InventoryPayloadFieldSpec}
    {s : InventoryPayloadFieldSpec} (h : s ∈ repeated n group) : s ∈ group := by
  unfold repeated at h
  obtain ⟨g, hg, hs⟩ := List.mem_flatten.mp h
  rwa [List.eq_of_mem_replicate hg] at hs

theorem mem_perLineCells {tr : InventoryPayloadTrailer} {n : ℕ} {s : InventoryPayloadFieldSpec}
    (h : s ∈ perLineCells tr n) : tr.perLine = some s := by
  unfold perLineCells at h
  split at h
  · cases h
  · rename_i cell hcell
    rw [List.eq_of_mem_replicate h, hcell]

/-- A payload without a derived field is its own part. -/
theorem clientFields_all (hall : keepsAll op = true)
    (h : expandSchema op (INVENTORY_PAYLOAD_SCHEMAS op) fields = .ok specs) :
    clientFields op fields = fields := by
  obtain ⟨hexp, hlen⟩ := expandSchema_eq_ok.mp h
  simp only [keepsAll, Bool.and_eq_true, Option.all_eq_true, List.all_eq_true] at hall
  obtain ⟨⟨⟨hkept, hheader⟩, hgroup⟩, htrailer⟩ := hall
  have hspecs : ∀ s ∈ specs, keep op s = true := by
    generalize INVENTORY_PAYLOAD_SCHEMAS op = schema at hexp hheader hgroup htrailer
    intro s hs
    cases hexp with
    | fixed => exact hheader s hs
    | lines =>
        rcases List.mem_append.mp hs with hs | hs
        · exact hheader s hs
        · exact hgroup _ rfl s (mem_repeated hs)
    | trailer =>
        obtain ⟨⟨htc, hfields⟩, hcell⟩ := htrailer _ rfl
        simp only [List.mem_append, List.mem_cons] at hs
        rcases hs with (hs | hs) | rfl | hs
        · exact hheader s hs
        · exact hgroup _ rfl s (mem_repeated hs)
        · exact htc
        · rcases List.mem_append.mp (mem_repeated hs) with hs | hs
          · exact hfields s hs
          · exact hcell s (mem_perLineCells hs)
  rw [clientFields, clientPart_eq fields h, clientMarks, if_pos hkept]
  refine select_of_all ?_ (by rw [List.length_map, hlen])
  intro m hm
  obtain ⟨s, hs, rfl⟩ := List.mem_map.mp hm
  exact hspecs s hs

end Shapes

/-! ## 2. The number of lines -/

/-- A field belongs to the intent by its name. -/
theorem keep_of_name {op : InventoryOperationCode} {s t : InventoryPayloadFieldSpec}
    (h : s.name = t.name) : keep op s = keep op t := by
  unfold keep
  rw [h]

/-- The count of the lines stands in the header, which the specs begin with. -/
theorem Expands.count {schema : InventoryPayloadSchema} {fields : List InventoryPayloadField}
    {specs : List InventoryPayloadFieldSpec} {rep : InventoryPayloadRepeat}
    (h : Expands schema fields specs) (hrep : schema.repeat = some rep) :
    (∃ s, schema.header[countIndex schema.header rep.countField]? = some s) ∧
      (∃ n, CountAt fields (countIndex schema.header rep.countField) n) ∧
      ∃ rest, specs = schema.header ++ rest := by
  have hsome : ∀ {o : Option InventoryPayloadFieldSpec}, isCountSpec o = true → ∃ s, o = some s :=
    fun {o} ho => by
      cases o with
      | none => cases ho
      | some s => exact ⟨s, rfl⟩
  cases h with
  | fixed => cases hrep
  | lines hspec _ hn =>
      cases hrep
      exact ⟨hsome hspec, ⟨_, hn⟩, _, rfl⟩
  | trailer hspec _ hn =>
      cases hrep
      exact ⟨hsome hspec, ⟨_, hn⟩, _, List.append_assoc ..⟩

theorem name_countIndex {header : List InventoryPayloadFieldSpec} {name : String}
    {s : InventoryPayloadFieldSpec} (h : header[countIndex header name]? = some s) :
    s.name = name := by
  obtain ⟨hlt, rfl⟩ := List.getElem?_eq_some_iff.mp h
  exact eq_of_beq
    (@List.findIdx_getElem _ (fun s : InventoryPayloadFieldSpec => s.name == name) header hlt)

/-- Where the lines are the client's, so is the field of their count. -/
theorem keep_count {op : InventoryOperationCode} {rep : InventoryPayloadRepeat}
    {s : InventoryPayloadFieldSpec} (hrep : (INVENTORY_PAYLOAD_SCHEMAS op).repeat = some rep)
    (hkept : linesKept op = true)
    (hs : (INVENTORY_PAYLOAD_SCHEMAS op).header[countIndex (INVENTORY_PAYLOAD_SCHEMAS op).header
      rep.countField]? = some s) : keep op s = true := by
  simp only [linesKept, hrep, List.any_eq_true, List.mem_filter] at hkept
  obtain ⟨t, ⟨_, ht⟩, htname⟩ := hkept
  rw [keep_of_name ((name_countIndex hs).trans (eq_of_beq htname).symm), ht]

/-- **The count of the client's lines is a client's field.** -/
theorem statedCount_congr {op : InventoryOperationCode} {fields fields' : List InventoryPayloadField}
    {specs specs' : List InventoryPayloadFieldSpec}
    (h : expandSchema op (INVENTORY_PAYLOAD_SCHEMAS op) fields = .ok specs)
    (h' : expandSchema op (INVENTORY_PAYLOAD_SCHEMAS op) fields' = .ok specs')
    (hsame : List.Forall₂ SameField (clientFields op fields) (clientFields op fields')) :
    statedCount op fields = statedCount op fields' := by
  cases hrep : (INVENTORY_PAYLOAD_SCHEMAS op).repeat with
  | none => simp only [statedCount, hrep]
  | some rep =>
    by_cases hkept : linesKept op = true
    · obtain ⟨⟨s, hs⟩, ⟨n, v, hv, _⟩, rest, rfl⟩ := (expandSchema_eq_ok.mp h).1.count hrep
      obtain ⟨_, ⟨n', v', hv', _⟩, rest', rfl⟩ := (expandSchema_eq_ok.mp h').1.count hrep
      rw [clientFields, clientPart_eq _ h, clientFields, clientPart_eq _ h', clientMarks,
        clientMarks, if_pos hkept, if_pos hkept, List.map_append, List.map_append] at hsame
      have hmark : ((INVENTORY_PAYLOAD_SCHEMAS op).header.map (keep op))[countIndex
          (INVENTORY_PAYLOAD_SCHEMAS op).header rep.countField]? = some true := by
        rw [List.getElem?_map, hs, Option.map_some, keep_count hrep hkept hs]
      obtain ⟨value, hvalue, hvalue'⟩ := forall₂_select_getElem hsame hmark hv hv'
      have hsome : v.value = v'.value := by
        simp only [InventoryPayloadField.value, Option.map_eq_some_iff] at hvalue hvalue'
        obtain ⟨a, ha, rfl⟩ := hvalue
        obtain ⟨b, hb, hab⟩ := hvalue'
        rw [ha, hb, PayloadValue.integer.inj hab]
      simp only [statedCount, hrep, hkept, if_true, hv, hv', hsome]
    · simp only [statedCount, hrep, if_neg hkept]

/-! ## 3. Streams -/

/-- The line of a value. -/
def valueLine : PayloadValue → List UInt8
  | .null => [NUL]
  | .uuid value => asciiBytes value
  | .boolean value => asciiBytes (if value then "true" else "false")
  | .integer n => asciiBytes (toString n)
  | .code value => asciiBytes value

theorem fieldLine_eq_value {f : InventoryPayloadField} {v : PayloadValue}
    (h : f.value = some v) : fieldLine f = valueLine v := by
  cases f with
  | integer n =>
      obtain ⟨m, hm, rfl⟩ := Option.map_eq_some_iff.mp h
      rw [fieldLine, hm]
      rfl
  | _ => exact Option.some.inj h ▸ rfl

theorem fieldLine_congr {f g : InventoryPayloadField} (h : SameField f g) :
    fieldLine f = fieldLine g := by
  obtain ⟨v, hf, hg⟩ := h
  rw [fieldLine_eq_value hf, fieldLine_eq_value hg]

/-- Fields that say the same are written alike. -/
theorem map_fieldLine_congr {fields fields' : List InventoryPayloadField}
    (h : List.Forall₂ SameField fields fields') :
    fields.map fieldLine = fields'.map fieldLine := by
  induction h with
  | nil => rfl
  | cons hfg _ ih => rw [List.map_cons, List.map_cons, fieldLine_congr hfg, ih]

theorem text_inj {op op' : InventoryOperationCode} (h : op.text = op'.text) : op = op' := by
  have hof := op.ofText_text
  rw [h, op'.ofText_text] at hof
  exact (Option.some.inj hof).symm

theorem asciiBytes_inj {s t : String} (hs : Printable s) (ht : Printable t)
    (h : asciiBytes s = asciiBytes t) : s = t := by
  rw [← asciiText_asciiBytes hs, h, asciiText_asciiBytes ht]

/-- **One stream, one content**, whatever grammar a kind has. -/
theorem canonicalStream_eq_iff (schema : InventoryOperationCode → InventoryPayloadSchema)
    {op op' : InventoryOperationCode} {tenantId tenantId' businessId businessId' : String}
    {fields fields' : List InventoryPayloadField} {bytes bytes' : List UInt8}
    (h : canonicalStream op tenantId businessId (schema op) fields = .ok bytes)
    (h' : canonicalStream op' tenantId' businessId' (schema op') fields' = .ok bytes') :
    bytes = bytes' ↔ op = op' ∧ tenantId = tenantId' ∧ businessId = businessId' ∧
      List.Forall₂ SameField fields fields' := by
  constructor
  · intro hbytes
    subst hbytes
    obtain ⟨body, specs, vs, hun, ht, hb, hspecs, hvs, hf⟩ := decode_canonicalStream h
    obtain ⟨body', specs', vs', hun', ht', hb', hspecs', hvs', hf'⟩ := decode_canonicalStream h'
    rw [hun] at hun'
    simp only [List.cons.injEq, true_and] at hun'
    obtain ⟨hop, htenant, hbusiness, rfl⟩ := hun'
    obtain rfl := text_inj (asciiBytes_inj (printable_opCode op) (printable_opCode op') hop)
    obtain rfl := Option.some.inj (hspecs.symm.trans hspecs')
    obtain rfl := Option.some.inj (hvs.symm.trans hvs')
    exact ⟨rfl, asciiBytes_inj ht ht' htenant, asciiBytes_inj hb hb' hbusiness,
      forall₂_sameField hf hf'⟩
  · intro hsame
    obtain ⟨rfl, rfl, rfl, hsame⟩ := hsame
    obtain ⟨_, _, _, _, _, rfl⟩ := canonicalStream_eq_frame.mp h
    obtain ⟨_, _, _, _, _, rfl⟩ := canonicalStream_eq_frame.mp h'
    rw [map_fieldLine_congr hsame]

/-! ## 4. What a builder returns -/

/-- The signed payload and the digest of the intent. -/
abbrev MovementPayload := InventoryPayload × String

/-- The payload of some fields and the digest of others as its intent. -/
def finishWith (opCode : InventoryOperationCode) (tenantId businessId : String)
    (fields intentFields : List InventoryPayloadField) : Result MovementPayload := do
  let payload ← buildInventoryPayload opCode tenantId businessId fields
  let intentSha256 ← inventoryIntentSha256 opCode tenantId businessId intentFields
  pure (payload, intentSha256)

/-- A result is signed over `fields` with the intent of `intentFields`, their client's part. -/
structure Signed (opCode : InventoryOperationCode) (tenantId businessId : String)
    (fields intentFields : List InventoryPayloadField) (r : MovementPayload) : Prop where
  payload : buildInventoryPayload opCode tenantId businessId fields = .ok r.1
  intent : inventoryIntentSha256 opCode tenantId businessId intentFields = .ok r.2
  client : clientFields opCode fields = intentFields

theorem finishWith_eq_ok {op : InventoryOperationCode} {tenantId businessId : String}
    {fields intentFields : List InventoryPayloadField} {r : MovementPayload} :
    finishWith op tenantId businessId fields intentFields = .ok r ↔
      buildInventoryPayload op tenantId businessId fields = .ok r.1 ∧
        inventoryIntentSha256 op tenantId businessId intentFields = .ok r.2 := by
  obtain ⟨payload, sha⟩ := r
  simp only [finishWith, bind_eq_ok, pure_eq_ok, Prod.mk.injEq]
  constructor
  · intro h
    obtain ⟨_, hp, _, hi, rfl, rfl⟩ := h
    exact ⟨hp, hi⟩
  · intro h
    exact ⟨_, h.1, _, h.2, rfl, rfl⟩

/-- A payload that is built has a spec for each of its fields. -/
theorem expandSchema_of_built {op : InventoryOperationCode} {tenantId businessId : String}
    {fields : List InventoryPayloadField} {p : InventoryPayload}
    (h : buildInventoryPayload op tenantId businessId fields = .ok p) :
    ∃ specs, expandSchema op (INVENTORY_PAYLOAD_SCHEMAS op) fields = .ok specs := by
  simp only [buildInventoryPayload, canonicalInventoryPayload_text, bind_eq_ok,
    canonicalStream_eq_frame] at h
  obtain ⟨_, ⟨specs, hspecs, _⟩, _⟩ := h
  exact ⟨specs, hspecs⟩

/-- A payload whose fields are all intent (`finishS4`, `finishP4S1` and the payment methods' own
    `finish`). -/
def finishAll (opCode : InventoryOperationCode) (tenantId businessId : String)
    (fields : List InventoryPayloadField) : Result MovementPayload :=
  finishWith opCode tenantId businessId fields fields

section Signing

variable {op : InventoryOperationCode} {tenantId businessId : String}
  {header group : List InventoryPayloadFieldSpec} {fields intentFields : List InventoryPayloadField}
  {payload : InventoryPayload} {intentSha256 : String}

/-- Every field is intent: the two streams carry the same fields. -/
theorem signed_all {r : MovementPayload} (hall : keepsAll op = true)
    (h : finishAll op tenantId businessId fields = .ok r) :
    Signed op tenantId businessId fields fields r := by
  obtain ⟨hp, hi⟩ := finishWith_eq_ok.mp h
  obtain ⟨_, hspecs⟩ := expandSchema_of_built hp
  exact ⟨hp, hi, clientFields_all hall hspecs⟩

/-- A payload without lines. -/
theorem signed_fixed (marks : List Bool) (hs : INVENTORY_PAYLOAD_SCHEMAS op = fixed header)
    (hmarks : header.map (keep op) = marks) (hclient : select marks fields = intentFields)
    (hp : buildInventoryPayload op tenantId businessId fields = .ok payload)
    (hi : inventoryIntentSha256 op tenantId businessId intentFields = .ok intentSha256) :
    Signed op tenantId businessId fields intentFields (payload, intentSha256) := by
  obtain ⟨_, hspecs⟩ := expandSchema_of_built hp
  refine ⟨hp, hi, ?_⟩
  rw [clientFields_fixed hs hspecs, hmarks, hclient]

/-- A payload whose lines are derived. -/
theorem signed_header {countField : String} {rest : List InventoryPayloadField}
    (marks : List Bool) (hs : INVENTORY_PAYLOAD_SCHEMAS op = withGroup header countField group)
    (hkept : linesKept op = false) (hmarks : header.map (keep op) = marks)
    (hlen : fields.length = marks.length) (hclient : select marks fields = intentFields)
    (hp : buildInventoryPayload op tenantId businessId (fields ++ rest) = .ok payload)
    (hi : inventoryIntentSha256 op tenantId businessId intentFields = .ok intentSha256) :
    Signed op tenantId businessId (fields ++ rest) intentFields (payload, intentSha256) := by
  obtain ⟨_, hspecs⟩ := expandSchema_of_built hp
  refine ⟨hp, hi, ?_⟩
  rw [← hmarks, List.length_map] at hlen
  rw [clientFields_header hs hkept hspecs hlen, hmarks, hclient]

/-- **A payload whose lines are the client's**: its header's part, and the part of each line. -/
theorem signed_lines {α : Type} {countField : String} {lines : List α}
    {line intentLine : α → List InventoryPayloadField} (k : ℕ) (marks lineMarks : List Bool)
    (hs : INVENTORY_PAYLOAD_SCHEMAS op = withGroup header countField group)
    (hkept : linesKept op = true) (hk : countIndex header countField = k)
    (hmarks : header.map (keep op) = marks) (hlineMarks : group.map (keep op) = lineMarks)
    (hlen : fields.length = marks.length) (hline : ∀ l, (line l).length = lineMarks.length)
    (hcount : fields[k]? = some (.integer (.bigint lines.length)))
    (hclient : select marks fields = intentFields)
    (hclientLine : ∀ l, select lineMarks (line l) = intentLine l)
    (hp : buildInventoryPayload op tenantId businessId (fields ++ (lines.map line).flatten) =
      .ok payload)
    (hi : inventoryIntentSha256 op tenantId businessId
      (intentFields ++ (lines.map intentLine).flatten) = .ok intentSha256) :
    Signed op tenantId businessId (fields ++ (lines.map line).flatten)
      (intentFields ++ (lines.map intentLine).flatten) (payload, intentSha256) := by
  obtain ⟨_, hspecs⟩ := expandSchema_of_built hp
  refine ⟨hp, hi, ?_⟩
  rw [← hmarks, List.length_map] at hlen
  have hline' : ∀ l, (line l).length = group.length := by
    intro l
    rw [hline, ← hlineMarks, List.length_map]
  have hgroups : (fun l => select lineMarks (line l)) = intentLine := funext hclientLine
  rw [clientFields_lines k hs hkept hk hspecs hlen hline' hcount, hmarks, hclient, hlineMarks,
    hgroups]

end Signing

end Daftar.Inventory.Payload
