/-
  File: Daftar/Pos/CartGate.lean
  Subject: Cart commands in two steps, the gate and the write, and what is lost between them.

  * `gate` reads the session and the addressed line in a transaction of its own; `setLineParams`
    restates the column a revision does not name from that reading. The answer prices the basket
    after the commit: a revision that does not price stays, and its client is refused.
  * `Step` interleaves the two steps of any number of revisions, and `serial` runs them one by one.
  * `serializable_of_restates_prices`: where each write restates what the line still holds and each
    revised basket prices, the acknowledged writes are their own serial order.
  * `not_serializable_two_devices`: a quantity and a discount, each gated before the other writes,
    and the quantity is lost. `not_serializable_unpriced`: so is what an unpriced revision leaves.
-/

import Daftar.Library.Runs
import Daftar.Pos.CartProjection
import Daftar.Pos.CartRoutines
import Daftar.Pos.PriceAuthority
import Daftar.Pos.TillAgainstSale
import Mathlib.Data.List.Permutation

namespace Daftar.Pos

open Fallible
open Inventory.Payload
open Runs

/-! ## 1. The gate -/

/-- The authenticated actor: whether the `sales.discount` key is held, and which warehouses are in
    scope. -/
structure Membership where
  userId : Uuid
  tenantId : Uuid
  businessId : Uuid
  salesDiscount : Bool
  inScope : Uuid → Bool

structure CartCommandTarget where
  tillSessionId : Uuid
  actorUserId : Uuid
  cartLineId : Option Uuid
  productId : Option Uuid
  variantId : Option Uuid
  quantity : Option ℤ
  discountMinor : Option ℤ

structure GateRow where
  sessionVisible : Bool
  sessionOpen : Bool
  sessionUsable : Bool
  warehouseId : Option Uuid
  sessionCurrency : Option String
  nextLineNo : ℕ
  linePresent : Bool
  lineRemoved : Bool
  lineNo : Option ℕ
  productId : Option Uuid
  variantId : Option Uuid
  quantity : Option ℤ
  requestedDiscountMinor : Option ℤ
  baseVariantId : Option Uuid
  deriving DecidableEq

/-- The addressed line, in this session. -/
def gateLine (store : TillStore) (t : CartCommandTarget) : Option CartLine :=
  store.lines.rows.find? fun l => some l.id = t.cartLineId ∧ l.tillSessionId = t.tillSessionId

def gate (tables : ProductTables) (store : TillStore) (t : CartCommandTarget) : GateRow :=
  let visible := store.sessions t.tillSessionId
  let opened := visible.any fun s => s.status = .open_
  let owned := visible.any fun s => s.openedBy = t.actorUserId
  let line := gateLine store t
  { sessionVisible := visible.isSome
    sessionOpen := opened
    sessionUsable := opened && owned
    warehouseId := visible.map TillSession.warehouseId
    sessionCurrency := visible.map TillSession.currencyCode
    nextLineNo := ((store.lines.rows.filter fun l => l.tillSessionId = t.tillSessionId).map
      CartLine.lineNo).foldr max 0 + 1
    linePresent := line.isSome
    lineRemoved := line.any CartLine.removed
    lineNo := line.map CartLine.lineNo
    productId := line.map CartLine.productId
    variantId := line.map CartLine.variantId
    quantity := line.map fun l => l.figures.quantityQ4
    requestedDiscountMinor := line.map fun l => l.figures.requestedDiscountMinor
    baseVariantId := t.productId.bind tables.baseVariantId }

/-- An append takes the next ordinal and the identities of the command, a revision those of the
    line. Both figures are written on every call: the one the command does not name is the gate's. -/
def setLineParams (command : PosCartCommand) (t : CartCommandTarget) (gate : GateRow) :
    SetLineParams :=
  let append := command = .addLine
  { sessionId := some t.tillSessionId
    lineId := t.cartLineId
    lineNo := if append then some gate.nextLineNo else gate.lineNo
    productId := if append then t.productId else gate.productId
    variantId := if append then t.variantId.or gate.baseVariantId else gate.variantId
    quantity := if command = .requestDiscount then gate.quantity else t.quantity
    requestedDiscountMinor :=
      if command = .requestDiscount then t.discountMinor
      else if append then some 0
      else gate.requestedDiscountMinor }

/-! ## 2. A command -/

/-- The session refusals, widest first, then the line's, then the warehouse authority. -/
def gateRefusals (m : Membership) (command : PosCartCommand) (gate : GateRow) :
    Except Refusal Unit := do
  refuseIf (gate.sessionVisible = false) (.pos .sessionNotFound)
  refuseIf (gate.sessionOpen = false) (.pos .sessionNotOpen)
  refuseIf (gate.sessionUsable = false) (.pos .sessionNotOwned)
  refuseIf (command = .removeLine ∧ gate.linePresent = false) (.pos .cartLineNotFound)
  refuseIf (command ≠ .removeLine ∧ command ≠ .addLine ∧
    (gate.linePresent = false ∨ gate.lineRemoved = true)) (.pos .cartLineNotFound)
  match gate.warehouseId with
  | none => .error (.pos .cartStatementPlanInvalid)
  | some warehouse =>
    refuseIf (m.inScope warehouse = false) (.inventory .inventoryWarehouseOutOfScope)

def mint (m : Membership) (op : InventoryOperationCode) (fields : List InventoryPayloadField) :
    Except Refusal Assertion :=
  match canonicalInventoryPayload op.text m.tenantId.text m.businessId.text fields with
  | .ok payload => .ok ⟨m.userId, m.tenantId, m.businessId, payload⟩
  | .error e => .error (.inventory e.code)

/-- The fields the assertion of a `pos_cart_set_line` call signs. -/
def setLinePayload (p : SetLineParams) : Except Refusal (List InventoryPayloadField) := do
  let qtyQ4 ← parseQuantity (p.quantity.getD 0)
  pure
    [ .uuid ((p.sessionId.map Uuid.text).getD ""), .uuid ((p.lineId.map Uuid.text).getD ""),
      .integer (.number ((p.lineNo.map Int.ofNat).getD 0)),
      .uuid ((p.productId.map Uuid.text).getD ""), .uuid ((p.variantId.map Uuid.text).getD ""),
      .integer (.bigint qtyQ4), .integer (.bigint (p.requestedDiscountMinor.getD 0)) ]

def mintSetLine (m : Membership) (p : SetLineParams) : Except Refusal Assertion := do
  let fields ← setLinePayload p
  mint m .posCartSetLine fields

def mintRemoveLine (m : Membership) (t : CartCommandTarget) : Except Refusal Assertion :=
  mint m .posCartRemoveLine
    [.uuid t.tillSessionId.text, .uuid ((t.cartLineId.map Uuid.text).getD "")]

/-- What a command holds between its two steps. -/
structure Prepared where
  gate : GateRow
  assertion : Assertion

/-- The first step: the gate, the refusals, the authority and the signature. -/
def issueGate (tables : ProductTables) (m : Membership) (command : PosCartCommand)
    (t : CartCommandTarget) (store : TillStore) : Except Refusal Prepared := do
  refuseIf (command = .requestDiscount ∧ m.salesDiscount = false) (.pos .cartDiscountNotPermitted)
  let gate := gate tables store t
  gateRefusals m command gate
  let assertion ← match command with
    | .removeLine => mintRemoveLine m t
    | command => mintSetLine m (setLineParams command t gate)
  pure ⟨gate, assertion⟩

/-- The second step: the routine, in the transaction that presents the assertion. -/
def issueRoutine (command : PosCartCommand) (t : CartCommandTarget) (p : Prepared)
    (store : TillStore) : Except Refusal TillStore :=
  match command with
  | .removeLine => do
    let removed ← posCartRemoveLine store p.assertion (some t.tillSessionId) t.cartLineId
    pure removed.1
  | command => posCartSetLine store p.assertion (setLineParams command t p.gate)

/-- The answer: the basket the second step has projected, priced when its transaction is over. -/
def issueAnswer (tables : ProductTables) (t : CartCommandTarget) (p : Prepared)
    (store : TillStore) : Except Refusal CartDto :=
  recompute t.tillSessionId (projection tables store t.tillSessionId)
    (p.gate.sessionCurrency.getD "")

/-- A command whose two steps nothing comes between: the store it leaves, and its answer. What the
    routine has written stays, whatever the answer. -/
def issue (tables : ProductTables) (m : Membership) (command : PosCartCommand)
    (t : CartCommandTarget) (store : TillStore) : TillStore × Except Refusal CartDto :=
  match issueGate tables m command t store with
  | .error e => (store, .error e)
  | .ok p =>
    match issueRoutine command t p store with
    | .error e => (store, .error e)
    | .ok after => (after, issueAnswer tables t p after)

/-! ## 3. Revisions -/

inductive Change
  | quantity (quantity : ℤ)
  | discount (discountMinor : ℤ)
  deriving DecidableEq

/-- The quantity and the discount request of a line. -/
def LineFigures.pair (f : LineFigures) : ℤ × ℤ := (f.quantityQ4, f.requestedDiscountMinor)

theorem LineFigures.ext_pair {f g : LineFigures} (h : f.pair = g.pair) : f = g := by
  cases f
  cases g
  cases h
  rfl

/-- A pair with the named column changed. -/
def Change.onPair (pair : ℤ × ℤ) : Change → ℤ × ℤ
  | .quantity q => (q, pair.2)
  | .discount d => (pair.1, d)

/-- A `change_quantity` or a `request_discount` on a line. -/
structure Revision where
  m : Membership
  tillSessionId : Uuid
  cartLineId : Uuid
  change : Change

namespace Revision

def command (r : Revision) : PosCartCommand :=
  match r.change with
  | .quantity _ => .changeQuantity
  | .discount _ => .requestDiscount

def target (r : Revision) : CartCommandTarget where
  tillSessionId := r.tillSessionId
  actorUserId := r.m.userId
  cartLineId := some r.cartLineId
  productId := none
  variantId := none
  quantity := match r.change with
    | .quantity q => some q
    | .discount _ => none
  discountMinor := match r.change with
    | .quantity _ => none
    | .discount d => some d

def prepare (tables : ProductTables) (r : Revision) (store : TillStore) :
    Except Refusal Prepared :=
  issueGate tables r.m r.command r.target store

def write (r : Revision) (p : Prepared) (store : TillStore) : Except Refusal TillStore :=
  issueRoutine r.command r.target p store

def answer (tables : ProductTables) (r : Revision) (p : Prepared) (store : TillStore) :
    Except Refusal CartDto :=
  issueAnswer tables r.target p store

/-- What the write states to the routine. -/
def params (r : Revision) (gate : GateRow) : SetLineParams := setLineParams r.command r.target gate

/-- The column a revision does not name, as the gate read it. -/
def restated (r : Revision) (gate : GateRow) : Option ℤ :=
  match r.change with
  | .quantity _ => gate.requestedDiscountMinor
  | .discount _ => gate.quantity

/-- The column a revision does not name, as a line holds it. -/
def unnamed (r : Revision) (f : LineFigures) : ℤ :=
  match r.change with
  | .quantity _ => f.requestedDiscountMinor
  | .discount _ => f.quantityQ4

/-- The pair a write states: the named column as asked, the other as the gate read it. -/
def stated (r : Revision) (gate : GateRow) : Option (ℤ × ℤ) :=
  match r.change with
  | .quantity q => (r.restated gate).map fun d => (q, d)
  | .discount d => (r.restated gate).map fun q => (q, d)

theorem params_eq (r : Revision) (gate : GateRow) : r.params gate =
    { sessionId := some r.tillSessionId
      lineId := some r.cartLineId
      lineNo := gate.lineNo
      productId := gate.productId
      variantId := gate.variantId
      quantity := match r.change with
        | .quantity q => some q
        | .discount _ => r.restated gate
      requestedDiscountMinor := match r.change with
        | .quantity _ => r.restated gate
        | .discount d => some d } := by
  obtain ⟨m, session, line, change⟩ := r
  cases change <;> rfl

theorem write_eq (r : Revision) (p : Prepared) (store : TillStore) :
    r.write p store = posCartSetLine store p.assertion (r.params p.gate) := by
  obtain ⟨m, session, line, change⟩ := r
  cases change <;> rfl

theorem prepare_eq (tables : ProductTables) (r : Revision) (store : TillStore) :
    r.prepare tables store = (do
      refuseIf (r.command = .requestDiscount ∧ r.m.salesDiscount = false)
        (.pos .cartDiscountNotPermitted)
      gateRefusals r.m r.command (gate tables store r.target)
      let assertion ← mintSetLine r.m (r.params (gate tables store r.target))
      pure ⟨gate tables store r.target, assertion⟩) := by
  obtain ⟨m, session, line, change⟩ := r
  cases change <;> rfl

/-- A revision in one piece is acknowledged exactly when its two steps and its answer are. -/
theorem issue_eq_ok {tables : ProductTables} {r : Revision} {store after : TillStore}
    {dto : CartDto} : issue tables r.m r.command r.target store = (after, .ok dto) ↔
      ∃ p, r.prepare tables store = .ok p ∧ r.write p store = .ok after ∧
        r.answer tables p after = .ok dto := by
  unfold issue prepare write answer
  cases issueGate tables r.m r.command r.target store with
  | error e => simp
  | ok p =>
      simp only [Except.ok.injEq, exists_eq_left']
      cases issueRoutine r.command r.target p store with
      | error e => simp
      | ok next =>
          simp only [Prod.mk.injEq, Except.ok.injEq]
          exact and_congr_right fun h => by rw [h]

/-- Where the gate has read what a line holds, the write states its pair with the named column
    changed. -/
theorem stated_of_restated {r : Revision} {gate : GateRow} {f : LineFigures}
    (h : r.restated gate = some (r.unnamed f)) : r.stated gate = some (r.change.onPair f.pair) := by
  unfold stated
  rw [h]
  unfold unnamed
  cases r.change <;> rfl

end Revision

/-! ## 4. Runs -/

/-- The tills, the revisions between their two steps, and the acknowledged ones in the order of
    their commits. -/
structure TillRun where
  store : TillStore
  pending : ℕ → Option (Revision × Prepared)
  acknowledged : List Revision

namespace TillRun

def start (store : TillStore) : TillRun := ⟨store, fun _ => none, []⟩

end TillRun

inductive Event
  | gate (i : ℕ) (r : Revision)
  | write (i : ℕ)
  | refused (i : ℕ)

/-- One step of some revision. The write locks the session row before it reads and keeps the lock
    until its projection is read, so it is one step; the gate is a transaction of its own and holds
    nothing. A write that is committed is acknowledged if the basket it leaves prices. -/
inductive Step (tables : ProductTables) : TillRun → Event → TillRun → Prop
  | gate {s : TillRun} {i : ℕ} {r : Revision} {p : Prepared} (hfree : s.pending i = none)
      (h : r.prepare tables s.store = .ok p) :
      Step tables s (.gate i r) { s with pending := Function.update s.pending i (some (r, p)) }
  | write {s : TillRun} {i : ℕ} {r : Revision} {p : Prepared} {store : TillStore} {dto : CartDto}
      (hi : s.pending i = some (r, p)) (h : r.write p s.store = .ok store)
      (hanswer : r.answer tables p store = .ok dto) :
      Step tables s (.write i)
        { store := store
          pending := Function.update s.pending i none
          acknowledged := s.acknowledged ++ [r] }
  | unpriced {s : TillRun} {i : ℕ} {r : Revision} {p : Prepared} {store : TillStore} {e : Refusal}
      (hi : s.pending i = some (r, p)) (h : r.write p s.store = .ok store)
      (hanswer : r.answer tables p store = .error e) :
      Step tables s (.write i)
        { s with
          store := store
          pending := Function.update s.pending i none }
  | refused {s : TillRun} {i : ℕ} (hi : s.pending i ≠ none) :
      Step tables s (.refused i) { s with pending := Function.update s.pending i none }

/-- The revisions one by one, each with nothing between its two steps, all of them acknowledged. -/
def serial (tables : ProductTables) : TillStore → List Revision → Except Refusal TillStore
  | store, [] => .ok store
  | store, r :: rs => do
    let issued := issue tables r.m r.command r.target store
    let _ ← issued.2
    serial tables issued.1 rs

/-- The figures of a line. -/
def TillStore.figures (store : TillStore) (line : Uuid) : Option LineFigures :=
  (store.lines.find? line).map CartLine.figures

/-- A pair after the revisions of a line, each changing the column it names and leaving the
    other. -/
def revised (line : Uuid) (rs : List Revision) (pair : ℤ × ℤ) : ℤ × ℤ :=
  (rs.filter fun r => r.cartLineId = line).foldl (fun f r => r.change.onPair f) pair

/-- No acknowledged revision of a line is lost. -/
structure Serializable (tables : ProductTables) (store : TillStore) (s : TillRun) (line : Uuid) :
    Prop where
  /-- The figures are those that some serial order of the acknowledged revisions leaves. -/
  ordered : ∃ order, order.Perm s.acknowledged ∧
    ∃ after, serial tables store order = .ok after ∧ after.figures line = s.store.figures line
  /-- No acknowledged figure is undone by a revision that did not name it: the figures are the
      first ones, changed by the acknowledged revisions in the order of their commits. -/
  kept : (s.store.figures line).map LineFigures.pair =
    (store.figures line).map fun f => revised line s.acknowledged f.pair

/-- The write states, for the column its revision does not name, what the line holds. -/
def Restates (s : TillRun) : Event → Prop
  | .write i => ∀ r p, s.pending i = some (r, p) → ∀ l, s.store.lines.find? r.cartLineId = some l →
      r.restated p.gate = some (r.unnamed l.figures)
  | _ => True

/-- The basket of the write's session prices, with the pair the write states on its line. -/
def Prices (tables : ProductTables) (s : TillRun) : Event → Prop
  | .write i => ∀ r p f, s.pending i = some (r, p) → r.stated p.gate = some (LineFigures.pair f) →
      ∃ cart, priceCart (projection tables (s.store.write (.revise r.cartLineId f)) r.tillSessionId)
        (p.gate.sessionCurrency.getD "") = .ok cart
  | _ => True

/-! ## 5. What a gate's answer still says -/

section Gate

variable {tables : ProductTables} {store : TillStore}

theorem gateLine_eq_some {t : CartCommandTarget} {l : CartLine} :
    gateLine store t = some l ↔
      l ∈ store.lines.rows ∧ some l.id = t.cartLineId ∧ l.tillSessionId = t.tillSessionId := by
  unfold gateLine
  constructor
  · intro h
    exact ⟨List.mem_of_find?_eq_some h, by simpa using List.find?_some h⟩
  · intro h
    cases hf : store.lines.rows.find?
        fun l => decide (some l.id = t.cartLineId ∧ l.tillSessionId = t.tillSessionId) with
    | none => exact absurd (by simpa using h.2) (List.find?_eq_none.mp hf l h.1)
    | some k =>
        have hk : some k.id = t.cartLineId ∧ k.tillSessionId = t.tillSessionId := by
          simpa using List.find?_some hf
        rw [CartTable.eq_of_id (List.mem_of_find?_eq_some hf) h.1
          (Option.some.inj (hk.1.trans h.2.1.symm))]

/-- What the reading of a revision's gate still says of the store, whatever has been written
    since. -/
structure Answered (store : TillStore) (r : Revision) (p : Prepared) : Prop where
  row : ∃ l ∈ store.lines.rows, l.id = r.cartLineId ∧ l.tillSessionId = r.tillSessionId ∧
    p.gate.lineNo = some l.lineNo ∧ p.gate.productId = some l.productId ∧
    p.gate.variantId = some l.variantId
  currency : p.gate.sessionCurrency =
    (store.sessions r.tillSessionId).map TillSession.currencyCode
  permitted : ¬ (r.command = .requestDiscount ∧ r.m.salesDiscount = false)
  inScope : ∀ s, store.sessions r.tillSessionId = some s → r.m.inScope s.warehouseId = true
  minted : mintSetLine r.m (r.params p.gate) = .ok p.assertion

theorem Revision.command_ne (r : Revision) : r.command ≠ .removeLine ∧ r.command ≠ .addLine := by
  unfold Revision.command
  split <;> decide

theorem mintSetLine_actor {m : Membership} {p : SetLineParams} {a : Assertion}
    (h : mintSetLine m p = .ok a) : a.actor = m.userId := by
  simp only [mintSetLine, mint, bind_eq_ok] at h
  obtain ⟨fields, _, h⟩ := h
  split at h
  · cases h
    rfl
  · cases h

/-- What a revision's gate must answer. -/
theorem gateRefusals_revision {r : Revision} {g : GateRow} :
    gateRefusals r.m r.command g = .ok () ↔
      g.sessionVisible = true ∧ g.sessionOpen = true ∧ g.sessionUsable = true ∧
        g.linePresent = true ∧ g.lineRemoved = false ∧
        ∃ w, g.warehouseId = some w ∧ r.m.inScope w = true := by
  have hne := r.command_ne
  unfold gateRefusals
  simp only [bind_eq_ok, refuseIf_eq_ok, exists_const, hne.1, hne.2, ne_eq, not_false_eq_true,
    true_and, false_and, not_or, Bool.not_eq_false, Bool.not_eq_true, and_assoc]
  cases g.warehouseId with
  | none => simp
  | some w => simp

/-- A gate that refuses nothing found the session open and its owner's, and the line live. -/
theorem gateRefusals_eq_ok {r : Revision} :
    gateRefusals r.m r.command (gate tables store r.target) = .ok () ↔
      ∃ s, store.sessions r.tillSessionId = some s ∧ s.status = .open_ ∧ s.openedBy = r.m.userId ∧
        r.m.inScope s.warehouseId = true ∧
        ∃ l, gateLine store r.target = some l ∧ l.removed = false := by
  rw [gateRefusals_revision]
  have ht : r.target.tillSessionId = r.tillSessionId := rfl
  have ha : r.target.actorUserId = r.m.userId := rfl
  simp only [gate, ht, ha]
  cases store.sessions r.tillSessionId with
  | none => simp
  | some s =>
      cases gateLine store r.target with
      | none => simp
      | some l =>
          simp
          tauto

theorem Answered.of_prepare {r : Revision} {p : Prepared} (h : r.prepare tables store = .ok p) :
    Answered store r p := by
  rw [r.prepare_eq] at h
  simp only [bind_eq_ok, refuseIf_eq_ok, exists_const, pure_eq_ok] at h
  obtain ⟨hperm, _, hgate, a, hmint, rfl⟩ := h
  obtain ⟨s, hs, _, _, hscope, l, hl, _⟩ := gateRefusals_eq_ok.mp hgate
  obtain ⟨hmem, hid, hsess⟩ := gateLine_eq_some.mp hl
  refine ⟨⟨l, hmem, Option.some.inj hid, hsess, ?_, ?_, ?_⟩, rfl, hperm, ?_, hmint⟩
  · simp [gate, hl]
  · simp [gate, hl]
  · simp [gate, hl]
  · intro s' hs'
    rw [hs] at hs'
    cases hs'
    exact hscope

/-- **Writes to the cart leave what a gate's answer says.** -/
theorem Answered.write {r : Revision} {p : Prepared} (h : Answered store r p) (w : CartWrite) :
    Answered (store.write w) r p := by
  obtain ⟨l, hl, hid, hs, hn, hp, hv⟩ := h.row
  refine ⟨?_, h.currency, h.permitted, h.inScope, h.minted⟩
  obtain ⟨k, hk, hident, _⟩ := CartTable.exists_mem_write (w := w) hl
  simp only [CartLine.identity, Prod.mk.injEq] at hident
  obtain ⟨h1, h2, h3, h4, h5, _⟩ := hident
  exact ⟨k, hk, h1.trans hid, h2.trans hs, by rw [hn, h3], by rw [hp, h4], by rw [hv, h5]⟩

end Gate

/-! ## 6. A write as a serial command -/

section Write

variable {tables : ProductTables} {store after : TillStore} {r : Revision} {p : Prepared}

/-- **An accepted write** revises the live line of the revision, in an open session of its actor,
    to the pair it states. -/
theorem Revision.write_eq_ok (ha : Answered store r p) (h : r.write p store = .ok after) :
    ∃ s l f, store.sessions r.tillSessionId = some s ∧ s.status = .open_ ∧
      s.openedBy = r.m.userId ∧ l ∈ store.lines.rows ∧ l.id = r.cartLineId ∧
      l.tillSessionId = r.tillSessionId ∧ l.removed = false ∧
      p.gate.lineNo = some l.lineNo ∧ p.gate.productId = some l.productId ∧
      p.gate.variantId = some l.variantId ∧ r.stated p.gate = some f.pair ∧
      after = store.write (.revise r.cartLineId f) := by
  rw [r.write_eq] at h
  simp only [posCartSetLine, bind_eq_ok, pure_eq_ok] at h
  obtain ⟨actor, hactor, a, hargs, _, hsession, _, _, w, hw, rfl⟩ := h
  have hact : actor = r.m.userId :=
    (inventoryAssertionConsume_eq_ok.mp hactor).2.symm.trans (mintSetLine_actor ha.minted)
  subst hact
  have hp := (r.params_eq p.gate).symm.trans (setLineArguments_eq_ok hargs)
  simp only [SetLineParams.mk.injEq] at hp
  obtain ⟨hps, hpl, hpn, hpp, hpv, hpq, hpd⟩ := hp
  obtain ⟨s, hs, howner, hopen⟩ := setLineSession_eq_ok.mp hsession
  obtain ⟨f, hf, hcase⟩ := setLineWrite_eq_ok hw
  obtain ⟨hfq, hfd⟩ := setLineFigures_eq_ok hf
  have hs' : a.sessionId = r.tillSessionId := (Option.some.inj hps).symm
  have hl' : a.lineId = r.cartLineId := (Option.some.inj hpl).symm
  rw [hs'] at hs
  rcases hcase with ⟨rfl, old, hold, hlive, hident⟩ | ⟨rfl, hfree⟩
  · simp only [CartLine.identity, Prod.mk.injEq] at hident
    obtain ⟨hid, hsess, hno, hprod, hvar, _⟩ := hident
    refine ⟨s, old, f, hs, hopen, howner, hold, hid.trans hl', hsess.trans hs', hlive, ?_, ?_, ?_,
      ?_, ?_⟩
    · rw [hpn, hno]
    · rw [hpp, hprod]
    · rw [hpv, hvar]
    · unfold Revision.stated LineFigures.pair
      rw [hfq, hfd]
      cases hc : r.change with
      | quantity q =>
          simp only [hc] at hpq hpd ⊢
          rw [hpd, Option.some.inj hpq, Option.map_some]
      | discount d =>
          simp only [hc] at hpq hpd ⊢
          rw [hpq, Option.some.inj hpd, Option.map_some]
    · rw [hl']
  · -- The id of a gated line is never free.
    obtain ⟨l, hl, hid, _⟩ := ha.row
    exact absurd (hid.trans hl'.symm) (CartTable.find?_eq_none.mp hfree l hl)

theorem figures_revise_self {id : Uuid} {f : LineFigures} {l : CartLine}
    (hl : l ∈ store.lines.rows) (hid : l.id = id) :
    (store.write (.revise id f)).figures id = some f := by
  have hrow : (store.lines.write (.revise id f)).find? id = some { l with figures := f } := by
    refine CartTable.find?_eq_some.mpr ⟨CartTable.mem_write.mpr (.inl ⟨l, hl, ?_⟩), hid⟩
    simp only [CartWrite.onRow]
    exact if_pos hid
  unfold TillStore.figures
  rw [TillStore.lines_write, hrow]
  rfl

/-- A revision leaves the figures of every other line. -/
theorem figures_revise_of_ne {id line : Uuid} (f : LineFigures) (h : line ≠ id) :
    (store.write (.revise id f)).figures line = store.figures line := by
  have hfind : (store.lines.write (.revise id f)).find? line = store.lines.find? line := by
    refine Option.ext fun m => ?_
    rw [CartTable.find?_eq_some, CartTable.find?_eq_some]
    refine and_congr_left fun hm => ?_
    exact CartTable.mem_write_of_ne (hm.symm ▸ h)
  unfold TillStore.figures
  rw [TillStore.lines_write, hfind]

/-- **After a write, the column it does not name holds what its gate had read.** -/
theorem Revision.unnamed_after_write (ha : Answered store r p) (h : r.write p store = .ok after) :
    (after.figures r.cartLineId).map r.unnamed = r.restated p.gate := by
  obtain ⟨_, k, f, _, _, _, hk, hid, _, _, _, _, _, hst, rfl⟩ := r.write_eq_ok ha h
  rw [figures_revise_self hk hid, Option.map_some]
  unfold Revision.stated at hst
  unfold Revision.unnamed
  cases hc : r.change with
  | quantity q =>
      rw [hc] at hst
      obtain ⟨d, hd, he⟩ := Option.map_eq_some_iff.mp hst
      rw [hd]
      exact congrArg some (congrArg Prod.snd he).symm
  | discount d =>
      rw [hc] at hst
      obtain ⟨q, hq, he⟩ := Option.map_eq_some_iff.mp hst
      rw [hq]
      exact congrArg some (congrArg Prod.fst he).symm

/-- A write right after its gate restates what the line holds. -/
theorem Revision.restated_of_prepare (h : r.prepare tables store = .ok p) {l : CartLine}
    (hl : store.lines.find? r.cartLineId = some l) :
    r.restated p.gate = some (r.unnamed l.figures) := by
  rw [r.prepare_eq] at h
  simp only [bind_eq_ok, refuseIf_eq_ok, exists_const, pure_eq_ok] at h
  obtain ⟨_, _, hgate, a, _, rfl⟩ := h
  obtain ⟨_, _, _, _, _, k, hk, _⟩ := gateRefusals_eq_ok.mp hgate
  obtain ⟨hmem, hid, _⟩ := gateLine_eq_some.mp hk
  have hkl : some k = some l := (CartTable.find?_eq_some.mpr ⟨hmem, Option.some.inj hid⟩).symm.trans hl
  cases hkl
  unfold Revision.restated Revision.unnamed
  cases r.change <;> simp [gate, hk]

/-- **A write that restates what the line holds, and is acknowledged, is the command in one
    piece.** -/
theorem Revision.issue_of_restates {dto : CartDto} (ha : Answered store r p)
    (h : r.write p store = .ok after)
    (hre : ∀ l, store.lines.find? r.cartLineId = some l →
      r.restated p.gate = some (r.unnamed l.figures))
    (hanswer : r.answer tables p after = .ok dto) :
    issue tables r.m r.command r.target store = (after, .ok dto) := by
  obtain ⟨s, l, f, hs, hopen, howner, hl, hid, hsess, hlive, hn, hp, hv, _, _⟩ := r.write_eq_ok ha h
  have hgl : gateLine store r.target = some l :=
    gateLine_eq_some.mpr ⟨hl, congrArg some hid, hsess⟩
  have hparams : r.params (gate tables store r.target) = r.params p.gate := by
    have hre' := hre l (CartTable.find?_eq_some.mpr ⟨hl, hid⟩)
    have hnow : r.restated (gate tables store r.target) = r.restated p.gate := by
      rw [hre']
      unfold Revision.restated Revision.unnamed
      cases r.change <;> simp [gate, hgl]
    rw [r.params_eq, r.params_eq, hnow, hn, hp, hv]
    simp [gate, hgl]
  have hgate : gateRefusals r.m r.command (gate tables store r.target) = .ok () :=
    gateRefusals_eq_ok.mpr ⟨s, hs, hopen, howner, ha.inScope s hs, l, hgl, hlive⟩
  have hcurrency : (gate tables store r.target).sessionCurrency = p.gate.sessionCurrency :=
    ha.currency.symm
  refine Revision.issue_eq_ok.mpr ⟨⟨gate tables store r.target, p.assertion⟩, ?_, ?_, ?_⟩
  · rw [r.prepare_eq, refuseIf_of_not ha.permitted, ok_bind, hgate, ok_bind, hparams, ha.minted]
    rfl
  · rw [r.write_eq] at h ⊢
    rw [hparams]
    exact h
  · unfold Revision.answer issueAnswer at hanswer ⊢
    rw [hcurrency]
    exact hanswer

/-- A committed write whose basket prices is acknowledged. -/
theorem Revision.answer_of_prices {cart : PricedCart}
    (h : priceCart (projection tables store r.tillSessionId) (p.gate.sessionCurrency.getD "")
      = .ok cart) : r.answer tables p store = .ok (toDto r.tillSessionId cart) :=
  recompute_eq_ok.mpr ⟨cart, h, rfl⟩

end Write

/-! ## 7. Runs whose writes restate and price -/

section Run

variable {tables : ProductTables} {store : TillStore} {s t : TillRun}

theorem serial_append {a b : TillStore} {c : Except Refusal TillStore} {rs qs : List Revision}
    (h : serial tables a rs = .ok b) (hq : serial tables b qs = c) :
    serial tables a (rs ++ qs) = c := by
  induction rs generalizing a with
  | nil =>
      cases h
      exact hq
  | cons r rs ih =>
      simp only [serial, bind_eq_ok] at h
      obtain ⟨dto, hdto, h⟩ := h
      rw [List.cons_append, serial, hdto, ok_bind]
      exact ih h

theorem revised_append_of_eq {line : Uuid} {rs : List Revision} {r : Revision} {pair : ℤ × ℤ}
    (h : r.cartLineId = line) :
    revised line (rs ++ [r]) pair = r.change.onPair (revised line rs pair) := by
  unfold revised
  rw [List.filter_append, List.filter_cons_of_pos (by simpa using h), List.filter_nil,
    List.foldl_append]
  rfl

theorem revised_append_of_ne {line : Uuid} {rs : List Revision} {r : Revision} {pair : ℤ × ℤ}
    (h : r.cartLineId ≠ line) : revised line (rs ++ [r]) pair = revised line rs pair := by
  unfold revised
  rw [List.filter_append, List.filter_cons_of_neg (by simpa using h), List.filter_nil,
    List.append_nil]

/-- The acknowledged revisions, run serially from the start, leave the store, and each has changed
    the column it names; the pending ones hold answers that still stand. -/
structure Serialized (tables : ProductTables) (store : TillStore) (s : TillRun) : Prop where
  serial_eq : serial tables store s.acknowledged = .ok s.store
  kept : ∀ line, (s.store.figures line).map LineFigures.pair =
    (store.figures line).map fun f => revised line s.acknowledged f.pair
  answered : ∀ i c, s.pending i = some c → Answered s.store c.1 c.2

theorem Serialized.start (tables : ProductTables) (store : TillStore) :
    Serialized tables store (.start store) where
  serial_eq := rfl
  kept _ := rfl
  answered _ _ h := by cases h

/-- An acknowledged write that restates changes the column it names, and nothing else. -/
theorem Serialized.kept_write (hs : Serialized tables store s) {r : Revision} {f : LineFigures}
    {l : CartLine} (hl : l ∈ s.store.lines.rows) (hid : l.id = r.cartLineId)
    (hf : f.pair = r.change.onPair l.figures.pair) (line : Uuid) :
    ((s.store.write (.revise r.cartLineId f)).figures line).map LineFigures.pair =
      (store.figures line).map fun g => revised line (s.acknowledged ++ [r]) g.pair := by
  have hkept := hs.kept line
  by_cases hline : r.cartLineId = line
  · subst hline
    have hheld : s.store.figures r.cartLineId = some l.figures := by
      unfold TillStore.figures
      rw [CartTable.find?_eq_some.mpr ⟨hl, hid⟩]
      rfl
    rw [hheld, Option.map_some] at hkept
    obtain ⟨g, hg, hpair⟩ := Option.map_eq_some_iff.mp hkept.symm
    rw [figures_revise_self hl hid, hg, Option.map_some, Option.map_some,
      revised_append_of_eq rfl, hpair, hf]
  · rw [figures_revise_of_ne f (Ne.symm hline), hkept]
    simp only [revised_append_of_ne hline]

theorem Serialized.step {e : Event} (hs : Serialized tables store s) (h : Step tables s e t)
    (hre : Restates s e) (hpr : Prices tables s e) : Serialized tables store t := by
  cases h with
  | @gate i r p hfree hprep =>
      refine ⟨hs.serial_eq, hs.kept, of_update (fun j c _ hj => hs.answered j c hj) ?_⟩
      intro c hc
      cases hc
      exact .of_prepare hprep
  | @write i r p after dto hi hw hanswer =>
      have ha := hs.answered i (r, p) hi
      have hissue : issue tables r.m r.command r.target s.store = (after, .ok dto) :=
        r.issue_of_restates ha hw (hre r p hi) hanswer
      obtain ⟨_, l, f, _, _, _, hl, hid, _, _, _, _, _, hst, rfl⟩ := r.write_eq_ok ha hw
      have hfind : s.store.lines.find? r.cartLineId = some l :=
        CartTable.find?_eq_some.mpr ⟨hl, hid⟩
      have hpair : f.pair = r.change.onPair l.figures.pair := Option.some.inj
        (hst.symm.trans (Revision.stated_of_restated (hre r p hi l hfind)))
      refine ⟨serial_append hs.serial_eq ?_, hs.kept_write hl hid hpair,
        of_update ?_ fun _ h => by cases h⟩
      · simp only [serial, hissue, ok_bind]
      · intro j c _ hj
        exact (hs.answered j c hj).write _
  | @unpriced i r p after e hi hw hanswer =>
      -- The stated basket prices, so the answer is no refusal.
      obtain ⟨_, l, f, _, _, _, _, _, _, _, _, _, _, hst, rfl⟩ :=
        r.write_eq_ok (hs.answered i (r, p) hi) hw
      obtain ⟨cart, hcart⟩ := hpr r p f hi hst
      rw [r.answer_of_prices hcart] at hanswer
      cases hanswer
  | @refused i hi =>
      exact ⟨hs.serial_eq, hs.kept,
        of_update (fun j c _ hj => hs.answered j c hj) fun _ h => by cases h⟩

/-- **Where every write restates what its line holds and every revised basket prices, no update is
    lost**: in every state reached, the acknowledged revisions in the order of their commits are a
    serial order that leaves the figures of every line. -/
theorem serializable_of_restates_prices {es : List Event}
    (hrun : Run (fun s e t => Step tables s e t ∧ Restates s e ∧ Prices tables s e)
      (.start store) es s) (line : Uuid) : Serializable tables store s line := by
  have h : Serialized tables store s := hrun.invariant
    (fun _ _ _ hs hstep => hs.step hstep.1 hstep.2.1 hstep.2.2) (.start tables store)
  exact ⟨⟨s.acknowledged, .refl _, s.store, h.serial_eq, rfl⟩, h.kept line⟩

/-- **A revision that is committed unpriced and changes a line is lost**: no acknowledged revision
    accounts for what it leaves. -/
theorem not_serializable_unpriced {line : Uuid} {i : ℕ} {r : Revision} {p : Prepared}
    {after : TillStore} {e : Refusal} (hs : Serializable tables store s line)
    (hi : s.pending i = some (r, p)) (h : r.write p s.store = .ok after)
    (hanswer : r.answer tables p after = .error e)
    (hchanged : (after.figures line).map LineFigures.pair ≠
      (s.store.figures line).map LineFigures.pair) :
    ∃ t, Step tables s (.write i) t ∧ ¬ Serializable tables store t line := by
  refine ⟨_, .unpriced hi h hanswer, fun ht => hchanged ?_⟩
  rw [hs.kept]
  exact ht.kept

theorem restates_write {i : ℕ} {r : Revision} {p : Prepared} (hi : s.pending i = some (r, p))
    (h : ∀ l, s.store.lines.find? r.cartLineId = some l →
      r.restated p.gate = some (r.unnamed l.figures)) : Restates s (.write i) := by
  intro r' p' hr
  rw [hi] at hr
  cases hr
  exact h

/-- A write that is acknowledged prices. -/
theorem prices_write {i : ℕ} {r : Revision} {p : Prepared} {after : TillStore} {dto : CartDto}
    (hi : s.pending i = some (r, p)) (ha : Answered s.store r p)
    (h : r.write p s.store = .ok after) (hanswer : r.answer tables p after = .ok dto) :
    Prices tables s (.write i) := by
  intro r' p' f hr hst
  rw [hi] at hr
  cases hr
  obtain ⟨_, _, g, _, _, _, _, _, _, _, _, _, _, hst', rfl⟩ := r.write_eq_ok ha h
  have hfg : f = g := LineFigures.ext_pair (Option.some.inj (hst.symm.trans hst'))
  obtain ⟨cart, hcart, _⟩ := recompute_eq_ok.mp hanswer
  exact ⟨cart, hfg ▸ hcart⟩

/-- Of two revisions that name one column, gated together, the second still restates what the line
    holds after the first. -/
theorem Revision.restates_after {r q : Revision} {p p' : Prepared} {after : TillStore}
    (hline : r.cartLineId = q.cartLineId) (hcolumn : r.unnamed = q.unnamed)
    (hp : r.prepare tables store = .ok p) (hq : q.prepare tables store = .ok p')
    (hw : r.write p store = .ok after) {l : CartLine}
    (hl : after.lines.find? q.cartLineId = some l) :
    q.restated p'.gate = some (q.unnamed l.figures) := by
  have ha : Answered store r p := .of_prepare hp
  obtain ⟨k, hk, hid, _⟩ := ha.row
  have hfind : store.lines.find? r.cartLineId = some k := CartTable.find?_eq_some.mpr ⟨hk, hid⟩
  have hheld := r.unnamed_after_write ha hw
  rw [r.restated_of_prepare hp hfind] at hheld
  unfold TillStore.figures at hheld
  rw [hline, hl, Option.map_some, Option.map_some] at hheld
  rw [q.restated_of_prepare hq (hline ▸ hfind), ← hcolumn, Option.some.inj hheld]

/-- **Two revisions of one column, gated together**, are written one after the other in a run whose
    writes restate and price, as far as they are acknowledged. -/
theorem run_of_column {r q : Revision} {p p' : Prepared} {first second : TillStore}
    {dto dto' : CartDto} (hline : r.cartLineId = q.cartLineId) (hcolumn : r.unnamed = q.unnamed)
    (hp : r.prepare tables store = .ok p) (hq : q.prepare tables store = .ok p')
    (hfirst : r.write p store = .ok first) (hdto : r.answer tables p first = .ok dto)
    (hsecond : q.write p' first = .ok second) (hdto' : q.answer tables p' second = .ok dto') :
    ∃ s, Run (fun s e t => Step tables s e t ∧ Restates s e ∧ Prices tables s e) (.start store)
        [.gate 0 r, .gate 1 q, .write 0, .write 1] s ∧
      s.acknowledged = [r, q] := by
  have ha : Answered store r p := .of_prepare hp
  have ha' : Answered first q p' := by
    obtain ⟨_, _, _, _, _, _, _, _, _, _, _, _, _, _, rfl⟩ := r.write_eq_ok ha hfirst
    exact (Answered.of_prepare hq).write _
  let gated : TillRun := ⟨store, Function.update (fun _ => none) 0 (some (r, p)), []⟩
  let both : TillRun := ⟨store, Function.update gated.pending 1 (some (q, p')), []⟩
  let once : TillRun := ⟨first, Function.update both.pending 0 none, [r]⟩
  have h0 : both.pending 0 = some (r, p) := rfl
  have h1 : once.pending 1 = some (q, p') := rfl
  have hwrite : Step tables both (.write 0) once := .write h0 hfirst hdto
  have hwrite' : Step tables once (.write 1) _ := .write h1 hsecond hdto'
  have hre : Restates both (.write 0) := restates_write h0 fun _ hl => r.restated_of_prepare hp hl
  have hre' : Restates once (.write 1) :=
    restates_write h1 fun _ hl => Revision.restates_after hline hcolumn hp hq hfirst hl
  exact ⟨_, .cons (t := gated) ⟨.gate rfl hp, trivial, trivial⟩
    (.cons (t := both) ⟨.gate rfl hq, trivial, trivial⟩
      (.cons ⟨hwrite, hre, prices_write h0 ha hfirst hdto⟩
        (.cons ⟨hwrite', hre', prices_write h1 ha' hsecond hdto'⟩ (.nil _)))), rfl⟩

end Run

/-! ## 8. Two devices on one line -/

/-- A line standing in the basket of an open session. -/
def LiveInOpenSession (store : TillStore) (line : Uuid) : Prop :=
  ∃ l ∈ store.lines.rows, l.id = line ∧ l.removed = false ∧
    ∃ s, store.sessions l.tillSessionId = some s ∧ s.status = .open_

/-- No run of revisions on a line, once they are all answered, loses an acknowledged one. -/
def NoLostUpdate (tables : ProductTables) (store : TillStore) (line : Uuid) : Prop :=
  ∀ es s, (∀ i r, Event.gate i r ∈ es → r.cartLineId = line) →
    Run (Step tables) (.start store) es s → (∀ i, s.pending i = none) →
    Serializable tables store s line

/-- One product, of one base variant, at 333 minor units. -/
def sampleTables : ProductTables where
  products := [⟨sampleRow.productId, 333, "SAR", some "tea"⟩]
  variants := [⟨sampleRow.variantId, sampleRow.productId, true, none⟩]
  product_pk := List.nodup_singleton _
  variant_pk := List.nodup_singleton _
  base_unique := by
    intro a ha b hb _ _ _
    rw [List.mem_singleton.mp ha, List.mem_singleton.mp hb]

def sampleLine : CartLine where
  id := .sample 5
  tillSessionId := .sample 6
  lineNo := 1
  productId := sampleRow.productId
  variantId := sampleRow.variantId
  figures := ⟨10000, 0, by decide, by decide, by decide, by decide⟩
  addedBy := .sample 7
  removed := false

/-- One open session with one line: a quantity of one, and no discount. -/
def sampleStore : TillStore where
  sessions := fun id =>
    if id = sampleLine.tillSessionId then
      some ⟨sampleLine.addedBy, .sample 8, "SAR", .open_, none, none⟩
    else none
  lines := ⟨[sampleLine], List.nodup_singleton _⟩

def sampleRevision (change : Change) : Revision where
  m :=
    { userId := sampleLine.addedBy
      tenantId := .sample 9
      businessId := .sample 10
      salesDiscount := true
      inScope := fun _ => true }
  tillSessionId := sampleLine.tillSessionId
  cartLineId := sampleLine.id
  change := change

/-- Two units, on one device. -/
def quantityTwo : Revision := sampleRevision (.quantity 20000)

/-- Three units, on another. -/
def quantityThree : Revision := sampleRevision (.quantity 30000)

/-- Fifty off, on another. -/
def discountFifty : Revision := sampleRevision (.discount 50)

/-- What two revisions read and leave when both are gated before either writes. -/
structure GatedTogether where
  gates : Prepared × Prepared
  stores : TillStore × TillStore
  answers : CartDto × CartDto

/-- Both gates, then both writes with their answers. -/
def gatedThenWritten (r q : Revision) : Except Refusal GatedTogether := do
  let p ← r.prepare sampleTables sampleStore
  let p' ← q.prepare sampleTables sampleStore
  let first ← r.write p sampleStore
  let dto ← r.answer sampleTables p first
  let second ← q.write p' first
  let dto' ← q.answer sampleTables p' second
  pure ⟨(p, p'), (first, second), (dto, dto')⟩

theorem gatedThenWritten_eq_ok {r q : Revision} {g : GatedTogether} :
    gatedThenWritten r q = .ok g ↔
      r.prepare sampleTables sampleStore = .ok g.gates.1 ∧
        q.prepare sampleTables sampleStore = .ok g.gates.2 ∧
        r.write g.gates.1 sampleStore = .ok g.stores.1 ∧
        r.answer sampleTables g.gates.1 g.stores.1 = .ok g.answers.1 ∧
        q.write g.gates.2 g.stores.1 = .ok g.stores.2 ∧
        q.answer sampleTables g.gates.2 g.stores.2 = .ok g.answers.2 := by
  simp only [gatedThenWritten, bind_eq_ok, pure_eq_ok]
  constructor
  · rintro ⟨p, hp, p', hp', first, hf, dto, hd, second, hs, dto', hd', rfl⟩
    exact ⟨hp, hp', hf, hd, hs, hd'⟩
  · rintro ⟨hp, hp', hf, hd, hs, hd'⟩
    exact ⟨_, hp, _, hp', _, hf, _, hd, _, hs, _, hd', rfl⟩

/-- Two quantities, both gated before either is written: each restates the discount that stands,
    and the later one is left. -/
theorem serializable_of_restates_prices_two_devices : ∃ s,
    Run (fun s e t => Step sampleTables s e t ∧ Restates s e ∧ Prices sampleTables s e)
        (.start sampleStore)
        [.gate 0 quantityTwo, .gate 1 quantityThree, .write 0, .write 1] s ∧
      Serializable sampleTables sampleStore s sampleLine.id ∧
      (s.store.figures sampleLine.id).map LineFigures.pair = some (30000, 0) := by
  have hok : (gatedThenWritten quantityTwo quantityThree).toOption.isSome = true := by
    decide +kernel
  cases hrun : gatedThenWritten quantityTwo quantityThree with
  | error e =>
      rw [hrun] at hok
      cases hok
  | ok g =>
      obtain ⟨hp, hq, hfirst, hdto, hsecond, hdto'⟩ := gatedThenWritten_eq_ok.mp hrun
      have hline : quantityTwo.cartLineId = quantityThree.cartLineId := rfl
      have hcolumn : quantityTwo.unnamed = quantityThree.unnamed := rfl
      obtain ⟨s, hsteps, hack⟩ := run_of_column hline hcolumn hp hq hfirst hdto hsecond hdto'
      have hall := serializable_of_restates_prices hsteps sampleLine.id
      refine ⟨s, hsteps, hall, ?_⟩
      rw [hall.kept, hack]
      rfl

/-- The pair a serial order leaves on the sample line, if it is accepted. -/
def leaves (x : Except Refusal TillStore) : Option (ℤ × ℤ) :=
  x.toOption.bind fun store => (store.figures sampleLine.id).map LineFigures.pair

/-- Either serial order leaves two units and fifty off; the run leaves one unit. -/
theorem not_serializable_two_devices :
    ¬ ∀ (tables : ProductTables) (store : TillStore) (line : Uuid), LiveInOpenSession store line →
      NoLostUpdate tables store line := by
  intro h
  have hlost : leaves ((gatedThenWritten quantityTwo discountFifty).map fun g => g.stores.2) =
      some (10000, 50) := by decide +kernel
  have hserial : ∀ order ∈ [[quantityTwo, discountFifty], [discountFifty, quantityTwo]],
      leaves (serial sampleTables sampleStore order) = some (20000, 50) := by decide +kernel
  have hlive : LiveInOpenSession sampleStore sampleLine.id :=
    ⟨sampleLine, List.mem_singleton_self _, rfl, rfl, _, rfl, rfl⟩
  cases hrun : gatedThenWritten quantityTwo discountFifty with
  | error e =>
      rw [hrun] at hlost
      cases hlost
  | ok g =>
      rw [hrun] at hlost
      obtain ⟨hp, hq, hfirst, hdto, hsecond, hdto'⟩ := gatedThenWritten_eq_ok.mp hrun
      have hsteps : Run (Step sampleTables) (.start sampleStore)
          [.gate 0 quantityTwo, .gate 1 discountFifty, .write 0, .write 1] _ :=
        .cons (.gate rfl hp) (.cons (.gate rfl hq)
          (.cons (.write rfl hfirst hdto) (.cons (.write rfl hsecond hdto') (.nil _))))
      obtain ⟨⟨order, hperm, last, hlast, hsame⟩, _⟩ :=
        h sampleTables sampleStore sampleLine.id hlive _ _ (by
          intro i r hr
          simp only [List.mem_cons, Event.gate.injEq, reduceCtorEq, List.not_mem_nil,
            or_false] at hr
          rcases hr with ⟨_, rfl⟩ | ⟨_, rfl⟩ <;> rfl) hsteps (by
          intro i
          by_cases h1 : i = 1
          · rw [h1]
            rfl
          · by_cases h0 : i = 0
            · rw [h0]
              rfl
            · simp [Function.update_of_ne, h0, h1, TillRun.start])
      have horder : order ∈ [[quantityTwo, discountFifty], [discountFifty, quantityTwo]] := by
        have := List.mem_permutations.mpr hperm
        simpa [TillRun.start, List.permutations] using this
      have hfigures := hserial order horder
      have hleft : leaves (.ok last) = leaves (.ok g.stores.2) :=
        congrArg (Option.map LineFigures.pair) hsame
      rw [hlast, hleft] at hfigures
      have hfinal : some ((10000 : ℤ), (50 : ℤ)) = some (20000, 50) := hlost.symm.trans hfigures
      exact absurd hfinal (by decide)

end Daftar.Pos
