/-
  File: Daftar/Pos/CartRoutines.lean
  Subject: The database routines of a till's cart, statement by statement.

  * `cartLineGuard` is the trigger on `pos_cart_lines`.
  * `posCartSetLine`, `posCartRemoveLine` and `posTillSessionClose` are the routines run in one
    piece; the statements they are made of have names of their own, for runs in which other
    transactions come between two statements.
  * Each routine consumes an assertion first: the call it gets must be the one that was signed, and
    its actor is the assertion's.
-/

import Daftar.Pos.TillStore

namespace Daftar.Pos

open Fallible
open Inventory.Payload

/-! ## 1. Assertions -/

/-- A verified assertion: whom it names, and the payload its digest is of. -/
structure Assertion where
  actor : Uuid
  tenant : Uuid
  business : Uuid
  payload : List UInt8
  deriving DecidableEq

/-- Takes the actor of an assertion over exactly these fields. -/
def inventoryAssertionConsume (a : Assertion) (op : InventoryOperationCode)
    (fields : List InventoryPayloadField) : Except Refusal Uuid :=
  match canonicalInventoryPayload op.text a.tenant.text a.business.text fields with
  | .ok payload => do
    refuseIf (payload ≠ a.payload) (.inventory .inventoryAssertionPayloadMismatch)
    pure a.actor
  | .error _ => .error (.inventory .inventoryAssertionPayloadMismatch)

theorem inventoryAssertionConsume_eq_ok {a : Assertion} {op : InventoryOperationCode}
    {fields : List InventoryPayloadField} {actor : Uuid} :
    inventoryAssertionConsume a op fields = .ok actor ↔
      canonicalInventoryPayload op.text a.tenant.text a.business.text fields = .ok a.payload ∧
        a.actor = actor := by
  unfold inventoryAssertionConsume
  cases canonicalInventoryPayload op.text a.tenant.text a.business.text fields with
  | error e => simp
  | ok payload =>
      simp only [bind_eq_ok, refuseIf_eq_ok, exists_const, pure_eq_ok, not_not, Except.ok.injEq]

/-- A nullable argument of a routine, as a payload field. -/
def uuidField (id : Option Uuid) : InventoryPayloadField :=
  match id with
  | some id => .uuid id.text
  | none => .null

def integerField (n : Option ℤ) : InventoryPayloadField :=
  match n with
  | some n => .integer (.bigint n)
  | none => .null

/-! ## 2. The guard -/

/-- The trigger before a row becomes `new`, from `old` if it is an update. -/
def cartLineGuard (store : TillStore) (old : Option CartLine) (new : CartLine) :
    Except Refusal Unit := do
  refuseIf (∃ o, old = some o ∧ new.identity ≠ o.identity) (.pos .cartLineImmutable)
  refuseIf (∃ o, old = some o ∧ o.removed = true) (.pos .cartLineRemoved)
  match store.sessions new.tillSessionId with
  | some s => refuseIf (s.status ≠ .open_) (.pos .sessionNotOpen)
  | none => .error (.pos .sessionNotOpen)

theorem cartLineGuard_open {store : TillStore} {old : Option CartLine} {new : CartLine}
    (h : cartLineGuard store old new = .ok ()) :
    ∃ s, store.sessions new.tillSessionId = some s ∧ s.status = .open_ := by
  simp only [cartLineGuard, bind_eq_ok, refuseIf_eq_ok, exists_const] at h
  obtain ⟨_, _, h⟩ := h
  cases hs : store.sessions new.tillSessionId with
  | none =>
      rw [hs] at h
      cases h
  | some s =>
      rw [hs] at h
      exact ⟨s, rfl, by simpa using h⟩

/-! ## 3. Setting a line -/

/-- The arguments of `pos_cart_set_line`, as they arrive. -/
structure SetLineParams where
  sessionId : Option Uuid
  lineId : Option Uuid
  lineNo : Option ℕ
  productId : Option Uuid
  variantId : Option Uuid
  quantity : Option ℤ
  requestedDiscountMinor : Option ℤ
  deriving DecidableEq

/-- The arguments, none of them null. -/
structure SetLineArguments where
  sessionId : Uuid
  lineId : Uuid
  lineNo : ℕ
  productId : Uuid
  variantId : Uuid
  quantity : ℤ
  requestedDiscountMinor : ℤ
  deriving DecidableEq

/-- What the assertion of a call must have signed. -/
def setLineFields (p : SetLineParams) : List InventoryPayloadField :=
  [ uuidField p.sessionId, uuidField p.lineId, integerField (p.lineNo.map Int.ofNat),
    uuidField p.productId, uuidField p.variantId, integerField p.quantity,
    integerField p.requestedDiscountMinor ]

/-- The identities and the ordinal are stated, the quantity is positive, the discount request is
    not negative. -/
def setLineArguments (p : SetLineParams) : Except Refusal SetLineArguments :=
  match p.sessionId, p.lineId, p.lineNo, p.productId, p.variantId with
  | some sessionId, some lineId, some lineNo, some productId, some variantId => do
    refuseIf (lineNo < 1) (.inventory .inventoryPayloadInvalid)
    match p.quantity, p.requestedDiscountMinor with
    | some quantity, some discount => do
      refuseIf (quantity ≤ 0) (.inventory .inventoryPayloadInvalid)
      refuseIf (discount < 0) (.inventory .inventoryPayloadInvalid)
      pure ⟨sessionId, lineId, lineNo, productId, variantId, quantity, discount⟩
    | _, _ => .error (.inventory .inventoryPayloadInvalid)
  | _, _, _, _, _ => .error (.inventory .inventoryPayloadInvalid)

/-- The session row, locked `FOR NO KEY UPDATE`: it is the actor's and it is open. -/
def setLineSession (store : TillStore) (actor : Uuid) (a : SetLineArguments) :
    Except Refusal Unit :=
  match store.sessions a.sessionId with
  | none => .error (.pos .sessionNotFound)
  | some s => do
    refuseIf (s.openedBy ≠ actor) (.pos .sessionNotOwned)
    refuseIf (s.status ≠ .open_) (.pos .sessionNotOpen)

/-- No other live line stands at the ordinal. -/
def setLineOrdinal (store : TillStore) (a : SetLineArguments) : Except Refusal Unit :=
  refuseIf (∃ l ∈ store.lines.rows, l.LiveIn a.sessionId ∧ l.lineNo = a.lineNo ∧ l.id ≠ a.lineId)
    (.pos .cartLineConflict)

/-- The figures, under the CHECKs of their columns. -/
def setLineFigures (a : SetLineArguments) : Except Refusal LineFigures :=
  if h : 0 < a.quantity ∧ a.quantity < QTY_DOMAIN_Q4 ∧ 0 ≤ a.requestedDiscountMinor ∧
      a.requestedDiscountMinor ≤ VALUE_LIMIT_MINOR then
    .ok ⟨a.quantity, a.requestedDiscountMinor, h.1, h.2.1, h.2.2.1, h.2.2.2⟩
  else if QTY_DOMAIN_Q4 ≤ a.quantity then .error (.database "22003")
  else .error (.database "23514")

/-- The line row, locked `FOR UPDATE`, and the write: a revision of what the id names, or a new
    row. Either way the guard runs. -/
def setLineWrite (store : TillStore) (actor : Uuid) (a : SetLineArguments) :
    Except Refusal CartWrite :=
  match store.lines.find? a.lineId with
  | some old => do
    refuseIf (old.removed = true) (.pos .cartLineRemoved)
    refuseIf (old.tillSessionId ≠ a.sessionId ∨ old.lineNo ≠ a.lineNo ∨
      old.productId ≠ a.productId ∨ old.variantId ≠ a.variantId) (.pos .cartLineConflict)
    refuseIf (old.addedBy ≠ actor) (.pos .sessionNotOwned)
    let figures ← setLineFigures a
    cartLineGuard store (some old) { old with figures := figures }
    pure (.revise a.lineId figures)
  | none => do
    let figures ← setLineFigures a
    let row : CartLine :=
      { id := a.lineId
        tillSessionId := a.sessionId
        lineNo := a.lineNo
        productId := a.productId
        variantId := a.variantId
        figures := figures
        addedBy := actor
        removed := false }
    cartLineGuard store none row
    pure (.insert row)

def posCartSetLine (store : TillStore) (assertion : Assertion) (p : SetLineParams) :
    Except Refusal TillStore := do
  let actor ← inventoryAssertionConsume assertion .posCartSetLine (setLineFields p)
  let a ← setLineArguments p
  setLineSession store actor a
  setLineOrdinal store a
  let w ← setLineWrite store actor a
  pure (store.write w)

/-! ## 4. Removing a line -/

def removeLineFields (sessionId lineId : Option Uuid) : List InventoryPayloadField :=
  [uuidField sessionId, uuidField lineId]

/-- The row the `UPDATE` of a removal matches: a live line of the session that the actor added. -/
def removeLineTarget (lines : CartTable) (actor sessionId lineId : Uuid) : Option CartLine :=
  lines.rows.find? fun l => l.LiveIn sessionId ∧ l.id = lineId ∧ l.addedBy = actor

/-- The tombstone of a matched row, under the guard. -/
def removeLineWrite (store : TillStore) (old : CartLine) : Except Refusal CartWrite := do
  cartLineGuard store (some old) { old with removed := true }
  pure (.tombstone old.id)

/-- The store after a removal, and the row count. -/
def posCartRemoveLine (store : TillStore) (assertion : Assertion) (sessionId lineId : Option Uuid) :
    Except Refusal (TillStore × ℕ) := do
  let actor ← inventoryAssertionConsume assertion .posCartRemoveLine
    (removeLineFields sessionId lineId)
  match sessionId, lineId with
  | some sessionId, some lineId =>
    match removeLineTarget store.lines actor sessionId lineId with
    | some old => do
      let w ← removeLineWrite store old
      pure (store.write w, 1)
    | none => pure (store, 0)
  | _, _ => .error (.inventory .inventoryPayloadInvalid)

/-! ## 5. Closing a session -/

def closeFields (sessionId : Uuid) (closingCountMinor : Option ℤ) : List InventoryPayloadField :=
  [.uuid sessionId.text, integerField closingCountMinor]

/-- The session row, locked `FOR UPDATE`: `none` is a replay of the same close, `some` is the row
    the close writes. -/
def closeSession (store : TillStore) (actor sessionId : Uuid) (intent : List UInt8)
    (closingCountMinor : ℤ) : Except Refusal (Option TillSession) :=
  match store.sessions sessionId with
  | none => .error (.pos .sessionNotFound)
  | some s => do
    refuseIf (s.openedBy ≠ actor) (.pos .sessionNotOwned)
    match s.status with
    | .closed => do
      refuseIf (s.closeIntent ≠ some intent) (.pos .sessionIdempotencyConflict)
      pure none
    | .open_ =>
      pure (some { s with
        status := .closed
        closeIntent := some intent
        closingCountMinor := some closingCountMinor })

/-- The store after a close, and whether it is a replay. -/
def posTillSessionClose (store : TillStore) (assertion : Assertion) (sessionId : Uuid)
    (closingCountMinor : Option ℤ) : Except Refusal (TillStore × Bool) := do
  let actor ← inventoryAssertionConsume assertion .posSessionClose
    (closeFields sessionId closingCountMinor)
  match closingCountMinor with
  | none => .error (.inventory .inventoryPayloadInvalid)
  | some count => do
    refuseIf (count < 0) (.inventory .inventoryPayloadInvalid)
    let written ← closeSession store actor sessionId assertion.payload count
    match written with
    | none => pure (store, true)
    | some s => pure ({ store with sessions := Function.update store.sessions sessionId (some s) }, false)

/-! ## 6. What an accepted call says -/

theorem setLineArguments_eq_ok {p : SetLineParams} {a : SetLineArguments}
    (h : setLineArguments p = .ok a) :
    p = ⟨a.sessionId, a.lineId, a.lineNo, a.productId, a.variantId, a.quantity,
      a.requestedDiscountMinor⟩ := by
  obtain ⟨s, l, n, pr, v, q, d⟩ := p
  unfold setLineArguments at h
  split at h
  · rename_i hs hl hn hp hv
    rw [bind_eq_ok] at h
    obtain ⟨_, _, h⟩ := h
    split at h
    · rename_i hq hd
      simp only [bind_eq_ok, refuseIf_eq_ok, exists_const, pure_eq_ok] at h
      obtain ⟨_, _, rfl⟩ := h
      simp only at hs hl hn hp hv hq hd
      rw [hs, hl, hn, hp, hv, hq, hd]
    · cases h
  · cases h

theorem setLineSession_eq_ok {store : TillStore} {actor : Uuid} {a : SetLineArguments} :
    setLineSession store actor a = .ok () ↔
      ∃ s, store.sessions a.sessionId = some s ∧ s.openedBy = actor ∧ s.status = .open_ := by
  unfold setLineSession
  cases store.sessions a.sessionId with
  | none => simp
  | some s =>
      simp only [bind_eq_ok, refuseIf_eq_ok, exists_const, not_not, Option.some.injEq,
        exists_eq_left']

theorem setLineFigures_eq_ok {a : SetLineArguments} {f : LineFigures} (h : setLineFigures a = .ok f) :
    f.quantityQ4 = a.quantity ∧ f.requestedDiscountMinor = a.requestedDiscountMinor := by
  unfold setLineFigures at h
  split at h
  · cases h
    exact ⟨rfl, rfl⟩
  · split at h <;> cases h

/-- **A line is revised where its id names a live row of the same identity**, and added where its
    id is free. -/
theorem setLineWrite_eq_ok {store : TillStore} {actor : Uuid} {a : SetLineArguments} {w : CartWrite}
    (h : setLineWrite store actor a = .ok w) :
    ∃ f, setLineFigures a = .ok f ∧
      ((w = .revise a.lineId f ∧ ∃ old ∈ store.lines.rows, old.removed = false ∧
          old.identity = (a.lineId, a.sessionId, a.lineNo, a.productId, a.variantId, actor)) ∨
        (w = .insert ⟨a.lineId, a.sessionId, a.lineNo, a.productId, a.variantId, f, actor, false⟩ ∧
          store.lines.find? a.lineId = none)) := by
  unfold setLineWrite at h
  cases hold : store.lines.find? a.lineId with
  | some old =>
      rw [hold] at h
      simp only [bind_eq_ok, refuseIf_eq_ok, exists_const, pure_eq_ok, not_or, not_not] at h
      obtain ⟨hrem, ⟨hs, hn, hp, hv⟩, hby, f, hf, _, _, rfl⟩ := h
      obtain ⟨hmem, hid⟩ := CartTable.find?_eq_some.mp hold
      refine ⟨f, hf, .inl ⟨rfl, old, hmem, by simpa using hrem, ?_⟩⟩
      unfold CartLine.identity
      rw [hid, hs, hn, hp, hv, hby]
  | none =>
      rw [hold] at h
      simp only [bind_eq_ok, pure_eq_ok] at h
      obtain ⟨f, hf, _, _, rfl⟩ := h
      exact ⟨f, hf, .inr ⟨rfl, rfl⟩⟩

/-- A write passes the guard, so its session is open. -/
theorem setLineWrite_open {store : TillStore} {actor : Uuid} {a : SetLineArguments} {w : CartWrite}
    (h : setLineWrite store actor a = .ok w) :
    ∃ s, store.sessions a.sessionId = some s ∧ s.status = .open_ := by
  unfold setLineWrite at h
  cases hold : store.lines.find? a.lineId with
  | some old =>
      rw [hold] at h
      simp only [bind_eq_ok, refuseIf_eq_ok, exists_const, pure_eq_ok, not_or, not_not] at h
      obtain ⟨_, ⟨hs, _⟩, _, f, _, _, hguard, _⟩ := h
      rw [← hs]
      exact cartLineGuard_open hguard
  | none =>
      rw [hold] at h
      simp only [bind_eq_ok, pure_eq_ok] at h
      obtain ⟨f, _, _, hguard, _⟩ := h
      exact cartLineGuard_open hguard

/-- A removal is a tombstone, written while the session is open. -/
theorem removeLineWrite_eq_ok {store : TillStore} {old : CartLine} {w : CartWrite}
    (h : removeLineWrite store old = .ok w) :
    w = .tombstone old.id ∧
      ∃ s, store.sessions old.tillSessionId = some s ∧ s.status = .open_ := by
  simp only [removeLineWrite, bind_eq_ok, pure_eq_ok] at h
  obtain ⟨_, hguard, rfl⟩ := h
  exact ⟨rfl, cartLineGuard_open hguard⟩

/-- A removal matches a live row of the session, added by the actor. -/
theorem removeLineTarget_eq_some {lines : CartTable} {actor sessionId lineId : Uuid}
    {l : CartLine} : removeLineTarget lines actor sessionId lineId = some l ↔
      l ∈ lines.rows ∧ l.LiveIn sessionId ∧ l.id = lineId ∧ l.addedBy = actor := by
  unfold removeLineTarget
  constructor
  · intro h
    exact ⟨List.mem_of_find?_eq_some h, by simpa using List.find?_some h⟩
  · intro h
    cases hf : lines.rows.find?
        fun l => decide (l.LiveIn sessionId ∧ l.id = lineId ∧ l.addedBy = actor) with
    | none => exact absurd (by simpa using h.2) (List.find?_eq_none.mp hf l h.1)
    | some m =>
        have hm : m.LiveIn sessionId ∧ m.id = lineId ∧ m.addedBy = actor := by
          simpa using List.find?_some hf
        rw [CartTable.eq_of_id (List.mem_of_find?_eq_some hf) h.1 (hm.2.1.trans h.2.2.1.symm)]

end Daftar.Pos
