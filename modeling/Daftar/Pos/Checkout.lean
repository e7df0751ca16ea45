/-
  File: Daftar/Pos/Checkout.lean
  Subject: Checkouts, cart writes and session closes as transactions that lock rows.

  * `Call` is a call at one of its points, and `exec` its next statement: the locks it takes and
    what it does once they are granted.
  * A checkout binds its basket before its transaction: `readCartSnapshot`, `plan`. Inside it,
    `executeSale`, one removal a line, and `verify`.
  * `pending` is what a call writes when it commits. Until then nobody else sees it.
  * `posCartSetLine_eq`, `posCartRemoveLine_eq` and `posTillSessionClose_eq`: a routine run in one
    piece is its call with nothing between its statements.
-/

import Daftar.Library.LockedTransactions
import Daftar.Pos.CartGate
import Mathlib.Data.List.Sort

namespace Daftar.Pos

open Fallible
open Inventory.Payload
open LockedTransactions

/-! ## 1. Sales -/

/-- What the client states of a checkout: which sale this is, and how it settles. -/
structure PosCheckoutRequest where
  saleId : Uuid
  settlementMode : String
  customerId : Option Uuid
  documentDate : String
  dueDate : Option String
  notes : Option String
  deriving DecidableEq

/-- What the fingerprint of a sale is taken over; the tax is always zero. -/
structure SaleIntent where
  request : PosCheckoutRequest
  warehouseId : Uuid
  lines : List SaleCommitLine
  deriving DecidableEq

/-- A committed sale. Its fingerprint is kept as the intent it is of. -/
structure Sale where
  intent : SaleIntent
  priced : PricedSale
  deriving DecidableEq

def Sale.id (s : Sale) : Uuid := s.intent.request.saleId

structure PosDb where
  till : TillStore
  sales : List Sale

def PosDb.sale? (db : PosDb) (saleId : Uuid) : Option Sale := db.sales.find? fun s => s.id = saleId

/-! ## 2. The snapshot -/

/-- The reading of a live line; its merchant variant is none where the stock key is the base. -/
def snapshotLine (cat : Catalogue) (l : CartLine) : Option CartSnapshotLine :=
  (cat.rows.find? fun v => v.variantId = l.variantId).map fun v =>
    { cartLineId := l.id
      lineNo := l.lineNo
      productId := l.productId
      merchantVariantId := if v.isBase = true then none else some l.variantId
      qtyQ4 := l.figures.quantityQ4
      discountMinor := l.figures.requestedDiscountMinor }

/-- Every live line of a session, in the order of its ordinals. -/
def readCartSnapshot (cat : Catalogue) (till : TillStore) (session : Uuid) :
    List CartSnapshotLine :=
  ((till.lines.rows.filter fun l : CartLine => l.LiveIn session).insertionSort
    fun a b => a.lineNo ≤ b.lineNo).filterMap (snapshotLine cat)

/-! ## 3. The call and its points -/

/-- What a checkout holds from its first read on. -/
structure CheckoutCall where
  m : Membership
  tillSessionId : Uuid
  input : PosCheckoutRequest

/-- A checkout with its bound basket and the sale derived from it. -/
structure Bound where
  call : CheckoutCall
  snapshot : List CartSnapshotLine
  sale : Sale

/-- What a transaction leaves at its commit. -/
structure Pending where
  writes : List CartWrite
  session : Option (Uuid × TillSession)
  sale : Option Sale

def Pending.none : Pending := ⟨[], Option.none, Option.none⟩

/-- The calls, each at the point before one of its statements. A call that is done may commit. -/
inductive Call
  | setLine (actor : Uuid) (a : SetLineArguments)
  | setLineOrdinal (actor : Uuid) (a : SetLineArguments)
  | setLineRow (actor : Uuid) (a : SetLineArguments)
  | removeLine (actor sessionId lineId : Uuid)
  | removeMatched (old : CartLine)
  | close (actor sessionId : Uuid) (intent : List UInt8) (closingCountMinor : ℤ)
  | checkout (call : CheckoutCall)
  | checkoutReplay (call : CheckoutCall) (session : Option TillSession)
  | checkoutSnapshot (call : CheckoutCall) (session : TillSession)
  | checkoutPlan (call : CheckoutCall) (session : TillSession) (snapshot : List CartSnapshotLine)
  | checkoutBegin (b : Bound)
  | checkoutExecute (b : Bound)
  | consume (b : Bound) (written : Option Sale) (removed todo : List CartSnapshotLine)
  | consumeMatched (b : Bound) (written : Option Sale) (removed todo : List CartSnapshotLine)
      (line : CartSnapshotLine) (old : CartLine)
  | verified (b : Bound) (written : Option Sale)
  | done (p : Pending)

/-- Row locks of the session and of a line, and the advisory locks of a checkout and of a sale. The
    modes the calls use conflict with themselves: every lock excludes. -/
inductive Lock
  | session (id : Uuid)
  | line (id : Uuid)
  | checkout (sessionId : Uuid)
  | sale (saleId : Uuid)
  deriving DecidableEq

/-! ## 4. A checkout's statements -/

section Checkout

variable (cat : Catalogue)

/-- The replay proof: whether the sale is already stored with the same intent, over its own lines.
    A sale of another intent, or with a line that is no cart line of this session, is a conflict. -/
def provenReplay (db : PosDb) (call : CheckoutCall) : Except Refusal Bool :=
  match db.sale? call.input.saleId with
  | none => .ok false
  | some stored => do
    refuseIf (call.m.salesDiscount = false ∧ ∃ l ∈ stored.priced.lines, 0 < l.discountMinor)
      (.pos .cartDiscountNotPermitted)
    refuseIf (call.m.inScope stored.intent.warehouseId = false)
      (.inventory .inventoryWarehouseOutOfScope)
    refuseIf (∃ l ∈ stored.priced.lines, ∀ c ∈ db.till.lines.rows,
      ¬ (c.id = l.lineId ∧ c.tillSessionId = call.tillSessionId))
      (.pos .checkoutIdempotencyConflict)
    refuseIf ((⟨call.input, stored.intent.warehouseId, stored.priced.lines.map PricedLine.line⟩ :
      SaleIntent) ≠ stored.intent) (.pos .checkoutIdempotencyConflict)
    pure true

/-- The sale writer's plan for the request derived from the snapshot; none is a replay. Its other
    refusals, over the date, the customer, the stock and the rate, abort the call as any may. -/
def plan (db : PosDb) (call : CheckoutCall) (session : TillSession)
    (snapshot : List CartSnapshotLine) : Except Refusal (Option Sale) := do
  let intent : SaleIntent := ⟨call.input, session.warehouseId, saleLines snapshot⟩
  match db.sale? call.input.saleId with
  | some stored => do
    refuseIf (stored.intent ≠ intent) (.sale .idempotencyConflict)
    pure none
  | none => do
    let priced ← priceCheckout cat snapshot
    pure (some ⟨intent, priced⟩)

/-- `sale_commit` under the lock of the sale's id: what it inserts, or none for a replay. -/
def executeSale (db : PosDb) (sale : Sale) : Except Refusal (Option Sale) :=
  match db.sale? sale.id with
  | some stored => do
    refuseIf (stored.intent ≠ sale.intent) (.sale .idempotencyConflict)
    pure none
  | none => pure (some sale)

/-- The cart lines as a checkout sees them after its own removals. -/
def ownView (db : PosDb) (removed : List CartSnapshotLine) : TillStore :=
  { db.till with
    lines := db.till.lines.writes
      (CartTable.tombstones (removed.map CartSnapshotLine.cartLineId)) }

/-- A row of the session that is live or bound: it is bound, removed, and has the bound figures. -/
def verifyRow (snapshot : List CartSnapshotLine) (row : CartLine) : Except Refusal Unit :=
  match snapshot.find? fun l => l.cartLineId = row.id with
  | none => .error (.pos .checkoutCartStateChanged)
  | some line => do
    refuseIf (row.removed = false) (.pos .checkoutCartStateChanged)
    refuseIf (row.figures.quantityQ4 ≠ line.qtyQ4) (.pos .checkoutCartStateChanged)
    refuseIf (row.figures.requestedDiscountMinor ≠ line.discountMinor)
      (.pos .checkoutCartStateChanged)

/-- The verification, over the whole session. -/
def verify (lines : CartTable) (session : Uuid) (snapshot : List CartSnapshotLine) :
    Except Refusal Unit := do
  let rows := lines.rows.filter fun r =>
    r.tillSessionId = session ∧
      (r.removed = false ∨ r.id ∈ snapshot.map CartSnapshotLine.cartLineId)
  let _ ← rows.mapM (verifyRow snapshot)
  refuseIf (∃ l ∈ snapshot, l.cartLineId ∉ rows.map CartLine.id)
    (.defect "a consumed cart line is no longer readable in its own session")

/-- What a removal inside a checkout does: matched, the guard runs with the row locked; unmatched,
    the snapshot has moved. -/
def consumeStatement (db : PosDb) (b : Bound) (written : Option Sale)
    (removed todo : List CartSnapshotLine) : List Lock × Except Refusal Call :=
  match todo with
  | [] => ([], do
      verify (ownView db removed).lines b.call.tillSessionId b.snapshot
      pure (.verified b written))
  | line :: rest =>
    match removeLineTarget (ownView db removed).lines b.call.m.userId b.call.tillSessionId
        line.cartLineId with
    | none => ([], .error (.pos .checkoutCartStateChanged))
    | some old => ([.line old.id], .ok (.consumeMatched b written removed rest line old))

/-! ## 5. The next statement of a call -/

def exec (db : PosDb) : Call → List Lock × Except Refusal Call
  | .setLine actor a => ([.session a.sessionId], do
      setLineSession db.till actor a
      pure (.setLineOrdinal actor a))
  | .setLineOrdinal actor a => ([], do
      setLineOrdinal db.till a
      pure (.setLineRow actor a))
  | .setLineRow actor a => ([.line a.lineId, .session a.sessionId], do
      let w ← setLineWrite db.till actor a
      pure (.done { Pending.none with writes := [w] }))
  | .removeLine actor sessionId lineId =>
      match removeLineTarget db.till.lines actor sessionId lineId with
      | none => ([], .ok (.done .none))
      | some old => ([.line old.id], .ok (.removeMatched old))
  | .removeMatched old => ([.session old.tillSessionId], do
      let w ← removeLineWrite db.till old
      pure (.done { Pending.none with writes := [w] }))
  | .close actor sessionId intent count => ([.session sessionId], do
      let row ← closeSession db.till actor sessionId intent count
      pure (.done { Pending.none with session := row.map fun s => (sessionId, s) }))
  | .checkout call => ([], do
      let session := db.till.sessions call.tillSessionId
      refuseIf (∃ s, session = some s ∧ s.openedBy ≠ call.m.userId) (.pos .sessionNotOwned)
      pure (.checkoutReplay call session))
  | .checkoutReplay call session => ([], do
      let replayed ← provenReplay db call
      if replayed = true then pure (.done .none)
      else match session with
        | none => .error (.pos .sessionNotFound)
        | some s => do
          refuseIf (s.status ≠ .open_) (.pos .sessionNotOpen)
          pure (.checkoutSnapshot call s))
  | .checkoutSnapshot call session => ([], do
      let snapshot := readCartSnapshot cat db.till call.tillSessionId
      refuseIf (snapshot = []) (.pos .checkoutCartEmpty)
      refuseIf (call.m.salesDiscount = false ∧ ∃ l ∈ snapshot, 0 < l.discountMinor)
        (.pos .cartDiscountNotPermitted)
      pure (.checkoutPlan call session snapshot))
  | .checkoutPlan call session snapshot => ([], do
      let planned ← plan cat db call session snapshot
      match planned with
      | none => pure (.done .none)
      | some sale => do
        refuseIf (call.m.inScope session.warehouseId = false)
          (.inventory .inventoryWarehouseOutOfScope)
        pure (.checkoutBegin ⟨call, snapshot, sale⟩))
  | .checkoutBegin b => ([.checkout b.call.tillSessionId], .ok (.checkoutExecute b))
  | .checkoutExecute b => ([.sale b.sale.id], do
      let written ← executeSale db b.sale
      pure (.consume b written [] b.snapshot))
  | .consume b written removed todo => consumeStatement db b written removed todo
  | .consumeMatched b written removed todo line old => ([.session old.tillSessionId], do
      let _ ← removeLineWrite (ownView db removed) old
      pure (.consume b written (removed ++ [line]) todo))
  | .verified b written => ([], .ok (.verified b written))
  | .done p => ([], .ok (.done p))

end Checkout

/-! ## 6. The system -/

/-- What a call writes when it commits. -/
def Call.pending : Call → Pending
  | .done p => p
  | .verified b written =>
      { writes := CartTable.tombstones (b.snapshot.map CartSnapshotLine.cartLineId)
        session := none
        sale := written }
  | _ => .none

def Call.IsDone : Call → Prop
  | .done _ => True
  | .verified _ _ => True
  | _ => False

def Call.IsStart : Call → Prop
  | .setLine _ _ => True
  | .removeLine _ _ _ => True
  | .close _ _ _ _ => True
  | .checkout _ => True
  | _ => False

/-- The database after a commit. -/
def PosDb.commit (db : PosDb) (p : Pending) : PosDb where
  till :=
    { sessions := match p.session with
        | some (id, s) => Function.update db.till.sessions id (some s)
        | none => db.till.sessions
      lines := db.till.lines.writes p.writes }
  sales := db.sales ++ p.sale.toList

/-- The tills of a business under their locks. -/
def tills (cat : Catalogue) : System PosDb Call Lock Refusal where
  starts := Call.IsStart
  exec := exec cat
  ready := Call.IsDone
  commit db t := db.commit t.pending
  conflicts := Eq
  conflicts_symm := Eq.symm

/-! ## 7. Routines in one piece -/

section Routines

variable (cat : Catalogue) (db : PosDb) (assertion : Assertion)

/-- What a call writes that runs so many statements, nothing else committing in between. -/
def Call.alone (n : ℕ) (t : Call) : Except Refusal Pending := do
  let last ← (tills cat).execs db n t
  pure last.pending

/-- **`pos_cart_set_line`** consumes its assertion, checks its arguments, and is its call. -/
theorem posCartSetLine_eq (p : SetLineParams) : posCartSetLine db.till assertion p = (do
    let actor ← inventoryAssertionConsume assertion .posCartSetLine (setLineFields p)
    let a ← setLineArguments p
    let written ← Call.alone cat db 3 (.setLine actor a)
    pure (db.commit written).till) := by
  unfold posCartSetLine Call.alone
  refine bind_congr fun actor => bind_congr fun a => ?_
  have h3 : (tills cat).execs db 3 (.setLine actor a) = setLineSession db.till actor a >>=
      fun _ => (tills cat).execs db 2 (.setLineOrdinal actor a) := System.execs_of_bind rfl
  have h2 : (tills cat).execs db 2 (.setLineOrdinal actor a) = setLineOrdinal db.till a >>=
      fun _ => (tills cat).execs db 1 (.setLineRow actor a) := System.execs_of_bind rfl
  have h1 : (tills cat).execs db 1 (.setLineRow actor a) = setLineWrite db.till actor a >>=
      fun w => pure (.done { Pending.none with writes := [w] }) := System.execs_of_bind rfl
  rw [h3, h2, h1]
  simp only [bind_assoc, pure_bind]
  rfl

/-- **`pos_cart_remove_line`** counts what its call writes. -/
theorem posCartRemoveLine_eq (sessionId lineId : Uuid) :
    posCartRemoveLine db.till assertion (some sessionId) (some lineId) = (do
      let actor ← inventoryAssertionConsume assertion .posCartRemoveLine
        (removeLineFields (some sessionId) (some lineId))
      let written ← Call.alone cat db 2 (.removeLine actor sessionId lineId)
      pure ((db.commit written).till, written.writes.length)) := by
  unfold posCartRemoveLine Call.alone
  refine bind_congr fun actor => ?_
  cases hold : removeLineTarget db.till.lines actor sessionId lineId with
  | none =>
      have h2 : (tills cat).execs db 2 (.removeLine actor sessionId lineId) =
          (tills cat).execs db 1 (.done .none) := by
        refine System.execs_succ ?_
        simp only [tills, exec, hold]
      simp only [hold, h2]
      rfl
  | some old =>
      have h2 : (tills cat).execs db 2 (.removeLine actor sessionId lineId) =
          (tills cat).execs db 1 (.removeMatched old) := by
        refine System.execs_succ ?_
        simp only [tills, exec, hold]
      have h1 : (tills cat).execs db 1 (.removeMatched old) = removeLineWrite db.till old >>=
          fun w => pure (.done { Pending.none with writes := [w] }) := System.execs_of_bind rfl
      simp only [hold]
      rw [h2, h1]
      simp only [bind_assoc, pure_bind]
      rfl

/-- **`pos_till_session_close`** replays where its call writes no session. -/
theorem posTillSessionClose_eq (sessionId : Uuid) (count : ℤ) :
    posTillSessionClose db.till assertion sessionId (some count) = (do
      let actor ← inventoryAssertionConsume assertion .posSessionClose
        (closeFields sessionId (some count))
      refuseIf (count < 0) (.inventory .inventoryPayloadInvalid)
      let written ← Call.alone cat db 1 (.close actor sessionId assertion.payload count)
      pure ((db.commit written).till, written.session.isNone)) := by
  unfold posTillSessionClose Call.alone
  refine bind_congr fun actor => bind_congr fun _ => ?_
  have h1 : (tills cat).execs db 1 (.close actor sessionId assertion.payload count) =
      closeSession db.till actor sessionId assertion.payload count >>= fun row =>
        pure (.done { Pending.none with session := row.map fun s => (sessionId, s) }) :=
    System.execs_of_bind rfl
  rw [h1]
  simp only [bind_assoc, pure_bind]
  refine bind_congr fun row => ?_
  cases row <;> rfl

end Routines

end Daftar.Pos
