/-
  File: Daftar/Pos/CheckoutOutline.lean
  Subject: What a call may assume of the tills at each of its points.

  * `Frame` is what the commit of another call leaves to a call that holds some locks: the locked
    lines, the rows of the locked sessions, and the identity of every row.
  * `Assumes` is the assumption of a call at its point; `Assumes.frame` says that frames keep it.
  * `outline`: every statement establishes the assumption of the next point.
-/

import Daftar.Pos.Checkout

namespace Daftar.Pos

open Fallible
open Grouping
open LockedTransactions

/-! ## 1. Snapshots -/

section Snapshots

variable {cat : Catalogue} {l m : CartLine} {g : CartSnapshotLine} {lines : CartTable}
  {session : Uuid}

theorem snapshotLine_id (h : snapshotLine cat l = some g) : g.cartLineId = l.id := by
  unfold snapshotLine at h
  obtain ⟨v, _, rfl⟩ := Option.map_eq_some_iff.mp h
  rfl

/-- The identity of a reading is that of the row. -/
theorem identity_snapshotLine (h : l.identity = m.identity) :
    (snapshotLine cat l).map CartSnapshotLine.identity =
      (snapshotLine cat m).map CartSnapshotLine.identity := by
  simp only [CartLine.identity, Prod.mk.injEq] at h
  obtain ⟨h1, _, h3, h4, h5, _⟩ := h
  unfold snapshotLine
  rw [h5]
  cases cat.rows.find? fun v => decide (v.variantId = m.variantId) with
  | none => rfl
  | some v => simp [CartSnapshotLine.identity, h1, h3, h4]

/-- A row of the session has the identity a snapshot line states. -/
def Reads (cat : Catalogue) (session : Uuid) (l : CartLine) (g : CartSnapshotLine) : Prop :=
  l.tillSessionId = session ∧
    (snapshotLine cat l).map CartSnapshotLine.identity = some g.identity

theorem Reads.id (h : Reads cat session l g) : l.id = g.cartLineId := by
  obtain ⟨k, hk, hid⟩ := Option.map_eq_some_iff.mp h.2
  rw [← snapshotLine_id hk]
  exact congrArg Prod.fst hid

theorem Reads.of_identity (h : Reads cat session l g) (he : m.identity = l.identity) :
    Reads cat session m g := by
  refine ⟨?_, (identity_snapshotLine he).trans h.2⟩
  exact (congrArg (fun i => i.2.1) he).trans h.1

/-- A row with the identity and the figures of a snapshot line is read as that line. -/
theorem Reads.snapshotLine_eq (h : Reads cat session l g) (hq : l.figures.quantityQ4 = g.qtyQ4)
    (hd : l.figures.requestedDiscountMinor = g.discountMinor) : snapshotLine cat l = some g := by
  obtain ⟨k, hk, hid⟩ := Option.map_eq_some_iff.mp h.2
  rw [hk]
  unfold snapshotLine at hk
  obtain ⟨v, _, rfl⟩ := Option.map_eq_some_iff.mp hk
  cases g
  simp only [CartSnapshotLine.identity, Prod.mk.injEq] at hid
  obtain ⟨rfl, rfl, rfl, rfl⟩ := hid
  simp only at hq hd
  rw [hq, hd]

/-- A bound snapshot: not empty, one line an id, each of them a row of the session. -/
structure SnapshotOf (cat : Catalogue) (lines : CartTable) (session : Uuid)
    (snapshot : List CartSnapshotLine) : Prop where
  nonempty : snapshot ≠ []
  nodup : (snapshot.map CartSnapshotLine.cartLineId).Nodup
  rows : ∀ g ∈ snapshot, ∃ l ∈ lines.rows, Reads cat session l g

/-- Lines read from rows of one id each have one id each. -/
theorem nodup_filterMap_snapshotLine : ∀ {rows : List CartLine}, (rows.map CartLine.id).Nodup →
    ((rows.filterMap (snapshotLine cat)).map CartSnapshotLine.cartLineId).Nodup
  | [], _ => List.nodup_nil
  | l :: rows, h => by
      rw [List.map_cons, List.nodup_cons] at h
      have ih := nodup_filterMap_snapshotLine h.2
      cases hl : snapshotLine cat l with
      | none => rwa [List.filterMap_cons_none hl]
      | some g =>
          rw [List.filterMap_cons_some hl, List.map_cons, List.nodup_cons]
          refine ⟨?_, ih⟩
          intro hm
          obtain ⟨k, hk, he⟩ := List.mem_map.mp hm
          obtain ⟨r, hr, hrk⟩ := List.mem_filterMap.mp hk
          rw [snapshotLine_id hl, snapshotLine_id hrk] at he
          exact h.1 (he ▸ List.mem_map_of_mem hr)

theorem mem_readCartSnapshot {till : TillStore} : g ∈ readCartSnapshot cat till session ↔
    ∃ l ∈ till.lines.rows, l.LiveIn session ∧ snapshotLine cat l = some g := by
  unfold readCartSnapshot
  simp only [List.mem_filterMap, List.mem_insertionSort, List.mem_filter, decide_eq_true_eq,
    and_assoc]

theorem nodup_readCartSnapshot (till : TillStore) :
    ((readCartSnapshot cat till session).map CartSnapshotLine.cartLineId).Nodup := by
  refine nodup_filterMap_snapshotLine ?_
  have hperm := ((till.lines.rows.filter fun l : CartLine => decide (l.LiveIn session)).perm_insertionSort
    fun a b => a.lineNo ≤ b.lineNo).map CartLine.id
  rw [hperm.nodup_iff]
  exact till.lines.pk.sublist (List.Sublist.map _ List.filter_sublist)

theorem SnapshotOf.read {till : TillStore} (h : readCartSnapshot cat till session ≠ []) :
    SnapshotOf cat till.lines session (readCartSnapshot cat till session) where
  nonempty := h
  nodup := nodup_readCartSnapshot till
  rows g hg := by
    obtain ⟨l, hl, hlive, hread⟩ := mem_readCartSnapshot.mp hg
    exact ⟨l, hl, hlive.1, by rw [hread]; rfl⟩

/-- The first line of a snapshot represents its stock key. -/
theorem head_mem_saleLines {rest : List CartSnapshotLine} :
    ∃ l ∈ saleLines (g :: rest), l.lineId = g.cartLineId := by
  unfold saleLines
  rw [mergeByStockKey_eq, heads, List.map_cons, List.map_cons]
  exact ⟨_, List.mem_cons_self, rfl⟩

/-- A sale line's id is that of a snapshot line. -/
theorem mem_saleLines_id {snapshot : List CartSnapshotLine} {l : SaleCommitLine}
    (h : l ∈ saleLines snapshot) : l.lineId ∈ snapshot.map CartSnapshotLine.cartLineId := by
  unfold saleLines at h
  rw [mergeByStockKey_eq, List.map_map] at h
  obtain ⟨k, hk, rfl⟩ := List.mem_map.mp h
  exact List.mem_map.mpr ⟨k, mem_of_mem_heads hk, rfl⟩

end Snapshots

/-! ## 2. Frames -/

/-- What a commit elsewhere leaves to a call that holds `held`. -/
structure Frame (db db' : PosDb) (held : List Lock) : Prop where
  line : ∀ m : CartLine, .line m.id ∈ held → (m ∈ db'.till.lines.rows ↔ m ∈ db.till.lines.rows)
  rows : ∀ m : CartLine, .session m.tillSessionId ∈ held →
    (m ∈ db'.till.lines.rows ↔ m ∈ db.till.lines.rows)
  session : ∀ id, .session id ∈ held → db'.till.sessions id = db.till.sessions id
  kept : ∀ l ∈ db.till.lines.rows, ∃ m ∈ db'.till.lines.rows,
    m.identity = l.identity ∧ (l.removed = true → m.removed = true)
  sale : ∀ id, .sale id ∈ held → (∀ s ∈ db.sales, s.id ≠ id) → ∀ s ∈ db'.sales, s.id ≠ id

def SessionOpen (db : PosDb) (session : Uuid) : Prop :=
  ∃ s, db.till.sessions session = some s ∧ s.status = .open_

/-- The cart writes of a transaction: on lines of one open session, the lines and the session all
    locked. -/
structure Writes (db : PosDb) (held : List Lock) (session : Uuid) (ws : List CartWrite) : Prop where
  locked : .session session ∈ held
  isOpen : SessionOpen db session
  lines : ∀ w ∈ ws, .line w.id ∈ held
  within : db.till.lines.WritesIn session ws

/-- What a call that may commit holds locks for. -/
structure Covered (db : PosDb) (held : List Lock) (p : Pending) : Prop where
  writes : p.writes = [] ∨ ∃ session, Writes db held session p.writes
  session : ∀ id s, p.session = some (id, s) → .session id ∈ held
  sale : ∀ s, p.sale = some s → .sale s.id ∈ held

section Frames

variable {db db' : PosDb} {held held' : List Lock} {p : Pending} {session : Uuid}

/-- **A covered commit is a frame for every call with compatible locks.** -/
theorem Covered.frame (h : Covered db held' p) (hc : ∀ a ∈ held, ∀ b ∈ held', a ≠ b) :
    Frame db (db.commit p) held where
  line m hm := by
    rcases h.writes with hnil | ⟨s, hw⟩
    · show m ∈ (db.till.lines.writes p.writes).rows ↔ _
      rw [hnil]
      rfl
    · exact CartTable.mem_writes_of_ne fun w hw' he =>
        hc _ hm _ (hw.lines w hw') (by rw [he])
  rows m hm := by
    rcases h.writes with hnil | ⟨s, hw⟩
    · show m ∈ (db.till.lines.writes p.writes).rows ↔ _
      rw [hnil]
      rfl
    · exact hw.within.mem_writes fun he => hc _ hm _ hw.locked (by rw [he])
  session id hid := by
    cases hp : p.session with
    | none => simp only [PosDb.commit, hp]
    | some x =>
        have hne : id ≠ x.1 := fun he => hc _ hid _ (h.session x.1 x.2 hp) (by rw [he])
        simp only [PosDb.commit, hp]
        exact Function.update_of_ne hne _ _
  kept l hl := CartTable.exists_mem_writes p.writes hl
  sale id hid hfresh s hs := by
    rcases List.mem_append.mp hs with hs | hs
    · exact hfresh s hs
    · intro he
      exact hc _ hid _ (h.sale s (Option.mem_toList.mp hs)) (by rw [he])

theorem SessionOpen.frame (h : SessionOpen db session) (f : Frame db db' held)
    (hl : .session session ∈ held) : SessionOpen db' session := by
  obtain ⟨s, hs, ho⟩ := h
  exact ⟨s, (f.session session hl).trans hs, ho⟩

theorem Writes.frame {ws : List CartWrite} (h : Writes db held session ws)
    (f : Frame db db' held) : Writes db' held session ws := by
  refine ⟨h.locked, h.isOpen.frame f h.locked, h.lines, ?_, h.within.inserted⟩
  intro w hw l hl he
  have hlock : .line l.id ∈ held := by
    rw [he]
    exact h.lines w hw
  exact h.within.row w hw l ((f.line l hlock).mp hl) he

theorem SnapshotOf.frame {cat : Catalogue} {snapshot : List CartSnapshotLine}
    (h : SnapshotOf cat db.till.lines session snapshot) (f : Frame db db' held) :
    SnapshotOf cat db'.till.lines session snapshot := by
  refine ⟨h.nonempty, h.nodup, ?_⟩
  intro g hg
  obtain ⟨l, hl, hr⟩ := h.rows g hg
  obtain ⟨m, hm, hid, _⟩ := f.kept l hl
  exact ⟨m, hm, hr.of_identity hid⟩

end Frames

/-! ## 3. The assumptions of a call -/

/-- Every line of a sale is a removed row. -/
def LinesRemoved (db : PosDb) (lines : List SaleCommitLine) : Prop :=
  ∀ l ∈ lines, ∃ r ∈ db.till.lines.rows, r.id = l.lineId ∧ r.removed = true

/-- A bound basket and the sale its plan priced. -/
structure BoundOf (cat : Catalogue) (db : PosDb) (b : Bound) : Prop where
  snapshot : SnapshotOf cat db.till.lines b.call.tillSessionId b.snapshot
  intent : b.sale.intent.lines = saleLines b.snapshot
  priced : b.sale.priced.lines.map PricedLine.line = saleLines b.snapshot

/-- A checkout's transaction between two removals. Where the sale writer replayed, the sale's lines
    are gone, and no removal has succeeded. -/
structure Consuming (cat : Catalogue) (db : PosDb) (held : List Lock) (b : Bound)
    (written : Option Sale) (removed todo : List CartSnapshotLine) : Prop where
  bound : BoundOf cat db b
  split : removed ++ todo = b.snapshot
  live : ∀ g ∈ removed, .line g.cartLineId ∈ held ∧
    ∃ l ∈ db.till.lines.rows, l.id = g.cartLineId ∧ l.LiveIn b.call.tillSessionId
  session : removed ≠ [] →
    .session b.call.tillSessionId ∈ held ∧ SessionOpen db b.call.tillSessionId
  sale : ∀ s, written = some s →
    s = b.sale ∧ .sale s.id ∈ held ∧ ∀ stored ∈ db.sales, stored.id ≠ s.id
  replayed : written = none → removed = [] ∧ LinesRemoved db (saleLines b.snapshot)

/-- A row a removal has matched and locked. -/
structure Matched (db : PosDb) (held : List Lock) (old : CartLine) : Prop where
  locked : .line old.id ∈ held
  mem : old ∈ db.till.lines.rows
  live : old.removed = false

/-- A verified checkout: the live lines of its session are its snapshot, unchanged. -/
structure Verified (cat : Catalogue) (db : PosDb) (held : List Lock) (b : Bound) : Prop where
  bound : BoundOf cat db b
  locked : .session b.call.tillSessionId ∈ held
  isOpen : SessionOpen db b.call.tillSessionId
  lines : ∀ g ∈ b.snapshot, .line g.cartLineId ∈ held
  live : ∀ g ∈ b.snapshot, ∃ l ∈ db.till.lines.rows,
    l.LiveIn b.call.tillSessionId ∧ snapshotLine cat l = some g
  whole : ∀ l ∈ db.till.lines.rows, l.LiveIn b.call.tillSessionId →
    l.id ∈ b.snapshot.map CartSnapshotLine.cartLineId
  sale : .sale b.sale.id ∈ held ∧ ∀ stored ∈ db.sales, stored.id ≠ b.sale.id

/-- None of the sales stored at the start has the id of a bound one: its plan has found none. -/
def FreshOf (start : List Sale) (b : Bound) : Prop := ∀ s ∈ start, s.id ≠ b.sale.id

/-- What a call may assume at its point, with `start` the sales stored at the start. -/
def Assumes (cat : Catalogue) (start : List Sale) (db : PosDb) (t : Call) (held : List Lock) :
    Prop :=
  match t with
  | .removeMatched old => Matched db held old
  | .checkoutPlan call _ snapshot => SnapshotOf cat db.till.lines call.tillSessionId snapshot
  | .checkoutBegin b => BoundOf cat db b ∧ FreshOf start b
  | .checkoutExecute b => BoundOf cat db b ∧ FreshOf start b
  | .consume b written removed todo => Consuming cat db held b written removed todo
  | .consumeMatched b written removed todo line old =>
      Consuming cat db held b written removed (line :: todo) ∧ written ≠ none ∧
        Matched db held old ∧ old.tillSessionId = b.call.tillSessionId ∧ old.id = line.cartLineId
  | .verified b written => written = some b.sale ∧ Verified cat db held b
  | .done p => p.sale = none ∧ Covered db held p
  | _ => True

/-- The sales stored at the start stay, and every other one's lines are removed cart lines. -/
structure SalesConsumed (start : List Sale) (db : PosDb) : Prop where
  kept : ∀ s ∈ start, s ∈ db.sales
  consumed : ∀ s ∈ db.sales, s ∈ start ∨ LinesRemoved db s.intent.lines

theorem SalesConsumed.start (db : PosDb) : SalesConsumed db.sales db :=
  ⟨fun _ h => h, fun _ h => .inl h⟩

section Assumptions

variable {cat : Catalogue} {start : List Sale} {db db' : PosDb} {held : List Lock} {b : Bound}
  {p : Pending}

theorem LinesRemoved.frame {lines : List SaleCommitLine} (h : LinesRemoved db lines)
    (f : Frame db db' held) : LinesRemoved db' lines := by
  intro l hl
  obtain ⟨r, hr, hid, hrem⟩ := h l hl
  obtain ⟨m, hm, hident, hrem'⟩ := f.kept r hr
  exact ⟨m, hm, (congrArg Prod.fst hident).trans hid, hrem' hrem⟩

theorem BoundOf.frame (h : BoundOf cat db b) (f : Frame db db' held) : BoundOf cat db' b :=
  ⟨h.snapshot.frame f, h.intent, h.priced⟩

theorem Matched.frame {old : CartLine} (h : Matched db held old) (f : Frame db db' held) :
    Matched db' held old :=
  ⟨h.locked, (f.line old h.locked).mpr h.mem, h.live⟩

theorem Covered.of_frame (h : Covered db held p) (f : Frame db db' held) : Covered db' held p := by
  refine ⟨?_, h.session, h.sale⟩
  rcases h.writes with hnil | ⟨s, hw⟩
  · exact .inl hnil
  · exact .inr ⟨s, hw.frame f⟩

theorem Consuming.frame {written : Option Sale} {removed todo : List CartSnapshotLine}
    (h : Consuming cat db held b written removed todo) (f : Frame db db' held) :
    Consuming cat db' held b written removed todo := by
  refine ⟨h.bound.frame f, h.split, ?_, ?_, ?_, ?_⟩
  · intro g hg
    obtain ⟨hlock, l, hl, hid, hlive⟩ := h.live g hg
    rw [← hid] at hlock
    exact ⟨hid ▸ hlock, l, (f.line l hlock).mpr hl, hid, hlive⟩
  · intro hne
    obtain ⟨hlock, hopen⟩ := h.session hne
    exact ⟨hlock, hopen.frame f hlock⟩
  · intro s hs
    obtain ⟨he, hlock, hfresh⟩ := h.sale s hs
    exact ⟨he, hlock, f.sale s.id hlock hfresh⟩
  · intro hn
    obtain ⟨hnil, hrem⟩ := h.replayed hn
    exact ⟨hnil, hrem.frame f⟩

theorem Verified.frame (h : Verified cat db held b) (f : Frame db db' held) :
    Verified cat db' held b := by
  refine ⟨h.bound.frame f, h.locked, h.isOpen.frame f h.locked, h.lines, ?_, ?_, h.sale.1,
    f.sale _ h.sale.1 h.sale.2⟩
  · intro g hg
    obtain ⟨l, hl, hlive, hread⟩ := h.live g hg
    have hlock : .session l.tillSessionId ∈ held := by
      rw [hlive.1]
      exact h.locked
    exact ⟨l, (f.rows l hlock).mpr hl, hlive, hread⟩
  · intro l hl hlive
    have hlock : .session l.tillSessionId ∈ held := by
      rw [hlive.1]
      exact h.locked
    exact h.whole l ((f.rows l hlock).mp hl) hlive

/-- **Frames keep what a call assumes.** -/
theorem Assumes.frame {t : Call} (h : Assumes cat start db t held) (f : Frame db db' held) :
    Assumes cat start db' t held := by
  cases t with
  | removeMatched old => exact Matched.frame h f
  | checkoutPlan call session snapshot => exact SnapshotOf.frame h f
  | checkoutBegin b => exact ⟨h.1.frame f, h.2⟩
  | checkoutExecute b => exact ⟨h.1.frame f, h.2⟩
  | consume b written removed todo => exact Consuming.frame h f
  | consumeMatched b written removed todo line old =>
      obtain ⟨hc, hw, hm, hrest⟩ := h
      exact ⟨hc.frame f, hw, hm.frame f, hrest⟩
  | verified b written => exact ⟨h.1, h.2.frame f⟩
  | done p => exact ⟨h.1, h.2.of_frame f⟩
  | _ => exact h

/-- The tombstones of a verified checkout are covered by its locks. -/
theorem Verified.writes (h : Verified cat db held b) :
    Writes db held b.call.tillSessionId
      (CartTable.tombstones (b.snapshot.map CartSnapshotLine.cartLineId)) := by
  have hmem : ∀ w ∈ CartTable.tombstones (b.snapshot.map CartSnapshotLine.cartLineId),
      ∃ g ∈ b.snapshot, w = .tombstone g.cartLineId := by
    intro w hw
    obtain ⟨id, hid, rfl⟩ := List.mem_map.mp hw
    obtain ⟨g, hg, rfl⟩ := List.mem_map.mp hid
    exact ⟨g, hg, rfl⟩
  refine ⟨h.locked, h.isOpen, ?_, ?_, ?_⟩
  · intro w hw
    obtain ⟨g, hg, rfl⟩ := hmem w hw
    exact h.lines g hg
  · intro w hw l hl hid
    obtain ⟨g, hg, rfl⟩ := hmem w hw
    obtain ⟨k, hk, hlive, hread⟩ := h.live g hg
    have hkl : k.id = l.id := (snapshotLine_id hread).symm.trans hid.symm
    rw [← CartTable.eq_of_id hk hl hkl]
    exact hlive.1
  · intro row hrow
    obtain ⟨_, _, he⟩ := hmem _ hrow
    cases he

/-- What the tombstones of a verified checkout leave of the lines its sale has. -/
theorem Verified.linesRemoved {written : Option Sale} (h : Verified cat db held b) :
    LinesRemoved (db.commit (Call.pending (.verified b written))) (saleLines b.snapshot) := by
  intro l hl
  have hid := mem_saleLines_id hl
  obtain ⟨g, hg, he⟩ := List.mem_map.mp hid
  obtain ⟨r, hr, _, hread⟩ := h.live g hg
  have hrid : r.id = l.lineId := (snapshotLine_id hread).symm.trans he
  refine ⟨{ r with removed := true }, ?_, hrid, rfl⟩
  show _ ∈ (db.till.lines.writes _).rows
  rw [Call.pending, CartTable.rows_tombstones]
  exact List.mem_map.mpr ⟨r, hr, if_pos (hrid ▸ hid)⟩

theorem Assumes.covered {t : Call} (h : Assumes cat start db t held) (hd : t.IsDone) :
    Covered db held t.pending := by
  cases t with
  | done p => exact h.2
  | verified b written =>
      obtain ⟨rfl, hv⟩ := h
      refine ⟨.inr ⟨_, hv.writes⟩, ?_, ?_⟩
      · intro id s hs
        cases hs
      · intro s hs
        cases hs
        exact hv.sale.1
  | _ => exact hd.elim

end Assumptions

/-! ## 4. Cart calls -/

section CartCalls

variable {db : PosDb} {held : List Lock}

theorem Covered.none (db : PosDb) (held : List Lock) : Covered db held .none where
  writes := .inl rfl
  session _ _ h := by cases h
  sale _ h := by cases h

theorem Covered.ofWrites (session : Uuid) {ws : List CartWrite} (h : Writes db held session ws) :
    Covered db held { Pending.none with writes := ws } where
  writes := .inr ⟨session, h⟩
  session _ _ h := by cases h
  sale _ h := by cases h

/-- A line is set in the session its call names. -/
theorem covered_setLine {actor : Uuid} {a : SetLineArguments} {w : CartWrite}
    (h : setLineWrite db.till actor a = .ok w) :
    Covered db ([.line a.lineId, .session a.sessionId] ++ held)
      { Pending.none with writes := [w] } := by
  obtain ⟨f, _, hw⟩ := setLineWrite_eq_ok h
  have hid : w.id = a.lineId := by
    rcases hw with ⟨rfl, _⟩ | ⟨rfl, _⟩ <;> rfl
  refine .ofWrites a.sessionId ⟨?_, setLineWrite_open h, ?_, ?_, ?_⟩
  · exact List.mem_append_left _ (List.mem_cons_of_mem _ List.mem_cons_self)
  · intro v hv
    rw [List.mem_singleton.mp hv, hid]
    exact List.mem_append_left _ List.mem_cons_self
  · intro v hv l hl he
    rw [List.mem_singleton.mp hv, hid] at he
    rcases hw with ⟨_, old, hold, _, hident⟩ | ⟨_, hfree⟩
    · have heq : l = old :=
        CartTable.eq_of_id hl hold (he.trans (congrArg Prod.fst hident).symm)
      rw [heq]
      exact congrArg (fun i => i.2.1) hident
    · exact absurd he (CartTable.find?_eq_none.mp hfree l hl)
  · intro row hrow
    rcases hw with ⟨rfl, _⟩ | ⟨rfl, _⟩
    · cases List.mem_singleton.mp hrow
    · cases List.mem_singleton.mp hrow
      rfl

/-- A removal writes in the session of the row it has matched. -/
theorem covered_removeLine {old : CartLine} {w : CartWrite} (hm : Matched db held old)
    (h : removeLineWrite db.till old = .ok w) :
    Covered db ([.session old.tillSessionId] ++ held) { Pending.none with writes := [w] } := by
  obtain ⟨rfl, hopen⟩ := removeLineWrite_eq_ok h
  refine .ofWrites old.tillSessionId ⟨?_, hopen, ?_, ?_, ?_⟩
  · exact List.mem_append_left _ List.mem_cons_self
  · intro v hv
    rw [List.mem_singleton.mp hv]
    exact List.mem_append_right _ hm.locked
  · intro v hv l hl he
    rw [List.mem_singleton.mp hv] at he
    rw [CartTable.eq_of_id hl hm.mem he]
  · intro row hrow
    cases List.mem_singleton.mp hrow

theorem covered_close (sessionId : Uuid) (row : Option TillSession) :
    Covered db ([.session sessionId] ++ held)
      { Pending.none with session := row.map fun s => (sessionId, s) } where
  writes := .inl rfl
  session id s h := by
    obtain ⟨_, _, he⟩ := Option.map_eq_some_iff.mp h
    cases he
    exact List.mem_append_left _ List.mem_cons_self
  sale _ h := by cases h

end CartCalls

/-! ## 5. A checkout's statements -/

section Statements

variable {cat : Catalogue} {start : List Sale} {db : PosDb} {held locks : List Lock} {b : Bound}
  {written : Option Sale} {removed todo : List CartSnapshotLine}

theorem sale?_eq_none {saleId : Uuid} (h : db.sale? saleId = none) :
    ∀ s ∈ db.sales, s.id ≠ saleId := by
  intro s hs
  simpa using List.find?_eq_none.mp h s hs

/-- A planned sale is of the snapshot it was planned from, and its id is no stored sale's. -/
theorem boundOf_plan {call : CheckoutCall} {session : TillSession}
    {snapshot : List CartSnapshotLine} {sale : Sale} (hI : SalesConsumed start db)
    (hs : SnapshotOf cat db.till.lines call.tillSessionId snapshot)
    (h : plan cat db call session snapshot = .ok (some sale)) :
    BoundOf cat db ⟨call, snapshot, sale⟩ ∧ FreshOf start ⟨call, snapshot, sale⟩ := by
  unfold plan at h
  cases hsale : db.sale? call.input.saleId with
  | some stored =>
      rw [hsale] at h
      simp only [bind_eq_ok, refuseIf_eq_ok, exists_const, pure_eq_ok] at h
      cases h.2
  | none =>
      rw [hsale] at h
      simp only [bind_eq_ok, pure_eq_ok, Option.some.injEq] at h
      obtain ⟨priced, hpriced, rfl⟩ := h
      exact ⟨⟨hs, rfl, priceCheckout_lines hpriced⟩,
        fun s hstart => sale?_eq_none hsale s (hI.kept s hstart)⟩

/-- The sale writer inserts a sale whose id is free, or replays one whose lines are gone: one stored
    since the plan, not one of the start. -/
theorem consuming_start (hI : SalesConsumed start db) (hb : BoundOf cat db b)
    (hfresh : FreshOf start b) (h : executeSale db b.sale = .ok written) :
    Consuming cat db ([.sale b.sale.id] ++ held) b written [] b.snapshot := by
  unfold executeSale at h
  refine ⟨hb, rfl, fun g hg => absurd hg List.not_mem_nil, fun hne => absurd rfl hne, ?_, ?_⟩
  · intro s hs
    cases hsale : db.sale? b.sale.id with
    | some stored =>
        rw [hsale] at h
        simp only [bind_eq_ok, refuseIf_eq_ok, exists_const, pure_eq_ok] at h
        obtain ⟨_, rfl⟩ := h
        cases hs
    | none =>
        rw [hsale, pure_eq_ok] at h
        rw [← h] at hs
        cases hs
        exact ⟨rfl, List.mem_append_left _ List.mem_cons_self, sale?_eq_none hsale⟩
  · intro hnone
    refine ⟨rfl, ?_⟩
    cases hsale : db.sale? b.sale.id with
    | some stored =>
        rw [hsale] at h
        simp only [bind_eq_ok, refuseIf_eq_ok, exists_const, not_not] at h
        have hlines : stored.intent.lines = saleLines b.snapshot := by
          rw [h.1, hb.intent]
        rw [← hlines]
        rcases hI.consumed stored (List.mem_of_find?_eq_some hsale) with hstart | hgone
        · exact absurd (by simpa using List.find?_some hsale) (hfresh stored hstart)
        · exact hgone
    | none =>
        rw [hsale, pure_eq_ok, hnone] at h
        cases h

theorem Consuming.mono {held' : List Lock} (h : Consuming cat db held b written removed todo)
    (hsub : held ⊆ held') : Consuming cat db held' b written removed todo := by
  refine ⟨h.bound, h.split, ?_, ?_, ?_, h.replayed⟩
  · intro g hg
    exact ⟨hsub (h.live g hg).1, (h.live g hg).2⟩
  · intro hne
    exact ⟨hsub (h.session hne).1, (h.session hne).2⟩
  · intro s hs
    obtain ⟨he, hlock, hfresh⟩ := h.sale s hs
    exact ⟨he, hsub hlock, hfresh⟩

/-- A row a checkout still sees live is as committed. -/
theorem mem_of_mem_ownView {l : CartLine} (hl : l ∈ (ownView db removed).lines.rows)
    (hlive : l.removed = false) : l ∈ db.till.lines.rows := by
  unfold ownView at hl
  rw [CartTable.rows_tombstones] at hl
  obtain ⟨k, hk, he⟩ := List.mem_map.mp hl
  split at he
  · rw [← he] at hlive
    cases hlive
  · exact he ▸ hk

/-- A row a checkout has not removed is seen as committed. -/
theorem mem_ownView_of_notMem {l : CartLine} (hl : l ∈ db.till.lines.rows)
    (hid : l.id ∉ removed.map CartSnapshotLine.cartLineId) :
    l ∈ (ownView db removed).lines.rows := by
  unfold ownView
  rw [CartTable.rows_tombstones]
  exact List.mem_map.mpr ⟨l, hl, if_neg hid⟩

theorem mem_ownView_of_mem {l : CartLine} (hl : l ∈ db.till.lines.rows)
    (hid : l.id ∈ removed.map CartSnapshotLine.cartLineId) :
    { l with removed := true } ∈ (ownView db removed).lines.rows := by
  unfold ownView
  rw [CartTable.rows_tombstones]
  exact List.mem_map.mpr ⟨l, hl, if_pos hid⟩

/-- **A removal that matches is of a fresh sale**: the lines of a replayed one are gone, its first
    line among them. -/
theorem Consuming.matched {line : CartSnapshotLine} {old : CartLine}
    (h : Consuming cat db held b written removed (line :: todo))
    (hold : removeLineTarget (ownView db removed).lines b.call.m.userId b.call.tillSessionId
      line.cartLineId = some old) :
    Assumes cat start db (.consumeMatched b written removed todo line old)
      ([.line old.id] ++ held) := by
  obtain ⟨hmem, hlive, hid, _⟩ := removeLineTarget_eq_some.mp hold
  have hrow := mem_of_mem_ownView hmem hlive.2
  refine ⟨h.mono (List.subset_append_right _ _), ?_, ⟨?_, hrow, hlive.2⟩, hlive.1, hid⟩
  · intro hnone
    obtain ⟨hnil, hgone⟩ := h.replayed hnone
    have hsplit := h.split
    rw [hnil, List.nil_append] at hsplit
    rw [← hsplit] at hgone
    obtain ⟨l, hl, hlid⟩ : ∃ l ∈ saleLines (line :: todo), l.lineId = line.cartLineId :=
      head_mem_saleLines
    obtain ⟨r, hr, hrid, hrem⟩ := hgone l hl
    have heq : r = old := CartTable.eq_of_id hr hrow (hrid.trans (hlid.trans hid.symm))
    rw [heq, hlive.2] at hrem
    cases hrem
  · exact List.mem_append_left _ List.mem_cons_self

/-- The guard has passed: the line's session is locked and open. -/
theorem Consuming.afterRemoval {line : CartSnapshotLine} {old : CartLine} {w : CartWrite}
    (h : Assumes cat start db (.consumeMatched b written removed todo line old) held)
    (hw : removeLineWrite (ownView db removed) old = .ok w) :
    Consuming cat db ([.session old.tillSessionId] ++ held) b written (removed ++ [line]) todo := by
  obtain ⟨hc, hwritten, hm, hsession, hid⟩ := h
  have hopen := (removeLineWrite_eq_ok hw).2
  have hmono := hc.mono (List.subset_append_right [.session old.tillSessionId] held)
  refine ⟨hmono.bound, ?_, ?_, ?_, hmono.sale, fun hnone => absurd hnone hwritten⟩
  · rw [List.append_assoc]
    exact hc.split
  · intro g hg
    rcases List.mem_append.mp hg with hg | hg
    · exact hmono.live g hg
    · rw [List.mem_singleton.mp hg, ← hid]
      exact ⟨List.mem_append_right _ hm.locked, old, hm.mem, rfl, hsession, hm.live⟩
  · intro _
    rw [hsession] at hopen
    exact ⟨List.mem_append_left _ (by rw [hsession]; exact List.mem_cons_self), hopen⟩

/-- **What a verification accepts**: every row that is live or bound is bound, removed and of the
    bound figures, and every bound line is such a row. -/
theorem verify_eq_ok {lines : CartTable} {session : Uuid} {snapshot : List CartSnapshotLine}
    (h : verify lines session snapshot = .ok ()) :
    (∀ r ∈ lines.rows, r.tillSessionId = session →
      (r.removed = false ∨ r.id ∈ snapshot.map CartSnapshotLine.cartLineId) →
      ∃ g ∈ snapshot, g.cartLineId = r.id ∧ r.removed = true ∧
        r.figures.quantityQ4 = g.qtyQ4 ∧ r.figures.requestedDiscountMinor = g.discountMinor) ∧
    ∀ g ∈ snapshot, ∃ r ∈ lines.rows, r.tillSessionId = session ∧ r.id = g.cartLineId := by
  simp only [verify, bind_eq_ok, refuseIf_eq_ok] at h
  obtain ⟨us, hrows, hall⟩ := h
  constructor
  · intro r hr hs hor
    have hmem : r ∈ lines.rows.filter fun r => decide (r.tillSessionId = session ∧
        (r.removed = false ∨ r.id ∈ snapshot.map CartSnapshotLine.cartLineId)) :=
      List.mem_filter.mpr ⟨hr, decide_eq_true ⟨hs, hor⟩⟩
    obtain ⟨_, hrow⟩ := mapM_accepts hrows hmem
    unfold verifyRow at hrow
    cases hfind : snapshot.find? fun l => decide (l.cartLineId = r.id) with
    | none =>
        rw [hfind] at hrow
        cases hrow
    | some g =>
        rw [hfind] at hrow
        simp only [bind_eq_ok, refuseIf_eq_ok, exists_const, not_not, Bool.not_eq_false] at hrow
        exact ⟨g, List.mem_of_find?_eq_some hfind, by simpa using List.find?_some hfind, hrow⟩
  · intro g hg
    have hin := not_not.mp fun hn => hall ⟨g, hg, hn⟩
    obtain ⟨r, hr, hid⟩ := List.mem_map.mp hin
    obtain ⟨hmem, hcond⟩ := List.mem_filter.mp hr
    exact ⟨r, hmem, (of_decide_eq_true hcond).1, hid⟩

/-- **A verified checkout has removed exactly the live lines of its session**, as its snapshot
    holds them. -/
theorem Consuming.verified (h : Consuming cat db held b written removed [])
    (hv : verify (ownView db removed).lines b.call.tillSessionId b.snapshot = .ok ()) :
    Assumes cat start db (.verified b written) held := by
  have hsplit : removed = b.snapshot := by
    rw [← h.split, List.append_nil]
  have hne : removed ≠ [] := by
    rw [hsplit]
    exact h.bound.snapshot.nonempty
  have hwritten : ∃ s, written = some s := by
    cases hw : written with
    | none => exact absurd (h.replayed hw).1 hne
    | some s => exact ⟨s, rfl⟩
  obtain ⟨s, hs⟩ := hwritten
  obtain ⟨rfl, hsale⟩ := h.sale s hs
  obtain ⟨hrows, _⟩ := verify_eq_ok hv
  refine ⟨hs, h.bound, (h.session hne).1, (h.session hne).2, ?_, ?_, ?_, hsale⟩
  · intro g hg
    rw [← hsplit] at hg
    exact (h.live g hg).1
  · intro g hg
    rw [← hsplit] at hg
    obtain ⟨_, l, hl, hid, hlive⟩ := h.live g hg
    have hin : l.id ∈ removed.map CartSnapshotLine.cartLineId := by
      rw [hid]
      exact List.mem_map_of_mem hg
    obtain ⟨k, hk, hkid, _, hq, hd⟩ :=
      hrows _ (mem_ownView_of_mem hl hin) hlive.1 (.inr (hsplit ▸ hin))
    rw [hsplit] at hg
    have hkg : k = g := List.inj_on_of_nodup_map h.bound.snapshot.nodup hk hg (hkid.trans hid)
    obtain ⟨m, hm, hread⟩ := h.bound.snapshot.rows g hg
    have hml : m = l := CartTable.eq_of_id hm hl (hread.id.trans hid.symm)
    rw [hml] at hread
    rw [hkg] at hq hd
    exact ⟨l, hl, hlive, hread.snapshotLine_eq hq hd⟩
  · intro l hl hlive
    by_contra hout
    rw [← hsplit] at hout
    obtain ⟨_, _, _, hrem, _⟩ :=
      hrows l (mem_ownView_of_notMem hl hout) hlive.1 (.inl hlive.2)
    rw [hlive.2] at hrem
    cases hrem

theorem Consuming.statement {t : Call} (h : Consuming cat db held b written removed todo)
    (hexec : consumeStatement db b written removed todo = (locks, .ok t)) :
    Assumes cat start db t (locks ++ held) := by
  cases todo with
  | nil =>
      simp only [consumeStatement, Prod.mk.injEq, bind_eq_ok, pure_eq_ok] at hexec
      obtain ⟨rfl, _, hv, rfl⟩ := hexec
      exact h.verified hv
  | cons line rest =>
      unfold consumeStatement at hexec
      cases hold : removeLineTarget (ownView db removed).lines b.call.m.userId
          b.call.tillSessionId line.cartLineId with
      | none =>
          simp only [hold] at hexec
          cases hexec
      | some old =>
          simp only [hold] at hexec
          cases hexec
          exact h.matched hold

end Statements

/-! ## 6. The outline -/

section Outline

variable {cat : Catalogue} {start : List Sale} {db : PosDb} {held locks : List Lock} {t t' : Call}

/-- **Every statement establishes the assumption of the next point.** -/
theorem Assumes.statement (hI : SalesConsumed start db) (h : Assumes cat start db t held)
    (hexec : exec cat db t = (locks, .ok t')) : Assumes cat start db t' (locks ++ held) := by
  cases t with
  | setLine actor a =>
      simp only [exec, Prod.mk.injEq, bind_eq_ok, pure_eq_ok] at hexec
      obtain ⟨_, _, _, rfl⟩ := hexec
      trivial
  | setLineOrdinal actor a =>
      simp only [exec, Prod.mk.injEq, bind_eq_ok, pure_eq_ok] at hexec
      obtain ⟨_, _, _, rfl⟩ := hexec
      trivial
  | setLineRow actor a =>
      simp only [exec, Prod.mk.injEq, bind_eq_ok, pure_eq_ok] at hexec
      obtain ⟨rfl, w, hw, rfl⟩ := hexec
      exact ⟨rfl, covered_setLine hw⟩
  | removeLine actor sessionId lineId =>
      cases hold : removeLineTarget db.till.lines actor sessionId lineId with
      | none =>
          simp only [exec, hold, Prod.mk.injEq, Except.ok.injEq] at hexec
          obtain ⟨rfl, rfl⟩ := hexec
          exact ⟨rfl, .none db _⟩
      | some old =>
          simp only [exec, hold, Prod.mk.injEq, Except.ok.injEq] at hexec
          obtain ⟨rfl, rfl⟩ := hexec
          obtain ⟨hmem, hlive, _⟩ := removeLineTarget_eq_some.mp hold
          exact ⟨List.mem_append_left _ List.mem_cons_self, hmem, hlive.2⟩
  | removeMatched old =>
      simp only [exec, Prod.mk.injEq, bind_eq_ok, pure_eq_ok] at hexec
      obtain ⟨rfl, w, hw, rfl⟩ := hexec
      exact ⟨rfl, covered_removeLine h hw⟩
  | close actor sessionId intent count =>
      simp only [exec, Prod.mk.injEq, bind_eq_ok, pure_eq_ok] at hexec
      obtain ⟨rfl, row, _, rfl⟩ := hexec
      exact ⟨rfl, covered_close sessionId row⟩
  | checkout call =>
      simp only [exec, Prod.mk.injEq, bind_eq_ok, pure_eq_ok] at hexec
      obtain ⟨_, _, _, rfl⟩ := hexec
      trivial
  | checkoutReplay call session =>
      simp only [exec, Prod.mk.injEq, bind_eq_ok] at hexec
      obtain ⟨rfl, replayed, _, hexec⟩ := hexec
      cases replayed with
      | true =>
          cases hexec
          exact ⟨rfl, .none db _⟩
      | false =>
          cases session with
          | none => cases hexec
          | some s =>
              simp only [Bool.false_eq_true, if_false, bind_eq_ok, pure_eq_ok] at hexec
              obtain ⟨_, _, rfl⟩ := hexec
              trivial
  | checkoutSnapshot call session =>
      simp only [exec, Prod.mk.injEq, bind_eq_ok, refuseIf_eq_ok, exists_const, pure_eq_ok] at hexec
      obtain ⟨_, hne, _, rfl⟩ := hexec
      exact SnapshotOf.read hne
  | checkoutPlan call session snapshot =>
      simp only [exec, Prod.mk.injEq, bind_eq_ok] at hexec
      obtain ⟨rfl, planned, hplan, hexec⟩ := hexec
      cases planned with
      | none =>
          cases hexec
          exact ⟨rfl, .none db _⟩
      | some sale =>
          simp only [bind_eq_ok, pure_eq_ok] at hexec
          obtain ⟨_, _, rfl⟩ := hexec
          exact boundOf_plan hI h hplan
  | checkoutBegin b =>
      cases hexec
      exact h
  | checkoutExecute b =>
      simp only [exec, Prod.mk.injEq, bind_eq_ok, pure_eq_ok] at hexec
      obtain ⟨rfl, written, hw, rfl⟩ := hexec
      exact consuming_start hI h.1 h.2 hw
  | consume b written removed todo => exact Consuming.statement h hexec
  | consumeMatched b written removed todo line old =>
      simp only [exec, Prod.mk.injEq, bind_eq_ok, pure_eq_ok] at hexec
      obtain ⟨rfl, w, hw, rfl⟩ := hexec
      exact Consuming.afterRemoval h hw
  | verified b written =>
      cases hexec
      exact h
  | done p =>
      cases hexec
      exact h

/-- A commit keeps the stored sales, and the lines of its own are removed. -/
theorem SalesConsumed.commit (hI : SalesConsumed start db) (h : Assumes cat start db t held)
    (hd : t.IsDone) : SalesConsumed start (db.commit t.pending) := by
  have hframe : Frame db (db.commit t.pending) [] :=
    (h.covered hd).frame fun a ha => absurd ha List.not_mem_nil
  refine ⟨fun s hs => List.mem_append_left _ (hI.kept s hs), ?_⟩
  intro s hs
  rcases List.mem_append.mp hs with hs | hs
  · exact (hI.consumed s hs).imp_right fun hgone => hgone.frame hframe
  · cases t with
    | done p =>
        have hnone : p.sale = none := h.1
        have hs' : s ∈ p.sale.toList := hs
        rw [hnone] at hs'
        cases hs'
    | verified b written =>
        obtain ⟨rfl, hv⟩ := h
        have he : b.sale = s := Option.some.inj (Option.mem_toList.mp hs)
        rw [← he, hv.bound.intent]
        exact .inr hv.linesRemoved
    | _ => exact hd.elim

theorem outline (cat : Catalogue) (start : List Sale) :
    (tills cat).Outline (SalesConsumed start) (Assumes cat start) where
  start {db t} _ ht := by
    cases t with
    | setLine actor a => trivial
    | removeLine actor sessionId lineId => trivial
    | close actor sessionId intent count => trivial
    | checkout call => trivial
    | _ => exact ht.elim
  statement hI h hexec := h.statement hI hexec
  stable _ h hu hd hc := h.frame ((hu.covered hd).frame hc)
  commit hI h hd := hI.commit h hd

end Outline

end Daftar.Pos
