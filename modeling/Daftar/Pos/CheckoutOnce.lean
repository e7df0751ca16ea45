/-
  File: Daftar/Pos/CheckoutOnce.lean
  Subject: A checkout consumes its cart once, whatever runs beside it.

  * `SellsBasket` is what the commit of a checkout does: one sale stored, with one line a stock key
    and the sums of that key, and exactly the live lines of the session tombstoned.
  * `ConsumesOnce` is what holds in a state of the tills, of its steps and of its further runs.
  * `checkout_consumes_once`: it holds in every state a run of the tills reaches.
-/

import Daftar.Pos.CheckoutOutline

namespace Daftar.Pos

open Fallible
open Grouping
open LockedTransactions
open Runs

/-! ## 1. Baskets and their stock keys -/

/-- The live lines of a session. -/
def PosDb.basket (db : PosDb) (session : Uuid) : List CartLine :=
  db.till.lines.rows.filter fun l => l.LiveIn session

/-- The product and the merchant variant a line sells. -/
def CartLine.stock (cat : Catalogue) (l : CartLine) : Option (Uuid × Option Uuid) :=
  (snapshotLine cat l).map fun g => (g.productId, g.merchantVariantId)

def PricedLine.stock (p : PricedLine) : Uuid × Option Uuid := (p.productId, p.merchantVariantId)

/-- The lines of one stock key. -/
def ofStock (cat : Catalogue) (rows : List CartLine) (k : Uuid × Option Uuid) : List CartLine :=
  rows.filter fun l => l.stock cat = some k

/-- The commit of a checkout that has bound `b`. -/
structure SellsBasket (cat : Catalogue) (db db' : PosDb) (b : Bound) : Prop where
  sale : db'.sales = db.sales ++ [b.sale]
  fresh : ∀ s ∈ db.sales, s.id ≠ b.sale.id
  snapshot : ((db.basket b.call.tillSessionId).filterMap (snapshotLine cat)).Perm b.snapshot
  ids : ((db.basket b.call.tillSessionId).map CartLine.id).Perm
    (b.snapshot.map CartSnapshotLine.cartLineId)
  rows : db'.till.lines.rows = db.till.lines.rows.map fun l =>
    if l.LiveIn b.call.tillSessionId then { l with removed := true } else l
  sessions : db'.till.sessions = db.till.sessions
  keys : (b.sale.priced.lines.map PricedLine.stock).Nodup
  sold : ∀ l ∈ db.basket b.call.tillSessionId, ∃ p ∈ b.sale.priced.lines,
    l.stock cat = some p.stock
  quantity : ∀ p ∈ b.sale.priced.lines, p.qtyQ4 =
    ((ofStock cat (db.basket b.call.tillSessionId) p.stock).map fun l => l.figures.quantityQ4).sum
  discount : ∀ p ∈ b.sale.priced.lines, p.discountMinor =
    ((ofStock cat (db.basket b.call.tillSessionId) p.stock).map
      fun l => l.figures.requestedDiscountMinor).sum

/-! ## 2. Sale lines of a snapshot -/

section SaleLines

variable {cat : Catalogue} {snapshot : List CartSnapshotLine}

/-- A sale line has the figures of its stock key. -/
theorem saleLine_figures {l : SaleCommitLine} (h : l ∈ saleLines snapshot) :
    ∃ g ∈ snapshot, l.productId = g.productId ∧ l.variantId = g.merchantVariantId ∧
      l.quantity = ((members stockKey snapshot g).map CartSnapshotLine.qtyQ4).sum ∧
      l.discountMinor = ((members stockKey snapshot g).map CartSnapshotLine.discountMinor).sum := by
  unfold saleLines at h
  rw [mergeByStockKey_eq, List.map_map] at h
  obtain ⟨g, hg, rfl⟩ := List.mem_map.mp h
  exact ⟨g, mem_of_mem_heads hg, rfl, rfl, rfl, rfl⟩

/-- Every line of a snapshot is in the sale line of its key. -/
theorem exists_saleLine {g : CartSnapshotLine} (h : g ∈ snapshot) :
    ∃ l ∈ saleLines snapshot, l.productId = g.productId ∧ l.variantId = g.merchantVariantId := by
  obtain ⟨k, hk, he⟩ : ∃ k ∈ heads stockKey snapshot, stockKey k = stockKey g := exists_head h
  obtain ⟨hp, hv⟩ := stockKey_eq_iff.mp he
  unfold saleLines
  rw [mergeByStockKey_eq, List.map_map]
  exact ⟨_, List.mem_map_of_mem hk, hp, hv⟩

theorem nodup_saleLines_stock :
    ((saleLines snapshot).map fun l => (l.productId, l.variantId)).Nodup := by
  unfold saleLines
  rw [mergeByStockKey_eq, List.map_map, List.map_map]
  have hkeys : ((heads stockKey snapshot).map stockKey).Nodup := nodup_heads_key snapshot
  unfold List.Nodup at hkeys ⊢
  rw [List.pairwise_map] at hkeys ⊢
  refine hkeys.imp fun hne he => hne (stockKey_eq_iff.mpr ?_)
  exact Prod.mk.inj he

end SaleLines

/-! ## 3. The commit of a checkout -/

section Commit

variable {cat : Catalogue} {db : PosDb} {held : List Lock} {b : Bound} {written : Option Sale}

/-- Summed by stock key, readings sum to what the rows they are of do. -/
theorem sum_readings {q : CartSnapshotLine → ℤ} {q' : CartLine → ℤ}
    (hq : ∀ l g, snapshotLine cat l = some g → q g = q' l) (k : CartSnapshotLine) :
    ∀ rows : List CartLine,
      ((members stockKey (rows.filterMap (snapshotLine cat)) k).map q).sum =
        ((ofStock cat rows (k.productId, k.merchantVariantId)).map q').sum
  | [] => rfl
  | l :: rows => by
      have ih := sum_readings hq k rows
      cases hl : snapshotLine cat l with
      | none =>
          have hout : ¬ (l.stock cat = some (k.productId, k.merchantVariantId)) := by
            simp [CartLine.stock, hl]
          rw [List.filterMap_cons_none hl, ih]
          unfold ofStock
          rw [List.filter_cons_of_neg (by simpa using hout)]
      | some g =>
          have hstock : l.stock cat = some (g.productId, g.merchantVariantId) := by
            simp [CartLine.stock, hl]
          rw [List.filterMap_cons_some hl]
          by_cases hk : stockKey g = stockKey k
          · obtain ⟨hp, hv⟩ := stockKey_eq_iff.mp hk
            have hin : l.stock cat = some (k.productId, k.merchantVariantId) := by
              rw [hstock, hp, hv]
            rw [members_cons_of_eq hk, List.map_cons, List.sum_cons, ih, hq l g hl]
            unfold ofStock
            rw [List.filter_cons_of_pos (by simpa using hin), List.map_cons, List.sum_cons]
          · have hout : ¬ (l.stock cat = some (k.productId, k.merchantVariantId)) := by
              intro he
              rw [hstock] at he
              exact hk (stockKey_eq_iff.mpr (Prod.mk.inj (Option.some.inj he)))
            rw [members_cons_of_ne hk, ih]
            unfold ofStock
            rw [List.filter_cons_of_neg (by simpa using hout)]

theorem mem_basket {l : CartLine} {session : Uuid} :
    l ∈ db.basket session ↔ l ∈ db.till.lines.rows ∧ l.LiveIn session := by
  unfold PosDb.basket
  rw [List.mem_filter, decide_eq_true_eq]

theorem nodup_basket_id (session : Uuid) : ((db.basket session).map CartLine.id).Nodup :=
  db.till.lines.pk.sublist (List.Sublist.map _ List.filter_sublist)

/-- A live line of a verified checkout's session is read as a line of its snapshot. -/
theorem Verified.reading (h : Verified cat db held b) {l : CartLine}
    (hl : l ∈ db.basket b.call.tillSessionId) : ∃ g ∈ b.snapshot, snapshotLine cat l = some g := by
  obtain ⟨hmem, hlive⟩ := mem_basket.mp hl
  obtain ⟨g, hg, hid⟩ := List.mem_map.mp (h.whole l hmem hlive)
  obtain ⟨m, hm, _, hread⟩ := h.live g hg
  have he : m = l := CartTable.eq_of_id hm hmem ((snapshotLine_id hread).symm.trans hid)
  exact ⟨g, hg, he ▸ hread⟩

/-- A verified snapshot is the basket. -/
theorem Verified.snapshot_perm (h : Verified cat db held b) :
    ((db.basket b.call.tillSessionId).filterMap (snapshotLine cat)).Perm b.snapshot := by
  have hnodup : (((db.basket b.call.tillSessionId).filterMap (snapshotLine cat)).map
      CartSnapshotLine.cartLineId).Nodup := nodup_filterMap_snapshotLine (nodup_basket_id _)
  refine (List.perm_ext_iff_of_nodup (.of_map _ hnodup) (.of_map _ h.bound.snapshot.nodup)).mpr ?_
  intro g
  rw [List.mem_filterMap]
  constructor
  · intro hg
    obtain ⟨l, hl, hread⟩ := hg
    obtain ⟨k, hk, hread'⟩ := h.reading hl
    rw [hread] at hread'
    cases hread'
    exact hk
  · intro hg
    obtain ⟨l, hl, hlive, hread⟩ := h.live g hg
    exact ⟨l, mem_basket.mpr ⟨hl, hlive⟩, hread⟩

theorem Verified.id_mem_iff (h : Verified cat db held b) {l : CartLine}
    (hl : l ∈ db.till.lines.rows) :
    l.id ∈ b.snapshot.map CartSnapshotLine.cartLineId ↔ l.LiveIn b.call.tillSessionId := by
  constructor
  · intro hid
    obtain ⟨g, hg, he⟩ := List.mem_map.mp hid
    obtain ⟨m, hm, hlive, hread⟩ := h.live g hg
    rw [← CartTable.eq_of_id hm hl ((snapshotLine_id hread).symm.trans he)]
    exact hlive
  · exact h.whole l hl

theorem Verified.ids_perm (h : Verified cat db held b) :
    ((db.basket b.call.tillSessionId).map CartLine.id).Perm
      (b.snapshot.map CartSnapshotLine.cartLineId) := by
  refine (List.perm_ext_iff_of_nodup (nodup_basket_id _) h.bound.snapshot.nodup).mpr ?_
  intro id
  constructor
  · intro hid
    obtain ⟨l, hl, rfl⟩ := List.mem_map.mp hid
    obtain ⟨hmem, hlive⟩ := mem_basket.mp hl
    exact h.whole l hmem hlive
  · intro hid
    obtain ⟨g, hg, rfl⟩ := List.mem_map.mp hid
    obtain ⟨l, hl, hlive, hread⟩ := h.live g hg
    rw [snapshotLine_id hread]
    exact List.mem_map_of_mem (mem_basket.mpr ⟨hl, hlive⟩)

/-- A priced line of a verified checkout has the sums of its stock key. -/
theorem Verified.figures (h : Verified cat db held b) {p : PricedLine}
    (hp : p ∈ b.sale.priced.lines) :
    p.qtyQ4 = ((ofStock cat (db.basket b.call.tillSessionId) p.stock).map
        fun l => l.figures.quantityQ4).sum ∧
      p.discountMinor = ((ofStock cat (db.basket b.call.tillSessionId) p.stock).map
        fun l => l.figures.requestedDiscountMinor).sum := by
  have hmem : p.line ∈ saleLines b.snapshot := by
    rw [← h.bound.priced]
    exact List.mem_map_of_mem hp
  obtain ⟨g, _, hprod, hvar, hqty, hdisc⟩ := saleLine_figures hmem
  have hstock : p.stock = (g.productId, g.merchantVariantId) := Prod.ext hprod hvar
  have hperm : (members stockKey
      ((db.basket b.call.tillSessionId).filterMap (snapshotLine cat)) g).Perm
        (members stockKey b.snapshot g) := h.snapshot_perm.filter _
  have hq : ∀ l k, snapshotLine cat l = some k → k.qtyQ4 = l.figures.quantityQ4 := by
    intro l k hk
    obtain ⟨v, _, rfl⟩ := Option.map_eq_some_iff.mp hk
    rfl
  have hd : ∀ l k, snapshotLine cat l = some k →
      k.discountMinor = l.figures.requestedDiscountMinor := by
    intro l k hk
    obtain ⟨v, _, rfl⟩ := Option.map_eq_some_iff.mp hk
    rfl
  rw [hstock, ← sum_readings hq g, ← sum_readings hd g, (hperm.map _).sum_eq, (hperm.map _).sum_eq]
  exact ⟨hqty, hdisc⟩

/-- **A verified checkout sells its basket.** -/
theorem Verified.sellsBasket (h : Verified cat db held b) :
    SellsBasket cat db (db.commit (Call.pending (.verified b (some b.sale)))) b where
  sale := rfl
  fresh := h.sale.2
  snapshot := h.snapshot_perm
  ids := h.ids_perm
  rows := by
    show (db.till.lines.writes _).rows = _
    rw [Call.pending, CartTable.rows_tombstones]
    apply List.map_congr_left
    intro l hl
    simp only [h.id_mem_iff hl]
  sessions := rfl
  keys := by
    have hmap : b.sale.priced.lines.map PricedLine.stock =
        (saleLines b.snapshot).map fun l => (l.productId, l.variantId) := by
      rw [← h.bound.priced, List.map_map]
      rfl
    rw [hmap]
    exact nodup_saleLines_stock
  sold l hl := by
    obtain ⟨g, hg, hread⟩ := h.reading hl
    obtain ⟨s, hs, hprod, hvar⟩ := exists_saleLine hg
    rw [← h.bound.priced] at hs
    obtain ⟨p, hp, rfl⟩ := List.mem_map.mp hs
    refine ⟨p, hp, ?_⟩
    unfold CartLine.stock
    rw [hread]
    exact congrArg some (Prod.ext hprod hvar).symm
  quantity p hp := (h.figures hp).1
  discount p hp := (h.figures hp).2

end Commit

/-! ## 4. Runs of the tills -/

/-- The tills in some state, and the further runs from it. -/
structure ConsumesOnce (cat : Catalogue) (s : State PosDb Call Lock) : Prop where
  /-- The commit of a checkout sells its basket. -/
  sells : ∀ i b written held u, s.running i = some (.verified b written, held) →
    (tills cat).Step s (.commit i) u → SellsBasket cat s.db u.db b
  /-- No other commit stores a sale. -/
  only : ∀ i t held u, s.running i = some (t, held) → (∀ b written, t ≠ .verified b written) →
    (tills cat).Step s (.commit i) u → u.db.sales = s.db.sales
  /-- A verified checkout leaves no live line of its session out. -/
  whole : ∀ i b written held, s.running i = some (.verified b written, held) →
    ∀ l ∈ s.db.basket b.call.tillSessionId, ∃ g ∈ b.snapshot, snapshotLine cat l = some g
  /-- What does not commit leaves everything as it was. -/
  refused : ∀ e u, (∀ i, e ≠ .commit i) → (tills cat).Step s e u → u.db = s.db
  /-- A commit writes lines of an open session only. -/
  closed : ∀ i u, (tills cat).Step s (.commit i) u → ∀ l : CartLine,
    (l ∈ u.db.till.lines.rows ↔ l ∈ s.db.till.lines.rows) ∨ SessionOpen s.db l.tillSessionId
  /-- A removed line is never live again. -/
  final : ∀ es u, Run (tills cat).Step s es u → ∀ l ∈ s.db.till.lines.rows, l.removed = true →
    ∀ m ∈ u.db.till.lines.rows, m.id = l.id → m.removed = true
  /-- What one checkout consumes, no later one does. -/
  once : ∀ i b written held u es v j b' written' held',
    s.running i = some (.verified b written, held) → (tills cat).Step s (.commit i) u →
    Run (tills cat).Step u es v → v.running j = some (.verified b' written', held') →
    ∀ g ∈ b.snapshot, g.cartLineId ∉ b'.snapshot.map CartSnapshotLine.cartLineId

section Runs

variable {cat : Catalogue} {s u : State PosDb Call Lock} {es : List LockedTransactions.Event}

/-- Rows stay, and removed ones stay removed. -/
theorem removed_of_run (hrun : Run (tills cat).Step s es u) {id : Uuid}
    (h : ∃ l ∈ s.db.till.lines.rows, l.id = id ∧ l.removed = true) :
    ∃ l ∈ u.db.till.lines.rows, l.id = id ∧ l.removed = true := by
  refine hrun.invariant
    (I := fun v => ∃ l ∈ v.db.till.lines.rows, l.id = id ∧ l.removed = true) ?_ h
  intro v e w hv hstep
  cases hstep with
  | start => exact hv
  | statement => exact hv
  | abort => exact hv
  | @commit i t held hi hready =>
      obtain ⟨l, hl, hid, hrem⟩ := hv
      obtain ⟨m, hm, hident, hrem'⟩ := CartTable.exists_mem_writes t.pending.writes hl
      exact ⟨m, hm, (congrArg Prod.fst hident).trans hid, hrem' hrem⟩

variable {start : List Sale} (h : (tills cat).Described (SalesConsumed start) (Assumes cat start) s)
include h

/-- The commit of a checkout is that of a verified one. -/
theorem commit_verified {i : ℕ} {b : Bound} {written : Option Sale} {held : List Lock}
    (hi : s.running i = some (.verified b written, held))
    (hstep : (tills cat).Step s (.commit i) u) :
    Verified cat s.db held b ∧ u.db = s.db.commit (Call.pending (.verified b (some b.sale))) := by
  obtain ⟨t, held', hi', _, hdb⟩ := hstep.commit_inv
  rw [hi] at hi'
  cases hi'
  obtain ⟨rfl, hv⟩ := h.running _ _ _ hi
  exact ⟨hv, hdb⟩

/-- A commit is in one open session. -/
theorem commit_open {i : ℕ} (hstep : (tills cat).Step s (.commit i) u) (l : CartLine) :
    (l ∈ u.db.till.lines.rows ↔ l ∈ s.db.till.lines.rows) ∨ SessionOpen s.db l.tillSessionId := by
  obtain ⟨t, held, hi, hready, hdb⟩ := hstep.commit_inv
  have hcovered := (h.running i t held hi).covered hready
  rw [hdb]
  show (l ∈ (s.db.till.lines.writes t.pending.writes).rows ↔ _) ∨ _
  rcases hcovered.writes with hnil | ⟨session, hw⟩
  · rw [hnil]
    exact .inl Iff.rfl
  · by_cases hs : l.tillSessionId = session
    · rw [hs]
      exact .inr hw.isOpen
    · exact .inl (hw.within.mem_writes hs)

theorem ConsumesOnce.of_described : ConsumesOnce cat s where
  sells i b written held u hi hstep := by
    obtain ⟨hv, hdb⟩ := commit_verified h hi hstep
    rw [hdb]
    exact hv.sellsBasket
  only i t held u hi hne hstep := by
    obtain ⟨t', held', hi', hready, hdb⟩ := hstep.commit_inv
    rw [hi] at hi'
    cases hi'
    rw [hdb]
    cases t with
    | done p =>
        have hnone : p.sale = none := (h.running _ _ _ hi).1
        show s.db.sales ++ p.sale.toList = _
        rw [hnone]
        exact List.append_nil _
    | verified b written => exact absurd rfl (hne b written)
    | _ => exact hready.elim
  whole i b written held hi l hl := by
    obtain ⟨_, hv⟩ := h.running _ _ _ hi
    exact hv.reading hl
  refused e u he hstep := hstep.db_eq he
  closed i u hstep l := commit_open h hstep l
  final es u hrun l hl hrem m hm hid := by
    obtain ⟨k, hk, hkid, hkrem⟩ := removed_of_run hrun ⟨l, hl, rfl, hrem⟩
    rw [← CartTable.eq_of_id hk hm (hkid.trans hid.symm)]
    exact hkrem
  once i b written held u es v j b' written' held' hi hstep hrun hj g hg hin := by
    obtain ⟨hv, hdb⟩ := commit_verified h hi hstep
    have hu : (tills cat).Described (SalesConsumed start) (Assumes cat start) u :=
      (outline cat start).step h hstep
    have hw : (tills cat).Described (SalesConsumed start) (Assumes cat start) v :=
      (outline cat start).sound hrun hu
    obtain ⟨_, hv'⟩ := hw.running _ _ _ hj
    -- The line is removed at the commit, and live when the later checkout is verified.
    obtain ⟨l, hl, hlive, hread⟩ := hv.live g hg
    have hgone : ∃ r ∈ u.db.till.lines.rows, r.id = g.cartLineId ∧ r.removed = true := by
      have hrows := hv.sellsBasket.rows
      rw [← hdb] at hrows
      refine ⟨{ l with removed := true }, ?_, (snapshotLine_id hread).symm, rfl⟩
      rw [hrows]
      exact List.mem_map.mpr ⟨l, hl, if_pos hlive⟩
    obtain ⟨r, hr, hrid, hrem⟩ := removed_of_run hrun hgone
    have hlive' := (hv'.id_mem_iff hr).mp (hrid ▸ hin)
    rw [hlive'.2] at hrem
    cases hrem

end Runs

/-- **A checkout consumes its cart exactly once**, under every interleaving of any number of
    checkouts, cart writes and session closes, whatever sales are stored at the start. -/
theorem checkout_consumes_once {cat : Catalogue} {db : PosDb} {es : List LockedTransactions.Event}
    {s : State PosDb Call Lock} (hrun : Run (tills cat).Step (.idle db) es s) :
    ConsumesOnce cat s :=
  .of_described ((outline cat db.sales).sound hrun (.idle (.start db)))

/-! ## 5. A checkout sent twice -/

/-- A cash sale of the sample session. -/
def sampleCheckout : CheckoutCall where
  m :=
    { userId := sampleLine.addedBy
      tenantId := .sample 9
      businessId := .sample 10
      salesDiscount := true
      inScope := fun _ => true }
  tillSessionId := sampleLine.tillSessionId
  input := ⟨.sample 11, "cash", none, "2026-01-01", none, none⟩

/-- A sale of the same goods that no cart line stands behind. -/
def genericSale : Sale where
  intent :=
    { request := ⟨.sample 12, "cash", none, "2026-01-01", none, none⟩
      warehouseId := .sample 8
      lines := [⟨.sample 13, sampleRow.productId, none, 10000, 0⟩] }
  priced := ⟨"SAR", 333, 0, 333, [⟨.sample 13, sampleRow.productId, none, sampleRow.variantId, "tea",
    10000, 333 * 10 ^ 10, 333, 333, 0, 333⟩]⟩

def sampleSales : PosDb := ⟨sampleStore, [genericSale]⟩

/-- The ids of the lines a finished checkout sells. -/
def Call.sold : Call → Option (List Uuid)
  | .verified _ (some sale) => some (sale.priced.lines.map PricedLine.lineId)
  | _ => none

/-- A checkout that ends with nothing to write. -/
def Call.replays : Call → Bool
  | .done p => p.writes.isEmpty && p.session.isNone && p.sale.isNone
  | _ => false

/-- A checkout that has read its session, the same checkout sent again and sold, and what the first
    one then finds. -/
def sentTwice : Except Refusal (Call × Call × Call) := do
  let read ← (tills sampleCatalogue).execs sampleSales 1 (.checkout sampleCheckout)
  let sold ← (tills sampleCatalogue).execs sampleSales 9 (.checkout sampleCheckout)
  let replayed ← (tills sampleCatalogue).execs (sampleSales.commit sold.pending) 1 read
  pure (read, sold, replayed)

theorem sentTwice_sells : sentTwice.toOption.any (fun x =>
    decide (x.2.1.sold = some [sampleLine.id]) && x.2.2.replays) = true := by
  decide +kernel

theorem Call.ready_of_sold {t : Call} {ids : List Uuid} (h : t.sold = some ids) : t.IsDone ∧
    ∃ sale, t.pending.sale = some sale ∧ sale.priced.lines.map PricedLine.lineId = ids := by
  unfold Call.sold at h
  split at h
  · cases h
    exact ⟨trivial, _, rfl, rfl⟩
  · cases h

theorem Call.ready_of_replays {t : Call} (h : t.replays = true) :
    t.IsDone ∧ t.pending.sale = none := by
  unfold Call.replays at h
  split at h
  · simp only [Bool.and_eq_true, Option.isNone_iff_eq_none] at h
    exact ⟨trivial, h.2⟩
  · cases h

/-- A business that has sold without a till, and a checkout overtaken by its own repetition: one
    more sale is stored. -/
theorem checkout_consumes_once_sample : ∃ es s,
    Run (tills sampleCatalogue).Step (.idle sampleSales) es s ∧
      s.db.sales.map (fun sale => sale.priced.lines.map PricedLine.lineId) =
        [[.sample 13], [sampleLine.id]] ∧
      ConsumesOnce sampleCatalogue s := by
  have hsells := sentTwice_sells
  cases hrun : sentTwice with
  | error e =>
      rw [hrun] at hsells
      cases hsells
  | ok x =>
      rw [hrun] at hsells
      simp only [Except.toOption, Option.any_some, Bool.and_eq_true, decide_eq_true_eq] at hsells
      simp only [sentTwice, bind_eq_ok, pure_eq_ok] at hrun
      obtain ⟨read, hread, sold, hsold, replayed, hreplayed, rfl⟩ := hrun
      have hstart : (tills sampleCatalogue).starts (.checkout sampleCheckout) := trivial
      obtain ⟨hdone, sale, hsale, hids⟩ := Call.ready_of_sold hsells.1
      obtain ⟨hdone', hnone⟩ := Call.ready_of_replays hsells.2
      obtain ⟨es, hsteps⟩ := System.run_overtaken hstart hread hstart hsold hdone
        (.of_nil (System.takes_eq_nil rfl)) hreplayed hdone'
      refine ⟨es, _, hsteps, ?_, checkout_consumes_once hsteps⟩
      show ((([genericSale] ++ sold.pending.sale.toList) ++ replayed.pending.sale.toList).map
        fun sale => sale.priced.lines.map PricedLine.lineId) = _
      rw [hsale, hnone, ← hids]
      rfl

end Daftar.Pos
