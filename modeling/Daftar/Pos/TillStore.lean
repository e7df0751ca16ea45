/-
  File: Daftar/Pos/TillStore.lean
  Subject: Till sessions and their cart lines, as the database stores them.

  * `LineFigures` are the two figures a cashier may revise, under the CHECKs of their columns.
  * A `CartTable` holds its primary key as a field: no two rows have one id.
  * A cart line is written in three ways only: inserted, revised in its figures, or tombstoned.
    `CartTable.mem_write` says what rows a write leaves, and `CartTable.WritesIn.mem_writes` that
    writes in one session leave the rows of every other.
-/

import Daftar.Pos.Basket
import Daftar.Pos.CartPricing

namespace Daftar.Pos

/-! ## 1. Rows -/

inductive SessionStatus
  | open_ | closed
  deriving DecidableEq, Repr

/-- A row of `pos_till_sessions`. The close intent is kept as the signed payload its digest is of. -/
structure TillSession where
  openedBy : Uuid
  warehouseId : Uuid
  currencyCode : String
  status : SessionStatus
  closeIntent : Option (List UInt8)
  closingCountMinor : Option ℤ
  deriving DecidableEq

/-- The columns a cashier may revise: the Q4 quantity and the discount request. -/
structure LineFigures where
  quantityQ4 : ℤ
  requestedDiscountMinor : ℤ
  quantity_pos : 0 < quantityQ4
  quantity_domain : quantityQ4 < QTY_DOMAIN_Q4
  discount_nonneg : 0 ≤ requestedDiscountMinor
  discount_le : requestedDiscountMinor ≤ VALUE_LIMIT_MINOR
  deriving DecidableEq

/-- A row of `pos_cart_lines`; `removed` is whether `removed_at` is set. -/
structure CartLine where
  id : Uuid
  tillSessionId : Uuid
  lineNo : ℕ
  productId : Uuid
  variantId : Uuid
  figures : LineFigures
  addedBy : Uuid
  removed : Bool
  deriving DecidableEq

/-- The columns of a line that are final. -/
def CartLine.identity (l : CartLine) : Uuid × Uuid × ℕ × Uuid × Uuid × Uuid :=
  (l.id, l.tillSessionId, l.lineNo, l.productId, l.variantId, l.addedBy)

/-- In the basket of a session. -/
def CartLine.LiveIn (l : CartLine) (session : Uuid) : Prop :=
  l.tillSessionId = session ∧ l.removed = false

instance (l : CartLine) (session : Uuid) : Decidable (l.LiveIn session) :=
  inferInstanceAs (Decidable (_ ∧ _))

/-- `pos_cart_lines` under its primary key. -/
structure CartTable where
  rows : List CartLine
  pk : (rows.map CartLine.id).Nodup
  deriving DecidableEq

/-! ## 2. Writes -/

/-- What a routine does to the table. -/
inductive CartWrite
  | insert (row : CartLine)
  | revise (id : Uuid) (figures : LineFigures)
  | tombstone (id : Uuid)
  deriving DecidableEq

namespace CartWrite

/-- The line a write is on. -/
def id : CartWrite → Uuid
  | insert row => row.id
  | revise id _ => id
  | tombstone id => id

/-- The row a write makes of an existing one. -/
def onRow : CartWrite → CartLine → CartLine
  | insert _, l => l
  | revise id figures, l => if l.id = id then { l with figures } else l
  | tombstone id, l => if l.id = id then { l with removed := true } else l

theorem onRow_of_ne {w : CartWrite} {l : CartLine} (h : l.id ≠ w.id) : w.onRow l = l := by
  cases w with
  | insert row => rfl
  | revise id figures => exact if_neg h
  | tombstone id => exact if_neg h

/-- **A write leaves the identity of every row.** -/
@[simp] theorem identity_onRow (w : CartWrite) (l : CartLine) :
    (w.onRow l).identity = l.identity := by
  cases w with
  | insert row => rfl
  | revise id figures =>
      simp only [onRow]
      split <;> rfl
  | tombstone id =>
      simp only [onRow]
      split <;> rfl

@[simp] theorem id_onRow (w : CartWrite) (l : CartLine) : (w.onRow l).id = l.id :=
  congrArg Prod.fst (w.identity_onRow l)

@[simp] theorem tillSessionId_onRow (w : CartWrite) (l : CartLine) :
    (w.onRow l).tillSessionId = l.tillSessionId :=
  congrArg (fun i => i.2.1) (w.identity_onRow l)

/-- A tombstone is final. -/
theorem removed_onRow {w : CartWrite} {l : CartLine} (h : l.removed = true) :
    (w.onRow l).removed = true := by
  cases w with
  | insert row => exact h
  | revise id figures =>
      simp only [onRow]
      split <;> exact h
  | tombstone id =>
      simp only [onRow]
      split
      · rfl
      · exact h

end CartWrite

/-- The row a write adds, if its id is free. -/
def CartTable.added (t : CartTable) : CartWrite → List CartLine
  | .insert row => if row.id ∈ t.rows.map CartLine.id then [] else [row]
  | _ => []

theorem CartTable.write_pk (t : CartTable) (w : CartWrite) :
    ((t.rows.map w.onRow ++ t.added w).map CartLine.id).Nodup := by
  have hold : (t.rows.map w.onRow).map CartLine.id = t.rows.map CartLine.id := by
    rw [List.map_map]
    apply List.map_congr_left
    intro l _
    exact w.id_onRow l
  rw [List.map_append, hold]
  cases w with
  | insert row =>
      simp only [added]
      split
      · rw [List.map_nil, List.append_nil]
        exact t.pk
      · rename_i hfree
        rw [List.map_singleton, List.nodup_append]
        refine ⟨t.pk, List.nodup_singleton _, ?_⟩
        intro a ha b hb hab
        rw [List.mem_singleton.mp hb] at hab
        exact hfree (hab ▸ ha)
  | revise id figures => simpa [added] using t.pk
  | tombstone id => simpa [added] using t.pk

/-- The table after a write. -/
def CartTable.write (t : CartTable) (w : CartWrite) : CartTable where
  rows := t.rows.map w.onRow ++ t.added w
  pk := t.write_pk w

def CartTable.writes (t : CartTable) (ws : List CartWrite) : CartTable := ws.foldl CartTable.write t

/-- The row of an id. -/
def CartTable.find? (t : CartTable) (id : Uuid) : Option CartLine :=
  t.rows.find? fun l => l.id = id

namespace CartTable

variable {t : CartTable} {w : CartWrite} {l m : CartLine} {id : Uuid}

/-! ## 3. Reading a table -/

theorem eq_of_id (hl : l ∈ t.rows) (hm : m ∈ t.rows) (h : l.id = m.id) : l = m :=
  List.inj_on_of_nodup_map t.pk hl hm h

/-- **A row is found by its id.** -/
theorem find?_eq_some : t.find? id = some l ↔ l ∈ t.rows ∧ l.id = id := by
  unfold find?
  constructor
  · intro h
    exact ⟨List.mem_of_find?_eq_some h, by simpa using List.find?_some h⟩
  · intro h
    cases hf : t.rows.find? fun l => decide (l.id = id) with
    | none => exact absurd (by simpa using h.2) (List.find?_eq_none.mp hf l h.1)
    | some m =>
        have hm : m.id = id := by simpa using List.find?_some hf
        rw [eq_of_id (List.mem_of_find?_eq_some hf) h.1 (hm.trans h.2.symm)]

theorem find?_eq_none : t.find? id = none ↔ ∀ l ∈ t.rows, l.id ≠ id := by
  unfold find?
  rw [List.find?_eq_none]
  simp

/-- What rows a write leaves. -/
theorem mem_write : m ∈ (t.write w).rows ↔ (∃ l ∈ t.rows, w.onRow l = m) ∨ m ∈ t.added w := by
  unfold write
  rw [List.mem_append, List.mem_map]

theorem mem_added : m ∈ t.added w ↔ w = .insert m ∧ t.find? m.id = none := by
  rw [find?_eq_none]
  cases w with
  | insert row =>
      simp only [added]
      split
      · rename_i hin
        obtain ⟨l, hl, he⟩ := List.mem_map.mp hin
        constructor
        · intro h
          cases h
        · intro h
          cases h.1
          exact absurd he (h.2 l hl)
      · rename_i hfree
        rw [List.mem_singleton]
        constructor
        · intro h
          subst h
          exact ⟨rfl, fun l hl he => hfree (List.mem_map.mpr ⟨l, hl, he⟩)⟩
        · intro h
          cases h.1
          rfl
  | revise id figures => simp [added]
  | tombstone id => simp [added]

/-- **A row no write is on stays.** -/
theorem mem_write_of_ne (h : m.id ≠ w.id) : m ∈ (t.write w).rows ↔ m ∈ t.rows := by
  rw [mem_write, mem_added]
  constructor
  · intro hm
    rcases hm with ⟨l, hl, he⟩ | ⟨hw, _⟩
    · have hid : l.id ≠ w.id := by
        rw [← w.id_onRow l, he]
        exact h
      rw [CartWrite.onRow_of_ne hid] at he
      exact he ▸ hl
    · rw [hw] at h
      exact absurd rfl h
  · intro hm
    exact .inl ⟨m, hm, CartWrite.onRow_of_ne h⟩

/-- Ids are never freed. -/
theorem exists_mem_write (hl : l ∈ t.rows) :
    ∃ m ∈ (t.write w).rows, m.identity = l.identity ∧ (l.removed = true → m.removed = true) :=
  ⟨w.onRow l, mem_write.mpr (.inl ⟨l, hl, rfl⟩), w.identity_onRow l, CartWrite.removed_onRow⟩

/-! ## 4. Several writes -/

theorem writes_cons (t : CartTable) (w : CartWrite) (ws : List CartWrite) :
    t.writes (w :: ws) = (t.write w).writes ws := rfl

theorem mem_writes_of_ne {ws : List CartWrite} (h : ∀ w ∈ ws, m.id ≠ w.id) :
    m ∈ (t.writes ws).rows ↔ m ∈ t.rows := by
  induction ws generalizing t with
  | nil => rfl
  | cons w ws ih =>
      rw [writes_cons, ih fun v hv => h v (List.mem_cons_of_mem _ hv),
        mem_write_of_ne (h w List.mem_cons_self)]

theorem exists_mem_writes (ws : List CartWrite) (hl : l ∈ t.rows) :
    ∃ m ∈ (t.writes ws).rows, m.identity = l.identity ∧ (l.removed = true → m.removed = true) := by
  induction ws generalizing t l with
  | nil => exact ⟨l, hl, rfl, id⟩
  | cons w ws ih =>
      obtain ⟨k, hk, hid, hrem⟩ := exists_mem_write (w := w) hl
      obtain ⟨m, hm, hid', hrem'⟩ := ih hk
      exact ⟨m, hm, hid'.trans hid, fun h => hrem' (hrem h)⟩

/-- The writes are on lines of one session only. -/
structure WritesIn (t : CartTable) (session : Uuid) (ws : List CartWrite) : Prop where
  row : ∀ w ∈ ws, ∀ l ∈ t.rows, l.id = w.id → l.tillSessionId = session
  inserted : ∀ row, .insert row ∈ ws → row.tillSessionId = session

/-- **Writes in one session leave the rows of every other.** -/
theorem WritesIn.mem_writes {session : Uuid} {ws : List CartWrite} (h : t.WritesIn session ws)
    (hm : m.tillSessionId ≠ session) : m ∈ (t.writes ws).rows ↔ m ∈ t.rows := by
  induction ws generalizing t with
  | nil => rfl
  | cons w ws ih =>
      have hrow := h.row w List.mem_cons_self
      have hstep : m ∈ (t.write w).rows ↔ m ∈ t.rows := by
        rw [mem_write, mem_added]
        constructor
        · intro hin
          rcases hin with ⟨l, hl, rfl⟩ | ⟨rfl, _⟩
          · rw [CartWrite.tillSessionId_onRow] at hm
            rw [CartWrite.onRow_of_ne fun he => hm (hrow l hl he)]
            exact hl
          · exact absurd (h.inserted m List.mem_cons_self) hm
        · intro hin
          exact .inl ⟨m, hin, CartWrite.onRow_of_ne fun he => hm (hrow m hin he)⟩
      rw [writes_cons, ih ?_, hstep]
      refine ⟨?_, fun row hr => h.inserted row (List.mem_cons_of_mem _ hr)⟩
      intro v hv l hl he
      rw [mem_write, mem_added] at hl
      rcases hl with ⟨k, hk, rfl⟩ | ⟨rfl, _⟩
      · rw [CartWrite.id_onRow] at he
        rw [CartWrite.tillSessionId_onRow]
        exact h.row v (List.mem_cons_of_mem _ hv) k hk he
      · exact h.inserted l List.mem_cons_self

/-- Tombstones of several lines. -/
def tombstones (ids : List Uuid) : List CartWrite := ids.map CartWrite.tombstone

/-- **What tombstones leave**: the rows they name removed, and nothing else changed. -/
theorem rows_tombstones (t : CartTable) (ids : List Uuid) : (t.writes (tombstones ids)).rows =
    t.rows.map fun l => if l.id ∈ ids then { l with removed := true } else l := by
  induction ids generalizing t with
  | nil =>
      conv_lhs => rw [← List.map_id (t.writes (tombstones [])).rows]
      rfl
  | cons id ids ih =>
      have hwrite : (t.write (.tombstone id)).rows = t.rows.map (CartWrite.tombstone id).onRow :=
        List.append_nil _
      rw [tombstones, List.map_cons, writes_cons, ← tombstones, ih, hwrite, List.map_map]
      apply List.map_congr_left
      intro l _
      simp only [Function.comp, CartWrite.onRow, List.mem_cons]
      by_cases h1 : l.id = id
      · by_cases h2 : l.id ∈ ids <;> simp [h1]
      · by_cases h2 : l.id ∈ ids <;> simp [h1, h2]

end CartTable

/-! ## 5. The store -/

/-- The two relations of a business's tills. -/
structure TillStore where
  sessions : Uuid → Option TillSession
  lines : CartTable

/-- The store after a write to the cart lines. -/
def TillStore.write (store : TillStore) (w : CartWrite) : TillStore :=
  { store with lines := store.lines.write w }

@[simp] theorem TillStore.lines_write (store : TillStore) (w : CartWrite) :
    (store.write w).lines = store.lines.write w := rfl

end Daftar.Pos
