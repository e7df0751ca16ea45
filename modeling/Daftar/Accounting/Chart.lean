/-
  File: Daftar/Accounting/Chart.lean
  Subject: The chart of accounts of a business and the guards on its rows.

  * An `AccountTable` holds the constraints of `accounts`: one row an id, a code and a system key.
  * Its routes are `insert`, `update` and `delete`. `accountsProtectSystem` and
    `accountsUsedIdentityImmutable` are the triggers on them.
  * `Keeps`: what every route leaves of an account with posted lines, its code and its system key.
-/

import Daftar.Accounting.Errors
import Daftar.Identifiers
import Daftar.Library.Tables

namespace Daftar.Accounting

open Fallible
open Tables

/-! ## 1. Accounts -/

inductive AccountType
  | asset | liability | equity | revenue | expense
  deriving DecidableEq, Repr

/-- The rows of `accounting_system_account_keys`. -/
def SYSTEM_ACCOUNT_KEYS : List (String × AccountType) :=
  [ ("cash", .asset), ("bank", .asset), ("card_clearing", .asset), ("wallet_clearing", .asset),
    ("cheque_clearing", .asset), ("accounts_receivable", .asset), ("supplier_receivable", .asset),
    ("inventory", .asset), ("accounts_payable", .liability), ("tax_payable", .liability),
    ("customer_refund_liability", .liability), ("customer_credit_liability", .liability),
    ("opening_equity", .equity), ("sales_revenue", .revenue), ("sales_returns", .revenue),
    ("discounts", .revenue), ("fx_gain", .revenue), ("cogs", .expense), ("rounding", .expense),
    ("purchase_price_variance", .expense), ("fx_loss", .expense) ]

def isCodeStart (c : Char) : Bool := c.isDigit || ('A' ≤ c && c ≤ 'Z')

def isCodeRest (c : Char) : Bool := isCodeStart c || c == '.' || c == '_' || c == '-'

/-- `^[0-9A-Z][0-9A-Z._-]{0,31}$`. -/
def ACCOUNT_CODE_RE (code : String) : Bool :=
  match code.toList with
  | c :: cs => isCodeStart c && cs.all isCodeRest && cs.length ≤ 31
  | [] => false

/-- A row of `accounts`, under the CHECKs of its columns. -/
structure Account where
  id : Uuid
  code : String
  name : String
  type : AccountType
  systemKey : Option String
  isActive : Bool
  codeCheck : ACCOUNT_CODE_RE code = true
  nameCheck : 1 ≤ name.length ∧ name.length ≤ 120
  systemKeyType : ∀ k, systemKey = some k → (k, type) ∈ SYSTEM_ACCOUNT_KEYS
  deriving DecidableEq

structure AccountTable where
  rows : List Account
  pk : (rows.map Account.id).Nodup
  codes : (rows.map Account.code).Nodup
  systemKeys : (rows.filterMap Account.systemKey).Nodup

namespace AccountTable

/-- Rows under the unique constraints. -/
def ofRows (rows : List Account) : Except Refusal AccountTable :=
  if h : (rows.map Account.id).Nodup ∧ (rows.map Account.code).Nodup ∧
      (rows.filterMap Account.systemKey).Nodup then .ok ⟨rows, h.1, h.2.1, h.2.2⟩
  else .error (.database "23505")

def find? (t : AccountTable) (id : Uuid) : Option Account := t.rows.find? fun a => a.id = id

end AccountTable

/-! ## 2. The guards -/

/-- `accounts_protect_system`, of an update. -/
def accountsProtectSystem (old new : Account) : Except Refusal Unit := do
  refuseIf (new.id ≠ old.id) (.accounting .accountOwnershipImmutable)
  if old.systemKey ≠ none then do
    refuseIf (new.systemKey ≠ old.systemKey) (.accounting .systemAccountImmutable)
    refuseIf (new.code ≠ old.code) (.accounting .systemAccountImmutable)
    refuseIf (new.type ≠ old.type) (.accounting .systemAccountImmutable)
    refuseIf (new.isActive ≠ old.isActive) (.accounting .systemAccountImmutable)
  else refuseIf (new.systemKey ≠ none) (.accounting .systemAccountImmutable)

/-- `accounts_used_identity_immutable`; `used` are the accounts with posted lines. -/
def accountsUsedIdentityImmutable (used : List Uuid) (old new : Account) : Except Refusal Unit :=
  refuseIf ((new.code ≠ old.code ∨ new.type ≠ old.type) ∧ old.id ∈ used)
    (.accounting .accountIdentityLocked)

namespace AccountTable

def insert (t : AccountTable) (row : Account) : Except Refusal AccountTable :=
  ofRows (row :: t.rows)

/-- An update of one row; of no row it does nothing. -/
def update (t : AccountTable) (used : List Uuid) (id : Uuid) (new : Account) :
    Except Refusal AccountTable :=
  match t.find? id with
  | none => pure t
  | some old => do
    accountsProtectSystem old new
    accountsUsedIdentityImmutable used old new
    ofRows (t.rows.map fun a => if a.id = id then new else a)

/-- A deletion, which a line's foreign key refuses of a used account. -/
def delete (t : AccountTable) (used : List Uuid) (id : Uuid) : Except Refusal AccountTable :=
  match t.find? id with
  | none => pure t
  | some old => do
    refuseIf (old.systemKey ≠ none) (.accounting .systemAccountImmutable)
    refuseIf (id ∈ used) (.database "23503")
    ofRows (t.rows.filter fun a => a.id ≠ id)

end AccountTable

/-! ## 3. What the guards keep -/

/-- The used accounts are all there, under their codes and system keys. -/
def Keeps (used : List Uuid) (t u : AccountTable) : Prop :=
  ∀ a ∈ t.rows, a.id ∈ used →
    ∃ b ∈ u.rows, b.id = a.id ∧ b.code = a.code ∧ b.systemKey = a.systemKey

section Keeping

variable {t u : AccountTable} {used : List Uuid} {id : Uuid} {row old new : Account}

theorem Keeps.refl (used : List Uuid) (t : AccountTable) : Keeps used t t :=
  fun a ha _ => ⟨a, ha, rfl, rfl, rfl⟩

theorem AccountTable.rows_of_ofRows {rows : List Account} (h : ofRows rows = .ok t) :
    t.rows = rows := by
  unfold ofRows at h
  split at h
  · cases h
    rfl
  · cases h

theorem AccountTable.find?_eq_some : t.find? id = some row ↔ row ∈ t.rows ∧ row.id = id :=
  find?_key t.pk

theorem accountsProtectSystem_eq_ok (h : accountsProtectSystem old new = .ok ()) :
    new.id = old.id ∧ new.systemKey = old.systemKey := by
  simp only [accountsProtectSystem, bind_eq_ok, refuseIf_eq_ok, exists_const, not_not] at h
  obtain ⟨hid, h⟩ := h
  refine ⟨hid, ?_⟩
  by_cases hsys : old.systemKey = none
  · rw [if_neg (not_not.mpr hsys), refuseIf_eq_ok, not_not] at h
    rw [h, hsys]
  · rw [if_pos hsys] at h
    simp only [bind_eq_ok, refuseIf_eq_ok, exists_const, not_not] at h
    exact h.1

theorem AccountTable.insert_keeps (h : t.insert row = .ok u) : Keeps used t u := by
  intro a ha _
  rw [rows_of_ofRows h]
  exact ⟨a, List.mem_cons_of_mem _ ha, rfl, rfl, rfl⟩

theorem AccountTable.update_keeps (h : t.update used id new = .ok u) : Keeps used t u := by
  unfold update at h
  cases hfind : t.find? id with
  | none =>
      rw [hfind] at h
      cases h
      exact .refl used t
  | some old =>
      rw [hfind] at h
      simp only [bind_eq_ok] at h
      obtain ⟨_, hsys, _, hlock, h⟩ := h
      obtain ⟨hold, hid⟩ := find?_eq_some.mp hfind
      obtain ⟨hnew, hkey⟩ := accountsProtectSystem_eq_ok hsys
      intro a ha hused
      rw [rows_of_ofRows h]
      by_cases haid : a.id = id
      · have hao : a = old := List.inj_on_of_nodup_map t.pk ha hold (haid.trans hid.symm)
        refine ⟨new, List.mem_map.mpr ⟨a, ha, if_pos haid⟩, ?_, ?_, ?_⟩
        · rw [hnew, hao]
        · simp only [accountsUsedIdentityImmutable, refuseIf_eq_ok, not_and] at hlock
          rw [hao] at hused ⊢
          by_contra hcode
          exact hlock (.inl hcode) hused
        · rw [hkey, hao]
      · exact ⟨a, List.mem_map.mpr ⟨a, ha, if_neg haid⟩, rfl, rfl, rfl⟩

theorem AccountTable.delete_keeps (h : t.delete used id = .ok u) : Keeps used t u := by
  unfold delete at h
  cases hfind : t.find? id with
  | none =>
      rw [hfind] at h
      cases h
      exact .refl used t
  | some old =>
      rw [hfind] at h
      simp only [bind_eq_ok, refuseIf_eq_ok, exists_const] at h
      obtain ⟨_, hunused, h⟩ := h
      intro a ha hused
      rw [rows_of_ofRows h]
      have hne : a.id ≠ id := fun he => hunused (he ▸ hused)
      exact ⟨a, List.mem_filter.mpr ⟨ha, decide_eq_true hne⟩, rfl, rfl, rfl⟩

end Keeping

end Daftar.Accounting
