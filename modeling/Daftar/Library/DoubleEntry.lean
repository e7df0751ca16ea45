/-
  File: Daftar/Library/DoubleEntry.lean
  Subject: Sides, signed amounts and balances of the lines of a journal entry.

  * `Side.signed` counts a debit up and a credit down; `balance` sums the lines of an entry and
    `balanceOf` those of one account.
  * A signed amount is booked as at most one line, `signedLine`, on the side of its sign
    (`sideFor`); the line's balance is the amount again (`balance_signedLine`).
  * `runningBalance` is the loop that sums an entry and refuses its first bad line.
-/

import Daftar.Library.Fallible
import Mathlib.Algebra.BigOperators.Group.List.Basic
import Mathlib.Algebra.Order.Group.Unbundled.Abs
import Mathlib.Algebra.Order.Group.Unbundled.Int
import Mathlib.Algebra.Order.Ring.Int

namespace DoubleEntry

open Fallible

/-! ## 1. Sides and balances -/

/-- The two sides of a ledger. -/
inductive Side
  | D
  | C
  deriving DecidableEq, Repr

/-- A debit counts up, a credit down. -/
def Side.signed : Side → ℤ → ℤ
  | .D, amount => amount
  | .C, amount => -amount

@[simp] theorem Side.signed_D (amount : ℤ) : Side.D.signed amount = amount := rfl

@[simp] theorem Side.signed_C (amount : ℤ) : Side.C.signed amount = -amount := rfl

/-- The other side. -/
def Side.flip : Side → Side
  | .D => .C
  | .C => .D

@[simp] theorem Side.signed_flip (s : Side) (amount : ℤ) :
    s.flip.signed amount = -s.signed amount := by
  cases s with
  | D => rfl
  | C => simp [Side.flip]

/-- The side of a signed amount: `up` when it is positive, the other one when it is not. -/
def sideFor (up : Side) (amount : ℤ) : Side :=
  if amount > 0 then up else up.flip

/-- **A non-zero amount booked on the side of its sign, as a magnitude, is that amount again.** -/
theorem signed_sideFor (up : Side) (amount : ℤ) :
    (sideFor up amount).signed |amount| = up.signed amount := by
  unfold sideFor
  split
  · rename_i h
    rw [abs_of_pos h]
  · rename_i h
    rw [Side.signed_flip, abs_of_nonpos (by omega)]
    cases up with
    | D => simp
    | C => simp

/-- An amount booked only when it is not zero. -/
theorem ite_signed_sideFor (up : Side) (v : ℤ) :
    (if v ≠ 0 then (sideFor up v).signed |v| else 0) = up.signed v := by
  by_cases hv : v = 0
  · cases up <;> simp [hv]
  · rw [if_pos hv, signed_sideFor]

section Entry

variable {ι α : Type*} (side : ι → Side) (amount : ι → ℤ)

/-- Debits less credits over all lines. -/
def balance (lines : List ι) : ℤ := (lines.map fun l => (side l).signed (amount l)).sum

@[simp] theorem balance_cons (l : ι) (ls : List ι) :
    balance side amount (l :: ls) = (side l).signed (amount l) + balance side amount ls := by
  simp [balance]

@[simp] theorem balance_append (ls ms : List ι) :
    balance side amount (ls ++ ms) = balance side amount ls + balance side amount ms := by
  simp [balance]

theorem balance_ite_singleton (p : Prop) [Decidable p] (l : ι) :
    balance side amount (if p then [l] else []) = if p then (side l).signed (amount l) else 0 := by
  split
  · simp [balance]
  · rfl

variable [DecidableEq α] (account : ι → α)

/-- Debits less credits over the lines of one account. -/
def balanceOf (a : α) (lines : List ι) : ℤ :=
  balance side amount (lines.filter fun l => account l = a)

theorem balanceOf_cons (a : α) (l : ι) (ls : List ι) :
    balanceOf side amount account a (l :: ls) =
      (if account l = a then (side l).signed (amount l) else 0) +
        balanceOf side amount account a ls := by
  by_cases h : account l = a
  · simp [balanceOf, h]
  · simp [balanceOf, h]

@[simp] theorem balanceOf_append (a : α) (ls ms : List ι) :
    balanceOf side amount account a (ls ++ ms) =
      balanceOf side amount account a ls + balanceOf side amount account a ms := by
  simp [balanceOf]

theorem balanceOf_ite_singleton (a : α) (p : Prop) [Decidable p] (l : ι) :
    balanceOf side amount account a (if p then [l] else []) =
      if account l = a then (if p then (side l).signed (amount l) else 0) else 0 := by
  by_cases hp : p
  · rw [if_pos hp, if_pos hp, balanceOf_cons]
    exact add_zero _
  · rw [if_neg hp, if_neg hp, ite_self]
    rfl

end Entry

/-! ## 2. Signed lines -/

section SignedLine

variable {ι α : Type*} (mk : Side → ℤ → ι)

/-- A signed amount as at most one line, on the side of its sign, as a magnitude. -/
def signedLine (up : Side) (v : ℤ) : List ι :=
  if v ≠ 0 then [mk (sideFor up v) |v|] else []

variable {up : Side} {v : ℤ}

variable {mk} in
theorem mem_signedLine {l : ι} (h : l ∈ signedLine mk up v) : ∃ s a, 0 < a ∧ mk s a = l := by
  unfold signedLine at h
  split at h
  · rename_i hv
    exact ⟨_, _, abs_pos.mpr hv, (List.mem_singleton.mp h).symm⟩
  · cases h

variable {side : ι → Side} {amount : ι → ℤ} (hside : ∀ s a, side (mk s a) = s)
  (hamount : ∀ s a, amount (mk s a) = a)
include hside hamount

/-- **The line of a signed amount balances to that amount.** -/
theorem balance_signedLine : balance side amount (signedLine mk up v) = up.signed v := by
  rw [signedLine, balance_ite_singleton, hside, hamount]
  exact ite_signed_sideFor up v

variable [DecidableEq α] {account : ι → α} {a : α} (haccount : ∀ s x, account (mk s x) = a)
include haccount

theorem balanceOf_signedLine_self :
    balanceOf side amount account a (signedLine mk up v) = up.signed v := by
  rw [signedLine, balanceOf_ite_singleton, if_pos (haccount _ _), hside, hamount]
  exact ite_signed_sideFor up v

omit hside hamount in
theorem balanceOf_signedLine_of_ne {b : α} (hab : a ≠ b) :
    balanceOf side amount account b (signedLine mk up v) = 0 := by
  rw [signedLine, balanceOf_ite_singleton, haccount, if_neg hab]

end SignedLine

/-! ## 3. The balance check -/

section Check

variable {ι ε : Type} (side : ι → Side) (amount : ι → ℤ) (bad : ι → Prop) [DecidablePred bad] (e : ε)

/-- The running balance over the lines of an entry, refusing the first bad line. -/
def runningBalance : ℤ → List ι → Except ε ℤ
  | b, [] => .ok b
  | b, l :: ls => do
    refuseIf (bad l) e
    runningBalance (b + if side l = .D then amount l else -amount l) ls

variable {side amount bad e}

theorem runningBalance_eq_ok {ls : List ι} {b r : ℤ} :
    runningBalance side amount bad e b ls = .ok r ↔
      (∀ l ∈ ls, ¬ bad l) ∧ b + balance side amount ls = r := by
  induction ls generalizing b with
  | nil => simp [runningBalance, balance]
  | cons l ls ih =>
    have hsigned : (if side l = .D then amount l else -amount l) = (side l).signed (amount l) := by
      cases side l <;> rfl
    simp only [runningBalance, bind_eq_ok, refuseIf_eq_ok, exists_const, ih, hsigned,
      List.forall_mem_cons, balance_cons, and_assoc, add_assoc]

end Check

end DoubleEntry
