/-
  File: Daftar/Tenancy/Permissions.lean
  Subject: The registered permissions and what a set of roles grants.

  * Owner authority is the identity of a role, a system role under the key `owner`, and no flag.
  * `beyondGrantAuthority` is what a delegation asks for beyond the authority of its maker.
-/

import Mathlib.Data.List.Basic

namespace Daftar.Tenancy

/-! ## 1. The registry -/

def PERMISSIONS : List String :=
  [ "business.view", "business.manage", "branch.view", "branch.manage", "warehouse.view",
    "warehouse.manage", "member.view", "member.invite", "member.manage", "member.suspend",
    "member.branch_scope.manage", "role.view", "role.create", "role.update", "role.delete",
    "role.assign", "catalog.view", "catalog.create", "catalog.update", "catalog.archive",
    "category.manage", "media.manage", "settings.view", "settings.manage", "billing.view",
    "billing.manage", "subscription.view", "subscription.manage",
    "accounting.view", "accounting.post", "accounting.reverse", "accounting.chart.manage",
    "accounting.fx.manage", "accounting.period.manage", "accounting.period.reopen",
    "inventory.view", "inventory.adjust", "inventory.transfer", "inventory.stocktake",
    "purchases.view", "purchases.manage", "purchases.receive", "purchases.return",
    "suppliers.view", "suppliers.manage", "suppliers.pay",
    "sales.view", "sales.create", "sales.void", "sales.return", "sales.discount",
    "customers.view", "customers.manage", "payments.collect", "payments.reverse",
    "refunds.approve", "receivables.view", "installments.manage" ]

def isPermission (p : String) : Bool := PERMISSIONS.contains p

inductive BuiltinRoleKey
  | owner | manager | cashier
  deriving DecidableEq

def BuiltinRoleKey.text : BuiltinRoleKey → String
  | owner => "owner"
  | manager => "manager"
  | cashier => "cashier"

def BUILTIN_ROLE_PERMISSIONS : BuiltinRoleKey → List String
  | .owner => PERMISSIONS
  | .manager =>
    [ "business.view", "branch.view", "branch.manage", "warehouse.view", "warehouse.manage",
      "member.view", "member.invite", "role.view", "role.assign", "catalog.view",
      "catalog.create", "catalog.update", "catalog.archive", "category.manage", "media.manage",
      "settings.view", "subscription.view", "inventory.view", "purchases.view", "suppliers.view",
      "sales.view", "sales.create", "customers.view", "customers.manage", "payments.collect",
      "receivables.view" ]
  | .cashier => ["catalog.view", "sales.view", "sales.create", "customers.view", "payments.collect"]

/-- Built-in roles hold registered permissions, each once. -/
theorem builtin_registered (k : BuiltinRoleKey) :
    (BUILTIN_ROLE_PERMISSIONS k).all isPermission = true ∧
      (BUILTIN_ROLE_PERMISSIONS k).dedup = BUILTIN_ROLE_PERMISSIONS k := by
  cases k <;> decide +kernel

/-! ## 2. What roles grant -/

/-- A role as it is loaded from the database. -/
structure RoleRow where
  key : String
  isSystem : Bool
  permissions : List String

/-- Roles the server has loaded itself. -/
structure TrustedRoleSet where
  roles : List RoleRow

/-- The owner role is known by its key among the system roles. -/
def isSystemOwnerRole (r : RoleRow) : Bool := r.isSystem && r.key = "owner"

/-- What an owner may do is not listed. -/
def hasPermission (set : TrustedRoleSet) (permission : String) : Bool :=
  set.roles.any fun r => isSystemOwnerRole r || r.permissions.contains permission

def isSystemOwner (set : TrustedRoleSet) : Bool := set.roles.any isSystemOwnerRole

/-- The permissions a delegation asks for that its maker does not hold. -/
def beyondGrantAuthority (set : TrustedRoleSet) (permissions : List String) : List String :=
  if isSystemOwner set then [] else permissions.filter fun p => !hasPermission set p

section Grants

variable {set : TrustedRoleSet} {p : String} {permissions : List String}

/-- A permission is held by a role that lists it, or by the owner role. -/
theorem hasPermission_iff : hasPermission set p = true ↔
    ∃ r ∈ set.roles, isSystemOwnerRole r = true ∨ p ∈ r.permissions := by
  unfold hasPermission
  simp only [List.any_eq_true, Bool.or_eq_true, List.contains_iff_mem]

/-- An owner holds every permission. -/
theorem hasPermission_of_owner (h : isSystemOwner set = true) : hasPermission set p = true := by
  obtain ⟨r, hr, howner⟩ := List.any_eq_true.mp h
  exact hasPermission_iff.mpr ⟨r, hr, .inl howner⟩

/-- **What is not beyond an authority is within it**, for an owner too. -/
theorem hasPermission_of_not_beyond (h : beyondGrantAuthority set permissions = [])
    (hp : p ∈ permissions) : hasPermission set p = true := by
  by_cases howner : isSystemOwner set = true
  · exact hasPermission_of_owner howner
  · unfold beyondGrantAuthority at h
    rw [if_neg howner] at h
    simpa using List.filter_eq_nil_iff.mp h p hp

end Grants

end Daftar.Tenancy
