/-
  File: Daftar/Tenancy/TenancySafety.lean
  Subject: What every interleaving of the commands leaves of a business.

  * `TenancyDb.Kept` is what a business keeps: one owner role, an active owner, no role of a member
    that is removed, no offer of the owner role. `newBusiness_kept`: it starts this way.
  * `owner_remains`: it is kept, and no one becomes an owner. `founder_remains` is the case of a new
    business.
  * `authority_closed`: where no owner acts, no permission comes into circulation.
-/

import Daftar.Tenancy.TenancyStatements

namespace Daftar.Tenancy

open Fallible
open LockedTransactions
open Runs
open Tables

/-! ## 1. What is kept -/

/-- One owner role and an owner under it, and no role or offer out of place. -/
structure TenancyDb.Kept (db : TenancyDb) : Prop where
  oneOwner : ∀ a ∈ db.roles.rows, ∀ b ∈ db.roles.rows, a.isOwner = true → b.isOwner = true → a = b
  owned : ∃ m ∈ db.members.rows, m.status = .active ∧ db.isOwnerMember m.userId = true
  seated : ∀ row ∈ db.memberRoles.rows,
    ∃ m ∈ db.members.rows, m.userId = row.userId ∧ m.status ≠ .removed
  offered : ∀ i ∈ db.invitations.rows, i.status = .pending → db.isOwnerRole i.roleId = false

/-- A permission that some member has under a role that is no owner's, or is offered. -/
def Circulates (db : TenancyDb) (p : String) : Prop :=
  (∃ row ∈ db.memberRoles.rows,
      db.isOwnerRole row.roleId = false ∧ p ∈ db.permissionsOf row.roleId) ∨
    ∃ i ∈ db.invitations.rows, i.status = .pending ∧ p ∈ db.permissionsOf i.roleId

section Invariant

variable {P : String → Prop} {O : Uuid → Prop} {db : TenancyDb} {u r : Uuid}

theorem isOwnerRole_iff :
    db.isOwnerRole r = true ↔ ∃ role ∈ db.roles.rows, role.id = r ∧ role.isOwner = true := by
  unfold TenancyDb.isOwnerRole
  rw [Option.any_eq_true]
  constructor
  · rintro ⟨role, hrole, howner⟩
    obtain ⟨hmem, hid⟩ := Table.find?_eq_some.mp hrole
    exact ⟨role, hmem, hid, howner⟩
  · rintro ⟨role, hmem, rfl, howner⟩
    exact ⟨role, Table.find?_of_mem hmem, howner⟩

theorem seated_iff : Seated db u ↔ ∃ m ∈ db.members.rows, m.userId = u ∧ m.status ≠ .removed := by
  constructor
  · rintro ⟨m, hm, hstatus⟩
    obtain ⟨hmem, hid⟩ := Table.find?_eq_some.mp hm
    exact ⟨m, hmem, hid, hstatus⟩
  · rintro ⟨m, hmem, rfl, hstatus⟩
    exact ⟨m, Table.find?_of_mem hmem, hstatus⟩

theorem owned_iff : (∃ u, ActiveOwner db u) ↔
    ∃ m ∈ db.members.rows, m.status = .active ∧ db.isOwnerMember m.userId = true := by
  constructor
  · rintro ⟨u, hactive, howner⟩
    obtain ⟨m, hm, hstatus⟩ := isActive_iff.mp hactive
    obtain ⟨hmem, rfl⟩ := Table.find?_eq_some.mp hm
    exact ⟨m, hmem, hstatus, howner⟩
  · rintro ⟨m, hmem, hstatus, howner⟩
    exact ⟨m.userId, isActive_iff.mpr ⟨m, Table.find?_of_mem hmem, hstatus⟩, howner⟩

/-- The invariant holds of a business that is kept, by a bound on what circulates. -/
theorem TenancyDb.Kept.sound (h : db.Kept) (hP : ∀ p, Circulates db p → P p) :
    Sound P (fun u => db.isOwnerMember u = true) db where
  oneOwner r r' hr hr' := by
    obtain ⟨a, ha, rfl, hao⟩ := isOwnerRole_iff.mp hr
    obtain ⟨b, hb, rfl, hbo⟩ := isOwnerRole_iff.mp hr'
    exact congrArg BusinessRole.id (h.oneOwner a ha b hb hao hbo)
  owned := owned_iff.mpr h.owned
  seated row hrow := seated_iff.mpr (h.seated row hrow)
  held row hrow := by
    by_cases howner : db.isOwnerRole row.roleId = true
    · exact .inl howner
    · exact .inr fun p hp => hP p (.inl ⟨row, hrow, by simpa using howner, hp⟩)
  offered i hi hpending :=
    ⟨h.offered i hi hpending, fun p hp => hP p (.inr ⟨i, hi, hpending, hp⟩)⟩
  owners _ hu := hu

theorem Sound.kept (hs : Sound P O db) : db.Kept where
  oneOwner a ha b hb hao hbo := by
    have hid := hs.oneOwner a.id b.id (isOwnerRole_iff.mpr ⟨a, ha, rfl, hao⟩)
      (isOwnerRole_iff.mpr ⟨b, hb, rfl, hbo⟩)
    exact List.inj_on_of_nodup_map db.roles.keys ha hb hid
  owned := owned_iff.mp hs.owned
  seated row hrow := seated_iff.mp (hs.seated row hrow)
  offered i hi hpending := (hs.offered i hi hpending).1

theorem Sound.circulates (hs : Sound P O db) {p : String} (h : Circulates db p) : P p := by
  rcases h with ⟨row, hrow, hnot, hp⟩ | ⟨i, hi, hpending, hp⟩
  · rcases hs.held row hrow with howner | hsafe
    · rw [hnot] at howner
      cases howner
    · exact hsafe p hp
  · exact (hs.offered i hi hpending).2 p hp

end Invariant

/-! ## 2. Interleavings -/

section Runs

variable {P : String → Prop} {O Actor : Uuid → Prop} {lower : String → String} {db : TenancyDb}

/-- The outline of the commands: whoever acts is no owner, or the bound allows everything. -/
theorem tenancy_outline (hactor : ∀ u, Actor u → O u → ∀ p, P p) :
    (tenancy lower Actor).Outline (Sound P O) (Expects P Actor) where
  start := by
    rintro db ⟨point, written⟩ _ ⟨hwritten, hcall⟩
    obtain rfl : written = [] := hwritten
    rcases hcall with ⟨actor, c, hacts, hpoint⟩ | ⟨a, hpoint⟩
    · obtain rfl : point = .request actor c := hpoint
      exact expects_nil rfl ⟨rfl, hacts⟩
    · obtain rfl : point = .peek a := hpoint
      exact expects_nil rfl rfl
  statement hs h hexec := h.statement hs hactor hexec
  stable := by
    rintro db t held ⟨point, written⟩ held' _ h hu hready hc
    obtain rfl : point = .write [] := hready
    exact h.stable (hu.planned.beside hc)
  commit := by
    rintro db ⟨point, written⟩ held hs h hready
    obtain rfl : point = .write [] := hready
    exact hs.commit h.planned

/-- A run from a business that is kept. -/
theorem TenancyDb.Kept.run (h : db.Kept) {es : List Event} {u : State TenancyDb Tx Lock}
    (hrun : Run (tenancy lower Actor).Step (.idle db) es u) :
    Sound (fun _ => True) (fun v => db.isOwnerMember v = true) u.db := by
  have hsound : Sound (fun _ => True) (fun v => db.isOwnerMember v = true) db :=
    h.sound fun _ _ => trivial
  have hout : (tenancy lower Actor).Outline
      (Sound (fun _ => True) fun v => db.isOwnerMember v = true) (Expects (fun _ => True) Actor) :=
    tenancy_outline fun _ _ _ _ => trivial
  exact (hout.sound hrun (.idle hsound)).db

end Runs

/-! ## 3. A new business -/

def TenancyDb.empty : TenancyDb := ⟨.empty, .empty, .empty, .empty, .empty⟩

/-- A business as onboarding leaves it. -/
def newBusiness (ids : BuiltinRoleIds) (founder : Uuid) : TenancyDb :=
  TenancyDb.empty.applyAll (createBusiness ids founder)

section NewBusiness

variable {db : TenancyDb} {ids : BuiltinRoleIds} {founder : Uuid}

/-- Permissions of a role leave all other tables. -/
theorem applyAll_permissions (r : Uuid) (ps : List String) :
    (db.applyAll (ps.map fun p => .insertPermission ⟨r, p⟩)).roles = db.roles ∧
      (db.applyAll (ps.map fun p => .insertPermission ⟨r, p⟩)).members = db.members ∧
      (db.applyAll (ps.map fun p => .insertPermission ⟨r, p⟩)).memberRoles = db.memberRoles ∧
      (db.applyAll (ps.map fun p => .insertPermission ⟨r, p⟩)).invitations = db.invitations := by
  induction ps generalizing db with
  | nil => exact ⟨rfl, rfl, rfl, rfl⟩
  | cons p ps ih => exact @ih (db.apply (.insertPermission ⟨r, p⟩))

/-- What the creation of a role does to the other tables. -/
theorem applyAll_builtin (db : TenancyDb) (k : BuiltinRoleKey) (id : Uuid) :
    (db.applyAll (builtinWrites k id)).roles = db.roles.insert (builtinRole k id) ∧
      (db.applyAll (builtinWrites k id)).members = db.members ∧
      (db.applyAll (builtinWrites k id)).memberRoles = db.memberRoles ∧
      (db.applyAll (builtinWrites k id)).invitations = db.invitations :=
  @applyAll_permissions (db.apply (.insertRole (builtinRole k id))) id (BUILTIN_ROLE_PERMISSIONS k)

theorem newBusiness_tables (ids : BuiltinRoleIds) (founder : Uuid) :
    (newBusiness ids founder).roles =
        ((Table.empty.insert (builtinRole .owner ids.owner)).insert
          (builtinRole .cashier ids.cashier)).insert (builtinRole .manager ids.manager) ∧
      (newBusiness ids founder).members = Table.empty.insert ⟨founder, .active⟩ ∧
      (newBusiness ids founder).memberRoles = Table.empty.insert ⟨founder, ids.owner⟩ ∧
      (newBusiness ids founder).invitations = Table.empty := by
  unfold newBusiness createBusiness
  rw [applyAll_append, applyAll_append, applyAll_append]
  obtain ⟨hroles₁, hmembers₁, hrows₁, hoffers₁⟩ := applyAll_builtin .empty .owner ids.owner
  generalize TenancyDb.empty.applyAll (builtinWrites .owner ids.owner) = db₁ at *
  obtain ⟨hroles₂, hmembers₂, hrows₂, hoffers₂⟩ := applyAll_builtin db₁ .cashier ids.cashier
  generalize db₁.applyAll (builtinWrites .cashier ids.cashier) = db₂ at *
  obtain ⟨hroles₃, hmembers₃, hrows₃, hoffers₃⟩ := applyAll_builtin db₂ .manager ids.manager
  generalize db₂.applyAll (builtinWrites .manager ids.manager) = db₃ at *
  rw [hroles₂, hroles₁] at hroles₃
  rw [hmembers₂, hmembers₁] at hmembers₃
  rw [hrows₂, hrows₁] at hrows₃
  rw [hoffers₂, hoffers₁] at hoffers₃
  exact ⟨hroles₃, congrArg (fun t => t.insert ⟨founder, .active⟩) hmembers₃,
    congrArg (fun t => t.insert ⟨founder, ids.owner⟩) hrows₃, hoffers₃⟩

theorem isOwner_builtinRole {k : BuiltinRoleKey} {id : Uuid} :
    (builtinRole k id).isOwner = true ↔ k = .owner := by
  cases k <;> simp [builtinRole, BusinessRole.isOwner, BuiltinRoleKey.text]

/-- The founder is the one owner. -/
theorem isOwnerMember_newBusiness {v : Uuid} :
    (newBusiness ids founder).isOwnerMember v = true ↔ v = founder := by
  obtain ⟨hroles, _, hrows, _⟩ := newBusiness_tables ids founder
  rw [isOwnerMember_iff, hrows]
  constructor
  · rintro ⟨row, hrow, rfl, _⟩
    rcases Table.mem_insert hrow with rfl | hrow
    · rfl
    · cases hrow
  · rintro rfl
    have howner : builtinRole .owner ids.owner ∈ (newBusiness ids v).roles.rows := by
      rw [hroles]
      exact Table.mem_insert_of_mem (Table.mem_insert_of_mem (Table.mem_insert_self rfl))
    refine ⟨⟨v, ids.owner⟩, Table.mem_insert_self rfl, rfl, ?_⟩
    exact isOwnerRole_iff.mpr ⟨_, howner, rfl, isOwner_builtinRole.mpr rfl⟩

/-- **A business starts as one that is kept.** -/
theorem newBusiness_kept (ids : BuiltinRoleIds) (founder : Uuid) :
    (newBusiness ids founder).Kept := by
  obtain ⟨hroles, hmembers, hrows, hoffers⟩ := newBusiness_tables ids founder
  have howner : ∀ a ∈ (newBusiness ids founder).roles.rows, a.isOwner = true →
      a = builtinRole .owner ids.owner := by
    intro a ha hao
    rw [hroles] at ha
    rcases Table.mem_insert ha with rfl | ha
    · cases isOwner_builtinRole.mp hao
    · rcases Table.mem_insert ha with rfl | ha
      · cases isOwner_builtinRole.mp hao
      · rcases Table.mem_insert ha with rfl | ha
        · rfl
        · cases ha
  have hfounder : ⟨founder, .active⟩ ∈ (newBusiness ids founder).members.rows := by
    rw [hmembers]
    exact Table.mem_insert_self rfl
  refine ⟨?_, ⟨_, hfounder, rfl, isOwnerMember_newBusiness.mpr rfl⟩, ?_, ?_⟩
  · intro a ha b hb hao hbo
    rw [howner a ha hao, howner b hb hbo]
  · intro row hrow
    rw [hrows] at hrow
    rcases Table.mem_insert hrow with rfl | hrow
    · exact ⟨_, hfounder, rfl, MembershipStatus.noConfusion⟩
    · cases hrow
  · intro i hi
    rw [hoffers] at hi
    cases hi

end NewBusiness

/-! ## 4. Sample businesses -/

/-- An owner, and two clerks who may manage members. -/
def sampleTenancyDb : TenancyDb :=
  TenancyDb.empty.applyAll
    [.insertRole (builtinRole .owner (.sample 1)),
      .insertRole ⟨.sample 2, "clerk", "Clerk", false⟩,
      .insertPermission ⟨.sample 2, "member.manage"⟩, .insertMember (.sample 3),
      .grant ⟨.sample 3, .sample 1⟩ true, .insertMember (.sample 4),
      .grant ⟨.sample 4, .sample 2⟩ false, .insertMember (.sample 5),
      .grant ⟨.sample 5, .sample 2⟩ false]

/-- The clerks act. -/
def SampleActor (v : Uuid) : Prop := v = .sample 4 ∨ v = .sample 5

/-- One member removes another. -/
def sampleRemoval (actor target : Uuid) : Tx := ⟨.request actor (.removeMember target), []⟩

theorem sampleIds_distinct : [Uuid.sample 1, .sample 2, .sample 6].Nodup := by
  decide +kernel

def sampleIds : BuiltinRoleIds := ⟨.sample 1, .sample 2, .sample 6, sampleIds_distinct⟩

/-- A founder makes a role. -/
def sampleCreation (id : Uuid) (key : String) : Tx :=
  ⟨.request (.sample 3) (.createRole id key key []), []⟩

def Tx.isDone (t : Tx) : Bool :=
  match t.point with
  | .write [] => true
  | _ => false

theorem Tx.point_of_isDone {t : Tx} (h : t.isDone = true) : t.point = .write [] := by
  unfold Tx.isDone at h
  split at h
  · assumption
  · cases h

/-- A request that is authorised, then overtaken by a whole transaction of `k` statements, then run
    on for `m`: where it stands in between, and what the two come to. -/
def overtaken (Actor : Uuid → Prop) (db : TenancyDb) (k m : ℕ) (t u : Tx) :
    Except TenancyRefusal (Tx × Tx × Tx) := do
  let authorized ← (tenancy id Actor).execs db 2 t
  let other ← (tenancy id Actor).execs db k u
  let done ← (tenancy id Actor).execs (db.applyAll other.written) m authorized
  pure (authorized, other, done)

/-- What the second of two commits leaves. -/
def leftBy (db : TenancyDb) (x : Tx × Tx × Tx) : TenancyDb :=
  (db.applyAll x.2.1.written).applyAll x.2.2.written

/-- Where the two commit. -/
theorem run_of_overtaken {Actor : Uuid → Prop} {db : TenancyDb} {k m : ℕ} {t u : Tx}
    (p : TenancyDb → Bool) (ht : (tenancy id Actor).starts t) (hu : (tenancy id Actor).starts u)
    (htakes : (tenancy id Actor).takes db 2 t = [])
    (h : (overtaken Actor db k m t u).toOption.any (fun x =>
      x.2.1.isDone && x.2.2.isDone && p (leftBy db x)) = true) :
    ∃ es s, Run (tenancy id Actor).Step (.idle db) es s ∧ p s.db = true := by
  cases hover : overtaken Actor db k m t u with
  | error e =>
      rw [hover] at h
      cases h
  | ok x =>
      rw [hover] at h
      simp only [Except.toOption, Option.any_some, Bool.and_eq_true] at h
      obtain ⟨⟨hother, hdone⟩, hp⟩ := h
      simp only [overtaken, bind_eq_ok, pure_eq_ok] at hover
      obtain ⟨t₁, h₁, u', hu', t', h₂, rfl⟩ := hover
      have hready : (tenancy id Actor).ready u' := Tx.point_of_isDone hother
      have hready' : (tenancy id Actor).ready t' := Tx.point_of_isDone hdone
      obtain ⟨es, hrun⟩ :=
        System.run_overtaken ht h₁ hu hu' hready (.of_nil htakes) h₂ hready'
      exact ⟨es, _, hrun, hp⟩

theorem sample_facts :
    ((∀ a ∈ sampleTenancyDb.roles.rows, ∀ b ∈ sampleTenancyDb.roles.rows,
        a.isOwner = true → b.isOwner = true → a = b) ∧
      (∃ m ∈ sampleTenancyDb.members.rows,
        m.status = .active ∧ sampleTenancyDb.isOwnerMember m.userId = true) ∧
      (∀ row ∈ sampleTenancyDb.memberRoles.rows,
        ∃ m ∈ sampleTenancyDb.members.rows, m.userId = row.userId ∧ m.status ≠ .removed) ∧
      ∀ i ∈ sampleTenancyDb.invitations.rows,
        i.status = .pending → sampleTenancyDb.isOwnerRole i.roleId = false) ∧
    (sampleTenancyDb.isOwnerMember (.sample 4) = false ∧
      sampleTenancyDb.isOwnerMember (.sample 5) = false) ∧
    ((tenancy id SampleActor).takes sampleTenancyDb 2 (sampleRemoval (.sample 4) (.sample 5)) = [] ∧
      (overtaken SampleActor sampleTenancyDb 7 5 (sampleRemoval (.sample 4) (.sample 5))
        (sampleRemoval (.sample 5) (.sample 4))).toOption.any (fun x =>
          x.2.1.isDone && x.2.2.isDone && !(leftBy sampleTenancyDb x).isActive (.sample 4) &&
            !(leftBy sampleTenancyDb x).isActive (.sample 5)) = true) ∧
    (tenancy id fun _ => True).takes (newBusiness sampleIds (.sample 3)) 2
        (sampleCreation (.sample 7) "clerk") = [] ∧
      (overtaken (fun _ => True) (newBusiness sampleIds (.sample 3)) 3 1
        (sampleCreation (.sample 7) "clerk") (sampleCreation (.sample 8) "buyer")).toOption.any
          (fun x => x.2.1.isDone && x.2.2.isDone &&
            ((leftBy (newBusiness sampleIds (.sample 3)) x).roleByKey "clerk").isSome &&
            ((leftBy (newBusiness sampleIds (.sample 3)) x).roleByKey "buyer").isSome) = true := by
  decide +kernel

theorem sampleTenancyDb_kept : sampleTenancyDb.Kept :=
  ⟨sample_facts.1.1, sample_facts.1.2.1, sample_facts.1.2.2.1, sample_facts.1.2.2.2⟩

/-- Each clerk removes the other: the first is authorised, and removed before it does. -/
theorem sampleRemovals_run : ∃ es s,
    Run (tenancy id SampleActor).Step (.idle sampleTenancyDb) es s ∧
      s.db.isActive (.sample 4) = false ∧ s.db.isActive (.sample 5) = false := by
  obtain ⟨htakes, hover⟩ := sample_facts.2.2.1
  obtain ⟨es, s, hrun, hremoved⟩ :=
    run_of_overtaken (fun db => !db.isActive (.sample 4) && !db.isActive (.sample 5))
      ⟨rfl, .inl ⟨_, _, .inl rfl, rfl⟩⟩ ⟨rfl, .inl ⟨_, _, .inr rfl, rfl⟩⟩ htakes
      (by simpa only [Bool.and_assoc] using hover)
  exact ⟨es, s, hrun, by simpa using hremoved⟩

/-- Two roles made at once. -/
theorem sampleCreations_run : ∃ es s,
    Run (tenancy id fun _ => True).Step (.idle (newBusiness sampleIds (.sample 3))) es s ∧
      (s.db.roleByKey "clerk").isSome = true ∧ (s.db.roleByKey "buyer").isSome = true := by
  obtain ⟨htakes, hover⟩ := sample_facts.2.2.2
  obtain ⟨es, s, hrun, hroles⟩ :=
    run_of_overtaken (fun db => (db.roleByKey "clerk").isSome && (db.roleByKey "buyer").isSome)
      ⟨rfl, .inl ⟨_, _, trivial, rfl⟩⟩ ⟨rfl, .inl ⟨_, _, trivial, rfl⟩⟩ htakes
      (by simpa only [Bool.and_assoc] using hover)
  exact ⟨es, s, hrun, by simpa using hroles⟩

/-! ## 5. What remains -/

section Results

variable {Actor : Uuid → Prop} {lower : String → String} {db : TenancyDb} {es : List Event}
  {u : State TenancyDb Tx Lock}

/-- **An owner remains**: whatever commands are interleaved, one owner role and an active owner are
    left, removed members hold no roles, no one is offered the owner role or comes to hold it. -/
theorem owner_remains (h : db.Kept) (hrun : Run (tenancy lower Actor).Step (.idle db) es u) :
    u.db.Kept ∧ ∀ v, u.db.isOwnerMember v = true → db.isOwnerMember v = true :=
  ⟨(h.run hrun).kept, (h.run hrun).owners⟩

theorem owner_remains_sample : ∃ s : State TenancyDb Tx Lock,
    (s.db.isActive (.sample 4) = false ∧ s.db.isActive (.sample 5) = false) ∧ s.db.Kept ∧
      ∀ v, s.db.isOwnerMember v = true → sampleTenancyDb.isOwnerMember v = true := by
  obtain ⟨es, s, hrun, hremoved⟩ := sampleRemovals_run
  exact ⟨s, hremoved, owner_remains sampleTenancyDb_kept hrun⟩

/-- **Authority is closed**: where no owner acts, no permission comes into circulation, and whoever
    is no owner has what circulated at the start. -/
theorem authority_closed (h : db.Kept) (hactors : ∀ v, Actor v → db.isOwnerMember v = false)
    (hrun : Run (tenancy lower Actor).Step (.idle db) es u) :
    (∀ p, Circulates u.db p → Circulates db p) ∧
      ∀ v p, hasPermission (u.db.rolesFor v) p = true →
        db.isOwnerMember v = true ∨ Circulates db p := by
  have hsound : Sound (Circulates db) (fun v => db.isOwnerMember v = true) db :=
    h.sound fun _ hp => hp
  have hactor : ∀ v, Actor v → db.isOwnerMember v = true → ∀ p, Circulates db p := by
    intro v hv howner
    rw [hactors v hv] at howner
    cases howner
  have hdb := ((tenancy_outline hactor).sound hrun (.idle hsound)).db
  refine ⟨fun p hp => hdb.circulates hp, fun v p hp => ?_⟩
  by_cases howner : db.isOwnerMember v = true
  · exact .inl howner
  · exact .inr (within_rolesFor hdb (fun hv => absurd hv howner) p hp)

theorem authority_closed_sample : ∃ s : State TenancyDb Tx Lock,
    (s.db.isActive (.sample 4) = false ∧ s.db.isActive (.sample 5) = false) ∧
      (∀ p, Circulates s.db p → Circulates sampleTenancyDb p) ∧
      ∀ v p, hasPermission (s.db.rolesFor v) p = true →
        sampleTenancyDb.isOwnerMember v = true ∨ Circulates sampleTenancyDb p := by
  obtain ⟨es, s, hrun, hremoved⟩ := sampleRemovals_run
  have hactors : ∀ v, SampleActor v → sampleTenancyDb.isOwnerMember v = false := by
    rintro v (rfl | rfl)
    · exact sample_facts.2.1.1
    · exact sample_facts.2.1.2
  exact ⟨s, hremoved, authority_closed sampleTenancyDb_kept hactors hrun⟩

/-- **The founder stays**: whatever commands are interleaved in a new business, who founded it is
    its one owner, and active. -/
theorem founder_remains {ids : BuiltinRoleIds} {founder : Uuid}
    (hrun : Run (tenancy lower Actor).Step (.idle (newBusiness ids founder)) es u) :
    u.db.isActive founder = true ∧ ∀ v, u.db.isOwnerMember v = true ↔ v = founder := by
  have hsound := (newBusiness_kept ids founder).run hrun
  have hone : ∀ v, u.db.isOwnerMember v = true → v = founder :=
    fun v hv => isOwnerMember_newBusiness.mp (hsound.owners v hv)
  obtain ⟨v, hactive, howner⟩ := hsound.owned
  obtain rfl := hone v howner
  refine ⟨hactive, fun w => ⟨hone w, ?_⟩⟩
  rintro rfl
  exact howner

theorem founder_remains_sample : ∃ s : State TenancyDb Tx Lock,
    ((s.db.roleByKey "clerk").isSome = true ∧ (s.db.roleByKey "buyer").isSome = true) ∧
      s.db.isActive (.sample 3) = true ∧ ∀ v, s.db.isOwnerMember v = true ↔ v = .sample 3 := by
  obtain ⟨es, s, hrun, hroles⟩ := sampleCreations_run
  exact ⟨s, hroles, founder_remains hrun⟩

end Results

end Daftar.Tenancy
