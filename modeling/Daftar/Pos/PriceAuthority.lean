/-
  File: Daftar/Pos/PriceAuthority.lean
  Subject: What a cart command may state: the scan that refuses any other key.

  * `assertNoClientPriceAuthority` walks a body: at the top level the keys of the command are
    permitted, below it none. A body deeper than any cart command is refused too.
  * `walk_eq_ok`: the walk accepts exactly when no key below it is refused and no container is too
    deep; `walk_eq_error`: a refusal names a key that stands in the body, and is of its kind.
  * `noClientPriceAuthority`: the scan sees every key, and nothing but keys and levels.
-/

import Daftar.Library.JsonTree
import Daftar.Pos.Errors

namespace Daftar.Pos

open Fallible

/-! ## 1. Names of figures the server derives -/

/-- The names of the table; what the server derives each of them from is text. -/
def POS_CART_FORGED_FIELD_NAMES : List String :=
  ["lineTotalMinor", "cartTotalMinor", "unitPriceMinor", "taxMinor", "unitPrice", "price",
   "priceMinor", "priceOverride", "overridePriceMinor", "lineTotal", "cartTotal", "grandTotal",
   "totalMinor", "totalTxnMinor", "totalBaseMinor", "baseShareMinor", "subtotal", "subtotalMinor",
   "grossMinor", "netMinor", "amountMinor", "tax", "taxRate", "taxExempt", "discountPercent",
   "discountRate", "cogsMinor", "unitCostMinor", "valueDeltaMinor", "averageCost", "currency",
   "currencyCode", "fxRate", "rate", "rateId", "rateSource", "rateTimestamp", "branchId",
   "tenantId", "businessId", "actorUserId", "permission", "roles", "onHand", "availableQuantity",
   "reservedQuantity", "paidMinor", "outstandingMinor", "settlementState", "invoiceStatus",
   "paymentId", "allocationId", "idempotencyKey", "allowOversell", "allowNegativeStock", "force",
   "skipValidation", "bypassIsolation", "disableRowSecurity", "now", "timestamp", "issuedAt",
   "lineCount", "lines", "cartVersion", "revision"]

/-- A match of a word: what stands before it, the word, and what stands after it. -/
def matchesWord (before after : Option Char → Bool) (word : List Char) :
    Option Char → List Char → Bool
  | _, [] => false
  | previous, c :: cs =>
    (before previous && word.isPrefixOf (c :: cs) && after ((c :: cs).drop word.length).head?) ||
      matchesWord before after word (some c) cs

/-- A pattern under the flag `i`: the key in lower case. -/
def ignoringCase (before after : Option Char → Bool) (word : String) (key : String) : Bool :=
  matchesWord before after word.toList none (key.toList.map Char.toLower)

def anything (_ : Option Char) : Bool := true

/-- `^` before, or `$` after. -/
def atEnd (c : Option Char) : Bool := c.isNone

/-- `(^|[^a-z])` -/
def noLetter (c : Option Char) : Bool := c.all fun c => !('a' ≤ c && c ≤ 'z')

/-- `(^|[a-z])net(_|[A-Z]|$)`, in the case it is written in. -/
def matchesNet (key : String) : Bool :=
  matchesWord (Option.all fun c => 'a' ≤ c && c ≤ 'z')
    (Option.all fun c => c == '_' || ('A' ≤ c && c ≤ 'Z')) "net".toList none key.toList

def PRICE_AUTHORITY_PATTERNS : List (String → Bool) :=
  [ignoringCase anything anything "total",
   ignoringCase anything anything "subtotal",
   ignoringCase anything anything "price",
   ignoringCase noLetter anything "tax",
   ignoringCase anything anything "cost",
   ignoringCase anything anything "cogs",
   ignoringCase anything anything "amount",
   ignoringCase anything anything "gross",
   matchesNet,
   ignoringCase noLetter anything "rate",
   ignoringCase anything anything "currenc",
   ignoringCase anything anything "balance",
   ignoringCase anything anything "paid",
   ignoringCase anything anything "outstanding",
   ignoringCase anything anything "reserved",
   ignoringCase anything anything "available",
   ignoringCase anything anything "margin",
   ignoringCase anything anything "profit",
   fun key => ignoringCase atEnd anything "minor" key || ignoringCase anything atEnd "minor" key]

def isPriceAuthorityField (key : String) : Bool :=
  POS_CART_FORGED_FIELD_NAMES.contains key || PRICE_AUTHORITY_PATTERNS.any fun p => p key

example : ["cartTotalMinor", "vatTAX_rate", "netDue", "exchange_rate", "minor"].map isPriceAuthorityField =
    [true, true, true, true, true] := by
  decide +kernel

example : ["planet", "syntax", "separate", "productId"].map isPriceAuthorityField =
    [true, false, false, false] := by
  decide +kernel

/-! ## 2. What a command accepts -/

inductive PosCartCommand
  | addLine
  | changeQuantity
  | removeLine
  | requestDiscount
  deriving DecidableEq, Repr

def POS_CART_COMMAND_FIELDS : PosCartCommand → List String
  | .addLine => ["productId", "variantId", "quantity"]
  | .changeQuantity => ["quantity"]
  | .removeLine => []
  | .requestDiscount => ["discountMinor"]

/-! ## 3. The scan -/

def MAX_BODY_DEPTH : ℕ := 4

/-- A refusal with the field it names and the path it was found at, and no value. -/
structure CartFieldRefusal where
  code : PosCode
  field : Option String
  path : String
  deriving DecidableEq, Repr

def joinPath (path : List String) : String := ".".intercalate path

def tooDeep (path : List String) : CartFieldRefusal := ⟨.cartFieldUnknown, none, joinPath path⟩

def refusedKey (path : List String) (key : String) : CartFieldRefusal :=
  ⟨if isPriceAuthorityField key then .cartPriceAuthorityRefused else .cartFieldUnknown, some key,
    joinPath (path ++ [key])⟩

section Walk

variable {σ : Type}

mutual

def walk (accepted path : List String) (depth : ℕ) : JsonTree σ → Except CartFieldRefusal Unit
  | .scalar _ => .ok ()
  | .array elements => do
    refuseIf (depth > MAX_BODY_DEPTH) (tooDeep path)
    walkElements accepted path depth 0 elements
  | .object members => do
    refuseIf (depth > MAX_BODY_DEPTH) (tooDeep path)
    walkMembers accepted path depth members

def walkElements (accepted path : List String) (depth i : ℕ) :
    List (JsonTree σ) → Except CartFieldRefusal Unit
  | [] => .ok ()
  | item :: rest => do
    walk accepted (path ++ [toString i]) (depth + 1) item
    walkElements accepted path depth (i + 1) rest

def walkMembers (accepted path : List String) (depth : ℕ) :
    List (String × JsonTree σ) → Except CartFieldRefusal Unit
  | [] => .ok ()
  | (key, value) :: rest => do
    refuseIf (¬ (depth = 0 ∧ key ∈ accepted)) (refusedKey path key)
    walk accepted (path ++ [key]) (depth + 1) value
    walkMembers accepted path depth rest

end

/-- A body that is no object is left to the schema. -/
def assertNoClientPriceAuthority (command : PosCartCommand) (body : JsonTree σ) :
    Except CartFieldRefusal Unit := walk (POS_CART_COMMAND_FIELDS command) [] 0 body

/-! ## 4. What the scan accepts -/

/-- Every key of the tree is permitted at its level, and no container stands too deep; the tree
    itself stands `depth` levels down. -/
structure Passes (accepted : List String) (depth : ℕ) (t : JsonTree σ) : Prop where
  keys : ∀ d k, t.KeyAt d k → depth + d = 0 ∧ k ∈ accepted
  levels : ∀ d, t.ContainerAt d → depth + d ≤ MAX_BODY_DEPTH

theorem passes_scalar {accepted : List String} {depth : ℕ} {v : σ} :
    Passes accepted depth (.scalar v) := ⟨nofun, nofun⟩

theorem passes_array {accepted : List String} {depth : ℕ} {es : List (JsonTree σ)} :
    Passes accepted depth (.array es) ↔
      depth ≤ MAX_BODY_DEPTH ∧ ∀ e ∈ es, Passes accepted (depth + 1) e := by
  constructor
  · intro h
    refine ⟨h.levels 0 .array, fun e he => ⟨fun d k hk => ?_, fun d hc => ?_⟩⟩
    · rw [Nat.succ_add_eq_add_succ]
      exact h.keys _ _ (.inElement he hk)
    · rw [Nat.succ_add_eq_add_succ]
      exact h.levels _ (.inElement he hc)
  · intro h
    obtain ⟨hdepth, hall⟩ := h
    refine ⟨fun d k hk => ?_, fun d hc => ?_⟩
    · cases hk with
      | inElement he below =>
          rw [← Nat.succ_add_eq_add_succ]
          exact (hall _ he).keys _ _ below
    · cases hc with
      | array => exact hdepth
      | inElement he below =>
          rw [← Nat.succ_add_eq_add_succ]
          exact (hall _ he).levels _ below

theorem passes_object {accepted : List String} {depth : ℕ} {ms : List (String × JsonTree σ)} :
    Passes accepted depth (.object ms) ↔ depth ≤ MAX_BODY_DEPTH ∧
      ∀ m ∈ ms, (depth = 0 ∧ m.1 ∈ accepted) ∧ Passes accepted (depth + 1) m.2 := by
  constructor
  · intro h
    refine ⟨h.levels 0 .object, fun m hm => ⟨h.keys 0 m.1 (.member hm), fun d k hk => ?_,
      fun d hc => ?_⟩⟩
    · rw [Nat.succ_add_eq_add_succ]
      exact h.keys _ _ (.inMember hm hk)
    · rw [Nat.succ_add_eq_add_succ]
      exact h.levels _ (.inMember hm hc)
  · intro h
    obtain ⟨hdepth, hall⟩ := h
    refine ⟨fun d k hk => ?_, fun d hc => ?_⟩
    · cases hk with
      | member hm => exact (hall _ hm).1
      | inMember hm below =>
          rw [← Nat.succ_add_eq_add_succ]
          exact (hall _ hm).2.keys _ _ below
    · cases hc with
      | object => exact hdepth
      | inMember hm below =>
          rw [← Nat.succ_add_eq_add_succ]
          exact (hall _ hm).2.levels _ below

mutual

/-- **The walk accepts exactly the trees that pass**, by recursion on the tree. -/
theorem walk_eq_ok {accepted : List String} : ∀ (t : JsonTree σ) {path : List String} {depth : ℕ},
    walk accepted path depth t = .ok () ↔ Passes accepted depth t
  | .scalar _, _, _ => by
      rw [walk]
      exact iff_of_true rfl passes_scalar
  | .array elements, _, _ => by
      rw [walk, passes_array]
      simp only [bind_eq_ok, refuseIf_eq_ok, exists_const, walkElements_eq_ok elements, Nat.not_lt,
        gt_iff_lt]
  | .object members, _, _ => by
      rw [walk, passes_object]
      simp only [bind_eq_ok, refuseIf_eq_ok, exists_const, walkMembers_eq_ok members, Nat.not_lt,
        gt_iff_lt]

theorem walkElements_eq_ok {accepted : List String} : ∀ (es : List (JsonTree σ))
    {path : List String} {depth i : ℕ}, walkElements accepted path depth i es = .ok () ↔
      ∀ e ∈ es, Passes accepted (depth + 1) e
  | [], _, _, _ => by
      rw [walkElements]
      exact iff_of_true rfl nofun
  | item :: rest, _, _, _ => by
      rw [walkElements, List.forall_mem_cons]
      simp only [bind_eq_ok, exists_const, walk_eq_ok item, walkElements_eq_ok rest]

theorem walkMembers_eq_ok {accepted : List String} : ∀ (ms : List (String × JsonTree σ))
    {path : List String} {depth : ℕ}, walkMembers accepted path depth ms = .ok () ↔
      ∀ m ∈ ms, (depth = 0 ∧ m.1 ∈ accepted) ∧ Passes accepted (depth + 1) m.2
  | [], _, _ => by
      rw [walkMembers]
      exact iff_of_true rfl nofun
  | (key, value) :: rest, _, _ => by
      rw [walkMembers, List.forall_mem_cons]
      simp only [bind_eq_ok, refuseIf_eq_ok, exists_const, walk_eq_ok value,
        walkMembers_eq_ok rest, not_not, and_assoc]

end

/-! ## 5. What a refusal names -/

/-- The refusal is of a key that stands in the tree where it is not permitted, or of a container
    that stands too deep, by its name and kind. -/
def Blames (accepted : List String) (depth : ℕ) (t : JsonTree σ) (e : CartFieldRefusal) : Prop :=
  (∃ d k, t.KeyAt d k ∧ ¬ (depth + d = 0 ∧ k ∈ accepted) ∧ e.field = some k ∧
    e.code = if isPriceAuthorityField k then .cartPriceAuthorityRefused else .cartFieldUnknown) ∨
  ∃ d, t.ContainerAt d ∧ MAX_BODY_DEPTH < depth + d ∧ e.field = none ∧ e.code = .cartFieldUnknown

/-- What is wrong below a place is wrong with the tree. -/
theorem Blames.above {accepted : List String} {depth : ℕ} {t u : JsonTree σ} {e : CartFieldRefusal}
    (hkeys : ∀ d k, u.KeyAt d k → t.KeyAt (d + 1) k)
    (hlevels : ∀ d, u.ContainerAt d → t.ContainerAt (d + 1))
    (h : Blames accepted (depth + 1) u e) : Blames accepted depth t e := by
  rcases h with ⟨d, k, hk, hrefused, hfield, hcode⟩ | ⟨d, hc, hdeep, hfield, hcode⟩
  · refine .inl ⟨d + 1, k, hkeys d k hk, ?_, hfield, hcode⟩
    rwa [← Nat.succ_add_eq_add_succ]
  · refine .inr ⟨d + 1, hlevels d hc, ?_, hfield, hcode⟩
    rwa [← Nat.succ_add_eq_add_succ]

mutual

/-- **A refusal blames something that is there**, by recursion on the tree. -/
theorem walk_eq_error {accepted : List String} {e : CartFieldRefusal} : ∀ (t : JsonTree σ)
    {path : List String} {depth : ℕ}, walk accepted path depth t = .error e →
      Blames accepted depth t e
  | .scalar _, _, _, h => by
      rw [walk] at h
      cases h
  | .array elements, _, _, h => by
      rw [walk, bind_eq_error] at h
      rcases h with h | ⟨_, _, h⟩
      · obtain ⟨hdeep, rfl⟩ := refuseIf_eq_error.mp h
        exact .inr ⟨0, .array, hdeep, rfl, rfl⟩
      · obtain ⟨item, hitem, hblames⟩ := walkElements_eq_error elements h
        exact hblames.above (fun _ _ => .inElement hitem) fun _ => .inElement hitem
  | .object members, _, _, h => by
      rw [walk, bind_eq_error] at h
      rcases h with h | ⟨_, _, h⟩
      · obtain ⟨hdeep, rfl⟩ := refuseIf_eq_error.mp h
        exact .inr ⟨0, .object, hdeep, rfl, rfl⟩
      · obtain ⟨m, hm, ⟨hrefused, hfield, hcode⟩ | hblames⟩ := walkMembers_eq_error members h
        · exact .inl ⟨0, m.1, .member hm, hrefused, hfield, hcode⟩
        · exact hblames.above (fun _ _ => .inMember hm) fun _ => .inMember hm

theorem walkElements_eq_error {accepted : List String} {e : CartFieldRefusal} :
    ∀ (es : List (JsonTree σ)) {path : List String} {depth i : ℕ},
      walkElements accepted path depth i es = .error e →
        ∃ item ∈ es, Blames accepted (depth + 1) item e
  | [], _, _, _, h => by
      rw [walkElements] at h
      cases h
  | item :: rest, _, _, _, h => by
      rw [walkElements, bind_eq_error] at h
      rcases h with h | ⟨_, _, h⟩
      · exact ⟨item, List.mem_cons_self, walk_eq_error item h⟩
      · obtain ⟨next, hnext, hblames⟩ := walkElements_eq_error rest h
        exact ⟨next, List.mem_cons_of_mem _ hnext, hblames⟩

theorem walkMembers_eq_error {accepted : List String} {e : CartFieldRefusal} :
    ∀ (ms : List (String × JsonTree σ)) {path : List String} {depth : ℕ},
      walkMembers accepted path depth ms = .error e →
        ∃ m ∈ ms, (¬ (depth = 0 ∧ m.1 ∈ accepted) ∧ e.field = some m.1 ∧ e.code =
            if isPriceAuthorityField m.1 then .cartPriceAuthorityRefused else .cartFieldUnknown) ∨
          Blames accepted (depth + 1) m.2 e
  | [], _, _, h => by
      rw [walkMembers] at h
      cases h
  | (key, value) :: rest, _, _, h => by
      rw [walkMembers, bind_eq_error] at h
      rcases h with h | ⟨_, _, h⟩
      · obtain ⟨hrefused, rfl⟩ := refuseIf_eq_error.mp h
        exact ⟨_, List.mem_cons_self, .inl ⟨hrefused, rfl, rfl⟩⟩
      · rcases bind_eq_error.mp h with h | ⟨_, _, h⟩
        · exact ⟨_, List.mem_cons_self, .inr (walk_eq_error value h)⟩
        · obtain ⟨m, hm, hblames⟩ := walkMembers_eq_error rest h
          exact ⟨m, List.mem_cons_of_mem _ hm, hblames⟩

end

/-! ## 6. No price authority -/

/-- No command accepts a name of the table. -/
theorem forged_notMem_fields {command : PosCartCommand} {key : String}
    (h : key ∈ POS_CART_FORGED_FIELD_NAMES) : key ∉ POS_CART_COMMAND_FIELDS command := by
  have hall : ∀ key ∈ POS_CART_FORGED_FIELD_NAMES, key ∉ POS_CART_COMMAND_FIELDS command := by
    cases command <;> decide +kernel
  exact hall key h

/-- The requested discount is the one accepted name that reads like a figure. -/
theorem priceAuthority_of_mem_fields {command : PosCartCommand} {key : String}
    (h : key ∈ POS_CART_COMMAND_FIELDS command) (hfigure : isPriceAuthorityField key = true) :
    command = .requestDiscount ∧ key = "discountMinor" := by
  have hall : ∀ key ∈ POS_CART_COMMAND_FIELDS command, isPriceAuthorityField key = true →
      command = .requestDiscount ∧ key = "discountMinor" := by
    cases command <;> decide +kernel
  exact hall key h hfigure

/-- **No price authority hides in a cart command.** A body is accepted exactly when every key in it
    is a key of the body itself that the command accepts, and nothing nests deeper than the bound.
    The verdict is the same for every value of its scalars and every order. No name of the table is
    accepted at any level, and no name that reads like a figure but the requested discount. -/
theorem noClientPriceAuthority {σ : Type} (command : PosCartCommand) (body : JsonTree σ) :
    (assertNoClientPriceAuthority command body = .ok () ↔
      (∀ d k, body.KeyAt d k → d = 0 ∧ k ∈ POS_CART_COMMAND_FIELDS command) ∧
        ∀ d, body.ContainerAt d → d ≤ MAX_BODY_DEPTH) ∧
    (∀ other, body.Rearranged other → (assertNoClientPriceAuthority command body = .ok () ↔
      assertNoClientPriceAuthority command other = .ok ())) ∧
    (∀ d, ∀ k ∈ POS_CART_FORGED_FIELD_NAMES, body.KeyAt d k →
      assertNoClientPriceAuthority command body ≠ .ok ()) ∧
    ∀ d k, body.KeyAt d k → isPriceAuthorityField k = true →
      ¬ (command = .requestDiscount ∧ d = 0 ∧ k = "discountMinor") →
        assertNoClientPriceAuthority command body ≠ .ok () := by
  have haccept : ∀ body : JsonTree σ, assertNoClientPriceAuthority command body = .ok () ↔
      (∀ d k, body.KeyAt d k → d = 0 ∧ k ∈ POS_CART_COMMAND_FIELDS command) ∧
        ∀ d, body.ContainerAt d → d ≤ MAX_BODY_DEPTH := by
    intro body
    unfold assertNoClientPriceAuthority
    rw [walk_eq_ok]
    constructor
    · intro h
      refine ⟨fun d k hk => ?_, fun d hc => ?_⟩
      · have hkey := h.keys d k hk
        rwa [Nat.zero_add] at hkey
      · have hlevel := h.levels d hc
        rwa [Nat.zero_add] at hlevel
    · intro h
      refine ⟨fun d k hk => ?_, fun d hc => ?_⟩
      · rw [Nat.zero_add]
        exact h.1 d k hk
      · rw [Nat.zero_add]
        exact h.2 d hc
  refine ⟨haccept body, fun other hother => ?_, fun d k hk hkey hok => ?_,
    fun d k hkey hfigure hnot hok => ?_⟩
  · simp only [haccept, hother.keyAt_iff, hother.containerAt_iff]
  · exact forged_notMem_fields hk (((haccept body).mp hok).1 d k hkey).2
  · obtain ⟨hd, hk⟩ := ((haccept body).mp hok).1 d k hkey
    obtain ⟨hcommand, hname⟩ := priceAuthority_of_mem_fields hk hfigure
    exact hnot ⟨hcommand, hd, hname⟩

/-- A total in an array under an accepted field. -/
def hiddenTotal : JsonTree ℕ :=
  .object [("quantity", .array [.scalar 1, .object [("cartTotalMinor", .scalar 2)]])]

theorem noClientPriceAuthority_hiddenTotal :
    assertNoClientPriceAuthority .changeQuantity hiddenTotal ≠ .ok () :=
  (noClientPriceAuthority .changeQuantity hiddenTotal).2.2.1 2 "cartTotalMinor" (by decide +kernel)
    (.inMember List.mem_cons_self
      (.inElement (List.mem_cons_of_mem _ List.mem_cons_self) (.member List.mem_cons_self)))

example : assertNoClientPriceAuthority .changeQuantity hiddenTotal =
    .error ⟨.cartPriceAuthorityRefused, some "cartTotalMinor", "quantity.1.cartTotalMinor"⟩ := by
  decide +kernel

end Walk

end Daftar.Pos
