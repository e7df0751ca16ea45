/-
  File: Daftar/Accounting/PostingHistory.lean
  Subject: What a posting reads of its payload, and what its entry keeps of it.

  * `accountingPostEntry_cases`: an accepted call recognises an entry or creates one.
  * `Schema.facts_ne_none`: which elements have canonical text.
  * `named_of_resolved`, `resolved_of_named`: elements and accounts by their names.
  * `PostedAs`: an entry holds the lines its fingerprint was taken of, each under a name of its
    account.
-/

import Daftar.Accounting.PostingStream

namespace Daftar.Accounting

open AsciiText
open Fallible
open Histories
open Sha256

/-! ## 1. The steps of a call -/

section Steps

variable {m : PostingMoment} {db db' : Ledger} {c : PostingCommand} {p : PreparedPosting}
  {r : PostingResult} {e : Jsonb} {l : PostingLine} {f : LineFacts}

theorem PostingFields.facts?_eq_some {l : PostingFields} : l.facts? = some f ↔
    l.identity = some f.identity ∧ l.side = some f.side ∧ l.baseMinor = some f.baseMinor ∧
      l.baseCurrency = some f.baseCurrency ∧ l.txnMinor = some f.txnMinor ∧
      l.txnCurrency = some f.txnCurrency ∧ l.rate = some f.rate ∧
      l.rateSource = some f.rateSource ∧ l.rateAt = some f.rateAt ∧ l.branchId = f.branchId ∧
      l.warehouseId = f.warehouseId := by
  cases f
  simp only [PostingFields.facts?, Option.bind_eq_bind, Option.bind_eq_some_iff, Option.pure_def,
    Option.some.injEq, LineFacts.mk.injEq]
  constructor
  · rintro ⟨_, h1, _, h2, _, h3, _, h4, _, h5, _, h6, _, h7, _, h8, _, h9, rfl, rfl, rfl, rfl, rfl,
      rfl, rfl, rfl, rfl, rfl, rfl⟩
    exact ⟨h1, h2, h3, h4, h5, h6, h7, h8, h9, rfl, rfl⟩
  · rintro ⟨h1, h2, h3, h4, h5, h6, h7, h8, h9, h10, h11⟩
    exact ⟨_, h1, _, h2, _, h3, _, h4, _, h5, _, h6, _, h7, _, h8, _, h9, rfl, rfl, rfl, rfl, rfl,
      rfl, rfl, rfl, rfl, h10, h11⟩

/-- What a prepared command has gone through. -/
structure Prepared (db : Ledger) (c : PostingCommand) (p : PreparedPosting) (elements : List Jsonb) :
    Prop where
  actor : accountingActor db.store c.actor = .ok ()
  payload : checkPayload c.lines = .ok elements
  resolved : elements.mapM (resolveLine db.accounts) = .ok p.lines
  accounts : requireAccounts p.lines = .ok ()
  base : requireBaseCurrency db.baseCurrency p.lines = .ok ()
  fingerprint : p.fingerprint = accountingFingerprint c.actor.source c.entryDate
    (p.lines.map fun l => accountingCanonicalLine l.fields)
  signed : fails (· == c.actor.postingFingerprint) p.fingerprint = false

theorem preparePosting_eq_ok :
    preparePosting db c = .ok p ↔ ∃ elements, Prepared db c p elements := by
  simp only [preparePosting, bind_eq_ok, refuseIf_eq_ok, exists_const, pure_eq_ok, Bool.not_eq_true]
  constructor
  · rintro ⟨_, h1, elements, h2, lines, h3, _, h4, _, h5, h6, rfl⟩
    exact ⟨elements, h1, h2, h3, h4, h5, rfl, h6⟩
  · rintro ⟨elements, h1, h2, h3, h4, h5, h6, h7⟩
    rw [h6] at h7
    exact ⟨(), h1, elements, h2, p.lines, h3, (), h4, (), h5, h7, by rw [← h6]⟩

theorem resolveLine_eq_ok {accounts : AccountTable} : resolveLine accounts e = .ok l ↔
    postingFields e = .ok l.fields ∧ l.account = namedAccount accounts e := by
  simp only [resolveLine, bind_eq_ok, pure_eq_ok]
  constructor
  · rintro ⟨fields, h, rfl⟩
    exact ⟨h, rfl⟩
  · intro h
    refine ⟨l.fields, h.1, ?_⟩
    rw [← h.2]

theorem requireAccounts_eq_ok {lines : List PostingLine} :
    requireAccounts lines = .ok () ↔ ∀ l ∈ lines, l.account ≠ none := by
  simp only [requireAccounts, bind_eq_ok, refuseIf_eq_ok, exists_const, not_exists, not_and]
  constructor
  · exact fun h => h.2
  · exact fun h => ⟨fun l hl hn => absurd hn (h l hl), h⟩

theorem requireBaseCurrency_eq_ok {base : Currency} {lines : List PostingLine} :
    requireBaseCurrency base lines = .ok () ↔
      ∀ l ∈ lines, ∀ text, l.fields.baseCurrency = some text → text = base.code := by
  simp only [requireBaseCurrency, refuseIf_eq_ok, not_exists, not_and, Bool.not_eq_true]
  refine forall_congr' fun l => forall_congr' fun _ => ?_
  cases l.fields.baseCurrency with
  | none => simp [fails]
  | some text => simp [fails]

/-- **What an accepted call does**: it recognises an entry, or creates one. -/
theorem accountingPostEntry_cases (h : accountingPostEntry m db c = .ok (db', r)) :
    ∃ p, preparePosting db c = .ok p ∧
      ((∃ e, db.journal.bySource c.actor.source = some e ∧
          some e.postingFingerprint = p.fingerprint ∧ db' = db ∧ r = ⟨e.id, false⟩) ∨
        (db.journal.bySource c.actor.source = none ∧ createEntry m db c p = .ok (db', r))) := by
  simp only [accountingPostEntry, bind_eq_ok] at h
  obtain ⟨p, hp, h⟩ := h
  refine ⟨p, hp, ?_⟩
  cases hsource : db.journal.bySource c.actor.source with
  | none =>
      rw [hsource] at h
      exact .inr ⟨rfl, h⟩
  | some e =>
      rw [hsource] at h
      by_cases hfp : some e.postingFingerprint = p.fingerprint
      · simp only [hfp, if_true] at h
        cases h
        exact .inl ⟨e, rfl, hfp, rfl, rfl⟩
      · simp only [hfp, if_false] at h
        cases h

end Steps

/-! ## 2. Elements -/

/-- What the schema asks of an element. -/
structure Schema (e : Jsonb) : Prop where
  known : ∃ keys, objectKeys e = .ok keys ∧ ∀ k ∈ keys, k ∈ POSTING_LINE_KEYS
  complete : ∀ k ∈ POSTING_LINE_KEYS, e.hasKey k = true
  wellFormed : malformed e = false

/-- The fields whose checks a null passes. -/
def UNCHECKED_NULLS : List String :=
  ["side", "base_currency", "txn_currency", "fx_rate_source", "fx_rate_at"]

/-- None of those fields is null. -/
def NoNulls (e : Jsonb) : Prop := ∀ k ∈ UNCHECKED_NULLS, e.isNull k = false

instance (e : Jsonb) : Decidable (NoNulls e) := inferInstanceAs (Decidable (∀ _ ∈ _, _))

section Elements

variable {e : Jsonb} {es : List Jsonb} {fields : PostingFields} {lines : Option Jsonb}

theorem payloadElements_eq_ok :
    payloadElements lines = .ok es ↔ lines = some (.array es) ∧ 2 ≤ es.length := by
  cases lines with
  | none => simp [payloadElements]
  | some v =>
      cases v with
      | array elements =>
          simp only [payloadElements, bind_eq_ok, refuseIf_eq_ok, exists_const, pure_eq_ok,
            Nat.not_lt, Option.some.injEq, Jsonb.array.injEq]
          constructor
          · rintro ⟨h, rfl⟩
            exact ⟨rfl, h⟩
          · rintro ⟨rfl, h⟩
            exact ⟨h, rfl⟩
      | _ => simp [payloadElements]

theorem checkPayload_eq_ok : checkPayload lines = .ok es ↔
    lines = some (.array es) ∧ 2 ≤ es.length ∧ ∀ e ∈ es, Schema e := by
  simp only [checkPayload, bind_eq_ok, payloadElements_eq_ok, refuseIf_eq_ok, exists_const,
    pure_eq_ok, not_exists, not_and, not_not, Bool.not_eq_false, Bool.not_eq_true]
  constructor
  · rintro ⟨es', ⟨rfl, hlen⟩, keys, hkeys, hknown, hcomplete, hformed, rfl⟩
    refine ⟨rfl, hlen, fun e he => ⟨?_, hcomplete e he, hformed e he⟩⟩
    obtain ⟨ks, hk⟩ := mapM_accepts hkeys he
    exact ⟨ks, hk, hknown ks (mapM_mem hkeys he hk)⟩
  · rintro ⟨rfl, hlen, h⟩
    obtain ⟨keys, hkeys⟩ := mapM_of_forall fun e he => (h e he).known.imp fun _ hk => hk.1
    refine ⟨es, ⟨rfl, hlen⟩, keys, hkeys, fun ks hks => ?_, fun e he => (h e he).complete,
      fun e he => (h e he).wellFormed, rfl⟩
    obtain ⟨e, he, hk⟩ := mapM_source hkeys hks
    obtain ⟨ks', hk', hin⟩ := (h e he).known
    rw [hk] at hk'
    cases hk'
    exact hin

theorem Schema.text_eq_none_iff (h : Schema e) {k : String} (hk : k ∈ POSTING_LINE_KEYS) :
    e.text k = none ↔ e.isNull k = true := by
  rw [Jsonb.text_eq_none_iff, h.complete k hk]
  simp

theorem text_ne_none_of_string {k : String} (hk : e.hasKey k = true)
    (ht : fails (· == "string") (e.typeOf k) = false) : e.text k ≠ none := by
  intro hn
  rcases Jsonb.text_eq_none_iff.mp hn with hno | hnull
  · rw [hk] at hno
    cases hno
  · have hty : e.typeOf k = some "null" := of_decide_eq_true hnull
    rw [hty] at ht
    exact absurd ht (by decide)

/-- The checks of an element, one by one. -/
structure WellFormed (e : Jsonb) : Prop where
  baseAmount : fails (· == "string") (e.typeOf "base_amount_minor") = false
  txnAmount : fails (· == "string") (e.typeOf "txn_amount_minor") = false
  rate : fails (· == "string") (e.typeOf "fx_rate") = false
  side : fails (["D", "C"].contains ·) (e.text "side") = false
  rateSource : fails (["base", "manual", "provider"].contains ·) (e.text "fx_rate_source") = false
  kind : fails (["system", "code"].contains ·) (accountText e "kind") = false
  systemKey : accountText e "kind" = some "system" →
    SYSTEM_KEY_RE ((accountText e "system_key").getD "") = true
  code : accountText e "kind" = some "code" → (accountText e "code").getD "" ≠ ""

theorem Schema.checks (h : Schema e) : WellFormed e := by
  have hm := h.wellFormed
  simp only [malformed, Bool.or_eq_false_iff] at hm
  obtain ⟨⟨⟨⟨⟨⟨⟨⟨⟨⟨⟨⟨⟨⟨⟨h1, h2⟩, h3⟩, -⟩, -⟩, -⟩, h4⟩, h5⟩, -⟩, -⟩, h6⟩, h7⟩, h8⟩, -⟩, -⟩, -⟩ := hm
  refine ⟨h1, h2, h3, h4, h5, h6, fun hk => ?_, fun hk => ?_⟩
  · rw [hk] at h7
    simpa using h7
  · rw [hk] at h8
    simpa using h8

theorem postingFields_eq_ok : postingFields e = .ok fields ↔
    castText bigint (e.text "base_amount_minor") = .ok fields.baseMinor ∧
    castText bigint (e.text "txn_amount_minor") = .ok fields.txnMinor ∧
    castText numericRate (e.text "fx_rate") = .ok fields.rate ∧
    castText timestamptz (e.text "fx_rate_at") = .ok fields.rateAt ∧
    castText uuid (e.text "branch_id") = .ok fields.branchId ∧
    castText uuid (e.text "warehouse_id") = .ok fields.warehouseId ∧
    fields.identity = accountIdentity e ∧ fields.side = e.text "side" ∧
    fields.baseCurrency = (e.text "base_currency").map upper ∧
    fields.txnCurrency = (e.text "txn_currency").map upper ∧
    fields.rateSource = e.text "fx_rate_source" ∧ fields.memo = e.text "memo" := by
  simp only [postingFields, bind_eq_ok, pure_eq_ok]
  constructor
  · intro h
    obtain ⟨_, h1, _, h2, _, h3, _, h4, _, h5, _, h6, rfl⟩ := h
    exact ⟨h1, h2, h3, h4, h5, h6, rfl, rfl, rfl, rfl, rfl, rfl⟩
  · intro h
    obtain ⟨h1, h2, h3, h4, h5, h6, h7, h8, h9, h10, h11, h12⟩ := h
    refine ⟨_, h1, _, h2, _, h3, _, h4, _, h5, _, h6, ?_⟩
    rw [← h7, ← h8, ← h9, ← h10, ← h11, ← h12]

/-- A cast keeps a NULL, and makes none. -/
theorem castText_eq_none {α : Type} {cast : String → Except Refusal α} {text : Option String}
    {v : Option α} (h : castText cast text = .ok v) : v = none ↔ text = none := by
  cases text with
  | none =>
      cases h
      simp
  | some t =>
      obtain ⟨a, _, rfl⟩ := map_eq_ok.mp h
      simp

/-- **An element has canonical text exactly when no unchecked field of it is null.** -/
theorem Schema.facts_ne_none (h : Schema e) (hf : postingFields e = .ok fields)
    (hid : accountIdentity e ≠ none) : fields.facts? ≠ none ↔ NoNulls e := by
  obtain ⟨hbase, htxn, hrate, hat, _, _, hi, hs, hb, ht, hsrc, _⟩ := postingFields_eq_ok.mp hf
  have hkeys : ∀ k ∈ UNCHECKED_NULLS, (e.text k ≠ none ↔ e.isNull k = false) := by
    intro k hk
    have hin : k ∈ POSTING_LINE_KEYS := by
      revert k
      decide
    rw [Ne, h.text_eq_none_iff hin, Bool.not_eq_true]
  have hall : NoNulls e ↔ ∀ k ∈ UNCHECKED_NULLS, e.text k ≠ none :=
    forall_congr' fun k => forall_congr' fun hk => (hkeys k hk).symm
  rw [hall]
  constructor
  · intro hne
    obtain ⟨f, hfacts⟩ := Option.ne_none_iff_exists'.mp hne
    obtain ⟨_, g2, _, g4, _, g6, _, g8, g9, _, _⟩ := PostingFields.facts?_eq_some.mp hfacts
    simp only [UNCHECKED_NULLS, List.forall_mem_cons, List.not_mem_nil, false_implies,
      implies_true, and_true]
    refine ⟨?_, ?_, ?_, ?_, ?_⟩
    · rw [← hs, g2]
      simp
    · intro hn
      rw [hb, hn] at g4
      cases g4
    · intro hn
      rw [ht, hn] at g6
      cases g6
    · rw [← hsrc, g8]
      simp
    · intro hn
      rw [(castText_eq_none hat).mpr hn] at g9
      cases g9
  · intro hne
    simp only [UNCHECKED_NULLS, List.forall_mem_cons, List.not_mem_nil, false_implies,
      implies_true, and_true] at hne
    obtain ⟨n1, n2, n3, n4, n5⟩ := hne
    have hc := h.checks
    have hk : ∀ k ∈ POSTING_LINE_KEYS, e.hasKey k = true := h.complete
    obtain ⟨v1, e1⟩ := Option.ne_none_iff_exists'.mp (hi ▸ hid)
    obtain ⟨v2, e2⟩ := Option.ne_none_iff_exists'.mp (hs ▸ n1)
    obtain ⟨v3, e3⟩ := Option.ne_none_iff_exists'.mp (mt (castText_eq_none hbase).mp
      (text_ne_none_of_string (hk _ (by decide)) hc.baseAmount))
    obtain ⟨t4, e4⟩ := Option.ne_none_iff_exists'.mp n2
    obtain ⟨v5, e5⟩ := Option.ne_none_iff_exists'.mp (mt (castText_eq_none htxn).mp
      (text_ne_none_of_string (hk _ (by decide)) hc.txnAmount))
    obtain ⟨t6, e6⟩ := Option.ne_none_iff_exists'.mp n3
    obtain ⟨v7, e7⟩ := Option.ne_none_iff_exists'.mp (mt (castText_eq_none hrate).mp
      (text_ne_none_of_string (hk _ (by decide)) hc.rate))
    obtain ⟨v8, e8⟩ := Option.ne_none_iff_exists'.mp (hsrc ▸ n4)
    obtain ⟨v9, e9⟩ := Option.ne_none_iff_exists'.mp (mt (castText_eq_none hat).mp n5)
    rw [e4] at hb
    rw [e6] at ht
    exact Option.ne_none_iff_exists'.mpr
      ⟨⟨v1, v2, v3, upper t4, v5, upper t6, v7, v8, v9, fields.branchId, fields.warehouseId⟩,
        PostingFields.facts?_eq_some.mpr ⟨e1, e2, e3, hb, e5, ht, e7, e8, e9, rfl, rfl⟩⟩

end Elements

/-! ## 3. Names of accounts -/

/-- The names a line may give an account. -/
def Account.Named (a : Account) (identity : String) : Prop :=
  a.systemKey = some identity ∨ identity = "code:" ++ a.code

section Names

variable {accounts : AccountTable} {e : Jsonb} {a : Account} {identity : String}

theorem plain_systemKey {k : String} {type : AccountType} (h : (k, type) ∈ SYSTEM_ACCOUNT_KEYS) :
    Plain k.toList ∧ ':' ∉ k.toList := by
  have hall : ∀ x ∈ SYSTEM_ACCOUNT_KEYS, Plain x.1.toList ∧ ':' ∉ x.1.toList := by
    decide +kernel
  exact hall _ h

theorem plain_accountCode {code : String} (h : ACCOUNT_CODE_RE code = true) : Plain code.toList := by
  have hstart : ∀ c, isCodeStart c = true → 32 ≤ c.toNat := by
    intro c hc
    simp only [isCodeStart, Bool.or_eq_true, Bool.and_eq_true, decide_eq_true_eq] at hc
    rcases hc with hc | hc
    · exact (printable_of_isDigit hc).1
    · have hle : 65 ≤ c.toNat := hc.1
      omega
  have hrest : ∀ c, isCodeRest c = true → 32 ≤ c.toNat := by
    intro c hc
    simp only [isCodeRest, Bool.or_eq_true, beq_iff_eq] at hc
    rcases hc with ((hc | rfl) | rfl) | rfl
    · exact hstart c hc
    · decide
    · decide
    · decide
  unfold ACCOUNT_CODE_RE at h
  split at h
  · rename_i c cs heq
    simp only [Bool.and_eq_true, List.all_eq_true] at h
    rw [heq]
    exact .cons (hstart c h.1.1) fun d hd => hrest d (h.1.2 d hd)
  · cases h

theorem Account.Named.plain (h : a.Named identity) : Plain identity.toList := by
  rcases h with hk | rfl
  · exact (plain_systemKey (a.systemKeyType _ hk)).1
  · rw [String.toList_append]
    exact .append (by decide) (plain_accountCode a.codeCheck)

/-- The account an element resolves to has the name the element gives it. -/
theorem named_of_resolved (h : namedAccount accounts e = some a) :
    a ∈ accounts.rows ∧ ∃ identity, accountIdentity e = some identity ∧ a.Named identity := by
  have hp : (accountText e "kind" = some "system" ∧ a.systemKey ≠ none ∧
      a.systemKey = accountText e "system_key") ∨
      (accountText e "kind" = some "code" ∧ some a.code = accountText e "code") := by
    simpa using List.find?_some h
  refine ⟨List.mem_of_find?_eq_some h, ?_⟩
  unfold accountIdentity
  rcases hp with ⟨hk, hne, hkey⟩ | ⟨hk, hcode⟩
  · obtain ⟨k, hk'⟩ := Option.ne_none_iff_exists'.mp hne
    rw [if_pos hk, ← hkey]
    exact ⟨k, hk', .inl hk'⟩
  · rw [hk, if_neg (by decide), ← hcode]
    exact ⟨_, rfl, .inr rfl⟩

/-- **An element resolves whenever some account has the name it gives.** -/
theorem resolved_of_named (hc : WellFormed e) (hkind : accountText e "kind" ≠ none)
    (hid : accountIdentity e = some identity) (ha : a ∈ accounts.rows) (hn : a.Named identity) :
    namedAccount accounts e ≠ none := by
  obtain ⟨kind, hk⟩ := Option.ne_none_iff_exists'.mp hkind
  have hkinds : kind = "system" ∨ kind = "code" := by
    have h := hc.kind
    rw [hk] at h
    by_cases hs : kind = "system"
    · exact .inl hs
    · exact .inr (by simpa [fails, hs] using h)
  have hmatch : (accountText e "kind" = some "system" ∧ a.systemKey ≠ none ∧
      a.systemKey = accountText e "system_key") ∨
      (accountText e "kind" = some "code" ∧ some a.code = accountText e "code") := by
    rcases hkinds with rfl | rfl
    · have hkey := hc.systemKey hk
      unfold accountIdentity at hid
      rw [if_pos hk] at hid
      rcases hn with hn | rfl
      · exact .inl ⟨hk, hn ▸ Option.some_ne_none _, hn.trans hid.symm⟩
      · -- A system key holds no colon.
        rw [hid] at hkey
        simp only [Option.getD_some, SYSTEM_KEY_RE, Bool.and_eq_true, List.all_eq_true] at hkey
        have hcolon : ':' ∈ ("code:" ++ a.code).toList := by
          rw [String.toList_append]
          exact List.mem_append_left _ (by decide)
        exact absurd (hkey.2 _ hcolon) (by decide)
    · unfold accountIdentity at hid
      rw [hk, if_neg (by decide)] at hid
      obtain ⟨code, hcode, rfl⟩ := Option.map_eq_some_iff.mp hid
      rcases hn with hn | hn
      · have hno := (plain_systemKey (a.systemKeyType _ hn)).2
        refine absurd ?_ hno
        rw [String.toList_append]
        exact List.mem_append_left _ (by decide)
      · have htext := congrArg String.toList hn
        rw [String.toList_append, String.toList_append] at htext
        have hsame := String.toList_injective (List.append_cancel_left htext)
        exact .inr ⟨hk, by rw [hcode, hsame]⟩
  intro hnone
  have hno := List.find?_eq_none.mp hnone a ha
  exact hno (decide_eq_true hmatch)

end Names

/-! ## 4. Stored lines -/

/-- The facts of a stored line under a name of its account. -/
def LineRow.facts (r : LineRow) (identity : String) : LineFacts where
  identity := identity
  side := if 0 < r.debitMinor then "D" else "C"
  baseMinor := r.baseMinor
  baseCurrency := r.baseCurrency.code
  txnMinor := r.txnMinor
  txnCurrency := r.txnCurrency.code
  rate := r.rate
  rateSource := r.rateSource
  rateAt := r.rateAt
  branchId := r.branchId
  warehouseId := r.warehouseId

structure StoredAs (accounts : AccountTable) (l : JournalLine) (f : LineFacts) : Prop where
  account : ∃ a ∈ accounts.rows, a.id = l.accountId ∧ a.Named f.identity
  columns : f = l.facts f.identity

/-- The lines an entry was posted with: its fingerprint is theirs. -/
structure PostedEntry.PostedAs (accounts : AccountTable) (e : PostedEntry) (fs : List LineFacts) :
    Prop where
  lines : List.Forall₂ (StoredAs accounts) e.lines fs
  fingerprint : e.postingFingerprint =
    digest (postingStream e.source e.entryDate (fs.map LineFacts.chars))

section Stored

variable {m : PostingMoment} {accounts other : AccountTable} {l : JournalLine} {f : LineFacts}
  {fs : List LineFacts} {n : ℕ} {pl : PostingLine}

theorem LineRow.Checks.rateSource {r : LineRow} (h : r.Checks) : r.rateSource ∈ RATE_SOURCES := by
  rcases h.fxShape with ⟨_, _, _, hs⟩ | ⟨_, _, hs⟩
  · rw [hs]
    decide
  · exact List.mem_cons_of_mem _ hs

theorem StoredAs.stored (h : StoredAs accounts l f) : f.Stored := by
  obtain ⟨a, _, _, hn⟩ := h.account
  have hc := h.columns
  refine ⟨⟨hn.plain, ?_, ?_, ?_⟩, ?_⟩
  · rw [hc]
    by_cases hd : 0 < l.debitMinor
    · exact .inl (if_pos hd)
    · exact .inr (if_neg hd)
  · exact ⟨l.baseCurrency, congrArg LineFacts.baseCurrency hc⟩
  · rw [hc]
    exact l.checks.rateSource
  · exact ⟨l.txnCurrency, congrArg LineFacts.txnCurrency hc⟩

theorem PostedEntry.PostedAs.stored {e : PostedEntry} (h : e.PostedAs accounts fs) :
    ∀ f ∈ fs, f.Stored := by
  intro f hf
  obtain ⟨l, _, hl⟩ := forall₂_source h.lines hf
  exact hl.stored

/-- What the guards keep of the used accounts is what stored lines need. -/
theorem StoredAs.keep {used : List Uuid} (h : StoredAs accounts l f) (hl : l.accountId ∈ used)
    (hk : Keeps used accounts other) : StoredAs other l f := by
  obtain ⟨a, ha, hid, hn⟩ := h.account
  obtain ⟨b, hb, hbid, hcode, hkey⟩ := hk a ha (hid ▸ hl)
  refine ⟨⟨b, hb, hbid.trans hid, ?_⟩, h.columns⟩
  unfold Account.Named
  rw [hcode, hkey]
  exact hn

theorem currencyKey_eq_ok {code : String} {c : Currency} (h : currencyKey code = .ok c) :
    c.code = code := by
  unfold currencyKey at h
  cases hfind : currency? code with
  | none =>
      rw [hfind] at h
      cases h
  | some d =>
      rw [hfind] at h
      cases h
      simpa using List.find?_some hfind

/-- **An inserted line holds the facts of the submitted one.** -/
theorem journalLine_eq_ok (h : journalLine m n pl = .ok l) : ∃ f a, pl.fields.facts? = some f ∧
    pl.account = some a ∧ l.accountId = a.id ∧ (f.side = "D" ∨ f.side = "C") ∧
    f = l.facts f.identity := by
  unfold journalLine at h
  split at h
  · rename_i f a hfacts haccount
    simp only [bind_eq_ok] at h
    obtain ⟨base, hbase, txn, htxn, _, _, _, _, h⟩ := h
    split at h
    · rename_i hchecks
      cases h
      have hside := hchecks.oneSide
      simp only [lineRow] at hside
      refine ⟨f, a, hfacts, haccount, rfl, ?_, ?_⟩
      · by_cases hd : f.side = "D"
        · exact .inl hd
        · by_cases hcr : f.side = "C"
          · exact .inr hcr
          · rw [if_neg hd, if_neg hcr] at hside
            omega
      · have hs : f.side = if 0 < (if f.side = "D" then f.baseMinor else 0) then "D" else "C" := by
          by_cases hd : f.side = "D"
          · have hcr : f.side ≠ "C" := by
              rw [hd]
              decide
            rw [if_pos hd, if_neg hcr] at hside
            rw [if_pos hd, if_pos (by omega)]
            exact hd
          · rw [if_neg hd] at hside ⊢
            by_cases hcr : f.side = "C"
            · rw [if_neg (by omega)]
              exact hcr
            · rw [if_neg hcr] at hside
              omega
        cases f
        simp only [LineRow.facts, lineRow, LineFacts.mk.injEq, true_and, and_true]
        exact ⟨hs, (currencyKey_eq_ok hbase).symm, (currencyKey_eq_ok htxn).symm⟩
    · cases h
  · cases h

end Stored

end Daftar.Accounting
