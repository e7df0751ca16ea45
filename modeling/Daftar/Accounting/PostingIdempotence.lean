/-
  File: Daftar/Accounting/PostingIdempotence.lean
  Subject: Postings submitted again, and what a fingerprint covers of a payload.

  * `PostsOnce`: a source is posted once, a posted command answered again and again, and other
    facts of the same source refused. Commands with a null that the schema does not see are left
    out: such an element has no canonical text, and the fingerprint passes over it.
  * `posting_covers_iff`: the entry a call returns has the lines of its payload exactly when the
    payload holds no such null.
-/

import Daftar.Accounting.PostingReplay

namespace Daftar.Accounting

open AsciiText
open CivilDate
open Fallible
open Histories
open Sha256

/-! ## 1. Commands submitted again -/

/-- The narrative of an element may be reworded. -/
structure Reworded (e e' : Jsonb) : Prop where
  keys : objectKeys e' = objectKeys e
  members : ∀ k, k ≠ "memo" → e'.member k = e.member k
  memo : e'.typeOf "memo" = some "string" ∨ e'.typeOf "memo" = some "null"

/-- A command submitted again, its lines in any order. Its description, its request id and its
    user are free. -/
structure Resubmits (c c' : PostingCommand) : Prop where
  kind : c'.actor.operationKind = c.actor.operationKind
  source : c'.actor.source = c.actor.source
  signed : c'.actor.postingFingerprint = c.actor.postingFingerprint
  date : c'.entryDate = c.entryDate
  lines : ∃ es es' ordered, c.lines = some (.array es) ∧ c'.lines = some (.array es') ∧
    List.Forall₂ Reworded es ordered ∧ ordered.Perm es'

/-- No element holds a null that the schema does not see. -/
def PostingCommand.NoNulls (c : PostingCommand) : Prop := ∀ e ∈ c.elements, Accounting.NoNulls e

instance (c : PostingCommand) : Decidable c.NoNulls := inferInstanceAs (Decidable (∀ _ ∈ _, _))

section Rewording

variable {base : Currency} {messages : List (List UInt8)} {e e' : Jsonb} {es : List Jsonb}
  {entry : PostedEntry} {c c' : PostingCommand}

theorem Reworded.text (h : Reworded e e') {k : String} (hk : k ≠ "memo") : e'.text k = e.text k := by
  unfold Jsonb.text
  rw [h.members k hk]

theorem Reworded.typeOf (h : Reworded e e') {k : String} (hk : k ≠ "memo") :
    e'.typeOf k = e.typeOf k := by
  unfold Jsonb.typeOf
  rw [h.members k hk]

theorem Reworded.accountText (h : Reworded e e') (k : String) :
    accountText e' k = accountText e k := by
  unfold Accounting.accountText
  rw [h.members "account" (by decide)]

theorem Reworded.accountIdentity (h : Reworded e e') : accountIdentity e' = accountIdentity e := by
  unfold Accounting.accountIdentity
  rw [h.accountText, h.accountText, h.accountText]

theorem Reworded.hasMemo (h : Reworded e e') : e'.hasKey "memo" = true := by
  rcases h.memo with hm | hm
  · exact Jsonb.hasKey_of_typeOf hm
  · exact Jsonb.hasKey_of_typeOf hm

theorem Reworded.schema (h : Reworded e e') (hs : Schema e) : Schema e' := by
  refine ⟨?_, fun k hk => ?_, ?_⟩
  · rw [h.keys]
    exact hs.known
  · by_cases hm : k = "memo"
    · rw [hm]
      exact h.hasMemo
    · have hold := hs.complete k hk
      unfold Jsonb.hasKey at hold ⊢
      rwa [h.members k hm]
  · have hold := hs.wellFormed
    have hmemo : fails (["string", "null"].contains ·) (e'.typeOf "memo") = false := by
      rcases h.memo with hm | hm <;> rw [hm] <;> decide
    unfold malformed at hold ⊢
    rw [Bool.or_eq_false_iff] at hold ⊢
    refine ⟨?_, hmemo⟩
    rw [h.typeOf (by decide), h.typeOf (by decide), h.typeOf (by decide), h.text (by decide),
      h.text (by decide), h.text (by decide), h.text (by decide), h.text (by decide),
      h.text (by decide), h.typeOf (by decide), h.accountText, h.accountText, h.accountText,
      h.typeOf (by decide), h.typeOf (by decide)]
    exact hold.1

theorem Reworded.postingFields (h : Reworded e e') {fields : PostingFields}
    (hf : postingFields e = .ok fields) :
    postingFields e' = .ok { fields with memo := e'.text "memo" } := by
  rw [postingFields_eq_ok] at hf ⊢
  dsimp only
  rw [h.text (by decide), h.text (by decide), h.text (by decide), h.text (by decide),
    h.text (by decide), h.text (by decide), h.text (by decide), h.text (by decide),
    h.text (by decide), h.text (by decide), h.accountIdentity]
  obtain ⟨h1, h2, h3, h4, h5, h6, h7, h8, h9, h10, h11, _⟩ := hf
  exact ⟨h1, h2, h3, h4, h5, h6, h7, h8, h9, h10, h11, rfl⟩

theorem Reworded.readable (h : Reworded e e') (hr : Readable base e) : Readable base e' := by
  obtain ⟨fields, hfields, hbase⟩ := hr.fields
  refine ⟨h.schema hr.schema, ?_, ?_, _, h.postingFields hfields, hbase⟩
  · rw [h.accountText]
    exact hr.kind
  · rw [h.accountIdentity]
    exact hr.identity

theorem Reworded.noNulls (h : Reworded e e') (hn : Accounting.NoNulls e) : Accounting.NoNulls e' := by
  intro k hk
  have hne : k ≠ "memo" := by
    revert k
    decide
  have hold := hn k hk
  unfold Jsonb.isNull at hold ⊢
  rwa [h.typeOf hne]

/-- **The canonical text of an element does not hold its narrative.** -/
theorem Reworded.canonicalElement (h : Reworded e e') (hr : Readable base e) :
    canonicalElement e' = canonicalElement e := by
  obtain ⟨fields, hfields, _⟩ := hr.fields
  rw [canonicalElement_eq hfields, canonicalElement_eq (h.postingFields hfields)]
  rfl

/-- **A command submitted again says what it said.** -/
theorem Resubmits.canonicalLines (h : Resubmits c c') (hr : ∀ e ∈ c.elements, Readable base e) :
    c'.canonicalLines.Perm c.canonicalLines := by
  obtain ⟨es, es', ordered, hes, hes', hall, hperm⟩ := h.lines
  have hread : ∀ e ∈ es, Readable base e := by
    intro e he
    refine hr e ?_
    unfold PostingCommand.elements
    rwa [hes]
  unfold PostingCommand.canonicalLines PostingCommand.elements
  rw [hes, hes']
  refine (hperm.map canonicalElement).symm.trans (.of_eq ?_)
  clear hes hperm h
  induction hall with
  | nil => rfl
  | cons hre _ ih =>
      rw [List.map_cons, List.map_cons, hre.canonicalElement (hread _ List.mem_cons_self),
        ih fun e he => hread e (List.mem_cons_of_mem _ he)]

theorem Resubmits.stream (h : Resubmits c c') (hr : ∀ e ∈ c.elements, Readable base e) :
    c'.stream = c.stream := by
  unfold PostingCommand.stream
  rw [h.date, h.source]
  cases c.entryDate with
  | none => rfl
  | some date =>
      cases date with
      | day d =>
          unfold postingStream postingChars
          rw [sortedLines_of_perm ((h.canonicalLines hr).filterMap id)]
      | _ => rfl

/-- **A command submitted again repeats the entry the command repeats.** -/
theorem Repeats.resubmitted (h : Repeats messages base entry c es) (hc : Resubmits c c') :
    ∃ es', Repeats messages base entry c' es' := by
  have hread : ∀ e ∈ c.elements, Readable base e := by
    unfold PostingCommand.elements
    rw [h.lines]
    exact h.readable
  have hstream := hc.stream hread
  obtain ⟨es₀, es', ordered, hes, hes', hall, hperm⟩ := hc.lines
  rw [h.lines] at hes
  cases hes
  have hsource : ∀ e' ∈ es', ∃ e ∈ es, Reworded e e' := fun e' he' =>
    forall₂_source hall (hperm.mem_iff.mpr he')
  obtain ⟨st, hst, hdigest⟩ := h.stream
  refine ⟨es', ⟨hc.kind.trans h.kind, hes', ?_, fun e' he' => ?_, st, hstream.trans hst,
    hdigest.trans hc.signed.symm⟩, hc.source.trans h.source, hc.signed.trans h.fingerprint,
    fun e' he' => ?_, hstream ▸ h.hashed⟩
  · rw [← hperm.length_eq, ← hall.length_eq]
    exact h.length
  · obtain ⟨e, he, hre⟩ := hsource e' he'
    exact hre.readable (h.readable e he)
  · obtain ⟨e, he, hre⟩ := hsource e' he'
    exact hre.noNulls (h.noNulls e he)

end Rewording

/-! ## 2. A sample posting -/

def sampleAccount (d : ℕ) (code : String) (hcode : ACCOUNT_CODE_RE code = true) : Account where
  id := .sample d
  code := code
  name := "Account"
  type := .asset
  systemKey := none
  isActive := true
  codeCheck := hcode
  nameCheck := by decide
  systemKeyType := fun _ hk => nomatch hk

def sampleAccounts : List Account :=
  [ sampleAccount 10 "1000" (by decide +kernel),
    sampleAccount 11 "2000" (by decide +kernel),
    sampleAccount 12 "3000" (by decide +kernel) ]

def sampleLedger : Ledger where
  store := sampleStore
  baseCurrency := .ils
  timezone := "Asia/Jerusalem"
  financialStartedAt := none
  accounts := ⟨sampleAccounts, by decide +kernel, by decide +kernel, by decide +kernel⟩
  journal := .empty

def sampleElement (code : String) (side : Jsonb) : Jsonb :=
  .object
    [ ("account", .object [("kind", .string "code"), ("code", .string code)]), ("side", side),
      ("base_amount_minor", .string "100"), ("base_currency", .string "ILS"),
      ("txn_amount_minor", .string "100"), ("txn_currency", .string "ILS"),
      ("fx_rate", .string "1.0000000000"), ("fx_rate_source", .string "base"),
      ("fx_rate_at", .string "2025-01-02T00:00:00Z"), ("branch_id", .null),
      ("warehouse_id", .null), ("memo", .null) ]

def sampleFields (code : String) (side : Option String) : PostingFields where
  identity := some ("code:" ++ code)
  side := side
  baseMinor := some 100
  baseCurrency := some "ILS"
  txnMinor := some 100
  txnCurrency := some "ILS"
  rate := some RATE_SCALE
  rateSource := some "base"
  rateAt := some (9133 * 86400)
  branchId := none
  warehouseId := none
  memo := none

def sampleElements : List Jsonb :=
  [sampleElement "1000" (.string "D"), sampleElement "2000" (.string "C")]

def sampleSource : PostingSource where
  tenantId := .sample 1
  businessId := .sample 2
  sourceType := "manual_adjustment"
  sourceId := .sample 9

def sampleStream : List UInt8 :=
  postingStream sampleSource 9133 (sampleElements.filterMap canonicalElement)

/-- The elements, signed for the first two of them. -/
def sampleCommand (elements : List Jsonb) : PostingCommand where
  actor :=
    { actorUserId := .sample 5
      operationKind := "post"
      source := sampleSource
      postingFingerprint := digest sampleStream }
  entryDate := some (.day 9133)
  description := none
  requestId := none
  lines := some (.array elements)

def sampleMoment : PostingMoment where
  now := 0
  civilDate := fun _ _ => 9133
  entryId := .sample 8
  users := [.sample 5]
  branches := []
  warehouses := []
  deferred := .ok ()

/-- The same posting with one more element, on an unused account and without a side. -/
def nullSideElements : List Jsonb := sampleElements ++ [sampleElement "3000" .null]

def sampleLines : List PostingLine :=
  resultD (sampleElements.mapM (resolveLine sampleLedger.accounts)) []

/-- The ledger with the entry. -/
def samplePosted : Ledger :=
  (resultD (createEntry sampleMoment sampleLedger (sampleCommand sampleElements)
    ⟨sampleLines, some (digest sampleStream)⟩) (sampleLedger, ⟨sampleMoment.entryId, true⟩)).1

section Samples

theorem sampleElement_kind (code : String) (side : Jsonb) :
    accountText (sampleElement code side) "kind" = some "code" := rfl

theorem sampleElement_identity (code : String) (side : Jsonb) :
    accountIdentity (sampleElement code side) = some ("code:" ++ code) := rfl

theorem sampleElement_readable {code : String} {side : Jsonb}
    (hformed : malformed (sampleElement code side) = false)
    (hplain : Plain ("code:" ++ code).toList) : Readable .ils (sampleElement code side) := by
  refine ⟨⟨⟨POSTING_LINE_KEYS, rfl, fun _ h => h⟩, ?_, hformed⟩, by rw [sampleElement_kind]; decide,
    ⟨_, sampleElement_identity code side, hplain⟩, sampleFields code side.asText, ?_, ?_⟩
  · simp [POSTING_LINE_KEYS, sampleElement, Jsonb.hasKey, Jsonb.member]
  · rw [postingFields_eq_ok]
    refine ⟨?_, ?_, ?_, ?_, rfl, rfl, (sampleElement_identity code side).symm, rfl, rfl, rfl, rfl, rfl⟩
    · exact congrArg (some <$> ·) (by decide +kernel : bigint "100" = .ok 100)
    · exact congrArg (some <$> ·) (by decide +kernel : bigint "100" = .ok 100)
    · exact congrArg (some <$> ·) (by decide +kernel : numericRate "1.0000000000" = .ok RATE_SCALE)
    · exact congrArg (some <$> ·)
        (by decide +kernel : timestamptz "2025-01-02T00:00:00Z" = .ok (9133 * 86400))
  · intro text h
    cases h
    rfl

theorem nullSideElements_readable : ∀ e ∈ nullSideElements, Readable .ils e := by
  intro e he
  simp only [nullSideElements, sampleElements, List.cons_append, List.nil_append, List.mem_cons,
    List.not_mem_nil, or_false] at he
  rcases he with rfl | rfl | rfl
  · exact sampleElement_readable (by decide +kernel) (by decide)
  · exact sampleElement_readable (by decide +kernel) (by decide)
  · exact sampleElement_readable (by decide +kernel) (by decide)

/-- The element with the null side has no canonical text. -/
theorem nullSideElements_canonical :
    nullSideElements.filterMap canonicalElement = sampleElements.filterMap canonicalElement := by
  rw [nullSideElements, List.filterMap_append]
  exact List.append_nil _

theorem sampleCommand_stream {es : List Jsonb}
    (h : es.filterMap canonicalElement = sampleElements.filterMap canonicalElement) :
    (sampleCommand es).stream = some sampleStream := by
  show some (postingStream sampleSource 9133 ((es.map canonicalElement).filterMap id)) = _
  rw [List.filterMap_map, Function.id_comp, h]
  rfl

theorem sampleElements_signed : Signed .ils (sampleCommand sampleElements) sampleElements :=
  ⟨rfl, rfl, by decide, fun e he => nullSideElements_readable e (List.mem_append_left _ he),
    sampleStream, sampleCommand_stream rfl, rfl⟩

theorem nullSideElements_signed : Signed .ils (sampleCommand nullSideElements) nullSideElements :=
  ⟨rfl, rfl, by decide, nullSideElements_readable, sampleStream,
    sampleCommand_stream nullSideElements_canonical, rfl⟩

theorem samplePosting_created :
    createEntry sampleMoment sampleLedger (sampleCommand sampleElements)
      ⟨sampleLines, some (digest sampleStream)⟩ = .ok (samplePosted, ⟨sampleMoment.entryId, true⟩) :=
  eq_ok_of_snd (by decide +kernel)

theorem samplePosting_posted :
    accountingPostEntry sampleMoment sampleLedger (sampleCommand sampleElements) =
      .ok (samplePosted, ⟨sampleMoment.entryId, true⟩) := by
  obtain ⟨p, hp, hfp, hlines⟩ := sampleElements_signed.prepared sampleLedger rfl rfl
    fun el hel => ⟨by revert el; decide +kernel, rfl⟩
  have hsample : p = ⟨sampleLines, some (digest sampleStream)⟩ := by
    unfold sampleLines
    rw [hlines]
    cases p
    cases hfp
    rfl
  unfold accountingPostEntry
  rw [hp, ok_bind, hsample]
  exact samplePosting_created

/-- **The command with the null side is taken for a replay.** -/
theorem nullSide_replayed :
    accountingPostEntry sampleMoment samplePosted (sampleCommand nullSideElements) =
      .ok (samplePosted, ⟨sampleMoment.entryId, false⟩) := by
  obtain ⟨entry, hc⟩ := createEntry_eq_ok samplePosting_created
  have hid : sampleMoment.entryId = entry.id := congrArg PostingResult.entryId hc.result
  obtain ⟨p, hp, hfp, _⟩ := nullSideElements_signed.prepared samplePosted
    (by rw [hc.store]; rfl) (by rw [hc.store]; rfl) fun el hel => by
      rw [hc.accounts, hc.baseCurrency]
      exact ⟨by revert el; decide +kernel, rfl⟩
  have hentry : entry ∈ samplePosted.journal.entries := by
    rw [hc.journal]
    exact List.mem_cons_self
  have hsigned : (sampleCommand nullSideElements).actor.postingFingerprint = digest sampleStream := rfl
  have hsame : some entry.postingFingerprint = p.fingerprint := by
    rw [hfp, hsigned, ← hc.fingerprint]
  have hsource : entry.source = sampleSource := hc.source
  rw [accountingPostEntry_posted hentry hsource hp, if_pos hsame, hid]

theorem sampleHistory_after : afterAll ledgerCall sampleLedger
    [.post sampleMoment (sampleCommand sampleElements)] = samplePosted := by
  have hcall : ledgerCall sampleLedger (.post sampleMoment (sampleCommand sampleElements)) =
      .ok (samplePosted, some ⟨sampleMoment.entryId, true⟩) := by
    simp only [ledgerCall, samplePosting_posted, ok_bind]
    rfl
  rw [afterAll, List.foldl_cons, List.foldl_nil, after_of_ok hcall]

end Samples

/-! ## 3. Postings over a history -/

/-- A call of the history that was accepted. -/
structure Accepted (start : Ledger) (history : List LedgerCall) (c : PostingCommand)
    (r : PostingResult) : Prop where
  call : ∃ before later m db, history = before ++ .post m c :: later ∧
    accountingPostEntry m (afterAll ledgerCall start before) c = .ok (db, r)

/-- Two commands with the same canonical facts: the text of the date, and the canonical lines in
    any order. -/
structure SameFacts (c c' : PostingCommand) : Prop where
  date : c.dateText = c'.dateText
  lines : c.canonicalLines.Perm c'.canonicalLines

/-- What a history of calls decides of later ones. -/
structure PostsOnce (start : Ledger) (history : List LedgerCall) (now : Ledger) : Prop where
  once : ∀ e ∈ now.journal.entries, ∀ e' ∈ now.journal.entries,
    e.source.businessId = e'.source.businessId → e.source.sourceType = e'.source.sourceType →
    e.source.sourceId = e'.source.sourceId → e = e'
  /-- Submitted again: the same entry, not created, and the ledger as it is. -/
  replay : ∀ c r, Accepted start history c r → c.NoNulls → ∀ c', Resubmits c c' → ∀ m,
    ledgerCall now (.post m c') = .ok (now, some ⟨r.entryId, false⟩)
  /-- Other facts of the same source: refused, and the ledger as it is. -/
  conflict : ∀ c r, Accepted start history c r → c.NoNulls → ∀ c', c'.NoNulls →
    c'.actor.source = c.actor.source → (∃ p, preparePosting now c' = .ok p) →
    CollisionFree (c'.stream.toList ++ history.flatMap LedgerCall.messages) → ¬ SameFacts c c' →
    ∀ m, ledgerCall now (.post m c') = .error (.accounting .idempotencyConflict) ∧
      after ledgerCall now (.post m c') = now

section Postings

variable {start db db' : Ledger} {history : List LedgerCall} {c c' : PostingCommand}
  {r : PostingResult} {m : PostingMoment} {messages : List (List UInt8)} {e : PostedEntry}
  {es : List Jsonb} {base : Currency}

/-- **The entry of an accepted call, and that the call repeats it.** -/
theorem accepted_repeats (hms : c.stream.toList ⊆ messages) (hnulls : c.NoNulls)
    (hcall : accountingPostEntry m db c = .ok (db', r)) :
    ∃ e ∈ db'.journal.entries, e.id = r.entryId ∧ ∃ es, Repeats messages db.baseCurrency e c es := by
  obtain ⟨p, hprep, hdone⟩ := accountingPostEntry_cases hcall
  obtain ⟨es, hp⟩ := preparePosting_eq_ok.mp hprep
  rcases hdone with ⟨e, hfind, hfp, rfl, rfl⟩ | ⟨_, hcreate⟩
  · obtain ⟨he, hsource⟩ := bySource_eq_some.mp hfind
    exact ⟨e, he, rfl, es, hp.repeats hsource hfp.symm hnulls hms⟩
  · obtain ⟨e, hc⟩ := createEntry_eq_ok hcreate
    refine ⟨e, ?_, ?_, es, hp.repeats hc.source hc.fingerprint hnulls hms⟩
    · rw [hc.journal]
      exact List.mem_cons_self
    · rw [hc.result]

theorem Accepted.repeats (h : Accepted start history c r) (hnulls : c.NoNulls) :
    ∃ e ∈ (afterAll ledgerCall start history).journal.entries, e.id = r.entryId ∧
      ∃ base es, Repeats (history.flatMap LedgerCall.messages) base e c es := by
  obtain ⟨before, later, m, db, rfl, hcall⟩ := h.call
  have hms : c.stream.toList ⊆ (before ++ .post m c :: later).flatMap LedgerCall.messages :=
    fun x hx => List.mem_flatMap.mpr ⟨.post m c, by simp, hx⟩
  obtain ⟨e, he, hid, es, hr⟩ := accepted_repeats hms hnulls hcall
  refine ⟨e, ?_, hid, _, es, hr⟩
  have hafter : after ledgerCall (afterAll ledgerCall start before) (.post m c) = db := by
    refine after_of_ok (r := some r) ?_
    simp only [ledgerCall, hcall, ok_bind]
    rfl
  rw [afterAll, List.foldl_append, List.foldl_cons]
  show e ∈ (afterAll ledgerCall (after ledgerCall (afterAll ledgerCall start before) _) later).journal.entries
  rw [hafter]
  exact entries_afterAll he

/-- Two commands that repeat one entry say the same. -/
theorem Repeats.sameFacts {base' : Currency} {es' : List Jsonb}
    (hdb : db.Faithful messages) (hfree : CollisionFree messages) (he : e ∈ db.journal.entries)
    (h : Repeats messages base e c es) (h' : Repeats messages base' e c' es') : SameFacts c c' := by
  obtain ⟨fs, hposted, hms⟩ := hdb.posted e he
  obtain ⟨gs, hgs⟩ := states_all h.readable h.noNulls
  obtain ⟨gs', hgs'⟩ := states_all h'.readable h'.noNulls
  obtain ⟨hdate, hperm⟩ := h.facts hfree hposted hms hgs
  obtain ⟨hdate', hperm'⟩ := h'.facts hfree hposted hms hgs'
  refine ⟨hdate.trans hdate'.symm, ?_⟩
  rw [h.canonicalLines hgs, h'.canonicalLines hgs']
  exact (hperm.symm.trans hperm').map some

/-- **Postings are idempotent over histories**, of commands without unseen nulls. -/
theorem posts_once (hstart : start.journal = .empty)
    (hfree : CollisionFree (history.flatMap LedgerCall.messages)) :
    PostsOnce start history (afterAll ledgerCall start history) := by
  have hfaithful : (afterAll ledgerCall start history).Faithful
      (history.flatMap LedgerCall.messages) :=
    faithful_afterAll (Ledger.faithful_empty hstart) (List.Subset.refl _)
  constructor
  case once =>
    intro e he e' he' hbusiness htype hid
    have htenant := (hfaithful.owner e he).2.trans (hfaithful.owner e' he').2.symm
    refine List.inj_on_of_nodup_map (afterAll ledgerCall start history).journal.sources he he' ?_
    rcases e with ⟨_, ⟨_, _, _, _⟩, _, _, _, _, _, _⟩
    rcases e' with ⟨_, ⟨_, _, _, _⟩, _, _, _, _, _, _⟩
    simp only [PostingSource.mk.injEq]
    exact ⟨htenant, hbusiness, htype, hid⟩
  case replay =>
    intro c r haccepted hnulls c' hc m
    obtain ⟨e, he, hid, base, es, hrepeats⟩ := haccepted.repeats hnulls
    obtain ⟨es', hrepeats'⟩ := hrepeats.resubmitted hc
    simp only [ledgerCall, posted_answers hfaithful hfree he hrepeats', ok_bind, hid]
    rfl
  case conflict =>
    intro c r haccepted hnulls c' hnulls' hsource hprepared hfree' hfacts m
    obtain ⟨e, he, _, base, es, hrepeats⟩ := haccepted.repeats hnulls
    obtain ⟨p, hprep⟩ := hprepared
    obtain ⟨es', hp⟩ := preparePosting_eq_ok.mp hprep
    have hsource' : e.source = c'.actor.source := hrepeats.source.symm.trans hsource.symm
    have hne : some e.postingFingerprint ≠ p.fingerprint := by
      intro hfp
      have hsub := List.subset_append_right c'.stream.toList (history.flatMap LedgerCall.messages)
      have hmore := faithful_afterAll (Ledger.faithful_empty hstart) hsub
      have hrepeats' := hp.repeats hsource' hfp.symm hnulls' (List.subset_append_left _
        (history.flatMap LedgerCall.messages))
      exact hfacts ((hrepeats.mono hsub).sameFacts hmore hfree' he hrepeats')
    have hcall : ledgerCall (afterAll ledgerCall start history) (.post m c') =
        .error (.accounting .idempotencyConflict) := by
      simp only [ledgerCall, accountingPostEntry_posted he hsource' hprep, if_neg hne, error_bind]
    exact ⟨hcall, after_of_error hcall⟩

end Postings

theorem posts_once_sample :
    Accepted sampleLedger [.post sampleMoment (sampleCommand sampleElements)]
        (sampleCommand sampleElements) ⟨sampleMoment.entryId, true⟩ ∧
      PostsOnce sampleLedger [.post sampleMoment (sampleCommand sampleElements)]
        (afterAll ledgerCall sampleLedger [.post sampleMoment (sampleCommand sampleElements)]) := by
  refine ⟨⟨[], [], sampleMoment, samplePosted, rfl, samplePosting_posted⟩, posts_once rfl ?_⟩
  intro x hx y hy _
  exact (List.mem_singleton.mp hx).trans (List.mem_singleton.mp hy).symm

/-- The account that only the null side names gets another code. -/
def nullSideHistory : List LedgerCall :=
  [ .post sampleMoment (sampleCommand sampleElements),
    .post sampleMoment (sampleCommand nullSideElements),
    .updateAccount (.sample 12)
      (sampleAccount 12 "4000" (by decide +kernel)) ]

def sampleRenamed : Ledger :=
  (resultD (ledgerCall samplePosted (.updateAccount (.sample 12)
    (sampleAccount 12 "4000" (by decide +kernel)))) (samplePosted, none)).1

theorem nullSideHistory_after : afterAll ledgerCall sampleLedger nullSideHistory = sampleRenamed := by
  have hrenamed : ledgerCall samplePosted (.updateAccount (.sample 12)
      (sampleAccount 12 "4000" (by decide +kernel))) = .ok (sampleRenamed, none) :=
    eq_ok_of_snd (by decide +kernel)
  have hreplayed : ledgerCall samplePosted (.post sampleMoment (sampleCommand nullSideElements)) =
      .ok (samplePosted, some ⟨sampleMoment.entryId, false⟩) := by
    simp only [ledgerCall, nullSide_replayed, ok_bind]
    rfl
  have hposted := sampleHistory_after
  rw [afterAll, List.foldl_cons, List.foldl_nil] at hposted
  rw [nullSideHistory, afterAll, List.foldl_cons, hposted, List.foldl_cons, after_of_ok hreplayed,
    List.foldl_cons, after_of_ok hrenamed, List.foldl_nil]

/-- **With a null side, an accepted command is refused when it is submitted again.** -/
theorem not_posts_once_null_side :
    CollisionFree (nullSideHistory.flatMap LedgerCall.messages) ∧
      Accepted sampleLedger nullSideHistory (sampleCommand nullSideElements)
        ⟨sampleMoment.entryId, false⟩ ∧
      Resubmits (sampleCommand nullSideElements) (sampleCommand nullSideElements) ∧
      ledgerCall (afterAll ledgerCall sampleLedger nullSideHistory)
        (.post sampleMoment (sampleCommand nullSideElements)) =
          .error (.accounting .accountNotFound) := by
  refine ⟨?_, ⟨[_], [_], sampleMoment, samplePosted, rfl, ?_⟩, ⟨rfl, rfl, rfl, rfl, _, _, _, rfl, rfl,
    List.forall₂_same.mpr fun e he => ?_, List.Perm.refl _⟩, ?_⟩
  · have hmessages : nullSideHistory.flatMap LedgerCall.messages = [sampleStream, sampleStream] := by
      simp only [nullSideHistory, List.flatMap_cons, List.flatMap_nil, LedgerCall.messages,
        sampleCommand_stream, nullSideElements_canonical]
      rfl
    rw [hmessages]
    intro x hx y hy _
    simp only [List.mem_cons, List.not_mem_nil, or_false, or_self] at hx hy
    exact hx.trans hy.symm
  · rw [sampleHistory_after]
    exact nullSide_replayed
  · obtain ⟨code, side, rfl⟩ : ∃ code side, e = sampleElement code side := by
      simp only [nullSideElements, sampleElements, List.cons_append, List.nil_append, List.mem_cons,
        List.not_mem_nil, or_false] at he
      rcases he with rfl | rfl | rfl
      · exact ⟨_, _, rfl⟩
      · exact ⟨_, _, rfl⟩
      · exact ⟨_, _, rfl⟩
    exact ⟨rfl, fun _ _ => rfl, .inr rfl⟩
  · rw [nullSideHistory_after]
    exact eq_error_of_refusal (by decide +kernel)

/-! ## 4. What a fingerprint covers -/

/-- The lines of an entry and the elements of a payload have the same canonical texts; a line has
    its text under a name of its account. -/
structure Covered (accounts : AccountTable) (e : PostedEntry) (c : PostingCommand) : Prop where
  count : e.lines.length = c.elements.length
  texts : ∃ fs, List.Forall₂ (StoredAs accounts) e.lines fs ∧
    c.canonicalLines.Perm ((fs.map LineFacts.chars).map some)

section Coverage

variable {start db db' : Ledger} {history : List LedgerCall} {c : PostingCommand}
  {r : PostingResult} {m : PostingMoment} {messages : List (List UInt8)} {e : PostedEntry}
  {es : List Jsonb} {base : Currency} {p : PreparedPosting}

theorem covered_of_texts {fs : List LineFacts} {accounts : AccountTable}
    (hstored : List.Forall₂ (StoredAs accounts) e.lines fs)
    (hperm : c.canonicalLines.Perm ((fs.map LineFacts.chars).map some)) : Covered accounts e c := by
  refine ⟨?_, fs, hstored, hperm⟩
  have hlen := hperm.length_eq
  rw [PostingCommand.canonicalLines, List.length_map, List.length_map, List.length_map] at hlen
  exact hstored.length_eq.trans hlen.symm

/-- An element without canonical text is not covered. -/
theorem Covered.noNulls (h : Covered db.accounts e c) (hread : ∀ el ∈ c.elements, Readable base el) :
    c.NoNulls := by
  obtain ⟨fs, _, hperm⟩ := h.texts
  intro el hel
  refine (hread el hel).noNulls fun hn => ?_
  have hmem : none ∈ (fs.map LineFacts.chars).map some :=
    hperm.mem_iff.mp (List.mem_map.mpr ⟨el, hel, hn⟩)
  obtain ⟨_, _, hsome⟩ := List.mem_map.mp hmem
  cases hsome

theorem Repeats.covered (h : Repeats messages base e c es) (hdb : db.Faithful messages)
    (hfree : CollisionFree messages) (he : e ∈ db.journal.entries) : Covered db.accounts e c := by
  obtain ⟨fs, hposted, hms⟩ := hdb.posted e he
  obtain ⟨gs, hgs⟩ := states_all h.readable h.noNulls
  obtain ⟨_, hperm⟩ := h.facts hfree hposted hms hgs
  refine covered_of_texts hposted.lines ?_
  rw [h.canonicalLines hgs]
  exact hperm.symm.map some

/-- **The entry a call returns has the lines of its payload exactly when no element holds a null
    that the schema does not see**, in every state a history leads to. -/
theorem posting_covers_iff (hstart : start.journal = .empty)
    (hfree : CollisionFree (c.stream.toList ++ history.flatMap LedgerCall.messages))
    (hcall : accountingPostEntry m (afterAll ledgerCall start history) c = .ok (db', r)) :
    (∃ e ∈ db'.journal.entries, e.id = r.entryId ∧ Covered db'.accounts e c) ↔ c.NoNulls := by
  have hsub := List.subset_append_right c.stream.toList (history.flatMap LedgerCall.messages)
  have hms := List.subset_append_left c.stream.toList (history.flatMap LedgerCall.messages)
  have hfaithful := faithful_afterAll (Ledger.faithful_empty hstart) hsub
  constructor
  · intro h
    obtain ⟨e, _, _, hcovered⟩ := h
    obtain ⟨p, hprep, _⟩ := accountingPostEntry_cases hcall
    obtain ⟨es, hp⟩ := preparePosting_eq_ok.mp hprep
    have hread := hp.readable
    rw [← hp.elements] at hread
    exact hcovered.noNulls hread
  · intro hnulls
    obtain ⟨e, he, hid, es, hrepeats⟩ := accepted_repeats hms hnulls hcall
    have hfaithful' := accountingPostEntry_faithful hfaithful hms hcall
    exact ⟨e, he, hid, hrepeats.covered hfaithful' hfree he⟩

end Coverage

theorem posting_covers_iff_sample : ∃ e ∈ samplePosted.journal.entries,
    e.id = sampleMoment.entryId ∧ Covered samplePosted.accounts e (sampleCommand sampleElements) :=
  (@posting_covers_iff sampleLedger samplePosted [] _ _ _ rfl
    (fun x hx y hy _ => (List.mem_singleton.mp hx).trans (List.mem_singleton.mp hy).symm)
    samplePosting_posted).mpr (by decide)

/-- **A null side is left out**: three elements are taken for an entry of two lines. -/
theorem not_covered_null_side :
    accountingPostEntry sampleMoment
        (afterAll ledgerCall sampleLedger [.post sampleMoment (sampleCommand sampleElements)])
        (sampleCommand nullSideElements) = .ok (samplePosted, ⟨sampleMoment.entryId, false⟩) ∧
      ¬ ∃ e ∈ samplePosted.journal.entries, e.id = sampleMoment.entryId ∧
        Covered samplePosted.accounts e (sampleCommand nullSideElements) := by
  rw [sampleHistory_after]
  refine ⟨nullSide_replayed, fun h => ?_⟩
  obtain ⟨e, he, _, hcovered⟩ := h
  have hlines : ∀ e ∈ samplePosted.journal.entries, e.lines.length = 2 := by decide +kernel
  have hcount := hcovered.count
  rw [hlines e he] at hcount
  exact absurd hcount (by decide)

end Daftar.Accounting
