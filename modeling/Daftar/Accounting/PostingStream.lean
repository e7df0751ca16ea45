/-
  File: Daftar/Accounting/PostingStream.lean
  Subject: What the stream of a posting determines.

  * `Head`: the fields of a line before its transaction currency hold no separator. A stored line
    has only such fields (`Stored`); a submitted line may have any text for that currency.
  * `not_begins`: no submitted line begins with a stored line and a terminator. What follows the
    fifth field is upper case up to the terminator, and a stored line has its rate's source there.
  * `sortedLines_of_stream`: a stream with the lines of an entry has no other lines.
-/

import Daftar.Accounting.PostEntry

namespace Daftar.Accounting

open AsciiText
open CivilDate
open Fallible
open Framing
open Sha256

/-! ## 1. Texts without separators -/

/-- No control character, so no separator. -/
def Plain (cs : List Char) : Prop := ∀ c ∈ cs, 32 ≤ c.toNat

instance (cs : List Char) : Decidable (Plain cs) := List.decidableBAll _ cs

theorem Plain.unit {cs : List Char} (h : Plain cs) : UNIT_SEPARATOR ∉ cs :=
  fun hm => absurd (h _ hm) (by decide)

theorem Plain.record {cs : List Char} (h : Plain cs) : RECORD_SEPARATOR ∉ cs :=
  fun hm => absurd (h _ hm) (by decide)

theorem Plain.append {cs ds : List Char} (hc : Plain cs) (hd : Plain ds) : Plain (cs ++ ds) := by
  intro c h
  rcases List.mem_append.mp h with h | h
  · exact hc c h
  · exact hd c h

theorem Plain.cons {c : Char} {cs : List Char} (hc : 32 ≤ c.toNat) (h : Plain cs) :
    Plain (c :: cs) := by
  intro d hd
  rcases List.mem_cons.mp hd with rfl | hd
  · exact hc
  · exact h d hd

theorem plain_of_printable {s : String} (h : Printable s) : Plain s.toList := fun c hc => (h c hc).1

theorem plain_toDigits (n : ℕ) : Plain (Nat.toDigits 10 n) := fun _ hc =>
  (printable_of_isDigit (Nat.isDigit_of_mem_toDigits (by omega) (by omega) hc)).1

theorem plain_padded (width n : ℕ) : Plain (padded width n) := fun _ hc =>
  (printable_of_isDigit (isDigit_of_mem_padded hc)).1

theorem plain_isoDateChars (d : ℤ) : Plain (isoDateChars d) := by
  have h := plain_of_printable (printable_isoDate d)
  rwa [isoDate, String.toList_ofList] at h

theorem plain_rateText (rate : ℕ) : Plain (rateText rate) :=
  (plain_toDigits _).append (.cons (by decide) (plain_padded _ _))

theorem plain_instantText (instant : ℤ) : Plain (instantText instant) :=
  (plain_isoDateChars _).append (.cons (by decide) ((plain_padded _ _).append
    (.cons (by decide) ((plain_padded _ _).append (.cons (by decide) ((plain_padded _ _).append
      (.cons (by decide) fun _ h => absurd h List.not_mem_nil)))))))

theorem record_notMem_dimensionText (u : Option Uuid) : RECORD_SEPARATOR ∉ dimensionText u := by
  cases u with
  | none => decide
  | some u => exact (plain_of_printable u.printable).record

/-- The texts of the closed vocabularies. -/
theorem plain_code (c : Currency) : Plain (upper c.code).toList := by
  cases c <;> decide

def isLower (c : Char) : Bool := 'a' ≤ c && c ≤ 'z'

theorem isLower_toUpper (c : Char) : isLower c.toUpper = false := by
  by_cases h : isLower c = true
  · have hall : ∀ i : Fin 26, isLower (Char.ofNat (97 + i)).toUpper = false := by decide
    simp only [isLower, Bool.and_eq_true, decide_eq_true_eq] at h
    have h1 : 97 ≤ c.toNat := h.1
    have h2 : c.toNat ≤ 122 := h.2
    have hi := hall ⟨c.toNat - 97, by omega⟩
    rwa [show 97 + (c.toNat - 97) = c.toNat by omega, Char.ofNat_toNat] at hi
  · have hsame : c.toUpper = c := by
      simp only [isLower, Bool.and_eq_true, decide_eq_true_eq] at h
      exact dif_neg h
    rw [hsame, Bool.eq_false_iff]
    exact h

/-- **No lower case letter is left in upper case text.** -/
theorem isLower_of_mem_upper {text : String} {c : Char} (h : c ∈ (upper text).toList) :
    isLower c = false := by
  rw [upper, String.toList_ofList] at h
  obtain ⟨d, _, rfl⟩ := List.mem_map.mp h
  exact isLower_toUpper d

/-! ## 2. Lines -/

def RATE_SOURCES : List String := ["base", "manual", "provider"]

/-- What the checks on a line leave of its facts. -/
structure LineFacts.Head (f : LineFacts) : Prop where
  identity : Plain f.identity.toList
  side : f.side = "D" ∨ f.side = "C"
  baseCurrency : ∃ c : Currency, f.baseCurrency = c.code
  rateSource : f.rateSource ∈ RATE_SOURCES

/-- What the columns of a stored line leave of its facts. -/
structure LineFacts.Stored (f : LineFacts) : Prop extends f.Head where
  txnCurrency : ∃ c : Currency, f.txnCurrency = c.code

/-- The fields after the currencies. -/
def LineFacts.tail (f : LineFacts) : List Char :=
  [UNIT_SEPARATOR].intercalate [ rateText f.rate, f.rateSource.toList, instantText f.rateAt,
    dimensionText f.branchId, dimensionText f.warehouseId ]

/-- The fields after the transaction amount. -/
def LineFacts.rest (f : LineFacts) : List Char :=
  (upper f.txnCurrency).toList ++ UNIT_SEPARATOR :: f.tail

theorem LineFacts.chars_eq (f : LineFacts) : f.chars = f.identity.toList ++ UNIT_SEPARATOR ::
    (f.side.toList ++ UNIT_SEPARATOR :: (Nat.toDigits 10 f.baseMinor ++ UNIT_SEPARATOR ::
      ((upper f.baseCurrency).toList ++ UNIT_SEPARATOR :: (Nat.toDigits 10 f.txnMinor ++
        UNIT_SEPARATOR :: f.rest)))) := by
  simp only [LineFacts.chars, LineFacts.fields, LineFacts.rest, LineFacts.tail,
    List.intercalate_cons_cons, List.append_assoc, List.cons_append, List.nil_append]

section Heads

variable {f g : LineFacts}

theorem LineFacts.Head.plain_side (h : f.Head) : Plain f.side.toList := by
  rcases h.side with hs | hs <;> rw [hs] <;> decide

theorem LineFacts.Head.plain_baseCurrency (h : f.Head) : Plain (upper f.baseCurrency).toList := by
  obtain ⟨c, hc⟩ := h.baseCurrency
  rw [hc]
  exact plain_code c

theorem LineFacts.Head.plain_rateSource (h : f.Head) : Plain f.rateSource.toList := by
  have hs := h.rateSource
  simp only [RATE_SOURCES, List.mem_cons, List.not_mem_nil, or_false] at hs
  rcases hs with hs | hs | hs <;> rw [hs] <;> decide

/-- The source of a rate is written in lower case. -/
theorem LineFacts.Head.lower_rateSource (h : f.Head) :
    ∃ c ∈ f.rateSource.toList, isLower c = true := by
  have hs := h.rateSource
  simp only [RATE_SOURCES, List.mem_cons, List.not_mem_nil, or_false] at hs
  rw [← List.any_eq_true]
  rcases hs with hs | hs | hs <;> rw [hs] <;> decide

/-- **The fields before the transaction currency are read off the front of a line.** -/
theorem cut_head (hf : f.Head) (hg : g.Head) {more more' : List Char}
    (h : f.chars ++ more = g.chars ++ more') : f.identity = g.identity ∧
      upper f.baseCurrency = upper g.baseCurrency ∧ f.rest ++ more = g.rest ++ more' := by
  rw [f.chars_eq, g.chars_eq] at h
  simp only [List.append_assoc, List.cons_append] at h
  obtain ⟨hid, h⟩ := cut_inj hf.identity.unit hg.identity.unit h
  obtain ⟨_, h⟩ := cut_inj hf.plain_side.unit hg.plain_side.unit h
  obtain ⟨_, h⟩ := cut_inj (plain_toDigits _).unit (plain_toDigits _).unit h
  obtain ⟨hcur, h⟩ := cut_inj hf.plain_baseCurrency.unit hg.plain_baseCurrency.unit h
  obtain ⟨_, h⟩ := cut_inj (plain_toDigits _).unit (plain_toDigits _).unit h
  exact ⟨String.toList_injective hid, String.toList_injective hcur, h⟩

theorem cut_line (hf : f.Head) (hg : g.Head) (h : f.chars = g.chars) :
    f.identity = g.identity ∧ upper f.baseCurrency = upper g.baseCurrency := by
  obtain ⟨hid, hcur, _⟩ := cut_head hf hg (congrArg (· ++ []) h)
  exact ⟨hid, hcur⟩

theorem LineFacts.Head.record_notMem_tail (hf : f.Head) : RECORD_SEPARATOR ∉ f.tail := by
  intro hm
  rcases mem_intercalate hm with hm | ⟨field, hfield, hm⟩
  · exact absurd hm (by decide)
  · simp only [List.mem_cons, List.not_mem_nil, or_false] at hfield
    rcases hfield with rfl | rfl | rfl | rfl | rfl
    · exact (plain_rateText _).record hm
    · exact hf.plain_rateSource.record hm
    · exact (plain_instantText _).record hm
    · exact record_notMem_dimensionText _ hm
    · exact record_notMem_dimensionText _ hm

theorem LineFacts.Stored.record_notMem_rest (hf : f.Stored) : RECORD_SEPARATOR ∉ f.rest := by
  obtain ⟨c, hc⟩ := hf.txnCurrency
  intro hm
  rw [LineFacts.rest, hc] at hm
  rcases List.mem_append.mp hm with hm | hm
  · exact (plain_code c).record hm
  · rcases List.mem_cons.mp hm with hm | hm
    · exact absurd hm (by decide)
    · exact hf.record_notMem_tail hm

/-- A stored line holds no terminator. -/
theorem LineFacts.Stored.record_notMem (hf : f.Stored) : RECORD_SEPARATOR ∉ f.chars := by
  have hsep : RECORD_SEPARATOR ≠ UNIT_SEPARATOR := by decide
  rw [f.chars_eq]
  simp only [List.mem_append, List.mem_cons, not_or]
  exact ⟨hf.identity.record, hsep, hf.plain_side.record, hsep, (plain_toDigits _).record, hsep,
    hf.plain_baseCurrency.record, hsep, (plain_toDigits _).record, hsep, hf.record_notMem_rest⟩

/-- The source of its rate stands after the transaction amount. -/
theorem LineFacts.mem_rest_of_mem_rateSource {c : Char} (h : c ∈ f.rateSource.toList) :
    c ∈ f.rest := by
  simp only [LineFacts.rest, LineFacts.tail, List.intercalate_cons_cons, List.mem_append,
    List.mem_cons]
  exact .inr (.inr (.inr (.inl (.inl h))))

/-- **No submitted line begins with a stored line and a terminator.** -/
theorem not_begins (hf : f.Head) (hg : g.Stored) (more : List Char) :
    f.chars ≠ g.chars ++ RECORD_SEPARATOR :: more := by
  intro h
  rw [← List.append_nil f.chars] at h
  obtain ⟨_, _, h⟩ := cut_head hf hg.toHead h
  rw [List.append_nil, LineFacts.rest] at h
  rcases List.append_eq_append_iff.mp h with ⟨before, _, htail⟩ | ⟨after, hupper, _⟩
  · -- The terminator stands after the transaction currency.
    have hm : RECORD_SEPARATOR ∈ UNIT_SEPARATOR :: f.tail := by
      rw [htail]
      exact List.mem_append_right _ List.mem_cons_self
    rcases List.mem_cons.mp hm with hm | hm
    · exact absurd hm (by decide)
    · exact hf.record_notMem_tail hm
  · -- The stored line ends within it, with its lower case source.
    obtain ⟨c, hc, hlower⟩ := hg.lower_rateSource
    have hm : c ∈ (upper f.txnCurrency).toList := by
      rw [hupper]
      exact List.mem_append_left _ (LineFacts.mem_rest_of_mem_rateSource hc)
    rw [isLower_of_mem_upper hm] at hlower
    cases hlower

end Heads

/-! ## 3. Streams -/

theorem sortedLines_perm (lines : List (List Char)) : (sortedLines lines).Perm lines :=
  List.perm_insertionSort _ lines

/-- The order of the lines does not matter. -/
theorem sortedLines_of_perm {xs ys : List (List Char)} (h : xs.Perm ys) :
    sortedLines xs = sortedLines ys :=
  ((sortedLines_perm xs).trans (h.trans (sortedLines_perm ys).symm)).eq_of_sortedLE
    List.sortedLE_insertionSort List.sortedLE_insertionSort

/-- **One stream, one date text and one multiset of lines**, where the lines of one are stored. -/
theorem lines_of_stream {s : PostingSource} {d e : ℤ} {fs gs : List LineFacts}
    (hf : ∀ f ∈ fs, f.Stored) (hg : ∀ g ∈ gs, g.Head)
    (h : postingStream s d (fs.map LineFacts.chars) = postingStream s e (gs.map LineFacts.chars)) :
    isoDateChars d = isoDateChars e ∧ (fs.map LineFacts.chars).Perm (gs.map LineFacts.chars) := by
  have hchars := String.ofList_injective (utf8_injective h)
  have hnl : ∀ d, '\n' ∉ isoDateChars d := fun d hm => absurd (plain_isoDateChars d _ hm) (by decide)
  simp only [postingChars, PostingSource.header, frame, List.append_assoc, List.cons_append,
    List.nil_append, List.append_cancel_left_eq, List.cons.injEq, true_and] at hchars
  obtain ⟨hdate, hbody⟩ := cut_inj (hnl d) (hnl e) hchars
  refine ⟨hdate, ?_⟩
  have hmem : ∀ {ls : List LineFacts} {x : List Char}, x ∈ sortedLines (ls.map LineFacts.chars) →
      ∃ f ∈ ls, f.chars = x := fun hx => List.mem_map.mp ((sortedLines_perm _).mem_iff.mp hx)
  have hsorted := frame_eq_of_clean (fun x hx => ?_) (fun y hy x hx more => ?_) hbody
  · exact (sortedLines_perm _).symm.trans (hsorted ▸ sortedLines_perm _)
  · obtain ⟨f, hfm, rfl⟩ := hmem hx
    exact (hf f hfm).record_notMem
  · obtain ⟨f, hfm, rfl⟩ := hmem hx
    obtain ⟨g, hgm, rfl⟩ := hmem hy
    exact not_begins (hg g hgm) (hf f hfm) more

end Daftar.Accounting
