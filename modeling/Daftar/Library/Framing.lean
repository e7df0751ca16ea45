/-
  File: Daftar/Library/Framing.lean
  Subject: Lines closed by a terminator.

  * `frame` closes every line with the terminator, the last one too; `unframe` cuts at it.
  * `unframe_frame`: lines that do not hold the terminator are read back, however many they are.
  * `cut_inj`: a text has one first part that does not hold the separator.
  * `frame_eq_of_clean`: two frames agree line by line when the lines of one are clean and no line of
    the other begins with one of them.
-/

import Mathlib.Data.List.Basic

namespace Framing

variable {α : Type*}

def frame (terminator : α) : List (List α) → List α
  | [] => []
  | line :: lines => line ++ terminator :: frame terminator lines

def unframe [BEq α] (terminator : α) (bytes : List α) : List (List α) :=
  (bytes.splitOn terminator).dropLast

/-- What follows the last terminator is an empty line. -/
theorem frame_eq_intercalate (t : α) : ∀ lines : List (List α),
    frame t lines = [t].intercalate (lines ++ [[]])
  | [] => by simp [frame]
  | [line] => by simp [frame, List.intercalate]
  | line :: next :: lines => by
      have ih := frame_eq_intercalate t (next :: lines)
      simp only [frame, List.cons_append] at ih ⊢
      rw [ih]
      simp [List.intercalate, List.intersperse]

theorem unframe_frame [BEq α] [LawfulBEq α] {t : α} {lines : List (List α)}
    (h : ∀ line ∈ lines, t ∉ line) : unframe t (frame t lines) = lines := by
  have hlines : ∀ line ∈ lines ++ [[]], t ∉ line := by
    intro line hl
    rcases List.mem_append.mp hl with hl | hl
    · exact h line hl
    · rw [List.mem_singleton.mp hl]
      exact List.not_mem_nil
  unfold unframe
  rw [frame_eq_intercalate, List.splitOn_intercalate t hlines (by simp), List.dropLast_concat]

/-- **What stands before the first separator, and after it, is determined.** -/
theorem cut_inj {t : α} : ∀ {xs ys zs ws : List α}, t ∉ xs → t ∉ ys →
    xs ++ t :: zs = ys ++ t :: ws → xs = ys ∧ zs = ws
  | [], [], _, _, _, _, h => ⟨rfl, (List.cons.inj h).2⟩
  | [], y :: ys, _, _, _, hy, h => by
      rw [List.nil_append, List.cons_append] at h
      rw [(List.cons.inj h).1] at hy
      exact absurd List.mem_cons_self hy
  | x :: xs, [], _, _, hx, _, h => by
      rw [List.nil_append, List.cons_append] at h
      rw [← (List.cons.inj h).1] at hx
      exact absurd List.mem_cons_self hx
  | x :: xs, y :: ys, _, _, hx, hy, h => by
      rw [List.cons_append, List.cons_append] at h
      obtain ⟨hxy, hrest⟩ := List.cons.inj h
      obtain ⟨he, hz⟩ := cut_inj (fun hm => hx (List.mem_cons_of_mem _ hm))
        (fun hm => hy (List.mem_cons_of_mem _ hm)) hrest
      rw [hxy, he]
      exact ⟨rfl, hz⟩

/-- As many terminated lines, and what follows them. -/
theorem frame_append_inj {t : α} : ∀ {xs ys : List (List α)} {zs ws : List α},
    xs.length = ys.length → (∀ x ∈ xs, t ∉ x) → (∀ y ∈ ys, t ∉ y) →
    frame t xs ++ zs = frame t ys ++ ws → xs = ys ∧ zs = ws
  | [], [], _, _, _, _, _, h => ⟨rfl, h⟩
  | [], _ :: _, _, _, hlen, _, _, _ => by cases hlen
  | _ :: _, [], _, _, hlen, _, _, _ => by cases hlen
  | x :: xs, y :: ys, zs, ws, hlen, hx, hy, h => by
      simp only [frame, List.append_assoc, List.cons_append] at h
      obtain ⟨rfl, hrest⟩ := cut_inj (hx x List.mem_cons_self) (hy y List.mem_cons_self) h
      obtain ⟨rfl, hzs⟩ := frame_append_inj (Nat.succ.inj hlen)
        (fun z hz => hx z (List.mem_cons_of_mem _ hz))
        (fun z hz => hy z (List.mem_cons_of_mem _ hz)) hrest
      exact ⟨rfl, hzs⟩

/-- **Two frames agree line by line** when no line of the first holds the terminator, and no line of
    the second begins with a line of the first and a terminator. -/
theorem frame_eq_of_clean {t : α} : ∀ {xs ys : List (List α)}, (∀ x ∈ xs, t ∉ x) →
    (∀ y ∈ ys, ∀ x ∈ xs, ∀ rest, y ≠ x ++ t :: rest) → frame t xs = frame t ys → xs = ys
  | [], [], _, _, _ => rfl
  | [], y :: ys, _, _, h => by
      have hlen := congrArg List.length h
      simp only [frame, List.length_nil, List.length_append, List.length_cons] at hlen
      omega
  | x :: xs, [], _, _, h => by
      have hlen := congrArg List.length h
      simp only [frame, List.length_nil, List.length_append, List.length_cons] at hlen
      omega
  | x :: xs, y :: ys, hx, hy, h => by
      have hxt := hx x List.mem_cons_self
      by_cases hyt : t ∈ y
      · obtain ⟨before, rest, hbefore, hfirst⟩ := List.eq_append_cons_of_mem hyt
        have hcut : x ++ t :: frame t xs = before ++ t :: (rest ++ t :: frame t ys) := by
          rw [← List.cons_append, ← List.append_assoc, ← hbefore]
          exact h
        obtain ⟨rfl, _⟩ := cut_inj hxt hfirst hcut
        exact absurd hbefore (hy y List.mem_cons_self x List.mem_cons_self rest)
      · obtain ⟨hxy, hrest⟩ := cut_inj hxt hyt h
        rw [hxy, frame_eq_of_clean (fun z hz => hx z (List.mem_cons_of_mem _ hz))
          (fun z hz w hw => hy z (List.mem_cons_of_mem _ hz) w (List.mem_cons_of_mem _ hw)) hrest]

/-- An element of joined lines is a separator or stands in a line. -/
theorem mem_intercalate {t c : α} : ∀ {xs : List (List α)}, c ∈ [t].intercalate xs →
    c = t ∨ ∃ x ∈ xs, c ∈ x
  | [], h => absurd h List.not_mem_nil
  | [x], h => by
      rw [List.intercalate_singleton] at h
      exact .inr ⟨x, List.mem_singleton_self x, h⟩
  | x :: y :: xs, h => by
      rw [List.intercalate_cons_cons] at h
      rcases List.mem_append.mp h with h | h
      · rcases List.mem_append.mp h with h | h
        · exact .inr ⟨x, List.mem_cons_self, h⟩
        · exact .inl (List.mem_singleton.mp h)
      · rcases mem_intercalate h with h | ⟨z, hz, h⟩
        · exact .inl h
        · exact .inr ⟨z, List.mem_cons_of_mem _ hz, h⟩

end Framing
