import Plotline.Text.Blank
import Plotline.Text.Lines

/-!
# Cutting joined texts

Cutting at a character undoes joining at it: the pieces of a text with the character in the middle
are those of the two halves (`cutAt_append`), and a text without it stays in one piece
(`cutAt_eq_singleton`). A text with no blank at either end is not changed by stripping
(`strip_eq_self`), and stripping leaves no blank at either end (`isBlank_of_mem_head?_strip`,
`isBlank_of_mem_getLast?_strip`).
-/

namespace Plotline.Text

theorem cutAt_cons_of_ne {sep c : Char} (h : c ≠ sep) (s : List Char) :
    ∃ piece pieces,
      cutAt sep s = piece :: pieces ∧ cutAt sep (c :: s) = (c :: piece) :: pieces := by
  obtain ⟨piece, pieces, hs⟩ := List.exists_cons_of_ne_nil (cutAt_ne_nil sep s)
  exact ⟨piece, pieces, hs, by rw [cutAt, if_neg h, hs]⟩

theorem cutAt_append (sep : Char) (s t : List Char) :
    cutAt sep (s ++ sep :: t) = cutAt sep s ++ cutAt sep t := by
  induction s with
  | nil => simp [cutAt]
  | cons c s ih =>
    by_cases h : c = sep
    · subst h
      simp [cutAt, ih]
    · obtain ⟨piece, pieces, hs, hc⟩ := cutAt_cons_of_ne h s
      obtain ⟨piece', pieces', hs', hc'⟩ := cutAt_cons_of_ne h (s ++ sep :: t)
      rw [ih, hs, List.cons_append, List.cons.injEq] at hs'
      obtain ⟨rfl, rfl⟩ := hs'
      rw [List.cons_append, hc', hc, List.cons_append]

theorem cutAt_eq_singleton {sep : Char} {s : List Char} (h : sep ∉ s) : cutAt sep s = [s] := by
  induction s with
  | nil => rfl
  | cons c s ih =>
    rw [List.mem_cons, not_or] at h
    rw [cutAt, if_neg (Ne.symm h.1), ih h.2]

theorem stripStart_eq_self {s : List Char} (h : ∀ c ∈ s.head?, isBlank c = false) :
    stripStart s = s := by
  cases s with
  | nil => rfl
  | cons c s => exact List.dropWhile_cons_of_neg (by simp [h c rfl])

theorem stripEnd_eq_self {s : List Char} (h : ∀ c ∈ s.getLast?, isBlank c = false) :
    stripEnd s = s := by
  have hr : ∀ c ∈ s.reverse.head?, isBlank c = false := by simpa using h
  have hs : s.reverse.dropWhile isBlank = s.reverse := stripStart_eq_self hr
  rw [stripEnd, hs, List.reverse_reverse]

theorem strip_eq_self {s : List Char} (hf : ∀ c ∈ s.head?, isBlank c = false)
    (hl : ∀ c ∈ s.getLast?, isBlank c = false) : strip s = s := by
  rw [strip, stripStart_eq_self hf, stripEnd_eq_self hl]

theorem stripEnd_prefix (s : List Char) : stripEnd s <+: s := by
  rw [← List.reverse_suffix, stripEnd, List.reverse_reverse]
  exact List.dropWhile_suffix isBlank

theorem isBlank_of_mem_head?_stripStart {s : List Char} {c : Char} (h : c ∈ (stripStart s).head?) :
    isBlank c = false := by
  have hn := List.head?_dropWhile_not isBlank s
  rw [Option.mem_def, stripStart] at h
  rwa [h] at hn

/-- A stripped text starts with no blank. -/
theorem isBlank_of_mem_head?_strip {s : List Char} {c : Char} (h : c ∈ (strip s).head?) :
    isBlank c = false := by
  obtain ⟨t, ht⟩ := stripEnd_prefix (stripStart s)
  apply isBlank_of_mem_head?_stripStart (s := s)
  rw [Option.mem_def] at h ⊢
  rw [← ht, List.head?_append, ← strip, h, Option.some_or]

/-- A stripped text ends with no blank. -/
theorem isBlank_of_mem_getLast?_strip {s : List Char} {c : Char} (h : c ∈ (strip s).getLast?) :
    isBlank c = false := by
  rw [strip, stripEnd, List.getLast?_reverse] at h
  exact isBlank_of_mem_head?_stripStart h

end Plotline.Text
