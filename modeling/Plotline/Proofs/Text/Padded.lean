import Mathlib.Data.List.Forall2
import Mathlib.Data.List.TakeWhile
import Plotline.Proofs.Text.Lines
import Plotline.Text.Blank

/-!
# Texts with more spaces

A list is padded if copies of one item were put into it at any places (`Padded`), which is the same
as being a longer list that becomes equal when these items are deleted (`padded_iff`). What tidies a
message keeps texts padded with spaces: cutting blanks off an end, because a space is blank, cutting
into lines, because a space is no newline, and leaving out empty lines (`Padded.tidyLines`).
-/

namespace Plotline.Text

/-! ## Padded lists -/

/-- The list `u` is `t` with copies of `pad` put in. -/
inductive Padded {α : Type} (pad : α) : List α → List α → Prop
  | nil : Padded pad [] []
  | pad {t u : List α} (h : Padded pad t u) : Padded pad t (pad :: u)
  | cons (a : α) {t u : List α} (h : Padded pad t u) : Padded pad (a :: t) (a :: u)

namespace Padded

variable {α : Type} {pad : α} {s t u v : List α} {p : α → Bool}

theorem refl (t : List α) : Padded pad t t := by
  induction t with
  | nil => exact .nil
  | cons a t ih => exact .cons a ih

theorem trans (h : Padded pad s t) (h' : Padded pad t u) : Padded pad s u := by
  induction h' generalizing s with
  | nil => exact h
  | pad _ ih => exact .pad (ih h)
  | cons a _ ih =>
    cases h with
    | pad h => exact .pad (ih h)
    | cons _ h => exact .cons a (ih h)

theorem append (h : Padded pad s t) (h' : Padded pad u v) : Padded pad (s ++ u) (t ++ v) := by
  induction h with
  | nil => exact h'
  | pad _ ih => exact .pad ih
  | cons a _ ih => exact .cons a ih

theorem append_pad (h : Padded pad t u) : Padded pad t (u ++ [pad]) := by
  have h' : Padded pad (t ++ []) (u ++ [pad]) := h.append (.pad .nil)
  rwa [List.append_nil] at h'

theorem reverse (h : Padded pad t u) : Padded pad t.reverse u.reverse := by
  induction h with
  | nil => exact .nil
  | pad _ ih =>
    rw [List.reverse_cons]
    exact ih.append_pad
  | cons a _ ih =>
    rw [List.reverse_cons, List.reverse_cons]
    exact ih.append (refl [a])

/-- Pads do not stop a cut that takes pads. -/
theorem dropWhile (h : Padded pad t u) (hp : p pad = true) :
    Padded pad (t.dropWhile p) (u.dropWhile p) := by
  induction h with
  | nil => exact .nil
  | pad _ ih =>
    rw [List.dropWhile_cons_of_pos hp]
    exact ih
  | cons a h ih =>
    by_cases ha : p a = true
    · rw [List.dropWhile_cons_of_pos ha, List.dropWhile_cons_of_pos ha]
      exact ih
    · rw [List.dropWhile_cons_of_neg ha, List.dropWhile_cons_of_neg ha]
      exact .cons a h

theorem forall_mem_iff {P : α → Prop} (h : Padded pad t u) (hP : P pad) :
    (∀ a ∈ t, P a) ↔ ∀ a ∈ u, P a := by
  induction h with
  | nil => exact Iff.rfl
  | pad _ ih => rw [List.forall_mem_cons, ih, and_iff_right hP]
  | cons a _ ih => rw [List.forall_mem_cons, List.forall_mem_cons, ih]

end Padded

/-- **Padded lists are longer, and equal without the pads.** -/
theorem padded_iff {α : Type} [DecidableEq α] {pad : α} {t u : List α} :
    Padded pad t u ↔ t.Sublist u ∧ t.filter (· ≠ pad) = u.filter (· ≠ pad) := by
  constructor
  · intro h
    induction h with
    | nil => exact ⟨.slnil, rfl⟩
    | pad _ ih => exact ⟨ih.1.cons _, by simpa using ih.2⟩
    | cons a _ ih => exact ⟨ih.1.cons_cons a, by rw [List.filter_cons, List.filter_cons, ih.2]⟩
  · rintro ⟨hs, hf⟩
    induction hs with
    | slnil => exact .nil
    | @cons t u a hs ih =>
      by_cases ha : a = pad
      · subst ha
        exact .pad (ih (by simpa using hf))
      · -- an item that is no pad cannot be left out
        have hle := (hs.filter (· ≠ pad)).length_le
        rw [hf, List.filter_cons_of_pos (by simpa using ha), List.length_cons] at hle
        omega
    | @cons_cons t u a hs ih =>
      refine .cons a (ih ?_)
      by_cases ha : a = pad
      · simpa [ha] using hf
      · simpa [ha] using hf

/-! ## Texts -/

/-- The text `t` is `u` without some of its spaces: deleting all spaces makes them equal. -/
structure Spaced (t u : String) : Prop where
  sublist : t.toList.Sublist u.toList
  filter : t.toList.filter (· ≠ ' ') = u.toList.filter (· ≠ ' ')

theorem spaced_iff {t u : String} : Spaced t u ↔ Padded ' ' t.toList u.toList := by
  rw [padded_iff]
  exact ⟨fun h => ⟨h.sublist, h.filter⟩, fun h => ⟨h.1, h.2⟩⟩

theorem Spaced.refl (t : String) : Spaced t t := ⟨.refl _, rfl⟩

theorem Spaced.append {s t u v : String} (h : Spaced s t) (h' : Spaced u v) :
    Spaced (s ++ u) (t ++ v) := by
  rw [spaced_iff] at *
  rw [String.toList_append, String.toList_append]
  exact h.append h'

/-- A space more. -/
theorem Spaced.append_space {t u : String} (h : Spaced t u) : Spaced t (u ++ " ") := by
  rw [spaced_iff] at *
  rw [String.toList_append]
  exact h.append_pad

/-! ## Tidying -/

variable {t u : List Char}

theorem Padded.stripEnd (h : Padded ' ' t u) : Padded ' ' (Text.stripEnd t) (Text.stripEnd u) :=
  (h.reverse.dropWhile (by decide)).reverse

theorem stripEnd_eq_nil_iff : stripEnd t = [] ↔ ∀ c ∈ t, isBlank c = true := by
  rw [stripEnd, List.reverse_eq_nil_iff, List.dropWhile_eq_nil_iff]
  simp

theorem Padded.stripEnd_ne_nil_iff (h : Padded ' ' t u) :
    Text.stripEnd t ≠ [] ↔ Text.stripEnd u ≠ [] := by
  rw [not_iff_not, stripEnd_eq_nil_iff, stripEnd_eq_nil_iff]
  exact h.forall_mem_iff (by decide)

theorem Padded.cutAt {sep : Char} (h : Padded ' ' t u) (hs : ' ' ≠ sep) :
    List.Forall₂ (Padded ' ') (Text.cutAt sep t) (Text.cutAt sep u) := by
  induction h with
  | nil => exact .cons .nil .nil
  | @pad t u _ ih =>
    obtain ⟨piece, pieces, hu, hc⟩ := cutAt_cons_of_ne hs u
    rw [hu] at ih
    obtain ⟨piece', pieces', hp, hrest, ht⟩ := List.forall₂_cons_right_iff.1 ih
    rw [hc, ht]
    exact .cons hp.pad hrest
  | @cons c t u _ ih =>
    by_cases hc : c = sep
    · subst hc
      rw [Text.cutAt, Text.cutAt, if_pos rfl, if_pos rfl]
      exact .cons .nil ih
    · obtain ⟨piece, pieces, ht, hct⟩ := cutAt_cons_of_ne hc t
      obtain ⟨piece', pieces', hu, hcu⟩ := cutAt_cons_of_ne hc u
      rw [ht, hu] at ih
      obtain ⟨hp, hrest⟩ := List.forall₂_cons.1 ih
      rw [hct, hcu]
      exact .cons (hp.cons c) hrest

theorem joinLines_cons_cons (a b : List Char) (l : List (List Char)) :
    joinLines (a :: b :: l) = a ++ '\n' :: joinLines (b :: l) := by
  simp [joinLines, List.intercalate]

theorem padded_joinLines {l m : List (List Char)} (h : List.Forall₂ (Padded ' ') l m) :
    Padded ' ' (joinLines l) (joinLines m) := by
  induction h with
  | nil => exact .refl _
  | @cons a b l m hab hlm ih =>
    cases hlm with
    | nil => simpa [joinLines, List.intercalate] using hab
    | cons h hlm =>
      rw [joinLines_cons_cons, joinLines_cons_cons]
      exact hab.append (ih.cons '\n')

/-- The lines that are not empty when the blanks at their ends are cut off. -/
theorem Padded.tidyLines (h : Padded ' ' t u) :
    List.Forall₂ (Padded ' ') (((cutLines t).map Text.stripEnd).filter (· ≠ []))
      (((cutLines u).map Text.stripEnd).filter (· ≠ [])) := by
  have hlines : List.Forall₂ (Padded ' ') (cutLines t) (cutLines u) := h.cutAt (by decide)
  rw [List.filter_map, List.filter_map]
  have hkept := List.rel_filter (p := fun a => decide (Text.stripEnd a ≠ []))
    (q := fun a => decide (Text.stripEnd a ≠ []))
    (fun a b hab => by simpa using hab.stripEnd_ne_nil_iff) hlines
  exact List.rel_map (fun a b hab => hab.stripEnd) hkept

end Plotline.Text
