import Plotline.Proofs.Text.Padded
import Plotline.Marker.Scan

/-!
# Spaces behind markers

Scanning with and without the spaces behind markers. The two scans leave a marker at different
places, and meet again where the spaces end, so the segments that one of them has and the other has
not are single spaces (`padded_segments`). The tokens then differ in the spaces of their texts only,
and so do the tokens that the faults carry (`Token.agree_scan`).

* `Token.Spaced`, `Fault.Spaced`: equal but for more spaces in the second.
* `Agree` says that both of two results fail, or none of them does.
-/

namespace Plotline

/-- Two results that both fail or both succeed, in related ways. -/
inductive Agree {ε α β : Type} (E : ε → ε → Prop) (R : α → β → Prop) :
    Except ε α → Except ε β → Prop
  | error {e e' : ε} (h : E e e') : Agree E R (.error e) (.error e')
  | ok {a : α} {b : β} (h : R a b) : Agree E R (.ok a) (.ok b)

namespace Marker

open Text (Padded)

/-! ## Segments -/

variable {c : Char} {rest line : List Char}

theorem afterMarker_true (s : List Char) :
    afterMarker true s = (afterMarker false s).dropWhile (· = ' ') := rfl

/-- The first segment is the same, and the rest but for spaces that it starts with. -/
theorem nextSegment_trim (c : Char) (rest : List Char) :
    (nextSegment true c rest).1 = (nextSegment false c rest).1 ∧
      ((nextSegment true c rest).2 = (nextSegment false c rest).2 ∨
        (nextSegment true c rest).2 = (nextSegment false c rest).2.dropWhile (· = ' ')) := by
  by_cases hc : c = '$'
  · subst hc
    match rest with
    | [] => exact ⟨rfl, .inl rfl⟩
    | k :: rest =>
      by_cases hk : k = '['
      · subst hk
        exact ⟨rfl, .inr rfl⟩
      · cases hl : linkLetter? k with
        | none => simp [nextSegment, hk, hl]
        | some kind =>
          match rest with
          | [] => simp [nextSegment, hk, hl]
          | x :: rest =>
            by_cases hx : x = '['
            · subst hx
              simp [nextSegment, hk, hl, markerValue, afterMarker_true]
            · simp [nextSegment, hk, hl]
  · simp [nextSegment, hc]

theorem segments_space (trim : Bool) (line : List Char) :
    segments trim (' ' :: line) = .literal " " :: segments trim line := by
  rw [segments]
  rfl

/-- Spaces at the start of a line are segments of their own. -/
theorem padded_segments_dropWhile (trim : Bool) (line : List Char) :
    Padded (.literal " ") (segments trim (line.dropWhile (· = ' '))) (segments trim line) := by
  induction line with
  | nil => exact .refl _
  | cons c rest ih =>
    by_cases hc : c = ' '
    · subst hc
      rw [List.dropWhile_cons_of_pos (by simp), segments_space]
      exact ih.pad
    · rw [List.dropWhile_cons_of_neg (by simpa using hc)]
      exact .refl _

/-- **Without the trimming there are more segments, and these are spaces.** -/
theorem padded_segments (line : List Char) :
    Padded (.literal " ") (segments true line) (segments false line) := by
  induction h : line.length using Nat.strong_induction_on generalizing line with
  | _ n ih =>
    cases line with
    | nil =>
      rw [segments, segments]
      exact .nil
    | cons c rest =>
      obtain ⟨hseg, hrest⟩ := nextSegment_trim c rest
      have hlt : (nextSegment false c rest).2.length < n := by
        have := nextSegment_rest_length false c rest
        rw [← h, List.length_cons]
        omega
      have hpad := ih _ hlt (nextSegment false c rest).2 rfl
      rw [segments, segments, hseg]
      refine .cons _ ?_
      rcases hrest with hrest | hrest
      · rw [hrest]
        exact hpad
      · rw [hrest]
        exact (padded_segments_dropWhile true _).trans hpad

/-! ## Tokens and faults -/

/-- Tokens that differ in the spaces of their texts only. -/
structure Token.Spaced (t u : Token) : Prop where
  text : Text.Spaced t.text u.text
  id : t.id = u.id
  link : t.link = u.link

theorem Token.Spaced.refl (t : Token) : t.Spaced t := ⟨.refl _, rfl, rfl⟩

end Marker

open Marker (Token Segment)

/-- Faults of one kind with one message, whose tokens differ in spaces only. -/
structure Fault.Spaced (f g : Fault) : Prop where
  family : f.family = g.family
  headline : f.headline = g.headline
  details : f.details = g.details
  token : Option.Rel Token.Spaced f.token? g.token?

theorem Fault.Spaced.refl (f : Fault) : f.Spaced f where
  family := rfl
  headline := rfl
  details := rfl
  token := by
    cases f.token? with
    | none => exact .none
    | some t => exact .some (.refl t)

/-- Failures of one kind with one message, whose tokens differ in spaces only. -/
structure Failure.Spaced (f g : Failure) : Prop where
  family : f.fault.family = g.fault.family
  message : f.message = g.message
  token : Option.Rel Token.Spaced f.fault.token? g.fault.token?

theorem Console.spaced_fail (c : Console) {f g : Fault} (h : f.Spaced g) :
    (c.fail f).Spaced (c.fail g) where
  family := h.family
  message := by
    rw [Failure.message, Failure.message, fail, fail, h.headline, h.details]
  token := h.token

theorem Failure.Spaced.refl (f : Failure) : f.Spaced f :=
  ⟨rfl, rfl, (Fault.Spaced.refl f.fault).token⟩

namespace Marker.Token

variable {t u : Token}

theorem agree_absorb (h : t.Spaced u) (s : Segment) :
    Agree Fault.Spaced Spaced (t.absorb s) (u.absorb s) := by
  cases s with
  | literal text => exact .ok ⟨h.text.append (.refl text), h.id, h.link⟩
  | id value =>
    have hid : t.hasId = u.hasId := by rw [hasId, h.id, hasId]
    rw [absorb, absorb, hid]
    split
    · exact .error ⟨rfl, rfl, rfl, .some h⟩
    · exact .ok ⟨h.text, rfl, h.link⟩
  | link kind value =>
    have hlink : t.hasLink = u.hasLink := by rw [hasLink, h.link, hasLink]
    rw [absorb, absorb, hlink]
    split
    · exact .error ⟨rfl, rfl, rfl, .some h⟩
    · exact .ok ⟨h.text, h.id, rfl⟩

/-- Segments that are spaces do not change what comes of the others. -/
theorem agree_absorbAll {l m : List Segment} (hlm : Text.Padded (.literal " ") l m)
    (h : t.Spaced u) : Agree Fault.Spaced Spaced (t.absorbAll l) (u.absorbAll m) := by
  induction hlm generalizing t u with
  | nil => exact .ok h
  | pad _ ih =>
    have h' : t.Spaced { u with text := u.text ++ " " } := ⟨h.text.append_space, h.id, h.link⟩
    exact ih h'
  | cons s _ ih =>
    have hs := agree_absorb h s
    rw [absorbAll, absorbAll]
    generalize t.absorb s = r, u.absorb s = r' at hs
    cases hs with
    | error hf => exact .error hf
    | ok ht => exact ih ht

/-- **Scans with and without the trimming agree.** -/
theorem agree_scan (line : List Char) (h : t.Spaced u) :
    Agree Fault.Spaced Spaced (t.scan true line) (u.scan false line) :=
  agree_absorbAll (padded_segments line) h

end Marker.Token

end Plotline
