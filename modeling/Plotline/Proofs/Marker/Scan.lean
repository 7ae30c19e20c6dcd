import Plotline.Marker.Scan

/-!
# What a scan finds

A scan succeeds exactly when its segments hold at most one id and at most one link, those that the
token has already counted in (`absorbAll_eq_ok_iff`). What it leaves behind can then be read off the
segments without following the scan: the texts one after the other, the only id and the only link.

* `ids`, `links` and `plain` are the ids, the links and the text of a list of segments.
* `Token.ofSegments` is the token that a line stands for; a scan of the line gives it or fails
  (`scan_eq_ok_iff`).
-/

namespace Plotline.Marker

/-! ## Views of segments -/

/-- The content of an id marker. -/
def Segment.id? : Segment → Option String
  | .id value => some value
  | _ => none

/-- The link that a link marker gives. -/
def Segment.link? : Segment → Option Link
  | .link kind value => some (.into kind value)
  | _ => none

/-- The text that a segment adds. -/
def Segment.plain : Segment → String
  | .literal text => text
  | _ => ""

/-- The ids in some segments, in order. -/
def ids (segs : List Segment) : List String := segs.filterMap Segment.id?

/-- The links in some segments, in order. -/
def links (segs : List Segment) : List Link := segs.filterMap Segment.link?

/-- The text outside the markers. -/
def plain (segs : List Segment) : String := String.join (segs.map Segment.plain)

theorem exists_into_of_mem_links {segs : List Segment} {l : Link} (h : l ∈ links segs) :
    ∃ kind target, l = .into kind target := by
  obtain ⟨s, -, hs⟩ := List.mem_filterMap.1 h
  cases s with
  | link kind value => exact ⟨kind, value, (Option.some.inj hs).symm⟩
  | literal text => cases hs
  | id value => cases hs

theorem ids_cons (s : Segment) (segs : List Segment) :
    ids (s :: segs) = s.id?.toList ++ ids segs := by
  cases h : s.id? <;> simp [ids, h]

theorem links_cons (s : Segment) (segs : List Segment) :
    links (s :: segs) = s.link?.toList ++ links segs := by
  cases h : s.link? <;> simp [links, h]

theorem plain_cons (s : Segment) (segs : List Segment) :
    plain (s :: segs) = s.plain ++ plain segs := by
  simp [plain]

theorem one_add_length_le_one {α : Type} {l : List α} : 1 + l.length ≤ 1 ↔ l = [] := by
  rw [← List.length_eq_zero_iff]
  omega

namespace Token

/-- The token that a line stands for: its text, its first id and its first link. -/
def ofSegments (segs : List Segment) : Token :=
  { text := plain segs, id := (ids segs).head?, link := (links segs).head?.getD {} }

theorem paired_ofSegments (segs : List Segment) : (ofSegments segs).link.Paired := by
  show ((links segs).head?.getD {}).Paired
  cases h : (links segs).head? with
  | none => rfl
  | some l =>
    obtain ⟨kind, target, rfl⟩ := exists_into_of_mem_links (List.mem_of_mem_head? h)
    rfl

/-! ## When a scan succeeds -/

/-- Whether the segments add at most one id and at most one link to those of the token. -/
def Fits (t : Token) (segs : List Segment) : Prop :=
  t.id.toList.length + (ids segs).length ≤ 1 ∧
    t.link.target.toList.length + (links segs).length ≤ 1

/-- **A scan succeeds exactly if the markers fit**, and then adds up the segments. -/
theorem absorbAll_eq_ok_iff {t t' : Token} {segs : List Segment} :
    t.absorbAll segs = .ok t' ↔
      t.Fits segs ∧
        t' = { text := t.text ++ plain segs, id := (ids segs).head?.or t.id
               link := (links segs).head?.getD t.link } := by
  induction segs generalizing t with
  | nil =>
    obtain ⟨text, id, target, kind⟩ := t
    cases id <;> cases target <;> simp [absorbAll, Fits, ids, links, plain, eq_comm]
  | cons s segs ih =>
    obtain ⟨text, id, target, kind⟩ := t
    simp only [absorbAll, Fits, ids_cons, links_cons, plain_cons]
    cases s with
    | literal x =>
      simp [absorb, ih, Fits, Segment.id?, Segment.link?, Segment.plain, String.append_assoc]
    | id value =>
      cases id with
      | some old =>
        refine iff_of_false (by simp [absorb, hasId]) fun h => ?_
        have := h.1.1
        simp only [Segment.id?, Option.toList_some, List.length_append,
          List.length_singleton] at this
        omega
      | none =>
        simp only [absorb, hasId, Option.isSome_none, Bool.false_eq_true, if_false, ih, Fits,
          Option.toList_none, Option.toList_some, Segment.id?, Segment.link?, Segment.plain,
          List.length_append, List.length_singleton, List.length_nil, Nat.zero_add,
          one_add_length_le_one]
        simp +contextual [and_assoc]
    | link k value =>
      cases target with
      | some old =>
        refine iff_of_false (by simp [absorb, hasLink]) fun h => ?_
        have := h.1.2
        simp only [Segment.link?, Option.toList_some, List.length_append,
          List.length_singleton] at this
        omega
      | none =>
        simp only [absorb, hasLink, Option.isSome_none, Bool.false_eq_true, if_false, ih, Fits,
          Link.into, Option.toList_none, Option.toList_some, Segment.id?, Segment.link?,
          Segment.plain, List.length_append, List.length_singleton, List.length_nil,
          Nat.zero_add, one_add_length_le_one]
        simp +contextual [and_assoc]

/-- **A line gives its token exactly if it has at most one id and at most one link.** -/
theorem scan_eq_ok_iff {trim : Bool} {line : List Char} {t : Token} :
    ({} : Token).scan trim line = .ok t ↔
      ((ids (segments trim line)).length ≤ 1 ∧ (links (segments trim line)).length ≤ 1) ∧
        t = ofSegments (segments trim line) := by
  rw [scan, absorbAll_eq_ok_iff]
  simp [Fits, ofSegments]

end Token

end Plotline.Marker
