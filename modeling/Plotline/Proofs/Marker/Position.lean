import Plotline.Marker.Position

/-!
# Cutting a line from a position on

From the beginning of a line onwards, going from position to position gives the same segments as
cutting what is behind the position: each step does what the first step of the cut does
(`segmentAt_natCast`), and so do all of them (`segmentsFrom_natCast`).
-/

namespace Plotline.Marker

variable {trim : Bool} {line rest : List Char} {c : Char} {n : Nat}

theorem slice_natCast (line : List Char) (m n : Nat) :
    slice line m n = (line.drop m).take (n - m) := List.drop_take

/-- What follows a marker is the end of what its content was read from. -/
theorem afterMarker_suffix (trim : Bool) (s : List Char) : afterMarker trim s <:+ s := by
  have hbehind : (s.dropWhile (· ≠ ']')).drop 1 <:+ s :=
    (List.drop_suffix _ _).trans (List.dropWhile_suffix _)
  cases trim with
  | false => exact hbehind
  | true => exact (List.dropWhile_suffix _).trans hbehind

/-- A marker at a position has the content that is read behind its `[`, and the line goes on with
what follows the marker. -/
theorem valueAt_natCast (trim : Bool) (h : line.drop (n + 1) = rest) :
    (valueAt trim line n).1 = (markerValue trim rest).1 ∧
      line.drop (valueAt trim line n).2 = (markerValue trim rest).2 := by
  subst h
  have hsuffix := (afterMarker_suffix trim (line.drop (n + 1))).trans (List.drop_suffix _ _)
  exact ⟨rfl, (List.suffix_iff_eq_drop.1 hsuffix).symm⟩

theorem drop_behind (h : line.drop n = rest) (i : Nat) : line.drop (n + i) = rest.drop i := by
  rw [← List.drop_drop, h]

/-- The characters from `i` to `i + k` behind a position. -/
theorem slice_behind (h : line.drop n = rest) (i k : Nat) :
    slice line (n + i : Nat) (n + i + k : Nat) = (rest.drop i).take k := by
  rw [slice_natCast, drop_behind h, Nat.add_sub_cancel_left]

/-- Behind a `$` that no id follows, a letter may announce a link. -/
theorem segmentAt_of_letter (trim : Bool) {k : Char} (h : line.drop n = '$' :: k :: rest)
    (hk : k ≠ '[') :
    ∃ m : Nat, segmentAt trim line n '$' = ((nextSegment trim '$' (k :: rest)).1, (m : Int)) ∧
      line.drop m = (nextSegment trim '$' (k :: rest)).2 := by
  have hnext : slice line (n + 1) (n + 2) = [k] := slice_behind h 1 1
  have hthird : slice line (n + 2) (n + 3) = rest.take 1 := slice_behind h 2 1
  have htwo : slice line n (n + 2) = ['$', k] := slice_behind h 0 2
  have hthree : slice line n (n + 3) = '$' :: k :: rest.take 1 := slice_behind h 0 3
  cases hkind : linkLetter? k with
  | none =>
    refine ⟨n + 2, ?_, ?_⟩
    · simp [segmentAt, nextSegment, hnext, hk, hkind, htwo]
    · simp [nextSegment, hk, hkind, drop_behind h]
  | some kind =>
    cases rest with
    | nil =>
      refine ⟨n + 3, ?_, ?_⟩
      · simp [segmentAt, nextSegment, hnext, hthird, hk, hkind, hthree]
      · simp [nextSegment, hk, hkind, drop_behind h]
    | cons x rest =>
      by_cases hx : x = '['
      · subst hx
        obtain ⟨hvalue, hrest⟩ := valueAt_natCast trim (drop_behind h 3)
        refine ⟨(valueAt trim line (n + 2)).2, ?_, ?_⟩
        · simpa [segmentAt, nextSegment, hnext, hthird, hk, hkind] using hvalue
        · simpa [nextSegment, hk, hkind] using hrest
      · refine ⟨n + 3, ?_, ?_⟩
        · simp [segmentAt, nextSegment, hnext, hthird, hk, hkind, hthree, hx]
        · simp [nextSegment, hk, hkind, drop_behind h]

/-- **A step from a position is the first step of the cut behind it.** -/
theorem segmentAt_natCast (trim : Bool) (h : line.drop n = c :: rest) :
    ∃ m : Nat, segmentAt trim line n c = ((nextSegment trim c rest).1, (m : Int)) ∧
      line.drop m = (nextSegment trim c rest).2 := by
  by_cases hc : c = '$'
  · subst hc
    have hnext : slice line (n + 1) (n + 2) = rest.take 1 := slice_behind h 1 1
    cases rest with
    | nil =>
      have htwo : slice line n (n + 2) = ['$'] := slice_behind h 0 2
      refine ⟨n + 2, ?_, drop_behind h 2⟩
      simp [segmentAt, nextSegment, hnext, htwo]
    | cons k rest =>
      by_cases hk : k = '['
      · subst hk
        obtain ⟨hvalue, hrest⟩ := valueAt_natCast trim (drop_behind h 2)
        refine ⟨_, ?_, hrest⟩
        simpa [segmentAt, nextSegment, hnext] using hvalue
      · exact segmentAt_of_letter trim h hk
  · refine ⟨n + 1, ?_, ?_⟩
    · simp only [segmentAt, nextSegment, hc, if_true, if_false, ne_eq, not_false_eq_true]
      rfl
    · simp only [nextSegment, hc, if_false]
      exact drop_behind h 1

/-- **From the beginning onwards, going from position to position cuts what is behind.** -/
theorem segmentsFrom_natCast (trim : Bool) (line : List Char) (n : Nat) :
    segmentsFrom trim line n = segments trim (line.drop n) := by
  induction hbehind : line.drop n using segments.induct trim generalizing n with
  | case1 =>
    have hn : ¬(n : Int) < line.length := by
      have := List.drop_eq_nil_iff.1 hbehind
      omega
    rw [segmentsFrom, dif_neg hn, segments]
  | case2 c rest ih =>
    have hn : (n : Int) < line.length := by
      have := congrArg List.length hbehind
      rw [List.length_drop, List.length_cons] at this
      omega
    have hhead : (line.drop (offset line n)).head? = some c := congrArg List.head? hbehind
    obtain ⟨m, hstep, hm⟩ := segmentAt_natCast trim hbehind
    rw [segmentsFrom, dif_pos hn, hhead, segments]
    simp only [hstep, ih m hm]

end Plotline.Marker
