import Plotline.Marker.Scan

/-!
# Positions in a line

A position counts characters from the beginning of a line. One below zero counts them from the end:
-1 is the last character.

* `valueAt` reads the content of a marker whose `[` is at a position.
* `segmentsFrom` cuts a line from a position on, going from position to position. From the beginning
  onwards that is the same as cutting the rest of the line (`segmentsFrom_natCast`); from a position
  below zero, the line is read up to its end and then once more from its beginning, unless a marker
  among the last characters leads to its end.
* `Token.scanFrom` scans a line from a position on; a position in front of the line is refused.
-/

namespace Plotline.Marker

/-- How many characters of the line are in front of a position; none are if the line does not reach
that far back. -/
def offset (line : List Char) (pos : Int) : Nat :=
  if 0 ≤ pos then pos.toNat else (line.length + pos).toNat

/-- The characters from one position up to another. There are none if the other one is in front. -/
def slice (line : List Char) (start stop : Int) : List Char :=
  (line.take (offset line stop)).drop (offset line start)

/-- The content of a marker whose `[` is at a position, and where the line goes on behind it. -/
def valueAt (trim : Bool) (line : List Char) (pos : Int) : String × Nat :=
  let (value, rest) := markerValue trim (line.drop (offset line (pos + 1)))
  (value, line.length - rest.length)

/-- What begins at a position with the character `c`: a segment and the position behind it. -/
def segmentAt (trim : Bool) (line : List Char) (pos : Int) (c : Char) : Segment × Int :=
  let next := slice line (pos + 1) (pos + 2)
  if c ≠ '$' then (.literal (String.ofList [c]), pos + 1)
  else if next = ['['] then
    let (value, rest) := valueAt trim line (pos + 1)
    (.id value, rest)
  else
    match next.head?.bind linkLetter? with
    | none => (.literal (String.ofList (slice line pos (pos + 2))), pos + 2)
    | some kind =>
      if slice line (pos + 2) (pos + 3) = ['['] then
        let (value, rest) := valueAt trim line (pos + 2)
        (.link kind value, rest)
      else (.literal (String.ofList (slice line pos (pos + 3))), pos + 3)

/-- A marker ends behind all that is in front of it. -/
theorem lt_valueAt (trim : Bool) {line : List Char} {pos p : Int} (h : pos < line.length)
    (hp : pos < p) : pos < (valueAt trim line p).2 := by
  have hafter := afterMarker_length trim (line.drop (offset line (p + 1)))
  show pos <
    ((line.length - (afterMarker trim (line.drop (offset line (p + 1)))).length : Nat) : Int)
  rw [List.length_drop] at hafter
  by_cases hneg : p + 1 < 0
  · omega
  · rw [offset, if_pos (Int.not_lt.1 hneg)] at hafter ⊢
    omega

/-- A segment ends behind the position that it begins at. -/
theorem lt_segmentAt (trim : Bool) {line : List Char} {pos : Int} (h : pos < line.length)
    (c : Char) : pos < (segmentAt trim line pos c).2 := by
  simp only [segmentAt]
  split
  · exact Int.lt_succ pos
  · split
    · exact lt_valueAt trim h (Int.lt_succ pos)
    · split
      · exact Int.lt_add_of_pos_right pos (by decide)
      · split
        · exact lt_valueAt trim h (Int.lt_add_of_pos_right pos (by decide))
        · exact Int.lt_add_of_pos_right pos (by decide)

/-- The segments of a line from a position on. -/
def segmentsFrom (trim : Bool) (line : List Char) (pos : Int) : List Segment :=
  if h : pos < line.length then
    match (line.drop (offset line pos)).head? with
    | none => []
    | some c =>
      have := lt_segmentAt trim h c
      (segmentAt trim line pos c).1 :: segmentsFrom trim line (segmentAt trim line pos c).2
  else []
termination_by (line.length - pos).toNat

/-- Scans a line into the token from a position on. -/
def Token.scanFrom (trim : Bool) (line : List Char) (pos : Int) (t : Token) : Except Fault Token :=
  if line.length + pos < 0 then .error .outsideLine else t.absorbAll (segmentsFrom trim line pos)

end Plotline.Marker
