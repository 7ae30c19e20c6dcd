import Plotline.Link

/-!
# Segments of a script line

A script line is text with markers in it. `$[id]` gives the id, `$T[x]` and `$t[x]` link to the
tree `x`, `$D[x]` and `$d[x]` to the dialog `x`; any other `$` is text, together with the
characters that were looked at.

* `nextSegment` cuts the first segment off a line that is not empty; the rest is no longer than
  what followed the first character (`nextSegment_rest_length`).
* `segments` cuts a whole line.
* `markerValue` reads the content of a marker: up to the next `]`, or all of the line without one.
  With `trim`, the spaces behind the `]` are skipped.
-/

namespace Plotline.Marker

/-- A piece of a script line. -/
inductive Segment
  /-- Text that stands for itself. -/
  | literal (text : String)
  /-- An id marker and its content. -/
  | id (value : String)
  /-- A link marker and its content. -/
  | link (kind : LinkKind) (value : String)
  deriving DecidableEq, Repr

/-- The kind of link that a letter behind `$` announces. -/
def linkLetter? (c : Char) : Option LinkKind :=
  if c = 'T' ∨ c = 't' then some .tree else if c = 'D' ∨ c = 'd' then some .dialog else none

/-- What follows a marker's content: the `]` is dropped and, with `trim`, the spaces behind it. -/
def afterMarker (trim : Bool) (s : List Char) : List Char :=
  let rest := (s.dropWhile (· ≠ ']')).drop 1
  if trim then rest.dropWhile (· = ' ') else rest

/-- The content of a marker whose `[` has been read, and what follows the marker. -/
def markerValue (trim : Bool) (s : List Char) : String × List Char :=
  (String.ofList (s.takeWhile (· ≠ ']')), afterMarker trim s)

/-- The first segment of the line `c :: rest`, and the line behind it. -/
def nextSegment (trim : Bool) (c : Char) (rest : List Char) : Segment × List Char :=
  if c = '$' then
    match rest with
    | [] => (.literal "$", [])
    | k :: rest =>
      if k = '[' then
        let (value, rest) := markerValue trim rest
        (.id value, rest)
      else
        match linkLetter? k, rest with
        | some kind, '[' :: rest =>
          let (value, rest) := markerValue trim rest
          (.link kind value, rest)
        | some _, x :: rest => (.literal (String.ofList ['$', k, x]), rest)
        | _, rest => (.literal (String.ofList ['$', k]), rest)
  else (.literal (String.ofList [c]), rest)

theorem length_dropWhile_le (p : Char → Bool) (s : List Char) :
    (s.dropWhile p).length ≤ s.length :=
  (List.dropWhile_sublist p).length_le

theorem afterMarker_length (trim : Bool) (s : List Char) :
    (afterMarker trim s).length ≤ s.length := by
  have h : ((s.dropWhile (· ≠ ']')).drop 1).length ≤ s.length := by
    have := length_dropWhile_le (· ≠ ']') s
    simp only [List.length_drop]
    omega
  unfold afterMarker
  split
  · exact Nat.le_trans (length_dropWhile_le _ _) h
  · exact h

theorem nextSegment_rest_length (trim : Bool) (c : Char) (rest : List Char) :
    (nextSegment trim c rest).2.length ≤ rest.length := by
  unfold nextSegment
  split
  · split
    · simp
    · rename_i k rest
      have h := afterMarker_length trim
      split
      · exact Nat.le_succ_of_le (h rest)
      · split
        · rename_i rest' _
          have := h rest'
          simp only [markerValue, List.length_cons]
          omega
        · simp only [List.length_cons]
          omega
        · simp
  · simp

/-- The segments of a line, in order. -/
def segments (trim : Bool) : List Char → List Segment
  | [] => []
  | c :: rest => (nextSegment trim c rest).1 :: segments trim (nextSegment trim c rest).2
termination_by s => s.length
decreasing_by
  have := nextSegment_rest_length trim c rest
  simp only [List.length_cons]
  omega

end Plotline.Marker
