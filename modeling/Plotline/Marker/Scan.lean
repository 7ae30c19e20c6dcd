import Plotline.Fault

/-!
# Scanning a line into a token

A scan takes the segments of a line one after the other into a token. A second id or a second link
stops it; the fault carries the token as it was before that marker, so the text up to there is
kept and the first id or link stays.
-/

namespace Plotline.Marker.Token

/-- Takes one segment into the token. -/
def absorb (t : Token) : Segment → Except Fault Token
  | .literal text => .ok { t with text := t.text ++ text }
  | .id value =>
    if t.hasId then .error (.secondId value t) else .ok { t with id := some value }
  | .link kind value =>
    if t.hasLink then .error (.secondLink value t) else .ok { t with link := .into kind value }

/-- Takes segments into the token up to the first that it refuses. -/
def absorbAll (t : Token) : List Segment → Except Fault Token
  | [] => .ok t
  | s :: rest =>
    match t.absorb s with
    | .error f => .error f
    | .ok t => t.absorbAll rest

/-- Scans a line into the token. -/
def scan (trim : Bool) (line : List Char) (t : Token) : Except Fault Token :=
  t.absorbAll (segments trim line)

end Plotline.Marker.Token
