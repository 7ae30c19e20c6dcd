import Plotline.Marker.Segment

/-!
# Tokens

What scanning script text has gathered: the text outside the markers, at most one id and at most
one link.
-/

namespace Plotline.Marker

/-- The text, id and link gathered so far. -/
structure Token where
  text : String := ""
  id : Option String := none
  link : Link := {}
  deriving DecidableEq, Repr

namespace Token

/-- An id marker was found. -/
def hasId (t : Token) : Bool := t.id.isSome

/-- A link marker was found. -/
def hasLink (t : Token) : Bool := t.link.target.isSome

end Token

end Plotline.Marker
