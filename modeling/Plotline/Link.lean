/-!
# Links

Where a dialog or a decision leads. A link has a target, which is an id, and a kind, which says
whether the id names a dialog of the same tree or another tree. Target and kind can be set apart
from each other, so all four combinations occur; a link made from both parts at once has a kind
only if it has a target (`Link.make`).
-/

namespace Plotline

/-- What a link's target names. -/
inductive LinkKind
  /-- Another tree. -/
  | tree
  /-- A dialog of the same tree. -/
  | dialog
  deriving DecidableEq, Repr

/-- Where a dialog or a decision leads. -/
structure Link where
  target : Option String := none
  kind : Option LinkKind := none
  deriving DecidableEq, Repr

namespace Link

/-- A link from its parts; without a target there is no kind either. -/
def make (target : Option String) (kind : Option LinkKind) : Link :=
  ⟨target, if target.isSome then kind else none⟩

/-- A link that leads to a dialog or to a tree. -/
def into (kind : LinkKind) (target : String) : Link := ⟨some target, some kind⟩

/-- Target and kind are both there or both absent. -/
def Paired (l : Link) : Prop := l.target.isSome = l.kind.isSome

instance (l : Link) : Decidable l.Paired := inferInstanceAs (Decidable (_ = _))

/-- The target as messages show it. -/
def shown (target : Option String) : String := target.getD "None"

end Link

end Plotline
