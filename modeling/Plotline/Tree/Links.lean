import Plotline.Tree.Basic

/-!
# Following links inside a tree

* `Tree.resolveLink` gives the dialog of the tree that a link leads to: none if the link has no
  target or leads to another tree.
* `Tree.danglingLinks` lists the dialogs and decisions with a dialog link to no dialog of the tree,
  in order, each dialog before its decisions.
-/

namespace Plotline

/-- The dialog of this tree that a link leads to. -/
def Tree.resolveLink (t : Tree) (l : Link) : Except Failure (Option Dialog) :=
  match l.target, l.kind with
  | some target, some .dialog => (t.get target).map some
  | _, _ => .ok none

/-- Something with a link: the dialog it is or belongs to, its own id, and the link. -/
structure Owner where
  dialog : String
  id : String
  link : Link
  deriving DecidableEq, Repr

/-- A dialog and then its decisions. -/
def Dialog.owners (d : Dialog) : List Owner :=
  ⟨d.id, d.id, d.link⟩ :: d.decisions.items.map fun x => ⟨d.id, x.id, x.link⟩

/-- All that can have a link, dialog by dialog. -/
def Tree.owners (t : Tree) : List Owner := t.dialogs.items.flatMap Dialog.owners

/-- A dialog link that leads to no dialog of the tree. -/
def Tree.isDangling (t : Tree) (l : Link) : Bool :=
  l.kind = some .dialog ∧ !(l.target.any t.dialogs.contains)

/-- What has a dialog link that leads nowhere. -/
def Tree.danglingLinks (t : Tree) : List Owner := t.owners.filter (t.isDangling ·.link)

end Plotline
