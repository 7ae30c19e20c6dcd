import Plotline.Tree.Basic

/-!
# What is done with a tree

Entities are offered to a tree and to its dialogs, and the fields of those that are there are set.
An offer of an id that is taken fails, as does anything that is done with an entity that is not
there, and a deed that fails leaves everything as it was.

* `Dialog.perform` does one `Dialog.Deed`, `Tree.perform` one `Tree.Deed`: how it failed, if it did,
  and what is there afterwards.
* `Tree.Deed.within?` is what a deed on a tree is to the dialog with an id.
-/

namespace Plotline

/-- What came of an attempt: the failure and what was there before, or what is there now. -/
def settle {α : Type} (before : α) : Except Failure α → Option Failure × α
  | .ok now => (none, now)
  | .error f => (some f, before)

/-! ## Dialogs -/

/-- What is done with a dialog. -/
inductive Dialog.Deed
  | insert (x : Decision)
  | edit (e : Edit)
  | editDecision (id : String) (e : Edit)
  | setConsole (c : Console)
  deriving DecidableEq

theorem Decision.edit_keeps_id (e : Edit) (x : Decision) : (x.edit e).id = x.id := x.edit_id e

namespace Dialog

/-- Sets a field of a decision. -/
def editDecision (d : Dialog) (id : String) (e : Edit) : Dialog :=
  { d with decisions := d.decisions.modify id (·.edit e) (Decision.edit_keeps_id e) }

/-- Does one deed: how it failed, if it did, and the dialog afterwards. -/
def perform (d : Dialog) : Deed → Option Failure × Dialog
  | .insert x => settle d (d.insert x)
  | .edit e => (none, d.edit e)
  | .editDecision id e => settle d ((d.get id).map fun _ => d.editDecision id e)
  | .setConsole c => (none, { d with console := c })

/-- Does one deed after the other, whichever of them fail. -/
def performAll (d : Dialog) (deeds : List Deed) : Dialog :=
  deeds.foldl (fun d deed => (d.perform deed).2) d

end Dialog

/-! ## Trees -/

/-- What is done with a tree. -/
inductive Tree.Deed
  | insert (d : Dialog)
  | addDialog (id : String) (message : Option String) (link : Link)
  | insertDecision (dialog : String) (x : Decision)
  | edit (place : Place) (e : Edit)
  /-- Sets the console of the tree, or of a dialog. -/
  | setConsole (dialog : Option String) (c : Console)
  deriving DecidableEq

namespace Tree

/-- Sets the console of the tree, or of a dialog. -/
def setConsole (t : Tree) (dialog : Option String) (c : Console) : Except Failure Tree :=
  match dialog with
  | none => .ok { t with console := c }
  | some id =>
    (t.get id).map fun _ =>
      { t with dialogs := t.dialogs.modify id fun d => { d with console := c } }

/-- Does one deed: how it failed, if it did, and the tree afterwards. -/
def perform (t : Tree) : Deed → Option Failure × Tree
  | .insert d => settle t (t.insert d)
  | .addDialog id message link =>
    settle t (t.insert { id := id, message := message, link := link, console := t.console })
  | .insertDecision dialog x => settle t (t.insertDecision dialog x)
  | .edit place e => settle t ((t.at place).map fun _ => t.edit place e)
  | .setConsole dialog c => settle t (t.setConsole dialog c)

/-- Does one deed after the other, whichever of them fail. -/
def performAll (t : Tree) (deeds : List Deed) : Tree :=
  deeds.foldl (fun t deed => (t.perform deed).2) t

/-- What a deed is to the dialog with an id. -/
def Deed.within? (id : String) : Deed → Option Dialog.Deed
  | .insert _ | .addDialog _ _ _ => none
  | .insertDecision dialog x => if dialog = id then some (.insert x) else none
  | .edit place e =>
    match place with
    | .tree => none
    | .dialog dialog => if dialog = id then some (.edit e) else none
    | .decision dialog x => if dialog = id then some (.editDecision x e) else none
  | .setConsole dialog c => if dialog = some id then some (.setConsole c) else none

end Tree

end Plotline
