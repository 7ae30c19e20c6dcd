import Plotline.Fault
import Plotline.Roster

/-!
# Decisions, dialogs and trees

A story tree is a roster of dialogs, and a dialog holds a roster of decisions. Ids never change and
nothing is taken off, so an entity is named for good by the ids on the way to it (`Place`), and a
list of keys taken now still finds its entities later (`Snapshot`).

* `Dialog.insert` and `Tree.insert` refuse an id that is taken; `Dialog.get` and `Tree.get` fail on
  an id that is not there. A dialog speaks through its own console, a tree through its own.
* `Tree.edit` sets one field of an entity.
-/

namespace Plotline

/-- An option that the player can pick. A disabled one may be shown and cannot be picked; the
score is added to the tree's score when the decision is chosen. -/
structure Decision where
  id : String
  message : Option String := some ""
  link : Link := {}
  enabled : Bool := true
  score : Int := 0
  deriving DecidableEq

/-- A message and the decisions it offers. The link is followed when the decision chosen has
none, or when there is no decision to choose. -/
structure Dialog where
  id : String
  message : Option String := some ""
  link : Link := {}
  console : Console := {}
  decisions : Roster Decision Decision.id := ∅
  deriving DecidableEq

/-- The dialogs of one script, the id of the one where the story starts, and the score. -/
structure Tree where
  id : String := ""
  root : String
  score : Int := 0
  console : Console := {}
  dialogs : Roster Dialog Dialog.id := ∅
  deriving DecidableEq

namespace Dialog

/-- Adds a decision at the end. -/
def insert (d : Dialog) (x : Decision) : Except Failure Dialog :=
  match d.decisions.insert? x with
  | some decisions => .ok { d with decisions := decisions }
  | none => .error (d.console.fail (.decisionIdTaken x.id d.id))

/-- The decision with this id. -/
def get (d : Dialog) (id : String) : Except Failure Decision :=
  match d.decisions.get? id with
  | some x => .ok x
  | none => .error (d.console.fail (.decisionNotFound id d.id))

end Dialog

namespace Tree

/-- A tree without dialogs. -/
def blank : Tree := { root := "" }

instance : Inhabited Tree := ⟨blank⟩

/-- Adds a dialog at the end. -/
def insert (t : Tree) (d : Dialog) : Except Failure Tree :=
  match t.dialogs.insert? d with
  | some dialogs => .ok { t with dialogs := dialogs }
  | none => .error (t.console.fail (.dialogIdTaken d.id t.id))

/-- The dialog with this id. -/
def get (t : Tree) (id : String) : Except Failure Dialog :=
  match t.dialogs.get? id with
  | some d => .ok d
  | none => .error (t.console.fail (.dialogNotFound id t.id))

/-- The dialog where the story starts. -/
def rootDialog (t : Tree) : Except Failure Dialog := t.get t.root

/-- Adds a decision at the end of a dialog. -/
def insertDecision (t : Tree) (dialog : String) (x : Decision) : Except Failure Tree :=
  match t.get dialog with
  | .error f => .error f
  | .ok d =>
    match d.insert x with
    | .error f => .error f
    | .ok d' =>
      .ok { t with
        dialogs := t.dialogs.modify dialog fun d => { d with decisions := d'.decisions } }

/-- How many decisions all dialogs hold together. -/
def decisionCount (t : Tree) : Nat := (t.dialogs.items.flatMap (·.decisions.items)).length

/-- Adds to the score. -/
def addScore (t : Tree) (n : Int) : Tree := { t with score := t.score + n }

end Tree

/-! ## Places and entities -/

/-- Where an entity is in a tree. -/
inductive Place
  | tree
  | dialog (id : String)
  | decision (dialog id : String)
  deriving DecidableEq, Repr

/-- What is at a place. -/
inductive Entity
  | tree (t : Tree)
  | dialog (d : Dialog)
  | decision (x : Decision)

/-- The link of an entity; a tree leads nowhere. -/
def Entity.link : Entity → Link
  | .tree _ => {}
  | .dialog d => d.link
  | .decision x => x.link

/-- The entity at a place. -/
def Tree.at (t : Tree) : Place → Except Failure Entity
  | .tree => .ok (.tree t)
  | .dialog id => (t.get id).map .dialog
  | .decision dialog id =>
    match t.get dialog with
    | .error f => .error f
    | .ok d => (d.get id).map .decision

/-! ## Editing -/

/-- A field of an entity and its new value. -/
inductive Edit
  | message (m : Option String)
  | target (t : Option String)
  | kind (k : Option LinkKind)
  | enabled (b : Bool)
  | score (n : Int)
  deriving DecidableEq, Repr

/-- Sets a field of a decision. -/
def Decision.edit (x : Decision) : Edit → Decision
  | .message m => { x with message := m }
  | .target t => { x with link := { x.link with target := t } }
  | .kind k => { x with link := { x.link with kind := k } }
  | .enabled b => { x with enabled := b }
  | .score n => { x with score := n }

/-- Sets a field of a dialog; it is neither enabled nor scored. -/
def Dialog.edit (d : Dialog) : Edit → Dialog
  | .message m => { d with message := m }
  | .target t => { d with link := { d.link with target := t } }
  | .kind k => { d with link := { d.link with kind := k } }
  | .enabled _ | .score _ => d

@[simp] theorem Decision.edit_id (x : Decision) (e : Edit) : (x.edit e).id = x.id := by
  cases e <;> rfl

@[simp] theorem Dialog.edit_id (d : Dialog) (e : Edit) : (d.edit e).id = d.id := by
  cases e <;> rfl

/-- Sets a field of the entity at a place; of a tree, the score can be set. -/
def Tree.edit (t : Tree) (place : Place) (e : Edit) : Tree :=
  match place with
  | .tree =>
    match e with
    | .score n => { t with score := n }
    | _ => t
  | .dialog id => { t with dialogs := t.dialogs.modify id (·.edit e) (by simp) }
  | .decision dialog id =>
    { t with
      dialogs := t.dialogs.modify dialog fun d =>
        { d with decisions := d.decisions.modify id (·.edit e) (by simp) } }

/-! ## Snapshots -/

/-- The keys of a collection at one moment: the dialogs of a tree, or the decisions of one of its
dialogs. -/
structure Snapshot where
  dialog : Option String
  keys : List String
  deriving DecidableEq, Repr

/-- Takes a snapshot of the dialogs, or of the decisions of one dialog. -/
def Tree.snapshot (t : Tree) : Option String → Except Failure Snapshot
  | none => .ok ⟨none, t.dialogs.keys⟩
  | some id => (t.get id).map fun d => ⟨some id, d.decisions.keys⟩

/-- The keys of a snapshot with the messages that their entities have now. -/
def Snapshot.messages (s : Snapshot) (t : Tree) : List (String × Option String) :=
  match s.dialog with
  | none => s.keys.map fun k => (k, (t.dialogs.get? k).bind (·.message))
  | some id =>
    s.keys.map fun k =>
      (k, ((t.dialogs.get? id).bind (·.decisions.get? k)).bind (·.message))

end Plotline
