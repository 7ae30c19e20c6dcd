import Plotline.Story.Library

/-!
# Sessions

A session walks the trees of a library, one dialog at a time, and remembers where it has been.

* `Session.start` begins at the root of a tree.
* `Session.choose` takes a decision of the current dialog: its score is added to the current tree,
  and its link is followed, or the dialog's if it has none.
* `Session.advance` follows the dialog's link.
* Without a link to follow, the story ends, and stays ended.

A call that fails leaves everything as it was, with two exceptions. A choice first adds the score
and then tells it, which fails if the score has become too long to be written (`Number.written`).
And a link that has a target and no kind is found out only after the score was told and the story
ended (`Session.move`).
-/

namespace Plotline

/-- A walk through the trees of a library: the console it uses, the tree it is in, the dialog it is
at unless the story has ended, and the ids of the trees and dialogs it has been at. -/
structure Session where
  console : Console := {}
  tree : TreeRef
  dialog : Option String
  history : List (String × String)
  deriving DecidableEq, Repr

namespace Session

/-- What a step of a session leaves behind: the id of the dialog it came to or why it failed, the
session, the library and the notices. -/
structure Step where
  answer : Except Failure (Option String)
  session : Session
  library : Library
  postings : List Posting := []

/-- A new session at the root of the tree that a key or id names. -/
def start (l : Library) (console : Console) (key : String) : Except Failure Session :=
  match l.get key with
  | .error f => .error f
  | .ok r =>
    match (l.tree r).rootDialog with
    | .error f => .error f
    | .ok d =>
      .ok { console := console, tree := r, dialog := some d.id, history := [((l.tree r).id, d.id)] }

/-- The story has ended. -/
def ended (s : Session) : Bool := s.dialog.isNone

/-- The current dialog, as it is now. -/
def current (s : Session) (l : Library) : Option Dialog :=
  s.dialog.bind (l.tree s.tree).dialogs.get?

/-- Goes to a destination; without one, the story ends. A destination without a dialog fails, and
ends the story as well. -/
def move (s : Session) (l : Library) :
    Option Library.Destination → Except Failure (Option String) × Session
  | none => (.ok none, { s with dialog := none })
  | some ⟨r, some dialog⟩ =>
    (.ok (some dialog),
      { s with
        tree := r, dialog := some dialog, history := s.history ++ [((l.tree r).id, dialog)] })
  | some ⟨r, none⟩ =>
    (.error (s.console.fail .kindlessLink), { s with tree := r, dialog := none })

/-- The link that choosing a decision follows: its own, or the dialog's if it has none. -/
def linkOf (d : Dialog) (x : Decision) : Link := if x.link.target.isSome then x.link else d.link

/-- Takes a decision of the current dialog. -/
def choose (s : Session) (l : Library) (id : String) : Step :=
  match s.current l with
  | none => ⟨.error (s.console.fail (.storyEnded id)), s, l, []⟩
  | some d =>
    match d.get id with
    | .error f => ⟨.error f, s, l, []⟩
    | .ok x =>
      if !x.enabled then ⟨.error (s.console.fail (.decisionDisabled id d.id)), s, l, []⟩
      else
        match l.resolve s.tree (linkOf d x) with
        | .error f => ⟨.error f, s, l, []⟩
        | .ok destination =>
          let l := l.modify s.tree (·.addScore x.score)
          let tree := l.tree s.tree
          match Number.written tree.score with
          | .error f => ⟨.error (s.console.fail (.numeral f)), s, l, []⟩
          | .ok score =>
            let postings :=
              s.console.info ("chose: " ++ id) ["score of " ++ tree.id ++ ": " ++ score]
            let (answer, s) := s.move l destination
            ⟨answer, s, l, postings⟩

/-- Follows the link of the current dialog. -/
def advance (s : Session) (l : Library) : Step :=
  match s.current l with
  | none => ⟨.ok none, s, l, []⟩
  | some d =>
    match l.resolve s.tree d.link with
    | .error f => ⟨.error f, s, l, []⟩
    | .ok destination =>
      let (answer, s) := s.move l destination
      ⟨answer, s, l, []⟩

end Session

end Plotline
