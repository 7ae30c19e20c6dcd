import Plotline.Script.File

/-!
# Libraries

A library is a shelf of trees and a register of some of them. On the shelf a tree is named by its
place, and whoever holds the place sees the tree as it is now. The register gives trees keys, which
are the paths of their scripts. A key is text, so a path that is none (`Path.Spelling`) is no key.

* `Library.get` finds a tree by key, else the earliest registered tree with that id.
* `Library.add` registers a tree, `Library.load` reads a script and registers its tree, and
  `Library.loadAll` does so for a list of scripts up to the first failure.
* `Library.resolve` follows a link from a tree: a dialog link stays in the tree, a tree link leads
  to the root of the tree that it names.
* `Library.danglingLinks` lists the tree links that lead to no registered tree.
-/

namespace Plotline

/-- The place of a tree on the shelf. -/
abbrev TreeRef := Nat

/-- A registered tree and its key. -/
structure Entry where
  key : String
  tree : TreeRef
  deriving DecidableEq, Repr

/-- The registered trees, how scripts are read for it, and the console that it uses. -/
structure Register where
  trim : Bool := true
  console : Console := {}
  entries : Roster Entry Entry.key := ∅
  deriving DecidableEq

/-- A shelf of trees and a register of some of them. -/
structure Library where
  shelf : List Tree := []
  register : Register := {}
  deriving DecidableEq

namespace Library

/-! ## The shelf -/

/-- The tree at a place; where there is none, a blank one. -/
def tree (l : Library) (r : TreeRef) : Tree := l.shelf.getD r .blank

/-- Puts a tree at the end of the shelf. -/
def place (l : Library) (t : Tree) : TreeRef × Library :=
  (l.shelf.length, { l with shelf := l.shelf ++ [t] })

/-- Changes the tree at a place. -/
def modify (l : Library) (r : TreeRef) (f : Tree → Tree) : Library :=
  { l with shelf := l.shelf.modify r f }

/-! ## The register -/

/-- The places of the registered trees, in order. -/
def trees (l : Library) : List TreeRef := l.register.entries.items.map (·.tree)

/-- The earliest registered tree with this id. -/
def findById (l : Library) (id : String) : Option TreeRef :=
  l.trees.find? fun r => (l.tree r).id = id

/-- The tree registered under a key, else the earliest with that id. -/
def find (l : Library) (key : String) : Option TreeRef :=
  match l.register.entries.get? key with
  | some e => some e.tree
  | none => l.findById key

/-- Whether a tree is registered under this key or has this id. -/
def has (l : Library) (key : String) : Bool :=
  l.register.entries.contains key || (l.findById key).isSome

/-- The tree that a key or id names. -/
def get (l : Library) (key : String) : Except Failure TreeRef :=
  match l.find key with
  | some r => .ok r
  | none => .error (l.register.console.fail (.treeNotFound key))

/-- Registers a tree. A second tree with the same id is let in, with a warning. -/
def add (l : Library) (key : String) (r : TreeRef) : Except Failure (Library × List Posting) :=
  let console := l.register.console
  match l.register.entries.insert? ⟨key, r⟩ with
  | none => .error (console.fail (.keyTaken key))
  | some entries =>
    let id := (l.tree r).id
    let postings :=
      if (l.findById id).isSome then
        console.warn ("tree id used twice: " ++ id) ["source: " ++ key]
      else []
    .ok ({ l with register := { l.register with entries := entries } }, postings)

/-- What loading a script gives: the place of its tree, the library with it, and the notices. -/
structure Loaded where
  tree : TreeRef
  library : Library
  postings : List Posting

/-- Reads a script and registers its tree under the path. -/
def load (disk : Disk) (l : Library) : Path.Spelling → Except Failure Loaded
  | .broken b => .error (l.register.console.fail (.brokenPath b))
  | .text path =>
    let console := l.register.console
    if l.register.entries.contains path then .error (console.fail (.alreadyLoaded path))
    else
      match Script.load disk { trim := l.register.trim, console := console } path with
      | .error f => .error f
      | .ok (t, parsing) =>
        let (r, l) := l.place t
        match l.add path r with
        | .error f => .error f
        | .ok (l, adding) => .ok ⟨r, l, parsing ++ adding⟩

/-- Loads scripts in order up to the first failure; what was loaded before it stays. -/
def loadAll (disk : Disk) (l : Library) :
    List Path.Spelling → Except Failure (List TreeRef) × Library × List Posting
  | [] => (.ok [], l, [])
  | path :: rest =>
    match l.load disk path with
    | .error f => (.error f, l, [])
    | .ok loaded =>
      let (refs, l, postings) := loadAll disk loaded.library rest
      (refs.map (loaded.tree :: ·), l, loaded.postings ++ postings)

/-! ## Links -/

/-- Where a link leads: a tree and one of its dialogs. A link with a target and no kind leads to no
dialog of the tree that it is in. -/
structure Destination where
  tree : TreeRef
  dialog : Option String
  deriving DecidableEq, Repr

/-- Follows a link from a tree. There is no destination without a target. -/
def resolve (l : Library) (source : TreeRef) (link : Link) :
    Except Failure (Option Destination) :=
  match link.target with
  | none => .ok none
  | some target =>
    if link.kind = some .tree then
      match l.get target with
      | .error f => .error f
      | .ok r => (l.tree r).rootDialog.map fun d => some ⟨r, some d.id⟩
    else ((l.tree source).resolveLink link).map fun d => some ⟨source, d.map (·.id)⟩

/-- A tree link to no registered tree. -/
def isDangling (l : Library) (link : Link) : Bool :=
  link.kind = some .tree ∧ !(link.target.any l.has)

/-- What has a tree link that leads nowhere, with the id of the tree it is in. -/
def danglingLinks (l : Library) : List (String × Owner) :=
  l.trees.flatMap fun r =>
    ((l.tree r).owners.filter (l.isDangling ·.link)).map fun o => ((l.tree r).id, o)

/-- A warning for each tree link that leads nowhere. -/
def checkLinks (l : Library) : List Posting :=
  l.danglingLinks.flatMap fun (tree, o) =>
    l.register.console.warn ("dangling tree link: " ++ Link.shown o.link.target)
      ["from: " ++ o.id, "in tree: " ++ tree]

end Library

end Plotline
