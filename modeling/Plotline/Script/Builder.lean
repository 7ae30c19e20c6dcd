import Plotline.Marker.Scan
import Plotline.Text.Lines
import Plotline.Tree.Links

/-!
# Building a tree from script lines

A builder takes the lines of a script one by one. Blank lines and lines that start with `#` are
skipped. A line that starts with `>` starts a decision of the current dialog, any other line with an
id marker starts a dialog, and the rest continue what was started last. What is being gathered
becomes part of the tree when the next entity starts or the script is finished.

* `Builder.feed` takes one line, `Builder.finish` hands out the tree together with the notices about
  it. Both say what the builder is afterwards also when they fail, and a builder can go on.
* `Script.parse` feeds all lines of a script and finishes; the first failure ends it.
-/

namespace Plotline

open Marker (Token)
open Text (strip stripEnd cutLines joinLines)

namespace Script

/-- How a script is read: whether spaces behind markers are skipped, the id and the first score of
the tree, and the console that is used. -/
structure Options where
  trim : Bool := true
  treeId : String := ""
  score : Int := 0
  console : Console := {}
  deriving DecidableEq, Repr

/-- The message that gathered text stands for: every line loses the blanks at its end, and lines
that are then empty are left out. -/
def message (text : String) : String :=
  String.ofList (joinLines (((cutLines text.toList).map stripEnd).filter (· ≠ [])))

end Script

/-- The state of reading a script. -/
structure Builder where
  options : Script.Options
  /-- The tree so far; there is none before the first dialog is complete. -/
  tree : Option Tree := none
  /-- The dialog that decisions are added to: the last one that is complete. -/
  current : Option String := none
  /-- What is being gathered. -/
  pending : Option Token := none
  /-- What was started last. -/
  kind : EntityKind := .dialog
  /-- The line that started it. -/
  startLine : Nat := 0
  /-- How many lines were fed. -/
  lineCount : Nat := 0
  /-- How many decisions are complete. -/
  decisionCount : Nat := 0
  deriving DecidableEq

namespace Builder

/-- A builder before the first line. -/
def new (options : Script.Options) : Builder := { options := options }

/-- A fault raised through the builder's console. -/
def fail (b : Builder) (f : Fault) : Failure := b.options.console.fail f

/-- The tree so far, or an empty one whose root is the dialog that comes first. -/
def treeFor (b : Builder) (root : String) : Tree :=
  b.tree.getD
    { id := b.options.treeId, root := root, score := b.options.score
      console := b.options.console }

/-- Adds a dialog to the tree, and makes it the current one. -/
def addDialog (b : Builder) (id : String) (t : Token) : Option Failure × Builder :=
  let tree := b.treeFor id
  let d : Dialog :=
    { id := id, message := some (Script.message t.text), link := .make t.link.target t.link.kind
      console := b.options.console }
  match tree.insert d with
  | .error f => (some f, { b with tree := some tree })
  | .ok tree => (none, { b with tree := some tree, current := some id })

/-- Adds a decision to the current dialog. There is one whenever this is called
(`Builder.Coherent`); without one it would fail. -/
def addDecision (b : Builder) (id : String) (t : Token) : Option Failure × Builder :=
  let x : Decision :=
    { id := id, message := some (Script.message t.text), link := .make t.link.target t.link.kind }
  match b.tree, b.current with
  | some tree, some dialog =>
    match tree.insertDecision dialog x with
    | .error f => (some f, b)
    | .ok tree => (none, { b with tree := some tree, decisionCount := b.decisionCount + 1 })
  | _, _ => (some (b.fail .decisionWithoutDialog), b)

/-- Completes what is being gathered. -/
def flush (b : Builder) : Option Failure × Builder :=
  match b.pending with
  | none => (none, b)
  | some t =>
    let b := { b with pending := none }
    let id := t.id.getD ""
    if id = "" then (some (b.fail (.missingId b.kind b.startLine t)), b)
    else
      match b.kind with
      | .dialog => b.addDialog id t
      | .decision => b.addDecision id t

/-- Starts gathering an entity on the present line. -/
def start (b : Builder) (kind : EntityKind) (t : Token) : Builder :=
  { b with pending := some t, kind := kind, startLine := b.lineCount }

/-- Scans a line into a token of its own. -/
def scan (b : Builder) (line : List Char) : Except Failure Token :=
  match ({} : Token).scan b.options.trim line with
  | .error f => .error (b.fail f)
  | .ok t => .ok t

/-- Adds a line to what is being gathered: its text always, its link if there is none yet. -/
def continueWith (b : Builder) (pending t : Token) : Option Failure × Builder :=
  let merged := { pending with text := pending.text ++ "\n" ++ t.text }
  match t.link.target with
  | none => (none, { b with pending := some merged })
  | some target =>
    if merged.hasLink then
      (some (b.fail (.secondLinkOnLine target b.lineCount merged)),
        { b with pending := some merged })
    else (none, { b with pending := some { merged with link := t.link } })

/-- Takes a line that starts a decision, without its `>`. -/
def feedDecision (b : Builder) (line : List Char) : Option Failure × Builder :=
  match b.flush with
  | (some f, b) => (some f, b)
  | (none, b) =>
    if b.current.isNone then (some (b.fail (.decisionBeforeDialog b.lineCount)), b)
    else
      match b.scan (line.dropWhile (· = ' ')) with
      | .error f => (some f, b)
      | .ok t => (none, b.start .decision t)

/-- Takes any other line: it starts a dialog if it has an id, else it continues. -/
def feedText (b : Builder) (line : List Char) : Option Failure × Builder :=
  match b.scan line with
  | .error f => (some f, b)
  | .ok t =>
    if t.hasId then
      match b.flush with
      | (some f, b) => (some f, b)
      | (none, b) => (none, b.start .dialog t)
    else
      match b.pending with
      | none => (some (b.fail (.textOutsideDialog b.lineCount t)), b)
      | some pending => b.continueWith pending t

/-- Takes one line of the script. -/
def feed (b : Builder) (line : String) : Option Failure × Builder :=
  let b := { b with lineCount := b.lineCount + 1 }
  match strip line.toList with
  | [] => (none, b)
  | c :: rest =>
    if c = '#' then (none, b)
    else if c = '>' then b.feedDecision rest
    else b.feedText (c :: rest)

/-- Takes lines up to the first failure. -/
def feedAll (b : Builder) : List String → Option Failure × Builder
  | [] => (none, b)
  | line :: rest =>
    match b.feed line with
    | (some f, b) => (some f, b)
    | (none, b) => b.feedAll rest

/-- The notices about a finished tree: a warning if its root is not there, one for each dialog link
that leads nowhere, then an information with the counts. -/
def notices (b : Builder) (t : Tree) : List Posting :=
  let console := b.options.console
  (if t.dialogs.contains t.root then []
    else console.warn ("root dialog not found: " ++ t.root) ["in tree: " ++ t.id]) ++
    (t.danglingLinks.flatMap fun o =>
      console.warn ("dangling dialog link: " ++ Link.shown o.link.target)
        ["from: " ++ o.id, "in dialog: " ++ o.dialog]) ++
    console.info ("parsed tree: " ++ b.options.treeId)
      ["dialogs: " ++ toString t.dialogs.size, "decisions: " ++ toString b.decisionCount]

/-- Completes what is being gathered, and hands out the tree and the notices about it. -/
def finish (b : Builder) : Except Failure (Tree × List Posting) × Builder :=
  match b.flush with
  | (some f, b) => (.error f, b)
  | (none, b) =>
    match b.tree with
    | none => (.error (b.fail (.noDialog b.options.treeId)), b)
    | some t => (.ok (t, b.notices t), b)

end Builder

/-- Reads all lines of a script. -/
def Script.parse (options : Script.Options) (lines : List String) :
    Except Failure (Tree × List Posting) :=
  match (Builder.new options).feedAll lines with
  | (some f, _) => .error f
  | (none, b) => b.finish.1

end Plotline
