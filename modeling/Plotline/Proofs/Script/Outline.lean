import Mathlib.Data.List.Forall2
import Plotline.Proofs.Marker.Scan
import Plotline.Script.Builder

/-!
# Outlines

An outline reads a script as a whole, without a builder. The lines that count are classified one by
one; every line that starts something is put together with the lines that continue it, and every
dialog with its decisions.

* `passages` cuts a list in front of every item of some kind.
* `Line.ofText` says what a line starts and which segments it has, and `linesOf` does so for all
  lines of a script that count.
* `groups` are the starts with their continuations, and `chapters` the dialogs with their decisions.
* `Outline.WellFormed` is what a script has to fulfil, and `Outline.Describes` says which tree the
  script stands for.
-/

namespace Plotline.Script

open Marker (Segment ids links plain)
open Text (strip stripEnd cutLines joinLines)

/-! ## Passages -/

/-- An item and those that follow it and belong to it. -/
structure Passage (α : Type) where
  head : α
  rest : List α

/-- Cuts a list in front of every item that opens a passage. The first list is what comes before the
first passage. -/
def passages {α : Type} (opens : α → Bool) : List α → List α × List (Passage α)
  | [] => ([], [])
  | a :: l =>
    let (lead, parts) := passages opens l
    if opens a then ([], ⟨a, lead⟩ :: parts) else (a :: lead, parts)

/-! ## Lines -/

/-- A line by itself: what it starts, if anything, and its segments. -/
structure Line where
  starts : Option EntityKind
  segments : List Segment

/-- Whether a line counts: it is neither blank nor a comment. -/
def counts (line : List Char) : Bool := line ≠ [] && line.head? ≠ some '#'

/-- Reads a line. A `>` starts a decision, and an id marker a dialog. -/
def Line.ofText (trim : Bool) (line : List Char) : Line :=
  if line.head? = some '>' then
    ⟨some .decision, Marker.segments trim (line.tail.dropWhile (· = ' '))⟩
  else
    let segs := Marker.segments trim line
    ⟨if ids segs = [] then none else some .dialog, segs⟩

/-- The lines of a script that count. -/
def linesOf (trim : Bool) (script : List String) : List Line :=
  ((script.map fun line => strip line.toList).filter counts).map (Line.ofText trim)

/-- A line without a second id or a second link. -/
def Line.Scans (l : Line) : Prop := (ids l.segments).length ≤ 1 ∧ (links l.segments).length ≤ 1

/-! ## Groups -/

/-- A line that starts something and the lines that continue it. -/
abbrev Group := Passage Line

namespace Group

def isDialog (g : Group) : Bool := g.head.starts = some .dialog

def lines (g : Group) : List Line := g.head :: g.rest

/-- The id on the first line, empty if there is none. -/
def id (g : Group) : String := (ids g.head.segments).head?.getD ""

/-- The links on all lines. -/
def links (g : Group) : List Link := g.lines.flatMap fun l => Marker.links l.segments

/-- The first link, if there is one. -/
def link (g : Group) : Link := g.links.head?.getD {}

/-- The texts of the lines, cut at newlines, without blanks at the ends and without empty lines. -/
def message (g : Group) : String :=
  let texts := g.lines.flatMap fun l => cutLines (plain l.segments).toList
  String.ofList (joinLines ((texts.map stripEnd).filter (· ≠ [])))

/-- The decision that a group stands for. -/
def decision (g : Group) : Decision := { id := g.id, message := some g.message, link := g.link }

end Group

/-- The groups of a script. -/
def groups (lines : List Line) : List Group := (passages (·.starts.isSome) lines).2

/-! ## Chapters -/

/-- The group of a dialog and those of its decisions. -/
abbrev Chapter := Passage Group

/-- Every dialog with the decisions up to the next dialog. -/
def chapters (groups : List Group) : List Chapter := (passages Group.isDialog groups).2

/-- The dialog that a chapter stands for. -/
structure Chapter.Describes (console : Console) (c : Chapter) (d : Dialog) : Prop where
  id : d.id = c.head.id
  message : d.message = some c.head.message
  link : d.link = c.head.link
  console : d.console = console
  decisions : d.decisions.items = c.rest.map Group.decision

/-- The dialogs have different ids, and so have the decisions of each dialog. -/
structure Distinct (cs : List Chapter) : Prop where
  dialogs : (cs.map (·.head.id)).Nodup
  decisions : ∀ c ∈ cs, (c.rest.map Group.id).Nodup

/-- The tree that chapters stand for. Its root is the first dialog. -/
structure Describes (options : Options) (cs : List Chapter) (t : Tree) : Prop where
  id : t.id = options.treeId
  score : t.score = options.score
  console : t.console = options.console
  root : cs.head?.map (·.head.id) = some t.root
  dialogs : List.Forall₂ (Chapter.Describes options.console) cs t.dialogs.items

/-! ## Outlines -/

/-- A script as its lines that count. -/
structure Outline where
  lines : List Line

namespace Outline

/-- The outline of a script. -/
def ofScript (trim : Bool) (script : List String) : Outline := ⟨linesOf trim script⟩

def groups (o : Outline) : List Group := Script.groups o.lines

def chapters (o : Outline) : List Chapter := Script.chapters o.groups

/-- What a script has to fulfil. -/
structure WellFormed (o : Outline) : Prop where
  /-- There is a first line, and it starts a dialog. -/
  opens : ∃ l, o.lines.head? = some l ∧ l.starts = some .dialog
  scans : ∀ l ∈ o.lines, l.Scans
  /-- Every start has an id, which is not empty. -/
  ids : ∀ g ∈ o.groups, ∃ id ∈ Marker.ids g.head.segments, id ≠ ""
  /-- Every group has at most one link over all its lines. -/
  links : ∀ g ∈ o.groups, g.links.length ≤ 1
  distinct : Distinct o.chapters

/-- The tree that an outline stands for. -/
def Describes (options : Options) (o : Outline) (t : Tree) : Prop :=
  Script.Describes options o.chapters t

end Outline

end Plotline.Script
