import Plotline.Tree.Basic
import Plotline.Text.Quoted

/-!
# One-line descriptions of entities

A decision and a tree are described with their scores, so a score that is too long to be written
leaves them without a description.
-/

namespace Plotline

/-- The text between quotes. -/
def quote (s : String) : String := String.ofList (Text.quoted s.toList)

/-- A truth value as descriptions write it. -/
def truthWord (b : Bool) : String := if b then "True" else "False"

/-- A list as descriptions write it. -/
def bracketed (items : List String) : String := "[" ++ ", ".intercalate items ++ "]"

/-- Describes a decision by its id, its link's target, and whether and with what score it can be
chosen. -/
def Decision.describe (x : Decision) : Except Number.Fault String :=
  (Number.written x.score).map fun score =>
    "Decision(" ++ quote x.id ++ ", link=" ++ (x.link.target.map quote).getD "None" ++
      ", enabled=" ++ truthWord x.enabled ++ ", score=" ++ score ++ ")"

/-- Describes a dialog by its id and the ids of its decisions. -/
def Dialog.describe (d : Dialog) : String :=
  "Dialog(" ++ quote d.id ++ ", decisions=" ++ bracketed (d.decisions.keys.map quote) ++ ")"

/-- Describes a tree by its id, its root, its score and how many dialogs it has. -/
def Tree.describe (t : Tree) : Except Number.Fault String :=
  (Number.written t.score).map fun score =>
    "Tree(" ++ quote t.id ++ ", root=" ++ quote t.root ++ ", score=" ++ score ++
      ", dialogs=" ++ toString t.dialogs.size ++ ")"

/-- Describes an entity. -/
def Entity.describe : Entity → Except Number.Fault String
  | .tree t => t.describe
  | .dialog d => .ok d.describe
  | .decision x => x.describe

end Plotline
