import Plotline.Program.Arguments
import Plotline.Story.Play

/-!
# The program

The program loads scripts, warns of tree links that lead nowhere, shows a summary of every script,
and plays a tree if it is asked to.

* `Program.begin` does all up to the play; no summary is shown unless all scripts are loaded.
* `Program.conclude` tells the end of a play as the end of the program.
* `Program.proceed` is the whole with the settings that are in force, and all that the player says
  given in advance. `Program.run` reads the arguments and the settings before that.
-/

namespace Plotline.Program

/-- How the program ends. -/
inductive Ending
  /-- With this exit code. -/
  | exit (code : Nat)
  /-- Before it has done anything, because of its arguments. -/
  | usage (u : Usage)
  /-- Before it has done anything, because of its settings. -/
  | settings (f : Settings.LoadFault)
  /-- In the middle, because of a failure that it does not report. -/
  | broken (f : Failure)
  deriving DecidableEq, Repr

/-- What the program wrote to its two outputs, and how it ended. -/
structure Report where
  out : String := ""
  err : String := ""
  ending : Ending
  deriving DecidableEq, Repr

/-- A notice as it is written out. -/
def noticeLine (p : Posting) : String :=
  p.record.severity.label ++ " " ++ p.record.text ++ "\n"

/-- Notices as they are written out. -/
def noticeLines (ps : List Posting) : String := String.join (ps.map noticeLine)

/-- The end that a failure brings: a reported one is written out. -/
def fail (out err : String) (f : Failure) : Report :=
  if f.fault.isReported then
    { out := out, err := err ++ "error: " ++ f.message ++ "\n", ending := .exit 1 }
  else { out := out, err := err, ending := .broken f }

/-- The summary of a registered tree. -/
def summary (console : Console) (l : Library) (e : Entry) : String :=
  let t := l.tree e.tree
  console.out e.key
    ["tree: " ++ t.id, "root: " ++ t.root, "dialogs: " ++ toString t.dialogs.size]

/-- The summaries of all registered trees. -/
def summaries (console : Console) (l : Library) : String :=
  String.join (l.register.entries.items.map (summary console l))

/-- What the program has come to before a play. -/
inductive Beginning
  | over (r : Report)
  /-- What was written, and the play that is to follow. -/
  | play (out err : String) (presenter : Presenter) (p : Play)

/-- The path of the settings file. -/
def Arguments.configPath (a : Arguments) : Option String :=
  match a.config with
  | .absent => some Settings.defaultPath
  | .blank => none
  | .value path => some path

/-- The key of the tree to play; an empty one is none. -/
def Arguments.toPlay (a : Arguments) : Option String :=
  match a.play with
  | .value key => if key = "" then none else some key
  | _ => none

/-- Reads the settings that are in force: a level among the arguments wins. An option that is there
without a value stands for an empty list, which is neither a path nor a level. -/
def settingsInForce (read : Settings.Reader) (disk : Disk) (a : Arguments) :
    Except Settings.LoadFault Settings :=
  match a.configPath with
  | none => .error .noPath
  | some path =>
    match Settings.load read disk path, a.level with
    | .error f, _ => .error f
    | .ok s, .absent => .ok s
    | .ok _, .blank => .error (.settings (.number (.wrongKind (Datum.list []).kind)))
    | .ok s, .value level => .ok { s with level := level }

/-- The scripts that are in force: those among the arguments, else those of the settings. -/
def scriptsInForce (a : Arguments) (s : Settings) : List Path.Spelling :=
  if a.scripts.isEmpty then s.scripts else a.scripts

/-- Does all up to the play, with the settings that are in force. -/
def begin (disk : Disk) (a : Arguments) (s : Settings) : Beginning :=
  let console := s.console 1
  let empty : Library := { register := { trim := s.trim, console := console } }
  match empty.loadAll disk (scriptsInForce a s) with
  | (.error f, _, postings) => .over (fail "" (noticeLines postings) f)
  | (.ok _, l, postings) =>
    let err := noticeLines (postings ++ l.checkLinks)
    let out := summaries console l
    match a.toPlay with
    | none => .over { out := out, err := err, ending := .exit 0 }
    | some key =>
      match Session.start l console key with
      | .error f => .over (fail out err f)
      | .ok session =>
        .play out err { console := console, showDisabled := s.showDisabled }
          { library := l, session := session, input := [] }

/-- The end of the program after a play. A play that goes round for ever has no end; it counts as
left. -/
def conclude (out err : String) (p : Play) (e : Option Play.End) : Report :=
  let out := out ++ p.output
  let err := err ++ noticeLines p.postings
  match e with
  | some (.failed f) => fail out err f
  | _ => { out := out, err := err, ending := .exit 0 }

/-- Runs the program with the settings that are in force. -/
def proceed (disk : Disk) (a : Arguments) (s : Settings) (input : List String) : Report :=
  match begin disk a s with
  | .over r => r
  | .play out err presenter p =>
    let (p, e) := Play.runAll presenter { p with input := input }
    conclude out err p e

/-- Runs the program on its arguments, the player's lines and a disk. -/
def run (read : Settings.Reader) (disk : Disk) (words input : List String) : Report :=
  match Arguments.ofWords words with
  | .error u => { ending := .usage u }
  | .ok a =>
    match settingsInForce read disk a with
    | .error f => { ending := .settings f }
    | .ok s => proceed disk a s input

end Plotline.Program
