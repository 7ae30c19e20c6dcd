import Plotline.Console
import Plotline.Files.Path
import Plotline.Marker.Token
import Plotline.Number.Numeral

/-!
# Faults

Everything that can go wrong while a story is read, kept or walked, as causes, and their wording.

* `Fault` is the cause. `Fault.headline` and `Fault.details` word it, and `Fault.family` sorts the
  causes by what they are about.
* `Failure` is a fault raised through a console, whose indent lays out the details in
  `Failure.message`.
-/

namespace Plotline

open Marker (Token)

/-- What a script line can start. -/
inductive EntityKind
  | dialog
  | decision
  deriving DecidableEq, Repr

/-- The word for what a script line starts. -/
def EntityKind.word : EntityKind → String
  | .dialog => "dialog"
  | .decision => "decision"

/-- What went wrong. Faults in a script carry the token as it was when the reading stopped. -/
inductive Fault
  /-- A second id marker in one token. -/
  | secondId (value : String) (token : Token)
  /-- A second link marker in one line. -/
  | secondLink (value : String) (token : Token)
  /-- A continuation line with a link where there is one already. -/
  | secondLinkOnLine (value : String) (line : Nat) (token : Token)
  /-- A decision before there is a dialog to hold it. -/
  | decisionBeforeDialog (line : Nat)
  /-- Text before there is anything to continue. -/
  | textOutsideDialog (line : Nat) (token : Token)
  /-- An entity, started on this line, that has no id. -/
  | missingId (kind : EntityKind) (line : Nat) (token : Token)
  /-- A script without any dialog. -/
  | noDialog (tree : String)
  | dialogIdTaken (id tree : String)
  | decisionIdTaken (id dialog : String)
  | dialogNotFound (id tree : String)
  | decisionNotFound (id dialog : String)
  | treeNotFound (key : String)
  /-- A script file that cannot be read, and why. -/
  | unreadableScript (path reason : String)
  /-- A script that is on the register already. -/
  | alreadyLoaded (key : String)
  /-- A key that is on the register already. -/
  | keyTaken (key : String)
  /-- A choice after the end of the story. -/
  | storyEnded (decision : String)
  /-- A choice of a decision that cannot be taken. -/
  | decisionDisabled (decision dialog : String)
  /-- A link was followed that has a target and no kind, so it leads to no dialog. -/
  | kindlessLink
  /-- The player's line is no integer, or a score cannot be written. -/
  | numeral (fault : Number.Fault)
  /-- The path of a script holds the character NUL. -/
  | nulInPath
  /-- The path of a script holds a surrogate. -/
  | brokenPath (b : Path.Break)
  /-- A decision is complete, and there is no dialog to hold it. -/
  | decisionWithoutDialog
  /-- A scan is to begin at a place that the line does not reach. -/
  | outsideLine
  deriving DecidableEq, Repr

/-- What a fault is about. -/
inductive Family
  /-- The wording of a script. -/
  | script
  /-- The reading of a script file. -/
  | file
  /-- An id or key that is taken. -/
  | taken
  /-- An id or key that is not there. -/
  | unknown
  /-- A decision that cannot be chosen. -/
  | choice
  /-- A link without a kind. -/
  | kindless
  /-- A numeral. -/
  | numeral
  /-- A path. -/
  | path
  /-- A dialog that is not there to hold a decision. -/
  | holder
  /-- A place in a line. -/
  | position
  deriving DecidableEq, Repr

namespace Fault

def family : Fault → Family
  | secondId .. | secondLink .. | secondLinkOnLine .. | decisionBeforeDialog .. |
    textOutsideDialog .. | missingId .. | noDialog .. => .script
  | unreadableScript .. => .file
  | dialogIdTaken .. | decisionIdTaken .. | alreadyLoaded .. | keyTaken .. => .taken
  | dialogNotFound .. | decisionNotFound .. | treeNotFound .. => .unknown
  | storyEnded .. | decisionDisabled .. => .choice
  | kindlessLink => .kindless
  | numeral .. => .numeral
  | nulInPath | brokenPath _ => .path
  | decisionWithoutDialog => .holder
  | outsideLine => .position

/-- The token that a fault in a script carries. -/
def token? : Fault → Option Token
  | secondId _ t | secondLink _ t | secondLinkOnLine _ _ t | textOutsideDialog _ t |
    missingId _ _ t => some t
  | _ => none

/-- The first line of the message. -/
def headline : Fault → String
  | secondId value _ => "found another id within token: " ++ value
  | secondLink value _ => "found another link within token: " ++ value
  | secondLinkOnLine value line _ =>
    "found another link within token: " ++ value ++ " (line " ++ toString line ++ ")"
  | decisionBeforeDialog line => "decision before any dialog at line " ++ toString line
  | textOutsideDialog line _ => "text outside of any dialog at line " ++ toString line
  | missingId kind line _ => "missing id for " ++ kind.word ++ " at line " ++ toString line
  | noDialog tree => "no dialog found in tree: " ++ tree
  | dialogIdTaken id _ => "duplicate dialog id: " ++ id
  | decisionIdTaken id _ => "duplicate decision id: " ++ id
  | dialogNotFound id _ => "cannot find dialog with id: " ++ id
  | decisionNotFound id _ => "cannot find decision with id: " ++ id
  | treeNotFound key => "cannot find tree: " ++ key
  | unreadableScript path _ => "cannot open file: " ++ path
  | alreadyLoaded key => "script already loaded: " ++ key
  | keyTaken key => "duplicate tree source: " ++ key
  | storyEnded decision => "story has ended, cannot choose: " ++ decision
  | decisionDisabled decision _ => "decision is disabled: " ++ decision
  | kindlessLink => "'NoneType' object has no attribute 'id'"
  | numeral fault => fault.message
  | nulInPath => "embedded null byte"
  | brokenPath b => b.message
  | decisionWithoutDialog => "'NoneType' object has no attribute 'insert'"
  | outsideLine => "string index out of range"

/-- The further lines of the message. -/
def details : Fault → List String
  | dialogIdTaken _ tree | dialogNotFound _ tree => ["in tree: " ++ tree]
  | decisionIdTaken _ dialog | decisionNotFound _ dialog | decisionDisabled _ dialog =>
    ["in dialog: " ++ dialog]
  | unreadableScript _ reason => [reason]
  | _ => []

/-- Faults that the engine reports in its own words; the others break off what was being done. -/
def isReported (f : Fault) : Bool :=
  match f.family with
  | .kindless | .numeral | .path | .holder | .position => false
  | _ => true

end Fault

/-- A fault, and the indent of the console through which it was raised. -/
structure Failure where
  fault : Fault
  indent : String
  deriving DecidableEq, Repr

/-- The message of a failure: the headline, and the details behind the indent. -/
def Failure.message (f : Failure) : String := layOut f.indent f.fault.headline f.fault.details

/-- A fault raised through this console. Every console raises faults, whatever its level. -/
def Console.fail (c : Console) (f : Fault) : Failure := ⟨f, c.indent⟩

end Plotline
