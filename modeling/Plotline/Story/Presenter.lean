import Plotline.Text.Lines
import Plotline.Tree.Basic

/-!
# Presenting a dialog

A presenter shows a dialog on a console: the lines of its message, then its decisions with numbers
from 1 upwards. Disabled decisions are marked, or left out and not numbered.

* `Presenter.visible` lists the decisions that are shown, `Presenter.lines` all lines.
* `Presenter.pick` finds the enabled decision with a number.
-/

namespace Plotline

/-- How dialogs are shown: on which console, whether disabled decisions are listed, what stands
before the player's choice, and what stands behind a disabled decision. -/
structure Presenter where
  console : Console := {}
  showDisabled : Bool := true
  speaker : String := "You: "
  disabledMark : String := " (unavailable)"
  deriving DecidableEq, Repr

/-- What a decision is shown as: its message, or its id if the message is empty. -/
def Decision.caption (x : Decision) : String :=
  let message := x.message.getD ""
  if message = "" then x.id else message

/-- The lines of a dialog's message; an empty message is one empty line. -/
def Dialog.messageLines (d : Dialog) : List String :=
  match Text.breakLines (d.message.getD "").toList with
  | [] => [""]
  | lines => lines.map String.ofList

namespace Presenter

/-- The decisions that are shown. -/
def visible (p : Presenter) (d : Dialog) : List Decision :=
  d.decisions.items.filter fun x => x.enabled || p.showDisabled

/-- A decision with its number. -/
def item (p : Presenter) (number : Nat) (x : Decision) : String :=
  toString number ++ ") " ++ x.caption ++ (if x.enabled then "" else p.disabledMark)

/-- All lines of a dialog. -/
def lines (p : Presenter) (d : Dialog) : List String :=
  d.messageLines ++ ((p.visible d).zipIdx 1).map fun (x, n) => p.item n x

/-- What is written to show a dialog. -/
def page (p : Presenter) (d : Dialog) : String :=
  match p.lines d with
  | [] => p.console.out "" []
  | first :: rest => p.console.out first rest

/-- The decision with this number, if it is enabled. -/
def pick (p : Presenter) (d : Dialog) (number : Int) : Option Decision :=
  if number < 1 then none
  else ((p.visible d)[(number - 1).toNat]?).filter (·.enabled)

/-- What is written to show the player's choice. -/
def echo (p : Presenter) (x : Decision) : String :=
  p.console.out (p.speaker ++ x.caption) []

end Presenter

end Plotline
