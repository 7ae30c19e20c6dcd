import Plotline.Story.Presenter
import Plotline.Story.Session

/-!
# Playing a story

A play shows one dialog after the other and asks the player for a number wherever there are
decisions to choose from. It ends with the story, or when the player leaves or has no more to say,
or with a failure.

* `Play.turn` shows the current dialog once. A dialog that lists no decision is left by its link; at
  any other, one line is read and answered.
* `Play.run` takes at most a given number of turns. `Play.turnLimit` is enough of them unless the
  links go round through dialogs that list no decision.
-/

namespace Plotline

/-- A story being played: the lines that the player has still to say, what has been written, and
the notices so far. -/
structure Play where
  library : Library
  session : Session
  input : List String
  output : String := ""
  postings : List Posting := []
  deriving DecidableEq

namespace Play

/-- How a play ends. -/
inductive End
  /-- The story has ended, and the score was shown. -/
  | finished
  /-- The player left, or there are no more lines. -/
  | left
  | failed (f : Failure)
  deriving DecidableEq, Repr

/-- What is written in front of the player's line. -/
def prompt : String := "> "

/-- Writes text. -/
def write (p : Play) (text : String) : Play := { p with output := p.output ++ text }

/-- What the player's line, cut at both ends, asks for. -/
inductive Request
  | leave
  | number (n : Int)
  /-- Digits that give no number. -/
  | badNumber (f : Number.Fault)
  | other
  deriving DecidableEq, Repr

/-- Reads the player's line. -/
def request (line : String) : Request :=
  let said := Text.strip line.toList
  if said = ['q'] ∨ said = ['q', 'u', 'i', 't'] then .leave
  else if said ≠ [] ∧ said.all Text.isDigit then
    match Number.Numeral.read (String.ofList said) with
    | .ok n => .number n
    | .error f => .badNumber f
  else .other

/-- Takes over what a step of the session left behind. -/
def follow (p : Play) (step : Session.Step) : Play × Option End :=
  let p := { p with
    library := step.library, session := step.session, postings := p.postings ++ step.postings }
  match step.answer with
  | .ok _ => (p, none)
  | .error f => (p, some (.failed f))

/-- Refuses the player's line. -/
def refuse (presenter : Presenter) (p : Play) : Play :=
  p.write (presenter.console.out "(no such choice)" [])

/-- Answers the player's line at a dialog. -/
def answer (presenter : Presenter) (p : Play) (d : Dialog) (line : String) : Play × Option End :=
  match request line with
  | .leave => (p, some .left)
  | .badNumber f => (p, some (.failed (presenter.console.fail (.numeral f))))
  | .other => (p.refuse presenter, none)
  | .number n =>
    match presenter.pick d n with
    | none => (p.refuse presenter, none)
    | some x =>
      let p := p.write (presenter.echo x)
      p.follow (p.session.choose p.library x.id)

/-- One turn. A score that is too long to be written is not told at the end. -/
def turn (presenter : Presenter) (p : Play) : Play × Option End :=
  match p.session.current p.library with
  | none =>
    match Number.written (p.library.tree p.session.tree).score with
    | .error f => (p, some (.failed (presenter.console.fail (.numeral f))))
    | .ok score =>
      (p.write (presenter.console.out ("The end. Score: " ++ score) []), some .finished)
  | some d =>
    let p := p.write (presenter.page d)
    if (presenter.visible d).isEmpty then p.follow (p.session.advance p.library)
    else
      let p := p.write prompt
      match p.input with
      | [] => (p, some .left)
      | line :: rest => answer presenter { p with input := rest } d line

/-- At most `n` turns; there is no end if the play is still going on then. -/
def run (presenter : Presenter) : Nat → Play → Play × Option End
  | 0, p => (p, none)
  | n + 1, p =>
    match p.turn presenter with
    | (p, some e) => (p, some e)
    | (p, none) => run presenter n p

/-- How many dialogs there are on the shelf. -/
def dialogCount (l : Library) : Nat := (l.shelf.flatMap (·.dialogs.items)).length

/-- For every line and once more, each dialog may be passed and one be stopped at, and the story
may end. -/
def turnLimit (p : Play) : Nat := (p.input.length + 1) * (dialogCount p.library + 1) + 1

/-- Plays to the end. -/
def runAll (presenter : Presenter) (p : Play) : Play × Option End :=
  p.run presenter p.turnLimit

end Play

end Plotline
