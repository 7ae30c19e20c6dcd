import Plotline.Console

/-!
# Consoles at work

A console is called again and again, and each call finds what the calls before it left behind.

* A `Call` is made at a level, or by the name of one: `fail` is level 1, `warn` 2 and `info` 3. A
  call that may fail comes with the kind of error to make of its text. `out` has no level.
* A `Desk` is a console with all that its calls have left: the journal of its records, what went to
  the logger, and the text put out.
* `Desk.perform` makes one call. A call that fails gives its error and leaves the desk as it was.
-/

namespace Plotline.Console

/-- A call to a console. An error is made from the text of the call. -/
inductive Call (ε : Type)
  | log (level : Int) (error : Option (String → ε)) (first : String) (details : List String)
  | fail (error : String → ε) (first : String) (details : List String)
  | warn (first : String) (details : List String)
  | info (first : String) (details : List String)
  | out (first : String) (details : List String)

/-- A console and what its calls have left behind. -/
structure Desk where
  console : Console
  journal : Journal := {}
  /-- What the logger was given, oldest first. -/
  logged : List Record := []
  output : String := ""
  deriving DecidableEq, Repr

namespace Desk

/-- A desk with a console at the nearest level, which keeps that many records or all. -/
def new (channel : Nat) (level : Int) (indent : String) (capacity : Option Nat) : Desk :=
  { console := { channel := channel, level := clampLevel level, indent := indent }
    journal := { capacity := capacity } }

/-- Takes postings into the journal and gives them to the logger. -/
def receive (k : Desk) (postings : List Posting) : Desk :=
  { k with
    journal := k.journal.receive k.console.channel postings
    logged := k.logged ++ postings.map (·.record) }

variable {ε : Type}

/-- Logs at a level, with the kind of error for the level of errors. -/
def log (k : Desk) (level : Int) (error : String → ε) (first : String) (details : List String) :
    Option ε × Desk :=
  match k.console.log level first details with
  | .failed text => (some (error text), k)
  | .dropped => (none, k)
  | .kept r => (none, k.receive [⟨k.console.channel, r⟩])

/-- Makes a call: its error, if it fails, and the desk afterwards. A call without a kind of error
has the plain one. -/
def perform (plain : String → ε) (k : Desk) : Call ε → Option ε × Desk
  | .log level error first details => k.log level (error.getD plain) first details
  | .fail error first details => k.log 1 error first details
  | .warn first details => (none, k.receive (k.console.warn first details))
  | .info first details => (none, k.receive (k.console.info first details))
  | .out first details => (none, { k with output := k.output ++ k.console.out first details })

/-- Makes calls one after the other, whichever of them fail. -/
def performAll (plain : String → ε) (k : Desk) (calls : List (Call ε)) : Desk :=
  calls.foldl (fun k call => (k.perform plain call).2) k

end Desk

end Plotline.Console
