import Plotline.Settings.Datum
import Plotline.Text.Blank

/-!
# Settings

The five things that can be set, and how they are read off a value.

* `Settings.ofDatum` reads every setting at its own path; what is not there has its default.
* It fails only if the level has no integer, if the scripts are something that counts as true and
  has no items, or if the indent or a script cannot be shown (`Settings.Fault`).
-/

namespace Plotline

/-- What can be set: the indent and level of the console, whether spaces behind markers are skipped,
whether disabled decisions are shown, and the scripts. -/
structure Settings where
  indent : String := "  "
  level : Fin 4 := Console.errorsOnly
  trim : Bool := true
  showDisabled : Bool := true
  scripts : List Path.Spelling := []
  deriving DecidableEq, Repr

namespace Settings

/-- Why a value gives no settings. -/
inductive Fault
  /-- The level has no integer, or an integer elsewhere is too long to be shown. -/
  | number (fault : Number.Fault)
  /-- The scripts are a value of this kind, which has no items. -/
  | scripts (kind : String)
  deriving DecidableEq, Repr

/-- The wording of a fault. -/
def Fault.message : Fault → String
  | .number fault => fault.message
  | .scripts kind => "'" ++ kind ++ "' object is not iterable"

/-- The words that switch something on. -/
def onWords : List String := ["1", "true", "yes", "on"]

/-- Whether a value switches something on: a text must be one of the words for it, in any case and
between any blanks; any other value must count as true. -/
def switch : Datum → Bool
  | .text s => String.ofList ((Text.strip s.toList).map Char.toLower) ∈ onWords
  | d => d.truthy

/-- The text of a value. -/
def textOf (d : Datum) : Except Fault String :=
  if d.isShowable then .ok d.toText else .error (.number .unwritable)

/-- The texts of values. -/
def textsOf : List Datum → Except Fault (List String)
  | [] => .ok []
  | d :: rest =>
    match textOf d with
    | .error f => .error f
    | .ok s => (textsOf rest).map (s :: ·)

/-- The scripts that a value names: none for a value that does not count as true, one for a text,
else the items of a list or the keys of a mapping. -/
def scriptsOf (d : Datum) : Except Fault (List String) :=
  if !d.truthy then .ok []
  else
    match d with
    | .text s => .ok [s]
    | .list items => textsOf items
    | .map entries => textsOf (entries.map (·.1))
    | d => .error (.scripts d.kind)

/-- The level that a value sets. -/
def levelOf (d : Datum) : Except Fault (Fin 4) :=
  match d.toInt with
  | .ok n => .ok (Console.clampLevel n)
  | .error f => .error (.number f)

/-- Reads the settings off a value. -/
def ofDatum (d : Datum) : Except Fault Settings :=
  match levelOf ((d.at? ["console", "log_level"]).getD (.int 1)) with
  | .error f => .error f
  | .ok level =>
    match textOf ((d.at? ["console", "output_indent"]).getD (.text "  ")) with
    | .error f => .error f
    | .ok indent =>
      match scriptsOf ((d.at? ["scripts"]).getD .null) with
      | .error f => .error f
      | .ok scripts =>
        .ok
          { indent := indent
            level := level
            trim := ((d.at? ["parser", "trim_whitespaces_behind_markers"]).map switch).getD true
            showDisabled :=
              ((d.at? ["presenter", "display_disabled_decisions"]).map switch).getD true
            scripts := scripts.map .text }

/-- The console that the settings describe. -/
def console (s : Settings) (channel : Nat) : Console :=
  { channel := channel, level := s.level, indent := s.indent }

end Settings

end Plotline
