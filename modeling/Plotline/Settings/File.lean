import Plotline.Files.Disk
import Plotline.Settings.Basic
import Plotline.Text.Utf8
import Plotline.Yaml.Fault

/-!
# Reading settings from a file

How the text of a file is read as a value is left open: a `Settings.Reader` does it.

* `Settings.readData` reads the mapping that a settings file holds. A file that is not there and
  an empty one give the empty mapping.
* `Settings.load` reads the settings off it, and `Settings.keys` lists its keys.
-/

namespace Plotline.Settings

/-- Why a settings file gives no settings. -/
inductive LoadFault
  /-- There is no path, but something else. -/
  | noPath
  /-- There is something at the path that cannot be read. -/
  | access (fault : AccessFault) (path : Path)
  /-- The file is no UTF-8. -/
  | octets (fault : Text.Utf8.Fault)
  /-- The file gives no value. -/
  | document (fault : Yaml.Fault)
  /-- The document at this path is no mapping. -/
  | notAMapping (path : String)
  /-- The mapping gives no settings. -/
  | settings (fault : Fault)
  deriving DecidableEq, Repr

/-- The wording of a fault. -/
def LoadFault.message : LoadFault → String
  | .noPath => "expected str, bytes or os.PathLike object, not list"
  | .access fault path => fault.message path
  | .octets fault => fault.message
  | .document fault => fault.message
  | .notAMapping path => path ++ ": settings must be a mapping"
  | .settings fault => fault.message

/-- What reads the text of a settings file as a value. -/
abbrev Reader := List Char → Except Yaml.Fault Datum

/-- The path of the settings file if no other is given. -/
def defaultPath : String := "game/config/defaults.yaml"

/-- Reads the value that a settings file holds. -/
def parseOctets (read : Reader) (octets : List UInt8) : Except LoadFault Datum :=
  let reading := Text.Utf8.decode octets
  match reading.fault with
  | some f => .error (.octets (f.findInChunks octets).2)
  | none =>
    match read (Text.unifyLineEnds reading.text) with
    | .error f => .error (.document f)
    | .ok d => .ok d

/-- Reads the mapping that a settings file holds. -/
def readData (read : Reader) (disk : Disk) (path : String) : Except LoadFault Datum :=
  let p := Path.ofString path
  if p.hasNul then .ok (.map [])
  else
    match disk p with
    | .error f => if f.saysNothingThere then .ok (.map []) else .error (.access f p)
    | .ok octets =>
      match parseOctets read octets with
      | .error f => .error f
      | .ok d =>
        if !d.truthy then .ok (.map [])
        else
          match d with
          | .map entries => .ok (.map entries)
          | _ => .error (.notAMapping path)

/-- The sorted texts of the keys of a mapping. -/
def keys (d : Datum) : Except LoadFault (List String) :=
  match d with
  | .map entries =>
    match textsOf (entries.map (·.1)) with
    | .ok texts => .ok (texts.mergeSort)
    | .error f => .error (.settings f)
  | _ => .ok []

/-- Reads the settings off a settings file. -/
def load (read : Reader) (disk : Disk) (path : String) : Except LoadFault Settings :=
  match readData read disk path with
  | .error f => .error f
  | .ok d =>
    match ofDatum d with
    | .error f => .error (.settings f)
    | .ok s => .ok s

end Plotline.Settings
