import Plotline.Program.Run
import Plotline.Yaml.Document

/-!
# The command line

Reads the files that are named, writes what the program says, and asks the player line by line.
-/

namespace Plotline.Program

/-- How the program is to be started. -/
def usageText : String :=
  "usage: plotline [--config P] [--log-level 0..3] [--play TREE] [scripts ...]"

/-- Why a file was not read. -/
def faultOf : IO.Error → AccessFault
  | .noFileOrDirectory _ _ _ => .notFound
  | .inappropriateType _ 21 _ => .isFolder
  | .inappropriateType _ 20 _ => .notAFolder
  | .permissionDenied _ number reason | .invalidArgument _ number reason |
    .inappropriateType _ number reason => ⟨number.toNat, reason⟩
  | .otherError number reason => ⟨number.toNat, reason⟩
  | _ => .notFound

/-- What reading a file gives. -/
def access (path : String) : IO (Except AccessFault (List UInt8)) := do
  try
    let octets ← IO.FS.readBinFile (Path.ofString path).toString
    return .ok octets.toList
  catch e => return .error (faultOf e)

/-- The disk with the files at these paths. -/
def readDisk (paths : List Path.Spelling) : IO Disk := do
  let mut found := []
  for path in paths do
    if let .text path := path then
      found := (Path.ofString path, ← access path) :: found
  let all := found
  return fun p => (all.lookup p).getD (.error .notFound)

/-- Writes text at once. -/
def put (text : String) : IO Unit := do
  let out ← IO.getStdout
  out.putStr text
  out.flush

/-- Tells the end of the program, and gives its exit code. -/
def tell (r : Report) : IO UInt32 := do
  put r.out
  IO.eprint r.err
  match r.ending with
  | .exit code => return code.toUInt32
  | .usage .help =>
    IO.println usageText
    return 0
  | .usage .wrong =>
    IO.eprintln usageText
    return 2
  | .settings f =>
    IO.eprintln f.message
    return 1
  | .broken f =>
    IO.eprintln f.message
    return 1

/-- Plays line by line. -/
def playOn (presenter : Presenter) (start : Play) : IO UInt32 := do
  let input ← IO.getStdin
  let mut p := start
  repeat
    let (shown, e) := Play.runAll presenter { p with input := [], output := "", postings := [] }
    match e, shown.session.current shown.library with
    | some .left, some d =>
      put shown.output
      IO.eprint (noticeLines shown.postings)
      let line ← input.getLine
      if line.isEmpty then return 0
      let (answered, e) := Play.answer presenter { shown with output := "", postings := [] } d line
      match e with
      | some _ => return ← tell (conclude "" "" answered e)
      | none =>
        put answered.output
        IO.eprint (noticeLines answered.postings)
        p := answered
    | _, _ => return ← tell (conclude "" "" shown e)
  return 0

/-- Runs the program on its arguments. -/
def start (words : List String) : IO UInt32 := do
  match Arguments.ofWords words with
  | .error u => tell { ending := .usage u }
  | .ok a =>
    let configured ← readDisk (a.configPath.toList.map .text)
    match settingsInForce Yaml.Document.read configured a with
    | .error f => tell { ending := .settings f }
    | .ok s =>
      let disk ← readDisk (scriptsInForce a s)
      match begin disk a s with
      | .over r => tell r
      | .play out err presenter p =>
        put out
        IO.eprint err
        playOn presenter p

end Plotline.Program

def main (words : List String) : IO UInt32 := Plotline.Program.start words
