import Plotline.Files.Path
import Plotline.Settings.File

/-!
# Arguments

The words that the program is started with: any scripts, and the options `--config P`,
`--log-level N`, `--play TREE` and `--help`.

* An option may be cut short as long as it is clear which one is meant; if it is not, the whole is
  wrong at once. Its value may follow behind `=` or as the next word, and `--` behind `=` is no
  value at all (`Given`). Behind the word `--` no word is an option.
* All scripts must stand together. A negative number or a word with a space in it is no option, and
  any other word that begins with `-` is wrong.
* Otherwise the words are read in order up to the first that is wrong or asks for help; words too
  many are found out at the end.
-/

namespace Plotline.Program

/-- What an option is given. -/
inductive Given (α : Type)
  /-- The option is not there. -/
  | absent
  /-- The option is there, without a value. -/
  | blank
  | value (a : α)
  deriving DecidableEq, Repr

/-- What the program is asked to do. -/
structure Arguments where
  scripts : List Path.Spelling := []
  config : Given String := .absent
  level : Given (Fin 4) := .absent
  play : Given String := .absent
  deriving DecidableEq, Repr

/-- Why the program does nothing. -/
inductive Usage
  | wrong
  | help
  deriving DecidableEq, Repr

/-- The options. -/
inductive Switch
  | config
  | level
  | play
  | help
  deriving DecidableEq, Repr

/-- The long names of the options. -/
def longNames : List (String × Switch) :=
  [("--config", .config), ("--log-level", .level), ("--play", .play), ("--help", .help)]

/-- A word, as what it is taken for. -/
inductive Piece
  | word (w : String)
  /-- The word `--`. -/
  | dashes
  | switch (s : Switch) (value : Option String)
  /-- An option cut so short that it may be any of several. -/
  | ambiguous
  | unknown
  deriving DecidableEq, Repr

/-- The part of a word in front of its first `=`, and the part behind it. -/
def splitValue (w : String) : String × Option String :=
  let s := w.toList
  let name := String.ofList (s.takeWhile (· ≠ '='))
  match s.dropWhile (· ≠ '=') with
  | [] => (name, none)
  | _ :: value => (name, some (String.ofList value))

/-- The word without a newline at its end. -/
def withoutNewline (w : String) : List Char :=
  if w.toList.getLast? = some '\n' then w.toList.dropLast else w.toList

/-- A minus and digits, perhaps with a point in front of the last ones. -/
def isNegativeNumber (w : String) : Bool :=
  match withoutNewline w with
  | '-' :: s =>
    let isDecimal := fun c => (Text.decimalValue? c).isSome
    match s.dropWhile isDecimal with
    | [] => !s.isEmpty
    | '.' :: rest => !rest.isEmpty && rest.all isDecimal
    | _ => false
  | _ => false

/-- What a word that is no option is taken for. -/
def ordinary (w : String) : Piece :=
  if isNegativeNumber w || w.toList.contains ' ' then .word w else .unknown

/-- What `-h` with more behind it is taken for: more of the same ask for help as well, anything else
is a value that help does not take. -/
def helpLetters (rest : List Char) : Piece :=
  let letters := if rest.head? = some '=' then rest.drop 1 else rest
  .switch .help
    (if letters ≠ [] ∧ letters.all (· = 'h') then none else some (String.ofList letters))

/-- What a word that begins with two dashes is taken for. -/
def classifyLong (w : String) : Piece :=
  let (name, value) := splitValue w
  match longNames.lookup name with
  | some s => .switch s value
  | none =>
    match longNames.filter fun n => name.toList <+: n.1.toList with
    | [] => ordinary w
    | [(_, s)] => .switch s value
    | _ => .ambiguous

/-- What a word in front of `--` is taken for. -/
def classify (w : String) : Piece :=
  match w.toList with
  | '-' :: '-' :: _ => classifyLong w
  | ['-', 'h'] => .switch .help none
  | '-' :: 'h' :: rest => helpLetters rest
  | '-' :: _ :: _ => ordinary w
  | _ => .word w

/-- What all words are taken for. -/
def pieces : List String → List Piece
  | [] => []
  | w :: rest => if w = "--" then .dashes :: rest.map .word else classify w :: pieces rest

/-- What has been understood of the words so far. -/
structure Reading where
  arguments : Arguments := {}
  /-- The words that stand together at present. -/
  together : List String := []
  /-- The scripts have been given. -/
  hasScripts : Bool := false
  /-- There are words too many. -/
  tooMany : Bool := false

/-- Takes the words that stand together for the scripts; the first `--` among them is dropped. -/
def Reading.close (r : Reading) : Reading :=
  if r.together.isEmpty then r
  else if r.hasScripts then { r with together := [], tooMany := true }
  else
    { r with
      arguments := { r.arguments with scripts := (r.together.erase "--").map .text }
      together := [], hasScripts := true }

/-- A level from 0 to 3. -/
def readLevel (w : String) : Option (Fin 4) :=
  match Number.Numeral.read w with
  | .ok n => if 0 ≤ n ∧ n ≤ 3 then some (Console.clampLevel n) else none
  | .error _ => none

/-- What an option is given by a word. -/
def givenText (w : String) : Given String := if w = "--" then .blank else .value w

/-- What the level is given by a word. -/
def givenLevel (w : String) : Except Usage (Given (Fin 4)) :=
  if w = "--" then .ok .blank
  else
    match readLevel w with
    | some level => .ok (.value level)
    | none => .error .wrong

/-- Sets an option to its value. -/
def Reading.set (r : Reading) (s : Switch) (value : String) : Except Usage Reading :=
  match s with
  | .config => .ok { r with arguments := { r.arguments with config := givenText value } }
  | .play => .ok { r with arguments := { r.arguments with play := givenText value } }
  | .level =>
    (givenLevel value).map fun level => { r with arguments := { r.arguments with level := level } }
  | .help => .error .wrong

/-- Reads the pieces in order. -/
def Reading.readAll (r : Reading) : List Piece → Except Usage Arguments
  | [] =>
    let r := r.close
    if r.tooMany then .error .wrong else .ok r.arguments
  | .word w :: rest => { r with together := r.together ++ [w] }.readAll rest
  | .dashes :: rest => { r with together := r.together ++ ["--"] }.readAll rest
  | .unknown :: rest => { r.close with tooMany := true }.readAll rest
  | .ambiguous :: _ => .error .wrong
  | .switch s (some value) :: rest =>
    match r.close.set s value with
    | .ok r => r.readAll rest
    | .error u => .error u
  | .switch .help none :: _ => .error .help
  | .switch s none :: .word value :: rest =>
    match r.close.set s value with
    | .ok r => r.readAll rest
    | .error u => .error u
  | .switch _ none :: _ => .error .wrong

/-- Reads the words that the program is started with. -/
def Arguments.ofWords (words : List String) : Except Usage Arguments :=
  let pieces := pieces words
  if .ambiguous ∈ pieces then .error .wrong else ({} : Reading).readAll pieces

end Plotline.Program
