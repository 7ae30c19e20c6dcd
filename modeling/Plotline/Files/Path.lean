import Plotline.Text.Lines
import Plotline.Text.Quoted

/-!
# Paths

A path is a list of names. Empty names and `.` say nothing and are left out; `..` is kept, since
what it leads to depends on the disk.

* `Path.ofString` reads a path, `Path.toString` writes it in its short form.
* `Path.stem` is the name of the file without its last suffix, and serves as the id of a tree.
* `Path.Spelling` is a path as it is asked for. It may hold surrogates, of which no octets can be
  made, so that it leads nowhere. The surrogates from U+DC80 to U+DCFF are left out: they stand for
  single octets in the names of files, and no other text here can hold them.
-/

namespace Plotline

/-- A path from the root or from the working directory. Two slashes in front are kept apart from
one; more than two count as one. -/
structure Path where
  slashes : Nat := 0
  parts : List String := []
  deriving DecidableEq, Repr

namespace Path

/-- Reads a path. -/
def ofString (s : String) : Path :=
  let leading := (s.toList.takeWhile (· = '/')).length
  { slashes := if leading = 2 then 2 else min leading 1
    parts := ((Text.cutAt '/' s.toList).filter fun p => p ≠ [] ∧ p ≠ ['.']).map String.ofList }

/-- Writes the path; the working directory is a dot. -/
def toString (p : Path) : String :=
  if p.slashes = 0 ∧ p.parts = [] then "."
  else String.ofList (List.replicate p.slashes '/') ++ "/".intercalate p.parts

/-- The character NUL occurs in the path, so it can lead to nothing. -/
def hasNul (p : Path) : Bool := p.parts.any fun name => name.toList.contains '\x00'

/-- The last name. -/
def name (p : Path) : String := p.parts.getLast?.getD ""

/-- The name without its last suffix. A dot at either end of the name starts no suffix. -/
def stemOf (name : List Char) : List Char :=
  let suffix := (name.reverse.takeWhile (· ≠ '.')).reverse
  let stem := ((name.reverse.dropWhile (· ≠ '.')).drop 1).reverse
  if suffix = [] ∨ stem = [] then name else stem

/-- The last name of the path without its last suffix. -/
def stem (p : Path) : String := String.ofList (stemOf p.name.toList)

/-! ## Spellings -/

/-- A surrogate of which no octets can be made. -/
structure Surrogate where
  code : Nat
  inRange : (0xD800 ≤ code ∧ code < 0xDC80) ∨ (0xDCFF < code ∧ code ≤ 0xDFFF)
  deriving DecidableEq, Repr

/-- Where a path stops being text: the text in front of the first surrogate, the surrogate, and how
many follow it at once. What comes behind them makes no difference. -/
structure Break where
  before : String
  surrogate : Surrogate
  more : Nat := 0
  deriving DecidableEq, Repr

/-- A path as it is asked for. -/
inductive Spelling
  | text (path : String)
  | broken (b : Break)
  deriving DecidableEq, Repr

instance : Coe String Spelling := ⟨.text⟩

/-- The path can lead to a file: it is text, and the character NUL does not occur in it. -/
def Spelling.isPath : Spelling → Bool
  | .text path => !(Path.ofString path).hasNul
  | .broken _ => false

/-- How many characters are in front of the surrogate in the short form of the path. -/
def Break.position (b : Break) : Nat :=
  -- any character that is neither a slash nor a dot serves in place of the surrogate
  (Path.ofString (b.before.push 'x')).toString.length - 1

/-- The wording for a path that is no text. -/
def Break.message (b : Break) : String :=
  let place :=
    if b.more = 0 then
      "character '\\u" ++ String.ofList (Text.hexDigits 4 b.surrogate.code) ++ "' in position " ++
        Nat.repr b.position
    else
      "characters in position " ++ Nat.repr b.position ++ "-" ++ Nat.repr (b.position + b.more)
  "'utf-8' codec can't encode " ++ place ++ ": surrogates not allowed"

end Path

end Plotline
