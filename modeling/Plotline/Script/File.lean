import Plotline.Files.Disk
import Plotline.Script.Builder
import Plotline.Text.Utf8

/-!
# Reading a script from a file

The lines of the file are parsed, and the tree's id is the stem of the path. A path that cannot be
read is a fault, and so are octets that are no UTF-8. A file is read in chunks, and the lines of one
chunk are parsed before the next chunk is read. Octets that are no UTF-8 are found when their chunk
is read, and a file that ends inside a character after all chunks; a fault in the lines before that
comes first. The position of a fault counts from the octets that were read and not yet used. A path
that cannot be one at all, since it holds a surrogate or the character NUL, is refused in another
way than those that cannot be read.
-/

namespace Plotline.Script

open Text (Utf8.decode fileLines completeLines)

/-- The failure of a script file that cannot be read. -/
def unreadable (options : Options) (path reason : String) : Failure :=
  options.console.fail (.unreadableScript path reason)

/-- Parses the octets of a script file. -/
def parseOctets (options : Options) (path : String) (octets : List UInt8) :
    Except Failure (Tree × List Posting) :=
  let reading := Utf8.decode octets
  match reading.fault with
  | none => parse options ((fileLines reading.text).map String.ofList)
  | some f =>
    let (text, f) := f.findInChunks octets
    match (Builder.new options).feedAll ((completeLines text).map String.ofList) with
    | (some f, _) => .error f
    | (none, _) => .error (unreadable options path f.message)

/-- Parses the script file at a path. -/
def load (disk : Disk) (options : Options) : Path.Spelling → Except Failure (Tree × List Posting)
  | .broken b => .error (options.console.fail (.brokenPath b))
  | .text path =>
    let p := Path.ofString path
    let options := { options with treeId := p.stem }
    if p.hasNul then .error (options.console.fail .nulInPath)
    else
      match disk p with
      | .error f => .error (unreadable options path (f.message p))
      | .ok octets => parseOctets options path octets

end Plotline.Script
