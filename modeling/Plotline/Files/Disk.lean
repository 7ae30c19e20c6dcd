import Plotline.Files.Path
import Plotline.Text.Quoted

/-!
# Disks

A disk answers what reading a path gives: the octets of a file, or why there are none.

* `Disk.ofEntries` is the disk that holds a list of files and folders and nothing else. The folders
  on the way to an entry exist, and so do the folders above the working directory.
-/

namespace Plotline

/-- Why a path gives no octets: the number and the words that the system has for it. -/
structure AccessFault where
  number : Nat
  reason : String
  deriving DecidableEq, Repr

namespace AccessFault

def notFound : AccessFault := ⟨2, "No such file or directory"⟩

def isFolder : AccessFault := ⟨21, "Is a directory"⟩

/-- A name on the way is that of a file. -/
def notAFolder : AccessFault := ⟨20, "Not a directory"⟩

/-- The path, or a name on the way, has too many octets. -/
def nameTooLong : AccessFault := ⟨36, "File name too long"⟩

/-- The faults that say that there is nothing at a path: `notFound` and `notAFolder`, and those of a
file that is closed and of links that go round. -/
def saysNothingThere (f : AccessFault) : Bool := [2, 20, 9, 40].contains f.number

/-- The wording of a fault at a path. -/
def message (f : AccessFault) (p : Path) : String :=
  "[Errno " ++ toString f.number ++ "] " ++ f.reason ++ ": " ++
    String.ofList (Text.quoted p.toString.toList)

end AccessFault

/-- What reading a path gives. -/
abbrev Disk := Path → Except AccessFault (List UInt8)

/-- What lies at a place of a disk. -/
inductive Node
  | file (octets : List UInt8)
  | folder
  deriving DecidableEq, Repr

namespace Disk

/-- What lies at a place, given by the names that lead to it without `..`. -/
def node? (entries : List (List String × Node)) (place : List String) : Option Node :=
  match entries.find? (·.1 = place) with
  | some (_, node) => some node
  | none =>
    if place = [] ∨ entries.any (fun e => place.isPrefixOf e.1) then some .folder else none

/-- The most octets of a name. -/
def nameLimit : Nat := 255

/-- The most octets of a path. -/
def pathLimit : Nat := 4095

/-- What is found along the names above the working directory: the folders there and no more. -/
def above (names : List String) : Except AccessFault (List UInt8) :=
  match names.find? (· ≠ "..") with
  | none => .error .isFolder
  | some name => .error (if nameLimit < name.utf8ByteSize then .nameTooLong else .notFound)

/-- Goes from a place along the names. -/
def walk (entries : List (List String × Node)) (place : List String) :
    List String → Except AccessFault (List UInt8)
  | [] =>
    match node? entries place with
    | some (.file octets) => .ok octets
    | some .folder => .error .isFolder
    | none => .error .notFound
  | name :: rest =>
    match node? entries place with
    | some .folder =>
      if name = ".." then
        if place = [] then above rest else walk entries place.dropLast rest
      else if nameLimit < name.utf8ByteSize then .error .nameTooLong
      else walk entries (place ++ [name]) rest
    | some (.file _) => .error .notAFolder
    | none => .error .notFound

/-- The disk that holds these entries below the working directory. -/
def ofEntries (entries : List (Path × Node)) : Disk := fun p =>
  if pathLimit < p.toString.utf8ByteSize then .error .nameTooLong
  else if p.slashes ≠ 0 then above p.parts
  else walk (entries.map fun e => (e.1.parts, e.2)) [] p.parts

end Disk

end Plotline
