import Plotline.Story.Play

/-!
# Commands and replies

What an author can ask for on a stage, where consoles and trees have names, and what comes back.
-/

namespace Plotline

/-- Which console a new dialog speaks through. -/
inductive Voice
  /-- The console of the tree that it is added to. -/
  | ofTree
  /-- The console with this name, or one of its own. -/
  | named (console : Option String)
  deriving DecidableEq, Repr

/-- A request. A missing console stands for a fresh one, for a session's that of the register, for
a presenter's the main one. -/
inductive Command
  -- Consoles
  | openConsole (name : String) (level : Fin 4) (indent : String)
  | records (console : String)
  -- Making trees
  | construct (tree root : String) (score : Int) (treeId : String) (console : Option String)
  | parse (tree : String) (lines : List String) (trim : Bool) (treeId : String) (score : Int)
      (console : Option String)
  | read (tree : String) (path : Path.Spelling) (trim : Bool) (score : Int)
      (console : Option String)
  | addDialog (tree id : String) (message : Option String) (link : Link) (voice : Voice)
  | addDecision (tree dialog : String) (decision : Decision)
  | edit (tree : String) (place : Place) (edit : Edit)
  | addScore (tree : String) (n : Int)
  -- Looking at trees
  | get (tree : String) (place : Place)
  | contains (tree : String) (dialog : Option String) (id : String)
  | size (tree : String) (dialog : Option String)
  | takeSnapshot (tree : String) (dialog : Option String) (name : String)
  | showSnapshot (name : String)
  | rootDialog (tree : String)
  | resolveLink (tree : String) (place : Place)
  | describe (tree : String) (place : Place)
  | dangling (tree : String)
  -- The register
  | newRegister (trim : Bool) (console : Option String)
  | register (key tree : String)
  | load (path : Path.Spelling) (tree : String)
  | loadAll (paths : List Path.Spelling)
  | find (key tree : String)
  | has (key : String)
  | listRegister
  | resolve (tree : String) (place : Place)
  | danglingTreeLinks
  | checkLinks
  -- Walking
  | startSession (key : String) (console : Option String)
  | choose (decision : String)
  | advance
  | history
  -- Presenting
  | presenter (showDisabled : Bool) (speaker disabledMark : Option String)
      (console : Option String)
  | visible (tree dialog : String)
  | lines (tree dialog : String)
  | page (tree dialog : String)
  | pick (tree dialog : String) (number : Int)
  | echo (tree dialog decision : String)
  | play (input : List String)
  deriving DecidableEq

/-- What a command gives. -/
inductive Reply
  | nothing
  | text (s : String)
  | optionalText (s : Option String)
  | texts (ss : List String)
  | flag (b : Bool)
  | count (n : Nat)
  | score (n : Int)
  | records (rs : List Record)
  | entity (e : Entity)
  /-- A registered tree: what it is apart from its dialogs, and how many there are. -/
  | summary (t : Tree)
  | owners (os : List Owner)
  | treeOwners (os : List (String × Owner))
  | messages (ms : List (String × Option String))
  | steps (hs : List (String × String))
  | entries (es : List (String × String))
  | destination (d : Option (String × Option String))

end Plotline
