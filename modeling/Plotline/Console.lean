/-!
# Consoles

A console lays out text and decides which notices are let through. It has a level from 0 to 3:
0 lets nothing through, 1 errors only, 2 warnings as well, 3 everything.

* `Console.format` puts the first line flush left and every further line behind the indent.
* `Console.log` is one call at a numeric level. Level 1 always fails with the formatted text; a
  warning (2) or an information (3) is kept if the console's level admits it; all other calls are
  dropped.
* A `Journal` keeps the records of one channel, the latest ones if it is bounded.
* A `Posting` is a record on its way to the journal of a channel.
-/

namespace Plotline

/-- How grave a notice is. Errors are not among them: they end what was being done. -/
inductive Severity
  | warning
  | info
  deriving DecidableEq, Repr

/-- The level at which a notice is made. -/
def Severity.rank : Severity → Nat
  | .warning => 2
  | .info => 3

/-- The notice made at a level, if there is one. -/
def Severity.ofRank? (level : Int) : Option Severity :=
  if level = 2 then some .warning else if level = 3 then some .info else none

/-- The word in front of a notice that is written out. -/
def Severity.label : Severity → String
  | .warning => "WARNING"
  | .info => "INFO"

/-- A notice that was let through. -/
structure Record where
  severity : Severity
  text : String
  deriving DecidableEq, Repr

/-- The level that lets errors through only. -/
def Console.errorsOnly : Fin 4 := 1

/-- A console: the channel that its records go to, its level, and the indent of further lines. -/
structure Console where
  channel : Nat := 0
  level : Fin 4 := Console.errorsOnly
  indent : String := "  "
  deriving DecidableEq, Repr

/-- A record and the channel that it goes to. -/
structure Posting where
  channel : Nat
  record : Record
  deriving DecidableEq, Repr

/-- The first line as it is, every further one behind the indent. -/
def layOut (indent first : String) (details : List String) : String :=
  "\n".intercalate (first :: details.map (indent ++ ·))

/-- Every further line stands behind a newline and the indent. -/
theorem layOut_eq (indent first : String) (details : List String) :
    layOut indent first details = first ++ String.join (details.map ("\n" ++ indent ++ ·)) := by
  unfold layOut
  induction details generalizing first with
  | nil => simp
  | cons d details ih =>
    rw [List.map_cons, String.intercalate_cons_cons, ih, List.map_cons, String.join_cons]
    simp only [String.append_assoc]

namespace Console

/-- The nearest level to a number. -/
def clampLevel (n : Int) : Fin 4 :=
  if n ≤ 0 then 0 else if n = 1 then 1 else if n = 2 then 2 else 3

theorem clampLevel_val (n : Int) : ((clampLevel n).val : Int) = max 0 (min 3 n) := by
  unfold clampLevel
  split
  · change (0 : Int) = _; omega
  split
  · change (1 : Int) = _; omega
  split
  · change (2 : Int) = _; omega
  · change (3 : Int) = _; omega

/-- The lines laid out with this console's indent. -/
def format (c : Console) (first : String) (details : List String) : String :=
  layOut c.indent first details

/-- What is written when the lines are put out. -/
def out (c : Console) (first : String) (details : List String) : String :=
  c.format first details ++ "\n"

/-- What becomes of a call to log. -/
inductive Verdict
  /-- The call fails with this text. -/
  | failed (text : String)
  /-- The call has no effect. -/
  | dropped
  /-- The record is kept. -/
  | kept (record : Record)
  deriving DecidableEq, Repr

/-- A call to log at a numeric level. -/
def log (c : Console) (level : Int) (first : String) (details : List String) : Verdict :=
  if level = 1 then .failed (c.format first details)
  else
    match Severity.ofRank? level with
    | none => .dropped
    | some s => if s.rank ≤ c.level.val then .kept ⟨s, c.format first details⟩ else .dropped

/-- A notice is kept if the level admits it. -/
theorem log_rank (c : Console) (s : Severity) (first : String) (details : List String) :
    c.log s.rank first details =
      if s.rank ≤ c.level.val then .kept ⟨s, c.format first details⟩ else .dropped := by
  cases s <;> rfl

/-- The postings of a notice: one if the console's level admits it, else none. -/
def post (c : Console) (s : Severity) (first : String) (details : List String) : List Posting :=
  match c.log s.rank first details with
  | .kept record => [⟨c.channel, record⟩]
  | _ => []

/-- A warning. -/
def warn (c : Console) (first : String) (details : List String) : List Posting :=
  c.post .warning first details

/-- An information. -/
def info (c : Console) (first : String) (details : List String) : List Posting :=
  c.post .info first details

end Console

/-- The records of a channel, oldest first. With a capacity, only the latest ones are kept. -/
structure Journal where
  capacity : Option Nat := some 500
  records : List Record := []
  deriving DecidableEq, Repr

namespace Journal

/-- Adds a record, and lets go of the oldest ones that no longer fit. -/
def keep (j : Journal) (r : Record) : Journal :=
  let records := j.records ++ [r]
  match j.capacity with
  | none => { j with records := records }
  | some n => { j with records := records.drop (records.length - n) }

/-- The texts of the warnings, oldest first. -/
def warnings (j : Journal) : List String :=
  (j.records.filter (·.severity = .warning)).map (·.text)

/-- Adds the records that were posted on one channel. -/
def receive (j : Journal) (channel : Nat) (postings : List Posting) : Journal :=
  ((postings.filter (·.channel = channel)).map (·.record)).foldl keep j

end Journal

end Plotline
