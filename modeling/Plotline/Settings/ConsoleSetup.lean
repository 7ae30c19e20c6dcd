import Plotline.Settings.Datum

/-!
# Setting up a console

A console is set up with a level, which may be any value that has an integer, and with a bound on
the records that are kept, which may not be negative and must be of 64 bits with its sign.
-/

namespace Plotline.Console

/-- Why no console is set up. -/
inductive SetupFault
  | level (fault : Number.Fault)
  /-- The bound on the records is negative. -/
  | capacity
  /-- The bound on the records has too many bits. -/
  | hugeCapacity
  deriving DecidableEq, Repr

/-- The wording of a fault. -/
def SetupFault.message : SetupFault → String
  | .level fault => fault.message
  | .capacity => "maxlen must be non-negative"
  | .hugeCapacity => "Python int too large to convert to C ssize_t"

/-- The least natural that has too many bits for a bound on the records. -/
def wordLimit : Int := 0x8000000000000000

/-- Sets up a console and its journal. -/
def setUp (level : Datum) (indent : String) (capacity : Option Int) :
    Except SetupFault (Console × Journal) :=
  match level.toInt with
  | .error f => .error (.level f)
  | .ok n =>
    let console : Console := { level := clampLevel n, indent := indent }
    match capacity with
    | none => .ok (console, { capacity := none })
    | some bound =>
      if bound < -wordLimit ∨ wordLimit ≤ bound then .error .hugeCapacity
      else if bound < 0 then .error .capacity
      else .ok (console, { capacity := some bound.toNat })

end Plotline.Console
