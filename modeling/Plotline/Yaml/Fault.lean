import Plotline.Calendar
import Plotline.Number.Numeral

/-!
# Faults of a settings text

Why a text gives no value. Of a text that is wrong in its form no more is said than that.
-/

namespace Plotline.Yaml

/-- Why a text gives no value. -/
inductive Fault
  /-- The text is no document. -/
  | malformed
  /-- An escape names a code point that there is not. -/
  | codePoint (code : Nat)
  /-- A number in the text cannot be read. -/
  | number (fault : Number.Fault)
  /-- There is no such date. -/
  | calendar (fault : Calendar.Fault)
  deriving DecidableEq, Repr

/-- A code point of more than 31 bits is refused in other words than a smaller one. -/
def isHuge (code : Nat) : Bool := 0x80000000 ≤ code

/-- The wording of a fault. -/
def Fault.message : Fault → String
  | .malformed => ""
  | .codePoint code =>
    if isHuge code then "Python int too large to convert to C int"
    else "chr() arg not in range(0x110000)"
  | .number fault => fault.message
  | .calendar fault => fault.message

/-- What is not there is malformed. -/
def orMalformed {α : Type} : Option α → Except Fault α
  | some a => .ok a
  | none => .error .malformed

end Plotline.Yaml
