import Plotline.Text.Blank
import Plotline.Text.Digit
import Plotline.Text.Quoted

/-!
# Numerals

Reading an integer from the text of a setting or from the player's line. Blanks around the number
are skipped, one sign may stand before it, the digits may be those of any script, and single
underscores may stand between two digits.

* `Numeral.read` gives the integer or the reason why there is none.
* A numeral of more than `digitLimit` digits is refused, zeros in front counted, whatever follows
  its digits. An integer of more digits can come about in other ways, and is then not written
  (`isWritable`, `written`).
-/

namespace Plotline.Number

/-- Why there is no integer. -/
inductive Fault
  /-- The text is no numeral of this base. -/
  | notANumeral (base : Nat) (text : String)
  /-- The numeral has this many digits, which is more than allowed. -/
  | tooManyDigits (digits : Nat)
  /-- A value of this kind has no integer. -/
  | wrongKind (kind : String)
  /-- The number is infinite. -/
  | infinite
  /-- The number is undefined. -/
  | undefined
  /-- The integer has more digits than may be written. -/
  | unwritable
  /-- The integer is beyond all numbers with a fraction. -/
  | tooLarge
  deriving DecidableEq, Repr

/-- The most digits a numeral may have. -/
def digitLimit : Nat := 4300

/-- An integer has at most as many digits as may be written. -/
def isWritable (n : Int) : Bool := n.natAbs < Nat.pow 10 digitLimit

/-- The integer in decimal, if it may be written. -/
def written (n : Int) : Except Fault String :=
  if isWritable n then .ok (toString n) else .error .unwritable

theorem written_of_isWritable {n : Int} (h : isWritable n = true) : written n = .ok (toString n) :=
  if_pos h

theorem written_of_not {n : Int} (h : isWritable n = false) : written n = .error .unwritable := by
  rw [written, h]
  exact if_neg Bool.false_ne_true

/-- The most characters of a refused text that its message shows, quotes included. -/
def shownLimit : Nat := 200

/-- The wording of a fault. -/
def Fault.message : Fault → String
  | .notANumeral base text =>
    "invalid literal for int() with base " ++ toString base ++ ": " ++
      String.ofList ((Text.quoted text.toList).take shownLimit)
  | .tooManyDigits digits =>
    "Exceeds the limit (" ++ toString digitLimit ++
      " digits) for integer string conversion: value has " ++ toString digits ++
      " digits; use sys.set_int_max_str_digits() to increase the limit"
  | .unwritable =>
    "Exceeds the limit (" ++ toString digitLimit ++
      " digits) for integer string conversion; " ++
      "use sys.set_int_max_str_digits() to increase the limit"
  | .tooLarge => "int too large to convert to float"
  | .wrongKind kind =>
    "int() argument must be a string, a bytes-like object or a real number, not '" ++ kind ++ "'"
  | .infinite => "cannot convert float infinity to integer"
  | .undefined => "cannot convert float NaN to integer"

namespace Numeral

/-- Blanks that may surround a numeral: all but the four separators U+001C to U+001F. -/
def isMargin (c : Char) : Bool :=
  Text.isBlank c && !(0x1C ≤ c.toNat && c.toNat ≤ 0x1F)

/-- The digit values of a text in which single underscores may stand between two digits. -/
def digits? : List Char → Option (List Nat)
  | [] => none
  | [c] => (Text.decimalValue? c).map ([·])
  | c :: '_' :: rest => do
    let v ← Text.decimalValue? c
    let vs ← digits? rest
    pure (v :: vs)
  | c :: rest => do
    let v ← Text.decimalValue? c
    let vs ← digits? rest
    pure (v :: vs)

/-- The number that the digits write in the given base. -/
def value (base : Nat) (digits : List Nat) : Nat := digits.foldl (fun n d => n * base + d) 0

/-- Takes one sign off the front; `true` is for a minus. -/
def takeSign : List Char → Bool × List Char
  | '-' :: rest => (true, rest)
  | '+' :: rest => (false, rest)
  | s => (false, s)

/-- The text without the margins at either end. -/
def withoutMargins (s : List Char) : List Char :=
  ((s.dropWhile isMargin).reverse.dropWhile isMargin).reverse

/-- Digits and underscores, of which a numeral consists behind its sign. -/
def isPart (c : Char) : Bool := c = '_' || (Text.decimalValue? c).isSome

/-- Reads an integer. -/
def read (text : String) : Except Fault Int :=
  let (negative, body) := takeSign (withoutMargins text.toList)
  match digits? (body.takeWhile isPart) with
  | none => .error (.notANumeral 10 text)
  | some ds =>
    if digitLimit < ds.length then .error (.tooManyDigits ds.length)
    else if body.all isPart then
      let n : Int := value 10 ds
      .ok (if negative then -n else n)
    else .error (.notANumeral 10 text)

end Numeral

end Plotline.Number
