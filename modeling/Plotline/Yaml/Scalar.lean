import Plotline.Settings.Datum
import Plotline.Text.Lines
import Plotline.Yaml.Flow
import Plotline.Yaml.Moment

/-!
# Scalars without quotes

What a scalar without quotes stands for: an absent value, a truth value, an integer in one of five
ways of writing it, a number with a fraction, a date, a moment, or else a text.

* `plainDatum` reads a scalar.
* Two words stand for no value and have a meaning only as keys: `mergeWord` and `valueWord`.
-/

namespace Plotline.Yaml

/-! ## Words -/

/-- The words for an absent value. -/
def nullWords : List String := ["", "~", "null", "Null", "NULL"]

/-- The words for true. -/
def trueWords : List String :=
  ["yes", "Yes", "YES", "true", "True", "TRUE", "on", "On", "ON"]

/-- The words for false. -/
def falseWords : List String :=
  ["no", "No", "NO", "false", "False", "FALSE", "off", "Off", "OFF"]

/-- The words for infinity, without a sign. -/
def infinityWords : List String := [".inf", ".Inf", ".INF"]

/-- The words for the undefined number. -/
def undefinedWords : List String := [".nan", ".NaN", ".NAN"]

/-- The key whose value's entries are taken over. -/
def mergeWord : String := "<<"

/-- A word that stands for itself as a key, and for nothing elsewhere. -/
def valueWord : String := "="

/-! ## Integers -/

/-- The text without its underscores. -/
def withoutBars (s : List Char) : List Char := s.filter (· ≠ '_')

/-- All characters are underscores or satisfy `p`. -/
def barred (p : Char → Bool) (s : List Char) : Bool := s.all fun c => c = '_' || p c

/-- A digit of a base up to eight. -/
def isDigitBelow (base : Nat) (c : Char) : Bool := c.isDigit && c.toNat - 0x30 < base

/-- Reads digits of a base, which may be hexadecimal. There may be nothing but underscores; they
write no number. -/
def readInBase (base : Nat) (s : List Char) : Except Number.Fault Int :=
  match withoutBars s with
  | [] => .error (.notANumeral base "")
  | ds => .ok (Number.Numeral.value base (ds.map fun c => (hexValue? c).getD 0))

/-- Reads decimal digits. -/
def readDecimal (s : List Char) : Except Number.Fault Int :=
  Number.Numeral.read (String.ofList (withoutBars s))

/-- Decimal digits and underscores, a digit first. -/
def startsWithDigit (s : List Char) : Bool := s.head?.any Char.isDigit && barred Char.isDigit s

/-- One or two digits that write a number below sixty. -/
def isBelowSixty : List Char → Bool
  | [c] => c.isDigit
  | [c, d] => isDigitBelow 6 c && d.isDigit
  | _ => false

/-- The places of a number written in sixtieths, with colons between them: the first may be of any
size, the others are below sixty. -/
def places? (s : List Char) : Option (List (List Char)) :=
  let places := Text.cutAt ':' s
  if 2 ≤ places.length && places.head?.any startsWithDigit && (places.drop 1).all isBelowSixty then
    some places
  else none

/-- The integer that places of sixtieths write. -/
def sixtieths (places : List (List Char)) : Except Number.Fault Int :=
  (places.mapM readDecimal).map fun ns => ns.foldl (fun n p => n * 60 + p) 0

/-- The integer that an unsigned scalar writes: with `0b` in base two, with `0x` in base sixteen,
with a leading zero in base eight, with colons in sixtieths, else in base ten. -/
def integer? (s : List Char) : Option (Except Number.Fault Int) :=
  match s with
  | ['0'] => some (.ok 0)
  | '0' :: 'b' :: ds =>
    if ds ≠ [] && barred (isDigitBelow 2) ds then some (readInBase 2 ds) else none
  | '0' :: 'x' :: ds =>
    if ds ≠ [] && barred (hexValue? · |>.isSome) ds then some (readInBase 16 ds) else none
  | '0' :: ds => if barred (isDigitBelow 8) ds then some (readInBase 8 ('0' :: ds)) else none
  | _ => if startsWithDigit s then some (readDecimal s) else (places? s).map sixtieths

/-! ## Numbers with a fraction -/

/-- A power of ten must have a sign. -/
def isPower (s : List Char) : Bool :=
  match s with
  | [] => true
  | e :: sign :: ds =>
    (e = 'e' || e = 'E') && (sign = '+' || sign = '-') && ds ≠ [] && ds.all Char.isDigit
  | _ => false

/-- The number that decimal digits with a point write. -/
def readFraction (s : List Char) : Number.Binary64 :=
  (Number.Binary64.read? (withoutBars s)).getD .undefined

/-- The sum of the places of sixtieths, last place first; `weight` is what the present one
counts. -/
def sumOfPlaces (weight : Nat) (sum : Number.Binary64) :
    List (List Char) → Except Number.Fault Number.Binary64
  | [] => .ok sum
  | p :: rest =>
    match Number.Binary64.ofNat? weight with
    | none => .error .tooLarge
    | some w => sumOfPlaces (weight * 60) (sum.add ((readFraction p).mul w)) rest

/-- The number with a fraction that an unsigned scalar writes, in decimal digits or with colons in
sixtieths. Without a digit in front of the point there must be one behind it; `signed` says that
there was a sign, which needs a digit behind it. -/
def fraction? (signed : Bool) (s : List Char) : Option (Except Number.Fault Number.Binary64) :=
  let whole := s.takeWhile (· ≠ '.')
  match s.drop whole.length with
  | [] => none
  | _ :: rest =>
    let part := rest.takeWhile fun c => c = '_' || c.isDigit
    let power := rest.drop part.length
    if startsWithDigit whole || (whole = [] && !signed && part.head?.any Char.isDigit) then
      if isPower power then some (.ok (readFraction s)) else none
    else
      match places? whole with
      | none => none
      | some places =>
        if power = [] then
          let last := places.getLastD [] ++ '.' :: part
          some (sumOfPlaces 1 (.finite false 0 0) (last :: places.reverse.drop 1))
        else none

/-! ## Scalars -/

/-- A value, if it is in the calendar. -/
def inCalendar (fault : Option Calendar.Fault) (d : Datum) : Except Fault Datum :=
  match fault with
  | some f => .error (.calendar f)
  | none => .ok d

/-- What a scalar without quotes stands for. -/
def plainDatum (text : List Char) : Except Fault Datum :=
  let word := String.ofList text
  let (negative, body) := Number.Numeral.takeSign text
  let signed := body.length < text.length
  if word ∈ nullWords then .ok .null
  else if word ∈ trueWords then .ok (.bool true)
  else if word ∈ falseWords then .ok (.bool false)
  else if word ∈ undefinedWords then .ok (.real .undefined)
  else if String.ofList body ∈ infinityWords then .ok (.real (.infinite negative))
  else if word = mergeWord ∨ word = valueWord then .error .malformed
  else
    match integer? body, fraction? signed body, date? text, moment? text with
    | some (.ok n), _, _, _ => .ok (.int (if negative then -n else n))
    | _, some (.ok x), _, _ => .ok (.real (if negative then x.negate else x))
    | some (.error f), _, _, _ | _, some (.error f), _, _ => .error (.number f)
    | _, _, some d, _ => inCalendar d.check (.date d)
    | _, _, _, some m => inCalendar m.check (.moment m)
    | none, none, none, none => .ok (.text word)

end Plotline.Yaml
