import Plotline.Yaml.Fault

/-!
# Dates and moments as scalars

A date is written as year, month and day with a dash between two of them. A moment goes on, behind a
`T` or blanks, with the time, which may have a fraction of a second, and with what the clock is set
to: `Z` for the common one, or how far it is ahead of or behind it.

* `date?` and `moment?` give what a scalar writes, whether there is such a day or time or not;
  `none` says that the scalar is of another form.
-/

namespace Plotline.Yaml

/-- A space or a tab. -/
def isSpace (c : Char) : Bool := c = ' ' || c = '\t'

/-- The number that digits write. -/
def decimal (s : List Char) : Nat := s.foldl (fun n c => n * 10 + (c.toNat - '0'.toNat)) 0

/-- Takes a number of at least `least` and at most `most` digits off the front. -/
def takeNumber (least most : Nat) (s : List Char) : Option (Nat × List Char) :=
  let digits := s.takeWhile Char.isDigit
  if least ≤ digits.length ∧ digits.length ≤ most then
    some (decimal digits, s.drop digits.length)
  else none

/-- Takes one character off the front. -/
def takeSign (p : Char → Bool) : List Char → Option (List Char)
  | [] => none
  | c :: rest => if p c then some rest else none

/-- Takes a date off the front, with months and days of at least `least` digits. -/
def takeDate (least : Nat) (s : List Char) : Option (Date × List Char) := do
  let (year, s) ← takeNumber 4 4 s
  let s ← takeSign (· = '-') s
  let (month, s) ← takeNumber least 2 s
  let s ← takeSign (· = '-') s
  let (day, s) ← takeNumber least 2 s
  return (⟨year, month, day⟩, s)

/-- Takes the blanks or the `T` between date and time off the front. -/
def takeGap (s : List Char) : Option (List Char) :=
  match s with
  | [] => none
  | c :: rest =>
    if c = 'T' || c = 't' then some rest
    else if isSpace c then some (rest.dropWhile isSpace)
    else none

/-- Takes a fraction of a second off the front, in millionths; further digits are dropped. -/
def takeFraction : List Char → Nat × List Char
  | '.' :: rest =>
    let digits := rest.takeWhile Char.isDigit
    (decimal ((digits ++ List.replicate 6 '0').take 6), rest.drop digits.length)
  | s => (0, s)

/-- Reads how far the clock is ahead, in minutes, behind the sign of that. -/
def aheadOf? (s : List Char) : Option Int := do
  let (hours, s) ← takeNumber 1 2 s
  match s with
  | [] => return hours * 60
  | _ =>
    let s ← takeSign (· = ':') s
    let (minutes, s) ← takeNumber 2 2 s
    if s = [] then return hours * 60 + minutes else none

/-- Reads the end of a moment: nothing, or what the clock is set to. -/
def clock? (s : List Char) : Option (Option Int) :=
  match s, s.dropWhile isSpace with
  | [], _ => some none
  | _, ['Z'] => some (some 0)
  | _, '+' :: rest => (aheadOf? rest).map some
  | _, '-' :: rest => (aheadOf? rest).map fun n => some (-n)
  | _, _ => none

/-- The date that a scalar writes. -/
def date? (s : List Char) : Option Date := do
  let (date, s) ← takeDate 2 s
  if s = [] then return date else none

/-- The moment that a scalar writes. -/
def moment? (s : List Char) : Option Moment := do
  let (date, s) ← takeDate 1 s
  let s ← takeGap s
  let (hour, s) ← takeNumber 1 2 s
  let s ← takeSign (· = ':') s
  let (minute, s) ← takeNumber 2 2 s
  let s ← takeSign (· = ':') s
  let (second, s) ← takeNumber 2 2 s
  let (microsecond, s) := takeFraction s
  let ahead ← clock? s
  return { date, hour, minute, second, microsecond, ahead }

end Plotline.Yaml
