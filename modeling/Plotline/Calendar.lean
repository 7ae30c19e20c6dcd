/-!
# Dates and moments

A date is a day of the years 1 to 9999; a moment is a time of a date, on a clock that may be said to
be some minutes ahead of the common one.

* `Date.check` and `Moment.check` say what is wrong with one that there is not; of two wrong parts
  the larger unit is told.
* `Date.text` and `Moment.text` write them by themselves, `Date.described` and `Moment.described`
  inside other values.
* `Moment.same` compares two moments: on clocks that are set apart from the common one, they are the
  same if the common clock shows the same.
-/

namespace Plotline

/-- A day. -/
structure Date where
  year : Nat
  month : Nat
  day : Nat
  deriving DecidableEq, Repr

/-- A time of a day, on a clock that is `ahead` minutes ahead of the common one if that is known. -/
structure Moment where
  date : Date
  hour : Nat
  minute : Nat
  second : Nat
  microsecond : Nat
  ahead : Option Int
  deriving DecidableEq, Repr

namespace Calendar

/-- Why there is no such date or moment. -/
inductive Fault
  | year (n : Nat)
  | month
  | day
  | hour
  | minute
  | second
  /-- The clock is a day or more ahead or behind. -/
  | ahead (minutes : Int)
  deriving DecidableEq, Repr

/-- A number with zeros in front of it. -/
def padded (width n : Nat) : String :=
  let digits := toString n
  String.ofList (List.replicate (width - digits.length) '0') ++ digits

/-- The minutes of a day. -/
def dayMinutes : Nat := 24 * 60

/-- A span of minutes as descriptions write it: whole days, and seconds that are never negative. -/
def span (minutes : Int) : String :=
  let days := minutes.fdiv dayMinutes
  let seconds := minutes.fmod dayMinutes * 60
  let parts :=
    (if days = 0 then [] else ["days=" ++ toString days]) ++
      (if seconds = 0 then [] else ["seconds=" ++ toString seconds])
  "datetime.timedelta(" ++ (if parts.isEmpty then "0" else ", ".intercalate parts) ++ ")"

/-- The wording of a fault. -/
def Fault.message : Fault → String
  | .year n => "year " ++ toString n ++ " is out of range"
  | .month => "month must be in 1..12"
  | .day => "day is out of range for month"
  | .hour => "hour must be in 0..23"
  | .minute => "minute must be in 0..59"
  | .second => "second must be in 0..59"
  | .ahead minutes =>
    "offset must be a timedelta strictly between -timedelta(hours=24) and " ++
      "timedelta(hours=24), not " ++ span minutes ++ "."

/-- A year with a 29th of February. -/
def isLeap (year : Nat) : Bool := year % 4 = 0 && (year % 100 ≠ 0 || year % 400 = 0)

/-- The days of a month. -/
def monthDays (year month : Nat) : Nat :=
  if month = 2 then if isLeap year then 29 else 28
  else if month ∈ [4, 6, 9, 11] then 30
  else 31

/-- The days of the first months of a year. -/
def daysBefore (year : Nat) : Nat → Nat
  | 0 => 0
  | month + 1 => daysBefore year month + monthDays year (month + 1)

end Calendar

namespace Date

/-- What is wrong with a date. -/
def check (d : Date) : Option Calendar.Fault :=
  if d.year < 1 ∨ 9999 < d.year then some (.year d.year)
  else if d.month < 1 ∨ 12 < d.month then some .month
  else if d.day < 1 ∨ Calendar.monthDays d.year d.month < d.day then some .day
  else none

/-- The number of a day, counted without gaps. -/
def number (d : Date) : Nat :=
  let past := d.year - 1
  past * 365 + past / 4 - past / 100 + past / 400 + Calendar.daysBefore d.year (d.month - 1) + d.day

/-- A date by itself. -/
def text (d : Date) : String :=
  Calendar.padded 4 d.year ++ "-" ++ Calendar.padded 2 d.month ++ "-" ++ Calendar.padded 2 d.day

/-- A date inside other values. -/
def described (d : Date) : String :=
  "datetime.date(" ++ ", ".intercalate ([d.year, d.month, d.day].map toString) ++ ")"

end Date

namespace Moment

/-- What is wrong with a moment. -/
def check (m : Moment) : Option Calendar.Fault :=
  if Calendar.dayMinutes ≤ (m.ahead.getD 0).natAbs then some (.ahead (m.ahead.getD 0))
  else
    match m.date.check with
    | some f => some f
    | none =>
      if 23 < m.hour then some .hour
      else if 59 < m.minute then some .minute
      else if 59 < m.second then some .second
      else none

/-- How far a clock is ahead, in hours and minutes. -/
def aheadText (minutes : Int) : String :=
  let size := minutes.natAbs
  (if minutes < 0 then "-" else "+") ++ Calendar.padded 2 (size / 60) ++ ":" ++
    Calendar.padded 2 (size % 60)

/-- A moment by itself; a fraction of a second is left out if it is zero. -/
def text (m : Moment) : String :=
  let fraction := if m.microsecond = 0 then "" else "." ++ Calendar.padded 6 m.microsecond
  m.date.text ++ " " ++ ":".intercalate ([m.hour, m.minute, m.second].map (Calendar.padded 2)) ++
    fraction ++ (m.ahead.map aheadText).getD ""

/-- A moment inside other values; zeros at the end are left out behind the minutes. -/
def described (m : Moment) : String :=
  let fine :=
    if m.microsecond ≠ 0 then [m.second, m.microsecond]
    else if m.second ≠ 0 then [m.second]
    else []
  let numbers := [m.date.year, m.date.month, m.date.day, m.hour, m.minute] ++ fine
  let clock := m.ahead.map fun minutes =>
    "tzinfo=" ++
      (if minutes = 0 then "datetime.timezone.utc"
        else "datetime.timezone(" ++ Calendar.span minutes ++ ")")
  "datetime.datetime(" ++ ", ".intercalate (numbers.map toString ++ clock.toList) ++ ")"

/-- The minutes that the common clock has counted; the clock of the moment is `ahead` of it. -/
def commonMinutes (m : Moment) (ahead : Int) : Int :=
  (m.date.number * Calendar.dayMinutes + m.hour * 60 + m.minute : Nat) - ahead

/-- Two moments are the same. One on a clock that is set apart differs from one that is not. -/
def same (m n : Moment) : Bool :=
  match m.ahead, n.ahead with
  | none, none => m = n
  | some a, some b =>
    m.commonMinutes a = n.commonMinutes b ∧ m.second = n.second ∧ m.microsecond = n.microsecond
  | _, _ => false

end Moment

end Plotline
