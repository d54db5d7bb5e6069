import StyleTokens.Number.Basic
import StyleTokens.Time.Moment

/-!
# Days and times of day

Settings and sources may give a day, a time of day, or both, the latter perhaps with the distance
from universal time. They are kept as given; all that is asked of them is that the calendar has
them.

The formats that write days and times write them as runs of digits between marks. How many digits
a run has differs between them; a fraction of a second is read alike by all, to the microsecond.
-/

namespace StyleTokens

/-- Whether a year has a leap day. -/
def isLeapYear (year : Int) : Bool := year % 4 = 0 && (year % 100 ≠ 0 || year % 400 = 0)

/-- How many days a month has. -/
def daysIn (year : Int) (month : Nat) : Nat :=
  if month = 2 then if isLeapYear year then 29 else 28
  else if [4, 6, 9, 11].contains month then 30 else 31

/-- A time of day. -/
structure ClockTime where
  /-- The hour, from zero. -/
  hour : Nat
  /-- The minute. -/
  minute : Nat
  /-- The second. -/
  second : Nat
  /-- The microsecond. -/
  micro : Nat
  deriving DecidableEq, Repr

/-- A day, a time of day, or both. -/
inductive CalendarTime where
  /-- A day. -/
  | day (date : Date)
  /-- A time of day. -/
  | clock (time : ClockTime)
  /-- A time on a day, perhaps with the minutes by which it is ahead of universal time. -/
  | moment (date : Date) (time : ClockTime) (ahead : Option Int)
  deriving DecidableEq, Repr

/-- Why the calendar does not have a day or a time. -/
inductive CalendarProblem where
  /-- There is no year zero. -/
  | yearZero
  /-- There is no such month. -/
  | month
  /-- The month has no such day. -/
  | day
  /-- There is no such hour. -/
  | hour
  /-- There is no such minute. -/
  | minute
  /-- There is no such second. -/
  | second
  /-- No place is so far from universal time; the distance is given in minutes. -/
  | distance (ahead : Int)
  deriving DecidableEq, Repr

/-- A distance from universal time as a literal: days and the seconds left. -/
def distanceLiteral (ahead : Int) : String :=
  let days := ahead.fdiv 1440
  let seconds := (ahead.fmod 1440).toNat * 60
  let parts := (if days = 0 then [] else ["days=" ++ String.ofList (intDigits days)]) ++
    (if seconds = 0 then [] else ["seconds=" ++ toString seconds])
  "datetime.timedelta(" ++ (if parts.isEmpty then "0" else ", ".intercalate parts) ++ ")"

/-- The wording of a problem. -/
def CalendarProblem.message : CalendarProblem → String
  | yearZero => "year 0 is out of range"
  | month => "month must be in 1..12"
  | day => "day is out of range for month"
  | hour => "hour must be in 0..23"
  | minute => "minute must be in 0..59"
  | second => "second must be in 0..59"
  | distance ahead =>
    "offset must be a timedelta strictly between -timedelta(hours=24) and timedelta(hours=24), " ++
      "not " ++ distanceLiteral ahead ++ "."

namespace Date

/-- Demands that the calendar has a day. -/
def check (date : Date) : Except CalendarProblem Unit :=
  if date.year = 0 then .error .yearZero
  else if date.month = 0 ∨ 12 < date.month then .error .month
  else if date.day = 0 ∨ daysIn date.year date.month < date.day then .error .day
  else .ok ()

/-- A day as text. -/
def text (date : Date) : String :=
  zeroPadded 4 date.year.toNat ++ "-" ++ zeroPadded 2 date.month ++ "-" ++ zeroPadded 2 date.day

/-- The numbers of a day. -/
def numbers (date : Date) : List Nat := [date.year.toNat, date.month, date.day]

end Date

namespace ClockTime

/-- Demands that a day has a time. -/
def check (time : ClockTime) : Except CalendarProblem Unit :=
  if 23 < time.hour then .error .hour
  else if 59 < time.minute then .error .minute
  else if 59 < time.second then .error .second
  else .ok ()

/-- A time of day as text, with the microseconds if there are any. -/
def text (time : ClockTime) : String :=
  zeroPadded 2 time.hour ++ ":" ++ zeroPadded 2 time.minute ++ ":" ++ zeroPadded 2 time.second ++
    (if time.micro = 0 then "" else "." ++ zeroPadded 6 time.micro)

/-- The numbers of a time of day; those at the end that are zero may be missing. -/
def numbers (time : ClockTime) : List Nat :=
  [time.hour, time.minute] ++
    if time.micro ≠ 0 then [time.second, time.micro]
    else if time.second ≠ 0 then [time.second] else []

end ClockTime

namespace CalendarTime

/-- Demands that there is such a day and time. -/
def check : CalendarTime → Except CalendarProblem Unit
  | day date => date.check
  | clock time => time.check
  | moment date time ahead => do
    if let some distance := ahead then
      if 1440 ≤ distance.natAbs then throw (.distance distance)
    date.check
    time.check

/-- A distance from universal time as text. -/
def distanceText (ahead : Int) : String :=
  (if ahead < 0 then "-" else "+") ++ zeroPadded 2 (ahead.natAbs / 60) ++ ":" ++
    zeroPadded 2 (ahead.natAbs % 60)

/-- A day, a time of day, or both as text. -/
def text : CalendarTime → String
  | day date => date.text
  | clock time => time.text
  | moment date time ahead =>
    date.text ++ " " ++ time.text ++ (ahead.map distanceText).getD ""

/-- A number of things in brackets behind a name. -/
def call (name : String) (parts : List String) : String :=
  name ++ "(" ++ ", ".intercalate parts ++ ")"

/-- A day, a time of day, or both as a literal. -/
def literal : CalendarTime → String
  | day date => call "datetime.date" (date.numbers.map toString)
  | clock time => call "datetime.time" (time.numbers.map toString)
  | moment date time ahead =>
    let zone (ahead : Int) : String :=
      if ahead = 0 then "datetime.timezone.utc"
      else call "datetime.timezone" [distanceLiteral ahead]
    call "datetime.datetime" ((date.numbers ++ time.numbers).map toString ++
      (ahead.map fun distance => "tzinfo=" ++ zone distance).toList)

end CalendarTime

/-! ### Reading days and times -/

/-- The text after a given character, if it begins with it. -/
def dropChar? (wanted : Char) : List Char → Option (List Char)
  | [] => none
  | c :: rest => if c = wanted then some rest else none

/-- A number of at least and at most so many digits at the start of a text. -/
def readNumber (least most : Nat) (text : List Char) : Option (Nat × List Char) :=
  let ds := (text.take most).takeWhile Char.isDigit
  if least ≤ ds.length then some (ofDigits ds, text.drop ds.length) else none

/-- The microseconds that the digits of a fraction of a second make; further digits are dropped. -/
def microsOf (ds : List Char) : Nat := ofDigits ((ds ++ List.replicate 6 '0').take 6)

end StyleTokens
