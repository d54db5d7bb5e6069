import StyleTokens.Number.Basic

/-!
# Moments

A moment is a whole number of microseconds since the beginning of 1970. Its date follows the
Gregorian calendar: 400 years have 146097 days, and years are counted from the first of March, so
that the leap day is the last day of a year.
-/

namespace StyleTokens

/-- A moment, in microseconds since the beginning of 1970. -/
structure Moment where
  /-- The microseconds. -/
  micros : Int
  deriving DecidableEq, Repr

/-- A day of the calendar. -/
structure Date where
  /-- The year. -/
  year : Int
  /-- The month, from one. -/
  month : Nat
  /-- The day of the month, from one. -/
  day : Nat
  deriving DecidableEq, Repr

/-- The day that is so many days after the first of January 1970. -/
def Date.ofDays (days : Int) : Date :=
  let shifted := days + 719468
  let cycle := shifted.fdiv 146097
  let dayOfCycle := (shifted - cycle * 146097).toNat
  let yearOfCycle :=
    (dayOfCycle - dayOfCycle / 1460 + dayOfCycle / 36524 - dayOfCycle / 146096) / 365
  let dayOfYear := dayOfCycle - (365 * yearOfCycle + yearOfCycle / 4 - yearOfCycle / 100)
  let march := (5 * dayOfYear + 2) / 153
  let month := if march < 10 then march + 3 else march - 9
  ⟨yearOfCycle + cycle * 400 + (if month ≤ 2 then 1 else 0), month,
    dayOfYear - (153 * march + 2) / 5 + 1⟩

/-- A number with zeros in front to make so many digits. -/
def zeroPadded (width n : Nat) : String :=
  let ds := digits n
  String.ofList (List.replicate (width - ds.length) '0' ++ ds)

namespace Moment

/-- The nearest whole number of microseconds to the fraction of a second, a tie going to the even
one. The fraction is scaled as a double first. -/
def fractionMicros (units : Nat) : Nat :=
  match (Binary64.ofUnits false (units % Binary64.unitsPerOne) 1).mul (.ofInt 1000000) with
  | .finite _ scaled _ => roundHalfEven scaled Binary64.unitsPerOne
  | _ => 0

/-- The moment so many seconds after the beginning of 1970. -/
def ofSeconds : Binary64 → Moment
  | .finite negative units _ =>
    let micros : Int := units / Binary64.unitsPerOne * 1000000 + fractionMicros units
    ⟨if negative then -micros else micros⟩
  | _ => ⟨0⟩

/-- The whole seconds since the beginning of 1970. -/
def seconds (moment : Moment) : Int := moment.micros.fdiv 1000000

/-- The days since the beginning of 1970. -/
def days (moment : Moment) : Int := moment.micros.fdiv 86400000000

/-- The day of a moment. -/
def date (moment : Moment) : Date := .ofDays moment.days

/-- The microseconds since the day began. -/
def microsOfDay (moment : Moment) : Nat := (moment.micros.fmod 86400000000).toNat

/-- The time of day: hours, minutes and seconds. -/
def clockText (moment : Moment) : String :=
  let seconds := moment.microsOfDay / 1000000
  zeroPadded 2 (seconds / 3600) ++ ":" ++ zeroPadded 2 (seconds / 60 % 60) ++ ":" ++
    zeroPadded 2 (seconds % 60)

/-- The day: year, month and day of the month. -/
def dateText (moment : Moment) : String :=
  let date := moment.date
  zeroPadded 4 date.year.toNat ++ "-" ++ zeroPadded 2 date.month ++ "-" ++ zeroPadded 2 date.day

/-- Date and time in one text, with the microseconds if there are any. -/
def isoText (moment : Moment) : String :=
  let micros := moment.microsOfDay % 1000000
  moment.dateText ++ "T" ++ moment.clockText ++
    (if micros = 0 then "" else "." ++ zeroPadded 6 micros)

/-- Why a number is no moment that can be shown. -/
inductive Problem where
  /-- It is the double that is no number. -/
  | notANumber
  /-- It has more seconds than a signed word of 64 bits holds. -/
  | secondsRange
  /-- It has more years than a signed word of 32 bits holds. -/
  | yearsRange
  /-- The calendar does not have its year. -/
  | year (n : Int)
  deriving DecidableEq, Repr

/-- The wording of a problem. -/
def Problem.message : Problem → String
  | .notANumber => "Invalid value NaN (not a number)"
  | .secondsRange => "timestamp out of range for platform time_t"
  | .yearsRange => "[Errno 75] Value too large for defined data type"
  | .year n => "year " ++ String.ofList (intDigits n) ++ " is out of range"

/-- Whether a signed word of so many bits holds a whole number. -/
def fitsWord (bits : Nat) (n : Int) : Bool := n.bmod (Nat.pow 2 bits) = n

/-- The calendar has the years from 1 to 9999. A year is a word of 32 bits, counted from 1900 while
it is found. -/
def checkYear (moment : Moment) : Except Problem Unit :=
  let year := moment.date.year
  if !fitsWord 32 (year - 1900) then .error .yearsRange
  else if 1 ≤ year ∧ year ≤ 9999 then .ok ()
  else .error (.year (year.bmod (Nat.pow 2 32)))

/-- The moment so many seconds after the beginning of 1970, if the calendar has it. -/
def ofTimestamp (seconds : Number) : Except Problem Moment := do
  let moment ← match seconds with
    | .int n => .ok ⟨n * 1000000⟩
    | .float .nan => .error .notANumber
    | .float (.infinite _) => .error .secondsRange
    | .float x => .ok (ofSeconds x)
  unless fitsWord 64 moment.seconds do throw .secondsRange
  moment.checkYear
  return moment

/-- The moment a day before. -/
def yesterday (moment : Moment) : Moment := ⟨moment.micros - 86400000000⟩

/-- The time of day is that of a place, where clocks may have been put back within a day; so the
calendar has to have the day before, too. -/
def checkClock (moment : Moment) : Except Problem Unit := moment.yesterday.checkYear

end Moment

end StyleTokens
