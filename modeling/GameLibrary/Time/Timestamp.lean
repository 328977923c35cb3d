import GameLibrary.Time.Duration

/-!
# Points in civil time

A timestamp is a second of the proleptic Gregorian calendar in UTC with its nanoseconds. A leap
second has no number of its own: it is the second before it with a nanosecond count of a billion or
more. Timestamps are written as `2024-06-01T12:00:00.500Z`, with as many groups of three fraction
digits as they need.
-/

namespace GameLibrary

/-- A point in civil time: seconds since the beginning of 1970, and nanoseconds within the second,
of which a leap second has a billion more. -/
structure Timestamp where
  seconds : Int
  nanoseconds : Nat
deriving DecidableEq, Inhabited, Repr

/-- A day of the calendar. -/
structure CivilDate where
  year : Int
  month : Nat
  day : Nat
deriving DecidableEq, Repr

namespace CivilDate

/-- Whether the year has a twenty-ninth of February. -/
def isLeapYear (year : Int) : Bool :=
  year % 4 = 0 && (year % 100 ≠ 0 || year % 400 = 0)

/-- The number of days of a month. -/
def daysInMonth (year : Int) (month : Nat) : Nat :=
  if month = 2 then if isLeapYear year then 29 else 28
  else if month = 4 ∨ month = 6 ∨ month = 9 ∨ month = 11 then 30
  else 31

/-- Whether the day exists, within the years that timestamps cover. -/
def exists? (date : CivilDate) : Bool :=
  -262143 ≤ date.year && date.year ≤ 262142 && 1 ≤ date.month && date.month ≤ 12 &&
    1 ≤ date.day && date.day ≤ daysInMonth date.year date.month

/-- The day counted from the first of January 1970. Years are taken from March on, so that the leap
day is the last of its year, and in cycles of four hundred. -/
def dayNumber (date : CivilDate) : Int :=
  let year := if date.month ≤ 2 then date.year - 1 else date.year
  let monthFromMarch : Int := (date.month + 9) % 12
  let cycle := year.fdiv 400
  let yearOfCycle := year - cycle * 400
  let dayOfYear := (153 * monthFromMarch + 2) / 5 + date.day - 1
  let dayOfCycle := yearOfCycle * 365 + yearOfCycle / 4 - yearOfCycle / 100 + dayOfYear
  cycle * 146097 + dayOfCycle - 719468

/-- The day with a given number. -/
def ofDayNumber (number : Int) : CivilDate :=
  let fromMarch := number + 719468
  let cycle := fromMarch.fdiv 146097
  let dayOfCycle := fromMarch - cycle * 146097
  let yearOfCycle :=
    (dayOfCycle - dayOfCycle / 1460 + dayOfCycle / 36524 - dayOfCycle / 146096) / 365
  let dayOfYear := dayOfCycle - (365 * yearOfCycle + yearOfCycle / 4 - yearOfCycle / 100)
  let monthFromMarch := (5 * dayOfYear + 2) / 153
  let day := dayOfYear - (153 * monthFromMarch + 2) / 5 + 1
  let month := if monthFromMarch < 10 then monthFromMarch + 3 else monthFromMarch - 9
  let year := yearOfCycle + cycle * 400 + if month ≤ 2 then 1 else 0
  ⟨year, month.toNat, day.toNat⟩

end CivilDate

namespace Timestamp

/-- The number of seconds of a day without leap seconds. -/
def secondsPerDay : Int := 86400

/-- The civil time of a reading of the clock. -/
def ofInstant (now : Instant) : Timestamp :=
  ⟨now.nanoseconds / 1000000000, now.nanoseconds % 1000000000⟩

/-- The second of the day. -/
def secondOfDay (t : Timestamp) : Int := t.seconds % secondsPerDay

/-- The nanoseconds from `earlier` to `later`, negative if they are the other way round. A leap
second of the one with the earlier time of day is counted. -/
def difference (later earlier : Timestamp) : Int :=
  let leap : Int :=
    if earlier.secondOfDay < later.secondOfDay ∧ 1000000000 ≤ earlier.nanoseconds then 1
    else if later.secondOfDay < earlier.secondOfDay ∧ 1000000000 ≤ later.nanoseconds then -1
    else 0
  (later.seconds - earlier.seconds + leap) * 1000000000 +
    ((later.nanoseconds : Int) - earlier.nanoseconds)

/-- The time from one timestamp to another one, empty if the second is the earlier. -/
def since (later earlier : Timestamp) : Duration := ⟨(difference later earlier).toNat⟩

/-- A number with zeros before it to fill the width. -/
def padded (width n : Nat) : String :=
  let digits := (toString n).toList
  String.ofList (List.replicate (width - digits.length) '0' ++ digits)

/-- A year: four digits, or a sign and at least four where four without sign do not do. -/
def yearText (year : Int) : String :=
  if 0 ≤ year ∧ year ≤ 9999 then padded 4 year.toNat
  else (if year < 0 then "-" else "+") ++ padded 4 year.natAbs

/-- The fraction of a second in no, three, six or nine digits, the fewest that are exact. -/
def fractionText (nanoseconds : Nat) : String :=
  if nanoseconds = 0 then ""
  else if nanoseconds % 1000000 = 0 then "." ++ padded 3 (nanoseconds / 1000000)
  else if nanoseconds % 1000 = 0 then "." ++ padded 6 (nanoseconds / 1000)
  else "." ++ padded 9 nanoseconds

/-- The timestamp as text. A leap second is the sixtieth of its minute. -/
def text (t : Timestamp) : String :=
  let date := CivilDate.ofDayNumber (t.seconds.fdiv secondsPerDay)
  let second := t.secondOfDay.toNat
  let leap := t.nanoseconds / 1000000000
  yearText date.year ++ "-" ++ padded 2 date.month ++ "-" ++ padded 2 date.day ++ "T" ++
    padded 2 (second / 3600) ++ ":" ++ padded 2 (second / 60 % 60) ++ ":" ++
    padded 2 (second % 60 + leap) ++ fractionText (t.nanoseconds % 1000000000) ++ "Z"

end Timestamp

end GameLibrary
