import GameLibrary.Text.Blank
import GameLibrary.Time.Timestamp

/-!
# Reading timestamps

The accepted form is wider than the written one. Blanks may stand around every part of the date and
of the time; the numbers of month, day, hour, minute and second may have one digit; a signed year
may have any number of digits; date and time are separated by `T`, `t` or a space; a fraction may
have any number of digits, of which nine count; and the zone is `Z`, `UTC` in letters of either
case, or an offset of hours and minutes below a day, with colons or blanks between the two.
-/

namespace GameLibrary.Timestamp.Reading

open GameLibrary.Text (isBlank)

/-- A reader takes a part from the beginning of the text and leaves the rest. -/
abbrev Reader (α : Type) := List Char → Option (α × List Char)

/-- The text behind any blanks. -/
def skipBlanks (text : List Char) : List Char := text.dropWhile isBlank

/-- Whether the character is a decimal digit. -/
def isDigit (c : Char) : Bool := '0' ≤ c && c ≤ '9'

/-- The number that decimal digits denote. -/
def valueOf (digits : List Char) : Nat :=
  digits.foldl (fun n c => n * 10 + (c.toNat - '0'.toNat)) 0

/-- One digit at least and `width` at most. -/
def digits (width : Nat) : Reader (List Char) := fun text =>
  let found := (text.take width).takeWhile isDigit
  if found = [] then none else some (found, text.drop found.length)

/-- A number of at most `width` digits between two bounds, behind any blanks. -/
def number (width low high : Nat) : Reader Nat := fun text => do
  let (found, rest) ← digits width (skipBlanks text)
  let n := valueOf found
  if low ≤ n ∧ n ≤ high then some (n, rest) else none

/-- A year: four digits at most, or a sign and any number of them. -/
def year : Reader Int := fun text =>
  match skipBlanks text with
  | '-' :: rest => do
      let (found, rest) ← digits rest.length rest
      return (-(valueOf found : Int), rest)
  | '+' :: rest => do
      let (found, rest) ← digits rest.length rest
      return ((valueOf found : Int), rest)
  | rest => do
      let (found, rest) ← digits 4 rest
      return ((valueOf found : Int), rest)

/-- A separator, with any blanks on both sides. -/
def separator (mark : Char) : Reader Unit := fun text =>
  match skipBlanks text with
  | c :: rest => if c = mark then some ((), skipBlanks rest) else none
  | [] => none

/-- The nanoseconds of a fraction, of which nine digits count; none without a point. -/
def fraction : Reader Nat
  | '.' :: rest => do
      let (found, rest) ← digits 9 rest
      return (valueOf found * Nat.pow 10 (9 - found.length), rest.dropWhile isDigit)
  | text => some (0, text)

/-- The letter or blank between date and time. -/
def join : Reader Unit
  | 'T' :: rest | 't' :: rest | ' ' :: rest => some ((), rest)
  | _ => none

/-- Two digits of an offset, the first below `limit`. -/
def offsetPart (limit : Char) : Reader Nat
  | a :: b :: rest =>
      if isDigit a && isDigit b && a < limit then some (valueOf [a, b], rest) else none
  | _ => none

/-- Hours and minutes of an offset, as seconds. -/
def offset (sign : Int) : Reader Int := fun text => do
  let (hours, rest) ← offsetPart ':' text
  let (minutes, rest) ← offsetPart '6' (rest.dropWhile fun c => c = ':' || isBlank c)
  return (sign * (hours * 3600 + minutes * 60), rest)

/-- The seconds by which local time is ahead. -/
def zone : Reader Int
  | 'Z' :: rest | 'z' :: rest => some (0, rest)
  | '+' :: rest => offset 1 rest
  | '-' :: rest | '−' :: rest => offset (-1) rest
  | u :: t :: c :: rest =>
      if [u, t, c].map Char.toUpper = ['U', 'T', 'C'] then some (0, rest) else none
  | _ => none

end GameLibrary.Timestamp.Reading

namespace GameLibrary.Timestamp

/-- The first year of the calendar. -/
def firstYear : Int := -262143

/-- The last year of the calendar. -/
def lastYear : Int := 262142

open Reading in
/-- The timestamp that a text denotes. The date as written and the date at the prime meridian have to
be in the calendar. -/
def ofText? (text : String) : Option Timestamp := do
  let (year, rest) ← year text.toList
  let ((), rest) ← separator '-' rest
  let (month, rest) ← number 2 1 12 rest
  let ((), rest) ← separator '-' rest
  let (day, rest) ← number 2 1 31 rest
  let ((), rest) ← join rest
  let (hour, rest) ← number 2 0 23 rest
  let ((), rest) ← separator ':' rest
  let (minute, rest) ← number 2 0 59 rest
  let ((), rest) ← separator ':' rest
  let (second, rest) ← number 2 0 60 rest
  let (nanoseconds, rest) ← fraction rest
  let (ahead, rest) ← zone (skipBlanks rest)
  let date : CivilDate := ⟨year, month, day⟩
  if skipBlanks rest ≠ [] ∨ !date.exists? ∨ secondsPerDay ≤ ahead.natAbs ∨
      year < firstYear ∨ lastYear < year then none
  else
    let leap := second / 60
    let localSeconds := date.dayNumber * secondsPerDay + hour * 3600 + minute * 60 + (second - leap)
    let seconds := localSeconds - ahead
    let day := seconds.fdiv secondsPerDay
    if (CivilDate.mk firstYear 1 1).dayNumber ≤ day ∧
        day ≤ (CivilDate.mk lastYear 12 31).dayNumber then
      some ⟨seconds, nanoseconds + leap * 1000000000⟩
    else none

end GameLibrary.Timestamp
