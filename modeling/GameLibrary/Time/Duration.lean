/-!
# Durations and instants

Time is counted in whole nanoseconds. A duration is at most `2 ^ 64` seconds less a nanosecond; a
sum beyond that is the longest duration. An instant is a reading of the clock, counted from the
first second of 1970.
-/

namespace GameLibrary

/-- A length of time. -/
structure Duration where
  nanoseconds : Nat
deriving DecidableEq, Inhabited, Repr

namespace Duration

/-- The empty duration. -/
def zero : Duration := ⟨0⟩

/-- So many seconds. -/
def seconds (n : Nat) : Duration := ⟨n * 1000000000⟩

/-- So many milliseconds. -/
def milliseconds (n : Nat) : Duration := ⟨n * 1000000⟩

/-- So many microseconds. -/
def microseconds (n : Nat) : Duration := ⟨n * 1000⟩

/-- The longest duration. -/
def longest : Duration := ⟨0x10000000000000000 * 1000000000 - 1⟩

/-- The whole seconds. -/
def wholeSeconds (d : Duration) : Nat := d.nanoseconds / 1000000000

/-- The nanoseconds beyond the whole seconds. -/
def extraNanoseconds (d : Duration) : Nat := d.nanoseconds % 1000000000

/-- The whole milliseconds. -/
def wholeMilliseconds (d : Duration) : Nat := d.nanoseconds / 1000000

/-- The whole microseconds. -/
def wholeMicroseconds (d : Duration) : Nat := d.nanoseconds / 1000

/-- The sum, held at the longest duration. -/
def addSaturating (a b : Duration) : Duration :=
  ⟨min (a.nanoseconds + b.nanoseconds) longest.nanoseconds⟩

instance : LE Duration := ⟨fun a b => a.nanoseconds ≤ b.nanoseconds⟩
instance : LT Duration := ⟨fun a b => a.nanoseconds < b.nanoseconds⟩
instance (a b : Duration) : Decidable (a ≤ b) :=
  inferInstanceAs (Decidable (a.nanoseconds ≤ b.nanoseconds))
instance (a b : Duration) : Decidable (a < b) :=
  inferInstanceAs (Decidable (a.nanoseconds < b.nanoseconds))

/-- A number of units with the digits of a fraction behind it. The fraction is out of
`10 ^ places`, and its trailing zeros are left out. -/
def inUnits (whole fraction places : Nat) (unit : String) : String :=
  let digits := (toString (Nat.pow 10 places + fraction)).toList.drop 1
  let kept := (digits.reverse.dropWhile (· = '0')).reverse
  toString whole ++ (if kept.isEmpty then "" else "." ++ String.ofList kept) ++ unit

/-- The duration in the largest of the units `s`, `ms`, `µs` and `ns` of which it holds at least
one. -/
def text (d : Duration) : String :=
  let n := d.nanoseconds
  if 1000000000 ≤ n then inUnits (n / 1000000000) (n % 1000000000) 9 "s"
  else if 1000000 ≤ n then inUnits (n / 1000000) (n % 1000000) 6 "ms"
  else if 1000 ≤ n then inUnits (n / 1000) (n % 1000) 3 "µs"
  else inUnits n 0 0 "ns"

/-- A duration that may be absent. -/
def optionText : Option Duration → String
  | none => "None"
  | some d => "Some(" ++ d.text ++ ")"

end Duration

/-- A reading of the clock, in nanoseconds since the first second of 1970. -/
structure Instant where
  nanoseconds : Nat
deriving DecidableEq, Inhabited, Repr

namespace Instant

instance : LE Instant := ⟨fun a b => a.nanoseconds ≤ b.nanoseconds⟩
instance : LT Instant := ⟨fun a b => a.nanoseconds < b.nanoseconds⟩
instance (a b : Instant) : Decidable (a ≤ b) :=
  inferInstanceAs (Decidable (a.nanoseconds ≤ b.nanoseconds))
instance (a b : Instant) : Decidable (a < b) :=
  inferInstanceAs (Decidable (a.nanoseconds < b.nanoseconds))

/-- The instant a duration later. -/
def after (start : Instant) (d : Duration) : Instant := ⟨start.nanoseconds + d.nanoseconds⟩

/-- The time from one instant to another one, empty if the second is the earlier. -/
def since (now start : Instant) : Duration := ⟨now.nanoseconds - start.nanoseconds⟩

end Instant

end GameLibrary
