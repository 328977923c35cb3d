/-!
# Natural numbers in decimal

A natural number is written as one or more of the digits `0` to `9`, after a plus sign if need be,
and nothing else.
-/

namespace GameLibrary.Text

/-- The value of a list of decimal digits. -/
def decimalValue (digits : List Char) : Nat :=
  digits.foldl (fun n c => n * 10 + (c.toNat - '0'.toNat)) 0

/-- The characters without a plus sign at the beginning. -/
def withoutPlus : List Char → List Char
  | '+' :: rest => rest
  | chars => chars

/-- The number that a text denotes, if it has at most so many bits. -/
def natural? (bits : Nat) (text : String) : Option Nat :=
  let digits := withoutPlus text.toList
  if digits ≠ [] ∧ digits.all (fun c => '0' ≤ c && c ≤ '9') ∧
      decimalValue digits < Nat.pow 2 bits then
    some (decimalValue digits)
  else none

end GameLibrary.Text
