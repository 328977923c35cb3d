import GameLibrary.Number.Binary64

/-!
# The shortest decimal that reads back

`Binary64.shortest` gives the decimal with the fewest digits among those that round to a given
finite positive magnitude, and of these the nearest one. The reals that round to a double form an
interval around it whose ends belong to it exactly when the significand is even. For one digit, two
digits and so on, the two neighbours of the value on that decimal grid are tested against the
interval in exact arithmetic; the first grid with a hit decides.
-/

namespace GameLibrary.Number

/-- The decimal `digits · 10 ^ exponent`. -/
structure Decimal where
  digits : Nat
  exponent : Int
deriving DecidableEq, Repr

namespace Decimal

/-- The same value without trailing zeros in its digits; zero is left alone. -/
def stripZeros (fuel : Nat) (d : Decimal) : Decimal :=
  match fuel with
  | 0 => d
  | fuel + 1 =>
      if d.digits = 0 then d
      else if d.digits % 10 = 0 then stripZeros fuel ⟨d.digits / 10, d.exponent + 1⟩
      else d

end Decimal

/-- Which neighbour is taken when a value lies exactly between two decimals of one grid. -/
inductive Tie where
  | toEven
  | up
deriving DecidableEq

namespace Binary64

/-- The decimal logarithm of the ratio `num / den`, rounded down. The estimate from the binary
logarithm is off by at most one and is corrected by comparison. -/
def log10Ratio (num den : Nat) : Int :=
  let guess := log2Ratio num den * 30103 / 100000
  let reaches (e : Int) : Bool :=
    if 0 ≤ e then den * Nat.pow 10 e.toNat ≤ num else den ≤ num * Nat.pow 10 (-e).toNat
  if !reaches guess then guess - 1
  else if reaches (guess + 1) then guess + 1
  else guess

/-- The neighbour of the value on the grid `10 ^ exponent` that rounds to the double, if there is
one. The value, its lower and its upper bound are `value`, `lower` and `upper` over `den`. -/
def gridHit (tie : Tie) (closed : Bool) (value lower upper den : Nat) (exponent : Int) :
    Option Decimal :=
  let (step, scale) : Nat × Nat :=
    if 0 ≤ exponent then (den * Nat.pow 10 exponent.toNat, 1)
    else (den, Nat.pow 10 (-exponent).toNat)
  let floor := value * scale / step
  let low := floor * step
  let high := (floor + 1) * step
  let lowHit := if closed then lower * scale ≤ low else lower * scale < low
  let highHit := if closed then high ≤ upper * scale else high < upper * scale
  let below := value * scale - low
  let above := high - value * scale
  let takeLow :=
    if lowHit && highHit then
      below < above || (below = above && tie = .toEven && floor % 2 = 0)
    else lowHit
  if takeLow then some ⟨floor, exponent⟩
  else if highHit then some ⟨floor + 1, exponent⟩
  else none

/-- The first hit among the grids with one digit more each time, starting at `exponent`. -/
def firstHit (tie : Tie) (closed : Bool) (value lower upper den : Nat) :
    Nat → Int → Option Decimal
  | 0, _ => none
  | grids + 1, exponent =>
      match gridHit tie closed value lower upper den exponent with
      | some d => some d
      | none => firstHit tie closed value lower upper den grids (exponent - 1)

/-- The shortest decimal that rounds to the absolute value of a finite double. Seventeen digits
always suffice, and zero has no digits to choose. -/
def shortest (tie : Tie) (x : Binary64) : Decimal :=
  if x.isZero then ⟨0, 0⟩
  else
    let m := x.significand
    let narrow : Bool := m = hiddenBit && -1074 < x.exponent
    let (unit, den) := scaleRatio 1 1 (2 - x.exponent)
    let value := 4 * m * unit
    let lower := (4 * m - if narrow then 1 else 2) * unit
    let upper := (4 * m + 2) * unit
    let hit := firstHit tie (m % 2 = 0) value lower upper den 17 (log10Ratio value den)
    (hit.getD ⟨0, 0⟩).stripZeros 20

end Binary64

/-! ## Decimal notation -/

/-- How a finite double is written in decimal: how ties between shortest decimals go, the range of
positions of the decimal point that is written positionally, and what marks a whole number. -/
structure DecimalFormat where
  /-- Which shortest decimal an exact tie takes. -/
  tie : Tie
  /-- The open lower and closed upper end of the point positions written without an exponent;
  everything is positional when absent. -/
  positional : Option (Int × Int)
  /-- What follows the last digit of a whole number in positional notation. -/
  wholeMark : String

namespace DecimalFormat

/-- Digits that stand entirely before, around or after the decimal point; `point` counts the
digits before it. -/
def positionalText (fmt : DecimalFormat) (digits : List Char) (point : Int) : String :=
  let count : Int := digits.length
  if count ≤ point then
    String.ofList (digits ++ List.replicate (point - count).toNat '0') ++ fmt.wholeMark
  else if 0 < point then
    String.ofList (digits.take point.toNat ++ '.' :: digits.drop point.toNat)
  else
    String.ofList ('0' :: '.' :: (List.replicate (-point).toNat '0' ++ digits))

/-- One digit, the others after a point, and a signed power of ten. -/
def scientificText (digits : List Char) (point : Int) : String :=
  let power := point - 1
  let mantissa :=
    match digits with
    | [] => []
    | [d] => [d]
    | d :: more => d :: '.' :: more
  let sign := if power < 0 then "e-" else "e+"
  String.ofList mantissa ++ sign ++ toString power.natAbs

/-- The text of a finite double. -/
def render (fmt : DecimalFormat) (x : Binary64) : String :=
  let sign := if x.negative then "-" else ""
  if x.isZero then sign ++ "0" ++ fmt.wholeMark
  else
    let d := x.shortest fmt.tie
    let digits := (toString d.digits).toList
    let point := digits.length + d.exponent
    let positional :=
      match fmt.positional with
      | none => true
      | some (low, high) => low < point && point ≤ high
    sign ++ if positional then fmt.positionalText digits point else scientificText digits point

end DecimalFormat

end GameLibrary.Number
