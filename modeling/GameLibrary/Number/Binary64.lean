/-!
# Double precision numbers by their bits

A double is its 64-bit pattern. Comparison, rounding and the four operations that the library
needs are defined on the pattern in exact integer arithmetic, so every one of them can be computed
by the kernel and reasoned about: a finite double is `significand · 2 ^ exponent`, an operation
forms the exact quotient of two naturals, and `ofRatio` rounds that quotient to the nearest double,
an exact tie going to the even pattern.
-/

namespace GameLibrary.Number

/-- A double, identified with its bit pattern: signed zeros and all NaNs are told apart. -/
structure Binary64 where
  bits : UInt64
deriving DecidableEq, Inhabited

namespace Binary64

/-- The value of the sign bit. -/
def signBit : Nat := 0x8000000000000000

/-- The value of the bit above the fifty-two of a significand that a pattern shows. -/
def hiddenBit : Nat := 0x10000000000000

/-- The pattern of positive infinity, the least magnitude that is not finite. -/
def infinityBits : Nat := 0x7ff0000000000000

/-- The sign bit. -/
def negative (x : Binary64) : Bool := signBit ≤ x.bits.toNat

/-- The pattern without its sign bit; on numbers it grows with the absolute value. -/
def magnitude (x : Binary64) : Nat := x.bits.toNat % signBit

/-- The double with this sign and this magnitude pattern. -/
def ofMagnitude (negative : Bool) (magnitude : Nat) : Binary64 :=
  ⟨UInt64.ofNat (magnitude + if negative then signBit else 0)⟩

/-- Whether the pattern denotes no number at all. -/
def isNaN (x : Binary64) : Bool := infinityBits < x.magnitude

/-- Whether the pattern denotes one of the two infinities. -/
def isInfinite (x : Binary64) : Bool := x.magnitude = infinityBits

/-- Whether the pattern denotes a real number. -/
def isFinite (x : Binary64) : Bool := x.magnitude < infinityBits

/-- Whether the pattern is one of the two zeros. -/
def isZero (x : Binary64) : Bool := x.magnitude = 0

/-- Positive zero. -/
def zero : Binary64 := ⟨0⟩

/-- The quiet NaN that an undefined operation yields. -/
def nan : Binary64 := ofMagnitude false (infinityBits + 0x8000000000000)

/-- The infinity of the given sign. -/
def infinity (negative : Bool) : Binary64 := ofMagnitude negative infinityBits

/-- The double with the opposite sign bit. -/
def neg (x : Binary64) : Binary64 := ofMagnitude (!x.negative) x.magnitude

/-- The integer significand of a finite double, hidden bit included. -/
def significand (x : Binary64) : Nat :=
  if x.magnitude < hiddenBit then x.magnitude else x.magnitude % hiddenBit + hiddenBit

/-- The power of two that scales the significand of a finite double. -/
def exponent (x : Binary64) : Int :=
  if x.magnitude < hiddenBit then -1074 else (x.magnitude / hiddenBit : Nat) - 1075

/-! ## Order -/

/-- The position of a pattern in the total order of all doubles: negative patterns before positive
ones, `-0.0` before `0.0`, and the NaNs outside the infinities on the side of their sign. -/
def totalKey (x : Binary64) : Int :=
  if x.negative then -(x.magnitude : Int) - 1 else x.magnitude

/-- The position of a number on the real line; both zeros have position `0`. -/
def realKey (x : Binary64) : Int :=
  if x.negative then -(x.magnitude : Int) else x.magnitude

/-- Numeric `<`, false as soon as one side is a NaN. -/
def lt (x y : Binary64) : Bool := !x.isNaN && !y.isNaN && x.realKey < y.realKey

/-- Numeric `≤`, false as soon as one side is a NaN. -/
def le (x y : Binary64) : Bool := !x.isNaN && !y.isNaN && x.realKey ≤ y.realKey

/-- Numeric equality: the zeros are equal and a NaN equals nothing. -/
def numEq (x y : Binary64) : Bool := !x.isNaN && !y.isNaN && x.realKey = y.realKey

/-! ## Rounding -/

/-- The ratio `num / den` scaled by `2 ^ (-exponent)`, as numerator and denominator. -/
def scaleRatio (num den : Nat) (exponent : Int) : Nat × Nat :=
  if 0 ≤ exponent then (num, den * Nat.pow 2 exponent.toNat)
  else (num * Nat.pow 2 (-exponent).toNat, den)

/-- The nearest natural number to `num / den`; an exact half goes to the even neighbour. -/
def roundHalfEven (num den : Nat) : Nat :=
  let floor := num / den
  let twice := 2 * (num % den)
  if twice < den then floor
  else if den < twice then floor + 1
  else floor + floor % 2

/-- The binary logarithm of the ratio `num / den`, rounded down. -/
def log2Ratio (num den : Nat) : Int :=
  let guess : Int := (num.log2 : Int) - den.log2
  let (scaledNum, scaledDen) := scaleRatio num den guess
  if scaledNum < scaledDen then guess - 1 else guess

/-- The double nearest to `num / den` (`den` positive), with the given sign. A ratio beyond the
largest finite double becomes an infinity. Adding the rounded significand to the shifted exponent
gives the pattern in one sum, so a carry out of the significand lands in the exponent. -/
def ofRatio (negative : Bool) (num den : Nat) : Binary64 :=
  if num = 0 then ofMagnitude negative 0
  else
    let exponent := max (-1074) (log2Ratio num den - 52)
    let (scaledNum, scaledDen) := scaleRatio num den exponent
    let pattern := (exponent + 1074).toNat * hiddenBit + roundHalfEven scaledNum scaledDen
    ofMagnitude negative (min pattern infinityBits)

/-- The double nearest to a natural number. -/
def ofNat (n : Nat) : Binary64 := ofRatio false n 1

/-- The double nearest to an integer. -/
def ofInt (n : Int) : Binary64 := if n < 0 then ofRatio true n.natAbs 1 else ofNat n.toNat

/-! ## Arithmetic -/

/-- The double nearest to `significand · 2 ^ exponent / den`. -/
def ofScaled (negative : Bool) (significand : Nat) (exponent : Int) (den : Nat) : Binary64 :=
  if 0 ≤ exponent then ofRatio negative (significand * Nat.pow 2 exponent.toNat) den
  else ofRatio negative significand (den * Nat.pow 2 (-exponent).toNat)

/-- The product, rounded to nearest. -/
def mul (x y : Binary64) : Binary64 :=
  let sign := x.negative != y.negative
  if x.isNaN || y.isNaN then nan
  else if x.isInfinite || y.isInfinite then
    if x.isZero || y.isZero then nan else infinity sign
  else ofScaled sign (x.significand * y.significand) (x.exponent + y.exponent) 1

/-- The quotient, rounded to nearest. -/
def div (x y : Binary64) : Binary64 :=
  let sign := x.negative != y.negative
  if x.isNaN || y.isNaN then nan
  else if x.isInfinite then if y.isInfinite then nan else infinity sign
  else if y.isInfinite then ofMagnitude sign 0
  else if y.isZero then if x.isZero then nan else infinity sign
  else ofScaled sign x.significand (x.exponent - y.exponent) y.significand

/-- The exact value of a finite double as a multiple of `2 ^ exponent`, for an exponent that is at
most its own. -/
def scaledTo (x : Binary64) (exponent : Int) : Int :=
  let size : Int := x.significand * Nat.pow 2 (x.exponent - exponent).toNat
  if x.negative then -size else size

/-- The sum, rounded to nearest; an exact cancellation is positive zero. -/
def add (x y : Binary64) : Binary64 :=
  if x.isNaN || y.isNaN then nan
  else if x.isInfinite then
    if y.isInfinite && x.negative != y.negative then nan else x
  else if y.isInfinite then y
  else
    let exponent := min x.exponent y.exponent
    let sum := x.scaledTo exponent + y.scaledTo exponent
    if sum = 0 then ofMagnitude (x.negative && y.negative) 0
    else ofScaled (sum < 0) sum.natAbs exponent 1

/-- The difference, rounded to nearest. -/
def sub (x y : Binary64) : Binary64 := x.add y.neg

/-- The integer part as a natural number no larger than `bound`: negative numbers and NaN give
zero, and everything from `bound` up gives `bound`. -/
def truncate (bound : Nat) (x : Binary64) : Nat :=
  if x.isNaN || x.negative then 0
  else if x.isInfinite then bound
  else
    let (num, den) := scaleRatio x.significand 1 (-x.exponent)
    min bound (num / den)

end Binary64

end GameLibrary.Number
