import GameLibrary.Json.Token
import GameLibrary.Number.Binary64

/-!
# The values of JSON numbers

A literal without point and power of ten is an integer if it fits in sixty-four bits, signed when a
minus sign is written; minus zero is a double. Every other literal is a double, read in two rounded
steps: the leading digits that fit in sixty-four bits are rounded to a double, which is then
multiplied or divided by a power of ten. The result is therefore not always the double nearest to
what is written. A literal beyond the largest double has no value.
-/

namespace GameLibrary.Json

open Number (Binary64)

/-- The number that decimal digits denote. -/
def valueOfDigits (digits : List Nat) : Nat := digits.foldl (fun n d => n * 10 + d) 0

/-- Digits read into sixty-four bits with the power of ten that is still to be applied. -/
structure Significand where
  value : Nat
  scale : Int

namespace Significand

/-- Whether one more digit still fits. -/
def fits (s : Significand) (digit : Nat) : Bool := s.value * 10 + digit < 0x10000000000000000

/-- Digits before the point: from the first that does not fit on, each only raises the scale. -/
def readWhole (s : Significand) : List Nat → Significand
  | [] => s
  | d :: rest =>
      if s.fits d then readWhole ⟨s.value * 10 + d, s.scale⟩ rest
      else ⟨s.value, s.scale + rest.length + 1⟩

/-- Digits behind the point: from the first that does not fit on, they are ignored. -/
def readDecimals (s : Significand) : List Nat → Significand
  | [] => s
  | d :: rest =>
      if s.fits d then readDecimals ⟨s.value * 10 + d, s.scale - 1⟩ rest else s

end Significand

/-- The greatest power of ten that is a double. -/
def greatestPower : Nat := 308

/-- A double times a power of ten, or nothing if the result is too large. A power below the smallest
one is applied in several divisions, which end when nothing is left. -/
def scaleByTen (x : Binary64) (power : Int) : Option Binary64 :=
  if 0 ≤ power then
    if power ≤ greatestPower then
      let product := x.mul (.ofNat (Nat.pow 10 power.toNat))
      if product.isInfinite then none else some product
    else if x.isZero then some x
    else none
  else if -(greatestPower : Int) ≤ power then some (x.div (.ofNat (Nat.pow 10 power.natAbs)))
  else if x.isZero then some x
  else scaleByTen (x.div (.ofNat (Nat.pow 10 greatestPower))) (power + greatestPower)
termination_by (-power).toNat
decreasing_by simp only [greatestPower] at *; omega

namespace Literal

/-- The digits of the literal, read into sixty-four bits. -/
def significand (l : Literal) : Significand :=
  (Significand.readWhole ⟨0, 0⟩ l.whole).readDecimals l.fraction

/-- The integer that a literal without point and power of ten denotes. -/
def integer? (l : Literal) : Option Int :=
  if l.fraction ≠ [] ∨ l.power ≠ none then none
  else
    let n := valueOfDigits l.whole
    if l.negative then if 0 < n ∧ n ≤ 0x8000000000000000 then some (-n) else none
    else if n < 0x10000000000000000 then some n
    else none

/-- The absolute value of a literal that is no integer. A power of ten of more than thirty-one bits
makes everything zero or too large. -/
def size? (l : Literal) : Option Binary64 :=
  let s := l.significand
  match l.power with
  | none => scaleByTen (.ofNat s.value) s.scale
  | some (powerNegative, digits) =>
      let power := valueOfDigits digits
      if power < 0x80000000 then
        scaleByTen (.ofNat s.value) (if powerNegative then s.scale - power else s.scale + power)
      else if s.value ≠ 0 ∧ !powerNegative then none
      else some .zero

/-- The double that the literal denotes. -/
def double? (l : Literal) : Option Binary64 :=
  match l.integer? with
  | some n => some (.ofInt n)
  | none => l.size?.map fun x => if l.negative then x.neg else x

end Literal

end GameLibrary.Json
