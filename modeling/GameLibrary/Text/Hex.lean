/-!
# Hexadecimal digits

Numbers and bytes in sixteen digits. What is written is in lowercase (`is_hex_digit_hex_digit`); both
cases are read.
-/

namespace GameLibrary.Text

/-- The sixteen digits in their lowercase form; larger numbers have no digit of their own and give
the last one. -/
def hexDigit (n : Nat) : Char :=
  if n < 10 then Char.ofNat ('0'.toNat + n) else Char.ofNat ('a'.toNat + (min n 15 - 10))

/-- Whether the character is one of the lowercase hexadecimal digits. -/
def isHexDigit (c : Char) : Bool := ('0' ≤ c && c ≤ '9') || ('a' ≤ c && c ≤ 'f')

/-- The value of a hexadecimal digit of either case. -/
def hexValue? (c : Char) : Option Nat :=
  if '0' ≤ c && c ≤ '9' then some (c.toNat - '0'.toNat)
  else if 'a' ≤ c && c ≤ 'f' then some (c.toNat - 'a'.toNat + 10)
  else if 'A' ≤ c && c ≤ 'F' then some (c.toNat - 'A'.toNat + 10)
  else none

/-- The bytes that pairs of digits stand for, up to the first pair that is none. -/
def bytesOfHex (text : String) : ByteArray :=
  let rec pairs : List Char → List UInt8
    | high :: low :: rest =>
        match hexValue? high, hexValue? low with
        | some h, some l => UInt8.ofNat (h * 16 + l) :: pairs rest
        | _, _ => []
    | _ => []
  ⟨(pairs text.toList).toArray⟩

/-- The lowest digits of a number, as many as the width. -/
def hexDigits (width n : Nat) : List Char :=
  (List.range width).reverse.map fun place => hexDigit (n / Nat.pow 16 place % 16)

/-- The bytes as pairs of digits. -/
def hexOfBytes (bytes : ByteArray) : String :=
  String.ofList (bytes.data.toList.flatMap fun byte => hexDigits 2 byte.toNat)

/-- Every digit produced is a lowercase hexadecimal digit. -/
theorem is_hex_digit_hex_digit (n : Nat) : isHexDigit (hexDigit n) = true := by
  have small : ∀ m : Fin 16, isHexDigit (hexDigit m) = true := by decide
  by_cases h : n < 16
  · exact small ⟨n, h⟩
  · have large : hexDigit n = hexDigit 15 := by
      simp [hexDigit, show ¬ n < 10 by omega, show min n 15 = 15 by omega]
    exact large ▸ small 15

end GameLibrary.Text
