import GameLibrary.Json.Literal
import Mathlib.Algebra.Group.Nat.Defs

/-!
# Decimal digits

A natural number is written with the digits that denote it: `valueOfDigits` gives it back from
`decimalDigits`, whose first digit is no zero unless there is no other.
-/

namespace GameLibrary.Text

/-- The decimal digits of a number, the highest first. -/
def decimalDigits (n : Nat) : List Nat := (Nat.toDigits 10 n).map fun c => c.toNat - '0'.toNat

/-- The digits as they are written. -/
def digitChars (digits : List Nat) : List Char := digits.map Nat.digitChar

variable {n : Nat}

/-- The last digit is what is left of the number by the others. -/
theorem decimal_digits_eq_if (n : Nat) :
    decimalDigits n = if n < 10 then [n] else decimalDigits (n / 10) ++ [n % 10] := by
  unfold decimalDigits
  rw [Nat.toDigits_eq_if (by decide)]
  split
  · rename_i hsmall
    simp [Nat.toNat_digitChar_of_lt_ten hsmall]
  · rw [List.map_append, List.map_singleton,
      Nat.toNat_digitChar_of_lt_ten (Nat.mod_lt n (by decide))]
    simp

/-- A property of the digits of every number is shown for one digit and for one digit more. -/
theorem decimal_induction {property : Nat → Prop} (hsmall : ∀ n < 10, property n)
    (hmore : ∀ n, 10 ≤ n → property (n / 10) → property n) (n : Nat) : property n := by
  induction n using Nat.strongRecOn with
  | ind n ih =>
      by_cases h : n < 10
      · exact hsmall n h
      · exact hmore n (Nat.le_of_not_lt h) (ih (n / 10) (by omega))

/-- Every digit is below ten. -/
theorem lt_ten_of_mem : ∀ d ∈ decimalDigits n, d < 10 := by
  induction n using decimal_induction with
  | hsmall n hn =>
      rw [decimal_digits_eq_if, if_pos hn]
      simpa using hn
  | hmore n hn ih =>
      rw [decimal_digits_eq_if, if_neg (Nat.not_lt.2 hn)]
      intro d hd
      rcases List.mem_append.1 hd with hd | hd
      · exact ih d hd
      · rw [List.mem_singleton.1 hd]
        exact Nat.mod_lt n (by decide)

/-- A number is written with its digits. -/
theorem digit_chars_decimal_digits (n : Nat) : digitChars (decimalDigits n) = Nat.toDigits 10 n := by
  induction n using decimal_induction with
  | hsmall n hn =>
      rw [decimal_digits_eq_if, if_pos hn, Nat.toDigits_of_lt_base hn]
      rfl
  | hmore n hn ih =>
      rw [decimal_digits_eq_if, if_neg (Nat.not_lt.2 hn), Nat.toDigits_of_base_le (by decide) hn,
        ← ih]
      exact List.map_append

theorem to_list_to_string_nat (n : Nat) : (toString n).toList = digitChars (decimalDigits n) := by
  rw [digit_chars_decimal_digits, Nat.toString_eq_ofList_toDigits, String.toList_ofList]

/-- The digits denote the number. -/
theorem value_decimal_digits (n : Nat) : Json.valueOfDigits (decimalDigits n) = n := by
  induction n using decimal_induction with
  | hsmall n hn =>
      rw [decimal_digits_eq_if, if_pos hn]
      exact Nat.zero_add n
  | hmore n hn ih =>
      rw [decimal_digits_eq_if, if_neg (Nat.not_lt.2 hn)]
      unfold Json.valueOfDigits at ih ⊢
      rw [List.foldl_append, ih]
      exact Nat.div_add_mod' n 10

theorem decimal_digits_ne_nil (n : Nat) : decimalDigits n ≠ [] := by
  rw [decimal_digits_eq_if]
  split <;> simp

/-- The first digit of a number that is not zero is not zero. -/
theorem head_decimal_digits (hn : n ≠ 0) : ∃ d rest, decimalDigits n = d :: rest ∧ d ≠ 0 := by
  induction n using decimal_induction with
  | hsmall n hsmall =>
      rw [decimal_digits_eq_if, if_pos hsmall]
      exact ⟨n, [], rfl, hn⟩
  | hmore n hlarge ih =>
      rw [decimal_digits_eq_if, if_neg (Nat.not_lt.2 hlarge)]
      obtain ⟨d, rest, hdigits, hd⟩ := ih (by omega)
      exact ⟨d, rest ++ [n % 10], by rw [hdigits, List.cons_append], hd⟩

/-- A number below a power of ten has no more digits than its exponent. -/
theorem length_decimal_digits_le {places : Nat} (hplaces : 0 < places) :
    (decimalDigits n).length ≤ places ↔ n < 10 ^ places := by
  unfold decimalDigits
  rw [List.length_map]
  exact Nat.length_toDigits_le_iff (by decide) hplaces

end GameLibrary.Text
