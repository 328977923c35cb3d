import GameLibrary.Proofs.Json.Numbers

/-!
# Brief numbers are read exactly

The reader rounds twice: the digits of a literal, and then their product or quotient with a power of
ten. Where neither the digits nor the power of ten need rounding (`Literal.Brief`), it rounds once
only, and the literal denotes the double to which its value rounds (`size_of_brief`). The value of
the literal of a double is its shortest decimal, which rounds to the double. So a double is read
from its own literal as itself if that is brief (`double_double_literal`).
-/

namespace GameLibrary.Json

open Number (Binary64 Decimal)
open Text (decimalDigits)

/-- The power of ten that is written. -/
def Literal.exponent (l : Literal) : Int :=
  match l.power with
  | none => 0
  | some (negative, digits) => if negative then -valueOfDigits digits else valueOfDigits digits

/-- The absolute value of what is written. -/
def Literal.value (l : Literal) : ℚ :=
  valueOfDigits (l.whole ++ l.fraction) * 10 ^ (l.exponent - l.fraction.length)

/-- The digits have fifty-three bits at most, and the power of ten that is applied to them is a
double. -/
def Literal.Brief (l : Literal) : Prop :=
  l.significand.value < 2 ^ 53 ∧ (l.significand.scale + l.exponent).natAbs ≤ 22

instance (l : Literal) : Decidable l.Brief := inferInstanceAs (Decidable (_ ∧ _))

variable {l : Literal} {x : Binary64} {n : Nat} {power : Int} {digits : List Nat}

section Arithmetic

/-- The powers of ten up to the twenty-second one are doubles. -/
theorem of_nat_of_ten {k : Nat} (hk : k ≤ 22) :
    (Binary64.ofNat (10 ^ k)).isFinite ∧ (Binary64.ofNat (10 ^ k)).size = 10 ^ k := by
  have hfinite : (Binary64.ofNat (10 ^ k)).isFinite :=
    Binary64.is_finite_of_nat (Nat.pow_le_pow_right (by decide) hk) (by decide +kernel)
  refine ⟨hfinite, ?_⟩
  have hfive : 5 ^ k < 2 ^ 53 :=
    (Nat.pow_le_pow_right (by decide) hk).trans_lt (show 5 ^ 22 < 2 ^ 53 by decide)
  have hten : 10 ^ k = 5 ^ k * 2 ^ k := Nat.mul_pow 5 2 k
  rw [hten] at hfinite ⊢
  rw [Binary64.size_of_nat hfive hfinite]
  push_cast
  rw [← mul_pow]
  norm_num

/-- Where no digits and no power of ten need rounding, they are rounded once. -/
theorem scale_by_ten_of_rounds (hx : x.isFinite) (hzero : x.isZero = false) (hn : n < 2 ^ 53)
    (hpower : power.natAbs ≤ 22) (h : x.Rounds (n * 10 ^ power)) :
    scaleByTen (.ofNat n) power = some (.ofMagnitude false x.magnitude) := by
  obtain ⟨hfinite, hsize⟩ := Binary64.of_nat_of_short hn
  obtain ⟨hfiniteTen, hsizeTen⟩ := of_nat_of_ten hpower
  have hpositive : ∀ m, (Binary64.ofNat m).negative = false :=
    fun m => Binary64.negative_of_ratio false m 1
  -- The one rounding that is left.
  have hround : ∀ {num den : Nat}, 0 < den → (num : ℚ) / den = n * 10 ^ power →
      Binary64.ofRatio
        ((Binary64.ofNat n).negative != (Binary64.ofNat (10 ^ power.natAbs)).negative) num den =
          .ofMagnitude false x.magnitude := by
    intro num den hden hratio
    rw [hpositive, hpositive]
    exact Binary64.of_ratio_of_rounds false hx hzero hden (hratio ▸ h)
  have hmagnitude : (Binary64.ofMagnitude false x.magnitude).magnitude = x.magnitude :=
    Binary64.magnitude_of_magnitude (Nat.mod_lt _ (by decide))
  unfold scaleByTen
  simp only [Nat.pow_eq]
  split
  · rename_i hpos
    have habs : power.toNat = power.natAbs := by omega
    obtain ⟨num, den, hden, hproduct, hratio⟩ := Binary64.mul_eq hfinite hfiniteTen
    rw [hsize, hsizeTen] at hratio
    have hten : (10 : ℚ) ^ power = 10 ^ power.natAbs := by
      rw [← zpow_natCast, Int.natAbs_of_nonneg hpos]
    have hfinite' : (Binary64.ofMagnitude false x.magnitude).isInfinite = false := by
      rw [Binary64.isInfinite, hmagnitude]
      exact (Binary64.number_of_finite hx).2
    rw [if_pos (by unfold greatestPower; omega), habs, hproduct, hround hden (hten ▸ hratio),
      hfinite']
    rfl
  · rename_i hneg
    have hzeroTen : (Binary64.ofNat (10 ^ power.natAbs)).isZero = false := by
      refine decide_eq_false fun hmagnitude => ?_
      rw [Binary64.size_of_magnitude_zero hmagnitude] at hsizeTen
      exact absurd hsizeTen (by positivity)
    obtain ⟨num, den, hden, hquotient, hratio⟩ :=
      Binary64.div_eq hfinite hfiniteTen hzeroTen
    rw [hsize, hsizeTen] at hratio
    have hten : (n : ℚ) / 10 ^ power.natAbs = n * 10 ^ power := by
      rw [div_eq_mul_inv, ← zpow_natCast, ← zpow_neg]
      congr 2
      omega
    rw [if_pos (by unfold greatestPower; omega), hquotient, hround hden (hratio.trans hten)]

end Arithmetic

section Reading

theorem value_of_digits_append (digits more : List Nat) :
    valueOfDigits (digits ++ more) = appendDigits (valueOfDigits digits) more :=
  List.foldl_append

/-- Zeros behind a number. -/
theorem append_digits_zeros (n k : Nat) : appendDigits n (List.replicate k 0) = n * 10 ^ k := by
  induction k generalizing n with
  | zero => simp [appendDigits]
  | succ k ih =>
      rw [List.replicate_succ, Nat.pow_succ', ← Nat.mul_assoc]
      exact ih (n * 10)

/-- The digits before the point are all read, or there are too many. -/
theorem read_whole_cases (hdigits : ∀ d ∈ digits, d < 10) (s : Significand) :
    s.readWhole digits = ⟨appendDigits s.value digits, s.scale⟩ ∨
      2 ^ 53 ≤ (s.readWhole digits).value := by
  induction digits generalizing s with
  | nil => exact .inl rfl
  | cons d rest ih =>
      unfold Significand.readWhole
      split
      · exact ih (fun d hmem => hdigits d (List.mem_cons_of_mem _ hmem)) _
      · rename_i hfits
        have hd := hdigits d List.mem_cons_self
        simp only [Significand.fits, decide_eq_true_eq] at hfits
        right
        dsimp only
        omega

/-- The digits behind the point are all read, or there are too many. -/
theorem read_decimals_cases (hdigits : ∀ d ∈ digits, d < 10) (s : Significand) :
    s.readDecimals digits = ⟨appendDigits s.value digits, s.scale - digits.length⟩ ∨
      2 ^ 53 ≤ (s.readDecimals digits).value := by
  induction digits generalizing s with
  | nil =>
      left
      simp [Significand.readDecimals, appendDigits]
  | cons d rest ih =>
      unfold Significand.readDecimals
      split
      · rcases ih (fun d hmem => hdigits d (List.mem_cons_of_mem _ hmem))
          ⟨s.value * 10 + d, s.scale - 1⟩ with heq | hlarge
        · left
          rw [heq, List.length_cons, Nat.cast_succ, Int.sub_sub, Int.add_comm 1]
          rfl
        · exact .inr hlarge
      · rename_i hfits
        have hd := hdigits d List.mem_cons_self
        simp only [Significand.fits, decide_eq_true_eq] at hfits
        right
        omega

/-- All digits of a brief literal are read. -/
theorem significand_of_brief (hwell : l.WellFormed) (h : l.Brief) :
    l.significand = ⟨valueOfDigits (l.whole ++ l.fraction), -l.fraction.length⟩ := by
  have hsmall := h.1
  unfold Literal.significand at hsmall ⊢
  rcases read_decimals_cases hwell.fraction (Significand.readWhole ⟨0, 0⟩ l.whole) with heq | hlarge
  · rcases read_whole_cases hwell.whole.digit ⟨0, 0⟩ with hwhole | hlarge
    · rw [heq, hwhole, Int.zero_sub, value_of_digits_append]
      rfl
    · have hmore := (read_decimals_read (Significand.readWhole ⟨0, 0⟩ l.whole) l.fraction).value
      omega
  · omega

/-- A brief literal denotes the double to which its value rounds. -/
theorem size_of_brief (hwell : l.WellFormed) (h : l.Brief)
    (hpower : ∀ {negative digits}, l.power = some (negative, digits) →
      valueOfDigits digits < 0x80000000)
    (hx : x.isFinite) (hzero : x.isZero = false) (hrounds : x.Rounds l.value) :
    l.size? = some (.ofMagnitude false x.magnitude) := by
  have hsignificand := significand_of_brief hwell h
  obtain ⟨hsmall, hscale⟩ := h
  have hread : scaleByTen (.ofNat l.significand.value) (l.significand.scale + l.exponent) =
      some (.ofMagnitude false x.magnitude) := by
    refine scale_by_ten_of_rounds hx hzero hsmall hscale ?_
    unfold Literal.value at hrounds
    rw [hsignificand, Int.add_comm, ← sub_eq_add_neg]
    exact hrounds
  unfold Literal.size?
  unfold Literal.exponent at hread
  cases hwritten : l.power with
  | none =>
      rw [hwritten, Int.add_zero] at hread
      exact hread
  | some written =>
      obtain ⟨negative, digits⟩ := written
      rw [hwritten] at hread
      dsimp only at hread ⊢
      rw [if_pos (hpower hwritten), ← hread]
      cases negative <;> rfl

end Reading

section Doubles

variable {point : Int} {negative : Bool}

/-- The value of digits in positional notation. -/
theorem value_positional (digits : List Nat) (negative : Bool) (exponent : Int) :
    (positionalLiteral negative digits (digits.length + exponent)).value =
      Decimal.value ⟨valueOfDigits digits, exponent⟩ := by
  unfold positionalLiteral
  split
  · rename_i hpos
    obtain ⟨k, rfl⟩ := Int.eq_ofNat_of_zero_le (show 0 ≤ exponent by omega)
    have hzeros : ((digits.length : Int) + k - digits.length).toNat = k := by omega
    have hvalue : valueOfDigits (digits ++ List.replicate k 0 ++ [0]) =
        valueOfDigits digits * 10 ^ k * 10 := by
      rw [value_of_digits_append, value_of_digits_append, append_digits_zeros]
      rfl
    have hscale : (0 : Int) - ([0] : List Nat).length = -1 := rfl
    unfold Literal.value Literal.exponent Decimal.value
    dsimp only
    rw [hzeros, hvalue, hscale, zpow_neg_one, zpow_natCast]
    push_cast
    exact mul_inv_cancel_right₀ (by norm_num) _
  · split
    · rename_i hlong hpoint
      unfold Literal.value Literal.exponent Decimal.value
      dsimp only
      rw [List.take_append_drop, List.length_drop]
      congr 2
      omega
    · rename_i hlong hpoint
      have hvalue : valueOfDigits ([0] ++ (List.replicate (-(digits.length + exponent)).toNat 0 ++
          digits)) = valueOfDigits digits := by
        rw [← List.append_assoc, value_of_digits_append, value_of_digits_append, append_digits_zeros]
        exact congrArg (appendDigits · digits) (Nat.zero_mul _)
      unfold Literal.value Literal.exponent Decimal.value
      dsimp only
      rw [hvalue, List.length_append, List.length_replicate]
      congr 2
      omega

theorem exponent_scientific (negative : Bool) (digits : List Nat) (point : Int) :
    (scientificLiteral negative digits point).exponent = point - 1 := by
  unfold scientificLiteral Literal.exponent
  dsimp only
  rw [Text.value_decimal_digits]
  split <;> rename_i hneg <;> rw [decide_eq_true_eq] at hneg <;> omega

/-- The value of digits in scientific notation. -/
theorem value_scientific (hdigits : digits ≠ []) (negative : Bool) (exponent : Int) :
    (scientificLiteral negative digits (digits.length + exponent)).value =
      Decimal.value ⟨valueOfDigits digits, exponent⟩ := by
  have hlength := List.length_pos_iff.2 hdigits
  unfold Literal.value
  rw [exponent_scientific]
  unfold scientificLiteral Decimal.value
  dsimp only
  rw [List.take_append_drop, List.length_drop]
  congr 2
  omega

/-- What is written of a double is its shortest decimal. -/
theorem value_double_literal (hx : x.isZero = false) :
    (doubleLiteral x).value = (x.shortest .toEven).value := by
  have hvalue := Text.value_decimal_digits (x.shortest .toEven).digits
  unfold doubleLiteral
  rw [if_neg (by simp [hx])]
  dsimp only
  split
  · rw [value_positional, hvalue]
  · rw [value_scientific (Text.decimal_digits_ne_nil _), hvalue]

/-- A double is not written as an integer. -/
theorem integer_double_literal (x : Binary64) : (doubleLiteral x).integer? = none := by
  have hnone : ∀ {l : Literal}, l.fraction ≠ [] ∨ l.power ≠ none → l.integer? = none :=
    fun h => if_pos h
  refine hnone ?_
  unfold doubleLiteral
  split
  · exact .inl (List.cons_ne_nil _ _)
  · dsimp only
    split
    · exact .inl (fraction_positional (Text.decimal_digits_ne_nil _))
    · exact .inr (Option.some_ne_none _)

theorem negative_double_literal (x : Binary64) : (doubleLiteral x).negative = x.negative := by
  unfold doubleLiteral positionalLiteral scientificLiteral
  dsimp only
  split_ifs <;> rfl

/-- A double with a power of ten is written in scientific notation. -/
theorem double_literal_of_power (h : (doubleLiteral x).power ≠ none) :
    doubleLiteral x = scientificLiteral x.negative (decimalDigits (x.shortest .toEven).digits)
      ((decimalDigits (x.shortest .toEven).digits).length + (x.shortest .toEven).exponent) := by
  unfold doubleLiteral at *
  dsimp only at *
  split
  · rename_i hzero
    rw [if_pos hzero] at h
    exact absurd rfl h
  · rename_i hzero
    rw [if_neg hzero] at h
    split
    · rename_i hpoint
      rw [if_pos hpoint] at h
      exact absurd power_positional h
    · rfl

/-- The power of ten of a brief literal is small. -/
theorem power_double_literal (h : (doubleLiteral x).Brief) {negative : Bool} {digits : List Nat}
    (hpower : (doubleLiteral x).power = some (negative, digits)) :
    valueOfDigits digits < 0x80000000 := by
  have hsignificand := significand_of_brief (well_formed_double_literal x) h
  obtain ⟨hsmall, hscale⟩ := h
  rw [hsignificand] at hsmall hscale
  rw [double_literal_of_power (by rw [hpower]; exact Option.some_ne_none _)] at *
  rw [exponent_scientific] at hscale
  generalize (x.shortest .toEven).digits = n at *
  generalize (x.shortest .toEven).exponent = exponent at *
  unfold scientificLiteral at *
  dsimp only at *
  obtain ⟨-, rfl⟩ := Prod.mk.inj (Option.some.inj hpower)
  rw [List.take_append_drop, Text.value_decimal_digits] at hsmall
  have hlength : (decimalDigits n).length ≤ 16 :=
    (Text.length_decimal_digits_le (by decide)).2 (hsmall.trans (by decide))
  rw [List.length_drop] at hscale
  rw [Text.value_decimal_digits]
  omega

/-- A double is read from its own literal as itself if that is brief. -/
theorem double_double_literal (hx : x.isFinite) (h : (doubleLiteral x).Brief) :
    (doubleLiteral x).double? = some x := by
  by_cases hzero : x.isZero
  · have hx' := Binary64.of_magnitude_magnitude x
    rw [of_decide_eq_true hzero] at hx'
    rw [← hx']
    cases x.negative <;> decide +kernel
  · have hzero' : x.isZero = false := Bool.eq_false_iff.2 hzero
    have hrounds : x.Rounds (doubleLiteral x).value := by
      rw [value_double_literal hzero']
      exact Binary64.shortest_rounds .toEven hzero'
    unfold Literal.double?
    rw [integer_double_literal, size_of_brief (well_formed_double_literal x) h (power_double_literal h)
      hx hzero' hrounds, negative_double_literal]
    rw [Option.map_some, Option.some.injEq]
    have hlt : x.magnitude < Binary64.signBit := Nat.mod_lt _ (by decide)
    have hneg : (Binary64.ofMagnitude false x.magnitude).neg = .ofMagnitude true x.magnitude := by
      rw [Binary64.neg, Binary64.negative_of_magnitude hlt, Binary64.magnitude_of_magnitude hlt]
      rfl
    have hx' := Binary64.of_magnitude_magnitude x
    split
    · rename_i hnegative
      rw [hnegative] at hx'
      exact hneg.trans hx'
    · rename_i hnegative
      rw [Bool.eq_false_iff.2 hnegative] at hx'
      exact hx'

end Doubles

end GameLibrary.Json
