import GameLibrary.Proofs.Number.Ordering

/-!
# Fractions of whole numbers

The product with a factor below one is a smaller double, however close to one the factor is
(`magnitude_mul_lt`): what is lost is more than rounding gives back. A whole number that is not
beyond a double is not beyond it before the rounding either (`magnitude_of_nat_le`), so the integer
part of such a fraction of a whole number is less than the number: `truncate_mul_lt`.
-/

namespace GameLibrary.Number.Binary64

variable {x y : Binary64} {n bound : Nat}

/-- A double is its sign and its magnitude. -/
theorem eq_of_magnitude (hsign : x.negative = y.negative) (h : x.magnitude = y.magnitude) :
    x = y := by
  rw [← of_magnitude_magnitude x, hsign, h, of_magnitude_magnitude]

/-- A double lies among the reals that round to it. -/
theorem rounds_size (x : Binary64) : x.Rounds x.size := by
  have hpower : (2 : ℚ) ^ x.exponent = 4 * 2 ^ (x.exponent - 2) := by
    rw [show (4 : ℚ) = 2 ^ (2 : Int) by norm_num, ← zpow_add₀ two_ne_zero]
    congr 1
    ring
  have hstep : (0 : ℚ) < 2 ^ (x.exponent - 2) := by positivity
  have hquarters : (1 : ℚ) ≤ x.quartersBelow := by exact_mod_cast (quarters_below_le x).1
  refine .inl ⟨?_, ?_⟩
  · unfold lower size
    rw [hpower, ← mul_assoc]
    exact mul_lt_mul_of_pos_right (by linarith) hstep
  · unfold upper size
    rw [hpower, ← mul_assoc]
    exact mul_lt_mul_of_pos_right (by linarith) hstep

/-- A ratio that is a double is rounded to it. -/
theorem magnitude_of_ratio_of_size (negative : Bool) {num den : Nat} (hfinite : x.isFinite)
    (hzero : x.isZero = false) (hden : 0 < den) (hratio : (num : ℚ) / den = x.size) :
    (ofRatio negative num den).magnitude = x.magnitude := by
  rw [of_ratio_of_rounds negative hfinite hzero hden (hratio ▸ rounds_size x)]
  exact magnitude_of_magnitude (Nat.mod_lt _ (by decide))

/-- A whole number that is not larger than a double is not rounded beyond it. -/
theorem magnitude_of_nat_le (hfinite : x.isFinite) (hzero : x.isZero = false)
    (h : (n : ℚ) ≤ x.size) : (ofNat n).magnitude ≤ x.magnitude := by
  obtain ⟨num, den, hden, -, hratio⟩ :=
    of_scaled_eq false x.significand x.exponent (show 0 < 1 from one_pos)
  have hsize : (num : ℚ) / den = x.size := by
    rw [hratio, Nat.cast_one, div_one]
    rfl
  rw [← magnitude_of_ratio_of_size false hfinite hzero hden hsize]
  refine magnitude_of_ratio_mono false false one_pos hden ?_
  rw [hsize, Nat.cast_one, div_one]
  exact h

section Products

/-- A product that is a number has the sign of its factors. -/
theorem negative_mul (h : (x.mul y).isNaN = false) :
    (x.mul y).negative = (x.negative != y.negative) := by
  have hnan : nan.isNaN = true := by decide +kernel
  obtain ⟨num, den, -, hproduct, -⟩ := of_scaled_eq (x.negative != y.negative)
    (x.significand * y.significand) (x.exponent + y.exponent) (show 0 < 1 from one_pos)
  revert h
  unfold mul
  dsimp only
  split
  · intro h
    rw [hnan] at h
    cases h
  · split
    · split
      · intro h
        rw [hnan] at h
        cases h
      · exact fun _ => negative_of_magnitude (by decide)
    · rw [hproduct]
      exact fun _ => negative_of_ratio ..

/-- The greatest double below one. -/
def belowOne : Binary64 := ofMagnitude false ((ofNat 1).magnitude - 1)

theorem size_below_one : belowOne.size = (2 * hiddenBit - 1) / (2 * hiddenBit) := by
  have hsignificand : belowOne.significand = 2 * hiddenBit - 1 := by decide +kernel
  have hexponent : belowOne.exponent = -53 := by decide +kernel
  unfold size
  rw [hsignificand, hexponent]
  norm_num [hiddenBit]

/-- The double below one that is not among the smallest has one unit less on its grid, or twice the
significand less one on the next finer grid. -/
theorem significand_pred (hx : hiddenBit < x.magnitude) (hy : y.magnitude + 1 = x.magnitude) :
    (x.significand = y.significand + 1 ∧ hiddenBit ≤ y.significand ∧ x.exponent = y.exponent) ∨
      (x.significand = hiddenBit ∧ y.significand + 1 = 2 * hiddenBit ∧
        x.exponent = y.exponent + 1) := by
  rcases significand_exponent x with ⟨hxm, hxs, hxe⟩ | ⟨k, hxm, hxl, hxh, hxe⟩ <;>
    rcases significand_exponent y with ⟨hym, hys, hye⟩ | ⟨l, hym, hyl, hyh, hye⟩ <;>
      unfold hiddenBit at * <;> omega

/-- A double times the greatest one below one is rounded to the double before it. -/
theorem rounds_mul_below_one (hx : hiddenBit < x.magnitude) (hy : y.magnitude + 1 = x.magnitude) :
    y.Rounds (x.size * belowOne.size) := by
  have hhidden : (0 : ℚ) < hiddenBit := by norm_num [hiddenBit]
  rcases significand_pred hx hy with ⟨hsignificand, hlow, hexponent⟩ |
    ⟨hsignificand, hlow, hexponent⟩
  · -- More than half a unit is lost, but less than a whole one.
    have hhigh : (y.significand : ℚ) + 1 ≤ 2 * hiddenBit := by
      exact_mod_cast (significand_lt y).1
    have hlow' : (hiddenBit : ℚ) < y.significand + 1 := by exact_mod_cast Nat.lt_succ_of_le hlow
    have hlost : 1 < ((y.significand : ℚ) + 1) / hiddenBit ∧
        ((y.significand : ℚ) + 1) / hiddenBit ≤ 2 :=
      ⟨(one_lt_div hhidden).2 hlow', (div_le_iff₀ hhidden).2 hhigh⟩
    have hpower : (2 : ℚ) ^ y.exponent = 4 * 2 ^ (y.exponent - 2) := by
      rw [zpow_sub₀ two_ne_zero]
      norm_num
      ring
    have hproduct : x.size * belowOne.size =
        (4 * (y.significand + 1) - 2 * ((y.significand + 1) / hiddenBit)) *
          2 ^ (y.exponent - 2) := by
      unfold size at *
      rw [show belowOne.significand * (2 : ℚ) ^ belowOne.exponent = _ from size_below_one,
        hsignificand, hexponent, hpower]
      push_cast
      field_simp
      ring
    have hquarters : (1 : ℚ) ≤ y.quartersBelow := by exact_mod_cast (quarters_below_le y).1
    have hstep : (0 : ℚ) < 2 ^ (y.exponent - 2) := by positivity
    rw [hproduct]
    exact .inl ⟨mul_lt_mul_of_pos_right (by linarith) hstep,
      mul_lt_mul_of_pos_right (by linarith) hstep⟩
  · -- The product is the double before.
    have hlow' : (y.significand : ℚ) + 1 = 2 * hiddenBit := by exact_mod_cast hlow
    have hproduct : x.size * belowOne.size = y.size := by
      rw [size_below_one]
      unfold size
      rw [hsignificand, hexponent, zpow_add_one₀ two_ne_zero, eq_sub_of_add_eq hlow']
      field_simp
    rw [hproduct]
    exact rounds_size y

/-- The product with a factor below one is smaller. -/
theorem magnitude_mul_lt (hfinite : x.isFinite) (hx : hiddenBit < x.magnitude)
    (hy : y.magnitude < (ofNat 1).magnitude) : (x.mul y).magnitude < x.magnitude := by
  have hone : (ofNat 1).magnitude < infinityBits := by decide +kernel
  have hbelow : belowOne.magnitude = (ofNat 1).magnitude - 1 := by decide +kernel
  have hbelowFinite : belowOne.isFinite := by decide +kernel
  have hmono : (x.mul y).magnitude ≤ (x.mul belowOne).magnitude :=
    magnitude_mul_mono le_rfl (by omega) hfinite hbelowFinite
  -- The double before the first factor.
  have hlt := of_decide_eq_true hfinite
  have hsign : x.magnitude < signBit := hlt.trans (by decide)
  have hpred : (ofMagnitude false (x.magnitude - 1)).magnitude = x.magnitude - 1 :=
    magnitude_of_magnitude (by omega)
  have hpredZero : (ofMagnitude false (x.magnitude - 1)).isZero = false := by
    refine decide_eq_false ?_
    rw [hpred]
    unfold hiddenBit at hx
    omega
  have hpredFinite : (ofMagnitude false (x.magnitude - 1)).isFinite := by
    refine decide_eq_true ?_
    rw [hpred]
    omega
  obtain ⟨num, den, hden, hproduct, hratio⟩ := mul_eq hfinite hbelowFinite
  have hrounds := rounds_mul_below_one (y := ofMagnitude false (x.magnitude - 1)) hx
    (by rw [hpred]; omega)
  rw [← hratio] at hrounds
  rw [hproduct, of_ratio_of_rounds _ hpredFinite hpredZero hden hrounds,
    magnitude_of_magnitude (by rw [hpred]; omega), hpred] at hmono
  omega

end Products

section Truncation

/-- The integer part of a finite number is the greatest whole number that is not larger. -/
theorem le_truncate_iff (hfinite : x.isFinite) (hsign : x.negative = false) :
    n ≤ x.truncate bound ↔ n ≤ bound ∧ (n : ℚ) ≤ x.size := by
  obtain ⟨hnan, hinfinite⟩ := number_of_finite hfinite
  obtain ⟨hden, hratio⟩ := scale_ratio_ratio x.significand one_pos (-x.exponent)
  have hsize : (x.significand : ℚ) / (1 : Nat) * 2 ^ (- -x.exponent) = x.size := by
    rw [Nat.cast_one, div_one, neg_neg]
    rfl
  have hden' : (0 : ℚ) < (scaleRatio x.significand 1 (-x.exponent)).2 := by exact_mod_cast hden
  unfold truncate
  simp only [hnan, hsign, hinfinite, Bool.or_self, Bool.false_eq_true, if_false]
  rw [le_min_iff, Nat.le_div_iff_mul_le hden, ← hsize, ← hratio, le_div_iff₀ hden']
  exact and_congr_right fun _ => by exact_mod_cast Iff.rfl

theorem truncate_le (x : Binary64) : x.truncate bound ≤ bound := by
  unfold truncate
  split
  · exact Nat.zero_le _
  · split
    · exact le_rfl
    · exact min_le_left _ _

/-- Negative doubles and NaNs have no integer part. -/
theorem positive_of_truncate (h : 0 < x.truncate bound) : x.isNaN = false ∧ x.negative = false := by
  unfold truncate at h
  split at h
  · exact absurd h (lt_irrefl 0)
  · rename_i hneither
    simpa using hneither

/-- A positive number of sixty-four bits is neither among the smallest doubles nor infinite. -/
theorem magnitude_of_nat_bounds (hn : 0 < n) (hn' : n < 2 ^ 64) :
    hiddenBit < (ofNat n).magnitude ∧ (ofNat n).isFinite := by
  have hone : hiddenBit < (ofNat 1).magnitude := by decide +kernel
  exact ⟨hone.trans_le (magnitude_of_nat_mono (Nat.one_le_of_lt hn)),
    is_finite_of_nat hn'.le (by decide +kernel)⟩

/-- A factor below one whose product with a positive number has an integer part is positive. -/
theorem magnitude_of_lt_one (hsign : x.negative = false) (hy : y.lt (ofNat 1) = true)
    (hproduct : 0 < (x.mul y).truncate bound) : y.magnitude < (ofNat 1).magnitude := by
  obtain ⟨hnan, hnegative⟩ := positive_of_truncate hproduct
  rw [negative_mul hnan, hsign, Bool.false_bne] at hnegative
  have hkey : y.realKey < (ofNat 1).realKey := by
    unfold lt at hy
    rw [Bool.and_eq_true] at hy
    exact of_decide_eq_true hy.2
  have hreal : y.realKey = y.magnitude := by
    unfold realKey
    rw [hnegative]
    rfl
  have hone : (ofNat 1).realKey = (ofNat 1).magnitude := by decide +kernel
  omega

/-- The integer part of a whole number times a factor below one is less than the number. -/
theorem truncate_mul_lt (hn : 0 < n) (hbound : bound < 2 ^ 64) (hy : y.lt (ofNat 1) = true) :
    ((ofNat n).mul y).truncate bound < n := by
  by_contra hle
  rw [not_lt] at hle
  have hpart : 0 < ((ofNat n).mul y).truncate bound := hn.trans_le hle
  obtain ⟨hlow, hfinite⟩ := magnitude_of_nat_bounds hn ((hle.trans (truncate_le _)).trans_lt hbound)
  have hsmall := magnitude_of_lt_one (negative_of_ratio false n 1) hy hpart
  have hlt := magnitude_mul_lt hfinite hlow hsmall
  have hfinite' : ((ofNat n).mul y).isFinite :=
    decide_eq_true (hlt.trans (of_decide_eq_true hfinite))
  have hsize := ((le_truncate_iff hfinite' (positive_of_truncate hpart).2).1 hle).2
  have hzero : ((ofNat n).mul y).isZero = false := by
    refine decide_eq_false fun hmagnitude => ?_
    rw [size_of_magnitude_zero hmagnitude, Nat.cast_nonpos] at hsize
    omega
  exact absurd (magnitude_of_nat_le hfinite' hzero hsize) (not_le.2 hlt)

/-- Only one double equals one. -/
theorem eq_one_of_num_eq (hy : y.numEq (ofNat 1) = true) : y = ofNat 1 := by
  have hkey : y.realKey = (ofNat 1).realKey := by
    unfold numEq at hy
    rw [Bool.and_eq_true] at hy
    exact of_decide_eq_true hy.2
  have hone : (ofNat 1).realKey = (ofNat 1).magnitude ∧ 0 < (ofNat 1).realKey := by decide +kernel
  rcases y.real_key_cases with ⟨-, hreal⟩ | ⟨hsign, hreal⟩
  · omega
  · have hmagnitude : y.magnitude = (ofNat 1).magnitude := by omega
    exact eq_of_magnitude (hsign.trans (negative_of_ratio false 1 1).symm) hmagnitude

/-- A number of fifty-three bits times one is the number. -/
theorem of_nat_mul_one (hn : n < 2 ^ 53) : (ofNat n).mul (ofNat 1) = ofNat n := by
  obtain ⟨hfinite, hsize⟩ := of_nat_of_short hn
  obtain ⟨hone, hsizeOne⟩ := of_nat_of_short (show 1 < 2 ^ 53 by decide)
  obtain ⟨num, den, hden, hproduct, hratio⟩ := mul_eq hfinite hone
  have hsign : ∀ m, (ofNat m).negative = false := fun m => negative_of_ratio false m 1
  rw [hsize, hsizeOne, Nat.cast_one, mul_one] at hratio
  have hn1 : (n : ℚ) / (1 : Nat) = n := by rw [Nat.cast_one, div_one]
  -- The product and the number are the same ratio.
  have hmagnitude : (ofRatio false num den).magnitude = (ofNat n).magnitude :=
    le_antisymm (magnitude_of_ratio_mono false false hden one_pos (hratio.trans hn1.symm).le)
      (magnitude_of_ratio_mono false false one_pos hden (hn1.trans hratio.symm).le)
  rw [hproduct, hsign, hsign]
  exact eq_of_magnitude ((negative_of_ratio ..).trans (hsign n).symm) hmagnitude

/-- The integer part of a number of fifty-three bits times one is the number. -/
theorem truncate_mul_one (hn : n < 2 ^ 53) (hbound : n ≤ bound) (hy : y.numEq (ofNat 1) = true) :
    ((ofNat n).mul y).truncate bound = n := by
  obtain ⟨hfinite, hsize⟩ := of_nat_of_short hn
  rw [eq_one_of_num_eq hy, of_nat_mul_one hn]
  refine eq_of_forall_le_iff fun k => ?_
  rw [le_truncate_iff hfinite (negative_of_ratio false n 1), hsize, Nat.cast_le]
  exact and_iff_right_of_imp fun hk => hk.trans hbound

end Truncation

end GameLibrary.Number.Binary64
