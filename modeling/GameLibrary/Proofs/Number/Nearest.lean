import GameLibrary.Proofs.Number.Rounding

/-!
# The reals that round to a double

The reals that round to a double lie half a step of its grid around it, or a quarter below it where
the grid becomes finer (`Rounds`); the two ends belong to them if the significand is even. Every
ratio among them is rounded to the double (`of_ratio_of_rounds`). A number that has fifty-three bits
before its last zeros is a double itself (`size_of_nat`).
-/

namespace GameLibrary.Number

/-- Between two bounds, which themselves count if the interval is closed. -/
def Within (closed : Bool) (lower upper value : ℚ) : Prop :=
  lower < value ∧ value < upper ∨ closed = true ∧ lower ≤ value ∧ value ≤ upper

namespace Within

variable {closed : Bool} {lower upper lower' upper' value factor : ℚ}

theorem le (h : Within closed lower upper value) : lower ≤ value ∧ value ≤ upper := by
  rcases h with ⟨hlower, hupper⟩ | ⟨-, hlower, hupper⟩
  · exact ⟨hlower.le, hupper.le⟩
  · exact ⟨hlower, hupper⟩

/-- A wider interval has more in it. -/
theorem mono (h : Within closed lower upper value) (hlower : lower' ≤ lower)
    (hupper : upper ≤ upper') : Within closed lower' upper' value := by
  rcases h with ⟨hlow, hhigh⟩ | ⟨hclosed, hlow, hhigh⟩
  · exact .inl ⟨hlower.trans_lt hlow, hhigh.trans_le hupper⟩
  · exact .inr ⟨hclosed, hlower.trans hlow, hhigh.trans hupper⟩

/-- An interval may be scaled. -/
theorem mul (h : Within closed lower upper value) (hfactor : 0 < factor) :
    Within closed (lower * factor) (upper * factor) (value * factor) := by
  rcases h with ⟨hlow, hhigh⟩ | ⟨hclosed, hlow, hhigh⟩
  · exact .inl ⟨mul_lt_mul_of_pos_right hlow hfactor, mul_lt_mul_of_pos_right hhigh hfactor⟩
  · exact .inr ⟨hclosed, mul_le_mul_of_nonneg_right hlow hfactor.le,
      mul_le_mul_of_nonneg_right hhigh hfactor.le⟩

end Within

namespace Binary64

variable {num den n : Nat} {x y : Binary64}

/-- A ratio that is no farther than one half from a natural number is rounded to it. -/
theorem round_half_even_eq (hden : 0 < den)
    (h : Within (n % 2 = 0) (n - 1 / 2) (n + 1 / 2) (num / den)) : roundHalfEven num den = n := by
  have hden' : (0 : ℚ) < den := by exact_mod_cast hden
  have hlow : (n : ℚ) - 1 / 2 ≤ num / den ↔ 2 * (den * n) ≤ 2 * num + den := by
    rw [le_div_iff₀ hden', ← Nat.cast_le (α := ℚ)]
    push_cast
    constructor <;> intro <;> linarith
  have hhigh : (num : ℚ) / den ≤ n + 1 / 2 ↔ 2 * num ≤ 2 * (den * n) + den := by
    rw [div_le_iff₀ hden', ← Nat.cast_le (α := ℚ)]
    push_cast
    constructor <;> intro <;> linarith
  have hlow' : (n : ℚ) - 1 / 2 < num / den ↔ 2 * (den * n) < 2 * num + den := by
    rw [lt_div_iff₀ hden', ← Nat.cast_lt (α := ℚ)]
    push_cast
    constructor <;> intro <;> linarith
  have hhigh' : (num : ℚ) / den < n + 1 / 2 ↔ 2 * num < 2 * (den * n) + den := by
    rw [div_lt_iff₀ hden', ← Nat.cast_lt (α := ℚ)]
    push_cast
    constructor <;> intro <;> linarith
  have hbounds := h.le
  rw [hlow, hhigh] at hbounds
  have htie : n % 2 = 0 ∨ 2 * (den * n) < 2 * num + den ∧ 2 * num < 2 * (den * n) + den := by
    rcases h with ⟨hlower, hupper⟩ | ⟨heven, -⟩
    · exact .inr ⟨hlow'.1 hlower, hhigh'.1 hupper⟩
    · exact .inl (of_decide_eq_true heven)
  have hsplit := Nat.div_add_mod num den
  have hrest := Nat.mod_lt num hden
  -- The floor is the number or the one below it.
  have hfloor : n = num / den ∨ n = num / den + 1 := by
    have hle : num / den ≤ n := by
      by_contra hlt
      have hmul := Nat.mul_le_mul_left den (Nat.succ_le_of_lt (not_le.1 hlt))
      rw [Nat.succ_eq_add_one, Nat.mul_add_one] at hmul
      omega
    have hge : n ≤ num / den + 1 := by
      by_contra hlt
      have hmul := Nat.mul_le_mul_left den (Nat.succ_le_of_lt (not_le.1 hlt))
      rw [Nat.succ_eq_add_one, Nat.mul_add_one, Nat.mul_add_one] at hmul
      omega
    omega
  unfold roundHalfEven
  dsimp only
  generalize num / den = floor at *
  generalize num % den = rest at *
  rcases hfloor with rfl | rfl
  · split_ifs <;> omega
  · rw [Nat.mul_add_one] at hbounds htie
    split_ifs <;> omega

section Rounds

/-- How many quarters of a step below a double round to it: the grid becomes finer below the least
significand. -/
def quartersBelow (x : Binary64) : Nat :=
  if x.significand = hiddenBit ∧ -1074 < x.exponent then 1 else 2

/-- The lower end of what rounds to a double. -/
def lower (x : Binary64) : ℚ := (4 * x.significand - x.quartersBelow) * 2 ^ (x.exponent - 2)

/-- The upper end of what rounds to a double. -/
def upper (x : Binary64) : ℚ := (4 * x.significand + 2) * 2 ^ (x.exponent - 2)

/-- The real rounds to the absolute value of the double. -/
def Rounds (x : Binary64) (value : ℚ) : Prop :=
  Within (x.significand % 2 = 0) x.lower x.upper value

theorem significand_pos (hx : x.isZero = false) : 0 < x.significand := by
  simp only [isZero, decide_eq_false_iff_not] at hx
  rcases significand_exponent x with ⟨-, hsignificand, -⟩ | ⟨k, -, hlow, -, -⟩
  · omega
  · unfold hiddenBit at hlow
    omega

/-- A pattern is the sum of the significand and of what the exponent gives. -/
theorem magnitude_eq (x : Binary64) :
    x.magnitude = (x.exponent + 1074).toNat * hiddenBit + x.significand := by
  rcases significand_exponent x with ⟨-, hsignificand, hexponent⟩ | ⟨k, hmagnitude, -, -, hexponent⟩
  · rw [hexponent, hsignificand]
    simp
  · have hk : (x.exponent + 1074).toNat = k := by omega
    rw [hk]
    rw [Nat.add_one_mul] at hmagnitude
    omega

/-- A significand has fifty-three bits at most, and as many on every grid but the finest one. -/
theorem significand_lt (x : Binary64) : x.significand < 2 * hiddenBit ∧ -1074 ≤ x.exponent ∧
    (-1074 < x.exponent → hiddenBit ≤ x.significand) := by
  rcases significand_exponent x with ⟨hmagnitude, hsignificand, hexponent⟩ |
    ⟨k, -, hlow, hhigh, hexponent⟩
  · unfold hiddenBit at *
    omega
  · exact ⟨hhigh, by omega, fun _ => hlow⟩

theorem quarters_below_le (x : Binary64) : 1 ≤ x.quartersBelow ∧ x.quartersBelow ≤ 2 := by
  unfold quartersBelow
  split <;> decide

theorem lower_pos (hzero : x.isZero = false) : 0 < x.lower := by
  have hpos : (1 : ℚ) ≤ x.significand := by exact_mod_cast significand_pos hzero
  have hquarters : (x.quartersBelow : ℚ) ≤ 2 := by exact_mod_cast (quarters_below_le x).2
  unfold lower
  exact mul_pos (by linarith) (by positivity)

theorem ratio_ne_zero (hzero : x.isZero = false) (h : x.Rounds (num / den)) : num ≠ 0 := by
  rintro rfl
  have hlower := h.le.1
  rw [Nat.cast_zero, zero_div] at hlower
  exact absurd hlower (not_le.2 (lower_pos hzero))

/-- What rounds to a double has no larger exponent. -/
theorem upper_lt (x : Binary64) : x.upper < 2 ^ (x.exponent + 53) := by
  have hsmall : (x.significand : ℚ) + 1 ≤ 2 ^ 53 := by
    have hlt := (significand_lt x).1
    unfold hiddenBit at hlt
    exact_mod_cast (show x.significand + 1 ≤ 2 ^ 53 by omega)
  have hpower : (2 : ℚ) ^ (x.exponent + 53) = 2 ^ 55 * 2 ^ (x.exponent - 2) := by
    rw [← zpow_natCast, ← zpow_add₀ two_ne_zero]
    congr 1
    push_cast
    ring
  unfold upper
  rw [hpower]
  refine mul_lt_mul_of_pos_right ?_ (by positivity)
  linarith

/-- What rounds to a double whose significand is not the least one has the same exponent, if that is
not the least one either. -/
theorem le_lower (hexponent : -1074 < x.exponent) (hhidden : x.significand ≠ hiddenBit) :
    2 ^ (x.exponent + 52) ≤ x.lower := by
  have hmore : (2 : ℚ) ^ 52 + 1 ≤ x.significand := by
    have hle := (significand_lt x).2.2 hexponent
    unfold hiddenBit at *
    exact_mod_cast (show 2 ^ 52 + 1 ≤ x.significand by omega)
  have hpower : (2 : ℚ) ^ (x.exponent + 52) = 2 ^ 54 * 2 ^ (x.exponent - 2) := by
    rw [← zpow_natCast, ← zpow_add₀ two_ne_zero]
    congr 1
    push_cast
    ring
  unfold lower quartersBelow
  rw [if_neg fun h => hhidden h.1, hpower]
  refine mul_le_mul_of_nonneg_right ?_ (by positivity)
  push_cast
  linarith

/-- What rounds to a double with the least significand lies a quarter of a step below it at most. -/
theorem lower_of_hidden (hexponent : -1074 < x.exponent) (hhidden : x.significand = hiddenBit) :
    x.lower = (2 * hiddenBit - 1 / 2) * 2 ^ (x.exponent - 1) := by
  have hpower : (2 : ℚ) ^ (x.exponent - 1) = 2 * 2 ^ (x.exponent - 2) := by
    rw [← zpow_one_add₀ two_ne_zero]
    congr 1
    ring
  unfold lower quartersBelow
  rw [if_pos ⟨hhidden, hexponent⟩, hhidden, hpower]
  ring

/-- A double lies on the grid of what rounds to it, except for a quarter of a step below the least
significand, where the grid is the next finer one. -/
theorem grid_of_rounds (hzero : x.isZero = false) (hden : 0 < den) (h : x.Rounds (num / den)) :
    gridOf num den = x.exponent ∨
      -1074 < x.exponent ∧ x.significand = hiddenBit ∧ gridOf num den = x.exponent - 1 ∧
        (num : ℚ) / den < 2 ^ (x.exponent + 52) := by
  obtain ⟨-, hleast, -⟩ := significand_lt x
  obtain ⟨hlower, hupper⟩ := h.le
  have hnum := ratio_ne_zero hzero h
  have hlog := log2_ratio_lt hnum hden (hupper.trans_lt (upper_lt x))
  unfold gridOf
  by_cases hexponent : x.exponent = -1074
  · left
    omega
  · have hexponent' : -1074 < x.exponent := by omega
    by_cases hbinade : (2 : ℚ) ^ (x.exponent + 52) ≤ num / den
    · have hle := le_log2_ratio hnum hden hbinade
      left
      omega
    · have hlt := log2_ratio_lt hnum hden (not_le.1 hbinade)
      have hhidden : x.significand = hiddenBit := by
        by_contra hne
        exact hbinade ((le_lower hexponent' hne).trans hlower)
      have hge : (2 : ℚ) ^ (x.exponent + 51) ≤ num / den := by
        refine le_trans ?_ hlower
        have hpower : (2 : ℚ) ^ (x.exponent + 51) = 2 ^ 52 * 2 ^ (x.exponent - 1) := by
          rw [← zpow_natCast, ← zpow_add₀ two_ne_zero]
          congr 1
          push_cast
          ring
        rw [lower_of_hidden hexponent' hhidden, hpower]
        refine mul_le_mul_of_nonneg_right ?_ (by positivity)
        norm_num [hiddenBit]
      have hle := le_log2_ratio hnum hden hge
      exact .inr ⟨hexponent', hhidden, by omega, not_le.1 hbinade⟩

/-- On its own grid a double has its significand, and on the next finer one twice that. -/
theorem rounded_of_of_rounds (hzero : x.isZero = false) (hden : 0 < den)
    (h : x.Rounds (num / den)) :
    (gridOf num den + 1074).toNat * hiddenBit + roundedOf num den = x.magnitude := by
  obtain ⟨hscaledDen, hscaled⟩ := scale_ratio_ratio num hden (gridOf num den)
  rw [magnitude_eq]
  rcases grid_of_rounds hzero hden h with hgrid | ⟨hexponent, hhidden, hgrid, hbelow⟩
  · have hrounded : roundedOf num den = x.significand := by
      refine round_half_even_eq hscaledDen ?_
      rw [hscaled, hgrid]
      have hstep : (2 : ℚ) ^ (x.exponent - 2) * 2 ^ (-x.exponent) = 1 / 4 := by
        rw [← zpow_add₀ two_ne_zero, sub_add_eq_add_sub, add_neg_cancel]
        norm_num
      refine (Within.mul h (show (0 : ℚ) < 2 ^ (-x.exponent) by positivity)).mono ?_ ?_
      · have hquarters : (x.quartersBelow : ℚ) ≤ 2 := by exact_mod_cast (quarters_below_le x).2
        unfold lower
        rw [mul_assoc, hstep]
        linarith
      · unfold upper
        rw [mul_assoc, hstep]
        linarith
    rw [hgrid, hrounded]
  · have hrounded : roundedOf num den = 2 * hiddenBit := by
      refine round_half_even_eq hscaledDen (.inr ⟨rfl, ?_, ?_⟩)
      · rw [hscaled, hgrid, zpow_neg, ← div_eq_mul_inv, le_div_iff₀ (by positivity)]
        refine le_trans (le_of_eq ?_) h.le.1
        rw [lower_of_hidden hexponent hhidden]
        push_cast
        rfl
      · have hpower : (2 : ℚ) ^ (x.exponent + 52) = 2 ^ 53 * 2 ^ (x.exponent - 1) := by
          rw [← zpow_natCast, ← zpow_add₀ two_ne_zero]
          congr 1
          push_cast
          ring
        rw [hscaled, hgrid, zpow_neg, ← div_eq_mul_inv, div_le_iff₀ (by positivity)]
        refine hbelow.le.trans ?_
        rw [hpower]
        refine mul_le_mul_of_nonneg_right ?_ (by positivity)
        norm_num [hiddenBit]
    have hleast : -1074 ≤ gridOf num den := le_max_left _ _
    have hsteps : (x.exponent + 1074).toNat = (gridOf num den + 1074).toNat + 1 := by omega
    rw [hrounded, hhidden, hsteps, Nat.add_one_mul (gridOf num den + 1074).toNat]
    omega

/-- A ratio that rounds to a double is rounded to it. -/
theorem of_ratio_of_rounds (negative : Bool) (hfinite : x.isFinite) (hzero : x.isZero = false)
    (hden : 0 < den) (h : x.Rounds (num / den)) :
    ofRatio negative num den = ofMagnitude negative x.magnitude := by
  have hfinite' : x.magnitude ≤ infinityBits := (of_decide_eq_true hfinite).le
  rw [of_ratio_eq negative (ratio_ne_zero hzero h), rounded_of_of_rounds hzero hden h,
    min_eq_left hfinite']

end Rounds

section Exact

theorem of_magnitude_magnitude (x : Binary64) : ofMagnitude x.negative x.magnitude = x := by
  have hlt := x.bits.toNat_lt
  have hbits : x.magnitude + (if x.negative then signBit else 0) = x.bits.toNat := by
    unfold magnitude negative signBit
    split <;> simp_all
    omega
  unfold ofMagnitude
  rw [hbits, UInt64.ofNat_toNat]

theorem negative_of_magnitude {negative : Bool} {magnitude : Nat} (h : magnitude < signBit) :
    (ofMagnitude negative magnitude).negative = negative := by
  unfold signBit at h
  cases negative with
  | false =>
      simp only [Binary64.negative, ofMagnitude, signBit, UInt64.toNat_ofNat']
      simp
      omega
  | true =>
      simp only [Binary64.negative, ofMagnitude, signBit, UInt64.toNat_ofNat']
      simp
      omega

theorem negative_of_ratio (negative : Bool) (num den : Nat) :
    (ofRatio negative num den).negative = negative := by
  by_cases hnum : num = 0
  · unfold ofRatio
    rw [if_pos hnum]
    exact negative_of_magnitude (by decide)
  · rw [of_ratio_eq negative hnum]
    exact negative_of_magnitude (lt_of_le_of_lt (min_le_right _ _) (by decide))

theorem size_of_magnitude_zero (h : x.magnitude = 0) : x.size = 0 := by
  unfold size significand
  rw [h]
  simp [hiddenBit]

/-- The absolute value of a rounded ratio that is a double. -/
theorem size_of_ratio (negative : Bool) (hnum : num ≠ 0) (hden : 0 < den)
    (hfinite : (ofRatio negative num den).isFinite) :
    (ofRatio negative num den).size = roundedOf num den * 2 ^ gridOf num den := by
  have hle := rounded_of_le hnum hden
  have hge := le_rounded_of hnum hden
  have hleast : -1074 ≤ gridOf num den := le_max_left _ _
  have hsum : (ofRatio negative num den).magnitude =
      min ((gridOf num den + 1074).toNat * hiddenBit + roundedOf num den) infinityBits :=
    magnitude_of_ratio negative hnum
  simp only [isFinite, decide_eq_true_eq] at hfinite
  generalize ofRatio negative num den = x at *
  generalize gridOf num den = grid at *
  generalize roundedOf num den = rounded at *
  -- A carry out of the significand makes the exponent one larger.
  have hcases : x.exponent = grid ∧ x.significand = rounded ∨
      x.exponent = grid + 1 ∧ 2 * x.significand = rounded := by
    rcases significand_exponent x with ⟨hmagnitude, hsignificand, hexponent⟩ |
      ⟨k, hmagnitude, hlow, hhigh, hexponent⟩ <;> unfold hiddenBit at * <;> omega
  unfold size
  rcases hcases with ⟨hexponent, hsignificand⟩ | ⟨hexponent, hsignificand⟩
  · rw [hexponent, hsignificand]
  · rw [hexponent, ← hsignificand, zpow_add_one₀ two_ne_zero]
    push_cast
    ring

/-- A number that has fifty-three bits before its last zeros is a double. -/
theorem size_of_nat {m k : Nat} (hm : m < 2 ^ 53) (hfinite : (ofNat (m * 2 ^ k)).isFinite) :
    (ofNat (m * 2 ^ k)).size = m * 2 ^ k := by
  by_cases hzero : m = 0
  · subst hzero
    rw [Nat.zero_mul]
    have hsize : (ofNat 0).size = 0 := size_of_magnitude_zero (magnitude_of_ratio_zero false)
    rw [hsize, Nat.cast_zero, zero_mul]
  · have hnum : m * 2 ^ k ≠ 0 := Nat.mul_ne_zero hzero (by positivity)
    unfold ofNat at *
    rw [size_of_ratio false hnum one_pos hfinite]
    obtain ⟨hscaledDen, hscaled⟩ := scale_ratio_ratio (m * 2 ^ k) one_pos (gridOf (m * 2 ^ k) 1)
    have hlog : log2Ratio (m * 2 ^ k) 1 < k + 53 := by
      refine log2_ratio_lt hnum one_pos ?_
      rw [Nat.cast_one, div_one]
      exact_mod_cast (show m * 2 ^ k < 2 ^ (k + 53) by
        rw [Nat.pow_add, Nat.mul_comm]
        exact Nat.mul_lt_mul_of_pos_left hm (by positivity))
    have hgrid : gridOf (m * 2 ^ k) 1 ≤ k := by
      unfold gridOf
      omega
    obtain ⟨more, hmore⟩ := Int.eq_ofNat_of_zero_le (Int.sub_nonneg_of_le hgrid)
    -- The number is a multiple of the step of its grid.
    have hstep : (2 : ℚ) ^ k * 2 ^ (-gridOf (m * 2 ^ k) 1) = 2 ^ more := by
      rw [← zpow_natCast, ← zpow_natCast, ← zpow_add₀ two_ne_zero, ← hmore, sub_eq_add_neg]
    have hrounded : roundedOf (m * 2 ^ k) 1 = m * 2 ^ more := by
      refine round_half_even_eq hscaledDen (.inl ?_)
      rw [hscaled]
      push_cast
      rw [div_one, mul_assoc, hstep]
      constructor <;> linarith
    rw [hrounded]
    push_cast
    rw [← hstep, mul_assoc, mul_assoc, ← zpow_add₀ two_ne_zero, neg_add_cancel, zpow_zero, mul_one]

theorem is_finite_of_nat {m : Nat} (h : n ≤ m) (hm : (ofNat m).isFinite) : (ofNat n).isFinite :=
  decide_eq_true ((magnitude_of_nat_mono h).trans_lt (of_decide_eq_true hm))

/-- A number of fifty-three bits is a double. -/
theorem of_nat_of_short (hn : n < 2 ^ 53) : (ofNat n).isFinite ∧ (ofNat n).size = n := by
  have hfinite : (ofNat n).isFinite := is_finite_of_nat hn.le (by decide +kernel)
  refine ⟨hfinite, ?_⟩
  have hsize := size_of_nat (m := n) (k := 0) hn
  simp only [pow_zero, mul_one] at hsize
  exact hsize hfinite

/-- The quotient of two numbers is their exact quotient, rounded. -/
theorem div_eq (hx : x.isFinite) (hy : y.isFinite) (hzero : y.isZero = false) :
    ∃ num den, 0 < den ∧ x.div y = ofRatio (x.negative != y.negative) num den ∧
      (num : ℚ) / den = x.size / y.size := by
  obtain ⟨hnanX, hinfiniteX⟩ := number_of_finite hx
  obtain ⟨hnanY, hinfiniteY⟩ := number_of_finite hy
  obtain ⟨num, den, hden, heq, hratio⟩ := of_scaled_eq (x.negative != y.negative) x.significand
    (x.exponent - y.exponent) (significand_pos hzero)
  refine ⟨num, den, hden, ?_, ?_⟩
  · rw [← heq]
    unfold div
    simp [hnanX, hinfiniteX, hnanY, hinfiniteY, hzero]
  · rw [hratio, zpow_sub₀ two_ne_zero]
    unfold size
    field_simp

end Exact

end Binary64

end GameLibrary.Number
