import GameLibrary.Number.Binary64
import Mathlib.Algebra.Order.Field.Power
import Mathlib.Data.Int.Log
import Mathlib.Data.Rat.Floor
import Mathlib.Tactic.FieldSimp
import Mathlib.Tactic.Linarith
import Mathlib.Tactic.Positivity
import Mathlib.Tactic.Ring

/-!
# Rounding is monotone

`ofRatio` takes the binary logarithm of the ratio (`log2_ratio_eq_log`) and rounds the ratio on the
grid that belongs to it. A larger ratio has a pattern that is not smaller (`magnitude_of_ratio_mono`),
and so have a larger natural number and a product of larger factors (`magnitude_of_nat_mono`,
`magnitude_mul_mono`).
-/

namespace GameLibrary.Number.Binary64

variable {num den num' den' : Nat}

section Ratio

/-- A scaled ratio is the ratio times the power of two. -/
theorem scale_ratio_ratio (num : Nat) (hden : 0 < den) (exponent : Int) :
    0 < (scaleRatio num den exponent).2 ∧
      ((scaleRatio num den exponent).1 : ℚ) / (scaleRatio num den exponent).2 =
        num / den * 2 ^ (-exponent) := by
  unfold scaleRatio
  simp only [Nat.pow_eq]
  split
  · rename_i hexponent
    refine ⟨by positivity, ?_⟩
    push_cast
    rw [← zpow_natCast, Int.toNat_of_nonneg hexponent, zpow_neg, div_mul_eq_div_div, div_eq_mul_inv]
  · rename_i hexponent
    refine ⟨hden, ?_⟩
    push_cast
    rw [← zpow_natCast, Int.toNat_of_nonneg (by omega), mul_div_right_comm]

/-- The binary logarithm of a ratio of naturals lies next to the difference of their own. -/
theorem log2_bounds (hnum : num ≠ 0) (hden : den ≠ 0) :
    (2 : ℚ) ^ ((num.log2 : Int) - den.log2 - 1) ≤ num / den ∧
      (num : ℚ) / den < 2 ^ ((num.log2 : Int) - den.log2 + 1) := by
  have hnumLow : (2 : ℚ) ^ num.log2 ≤ num := by exact_mod_cast Nat.log2_self_le hnum
  have hnumHigh : (num : ℚ) < 2 ^ (num.log2 + 1) := by exact_mod_cast Nat.lt_log2_self
  have hdenLow : (2 : ℚ) ^ den.log2 ≤ den := by exact_mod_cast Nat.log2_self_le hden
  have hdenHigh : (den : ℚ) < 2 ^ (den.log2 + 1) := by exact_mod_cast Nat.lt_log2_self
  have hpos : (0 : ℚ) < den := by exact_mod_cast Nat.pos_of_ne_zero hden
  constructor
  · rw [le_div_iff₀ hpos]
    calc (2 : ℚ) ^ ((num.log2 : Int) - den.log2 - 1) * den
        ≤ 2 ^ ((num.log2 : Int) - den.log2 - 1) * 2 ^ ((den.log2 : Int) + 1) := by
          gcongr
          exact_mod_cast hdenHigh.le
      _ = 2 ^ num.log2 := by
          rw [← zpow_add₀ two_ne_zero, ← zpow_natCast]
          congr 1
          ring
      _ ≤ num := hnumLow
  · rw [div_lt_iff₀ hpos]
    calc (num : ℚ) < 2 ^ (num.log2 + 1) := hnumHigh
      _ = 2 ^ ((num.log2 : Int) - den.log2 + 1) * 2 ^ den.log2 := by
          rw [← zpow_natCast, ← zpow_natCast, ← zpow_add₀ two_ne_zero]
          congr 1
          push_cast
          ring
      _ ≤ 2 ^ ((num.log2 : Int) - den.log2 + 1) * den := by gcongr

/-- The binary logarithm of a ratio. -/
theorem log2_ratio_eq_log (hnum : num ≠ 0) (hden : 0 < den) :
    log2Ratio num den = Int.log 2 ((num : ℚ) / den) := by
  obtain ⟨hlow, hhigh⟩ := log2_bounds hnum hden.ne'
  have hratio : (0 : ℚ) < num / den := by
    have hnum' : 0 < num := Nat.pos_of_ne_zero hnum
    positivity
  have hunique : ∀ {k : Int}, (2 : ℚ) ^ k ≤ num / den → (num : ℚ) / den < 2 ^ (k + 1) →
      k = Int.log 2 ((num : ℚ) / den) := by
    intro k hle hlt
    have hge := (Int.zpow_le_iff_le_log (b := 2) one_lt_two hratio).1 (by exact_mod_cast hle)
    have hlt' := (Int.lt_zpow_iff_log_lt (b := 2) one_lt_two hratio).1 (by exact_mod_cast hlt)
    omega
  unfold log2Ratio
  dsimp only
  generalize (num.log2 : Int) - den.log2 = guess at hlow hhigh
  obtain ⟨hscaledDen, hscaled⟩ := scale_ratio_ratio num hden guess
  have hscaledPos : (0 : ℚ) < (scaleRatio num den guess).2 := by exact_mod_cast hscaledDen
  -- The comparison tells on which side of the guessed power of two the ratio lies.
  have hbelow : (scaleRatio num den guess).1 < (scaleRatio num den guess).2 ↔
      (num : ℚ) / den < 2 ^ guess := by
    rw [← Nat.cast_lt (α := ℚ), ← div_lt_one hscaledPos, hscaled, zpow_neg, ← div_eq_mul_inv,
      div_lt_one (by positivity)]
  split
  · rename_i hlt
    exact hunique hlow (by simpa using hbelow.1 hlt)
  · rename_i hge
    exact hunique (not_lt.1 (mt hbelow.2 hge)) hhigh

theorem le_log2_ratio (hnum : num ≠ 0) (hden : 0 < den) {k : Int} (h : (2 : ℚ) ^ k ≤ num / den) :
    k ≤ log2Ratio num den := by
  have hratio : (0 : ℚ) < num / den := lt_of_lt_of_le (by positivity) h
  rw [log2_ratio_eq_log hnum hden]
  exact (Int.zpow_le_iff_le_log (b := 2) one_lt_two hratio).1 (by exact_mod_cast h)

theorem log2_ratio_lt (hnum : num ≠ 0) (hden : 0 < den) {k : Int} (h : (num : ℚ) / den < 2 ^ k) :
    log2Ratio num den < k := by
  have hratio : (0 : ℚ) < num / den := by
    have hnum' : 0 < num := Nat.pos_of_ne_zero hnum
    positivity
  rw [log2_ratio_eq_log hnum hden]
  exact (Int.lt_zpow_iff_log_lt (b := 2) one_lt_two hratio).1 (by exact_mod_cast h)

end Ratio

section Nearest

theorem round_half_even_mul (num den : Nat) {c : Nat} (hc : 0 < c) :
    roundHalfEven (num * c) (den * c) = roundHalfEven num den := by
  have hlt : 2 * (num % den) * c < den * c ↔ 2 * (num % den) < den :=
    Nat.mul_lt_mul_right hc
  have hgt : den * c < 2 * (num % den) * c ↔ den < 2 * (num % den) :=
    Nat.mul_lt_mul_right hc
  unfold roundHalfEven
  simp only [Nat.mul_div_mul_right _ _ hc, Nat.mul_mod_mul_right, ← Nat.mul_assoc, hlt, hgt]

theorem round_half_even_one (n : Nat) : roundHalfEven n 1 = n := by
  unfold roundHalfEven
  simp [Nat.mod_one]

theorem round_half_even_mono_left (h : num ≤ num') :
    roundHalfEven num den ≤ roundHalfEven num' den := by
  have hfloor : num / den ≤ num' / den := Nat.div_le_div_right h
  have hrest : num / den = num' / den → num % den ≤ num' % den := by
    intro heq
    have hnum := Nat.div_add_mod num den
    have hnum' := Nat.div_add_mod num' den
    rw [heq] at hnum
    omega
  unfold roundHalfEven
  dsimp only
  generalize num / den = floor at *
  generalize num' / den = floor' at *
  generalize num % den = rest at *
  generalize num' % den = rest' at *
  split_ifs <;> omega

/-- A larger ratio has a nearest natural number that is not smaller. -/
theorem round_half_even_mono (hden : 0 < den) (hden' : 0 < den')
    (h : (num : ℚ) / den ≤ num' / den') :
    roundHalfEven num den ≤ roundHalfEven num' den' := by
  have hcross : num * den' ≤ num' * den := by
    rw [div_le_div_iff₀ (by exact_mod_cast hden) (by exact_mod_cast hden')] at h
    exact_mod_cast h
  calc roundHalfEven num den = roundHalfEven (num * den') (den * den') :=
        (round_half_even_mul num den hden').symm
    _ ≤ roundHalfEven (num' * den) (den * den') :=
        round_half_even_mono_left hcross
    _ = roundHalfEven (num' * den) (den' * den) := by rw [Nat.mul_comm den den']
    _ = roundHalfEven num' den' := round_half_even_mul num' den' hden

end Nearest

section Pattern

/-- The power of two of the grid on which a ratio is rounded. -/
def gridOf (num den : Nat) : Int := max (-1074) (log2Ratio num den - 52)

/-- The significand to which a ratio is rounded. -/
def roundedOf (num den : Nat) : Nat :=
  roundHalfEven (scaleRatio num den (gridOf num den)).1 (scaleRatio num den (gridOf num den)).2

variable {x y : Binary64}

theorem magnitude_of_magnitude {negative : Bool} {magnitude : Nat} (h : magnitude < signBit) :
    (ofMagnitude negative magnitude).magnitude = magnitude := by
  unfold signBit at h
  cases negative with
  | false =>
      simp only [Binary64.magnitude, ofMagnitude, signBit, UInt64.toNat_ofNat']
      simp
      omega
  | true =>
      simp only [Binary64.magnitude, ofMagnitude, signBit, UInt64.toNat_ofNat']
      simp
      omega

/-- A rounded ratio by its pattern. -/
theorem of_ratio_eq (negative : Bool) (hnum : num ≠ 0) : ofRatio negative num den =
    ofMagnitude negative
      (min ((gridOf num den + 1074).toNat * hiddenBit + roundedOf num den) infinityBits) := by
  unfold ofRatio
  rw [if_neg hnum]
  rfl

/-- The pattern of a rounded ratio. -/
theorem magnitude_of_ratio (negative : Bool) (hnum : num ≠ 0) :
    (ofRatio negative num den).magnitude =
      min ((gridOf num den + 1074).toNat * hiddenBit + roundedOf num den) infinityBits := by
  rw [of_ratio_eq negative hnum]
  exact magnitude_of_magnitude (lt_of_le_of_lt (min_le_right _ _) (by decide))

theorem magnitude_of_ratio_zero (negative : Bool) : (ofRatio negative 0 den).magnitude = 0 := by
  unfold ofRatio
  rw [if_pos rfl]
  exact magnitude_of_magnitude (by decide)

/-- A rounded significand has at most fifty-three bits, or is the next power of two. -/
theorem rounded_of_le (hnum : num ≠ 0) (hden : 0 < den) : roundedOf num den ≤ 2 * hiddenBit := by
  obtain ⟨hscaledDen, hscaled⟩ := scale_ratio_ratio num hden (gridOf num den)
  have hlog := Int.lt_zpow_succ_log_self (b := 2) one_lt_two ((num : ℚ) / den)
  rw [← log2_ratio_eq_log hnum hden] at hlog
  have hgrid : log2Ratio num den + 1 ≤ gridOf num den + 53 := by
    unfold gridOf
    omega
  have hratio : (num : ℚ) / den * 2 ^ (-gridOf num den) ≤ 2 ^ (53 : Int) := by
    rw [zpow_neg, ← div_eq_mul_inv, div_le_iff₀ (by positivity), ← zpow_add₀ two_ne_zero]
    refine hlog.le.trans ?_
    push_cast
    exact zpow_le_zpow_right₀ one_le_two (by omega)
  rw [← round_half_even_one (2 * hiddenBit)]
  refine round_half_even_mono hscaledDen one_pos ?_
  rw [hscaled]
  refine hratio.trans (le_of_eq ?_)
  norm_num [hiddenBit]

/-- On a grid that is not the finest one the rounded significand has fifty-three bits at least. -/
theorem le_rounded_of (hnum : num ≠ 0) (hden : 0 < den) (hgrid : -1074 < gridOf num den) :
    hiddenBit ≤ roundedOf num den := by
  obtain ⟨hscaledDen, hscaled⟩ := scale_ratio_ratio num hden (gridOf num den)
  have hpos : (0 : ℚ) < num / den := by
    have hnum' : 0 < num := Nat.pos_of_ne_zero hnum
    positivity
  have hlog := Int.zpow_log_le_self (b := 2) one_lt_two hpos
  rw [← log2_ratio_eq_log hnum hden] at hlog
  have hgrid' : gridOf num den + 52 = log2Ratio num den := by
    unfold gridOf at hgrid ⊢
    omega
  have hratio : (2 : ℚ) ^ (52 : Int) ≤ num / den * 2 ^ (-gridOf num den) := by
    rw [zpow_neg, ← div_eq_mul_inv, le_div_iff₀ (by positivity), ← zpow_add₀ two_ne_zero]
    refine le_trans ?_ hlog
    push_cast
    exact zpow_le_zpow_right₀ one_le_two (by omega)
  rw [← round_half_even_one hiddenBit]
  refine round_half_even_mono one_pos hscaledDen ?_
  rw [hscaled]
  refine le_trans (le_of_eq ?_) hratio
  norm_num [hiddenBit]

/-- A larger ratio rounds to a pattern that is not smaller. -/
theorem magnitude_of_ratio_mono (negative negative' : Bool) (hden : 0 < den) (hden' : 0 < den')
    (h : (num : ℚ) / den ≤ num' / den') :
    (ofRatio negative num den).magnitude ≤ (ofRatio negative' num' den').magnitude := by
  by_cases hnum : num = 0
  · rw [hnum, magnitude_of_ratio_zero]
    exact Nat.zero_le _
  · have hpos : (0 : ℚ) < num / den := by
      have hnum' : 0 < num := Nat.pos_of_ne_zero hnum
      positivity
    have hnum' : num' ≠ 0 := by
      rintro rfl
      rw [Nat.cast_zero, zero_div] at h
      exact absurd h (not_le.2 hpos)
    have hlog : log2Ratio num den ≤ log2Ratio num' den' := by
      rw [log2_ratio_eq_log hnum hden, log2_ratio_eq_log hnum' hden']
      exact Int.log_mono_right hpos h
    have hgrid : gridOf num den ≤ gridOf num' den' := by
      unfold gridOf
      omega
    have hleast : -1074 ≤ gridOf num den := le_max_left _ _
    rw [magnitude_of_ratio negative hnum, magnitude_of_ratio negative' hnum']
    refine min_le_min_right _ ?_
    rcases hgrid.eq_or_lt with heq | hlt
    · -- The same grid.
      obtain ⟨hscaledDen, hscaled⟩ := scale_ratio_ratio num hden (gridOf num den)
      obtain ⟨hscaledDen', hscaled'⟩ := scale_ratio_ratio num' hden' (gridOf num' den')
      have hrounded : roundedOf num den ≤ roundedOf num' den' := by
        refine round_half_even_mono hscaledDen hscaledDen' ?_
        rw [hscaled, hscaled', heq]
        gcongr
      rw [heq]
      omega
    · -- A coarser grid begins where the finer one ends.
      have hhigh := rounded_of_le hnum hden
      have hlow := le_rounded_of hnum' hden' (lt_of_le_of_lt hleast hlt)
      have hsteps : (gridOf num den + 1074).toNat + 1 ≤ (gridOf num' den' + 1074).toNat := by omega
      have hscaled := Nat.mul_le_mul_right hiddenBit hsteps
      rw [Nat.add_mul, Nat.one_mul] at hscaled
      omega

/-- A larger natural number rounds to a pattern that is not smaller. -/
theorem magnitude_of_nat_mono {n n' : Nat} (h : n ≤ n') :
    (ofNat n).magnitude ≤ (ofNat n').magnitude := by
  refine magnitude_of_ratio_mono false false one_pos one_pos ?_
  gcongr

end Pattern

section Size

variable {x x' y y' : Binary64}

/-- The absolute value of a finite double. -/
def size (x : Binary64) : ℚ := x.significand * 2 ^ x.exponent

theorem size_nonneg (x : Binary64) : 0 ≤ x.size := by
  unfold size
  positivity

/-- Where a pattern lies: on the finest grid, or behind a hidden bit on the grid of its exponent. -/
theorem significand_exponent (x : Binary64) :
    x.magnitude < hiddenBit ∧ x.significand = x.magnitude ∧ x.exponent = -1074 ∨
      ∃ k, x.magnitude + hiddenBit = (k + 1) * hiddenBit + x.significand ∧
        hiddenBit ≤ x.significand ∧ x.significand < 2 * hiddenBit ∧ x.exponent = k - 1074 := by
  unfold significand exponent
  by_cases h : x.magnitude < hiddenBit
  · rw [if_pos h, if_pos h]
    exact .inl ⟨h, rfl, rfl⟩
  · rw [if_neg h, if_neg h]
    refine .inr ⟨x.magnitude / hiddenBit - 1, ?_⟩
    unfold hiddenBit at *
    omega

/-- A larger pattern is that of a double that is not smaller. -/
theorem size_mono (h : x.magnitude ≤ y.magnitude) : x.size ≤ y.size := by
  -- Either the significands on one grid are compared, or the coarser grid begins where the finer
  -- one ends.
  have hle : x.exponent ≤ y.exponent ∧ x.significand ≤ y.significand ∨
      x.exponent + 1 ≤ y.exponent ∧ x.significand ≤ 2 * y.significand := by
    rcases significand_exponent x with ⟨hx, hxs, hxe⟩ | ⟨k, hx, hxl, hxh, hxe⟩ <;>
      rcases significand_exponent y with ⟨hy, hys, hye⟩ | ⟨l, hy, hyl, hyh, hye⟩ <;>
        unfold hiddenBit at * <;> omega
  unfold size
  rcases hle with ⟨hexponent, hsignificand⟩ | ⟨hexponent, hsignificand⟩
  · gcongr
    exact one_le_two
  · have hsignificand' : (x.significand : ℚ) ≤ 2 * y.significand := by exact_mod_cast hsignificand
    calc (x.significand : ℚ) * 2 ^ x.exponent ≤ 2 * y.significand * 2 ^ x.exponent := by gcongr
      _ = y.significand * 2 ^ (x.exponent + 1) := by
          rw [zpow_add_one₀ two_ne_zero]
          ring
      _ ≤ y.significand * 2 ^ y.exponent := by
          gcongr
          exact one_le_two

/-- A scaled significand is rounded as a ratio. -/
theorem of_scaled_eq (negative : Bool) (significand : Nat) (exponent : Int) (hden : 0 < den) :
    ∃ num' den', 0 < den' ∧ ofScaled negative significand exponent den =
      ofRatio negative num' den' ∧ (num' : ℚ) / den' = significand * 2 ^ exponent / den := by
  unfold ofScaled
  simp only [Nat.pow_eq]
  split
  · rename_i hexponent
    refine ⟨_, _, hden, rfl, ?_⟩
    push_cast
    rw [← zpow_natCast, Int.toNat_of_nonneg hexponent]
  · rename_i hexponent
    refine ⟨_, _, by positivity, rfl, ?_⟩
    have hpower : (2 : ℚ) ^ exponent = (2 ^ (-exponent).toNat)⁻¹ := by
      rw [← zpow_natCast, Int.toNat_of_nonneg (by omega), zpow_neg, inv_inv]
    push_cast
    rw [hpower]
    field_simp

theorem number_of_finite (hx : x.isFinite) : x.isNaN = false ∧ x.isInfinite = false := by
  simp only [isFinite, isNaN, isInfinite, decide_eq_true_eq, decide_eq_false_iff_not] at *
  omega

/-- The product of two numbers is their exact product, rounded. -/
theorem mul_eq (hx : x.isFinite) (hy : y.isFinite) :
    ∃ num den, 0 < den ∧ x.mul y = ofRatio (x.negative != y.negative) num den ∧
      (num : ℚ) / den = x.size * y.size := by
  obtain ⟨hnanX, hinfiniteX⟩ := number_of_finite hx
  obtain ⟨hnanY, hinfiniteY⟩ := number_of_finite hy
  obtain ⟨num, den, hden, heq, hratio⟩ := of_scaled_eq (x.negative != y.negative)
    (x.significand * y.significand) (x.exponent + y.exponent) (show 0 < 1 from one_pos)
  refine ⟨num, den, hden, ?_, ?_⟩
  · rw [← heq]
    unfold mul
    simp [hnanX, hinfiniteX, hnanY, hinfiniteY]
  · rw [hratio, zpow_add₀ two_ne_zero]
    unfold size
    push_cast
    ring

/-- A product of larger factors has a pattern that is not smaller. -/
theorem magnitude_mul_mono (hx : x.magnitude ≤ x'.magnitude) (hy : y.magnitude ≤ y'.magnitude)
    (hx' : x'.isFinite) (hy' : y'.isFinite) : (x.mul y).magnitude ≤ (x'.mul y').magnitude := by
  have hfinite : x.isFinite ∧ y.isFinite := by
    simp only [isFinite, decide_eq_true_eq] at *
    omega
  obtain ⟨num, den, hden, heq, hratio⟩ := mul_eq hfinite.1 hfinite.2
  obtain ⟨num', den', hden', heq', hratio'⟩ := mul_eq hx' hy'
  rw [heq, heq']
  refine magnitude_of_ratio_mono _ _ hden hden' ?_
  rw [hratio, hratio']
  exact mul_le_mul (size_mono hx) (size_mono hy) (size_nonneg y) (size_nonneg x')

end Size

end GameLibrary.Number.Binary64
