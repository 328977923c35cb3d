import GameLibrary.Number.Shortest
import GameLibrary.Proofs.Number.Nearest

/-!
# The shortest decimal rounds to its double

A decimal that is taken for a double lies among the reals that round to it, and seventeen digits are
enough for one to be found (`shortest_rounds`). So it is no farther above the double than half a
step of its grid (`shortest_le_of_lt`), and it is not zero.
-/

namespace GameLibrary.Number

/-- The value of a decimal. -/
def Decimal.value (d : Decimal) : ℚ := d.digits * 10 ^ d.exponent

/-- Without its trailing zeros a decimal has the same value. -/
theorem Decimal.value_strip_zeros (fuel : Nat) (d : Decimal) :
    (d.stripZeros fuel).value = d.value := by
  induction fuel generalizing d with
  | zero => rfl
  | succ fuel ih =>
      unfold Decimal.stripZeros
      split
      · rfl
      · split
        · rename_i hten
          rw [ih]
          have hdigits : (d.digits : ℚ) = (d.digits / 10 : Nat) * 10 := by
            exact_mod_cast (Nat.div_mul_cancel (Nat.dvd_of_mod_eq_zero hten)).symm
          unfold Decimal.value
          dsimp only
          rw [hdigits, zpow_add_one₀ (by norm_num)]
          ring
        · rfl

namespace Binary64

variable {tie : Tie} {closed : Bool} {value lower upper den : Nat} {exponent : Int} {d : Decimal}

/-- The step of a grid of decimals is a power of ten times the denominator, in units of the
scale. -/
theorem grid_step (hden : 0 < den) {step scale : Nat}
    (h : (if 0 ≤ exponent then (den * Nat.pow 10 exponent.toNat, 1)
      else (den, Nat.pow 10 (-exponent).toNat)) = (step, scale)) :
    0 < step ∧ 0 < scale ∧ (step : ℚ) = den * 10 ^ exponent * scale := by
  simp only [Nat.pow_eq] at h
  split at h
  · rename_i hexponent
    obtain ⟨rfl, rfl⟩ := Prod.mk.inj h
    refine ⟨by positivity, one_pos, ?_⟩
    push_cast
    rw [mul_one, ← zpow_natCast, Int.toNat_of_nonneg hexponent]
  · rename_i hexponent
    obtain ⟨rfl, rfl⟩ := Prod.mk.inj h
    refine ⟨hden, by positivity, ?_⟩
    push_cast
    rw [← zpow_natCast, Int.toNat_of_nonneg (by omega), mul_assoc, ← zpow_add₀ (by norm_num),
      add_neg_cancel, zpow_zero, mul_one]

/-- A multiple of the step is compared with a bound as the decimal that it stands for. -/
theorem le_grid_iff (hden : 0 < den) {step scale : Nat}
    (h : (if 0 ≤ exponent then (den * Nat.pow 10 exponent.toNat, 1)
      else (den, Nat.pow 10 (-exponent).toNat)) = (step, scale)) (n bound : Nat) :
    ((bound : ℚ) / den ≤ Decimal.value ⟨n, exponent⟩ ↔ bound * scale ≤ n * step) ∧
      (Decimal.value ⟨n, exponent⟩ ≤ (bound : ℚ) / den ↔ n * step ≤ bound * scale) := by
  obtain ⟨-, hscale, hstep⟩ := grid_step hden h
  have hden' : (0 : ℚ) < den := by exact_mod_cast hden
  have hscale' : (0 : ℚ) < scale := by exact_mod_cast hscale
  have hvalue : Decimal.value ⟨n, exponent⟩ * den * scale = n * step := by
    rw [hstep]
    unfold Decimal.value
    ring
  constructor
  · rw [div_le_iff₀ hden', ← mul_le_mul_iff_of_pos_right hscale', hvalue]
    exact_mod_cast Iff.rfl
  · rw [le_div_iff₀ hden', ← mul_le_mul_iff_of_pos_right hscale', hvalue]
    exact_mod_cast Iff.rfl

/-- A hit lies between the bounds. -/
theorem grid_hit_within (hden : 0 < den) (hlower : lower < value) (hupper : value < upper)
    (h : gridHit tie closed value lower upper den exponent = some d) :
    Within closed (lower / den) (upper / den) d.value := by
  unfold gridHit at h
  generalize hgrid : ((if 0 ≤ exponent then (den * Nat.pow 10 exponent.toNat, 1)
    else (den, Nat.pow 10 (-exponent).toNat)) : Nat × Nat) = grid at h
  obtain ⟨step, scale⟩ := grid
  dsimp only at h
  obtain ⟨hstep, hscale, -⟩ := grid_step hden hgrid
  have hle := fun n bound => le_grid_iff hden hgrid n bound
  have hfloor : value * scale / step * step < upper * scale :=
    (Nat.div_mul_le_self _ _).trans_lt (Nat.mul_lt_mul_of_pos_right hupper hscale)
  have hceil : lower * scale < (value * scale / step + 1) * step :=
    (Nat.mul_lt_mul_of_pos_right hlower hscale).trans
      (Nat.lt_mul_of_div_lt (Nat.lt_succ_self _) hstep)
  -- What is tested against one bound is on the right side of the other one.
  have hwithin : ∀ {n : Nat},
      (if closed = true then lower * scale ≤ n * step else lower * scale < n * step) →
      (if closed = true then n * step ≤ upper * scale else n * step < upper * scale) →
      Within closed (lower / den) (upper / den) (Decimal.value ⟨n, exponent⟩) := by
    intro n hlow hhigh
    cases closed with
    | true => exact .inr ⟨rfl, (hle n lower).1.2 hlow, (hle n upper).2.2 hhigh⟩
    | false =>
        refine .inl ⟨not_le.1 fun hge => ?_, not_le.1 fun hge => ?_⟩
        · exact absurd ((hle n lower).2.1 hge) (Nat.not_le.2 hlow)
        · exact absurd ((hle n upper).1.1 hge) (Nat.not_le.2 hhigh)
  have hlow : (if closed = true then lower * scale ≤ value * scale / step * step
      else lower * scale < value * scale / step * step) →
      Within closed (lower / den) (upper / den)
        (Decimal.value ⟨value * scale / step, exponent⟩) := by
    intro hhit
    refine hwithin hhit ?_
    split
    · exact hfloor.le
    · exact hfloor
  have hhigh : (if closed = true then (value * scale / step + 1) * step ≤ upper * scale
      else (value * scale / step + 1) * step < upper * scale) →
      Within closed (lower / den) (upper / den)
        (Decimal.value ⟨value * scale / step + 1, exponent⟩) := by
    intro hhit
    refine hwithin ?_ hhit
    split
    · exact hceil.le
    · exact hceil
  rcases ite_eq_iff.1 h with ⟨htake, hsome⟩ | ⟨-, hrest⟩
  · obtain rfl := Option.some.inj hsome
    refine hlow ?_
    rcases ite_eq_iff.1 htake with ⟨hboth, -⟩ | ⟨-, honly⟩
    · rw [Bool.and_eq_true, decide_eq_true_eq] at hboth
      exact hboth.1
    · exact of_decide_eq_true honly
  · rcases ite_eq_iff.1 hrest with ⟨hhit, hsome⟩ | ⟨-, hnone⟩
    · obtain rfl := Option.some.inj hsome
      exact hhigh hhit
    · cases hnone

/-- One of two neighbours is taken if it is a hit. -/
theorem is_some_of_hit {lowHit highHit : Prop} [Decidable lowHit] [Decidable highHit]
    {nearer : Bool} {low high : Decimal} (h : lowHit ∨ highHit) :
    (if (if (decide lowHit && decide highHit) = true then nearer else decide lowHit) = true then
        some low
      else if highHit then some high else none).isSome := by
  by_cases hlow : lowHit
  · by_cases hhigh : highHit
    · cases nearer <;> simp [hlow, hhigh]
    · simp [hlow, hhigh]
  · simp [hlow, h.resolve_left hlow]

/-- There is a hit on a grid whose step is smaller than twice the distance to each of the bounds. -/
theorem grid_hit_is_some (hden : 0 < den)
    (hlower : (10 : ℚ) ^ exponent + 2 * (lower / den) < 2 * (value / den))
    (hupper : (10 : ℚ) ^ exponent + 2 * (value / den) < 2 * (upper / den)) :
    (gridHit tie closed value lower upper den exponent).isSome := by
  unfold gridHit
  generalize hgrid : ((if 0 ≤ exponent then (den * Nat.pow 10 exponent.toNat, 1)
    else (den, Nat.pow 10 (-exponent).toNat)) : Nat × Nat) = grid
  obtain ⟨step, scale⟩ := grid
  dsimp only
  obtain ⟨hpos, hscale, hstep⟩ := grid_step hden hgrid
  have hden' : (0 : ℚ) < den := by exact_mod_cast hden
  have hscale' : (0 : ℚ) < scale := by exact_mod_cast hscale
  have hnear : ∀ {low high : Nat}, (10 : ℚ) ^ exponent + 2 * (low / den) < 2 * (high / den) →
      step + 2 * (low * scale) < 2 * (high * scale) := by
    intro low high hlt
    have hmul := mul_lt_mul_of_pos_right hlt (mul_pos hden' hscale')
    have hunit : ∀ n : Nat, (n : ℚ) / den * (den * scale) = n * scale := by
      intro n
      field_simp
    rw [add_mul, mul_assoc 2, hunit, mul_assoc 2, hunit, ← mul_assoc, mul_comm (_ ^ exponent),
      ← hstep] at hmul
    exact_mod_cast hmul
  have hlower' := hnear hlower
  have hupper' := hnear hupper
  have hfloor : value * scale / step * step ≤ value * scale := Nat.div_mul_le_self _ _
  have hceil : value * scale < (value * scale / step + 1) * step :=
    Nat.lt_mul_of_div_lt (Nat.lt_succ_self _) hpos
  -- One of the two neighbours is no farther away than half a step.
  have hhit : lower * scale < value * scale / step * step ∨
      (value * scale / step + 1) * step < upper * scale := by
    rw [Nat.add_one_mul] at hceil ⊢
    omega
  refine is_some_of_hit ?_
  rcases hhit with hlow | hhigh
  · left
    split
    · exact hlow.le
    · exact hlow
  · right
    split
    · exact hhigh.le
    · exact hhigh

theorem first_hit_within {grids : Nat} (hden : 0 < den) (hlower : lower < value)
    (hupper : value < upper)
    (h : firstHit tie closed value lower upper den grids exponent = some d) :
    Within closed (lower / den) (upper / den) d.value := by
  induction grids generalizing exponent with
  | zero => cases h
  | succ grids ih =>
      unfold firstHit at h
      split at h
      · rename_i hhit
        obtain rfl := Option.some.inj h
        exact grid_hit_within hden hlower hupper hhit
      · exact ih h

/-- A grid with a hit is found. -/
theorem first_hit_is_some {grids k : Nat} (hk : k < grids)
    (h : (gridHit tie closed value lower upper den (exponent - k)).isSome) :
    (firstHit tie closed value lower upper den grids exponent).isSome := by
  induction grids generalizing exponent k with
  | zero => exact absurd hk (Nat.not_lt_zero k)
  | succ grids ih =>
      unfold firstHit
      split
      · rfl
      · rename_i hnone
        cases k with
        | zero =>
            rw [Int.natCast_zero, Int.sub_zero, hnone] at h
            cases h
        | succ k =>
            refine ih (Nat.lt_of_succ_lt_succ hk) ?_
            rwa [Int.sub_sub, Int.add_comm]

section Logarithm

/-- A power of ten is compared with a power of two by their powers. -/
theorem pow_ten_le {p q : Nat} {power log : Int} (hq : 0 < q) (hpower : q * power ≤ p * log)
    (hpow : ((10 : ℚ) ^ p) ^ log ≤ (2 ^ q) ^ log) : (10 : ℚ) ^ power ≤ 2 ^ log := by
  refine (pow_le_pow_iff_left₀ (by positivity) (by positivity) hq.ne').1 ?_
  calc ((10 : ℚ) ^ power) ^ q = 10 ^ (q * power) := by
        rw [← zpow_natCast, ← zpow_mul, mul_comm]
    _ ≤ 10 ^ (p * log) := zpow_le_zpow_right₀ (by norm_num) hpower
    _ = (10 ^ p) ^ log := by rw [zpow_mul, zpow_natCast]
    _ ≤ (2 ^ q) ^ log := hpow
    _ = (2 ^ log) ^ q := by rw [← zpow_natCast, ← zpow_natCast, zpow_comm]

/-- The estimate of a decimal logarithm is off by less than one. -/
theorem pow_guess_le {log : Int} (hlow : -10000 ≤ log) (hhigh : log ≤ 10000) :
    (10 : ℚ) ^ (log * 30103 / 100000 - 1) ≤ 2 ^ log := by
  -- The decimal logarithm of two lies between these two ratios.
  rcases le_or_gt 0 log with hpos | hneg
  · refine pow_ten_le (p := 31) (q := 103) (by decide) (by push_cast; omega) ?_
    exact zpow_le_zpow_left₀ hpos (by positivity) (by norm_num)
  · refine pow_ten_le (p := 28) (q := 93) (by decide) (by push_cast; omega) ?_
    obtain ⟨n, rfl⟩ : ∃ n : Nat, log = -n := ⟨log.natAbs, by omega⟩
    rw [zpow_neg, zpow_neg, zpow_natCast, zpow_natCast]
    refine inv_anti₀ (by positivity) ?_
    exact pow_le_pow_left₀ (by positivity) (by norm_num) n
theorem pow_ten_le_ratio {num den : Nat} (hden : 0 < den) {power : Int}
    (h : (if 0 ≤ power then decide (den * Nat.pow 10 power.toNat ≤ num)
      else decide (den ≤ num * Nat.pow 10 (-power).toNat)) = true) :
    (10 : ℚ) ^ power ≤ num / den := by
  have hden' : (0 : ℚ) < den := by exact_mod_cast hden
  simp only [Nat.pow_eq] at h
  rw [le_div_iff₀ hden']
  split at h
  · rename_i hpower
    have hle : ((den * 10 ^ power.toNat : Nat) : ℚ) ≤ num := by
      exact_mod_cast of_decide_eq_true h
    push_cast at hle
    rwa [← zpow_natCast, Int.toNat_of_nonneg hpower, mul_comm] at hle
  · rename_i hpower
    have hle : (den : ℚ) ≤ (num * 10 ^ (-power).toNat : Nat) := by
      exact_mod_cast of_decide_eq_true h
    push_cast at hle
    rw [← zpow_natCast, Int.toNat_of_nonneg (by omega), zpow_neg, ← div_eq_mul_inv,
      le_div_iff₀ (by positivity)] at hle
    rwa [mul_comm]

/-- The decimal logarithm of a ratio is not too large. -/
theorem log10_ratio_le {num den : Nat} (hnum : num ≠ 0) (hden : 0 < den)
    (hlow : -10000 ≤ log2Ratio num den) (hhigh : log2Ratio num den ≤ 10000) :
    (10 : ℚ) ^ log10Ratio num den ≤ num / den := by
  have hratio : (0 : ℚ) < num / den := by
    have hnum' : 0 < num := Nat.pos_of_ne_zero hnum
    positivity
  have hguess : (10 : ℚ) ^ (log2Ratio num den * 30103 / 100000 - 1) ≤ num / den := by
    refine (pow_guess_le hlow hhigh).trans ?_
    rw [log2_ratio_eq_log hnum hden]
    exact_mod_cast Int.zpow_log_le_self (b := 2) one_lt_two hratio
  have hchoice : ∀ {reached more : Bool} {low middle high : Int},
      (10 : ℚ) ^ low ≤ num / den → (reached = true → (10 : ℚ) ^ middle ≤ num / den) →
      (more = true → (10 : ℚ) ^ high ≤ num / den) →
      (10 : ℚ) ^ (if !reached then low else if more then high else middle) ≤ num / den := by
    intro reached more low middle high hlow hmiddle hhigh
    cases reached with
    | false => exact hlow
    | true =>
        cases more with
        | false => exact hmiddle rfl
        | true => exact hhigh rfl
  exact hchoice hguess (pow_ten_le_ratio hden) (pow_ten_le_ratio hden)

end Logarithm

variable {x : Binary64}

theorem exponent_le (x : Binary64) : x.exponent ≤ 972 := by
  have hlt : x.magnitude < signBit := Nat.mod_lt _ (by decide)
  unfold signBit at hlt
  rcases significand_exponent x with ⟨-, -, hexponent⟩ | ⟨k, hmagnitude, hlow, -, hexponent⟩
  · omega
  · unfold hiddenBit at hmagnitude hlow
    omega

theorem quarters_below_lt (hx : x.isZero = false) : x.quartersBelow < 4 * x.significand ∧
    4 * x.significand < 2 * x.quartersBelow * 10 ^ 16 := by
  have hpos := significand_pos hx
  have hsmall := (significand_lt x).1
  unfold quartersBelow
  unfold hiddenBit at *
  split <;> omega

/-- The step of a grid of decimals of seventeen digits is less than what is left below a double. -/
theorem step_lt (hx : x.isZero = false) {value den : Nat} (hden : 0 < den)
    (hvalue : (value : ℚ) / den = 4 * x.significand * 2 ^ (x.exponent - 2)) :
    (10 : ℚ) ^ (log10Ratio value den - 16) < 2 * x.quartersBelow * 2 ^ (x.exponent - 2) := by
  obtain ⟨hsmall, hleast, -⟩ := significand_lt x
  have hmost := exponent_le x
  have hstep : (0 : ℚ) < 2 ^ (x.exponent - 2) := by positivity
  have hpos : (1 : ℚ) ≤ x.significand := by exact_mod_cast significand_pos hx
  have hnum : value ≠ 0 := by
    rintro rfl
    rw [Nat.cast_zero, zero_div] at hvalue
    exact absurd hvalue (by positivity)
  have hlow : x.exponent - 2 ≤ log2Ratio value den := by
    refine le_log2_ratio hnum hden ?_
    rw [hvalue]
    exact le_mul_of_one_le_left hstep.le (by linarith)
  have hhigh : log2Ratio value den < x.exponent + 53 := by
    refine log2_ratio_lt hnum hden (lt_trans ?_ (upper_lt x))
    rw [hvalue]
    unfold upper
    exact mul_lt_mul_of_pos_right (by linarith) hstep
  have hlog := log10_ratio_le hnum hden (by omega) (by omega)
  have hquarters : 4 * (x.significand : ℚ) < 2 * x.quartersBelow * 10 ^ 16 := by
    exact_mod_cast (quarters_below_lt hx).2
  rw [hvalue] at hlog
  rw [zpow_sub₀ (by norm_num), div_lt_iff₀ (by positivity)]
  calc (10 : ℚ) ^ log10Ratio value den ≤ 4 * x.significand * 2 ^ (x.exponent - 2) := hlog
    _ < 2 * x.quartersBelow * 10 ^ 16 * 2 ^ (x.exponent - 2) :=
        mul_lt_mul_of_pos_right hquarters hstep
    _ = 2 * x.quartersBelow * 2 ^ (x.exponent - 2) * 10 ^ (16 : Int) := by
        rw [mul_right_comm]
        rfl

/-- The unit in which a double and its bounds are whole numbers is a quarter of a step. -/
theorem scale_ratio_quarter (exponent : Int) :
    0 < (scaleRatio 1 1 (2 - exponent)).1 ∧ 0 < (scaleRatio 1 1 (2 - exponent)).2 ∧
      ∀ n : Nat, ((n * (scaleRatio 1 1 (2 - exponent)).1 : Nat) : ℚ) /
        (scaleRatio 1 1 (2 - exponent)).2 = n * 2 ^ (exponent - 2) := by
  obtain ⟨hden, hratio⟩ := scale_ratio_ratio 1 one_pos (2 - exponent)
  rw [Nat.cast_one, div_one, one_mul, neg_sub] at hratio
  refine ⟨?_, hden, fun n => ?_⟩
  · rw [Nat.pos_iff_ne_zero]
    intro hzero
    rw [hzero, Nat.cast_zero, zero_div] at hratio
    exact absurd hratio (by positivity)
  · rw [Nat.cast_mul, mul_div_assoc, hratio]

/-- The shortest decimal of a double rounds to it: one of seventeen digits does. -/
theorem shortest_rounds (tie : Tie) (hx : x.isZero = false) :
    x.Rounds (x.shortest tie).value := by
  obtain ⟨hleast, hmost⟩ := quarters_below_le x
  have hbelow := (quarters_below_lt hx).1
  obtain ⟨hunit, hden, hquarters⟩ := scale_ratio_quarter x.exponent
  have hnarrow : (if (decide (x.significand = hiddenBit) && decide (-1074 < x.exponent)) = true
      then 1 else 2) = x.quartersBelow := by
    unfold quartersBelow
    simp
  unfold shortest
  rw [if_neg (by simp [hx])]
  generalize scaleRatio 1 1 (2 - x.exponent) = scaled at hunit hden hquarters
  obtain ⟨unit, den⟩ := scaled
  dsimp only at hunit hden hquarters ⊢
  rw [Decimal.value_strip_zeros, hnarrow]
  have hlower : (((4 * x.significand - x.quartersBelow) * unit : Nat) : ℚ) / den = x.lower := by
    rw [hquarters, Nat.cast_sub hbelow.le]
    push_cast
    rfl
  have hvalue : ((4 * x.significand * unit : Nat) : ℚ) / den =
      4 * x.significand * 2 ^ (x.exponent - 2) := by
    rw [hquarters]
    push_cast
    rfl
  have hupper : (((4 * x.significand + 2) * unit : Nat) : ℚ) / den = x.upper := by
    rw [hquarters]
    push_cast
    rfl
  have hfound : (firstHit tie (decide (x.significand % 2 = 0)) (4 * x.significand * unit)
      ((4 * x.significand - x.quartersBelow) * unit) ((4 * x.significand + 2) * unit) den 17
      (log10Ratio (4 * x.significand * unit) den)).isSome := by
    have hlt := step_lt hx hden hvalue
    have hmost' : (x.quartersBelow : ℚ) * 2 ^ (x.exponent - 2) ≤ 2 * 2 ^ (x.exponent - 2) := by
      gcongr
      exact_mod_cast hmost
    refine first_hit_is_some (k := 16) (by decide) (grid_hit_is_some hden ?_ ?_)
    · rw [hlower, hvalue]
      unfold lower
      push_cast
      linarith
    · rw [hupper, hvalue]
      unfold upper
      push_cast
      linarith
  obtain ⟨d, hd⟩ := Option.isSome_iff_exists.1 hfound
  have hwithin := first_hit_within hden (Nat.mul_lt_mul_of_pos_right (by omega) hunit)
    (Nat.mul_lt_mul_of_pos_right (by omega) hunit) hd
  rw [hlower, hupper] at hwithin
  rw [hd]
  exact hwithin

theorem shortest_digits_ne_zero (tie : Tie) (hx : x.isZero = false) :
    (x.shortest tie).digits ≠ 0 := by
  intro hdigits
  have hle := (shortest_rounds tie hx).le.1
  unfold Decimal.value at hle
  rw [hdigits, Nat.cast_zero, zero_mul] at hle
  exact absurd hle (not_le.2 (lower_pos hx))

/-- Half a step of the coarsest grid below the largest double. -/
def halfStepBelow : Nat := 0x7ffffffffffffa * 2 ^ 969

/-- The shortest decimals of all doubles but the two largest ones stay half a step below the largest
ones. -/
theorem shortest_le_of_lt (tie : Tie) (hx : x.isZero = false)
    (hlt : x.magnitude + 1 < infinityBits) :
    (x.shortest tie).value ≤ halfStepBelow := by
  have hbound : (halfStepBelow : ℚ) = (2 ^ 55 - 6) * 2 ^ (969 : Int) := by
    unfold halfStepBelow
    rw [Nat.cast_mul, Nat.cast_pow]
    norm_num
  rw [hbound]
  refine (shortest_rounds tie hx).le.2.trans ?_
  unfold upper
  have hcases : x.exponent ≤ 970 ∧ x.significand < 2 ^ 53 ∨
      x.exponent = 971 ∧ x.significand + 2 ≤ 2 ^ 53 := by
    rcases significand_exponent x with ⟨hx, hs, he⟩ | ⟨k, hx, hl, hh, he⟩ <;>
      unfold hiddenBit infinityBits at * <;> omega
  rcases hcases with ⟨hexponent, hsignificand⟩ | ⟨hexponent, hsignificand⟩
  · have hsignificand' : (x.significand : ℚ) ≤ 2 ^ 53 := by exact_mod_cast hsignificand.le
    calc (4 * (x.significand : ℚ) + 2) * 2 ^ (x.exponent - 2)
        ≤ (4 * 2 ^ 53 + 2) * 2 ^ (968 : Int) := by
          gcongr
          · exact one_le_two
          · omega
      _ ≤ (2 ^ 55 - 6) * 2 * 2 ^ (968 : Int) := by
          gcongr
          norm_num
      _ = (2 ^ 55 - 6) * 2 ^ (969 : Int) := by
          rw [mul_assoc, ← zpow_one_add₀ two_ne_zero]
          rfl
  · have hsignificand' : (x.significand : ℚ) + 2 ≤ 2 ^ 53 := by exact_mod_cast hsignificand
    rw [hexponent]
    calc (4 * (x.significand : ℚ) + 2) * 2 ^ ((971 : Int) - 2)
        ≤ (2 ^ 55 - 6) * 2 ^ ((971 : Int) - 2) := by
          gcongr
          linarith
      _ = (2 ^ 55 - 6) * 2 ^ (969 : Int) := by norm_num

end Binary64

end GameLibrary.Number
