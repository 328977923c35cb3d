import GameLibrary.Proofs.Number.Nearest
import Mathlib.Algebra.Order.Ring.WithTop
import Mathlib.Order.WithBot

/-!
# The total order of doubles

The floating-point standard orders all doubles: numbers by their values, negative zero before
positive zero, and the NaNs outside of all numbers, on the side of their sign and by their payload.
`Binary64.Below` states these rules, and `below_iff` says that the position of a pattern
(`Binary64.totalKey`) follows them. No two patterns have the same position
(`total_key_injective`), so of two doubles that differ one is below the other.
-/

namespace GameLibrary.Number.Binary64

variable {x y : Binary64}

section Values

/-- A pattern that is larger is that of a double that is larger. -/
theorem size_strict_mono (h : x.magnitude < y.magnitude) : x.size < y.size := by
  -- Either the significands on one grid are compared, or the coarser grid begins where the finer
  -- one ends.
  have hlt : x.exponent = y.exponent ∧ x.significand < y.significand ∨
      x.exponent + 1 ≤ y.exponent ∧ x.significand < 2 * y.significand := by
    rcases significand_exponent x with ⟨hx, hxs, hxe⟩ | ⟨k, hx, hxl, hxh, hxe⟩ <;>
      rcases significand_exponent y with ⟨hy, hys, hye⟩ | ⟨l, hy, hyl, hyh, hye⟩ <;>
        unfold hiddenBit at * <;> omega
  unfold size
  rcases hlt with ⟨hexponent, hsignificand⟩ | ⟨hexponent, hsignificand⟩
  · rw [hexponent]
    gcongr
  · have hsignificand' : (x.significand : ℚ) < 2 * y.significand := by exact_mod_cast hsignificand
    calc (x.significand : ℚ) * 2 ^ x.exponent < 2 * y.significand * 2 ^ x.exponent := by gcongr
      _ = y.significand * 2 ^ (x.exponent + 1) := by
          rw [zpow_add_one₀ two_ne_zero]
          ring
      _ ≤ y.significand * 2 ^ y.exponent := by
          gcongr
          exact one_le_two

theorem size_lt_iff : x.size < y.size ↔ x.magnitude < y.magnitude := by
  refine ⟨fun h => ?_, size_strict_mono⟩
  by_contra hle
  exact absurd h (not_lt.2 (size_mono (not_lt.1 hle)))

theorem size_pos_iff : 0 < x.size ↔ 0 < x.magnitude := by
  refine ⟨fun h => Nat.pos_of_ne_zero fun hzero => ?_, fun h => ?_⟩
  · rw [size_of_magnitude_zero hzero] at h
    exact lt_irrefl 0 h
  · have hzero : x.isZero = false := decide_eq_false h.ne'
    have hsignificand := significand_pos hzero
    unfold size
    positivity

/-- The number that a finite double denotes. -/
def value (x : Binary64) : ℚ := if x.negative then -x.size else x.size

/-- The position on the line is the pattern with the sign. -/
theorem real_key_cases (x : Binary64) :
    (x.negative = true ∧ x.realKey = -x.magnitude) ∨
      (x.negative = false ∧ x.realKey = x.magnitude) := by
  unfold realKey
  cases x.negative <;> simp

/-- In the total order, the doubles with a sign are one position lower. -/
theorem total_key_cases (x : Binary64) :
    (x.negative = true ∧ x.totalKey = -x.magnitude - 1) ∨
      (x.negative = false ∧ x.totalKey = x.magnitude) := by
  unfold totalKey
  cases x.negative <;> simp

/-- Finite doubles lie on the real line as their positions say. -/
theorem value_lt_iff : x.value < y.value ↔ x.realKey < y.realKey := by
  have hx := size_nonneg x
  have hy := size_nonneg y
  unfold value realKey
  cases x.negative <;> cases y.negative
  · simp only [Bool.false_eq_true, if_false]
    rw [size_lt_iff, Int.ofNat_lt]
  · simp only [Bool.false_eq_true, if_false, if_true]
    constructor
    · intro h
      linarith
    · intro h
      omega
  · simp only [Bool.false_eq_true, if_false, if_true]
    have hboth : -x.size < y.size ↔ 0 < x.size ∨ 0 < y.size := by
      constructor
      · intro h
        by_contra hneither
        obtain ⟨hx', hy'⟩ := not_or.1 hneither
        linarith
      · rintro (h | h) <;> linarith
    rw [hboth, size_pos_iff, size_pos_iff]
    omega
  · simp only [if_true]
    rw [neg_lt_neg_iff, size_lt_iff]
    omega

/-- The number or infinity that a double denotes that is not a NaN. -/
def extended (x : Binary64) : WithBot (WithTop ℚ) :=
  if x.isFinite then ((x.value : WithTop ℚ) : WithBot (WithTop ℚ))
  else if x.negative then ⊥
  else ((⊤ : WithTop ℚ) : WithBot (WithTop ℚ))

/-- A finite double has a pattern below that of the infinities, and another number has theirs. -/
theorem magnitude_of_number (hx : x.isNaN = false) :
    (x.isFinite = true ∧ x.magnitude < infinityBits) ∨
      (x.isFinite = false ∧ x.magnitude = infinityBits) := by
  simp only [isNaN, isFinite, decide_eq_true_eq, decide_eq_false_iff_not] at *
  omega

/-- Numbers and infinities lie on the line as their positions say. -/
theorem extended_lt_iff (hx : x.isNaN = false) (hy : y.isNaN = false) :
    x.extended < y.extended ↔ x.realKey < y.realKey := by
  have hrealX := x.real_key_cases
  have hrealY := y.real_key_cases
  have hinfinity : 0 < infinityBits := by decide
  have hbelow : ((x.value : WithTop ℚ) : WithBot (WithTop ℚ)) < ⊤ :=
    WithBot.coe_lt_coe.2 (WithTop.coe_lt_top x.value)
  unfold extended
  rcases magnitude_of_number hx with ⟨hx, hxm⟩ | ⟨hx, hxm⟩ <;>
    rcases magnitude_of_number hy with ⟨hy, hym⟩ | ⟨hy, hym⟩
  · rw [if_pos hx, if_pos hy, WithBot.coe_lt_coe, WithTop.coe_lt_coe]
    exact value_lt_iff
  -- An infinity is at the end of the line on the side of its sign.
  all_goals
    rcases hrealX with ⟨hxn, hxr⟩ | ⟨hxn, hxr⟩ <;> rcases hrealY with ⟨hyn, hyr⟩ | ⟨hyn, hyr⟩ <;>
      simp [hx, hy, hxn, hyn, hbelow] <;> omega

end Values

/-- A double is below another one in the total order. -/
inductive Below (x y : Binary64) : Prop where
  /-- Numbers and infinities are ordered by their values. -/
  | values : x.isNaN = false → y.isNaN = false → x.extended < y.extended → Below x y
  /-- The zeros are ordered by their signs. -/
  | zeros : x.isZero = true → y.isZero = true → x.negative = true → y.negative = false → Below x y
  /-- Negative NaNs are below all others. -/
  | negativeNaN : x.isNaN = true → x.negative = true → (y.isNaN = true → y.negative = false) →
      Below x y
  /-- Positive NaNs are above all others. -/
  | positiveNaN : y.isNaN = true → y.negative = false → (x.isNaN = true → x.negative = true) →
      Below x y
  /-- NaNs of one sign are ordered by their payloads, the negative ones the other way round. -/
  | payloads : x.isNaN = true → y.isNaN = true → x.negative = y.negative →
      (if x.negative then y.magnitude < x.magnitude else x.magnitude < y.magnitude) → Below x y

/-- The position of a pattern follows the rules of the total order. -/
theorem below_iff : Below x y ↔ x.totalKey < y.totalKey := by
  have hrealX := x.real_key_cases
  have hrealY := y.real_key_cases
  have htotalX := x.total_key_cases
  have htotalY := y.total_key_cases
  have hnan : ∀ z : Binary64, z.isNaN = true ↔ infinityBits < z.magnitude :=
    fun _ => decide_eq_true_iff
  have hzero : ∀ z : Binary64, z.isZero = true ↔ z.magnitude = 0 := fun _ => decide_eq_true_iff
  constructor
  · intro h
    cases h with
    | values hx hy hlt =>
        rw [extended_lt_iff hx hy] at hlt
        grind
    | zeros hx hy hnegative hpositive =>
        rw [hzero] at hx hy
        grind
    | negativeNaN hx hnegative hy => grind
    | positiveNaN hy hpositive hx => grind
    | payloads hx hy hsign hpayload => grind
  · intro h
    by_cases hx : x.isNaN = true <;> by_cases hy : y.isNaN = true
    · by_cases hsign : x.negative = y.negative
      · exact .payloads hx hy hsign (by grind)
      · exact .negativeNaN hx (by grind) (by grind)
    · exact .negativeNaN hx (by grind) fun hnot => absurd hnot hy
    · exact .positiveNaN hy (by grind) fun hnot => absurd hnot hx
    · rw [Bool.not_eq_true] at hx hy
      by_cases hlt : x.realKey < y.realKey
      · exact .values hx hy ((extended_lt_iff hx hy).2 hlt)
      · -- Only the signs of the zeros are told apart beyond the values.
        exact .zeros (by grind) (by grind) (by grind) (by grind)

/-- The total order tells any two doubles apart. -/
theorem total_key_injective : Function.Injective totalKey := by
  intro x y h
  have hx : x.bits.toNat < 2 * signBit := x.bits.toNat_lt
  have hy : y.bits.toNat < 2 * signBit := y.bits.toNat_lt
  have hsplit : ∀ n, n < 2 * signBit → signBit ≤ n →
      n % signBit = n - signBit := by
    intro n hn hle
    rw [Nat.mod_eq_sub_mod hle, Nat.mod_eq_of_lt (by omega)]
  have hbits : x.bits.toNat = y.bits.toNat := by
    unfold totalKey negative magnitude at h
    simp only [decide_eq_true_eq] at h
    split at h <;> split at h
    · rename_i hxs hys
      rw [hsplit _ hx hxs, hsplit _ hy hys] at h
      omega
    · omega
    · omega
    · rename_i hxs hys
      rw [Nat.mod_eq_of_lt (Nat.lt_of_not_le hxs), Nat.mod_eq_of_lt (Nat.lt_of_not_le hys)] at h
      omega
  cases x
  cases y
  exact congrArg mk (UInt64.toNat_inj.1 hbits)

end GameLibrary.Number.Binary64
