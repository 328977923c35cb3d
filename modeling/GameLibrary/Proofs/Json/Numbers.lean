import GameLibrary.Proofs.Json.Scanner
import GameLibrary.Proofs.Number.Shortest

/-!
# Printed numbers as literals

The text of an integer and of a finite double are those of literals (`chars_of_int`,
`chars_double_literal`), written as numbers are. The literal of an integer of sixty-four bits denotes
the integer (`integer_of_int`). The literal of a finite double denotes a double (`double_is_some`): the
rounded steps in which it is read never go beyond the largest one, although what comes out may be
another double than the one printed.
-/

namespace GameLibrary.Json

open Number (Binary64 Decimal DecimalFormat)
open Text (decimalDigits digitChars)

section Integers

variable {n : Int}

/-- The digits of a number stand before a point. -/
theorem is_whole_decimal_digits (n : Nat) : IsWhole (decimalDigits n) := by
  refine ⟨Text.lt_ten_of_mem, ?_⟩
  by_cases hn : n = 0
  · subst hn
    exact .inl rfl
  · exact .inr (Text.head_decimal_digits hn)

/-- The literal of an integer. -/
def Literal.ofInt (n : Int) : Literal := ⟨decide (n < 0), decimalDigits n.natAbs, [], none⟩

theorem well_formed_of_int (n : Int) : (Literal.ofInt n).WellFormed where
  whole := is_whole_decimal_digits n.natAbs
  fraction := fun _ hd => absurd hd List.not_mem_nil
  power := nofun

/-- An integer is written with the characters of its literal. -/
theorem chars_of_int (n : Int) : (Literal.ofInt n).chars = (toString n).toList := by
  have hchars : (Literal.ofInt n).chars =
      (if n < 0 then ['-'] else []) ++ digitChars (decimalDigits n.natAbs) := by
    simp [Literal.chars, Literal.ofInt, Literal.fractionChars, Literal.powerChars]
  rw [hchars, ← Text.to_list_to_string_nat]
  cases n with
  | ofNat m => rfl
  | negSucc m =>
      rw [if_pos (Int.negSucc_lt_zero m)]
      exact (String.toList_append (s := "-")).symm

/-- The literal of an integer of sixty-four bits denotes the integer. -/
theorem integer_of_int (hlow : -0x8000000000000000 ≤ n) (hhigh : n < 0x10000000000000000) :
    (Literal.ofInt n).integer? = some n := by
  unfold Literal.integer? Literal.ofInt
  rw [Text.value_decimal_digits]
  by_cases hneg : n < 0
  · have hpos : 0 < n.natAbs := by omega
    have hsize : n.natAbs ≤ 0x8000000000000000 := by omega
    have hvalue : -(n.natAbs : Int) = n := by omega
    simp only [ne_eq, not_true_eq_false, or_self, if_false, hneg, decide_true, if_true, hpos, hsize,
      and_self, hvalue]
  · have hsize : n.natAbs < 0x10000000000000000 := by omega
    have hvalue : (n.natAbs : Int) = n := by omega
    simp only [ne_eq, not_true_eq_false, or_self, if_false, hneg, decide_false, Bool.false_eq_true,
      hsize, if_true, hvalue]

end Integers

section Doubles

/-- The literal of some digits of which `point` stand before the decimal point. -/
def positionalLiteral (negative : Bool) (digits : List Nat) (point : Int) : Literal :=
  if digits.length ≤ point then
    ⟨negative, digits ++ List.replicate (point - digits.length).toNat 0, [0], none⟩
  else if 0 < point then ⟨negative, digits.take point.toNat, digits.drop point.toNat, none⟩
  else ⟨negative, [0], List.replicate (-point).toNat 0 ++ digits, none⟩

/-- The literal with one digit before the point, and a power of ten. -/
def scientificLiteral (negative : Bool) (digits : List Nat) (point : Int) : Literal :=
  ⟨negative, digits.take 1, digits.drop 1,
    some (decide (point - 1 < 0), decimalDigits (point - 1).natAbs)⟩

/-- The literal of a finite double. -/
def doubleLiteral (x : Binary64) : Literal :=
  if x.isZero then ⟨x.negative, [0], [0], none⟩
  else
    let d := x.shortest .toEven
    let digits := decimalDigits d.digits
    let point := digits.length + d.exponent
    if -5 < point && point ≤ 16 then positionalLiteral x.negative digits point
    else scientificLiteral x.negative digits point

variable {digits : List Nat} {point : Int} {negative : Bool} {x : Binary64}

/-- Digits of which the first is no zero. -/
structure Leading (digits : List Nat) : Prop where
  digit : ∀ d ∈ digits, d < 10
  first : ∃ d rest, digits = d :: rest ∧ d ≠ 0

theorem Leading.ne_nil (h : Leading digits) : digits ≠ [] := by
  obtain ⟨d, rest, rfl, -⟩ := h.first
  exact List.cons_ne_nil d rest

theorem well_formed_positional (h : Leading digits) :
    (positionalLiteral negative digits point).WellFormed := by
  unfold positionalLiteral
  split
  · rename_i hlong
    refine ⟨⟨fun d hd => ?_, ?_⟩, by simp, nofun⟩
    · rcases List.mem_append.1 hd with hd | hd
      · exact h.digit d hd
      · rw [List.eq_of_mem_replicate hd]
        decide
    · obtain ⟨d, rest, rfl, hd⟩ := h.first
      exact .inr ⟨d, _, List.cons_append, hd⟩
  · rename_i hlong
    split
    · rename_i hpos
      refine ⟨⟨fun d hd => h.digit d (List.mem_of_mem_take hd), ?_⟩,
        fun d hd => h.digit d (List.mem_of_mem_drop hd), nofun⟩
      obtain ⟨d, rest, rfl, hd⟩ := h.first
      obtain ⟨k, hk⟩ := Nat.exists_eq_succ_of_ne_zero (show point.toNat ≠ 0 by omega)
      exact .inr ⟨d, rest.take k, by rw [hk]; rfl, hd⟩
    · refine ⟨⟨by simp, .inl rfl⟩, fun d hd => ?_, nofun⟩
      rcases List.mem_append.1 hd with hd | hd
      · rw [List.eq_of_mem_replicate hd]
        decide
      · exact h.digit d hd

theorem well_formed_scientific (h : Leading digits) :
    (scientificLiteral negative digits point).WellFormed := by
  refine ⟨⟨fun d hd => h.digit d (List.mem_of_mem_take hd), ?_⟩,
    fun d hd => h.digit d (List.mem_of_mem_drop hd), fun {sign power} hpower => ?_⟩
  · obtain ⟨d, rest, rfl, hd⟩ := h.first
    exact .inr ⟨d, [], rfl, hd⟩
  · obtain ⟨-, rfl⟩ := Prod.mk.inj (Option.some.inj hpower)
    exact ⟨Text.decimal_digits_ne_nil _, Text.lt_ten_of_mem⟩

/-- The digits of a double that is not zero. -/
theorem leading_shortest (hx : x.isZero = false) :
    Leading (decimalDigits (x.shortest .toEven).digits) :=
  ⟨Text.lt_ten_of_mem, Text.head_decimal_digits (Binary64.shortest_digits_ne_zero .toEven hx)⟩

theorem well_formed_double_literal (x : Binary64) : (doubleLiteral x).WellFormed := by
  unfold doubleLiteral
  split
  · exact ⟨⟨by simp, .inl rfl⟩, by simp, nofun⟩
  · rename_i hx
    have hleading := leading_shortest (Bool.eq_false_iff.2 hx)
    dsimp only
    split
    · exact well_formed_positional hleading
    · exact well_formed_scientific hleading

theorem fraction_positional (hdigits : digits ≠ []) :
    (positionalLiteral negative digits point).fraction ≠ [] := by
  unfold positionalLiteral
  split
  · exact List.cons_ne_nil _ _
  · split
    · dsimp only
      rw [ne_eq, List.drop_eq_nil_iff]
      omega
    · exact List.append_ne_nil_of_right_ne_nil _ hdigits

theorem power_positional : (positionalLiteral negative digits point).power = none := by
  unfold positionalLiteral
  split
  · rfl
  · split <;> rfl

/-- Positional notation. -/
theorem chars_positional (hdigits : digits ≠ []) :
    (positionalLiteral negative digits point).chars =
      (if negative then ['-'] else []) ++
        (doubleFormat.positionalText (digitChars digits) point).toList := by
  have hlength : (digitChars digits).length = digits.length := List.length_map _
  unfold positionalLiteral DecimalFormat.positionalText
  simp only [hlength]
  split
  · simp [Literal.chars, Literal.fractionChars, Literal.powerChars, digitChars, doubleFormat]
    rfl
  · rename_i hlong
    split
    · have hdrop : digits.drop point.toNat ≠ [] := by
        rw [ne_eq, List.drop_eq_nil_iff]
        omega
      simp [Literal.chars, Literal.fractionChars, Literal.powerChars, digitChars, hdrop]
    · simp [Literal.chars, Literal.fractionChars, Literal.powerChars, digitChars, hdigits]

/-- Scientific notation. -/
theorem chars_scientific (hdigits : digits ≠ []) :
    (scientificLiteral negative digits point).chars =
      (if negative then ['-'] else []) ++
        (DecimalFormat.scientificText (digitChars digits) point).toList := by
  obtain ⟨d, rest, rfl⟩ := List.exists_cons_of_ne_nil hdigits
  unfold scientificLiteral DecimalFormat.scientificText Literal.chars Literal.fractionChars
    Literal.powerChars
  dsimp only
  rw [String.toList_append, String.toList_append, String.toList_ofList, Text.to_list_to_string_nat]
  cases rest <;> by_cases hpower : point - 1 < 0 <;> simp [digitChars, hpower]

/-- A finite double is written with the characters of its literal. -/
theorem chars_double_literal (hx : x.isFinite) : (doubleLiteral x).chars = (doubleText x).toList := by
  have hsign : (if x.negative then "-" else "").toList = if x.negative then ['-'] else [] := by
    split <;> rfl
  unfold doubleText doubleLiteral DecimalFormat.render
  dsimp only
  rw [if_pos hx]
  split
  · rw [String.toList_append, String.toList_append, hsign]
    cases x.negative <;> rfl
  · have hdigits : decimalDigits (x.shortest .toEven).digits ≠ [] := Text.decimal_digits_ne_nil _
    have hlength : (digitChars (decimalDigits (x.shortest .toEven).digits)).length =
        (decimalDigits (x.shortest .toEven).digits).length := List.length_map _
    simp only [doubleFormat, Text.to_list_to_string_nat, hlength]
    rw [String.toList_append, hsign]
    split
    · exact chars_positional hdigits
    · exact chars_scientific hdigits

end Doubles

section Significands

/-- Some digits behind a number. -/
def appendDigits (n : Nat) (digits : List Nat) : Nat := digits.foldl (fun n d => n * 10 + d) n

theorem le_append_digits (n : Nat) (digits : List Nat) :
    n * 10 ^ digits.length ≤ appendDigits n digits := by
  induction digits generalizing n with
  | nil => simp [appendDigits]
  | cons d rest ih =>
      have hrest := ih (n * 10 + d)
      rw [List.length_cons, Nat.pow_succ']
      calc n * (10 * 10 ^ rest.length) = n * 10 * 10 ^ rest.length := by ring
        _ ≤ (n * 10 + d) * 10 ^ rest.length := Nat.mul_le_mul_right _ (Nat.le_add_right _ _)
        _ ≤ appendDigits (n * 10 + d) rest := hrest

/-- Few digits before the point all fit. -/
theorem read_whole_of_short {digits : List Nat} {value places : Nat}
    (hdigits : ∀ d ∈ digits, d < 10) (hvalue : value < 10 ^ places)
    (hplaces : places + digits.length ≤ 16) :
    ∃ n < 10 ^ 16, Significand.readWhole ⟨value, 0⟩ digits = ⟨n, 0⟩ := by
  induction digits generalizing value places with
  | nil => exact ⟨value, lt_of_lt_of_le hvalue (Nat.pow_le_pow_right (by decide) hplaces), rfl⟩
  | cons d rest ih =>
      have hd := hdigits d List.mem_cons_self
      rw [List.length_cons] at hplaces
      have hnext : value * 10 + d < 10 ^ (places + 1) := by
        rw [Nat.pow_succ]
        omega
      have hfits : Significand.fits ⟨value, 0⟩ d = true := by
        have hpow : 10 ^ (places + 1) ≤ 10 ^ 16 := Nat.pow_le_pow_right (by decide) (by omega)
        unfold Significand.fits
        simp only [decide_eq_true_eq]
        omega
      unfold Significand.readWhole
      rw [if_pos hfits]
      exact ih (fun d hmem => hdigits d (List.mem_cons_of_mem _ hmem)) hnext (by omega)

/-- What is known of digits behind the point once they are read. -/
structure DecimalsRead (s : Significand) (digits : List Nat) (result : Significand) : Prop where
  scale : result.scale ≤ s.scale
  value : s.value ≤ result.value
  fits : s.value < 2 ^ 64 → result.value < 2 ^ 64
  size : (result.value : ℚ) * 10 ^ result.scale ≤
    appendDigits s.value digits * 10 ^ (s.scale - digits.length)

theorem read_decimals_read (s : Significand) (digits : List Nat) :
    DecimalsRead s digits (s.readDecimals digits) := by
  induction digits generalizing s with
  | nil => exact ⟨le_refl _, le_refl _, id, by simp [Significand.readDecimals, appendDigits]⟩
  | cons d rest ih =>
      unfold Significand.readDecimals
      split
      · rename_i hfits
        obtain ⟨hscale, hvalue, hmore, hsize⟩ := ih ⟨s.value * 10 + d, s.scale - 1⟩
        dsimp only at hscale hvalue hmore hsize
        unfold Significand.fits at hfits
        refine ⟨by omega, by omega, fun _ => hmore (of_decide_eq_true hfits), hsize.trans ?_⟩
        rw [List.length_cons, Nat.cast_succ, sub_sub, add_comm (1 : Int)]
        exact le_refl _
      · refine ⟨le_refl _, le_refl _, id, ?_⟩
        have hle : (s.value : ℚ) * 10 ^ (d :: rest).length ≤ appendDigits s.value (d :: rest) := by
          exact_mod_cast le_append_digits s.value (d :: rest)
        calc (s.value : ℚ) * 10 ^ s.scale
            = s.value * 10 ^ (d :: rest).length * 10 ^ (s.scale - (d :: rest).length) := by
              rw [mul_assoc, ← zpow_natCast, ← zpow_add₀ (by norm_num), add_sub_cancel]
          _ ≤ appendDigits s.value (d :: rest) * 10 ^ (s.scale - (d :: rest).length) := by gcongr

end Significands

section Readable

/-- A double divided by a power of ten is a double. -/
theorem scale_by_ten_of_neg (x : Binary64) {power : Int} (hpower : power < 0) :
    (scaleByTen x power).isSome := by
  induction x, power using scaleByTen.induct with
  | case1 | case2 | case3 | case4 => omega
  | case5 x power hneg hle =>
      unfold scaleByTen
      rw [if_neg hneg, if_pos hle]
      rfl
  | case6 x power hneg hle hzero =>
      unfold scaleByTen
      rw [if_neg hneg, if_neg hle, if_pos hzero]
      rfl
  | case7 x power hneg hle hzero ih =>
      unfold scaleByTen
      rw [if_neg hneg, if_neg hle, if_neg hzero]
      refine ih ?_
      unfold greatestPower at *
      omega

/-- The largest numbers of sixty-four bits whose products with one of the largest powers of ten stay
half a step below the largest double: their product is rounded to a double. -/
theorem product_is_finite : ∀ more : Fin 21,
    ((Binary64.ofNat (min (2 ^ 64 - 1) (Binary64.halfStepBelow / 10 ^ (288 + more.val)))).mul
      (.ofNat (10 ^ (288 + more.val)))).isFinite := by
  decide +kernel

/-- A power of ten that is below the largest double is one of the known ones. -/
theorem le_greatest_power {power : Nat} (h : 10 ^ power ≤ Binary64.halfStepBelow) :
    power ≤ greatestPower := by
  have hlt : ∀ limit, Binary64.halfStepBelow < 10 ^ limit → power < limit := fun _ hlimit =>
    (Nat.pow_lt_pow_iff_right (by decide)).1 (h.trans_lt hlimit)
  exact Nat.le_of_lt_succ (hlt (greatestPower + 1) (by decide +kernel))

/-- A number of sixty-four bits times a power of ten is a double if it stays half a step below the
largest one. -/
theorem scale_by_ten_of_le {n power : Nat} (hn : 0 < n) (hfits : n < 2 ^ 64)
    (hle : n * 10 ^ power ≤ Binary64.halfStepBelow) :
    (scaleByTen (.ofNat n) power).isSome := by
  have hpower : power ≤ greatestPower := le_greatest_power ((Nat.le_mul_of_pos_left _ hn).trans hle)
  unfold greatestPower at hpower
  -- A smaller power of ten is not more than the least of the largest ones.
  obtain ⟨more, hmore, hpower', hquotient⟩ : ∃ more < 21, power ≤ 288 + more ∧
      n ≤ Binary64.halfStepBelow / 10 ^ (288 + more) := by
    by_cases hsmall : power ≤ 288
    · refine ⟨0, by decide, hsmall, (Nat.le_of_lt hfits).trans ?_⟩
      decide +kernel
    · refine ⟨power - 288, by omega, by omega, ?_⟩
      rw [Nat.add_sub_cancel' (by omega)]
      exact (Nat.le_div_iff_mul_le (by positivity)).2 hle
  have hproduct := product_is_finite ⟨more, hmore⟩
  dsimp only at hproduct
  have hfactor : (Binary64.ofNat
      (min (2 ^ 64 - 1) (Binary64.halfStepBelow / 10 ^ (288 + more)))).isFinite :=
    Binary64.is_finite_of_nat (min_le_left _ _) (by decide +kernel)
  have hten : (Binary64.ofNat (10 ^ (288 + more))).isFinite :=
    Binary64.is_finite_of_nat (Nat.pow_le_pow_right (by decide) (show 288 + more ≤ 308 by omega))
      (by decide +kernel)
  have hmono := Binary64.magnitude_mul_mono
    (Binary64.magnitude_of_nat_mono (le_min (show n ≤ 2 ^ 64 - 1 by omega) hquotient))
    (Binary64.magnitude_of_nat_mono (Nat.pow_le_pow_right (by decide) hpower')) hfactor hten
  have hfinite : ((Binary64.ofNat n).mul (.ofNat (10 ^ power))).isInfinite = false := by
    simp only [Binary64.isFinite, Binary64.isInfinite, decide_eq_true_eq,
      decide_eq_false_iff_not] at *
    omega
  unfold scaleByTen
  rw [if_pos (Int.natCast_nonneg power), if_pos (by exact_mod_cast hpower)]
  simp [hfinite]

variable {l : Literal} {digits : List Nat} {point : Int} {negative : Bool} {x : Binary64}

/-- A literal whose absolute value is a double denotes a double. -/
theorem double_of_size (h : l.size?.isSome) : l.double?.isSome := by
  unfold Literal.double?
  split
  · rfl
  · rw [Option.isSome_map]
    exact h

/-- A literal with few digits before the point and some behind it denotes a double. -/
theorem size_of_short (hwhole : ∀ d ∈ l.whole, d < 10) (hlength : l.whole.length ≤ 16)
    (hfraction : ∃ d rest, l.fraction = d :: rest ∧ d < 10) (hpower : l.power = none) :
    l.size?.isSome := by
  obtain ⟨n, hn, hread⟩ := read_whole_of_short hwhole (show 0 < 10 ^ 0 by decide)
    (by rwa [Nat.zero_add])
  obtain ⟨d, rest, hdecimals, hd⟩ := hfraction
  have hfits : Significand.fits ⟨n, 0⟩ d = true := by
    unfold Significand.fits
    simp only [decide_eq_true_eq]
    omega
  have hscale : l.significand.scale < 0 := by
    unfold Literal.significand
    rw [hread, hdecimals, Significand.readDecimals, if_pos hfits]
    exact lt_of_le_of_lt (read_decimals_read _ rest).scale (show (0 : Int) - 1 < 0 by decide)
  unfold Literal.size?
  rw [hpower]
  exact scale_by_ten_of_neg _ hscale

theorem size_positional (h : Leading digits) (hpoint : point ≤ 16) :
    (positionalLiteral negative digits point).size?.isSome := by
  have hwell : (positionalLiteral negative digits point).WellFormed := well_formed_positional h
  refine size_of_short hwell.whole.digit ?_ ?_ ?_
  · unfold positionalLiteral
    split
    · simp
      omega
    · split
      · simp
        omega
      · simp
  · obtain ⟨d, rest, hfraction⟩ := List.exists_cons_of_ne_nil (fraction_positional h.ne_nil)
    refine ⟨d, rest, hfraction, hwell.fraction d ?_⟩
    rw [hfraction]
    exact List.mem_cons_self
  · exact power_positional

/-- In scientific notation the digits behind the first one are decimals, and the power is the place
of the first one. -/
theorem scientific_read {n d : Nat} {rest : List Nat} (hdigits : decimalDigits n = d :: rest)
    (hlt : d < 10) (negative : Bool) (exponent : Int) :
    let l := scientificLiteral negative (decimalDigits n) ((decimalDigits n).length + exponent)
    l.significand = Significand.readDecimals ⟨d, 0⟩ rest ∧
      l.power = some (decide (rest.length + exponent < 0),
        decimalDigits (rest.length + exponent).natAbs) := by
  have hlength : ((decimalDigits n).length : Int) + exponent - 1 = rest.length + exponent := by
    rw [hdigits, List.length_cons]
    push_cast
    omega
  have hfit : Significand.fits ⟨0, 0⟩ d = true := by
    unfold Significand.fits
    simp only [decide_eq_true_eq]
    omega
  constructor
  · simp [Literal.significand, scientificLiteral, hdigits, Significand.readWhole, hfit]
  · unfold scientificLiteral
    rw [hlength]

/-- In scientific notation a number half a step below the largest double denotes a double. -/
theorem size_scientific {n : Nat} {exponent : Int} (hn : n ≠ 0)
    (hle : Decimal.value ⟨n, exponent⟩ ≤ Binary64.halfStepBelow) :
    (scientificLiteral negative (decimalDigits n)
      ((decimalDigits n).length + exponent)).size?.isSome := by
  obtain ⟨d, rest, hdigits, hd⟩ := Text.head_decimal_digits hn
  have hlt : d < 10 := Text.lt_ten_of_mem d (by rw [hdigits]; exact List.mem_cons_self)
  have hn : appendDigits d rest = n := by
    have hvalue := Text.value_decimal_digits n
    rw [hdigits] at hvalue
    simpa [Json.valueOfDigits, appendDigits] using hvalue
  obtain ⟨hscale, hvalue, hfits, hsize⟩ := read_decimals_read ⟨d, 0⟩ rest
  dsimp only at hscale hvalue hfits hsize
  obtain ⟨hsignificand, hpower⟩ := scientific_read hdigits hlt negative exponent
  generalize hs : Significand.readDecimals ⟨d, 0⟩ rest = s at *
  generalize hp : (rest.length : Int) + exponent = p at *
  unfold Literal.size?
  dsimp only
  rw [hsignificand, hpower]
  dsimp only
  rw [Text.value_decimal_digits]
  by_cases hneg : p < 0
  · simp only [hneg, decide_true, if_true, Bool.not_true, Bool.false_eq_true, and_false, if_false]
    split
    · exact scale_by_ten_of_neg _ (by omega)
    · rfl
  · have hbound : ∀ {m k : Nat}, (m : ℚ) * 10 ^ (k : Int) ≤ Decimal.value ⟨n, exponent⟩ →
        m * 10 ^ k ≤ Binary64.halfStepBelow := by
      intro m k hsmall
      rw [zpow_natCast] at hsmall
      exact_mod_cast hsmall.trans hle
    have hlarge : p.natAbs ≤ greatestPower := by
      refine le_greatest_power
        (le_trans (Nat.le_mul_of_pos_left _ (Nat.pos_of_ne_zero hd)) (hbound ?_))
      have hdigit : (d : ℚ) * 10 ^ rest.length ≤ n := by
        rw [← hn]
        exact_mod_cast le_append_digits d rest
      have hp' : (p.natAbs : Int) = rest.length + exponent := by omega
      rw [hp', zpow_add₀ (by norm_num), ← mul_assoc, zpow_natCast]
      unfold Decimal.value
      gcongr
    unfold greatestPower at hlarge
    rw [if_pos (by omega)]
    simp only [hneg, decide_false, Bool.false_eq_true, if_false]
    by_cases htotal : s.scale + p.natAbs < 0
    · exact scale_by_ten_of_neg _ htotal
    · obtain ⟨k, hk⟩ := Int.eq_ofNat_of_zero_le (not_lt.1 htotal)
      rw [hk]
      refine scale_by_ten_of_le (by omega) (hfits (by omega)) (hbound ?_)
      have hk' : (k : Int) = s.scale + (rest.length + exponent) := by omega
      have hexponent : (0 : Int) - rest.length + (rest.length + exponent) = exponent := by omega
      rw [hk', zpow_add₀ (by norm_num), ← mul_assoc]
      refine (mul_le_mul_of_nonneg_right hsize (by positivity)).trans (le_of_eq ?_)
      rw [mul_assoc, ← zpow_add₀ (by norm_num), hexponent, hn]
      rfl

/-- The literal of a finite double denotes a double. -/
theorem double_is_some (hx : x.isFinite) : (doubleLiteral x).double?.isSome := by
  by_cases hzero : x.isZero
  · refine double_of_size ?_
    unfold doubleLiteral
    rw [if_pos hzero]
    exact size_of_short (by simp) (by simp) ⟨0, [], rfl, by decide⟩ rfl
  · have hx' : x.isZero = false := Bool.eq_false_iff.2 hzero
    by_cases hlargest : x.magnitude + 1 < Binary64.infinityBits
    · refine double_of_size ?_
      unfold doubleLiteral
      rw [if_neg hzero]
      dsimp only
      have hleading := leading_shortest hx'
      split
      · rename_i hpoint
        rw [Bool.and_eq_true, decide_eq_true_eq, decide_eq_true_eq] at hpoint
        exact size_positional hleading hpoint.2
      · exact size_scientific (Binary64.shortest_digits_ne_zero .toEven hx')
          (Binary64.shortest_le_of_lt .toEven hx' hlargest)
    · -- The two largest doubles are read back as themselves.
      have hbits : x.bits.toNat = 0x7fefffffffffffff ∨ x.bits.toNat = 0xffefffffffffffff := by
        have hlt := x.bits.toNat_lt
        simp only [Binary64.isFinite, decide_eq_true_eq] at hx
        unfold Binary64.magnitude Binary64.infinityBits Binary64.signBit at *
        omega
      obtain ⟨bits⟩ := x
      have heq : bits = 0x7fefffffffffffff ∨ bits = 0xffefffffffffffff := by
        rcases hbits with hbits | hbits
        · exact .inl (UInt64.toNat_inj.1 hbits)
        · exact .inr (UInt64.toNat_inj.1 hbits)
      rcases heq with rfl | rfl <;> decide +kernel

end Readable

end GameLibrary.Json
