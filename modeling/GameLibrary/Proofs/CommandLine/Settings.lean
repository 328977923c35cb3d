import GameLibrary.CommandLine.Program
import GameLibrary.Proofs.Number.Nearest

/-!
# The numbers of a command line

The numbers that a command line may give have sixty-four bits (`sized_of_read`). Whatever they are,
the durations that are made of them can be told (`Sized.in_range`). Four fifths of a number of
seconds are computed in doubles, but rounding is monotone (`four_fifths_mono`), so that only the
greatest number has to be looked at. In the same way there is a least number of seconds of which four
fifths are as long as the clock can show (`four_fifths_far_iff`).
-/

namespace GameLibrary.CommandLine.Arguments

open Number Binary64

section Fractions

variable {s t : Nat}

/-- Four fifths of a number of seconds as a double. -/
def fourFifthsDouble (s : Nat) : Binary64 := (ofRatio false 8 10).mul (.ofNat s)

/-- Four fifths are the double in nanoseconds, rounded. -/
theorem four_fifths_eq (s : Nat) : ∃ num den : Nat, 0 < den ∧
    (num : ℚ) / den = (fourFifthsDouble s).size * 1000000000 ∧
      (fourFifths s).nanoseconds = roundHalfEven num den := by
  let double := fourFifthsDouble s
  let scaled := scaleRatio double.significand 1 (-double.exponent)
  obtain ⟨hden, hratio⟩ := scale_ratio_ratio double.significand one_pos (-double.exponent)
  refine ⟨scaled.1 * 1000000000, scaled.2, hden, ?_, rfl⟩
  rw [Nat.cast_one, div_one, neg_neg] at hratio
  rw [Nat.cast_mul, mul_div_right_comm, hratio, Nat.cast_ofNat]
  rfl

theorem four_fifths_mono (h : s ≤ t) (ht : t < 2 ^ 64) :
    (fourFifths s).nanoseconds ≤ (fourFifths t).nanoseconds := by
  -- Below `2 ^ 64` no double is infinite, so that the product is rounded like any other.
  have hfinite : (ofNat t).isFinite := is_finite_of_nat ht.le (by decide +kernel)
  have hmagnitude : (fourFifthsDouble s).magnitude ≤ (fourFifthsDouble t).magnitude :=
    magnitude_mul_mono le_rfl (magnitude_of_nat_mono h) (by decide +kernel) hfinite
  obtain ⟨num, den, hden, hratio, hrounded⟩ := four_fifths_eq s
  obtain ⟨num', den', hden', hratio', hrounded'⟩ := four_fifths_eq t
  rw [hrounded, hrounded']
  refine round_half_even_mono hden hden' ?_
  rw [hratio, hratio']
  exact mul_le_mul_of_nonneg_right (size_mono hmagnitude) (by norm_num)

/-- Four fifths of every number of seconds can be told. -/
theorem four_fifths_le_longest (hs : s < 2 ^ 64) : fourFifths s ≤ Duration.longest :=
  (four_fifths_mono (Nat.le_sub_one_of_lt hs) (by decide)).trans (by decide +kernel)

/-- Four fifths are as long as the clock can show from five times `2 ^ 61` seconds on; rounding
brings the numbers just below to this limit too. -/
theorem four_fifths_far_iff (hs : s < 2 ^ 64) :
    2 ^ 63 * 1000000000 ≤ (fourFifths s).nanoseconds ↔ 5 * 2 ^ 61 - 1024 ≤ s := by
  have hleast : 2 ^ 63 * 1000000000 ≤ (fourFifths (5 * 2 ^ 61 - 1024)).nanoseconds := by
    decide +kernel
  have hbefore : (fourFifths (5 * 2 ^ 61 - 1024 - 1)).nanoseconds < 2 ^ 63 * 1000000000 := by
    decide +kernel
  constructor
  · intro hfar
    by_contra hlt
    have hle := four_fifths_mono (Nat.le_sub_one_of_lt (not_le.1 hlt)) (by decide)
    exact absurd (hfar.trans hle) (not_le.2 hbefore)
  · exact fun hle => hleast.trans (four_fifths_mono hle hs)

end Fractions

section Reading

variable {arguments : List String} {environment : String → Option String} {asked : Arguments}

theorem natural_lt {bits n : Nat} {text : String} (h : Text.natural? bits text = some n) :
    n < 2 ^ bits := by
  unfold Text.natural? at h
  dsimp only at h
  split at h
  · rename_i hdigits
    cases h
    exact hdigits.2.2
  · cases h

/-- A number that is given has sixty-four bits. -/
theorem number_or_lt {default : Nat} (hdefault : default < 2 ^ 64) (given : Given)
    (name : String) : numberOr default given name < 2 ^ 64 := by
  unfold numberOr
  cases hnumber : (value? given name).bind (Text.natural? 64) with
  | none => exact hdefault
  | some n =>
      obtain ⟨text, -, hn⟩ := Option.bind_eq_some_iff.1 hnumber
      exact natural_lt hn

/-- What a command line asks for is made of the options that it and its environment give. -/
theorem exists_given_of_read (hread : read arguments environment = .ok asked) :
    ∃ given, asked = ofGiven given := by
  unfold read at hread
  cases hscan : scan [] none arguments with
  | error refusal => simp [hscan, bind, Except.bind] at hread
  | ok scanned =>
      cases hgiven : withEnvironment environment scanned with
      | error refusal => simp [hscan, hgiven, bind, Except.bind] at hread
      | ok given =>
          simp only [hscan, hgiven, bind, Except.bind] at hread
          split at hread
          · cases hread
          · exact ⟨given, (Except.ok.inj hread).symm⟩

/-- The numbers of the arguments have sixty-four bits. -/
structure Sized (asked : Arguments) : Prop where
  tier1 : asked.tier1Seconds < 2 ^ 64
  tier2 : asked.tier2Seconds < 2 ^ 64
  workers : asked.workers < 2 ^ 64
  callTimeout : asked.callTimeoutSeconds < 2 ^ 64
  resolveTimeout : asked.resolveTimeoutSeconds < 2 ^ 64

theorem sized_of_read (hread : read arguments environment = .ok asked) : asked.Sized := by
  obtain ⟨given, rfl⟩ := exists_given_of_read hread
  exact ⟨number_or_lt (by decide) given _, number_or_lt (by decide) given _,
    number_or_lt (by decide) given _, number_or_lt (by decide) given _,
    number_or_lt (by decide) given _⟩

end Reading

section Ranges

variable {asked : Arguments}

theorem seconds_le_longest {n : Nat} (hn : n < 2 ^ 64) : Duration.seconds n ≤ Duration.longest := by
  change n * 1000000000 ≤ 0x10000000000000000 * 1000000000 - 1
  omega

/-- The milliseconds for which a record is fresh are those of the setting, held at the longest
time. -/
theorem ttl_millis_of_payload (key : Key) (payload : ByteArray) (n : Nat) (now : Instant) :
    (Record.ofPayload key payload (.seconds n) now).ttlMillis.toNat =
      min (n * 1000) (2 ^ 64 - 1) := by
  have hmillis : (Duration.seconds n).wholeMilliseconds = n * 1000 := by
    change n * 1000000000 / 1000000 = n * 1000
    omega
  change (UInt64.ofNat (min (Duration.seconds n).wholeMilliseconds 0xffffffffffffffff)).toNat = _
  rw [hmillis]
  exact UInt64.toNat_ofNat_of_lt' (lt_of_le_of_lt (min_le_right _ _) (by decide))

/-- The time until a record is too old can be told, so nothing of it is lost. -/
theorem ttl_add_grace (record : Record) (asked : Arguments) :
    (record.ttl.addSaturating asked.cacheConfig.durable.grace).nanoseconds =
      record.ttl.nanoseconds + asked.cacheConfig.durable.grace.nanoseconds := by
  have hmillis : record.ttlMillis.toNat < 2 ^ 64 := record.ttlMillis.toNat_lt
  refine min_eq_left ?_
  change record.ttlMillis.toNat * 1000000 + 604800 * 1000000000 ≤
    0x10000000000000000 * 1000000000 - 1
  omega

/-- The durations that the program makes of the numbers of its command line can be told. -/
structure InRange (asked : Arguments) : Prop where
  tier1 : asked.cacheConfig.tier1.ttl ≤ Duration.longest
  tier2 : asked.cacheConfig.durable.ttl ≤ Duration.longest
  resolveTimeout : asked.cacheConfig.resolveTimeout ≤ Duration.longest
  callTimeout : ∀ url, (asked.fetchConfig url).callTimeout ≤ Duration.longest
  deadline : ∀ url, (asked.fetchConfig url).deadline ≤ Duration.longest
  /-- The lifetime of a record is cut to sixty-four bits of milliseconds. -/
  millis : ∀ key payload now,
    (Record.ofPayload key payload asked.cacheConfig.durable.ttl now).ttlMillis.toNat =
      min (asked.tier2Seconds * 1000) (2 ^ 64 - 1)
  /-- Even the longest lifetime that a record may have leaves room for the grace period. -/
  grace : ∀ record : Record,
    (record.ttl.addSaturating asked.cacheConfig.durable.grace).nanoseconds =
      record.ttl.nanoseconds + asked.cacheConfig.durable.grace.nanoseconds

theorem Sized.in_range (h : asked.Sized) : asked.InRange where
  tier1 := seconds_le_longest h.tier1
  tier2 := seconds_le_longest h.tier2
  resolveTimeout := seconds_le_longest h.resolveTimeout
  callTimeout _ := seconds_le_longest h.callTimeout
  deadline _ := four_fifths_le_longest h.resolveTimeout
  millis key payload now := ttl_millis_of_payload key payload asked.tier2Seconds now
  grace record := ttl_add_grace record asked

end Ranges

end GameLibrary.CommandLine.Arguments
