import GameLibrary.Time.Timestamp

/-!
# Leap seconds

A timestamp may lie within a leap second, at any time of day. A reading of the clock never does. The
time from such a timestamp to a reading of the clock counts the leap second only when the reading
has the later time of day, so it falls back by a second at midnight (`since_falls_back`). It never
falls back from a timestamp that lies in no leap second, or in one at the end of its day
(`steady_iff`).
-/

namespace GameLibrary.Timestamp

/-- The nanoseconds since the beginning of 1970. Those of a leap second are those of the second
after it. -/
def count (t : Timestamp) : Int := t.seconds * 1000000000 + t.nanoseconds

/-- The timestamp lies in no leap second, or in one at the end of its day. -/
def Steady (t : Timestamp) : Prop := t.nanoseconds < 1000000000 ∨ t.secondOfDay = 86399

variable {stamp : Timestamp} {early late : Instant}

/-- The time from a timestamp to a reading of the clock, with a leap second if it is counted. -/
theorem difference_of_instant (now : Instant) (stamp : Timestamp) :
    difference (ofInstant now) stamp = now.nanoseconds - stamp.count +
      if stamp.secondOfDay < (ofInstant now).secondOfDay ∧ 1000000000 ≤ stamp.nanoseconds then
        1000000000 else 0 := by
  have hclock : ¬ 1000000000 ≤ (ofInstant now).nanoseconds := by
    show ¬ 1000000000 ≤ now.nanoseconds % 1000000000
    omega
  have hcount : (ofInstant now).seconds * 1000000000 + (ofInstant now).nanoseconds =
      (now.nanoseconds : Int) := by
    show (now.nanoseconds : Int) / 1000000000 * 1000000000 +
      ((now.nanoseconds % 1000000000 : Nat) : Int) = now.nanoseconds
    omega
  unfold difference count
  rw [if_neg fun hleap : (ofInstant now).secondOfDay < stamp.secondOfDay ∧ _ => hclock hleap.2]
  dsimp only
  split <;> omega

theorem second_of_day_le (t : Timestamp) : t.secondOfDay ≤ 86399 := by
  unfold secondOfDay secondsPerDay
  omega

/-- From a steady timestamp the time passes as on the clock. -/
theorem since_of_steady (hsteady : stamp.Steady) (now : Instant) :
    (ofInstant now).since stamp = ⟨(now.nanoseconds - stamp.count).toNat⟩ := by
  have hnot : ¬ (stamp.secondOfDay < (ofInstant now).secondOfDay ∧
      1000000000 ≤ stamp.nanoseconds) := by
    rintro ⟨hlater, hleap⟩
    have hlast := second_of_day_le (ofInstant now)
    rcases hsteady with hshort | hend
    · omega
    · omega
  unfold since
  rw [difference_of_instant, if_neg hnot, Int.add_zero]

theorem since_le_since
    (hle : difference (ofInstant early) stamp ≤ difference (ofInstant late) stamp) :
    (ofInstant early).since stamp ≤ (ofInstant late).since stamp :=
  Int.toNat_le_toNat hle

/-- The time from a steady timestamp never falls back. -/
theorem since_mono (hsteady : stamp.Steady) (hle : early ≤ late) :
    (ofInstant early).since stamp ≤ (ofInstant late).since stamp := by
  rw [since_of_steady hsteady, since_of_steady hsteady]
  have hnanoseconds : early.nanoseconds ≤ late.nanoseconds := hle
  exact Int.toNat_le_toNat (by omega)

/-- Over a second the time from any timestamp does not fall back. -/
theorem since_mono_of_apart (hapart : early.after (.seconds 1) ≤ late) :
    (ofInstant early).since stamp ≤ (ofInstant late).since stamp := by
  have hnanoseconds : early.nanoseconds + 1000000000 ≤ late.nanoseconds := hapart
  refine since_le_since ?_
  rw [difference_of_instant, difference_of_instant]
  split <;> split <;> omega

/-- From a leap second in the middle of a day the time falls back at midnight. -/
theorem since_falls_back (hleap : ¬ stamp.Steady) :
    ∃ early late, early ≤ late ∧ (ofInstant late).since stamp < (ofInstant early).since stamp := by
  unfold Steady at hleap
  rw [not_or, Nat.not_lt] at hleap
  have hlast := stamp.second_of_day_le
  have hfirst : 0 ≤ stamp.secondOfDay := Int.emod_nonneg _ (by decide)
  -- A midnight after the timestamp, and the nanosecond before it.
  obtain ⟨day, hpos, hday⟩ : ∃ day : Nat, 0 < day ∧ stamp.count < day * 86400000000000 :=
    ⟨stamp.count.toNat / 86400000000000 + 1, Nat.succ_pos _, by omega⟩
  refine ⟨⟨day * 86400000000000 - 1⟩, ⟨day * 86400000000000⟩, Nat.sub_le .., ?_⟩
  have hmidnight : (ofInstant ⟨day * 86400000000000⟩).secondOfDay = 0 := by
    show ((day * 86400000000000 : Nat) : Int) / 1000000000 % 86400 = 0
    omega
  have hbefore : (ofInstant ⟨day * 86400000000000 - 1⟩).secondOfDay = 86399 := by
    show ((day * 86400000000000 - 1 : Nat) : Int) / 1000000000 % 86400 = 86399
    omega
  show (difference _ stamp).toNat < (difference _ stamp).toNat
  rw [difference_of_instant, difference_of_instant, hmidnight, hbefore,
    if_neg (by omega), if_pos (by omega)]
  dsimp only
  omega

/-- The time from a timestamp never falls back if the timestamp is steady, and only then. -/
theorem steady_iff : stamp.Steady ↔ ∀ early late : Instant, early ≤ late →
    (ofInstant early).since stamp ≤ (ofInstant late).since stamp := by
  refine ⟨fun hsteady _ _ hle => since_mono hsteady hle, fun hmono => ?_⟩
  refine Classical.byContradiction fun hleap => ?_
  obtain ⟨early, late, hle, hback⟩ := since_falls_back hleap
  exact Nat.not_le.2 hback (hmono early late hle)

end GameLibrary.Timestamp
