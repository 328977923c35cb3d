import GameLibrary.Store.Durable

/-!
# How records age

A record that is stamped with a reading of the clock ages with the clock: its age is the time since
that reading. So once it is too old, it stays too old. A record that the durable tier writes is
stamped so, and a look-up finds a record outdated when it is too old by its stamp.
-/

namespace GameLibrary

/-- Readings of the clock are as far apart as their civil times. -/
theorem Timestamp.since_of_instant (later earlier : Instant) :
    (ofInstant later).since (ofInstant earlier) = later.since earlier := by
  -- A reading of the clock is never within a leap second.
  have hlater : ¬ 1000000000 ≤ later.nanoseconds % 1000000000 := by omega
  have hearlier : ¬ 1000000000 ≤ earlier.nanoseconds % 1000000000 := by omega
  unfold since difference ofInstant Instant.since
  simp only [hlater, hearlier, and_false, if_false]
  congr 1
  omega

namespace Record

variable {record : Record} {written early late : Instant} {grace : Duration}

/-- The age of a record that is stamped with a reading of the clock. -/
theorem age_eq_since (hstamp : record.insertedAt = .ofInstant written) (now : Instant) :
    record.age now = now.since written := by
  unfold age
  rw [hstamp, Timestamp.since_of_instant]

/-- A record that is too old even as a fallback stays so. -/
theorem past_grace_mono (hstamp : record.insertedAt = .ofInstant written) (hle : early ≤ late)
    (hpast : record.isPastGrace early grace = true) : record.isPastGrace late grace = true := by
  unfold isPastGrace at hpast ⊢
  rw [age_eq_since hstamp, decide_eq_true_eq] at hpast ⊢
  have hage : (early.since written).nanoseconds ≤ (late.since written).nanoseconds :=
    Nat.sub_le_sub_right hle written.nanoseconds
  exact Nat.lt_of_lt_of_le hpast hage

/-- A record that has not expired was written no longer ago than it is fresh. -/
theorem le_after_ttl (hstamp : record.insertedAt = .ofInstant written)
    (hfresh : record.isExpired late = false) : late ≤ written.after record.ttl := by
  unfold isExpired at hfresh
  rw [age_eq_since hstamp] at hfresh
  have hage : ¬ record.ttl.nanoseconds < late.nanoseconds - written.nanoseconds :=
    of_decide_eq_false hfresh
  show late.nanoseconds ≤ written.nanoseconds + record.ttl.nanoseconds
  omega

/-- A record within the grace period was written no longer ago than it is fresh and can be a
fallback. -/
theorem le_after_grace (hstamp : record.insertedAt = .ofInstant written)
    (hgrace : record.isPastGrace late grace = false) :
    late ≤ (written.after record.ttl).after grace := by
  unfold isPastGrace at hgrace
  rw [age_eq_since hstamp] at hgrace
  have hage : ¬ min (record.ttl.nanoseconds + grace.nanoseconds) Duration.longest.nanoseconds <
      late.nanoseconds - written.nanoseconds := of_decide_eq_false hgrace
  show late.nanoseconds ≤ written.nanoseconds + record.ttl.nanoseconds + grace.nanoseconds
  omega

end Record

namespace Durable

variable {ν : Type} [Payload ν] {config : Config} {now : Instant} {key : Key} {answer : ReadAnswer}

/-- The answers for which a look-up removes the record. -/
theorem outdated_iff : (finding config now key answer : Finding ν) = .outdated ↔
    ∃ record, answer = .ok (some record) ∧ record.key = key ∧
      record.isPastGrace now config.grace = true := by
  constructor
  · intro houtdated
    unfold finding at houtdated
    split at houtdated
    · cases houtdated
    · cases houtdated
    · rename_i record
      split at houtdated
      · cases houtdated
      · rename_i hkey
        split at houtdated
        · rename_i hpast
          exact ⟨record, rfl, Decidable.not_not.1 hkey, hpast⟩
        · split at houtdated <;> cases houtdated
  · intro h
    obtain ⟨record, rfl, hkey, hpast⟩ := h
    unfold finding
    dsimp only
    rw [if_neg (Decidable.not_not.2 hkey), if_pos hpast]

/-- A value that a look-up can use is read from the record of the key. -/
theorem usable_from {lookup : Lookup ν} {value : ν}
    (hfinding : finding config now key answer = .usable lookup)
    (hvalue : lookup = .fresh value ∨ lookup = .stale value) :
    ∃ record, answer = .ok (some record) ∧ record.key = key ∧
      Payload.decode record.payload = .ok value := by
  have hsome : lookup ≠ .missing := by
    rcases hvalue with rfl | rfl <;> rintro ⟨⟩
  unfold finding at hfinding
  split at hfinding
  · cases hfinding
  · cases hfinding
    exact absurd rfl hsome
  · rename_i record
    split at hfinding
    · cases hfinding
      exact absurd rfl hsome
    · rename_i hkey
      split at hfinding
      · cases hfinding
      · split at hfinding
        · cases hfinding
        · rename_i hdecode
          injection hfinding with hlookup
          refine ⟨record, rfl, Decidable.not_not.1 hkey, ?_⟩
          split at hlookup <;> subst hlookup <;> rcases hvalue with hvalue | hvalue <;>
            cases hvalue <;> exact hdecode

/-- A record that a look-up can use is not beyond the grace period, and if its value is fresh the
record has not expired. -/
theorem age_of_usable {record : Record} {lookup : Lookup ν}
    (hfinding : finding config now key (.ok (some record)) = .usable lookup)
    (hsome : lookup ≠ .missing) :
    record.isPastGrace now config.grace = false ∧
      ∀ value, lookup = .fresh value → record.isExpired now = false := by
  unfold finding at hfinding
  dsimp only at hfinding
  split at hfinding
  · cases hfinding
    exact absurd rfl hsome
  · split at hfinding
    · cases hfinding
    · rename_i hgrace
      split at hfinding
      · cases hfinding
      · injection hfinding with hlookup
        refine ⟨Bool.eq_false_iff.2 hgrace, ?_⟩
        rintro value rfl
        split at hlookup
        · cases hlookup
        · rename_i hexpired
          exact Bool.eq_false_iff.2 hexpired

/-- What the durable tier writes is stamped with the time of the writing. -/
theorem inserted_at_record (config : Config) (now : Instant) (key : Key) (value : ν) :
    (record config now key value).insertedAt = .ofInstant now := rfl

/-- The whole milliseconds of the time for which records are to be fresh. -/
def Config.floor (config : Config) : Duration := .milliseconds config.ttl.wholeMilliseconds

/-- What the durable tier writes is not fresh any longer than the settings say. -/
theorem ttl_record_le (config : Config) (now : Instant) (key : Key) (value : ν) :
    (record config now key value).ttl ≤ config.floor := by
  have hle : (UInt64.ofNat (min config.ttl.wholeMilliseconds 0xffffffffffffffff)).toNat ≤
      config.ttl.wholeMilliseconds := by
    rw [UInt64.toNat_ofNat']
    exact Nat.le_trans (Nat.mod_le _ _) (Nat.min_le_left _ _)
  exact Nat.mul_le_mul_right 1000000 hle

end Durable

end GameLibrary
