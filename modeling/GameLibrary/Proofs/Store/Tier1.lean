import GameLibrary.Proofs.Store.Shards
import GameLibrary.Store.Tier1

/-!
# What the tier in memory holds

Entries come into the tier by insertion only. Whatever else is done to it, an entry that is found
afterwards was there before. And an entry that has not expired stays, unless its key is removed or
has to make room for another one (`found_after_insert`). Where there is room, an operation concerns
its own key only.
-/

namespace GameLibrary.Tier1

variable {κ ν : Type} [DecidableEq κ] {tier : Tier1 κ ν} {now : Instant} {key other : κ}
  {entry : CacheEntry ν}

/-- A look-up finds the value that has not expired. -/
theorem get_fst (tier : Tier1 κ ν) (now : Instant) (key : κ) :
    (tier.get now key).1 = tier.live? now key := by
  unfold get live?
  cases tier.storage.find? key with
  | none => rfl
  | some entry =>
      cases hexpired : entry.isExpired now with
      | true => simp [hexpired, Option.filter]
      | false => simp [hexpired, Option.filter]

/-- A value that has not expired has an entry. -/
theorem entry_of_live {value : ν} (hlive : tier.live? now key = some value) :
    ∃ entry, tier.storage.find? key = some entry ∧ entry.value = value := by
  obtain ⟨entry, hentry, hvalue⟩ := Option.map_eq_some_iff.1 hlive
  exact ⟨entry, Option.eq_some_of_filter_eq_some hentry, hvalue⟩

/-- The value that is found is that of an entry that has not expired. -/
theorem live_iff {value : ν} : tier.live? now key = some value ↔
    ∃ entry, tier.storage.find? key = some entry ∧ entry.isExpired now = false ∧
      entry.value = value := by
  unfold live?
  rw [Option.map_eq_some_iff]
  refine exists_congr fun entry => ?_
  rw [Option.filter_eq_some_iff, and_assoc, Bool.not_eq_true']

/-- An entry whose value is not found has expired. -/
theorem expired_of_live_eq_none (hlive : tier.live? now key = none)
    (hfound : tier.storage.find? key = some entry) : entry.isExpired now = true := by
  unfold live? at hlive
  rw [hfound, Option.map_eq_none_iff, Option.filter_eq_none_iff] at hlive
  simpa using hlive entry rfl

/-- What is found without a key was there with it. -/
theorem found_of_erase (h : (tier.storage.erase other).find? key = some entry) :
    tier.storage.find? key = some entry := by
  rw [Shards.find?_erase] at h
  split at h
  · cases h
  · exact h

/-- What is found after a look-up was there before. -/
theorem found_of_get (h : (tier.get now other).2.storage.find? key = some entry) :
    tier.storage.find? key = some entry := by
  unfold get at h
  split at h
  · exact h
  · split at h
    · exact found_of_erase h
    · exact h

/-- What is found after a sweep was there before. -/
theorem found_of_purge (h : (tier.purge now).2.storage.find? key = some entry) :
    tier.storage.find? key = some entry :=
  ((tier.storage.find?_filter _).1 h).1

/-- What is found after a removal was there before. -/
theorem found_of_remove (h : (tier.remove other).2.storage.find? key = some entry) :
    tier.storage.find? key = some entry :=
  found_of_erase h

/-- A removed key is not found. -/
theorem not_found_removed (tier : Tier1 κ ν) (key : κ) :
    (tier.remove key).2.storage.find? key = none := by
  show (tier.storage.erase key).find? key = none
  rw [Shards.find?_erase, if_pos rfl]

/-- What is found after an eviction was there before. -/
theorem found_of_evict_key (h : (tier.evictKey other).storage.find? key = some entry) :
    tier.storage.find? key = some entry := by
  unfold evictKey at h
  split at h
  · exact found_of_erase h
  · exact h

/-- What is found after some evictions was there before. -/
theorem found_of_evictions {keys : List κ}
    (h : (keys.foldl evictKey tier).storage.find? key = some entry) :
    tier.storage.find? key = some entry := by
  induction keys generalizing tier with
  | nil => exact h
  | cons first rest ih => exact found_of_evict_key (ih h)

/-- What is found after an insertion was there before, unless it was inserted. -/
theorem found_of_insert {value : ν}
    (h : (tier.insert now other value).storage.find? key = some entry) :
    key = other ∧ entry = ⟨value, now, tier.config.ttl⟩ ∨ tier.storage.find? key = some entry := by
  unfold insert at h
  dsimp only at h
  rw [Shards.find?_insert] at h
  split at h
  · rename_i hkey
    exact .inl ⟨hkey, (Option.some.inj h).symm⟩
  · -- What makes room for the new entry drops other entries only.
    right
    split at h
    · exact found_of_purge (found_of_evictions h)
    · exact h

section Settings

@[simp] theorem config_get (tier : Tier1 κ ν) (now : Instant) (key : κ) :
    (tier.get now key).2.config = tier.config := by
  unfold get
  split
  · rfl
  · split <;> rfl

@[simp] theorem config_evict_key (tier : Tier1 κ ν) (key : κ) :
    (tier.evictKey key).config = tier.config := by
  unfold evictKey
  split <;> rfl

@[simp] theorem config_shrink (tier : Tier1 κ ν) (now : Instant) :
    (tier.shrink now).config = tier.config :=
  List.foldlRecOn (motive := fun next : Tier1 κ ν => next.config = tier.config) _ _ rfl
    fun _ hconfig _ _ => (config_evict_key ..).trans hconfig

@[simp] theorem config_insert (tier : Tier1 κ ν) (now : Instant) (key : κ) (value : ν) :
    (tier.insert now key value).config = tier.config := by
  unfold insert
  dsimp only
  split
  · exact config_shrink ..
  · rfl

end Settings

/-- The keys that make room for a new entry when the tier is full: the oldest of those that have not
expired. -/
def oldest (tier : Tier1 κ ν) (now : Instant) : List κ :=
  let purged := (tier.purge now).2
  purged.keysByAge.take (purged.size - tier.config.target)

/-- A look-up drops expired entries only. -/
theorem found_after_get (hfound : tier.storage.find? key = some entry)
    (hlive : entry.isExpired now = false) :
    (tier.get now other).2.storage.find? key = some entry := by
  unfold get
  cases hother : tier.storage.find? other with
  | none => exact hfound
  | some entry' =>
      dsimp only
      split
      · rename_i hexpired
        have hne : key ≠ other := by
          rintro rfl
          cases hfound.symm.trans hother
          rw [hlive] at hexpired
          cases hexpired
        rw [Shards.find?_erase, if_neg hne]
        exact hfound
      · exact hfound

/-- A sweep drops expired entries only. -/
theorem found_after_purge (hfound : tier.storage.find? key = some entry)
    (hlive : entry.isExpired now = false) :
    (tier.purge now).2.storage.find? key = some entry :=
  (tier.storage.find?_filter _).2 ⟨hfound, by rw [hlive]; rfl⟩

/-- A removal takes its own key only. -/
theorem found_after_remove (hfound : tier.storage.find? key = some entry) (hne : key ≠ other) :
    (tier.remove other).2.storage.find? key = some entry := by
  show (tier.storage.erase other).find? key = some entry
  rw [Shards.find?_erase, if_neg hne]
  exact hfound

/-- An eviction takes its own key only. -/
theorem found_after_evict_key (hfound : tier.storage.find? key = some entry) (hne : key ≠ other) :
    (tier.evictKey other).storage.find? key = some entry := by
  unfold evictKey
  split
  · rw [Shards.find?_erase, if_neg hne]
    exact hfound
  · exact hfound

/-- Shrinking drops expired entries and the oldest ones only. -/
theorem found_after_shrink (hfound : tier.storage.find? key = some entry)
    (hlive : entry.isExpired now = false) (hyoung : key ∉ tier.oldest now) :
    (tier.shrink now).storage.find? key = some entry := by
  refine List.foldlRecOn (motive := fun next : Tier1 κ ν => next.storage.find? key = some entry) _ _
    (found_after_purge hfound hlive) fun next hnext other hmem => ?_
  refine found_after_evict_key hnext ?_
  rintro rfl
  exact hyoung hmem

/-- The inserted entry is found. -/
theorem found_inserted (tier : Tier1 κ ν) (now : Instant) (key : κ) (value : ν) :
    (tier.insert now key value).storage.find? key = some ⟨value, now, tier.config.ttl⟩ := by
  unfold insert
  dsimp only
  rw [Shards.find?_insert, if_pos rfl]

/-- An insertion takes only expired entries and, if the tier is full, the oldest ones. -/
theorem found_after_insert {value : ν} (hfound : tier.storage.find? key = some entry)
    (hlive : entry.isExpired now = false) (hne : key ≠ other)
    (hroom : tier.config.maxEntries ≤ tier.size → key ∉ tier.oldest now) :
    (tier.insert now other value).storage.find? key = some entry := by
  unfold insert
  dsimp only
  rw [Shards.find?_insert, if_neg hne]
  split
  · rename_i hfull
    exact found_after_shrink hfound hlive (hroom hfull)
  · exact hfound

section Keys

/-- A look-up drops an expired entry of its key. -/
theorem find?_get (tier : Tier1 κ ν) (now : Instant) (key other : κ) :
    (tier.get now key).2.storage.find? other =
      if other = key then (tier.storage.find? key).filter (!·.isExpired now)
      else tier.storage.find? other := by
  unfold get
  cases hfound : tier.storage.find? key with
  | none =>
      dsimp only
      split
      · rename_i hother
        rw [hother, hfound]
        rfl
      · rfl
  | some entry =>
      cases hexpired : entry.isExpired now with
      | true => simp [hexpired, Option.filter]
      | false =>
          simp only [hexpired, Bool.false_eq_true, if_false, Option.filter, Bool.not_false, if_true]
          split
          · rename_i hother
            rw [hother, hfound]
          · rfl

/-- An insertion into a tier that is not full concerns its key only. -/
theorem find?_insert_of_room (hroom : tier.size < tier.config.maxEntries) (now : Instant)
    (key other : κ) (value : ν) : (tier.insert now key value).storage.find? other =
      if other = key then some ⟨value, now, tier.config.ttl⟩ else tier.storage.find? other := by
  unfold insert
  dsimp only
  rw [if_neg (Nat.not_le.2 hroom), Shards.find?_insert]

/-- A removal concerns its key only. -/
theorem find?_remove (tier : Tier1 κ ν) (key other : κ) :
    (tier.remove key).2.storage.find? other =
      if other = key then none else tier.storage.find? other :=
  Shards.find?_erase ..

/-- A sweep drops the entries that have expired. -/
theorem find?_purge (tier : Tier1 κ ν) (now : Instant) (key : κ) :
    (tier.purge now).2.storage.find? key =
      (tier.storage.find? key).filter (!·.isExpired now) := by
  refine Option.ext fun entry => ?_
  rw [Option.filter_eq_some_iff]
  exact tier.storage.find?_filter fun _ entry => !entry.isExpired now

end Keys

section Counters

variable (tier : Tier1 κ ν) (now : Instant) (key : κ)

/-- A look-up that finds a value is a hit. -/
theorem get_of_live {value : ν} (hlive : tier.live? now key = some value) :
    ∃ after, tier.get now key = (some value, after) ∧ after.hits = tier.hits + 1 ∧
      after.misses = tier.misses := by
  rw [← get_fst] at hlive
  unfold get at hlive ⊢
  split
  · simp_all
  · split
    · simp_all
    · simp_all

/-- A look-up that finds no value is a miss. -/
theorem get_of_not_live (hlive : tier.live? now key = none) :
    ∃ after, tier.get now key = (none, after) ∧ after.hits = tier.hits ∧
      after.misses = tier.misses + 1 := by
  rw [← get_fst] at hlive
  unfold get at hlive ⊢
  split
  · exact ⟨_, rfl, rfl, rfl⟩
  · split
    · exact ⟨_, rfl, rfl, rfl⟩
    · simp_all

/-- Only look-ups are counted as hits or misses. -/
theorem counts_insert (value : ν) : (tier.insert now key value).hits = tier.hits ∧
    (tier.insert now key value).misses = tier.misses := by
  have hshrink : (tier.shrink now).hits = tier.hits ∧ (tier.shrink now).misses = tier.misses := by
    unfold shrink
    refine List.foldlRecOn (motive := fun next : Tier1 κ ν =>
      next.hits = tier.hits ∧ next.misses = tier.misses) _ _ ⟨rfl, rfl⟩ ?_
    intro next h other _
    unfold evictKey
    split
    · exact h
    · exact h
  unfold insert
  dsimp only
  split
  · exact hshrink
  · exact ⟨rfl, rfl⟩

end Counters

section Parts

variable (h : tier.storage.Placed)
include h

theorem placed_get (now : Instant) (key : κ) : (tier.get now key).2.storage.Placed := by
  unfold get
  split
  · exact h
  · split
    · exact h.erase key
    · exact h

theorem placed_remove (key : κ) : (tier.remove key).2.storage.Placed :=
  h.erase key

theorem placed_purge (now : Instant) : (tier.purge now).2.storage.Placed :=
  h.filter _

theorem placed_evict_key (key : κ) : (tier.evictKey key).storage.Placed := by
  unfold evictKey
  split
  · exact h.erase key
  · exact h

theorem placed_shrink (now : Instant) : (tier.shrink now).storage.Placed :=
  List.foldlRecOn (motive := fun next : Tier1 κ ν => next.storage.Placed) _ _ (placed_purge h now)
    fun _ hplaced key _ => placed_evict_key hplaced key

theorem placed_insert (now : Instant) (key : κ) (value : ν) :
    (tier.insert now key value).storage.Placed := by
  unfold insert
  dsimp only
  split
  · exact (placed_shrink h now).insert key _
  · exact h.insert key _

end Parts

end GameLibrary.Tier1
