import GameLibrary.Proofs.Store.Tier1

/-!
# How a full tier makes room

A full tier drops its expired entries and then the oldest ones of the others. Of the entries that
have not expired, in the order of their insertion, exactly the last ones are left
(`entries_shrink`), as many as the target allows, and every entry that goes is counted once:
`insert_makes_room`.

The keys are taken to lie in their parts, as they do after every session (`placed_session`).
-/

namespace GameLibrary.Tier1

variable {κ ν : Type} [DecidableEq κ] {tier : Tier1 κ ν} {now : Instant} {key other : κ}
  {entry : CacheEntry ν}

section Age

omit [DecidableEq κ]

/-- The entries by time of insertion, the oldest first. -/
def byAge (tier : Tier1 κ ν) : List (κ × CacheEntry ν) :=
  tier.storage.entries.mergeSort fun a b => a.2.insertedAt ≤ b.2.insertedAt

theorem perm_by_age (tier : Tier1 κ ν) : tier.byAge.Perm tier.storage.entries :=
  List.mergeSort_perm _ _

theorem length_by_age (tier : Tier1 κ ν) : tier.byAge.length = tier.size :=
  tier.perm_by_age.length_eq.trans (Shards.size_eq_length_entries _).symm

/-- An entry was not inserted later than those behind it. -/
theorem pairwise_by_age (tier : Tier1 κ ν) :
    tier.byAge.Pairwise fun a b => a.2.insertedAt ≤ b.2.insertedAt := by
  refine (List.pairwise_mergeSort ?_ ?_ _).imp of_decide_eq_true
  · intro a b c hab hbc
    exact decide_eq_true (Nat.le_trans (of_decide_eq_true hab) (of_decide_eq_true hbc))
  · intro a b
    rw [Bool.or_eq_true, decide_eq_true_eq, decide_eq_true_eq]
    exact Nat.le_total a.2.insertedAt.nanoseconds b.2.insertedAt.nanoseconds

end Age

section Sweep

/-- The number of entries that have not expired. -/
def liveCount (tier : Tier1 κ ν) (now : Instant) : Nat :=
  tier.storage.entries.countP fun entry => !entry.2.isExpired now

omit [DecidableEq κ] in
/-- A sweep leaves the entries that have not expired. -/
theorem size_purge (tier : Tier1 κ ν) (now : Instant) :
    (tier.purge now).2.size = tier.liveCount now := by
  show (tier.storage.filter fun _ entry => !entry.isExpired now).size = _
  rw [Shards.size_eq_length_entries, Shards.entries_filter]
  exact List.countP_eq_length_filter.symm

omit [DecidableEq κ] in
/-- A sweep counts every entry that it drops. -/
theorem counted_purge (tier : Tier1 κ ν) (now : Instant) :
    (tier.purge now).2.evictions + (tier.purge now).2.size = tier.evictions + tier.size := by
  have hle : (tier.purge now).2.size ≤ tier.size := by
    rw [size_purge]
    exact Nat.le_trans List.countP_le_length
      (Nat.le_of_eq (Shards.size_eq_length_entries _).symm)
  show tier.evictions + (tier.size - (tier.purge now).2.size) + (tier.purge now).2.size = _
  rw [Nat.add_assoc, Nat.sub_add_cancel hle]

end Sweep

section Evictions

/-- An eviction concerns its key only. -/
theorem find?_evict_key (tier : Tier1 κ ν) (key other : κ) :
    (tier.evictKey key).storage.find? other =
      if other = key then none else tier.storage.find? other := by
  unfold evictKey
  split
  · exact Shards.find?_erase ..
  · rename_i hnot
    split
    · rename_i hother
      rw [hother]
      exact Option.not_isSome_iff_eq_none.1 hnot
    · rfl

/-- Evictions concern their keys only. -/
theorem find?_evictions (tier : Tier1 κ ν) (keys : List κ) (other : κ) :
    (keys.foldl evictKey tier).storage.find? other =
      if other ∈ keys then none else tier.storage.find? other := by
  induction keys generalizing tier with
  | nil => rfl
  | cons key rest ih =>
      rw [List.foldl_cons, ih, find?_evict_key]
      by_cases hrest : other ∈ rest
      · rw [if_pos hrest, if_pos (List.mem_cons_of_mem _ hrest)]
      · rw [if_neg hrest]
        simp only [List.mem_cons, hrest, or_false]

/-- An eviction is counted if it drops an entry. -/
theorem counted_evict_key (h : tier.storage.Placed) (key : κ) :
    (tier.evictKey key).evictions + (tier.evictKey key).size = tier.evictions + tier.size := by
  unfold evictKey
  split
  · rename_i hfound
    have hsize : tier.size = (tier.storage.erase key).size + 1 :=
      (h.size_erase key).trans (congrArg _ (if_pos hfound))
    rw [hsize, ← Nat.add_assoc, Nat.add_right_comm]
    rfl
  · rfl

/-- Shrinking counts every entry that it drops. -/
theorem counted_shrink (h : tier.storage.Placed) (now : Instant) :
    (tier.shrink now).evictions + (tier.shrink now).size = tier.evictions + tier.size := by
  have hkept : (tier.shrink now).storage.Placed ∧
      (tier.shrink now).evictions + (tier.shrink now).size = tier.evictions + tier.size :=
    List.foldlRecOn (motive := fun next : Tier1 κ ν => next.storage.Placed ∧
      next.evictions + next.size = tier.evictions + tier.size) _ _
      ⟨placed_purge h now, tier.counted_purge now⟩
      fun next hnext key _ => ⟨placed_evict_key hnext.1 key,
        (counted_evict_key hnext.1 key).trans hnext.2⟩
  exact hkept.2

/-- What shrinking leaves is found as before. -/
theorem find?_shrink (tier : Tier1 κ ν) (now : Instant) (key : κ) :
    (tier.shrink now).storage.find? key =
      if key ∈ tier.oldest now then none else (tier.purge now).2.storage.find? key :=
  find?_evictions ..

/-- Of the entries that have not expired, shrinking leaves the last ones by age. -/
theorem entries_shrink (h : tier.storage.Placed) (now : Instant) :
    (tier.shrink now).storage.entries.Perm
      ((tier.purge now).2.byAge.drop ((tier.purge now).2.size - tier.config.target)) := by
  have hpurged := placed_purge h now
  have hshrunk := placed_shrink h now
  have holdest : tier.oldest now = ((tier.purge now).2.byAge.take
      ((tier.purge now).2.size - tier.config.target)).map Prod.fst := List.map_take.symm
  generalize (tier.purge now).2.size - tier.config.target = excess at holdest
  have hsorted := (tier.purge now).2.perm_by_age
  have hnodup : ((tier.purge now).2.byAge.map Prod.fst).Nodup :=
    (hsorted.map Prod.fst).nodup_iff.2 hpurged.nodup
  have hsplit := List.take_append_drop excess (tier.purge now).2.byAge
  refine (List.perm_ext_iff_of_nodup hshrunk.nodup.of_map
    (hnodup.of_map.sublist (List.drop_sublist _ _))).2 ?_
  rintro ⟨key, entry⟩
  rw [hshrunk.mem_entries_iff, find?_shrink, holdest]
  have hfound : (tier.purge now).2.storage.find? key = some entry ↔
      (key, entry) ∈ (tier.purge now).2.byAge := by
    rw [hsorted.mem_iff, hpurged.mem_entries_iff]
  rw [← hsplit, List.map_append, List.nodup_append] at hnodup
  rw [← hsplit, List.mem_append] at hfound
  constructor
  · intro hleft
    split at hleft
    · cases hleft
    · rename_i hnot
      exact (hfound.1 hleft).resolve_left fun hmem => hnot (List.mem_map_of_mem hmem)
  · intro hmem
    -- The key stands only once among the sorted entries.
    have hnot : key ∉ ((tier.purge now).2.byAge.take excess).map Prod.fst :=
      fun hkey => hnodup.2.2 _ hkey _ (List.mem_map_of_mem hmem) rfl
    rw [if_neg hnot]
    exact hfound.2 (.inr hmem)

end Evictions

section Room

/-- The tier `room` is left of `tier` when it has made room at the time `now`. -/
structure MakesRoom (tier : Tier1 κ ν) (now : Instant) (room : Tier1 κ ν) : Prop where
  /-- Nothing comes in, -/
  kept : ∀ {key entry}, room.storage.find? key = some entry → tier.storage.find? key = some entry
  /-- no expired entry is left, -/
  live : ∀ {key entry}, room.storage.find? key = some entry → entry.isExpired now = false
  /-- and of the others as many as the target allows, -/
  size_eq : room.size = min (tier.liveCount now) tier.config.target
  /-- none of which was inserted earlier than one that has gone. -/
  youngest : ∀ {key entry gone old}, room.storage.find? key = some entry →
    tier.storage.find? gone = some old → old.isExpired now = false →
    room.storage.find? gone = none → old.insertedAt ≤ entry.insertedAt
  /-- Every entry that has gone is counted as an eviction. -/
  counted : room.evictions + room.size = tier.evictions + tier.size

/-- Shrinking makes room. -/
theorem makes_room_shrink (h : tier.storage.Placed) (now : Instant) :
    tier.MakesRoom now (tier.shrink now) := by
  have hpurged := placed_purge h now
  have hentries := entries_shrink h now
  have hleft : ∀ {key entry}, (tier.shrink now).storage.find? key = some entry →
      (tier.purge now).2.storage.find? key = some entry := by
    intro key entry hfound
    rw [find?_shrink] at hfound
    split at hfound
    · cases hfound
    · exact hfound
  constructor
  case kept => exact fun hfound => found_of_purge (hleft hfound)
  case live =>
    intro key entry hfound
    have hlive := ((tier.storage.find?_filter fun _ entry => !entry.isExpired now).1
      (hleft hfound)).2
    simpa using hlive
  case size_eq =>
    have hlength := hentries.length_eq
    rw [List.length_drop, length_by_age, ← Shards.size_eq_length_entries, size_purge] at hlength
    refine hlength.trans ?_
    omega
  case youngest =>
    intro key entry gone old hfound hold hlive hgone
    have hpurge := found_after_purge hold hlive
    have hmem := hentries.mem_iff.1 ((placed_shrink h now).mem_entries_iff.2 hfound)
    have hsorted := (tier.purge now).2.perm_by_age.mem_iff.2 (hpurged.mem_entries_iff.2 hpurge)
    have hout : (gone, old) ∉ (tier.purge now).2.byAge.drop
        ((tier.purge now).2.size - tier.config.target) := by
      rw [← hentries.mem_iff, (placed_shrink h now).mem_entries_iff, hgone]
      exact (Option.some_ne_none old).symm
    have hpairwise := (tier.purge now).2.pairwise_by_age
    have hsplit := List.take_append_drop ((tier.purge now).2.size - tier.config.target)
      (tier.purge now).2.byAge
    rw [← hsplit, List.mem_append] at hsorted
    rw [← hsplit, List.pairwise_append] at hpairwise
    exact hpairwise.2.2 _ (hsorted.resolve_right hout) _ hmem
  case counted => exact counted_shrink h now

/-- What is inserted now has not expired. -/
theorem not_expired_now (value : ν) (now : Instant) (ttl : Duration) :
    (CacheEntry.mk value now ttl).isExpired now = false := by
  refine decide_eq_false fun hover => ?_
  have hover : ttl.nanoseconds < now.nanoseconds - now.nanoseconds := hover
  omega

/-- A value that has just been inserted has not expired. -/
theorem live_inserted (tier : Tier1 κ ν) (now : Instant) (key : κ) (value : ν) :
    (tier.insert now key value).live? now key = some value := by
  unfold live?
  rw [found_inserted]
  simp [not_expired_now, Option.filter]

/-- An insertion into a full tier makes room before the new entry is stored. -/
theorem insert_makes_room (h : tier.storage.Placed)
    (hfull : tier.config.maxEntries ≤ tier.size) (now : Instant) (key : κ) (value : ν) :
    ∃ room, tier.MakesRoom now room ∧
      tier.insert now key value =
        { room with storage := room.storage.insert key ⟨value, now, tier.config.ttl⟩ } ∧
      (tier.insert now key value).live? now key = some value := by
  refine ⟨tier.shrink now, makes_room_shrink h now, ?_, tier.live_inserted now key value⟩
  unfold insert
  dsimp only
  rw [if_pos hfull, config_shrink]

/-- Room for four entries for ten nanoseconds each; a full tier keeps two of them. -/
def crowdedConfig : Config where
  ttl := ⟨10⟩
  maxEntries := 4
  lowWatermark := .ofRatio false 1 2

/-- Four entries, two of which are of the same age. -/
def crowded : Tier1 Nat String :=
  [(0, 1, "a"), (5, 2, "b"), (6, 3, "c"), (6, 4, "d")].foldl
    (fun tier call => tier.insert ⟨call.1⟩ call.2.1 call.2.2) (ofConfig crowdedConfig id)

/-- When the first entry has expired, only two of the three others have room beside a new one. -/
theorem insert_makes_room_crowded :
    crowded.storage.Placed ∧ crowded.config.maxEntries ≤ crowded.size ∧
      crowded.liveCount ⟨12⟩ = 3 ∧ crowded.config.target = 2 ∧
      ∃ room, crowded.MakesRoom ⟨12⟩ room ∧
        crowded.insert ⟨12⟩ 5 "e" =
          { room with storage := room.storage.insert 5 ⟨"e", ⟨12⟩, crowded.config.ttl⟩ } ∧
        (crowded.insert ⟨12⟩ 5 "e").live? ⟨12⟩ 5 = some "e" := by
  have hplaced : crowded.storage.Placed :=
    List.foldlRecOn (motive := fun tier : Tier1 Nat String => tier.storage.Placed) _ _
      (Shards.placed_empty 6 id) fun _ h _ _ => placed_insert h _ _ _
  have hfull : crowded.config.maxEntries ≤ crowded.size := by decide +kernel
  exact ⟨hplaced, hfull, by decide +kernel, by decide +kernel,
    insert_makes_room hplaced hfull ⟨12⟩ 5 "e"⟩

end Room

end GameLibrary.Tier1
