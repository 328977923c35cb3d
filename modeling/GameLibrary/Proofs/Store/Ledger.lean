import GameLibrary.Proofs.Store.Sessions

/-!
# The ledger of the tier in memory

A ledger of a session lists the keys that came to have an entry, and those whose entry went away
again: by eviction, by removal or when everything was cleared. What came in is what is there or has
gone, each entry once (`Balanced.enter`), and the counters of the tier agree with the ledger. That
is so after every session, whatever the bounds of the tier and the times of its calls
(`session_balanced`).

Which entries an operation evicts is read off the tier before and after it (`gone`), not off the
counter. So the counter neither counts an entry twice nor leaves one out.
-/

namespace GameLibrary.Tier1

variable {κ ν : Type}

/-- The keys that have an entry, be it expired. -/
def keys (tier : Tier1 κ ν) : List κ := tier.storage.entries.map Prod.fst

/-- Whether a call looks a key up. -/
def Call.isLookUp : Call κ ν → Bool
  | .get _ => true
  | .insert _ _ | .remove _ | .contains _ | .purge | .clear | .size => false

/-- What has happened to the entries of a tier. -/
structure Ledger (κ : Type) where
  /-- The keys for which an entry was stored while they had none, -/
  stored : List κ := []
  /-- those whose entry a look-up or a sweep dropped, or that made room for another one, -/
  evicted : List κ := []
  /-- those whose entry was removed -/
  removed : List κ := []
  /-- and those whose entry went with all the others. -/
  cleared : List κ := []

theorem length_keys (tier : Tier1 κ ν) : tier.keys.length = tier.size :=
  (List.length_map ..).trans (Shards.size_eq_length_entries _).symm

variable [DecidableEq κ]

/-- The keys that have an entry in a tier and none in the one after it. -/
def gone (tier after : Tier1 κ ν) : List κ := tier.keys.filter fun key => !after.contains key

/-- The tier in which an insertion stores its entry: a full one has made room before. -/
def room (tier : Tier1 κ ν) (now : Instant) : Tier1 κ ν :=
  if tier.config.maxEntries ≤ tier.size then tier.shrink now else tier

/-- The tier with an entry for a key. -/
def store (tier : Tier1 κ ν) (key : κ) (entry : CacheEntry ν) : Tier1 κ ν :=
  { tier with storage := tier.storage.insert key entry }

/-- The ledger after a call to the tier. -/
def Ledger.enter (ledger : Ledger κ) (tier : Tier1 κ ν) (now : Instant) : Call κ ν → Ledger κ
  | .insert key _ =>
      { ledger with
        stored := if (tier.room now).contains key then ledger.stored else key :: ledger.stored
        evicted := tier.gone (tier.room now) ++ ledger.evicted }
  | .get key => { ledger with evicted := tier.gone (tier.get now key).2 ++ ledger.evicted }
  | .remove key =>
      if (tier.remove key).1.isSome then { ledger with removed := key :: ledger.removed }
      else ledger
  | .purge => { ledger with evicted := tier.gone (tier.purge now).2 ++ ledger.evicted }
  | .clear => { ledger with cleared := tier.keys ++ ledger.cleared }
  | .contains _ | .size => ledger

/-- The ledger after a list of calls. -/
def Ledger.after (ledger : Ledger κ) (tier : Tier1 κ ν) : List (TimedCall κ ν) → Ledger κ
  | [] => ledger
  | call :: rest => (ledger.enter tier call.1 call.2).after (tier.perform call.1 call.2) rest

/-- The ledger agrees with the tier. -/
structure Balanced (tier : Tier1 κ ν) (ledger : Ledger κ) : Prop where
  /-- The counter counts the evictions, -/
  evictions : tier.evictions = ledger.evicted.length
  /-- and every entry that was stored is there or has gone in one of the three ways. -/
  entries : ledger.stored.Perm (tier.keys ++ ledger.evicted ++ ledger.removed ++ ledger.cleared)

variable {tier after : Tier1 κ ν} {ledger : Ledger κ} {now : Instant} {key : κ}

section Keys

theorem mem_keys_iff (h : tier.storage.Placed) : key ∈ tier.keys ↔ tier.contains key = true := by
  show key ∈ tier.storage.entries.map Prod.fst ↔ (tier.storage.find? key).isSome = true
  simp [Option.isSome_iff_exists, h.mem_entries_iff]

/-- Tiers that contain the same keys list the same keys. -/
theorem keys_perm (h : tier.storage.Placed) (hafter : after.storage.Placed)
    (hsame : ∀ key, after.contains key = tier.contains key) : after.keys.Perm tier.keys := by
  refine (List.perm_ext_iff_of_nodup hafter.nodup h.nodup).2 fun key => ?_
  exact (mem_keys_iff hafter).trans ((hsame key).congr_left.trans (mem_keys_iff h).symm)

/-- A tier that contains one key more lists it besides the others. -/
theorem keys_perm_cons (h : tier.storage.Placed) (hafter : after.storage.Placed)
    (hnew : tier.contains key = false) (hkey : after.contains key = true)
    (hother : ∀ other, other ≠ key → after.contains other = tier.contains other) :
    after.keys.Perm (key :: tier.keys) := by
  have hnot : key ∉ tier.keys := by
    rw [mem_keys_iff h, hnew]
    exact Bool.false_ne_true
  refine (List.perm_ext_iff_of_nodup hafter.nodup (List.nodup_cons.2 ⟨hnot, h.nodup⟩)).2 ?_
  intro other
  refine (mem_keys_iff hafter).trans ?_
  rw [List.mem_cons, mem_keys_iff h]
  by_cases hcase : other = key
  · simp [hcase, hkey]
  · simp [hcase, hother other hcase]

end Keys

section Storing

theorem contains_store (tier : Tier1 κ ν) (key other : κ) (entry : CacheEntry ν) :
    (tier.store key entry).contains other = if other = key then true else tier.contains other := by
  refine (congrArg Option.isSome (tier.storage.find?_insert key other entry)).trans ?_
  exact apply_ite Option.isSome ..

theorem contains_remove (tier : Tier1 κ ν) (key other : κ) :
    (tier.remove key).2.contains other = if other = key then false else tier.contains other := by
  refine (congrArg Option.isSome (tier.find?_remove key other)).trans ?_
  exact apply_ite Option.isSome ..

end Storing

section Evictions

/-- What is left of a tier of which some entries were evicted. -/
structure Evicts (tier after : Tier1 κ ν) : Prop where
  /-- Nothing comes in, -/
  kept : ∀ {key entry}, after.storage.find? key = some entry → tier.storage.find? key = some entry
  /-- what has gone is counted, -/
  counted : after.evictions + after.size = tier.evictions + tier.size
  /-- and the rest stays in its part. -/
  placed : after.storage.Placed

/-- A look-up may evict its key. -/
theorem evicts_get (h : tier.storage.Placed) (now : Instant) (key : κ) :
    tier.Evicts (tier.get now key).2 where
  kept := found_of_get
  placed := placed_get h now key
  counted := by
    unfold get
    cases hfound : tier.storage.find? key with
    | none => rfl
    | some entry =>
        dsimp only
        split
        · have hsize := h.size_erase key
          rw [hfound] at hsize
          show tier.evictions + 1 + (tier.storage.erase key).size =
            tier.evictions + tier.storage.size
          rw [hsize, Nat.add_assoc, Nat.add_comm 1]
          rfl
        · rfl

/-- A sweep may evict any key. -/
theorem evicts_purge (h : tier.storage.Placed) (now : Instant) :
    tier.Evicts (tier.purge now).2 where
  kept := found_of_purge
  placed := placed_purge h now
  counted := tier.counted_purge now

/-- Making room may evict any key. -/
theorem evicts_room (h : tier.storage.Placed) (now : Instant) : tier.Evicts (tier.room now) := by
  unfold room
  split
  · exact {
      kept := (makes_room_shrink h now).kept
      placed := placed_shrink h now
      counted := counted_shrink h now }
  · exact ⟨id, rfl, h⟩

/-- The keys of a tier are those that are left and those that have gone. -/
theorem Evicts.keys_perm (hevicts : tier.Evicts after) (h : tier.storage.Placed) :
    tier.keys.Perm (after.keys ++ tier.gone after) := by
  have hleft : (tier.keys.filter after.contains).Perm after.keys := by
    refine (List.perm_ext_iff_of_nodup (h.nodup.filter _) hevicts.placed.nodup).2 fun key => ?_
    refine List.mem_filter.trans (Iff.trans ?_ (mem_keys_iff hevicts.placed).symm)
    refine and_iff_right_of_imp fun hafter => (mem_keys_iff h).2 ?_
    obtain ⟨entry, hentry⟩ := Option.isSome_iff_exists.1 hafter
    exact Option.isSome_iff_exists.2 ⟨entry, hevicts.kept hentry⟩
  exact (List.filter_append_perm _ _).symm.trans (hleft.append_right _)

/-- The evictions that are counted are those of the keys that have gone. -/
theorem Evicts.evictions_eq (hevicts : tier.Evicts after) (h : tier.storage.Placed) :
    after.evictions = tier.evictions + (tier.gone after).length := by
  have hlength := (hevicts.keys_perm h).length_eq
  rw [List.length_append, length_keys, length_keys] at hlength
  have hcounted := hevicts.counted
  omega

end Evictions

section Steps

/-- Evictions keep the balance. -/
theorem Balanced.evict (hbalanced : tier.Balanced ledger) (h : tier.storage.Placed)
    (hevicts : tier.Evicts after) :
    after.Balanced { ledger with evicted := tier.gone after ++ ledger.evicted } where
  evictions := by
    rw [hevicts.evictions_eq h, hbalanced.evictions, List.length_append, Nat.add_comm]
  entries := by
    refine hbalanced.entries.trans ?_
    have hkeys := ((hevicts.keys_perm h).append_right ledger.evicted).append_right ledger.removed
    simpa [List.append_assoc] using hkeys.append_right ledger.cleared

/-- Storing an entry keeps the balance. -/
theorem Balanced.store (hbalanced : tier.Balanced ledger) (h : tier.storage.Placed) (key : κ)
    (entry : CacheEntry ν) :
    (tier.store key entry).Balanced { ledger with
      stored := if tier.contains key then ledger.stored else key :: ledger.stored } where
  evictions := hbalanced.evictions
  entries := by
    have hplaced : (tier.store key entry).storage.Placed := h.insert key entry
    have hkey := tier.contains_store key key entry
    rw [if_pos rfl] at hkey
    have hother : ∀ other, other ≠ key →
        (tier.store key entry).contains other = tier.contains other :=
      fun other hne => (tier.contains_store key other entry).trans (if_neg hne)
    cases hcontains : tier.contains key with
    | true =>
        have hkeys : (tier.store key entry).keys.Perm tier.keys := by
          refine keys_perm h hplaced fun other => ?_
          by_cases hcase : other = key
          · rw [hcase, hkey, hcontains]
          · exact hother other hcase
        refine hbalanced.entries.trans ?_
        exact ((hkeys.symm.append_right _).append_right _).append_right _
    | false =>
        have hkeys := keys_perm_cons h hplaced hcontains hkey hother
        refine (hbalanced.entries.cons key).trans ?_
        exact ((hkeys.symm.append_right _).append_right _).append_right _

/-- A removal keeps the balance. -/
theorem Balanced.remove (hbalanced : tier.Balanced ledger) (h : tier.storage.Placed) (key : κ) :
    (tier.remove key).2.Balanced (if (tier.remove key).1.isSome then
      { ledger with removed := key :: ledger.removed } else ledger) := by
  have hplaced := placed_remove h key
  have hkey := tier.contains_remove key key
  rw [if_pos rfl] at hkey
  have hother : ∀ other, other ≠ key →
      tier.contains other = (tier.remove key).2.contains other :=
    fun other hne => ((tier.contains_remove key other).trans (if_neg hne)).symm
  have hgiven : (tier.remove key).1.isSome = tier.contains key := Option.isSome_map
  rw [hgiven]
  cases hcontains : tier.contains key with
  | true =>
      have hkeys := keys_perm_cons hplaced h hkey hcontains hother
      refine ⟨hbalanced.evictions, hbalanced.entries.trans ?_⟩
      refine (((hkeys.append_right _).append_right _).append_right _).trans ?_
      -- The key moves from the front to the removed ones.
      rw [if_pos rfl, List.perm_iff_count]
      intro other
      simp only [List.count_append, List.count_cons]
      omega
  | false =>
      have hkeys : tier.keys.Perm (tier.remove key).2.keys := by
        refine keys_perm hplaced h fun other => ?_
        by_cases hcase : other = key
        · rw [hcase, hkey, hcontains]
        · exact hother other hcase
      refine ⟨hbalanced.evictions, hbalanced.entries.trans ?_⟩
      exact ((hkeys.append_right _).append_right _).append_right _

/-- Clearing keeps the balance. -/
theorem Balanced.clear (hbalanced : tier.Balanced ledger) :
    tier.clear.Balanced { ledger with cleared := tier.keys ++ ledger.cleared } where
  evictions := hbalanced.evictions
  entries := by
    have hnone : tier.clear.keys = [] := by
      rw [← List.length_eq_zero_iff, length_keys]
      exact (tier.storage.placed_clear).size_eq_zero tier.storage.find?_clear
    rw [hnone]
    refine hbalanced.entries.trans ?_
    rw [List.perm_iff_count]
    intro other
    simp only [List.count_append, List.count_nil]
    omega

/-- Every call keeps the balance. -/
theorem Balanced.perform (hbalanced : tier.Balanced ledger) (h : tier.storage.Placed)
    (now : Instant) (call : Call κ ν) :
    (tier.perform now call).Balanced (ledger.enter tier now call) := by
  cases call with
  | insert key value =>
      have hroom := evicts_room h now
      exact (hbalanced.evict h hroom).store hroom.placed key ⟨value, now, tier.config.ttl⟩
  | get key => exact hbalanced.evict h (evicts_get h now key)
  | remove key => exact hbalanced.remove h key
  | purge => exact hbalanced.evict h (evicts_purge h now)
  | clear => exact hbalanced.clear
  | contains | size => exact hbalanced

/-- Every look-up is a hit or a miss, and nothing else is. -/
theorem lookups_perform (tier : Tier1 κ ν) (now : Instant) (call : Call κ ν) :
    (tier.perform now call).hits + (tier.perform now call).misses =
      tier.hits + tier.misses + if call.isLookUp then 1 else 0 := by
  cases call with
  | insert key value =>
      obtain ⟨hhits, hmisses⟩ := tier.counts_insert now key value
      show (tier.insert now key value).hits + (tier.insert now key value).misses = _
      rw [hhits, hmisses]
      rfl
  | get key =>
      show (tier.get now key).2.hits + (tier.get now key).2.misses = tier.hits + tier.misses + 1
      cases hlive : tier.live? now key with
      | none =>
          obtain ⟨after, hget, hhits, hmisses⟩ := tier.get_of_not_live now key hlive
          rw [hget, hhits, hmisses, Nat.add_assoc]
      | some value =>
          obtain ⟨after, hget, hhits, hmisses⟩ := tier.get_of_live now key hlive
          rw [hget, hhits, hmisses, Nat.add_right_comm]
  | remove | contains | purge | clear | size => rfl

end Steps

section Runs

/-- A list of calls keeps the balance. -/
theorem Balanced.run (hbalanced : tier.Balanced ledger) (h : tier.storage.Placed)
    (calls : List (TimedCall κ ν)) : (tier.run calls).Balanced (ledger.after tier calls) := by
  induction calls generalizing tier ledger with
  | nil => exact hbalanced
  | cons call rest ih =>
      exact ih (hbalanced.perform h call.1 call.2) (placed_perform h call.1 call.2)

theorem lookups_run (tier : Tier1 κ ν) (calls : List (TimedCall κ ν)) :
    (tier.run calls).hits + (tier.run calls).misses =
      tier.hits + tier.misses + calls.countP fun call => call.2.isLookUp := by
  induction calls generalizing tier with
  | nil => rfl
  | cons call rest ih =>
      rw [List.countP_cons, ← Nat.add_assoc, Nat.add_right_comm, ← lookups_perform tier call.1]
      exact ih _

omit [DecidableEq κ] in
/-- The entries that were stored are those that are there, and those that were evicted, removed or
cleared. -/
theorem Balanced.stored_eq (hbalanced : tier.Balanced ledger) : ledger.stored.length =
    tier.size + tier.evictions + ledger.removed.length + ledger.cleared.length := by
  rw [hbalanced.evictions, ← length_keys, hbalanced.entries.length_eq]
  simp only [List.length_append]

/-- In every session that begins with an empty tier the books balance: the look-ups are the hits
and the misses, and what was stored is there, was evicted, was removed or was cleared. -/
theorem session_balanced (config : Config) (hash : κ → Nat) (calls : List (TimedCall κ ν)) :
    let start : Tier1 κ ν := ofConfig config hash
    let finish := start.run calls
    let ledger := Ledger.after {} start calls
    finish.hits + finish.misses = calls.countP (fun call => call.2.isLookUp) ∧
      ledger.stored.length =
        finish.size + finish.evictions + ledger.removed.length + ledger.cleared.length ∧
      finish.Balanced ledger := by
  intro start finish ledger
  have hplaced : start.storage.Placed := placed_of_config config hash
  have hempty : start.Balanced {} := by
    refine ⟨rfl, ?_⟩
    have hnone : start.keys = [] := by
      rw [← List.length_eq_zero_iff, length_keys]
      exact size_of_config config hash
    rw [hnone]
    exact .nil
  have hbalanced : finish.Balanced ledger := hempty.run hplaced calls
  refine ⟨?_, hbalanced.stored_eq, hbalanced⟩
  rw [lookups_run]
  exact Nat.zero_add _

end Runs

end GameLibrary.Tier1
