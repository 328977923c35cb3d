import GameLibrary.Proofs.Number.Fractions
import GameLibrary.Proofs.Store.Sessions

/-!
# How many entries the tier in memory holds

A full tier shrinks to its target and then takes the new entry beside what is left. So the number of
entries never passes the bound, or the target and one entry if these are more (`size_run_le`), and a
session of insertions gets that far (`size_fill`). A watermark below one keeps a place free
(`target_lt`); a watermark of one keeps none, and lets the bound be passed by one entry.
-/

namespace GameLibrary.Tier1

open Number (Binary64)

variable {κ ν : Type}

/-- The most entries that the tier holds at any time. -/
def Config.limit (config : Config) : Nat := max config.maxEntries (config.target + 1)

/-- Insertions of one value with many keys, all at the same time. -/
def fill (now : Instant) (value : ν) (keys : List κ) : List (TimedCall κ ν) :=
  keys.map fun key => (now, .insert key value)

section Watermark

variable {config : Config}

/-- A watermark below one keeps a place free. -/
theorem target_lt (hpos : 0 < config.maxEntries)
    (hwatermark : config.lowWatermark.lt (.ofNat 1) = true) : config.target < config.maxEntries :=
  Binary64.truncate_mul_lt hpos (by decide) hwatermark

/-- With a watermark of one the target is the bound. -/
theorem target_eq (hexact : config.maxEntries < 2 ^ 53)
    (hwatermark : config.lowWatermark.numEq (.ofNat 1) = true) :
    config.target = config.maxEntries :=
  Binary64.truncate_mul_one hexact (hexact.le.trans (by decide)) hwatermark

/-- The limit is the bound if the target keeps a place free. -/
theorem limit_le_iff : config.limit ≤ config.maxEntries ↔ config.target < config.maxEntries := by
  unfold Config.limit
  omega

end Watermark

variable [DecidableEq κ] {tier : Tier1 κ ν} {config : Config} {hash : κ → Nat}

section Bound

/-- A full tier has room for the new entry beside its target. -/
theorem size_insert_le (h : tier.storage.Placed) (now : Instant) (key : κ) (value : ν) :
    (tier.insert now key value).size ≤ tier.config.limit := by
  unfold insert Config.limit
  dsimp only
  split
  · have hroom := (makes_room_shrink h now).size_eq
    have hinsert := (placed_shrink h now).size_insert_le key
      ⟨value, now, tier.config.ttl⟩
    have hshrunk : (tier.shrink now).storage.size ≤ tier.config.target :=
      hroom.trans_le (Nat.min_le_right _ _)
    exact le_max_of_le_right (hinsert.trans (Nat.succ_le_succ hshrunk))
  · rename_i hroom
    have hinsert := h.size_insert_le key ⟨value, now, tier.config.ttl⟩
    exact le_max_of_le_left (hinsert.trans (Nat.lt_of_not_le hroom))

/-- Only an insertion takes an entry in. -/
theorem size_perform_le (h : tier.storage.Placed) (hsize : tier.size ≤ tier.config.limit)
    (now : Instant) (call : Call κ ν) :
    (tier.perform now call).size ≤ tier.config.limit := by
  have hkept : (∀ key value, call ≠ .insert key value) →
      (tier.perform now call).size ≤ tier.size := by
    intro hother
    refine (placed_perform h now call).size_le fun {key entry} hfound => ?_
    rcases found_of_perform hfound with ⟨value, hcall, -⟩ | ⟨-, hbefore⟩
    · exact (hother key value hcall).elim
    · exact ⟨entry, hbefore⟩
  cases call with
  | insert key value => exact size_insert_le h now key value
  | get | remove | contains | purge | clear | size => exact (hkept nofun).trans hsize

/-- No session takes the tier beyond its limit. -/
theorem size_run_le (config : Config) (hash : κ → Nat) (calls : List (TimedCall κ ν)) :
    ((ofConfig config hash : Tier1 κ ν).run calls).size ≤ config.limit := by
  induction calls using List.reverseRecOn with
  | nil =>
      rw [run_nil, size_of_config]
      exact Nat.zero_le _
  | append_singleton calls call ih =>
      have hstep := size_perform_le (placed_session config hash calls)
        (by rw [config_run]; exact ih) call.1 call.2
      rw [config_run] at hstep
      rw [run_concat]
      exact hstep

end Bound

section Reached

variable {now : Instant} {value : ν} {keys : List κ}

/-- An insertion of a new key drops nothing that has not expired, unless the limit is reached. -/
theorem size_insert_of_new (h : tier.storage.Placed) (hlive : tier.liveCount now = tier.size)
    (hlimit : tier.size < tier.config.limit) {key : κ} (hnew : tier.storage.find? key = none) :
    (tier.insert now key value).size = tier.size + 1 := by
  unfold insert
  dsimp only
  split
  · rename_i hfull
    have hroom := makes_room_shrink h now
    have htarget : tier.size ≤ tier.config.target := by
      unfold Config.limit at hlimit
      omega
    have hsame : (tier.shrink now).size = tier.size := by
      rw [hroom.size_eq, hlive, Nat.min_eq_left htarget]
    have hnot : (tier.shrink now).storage.find? key = none := by
      refine Option.eq_none_iff_forall_ne_some.2 fun entry hfound => ?_
      cases (hroom.kept hfound).symm.trans hnew
    exact ((placed_shrink h now).size_insert_of_new hnot _).trans (congrArg (· + 1) hsame)
  · exact h.size_insert_of_new hnew _

/-- The entries after such insertions are those of the keys. -/
theorem found_fill {key : κ} {entry : CacheEntry ν}
    (hfound : ((ofConfig config hash).run (fill now value keys)).storage.find? key = some entry) :
    key ∈ keys ∧ entry = ⟨value, now, config.ttl⟩ := by
  obtain ⟨time, value', hcall, rfl⟩ := inserted_of_found hfound
  obtain ⟨other, hother, hcall⟩ := List.mem_map.1 hcall
  cases hcall
  exact ⟨hother, rfl⟩

/-- At the time of their insertion none of them has expired. -/
theorem live_fill (config : Config) (hash : κ → Nat) (now : Instant) (value : ν) (keys : List κ) :
    ((ofConfig config hash).run (fill now value keys)).liveCount now =
      ((ofConfig config hash).run (fill now value keys)).size := by
  have hplaced := placed_session config hash (fill now value keys)
  refine Eq.trans ?_ (Shards.size_eq_length_entries _).symm
  refine List.countP_eq_length.2 ?_
  rintro ⟨key, entry⟩ hmem
  obtain ⟨-, rfl⟩ := found_fill (hplaced.find?_of_mem hmem)
  simp [not_expired_now]

/-- Up to the limit every new key is one entry more. -/
theorem size_fill (config : Config) (hash : κ → Nat) (now : Instant) (value : ν)
    (hkeys : keys.Nodup) (hlimit : keys.length ≤ config.limit) :
    ((ofConfig config hash).run (fill now value keys)).size = keys.length := by
  induction keys using List.reverseRecOn with
  | nil => exact size_of_config config hash
  | append_singleton keys key ih =>
      rw [List.length_append, List.length_singleton] at hlimit ⊢
      obtain ⟨hkeys, -, hnew⟩ := List.nodup_append.1 hkeys
      have hsize := ih hkeys (Nat.le_of_succ_le hlimit)
      have hplaced := placed_session config hash (fill now value keys)
      have hlive := live_fill config hash now value keys
      have hfound : ∀ entry,
          ((ofConfig config hash).run (fill now value keys)).storage.find? key ≠ some entry :=
        fun entry hfound => hnew _ (found_fill hfound).1 _ (List.mem_singleton_self _) rfl
      have hroom : ((ofConfig config hash).run (fill now value keys)).size <
          ((ofConfig config hash).run (fill now value keys)).config.limit := by
        rw [hsize, config_run]
        exact hlimit
      have hfill : fill now value (keys ++ [key]) =
          fill now value keys ++ [(now, .insert key value)] := List.map_append
      rw [hfill, run_concat, ← hsize]
      exact size_insert_of_new hplaced hlive hroom (Option.eq_none_iff_forall_ne_some.2 hfound)

end Reached

/-- How many entries the tier holds in its sessions. -/
structure SizeBounded (config : Config) (hash : κ → Nat) (keys : List κ) (now : Instant)
    (value : ν) : Prop where
  /-- No session takes the tier beyond its limit, -/
  size_le : ∀ calls : List (TimedCall κ ν), ((ofConfig config hash).run calls).size ≤ config.limit
  /-- and insertions of as many keys take it there. -/
  reached : ((ofConfig config hash).run (fill now value (keys.take config.limit))).size =
    config.limit
  /-- So all sessions keep within the bound exactly if the target keeps a place free, -/
  kept_iff : (∀ calls : List (TimedCall κ ν),
    ((ofConfig config hash).run calls).size ≤ config.maxEntries) ↔
      config.target < config.maxEntries
  /-- as it does with a watermark below one. -/
  kept : config.lowWatermark.lt (.ofNat 1) = true → ∀ calls : List (TimedCall κ ν),
    ((ofConfig config hash).run calls).size ≤ config.maxEntries
  /-- With a watermark of one the bound is passed by one entry. -/
  passed : config.lowWatermark.numEq (.ofNat 1) = true → config.maxEntries < 2 ^ 53 →
    config.limit = config.maxEntries + 1

/-- The bound on the entries holds if the watermark is below one, and fails by one entry if it is
one. -/
theorem run_size_bounded (config : Config) (hash : κ → Nat) (hpos : 0 < config.maxEntries)
    {keys : List κ} (hkeys : keys.Nodup) (hmany : config.limit ≤ keys.length) (now : Instant)
    (value : ν) : SizeBounded config hash keys now value := by
  have hle : ∀ calls : List (TimedCall κ ν),
      ((ofConfig config hash).run calls).size ≤ config.limit := size_run_le config hash
  have hlength : (keys.take config.limit).length = config.limit :=
    (List.length_take ..).trans (Nat.min_eq_left hmany)
  have hreached : ((ofConfig config hash).run (fill now value (keys.take config.limit))).size =
      config.limit :=
    (size_fill config hash now value (hkeys.sublist (List.take_sublist ..))
      (Nat.le_of_eq hlength)).trans hlength
  have hkept : config.target < config.maxEntries → ∀ calls : List (TimedCall κ ν),
      ((ofConfig config hash).run calls).size ≤ config.maxEntries :=
    fun htarget calls => (hle calls).trans (limit_le_iff.2 htarget)
  exact {
    size_le := hle
    reached := hreached
    kept_iff := ⟨fun hall => limit_le_iff.1 (hreached.symm.trans_le (hall _)), hkept⟩
    kept := fun hwatermark => hkept (target_lt hpos hwatermark)
    passed := fun hwatermark hexact => by
      unfold Config.limit
      rw [target_eq hexact hwatermark]
      exact Nat.max_eq_right (Nat.le_succ _) }

/-- Room for two entries, both of which a full tier keeps. -/
def brimful : Config where
  ttl := .seconds 300
  maxEntries := 2
  lowWatermark := .ofNat 1

/-- A third key is taken in beside two others. -/
theorem run_size_bounded_brimful :
    0 < brimful.maxEntries ∧ [1, 2, 3].Nodup ∧ brimful.limit = 3 ∧
      SizeBounded brimful id [1, 2, 3] ⟨0⟩ "value" ∧
      ((ofConfig brimful id).run (fill ⟨0⟩ "value" [1, 2, 3])).size = 3 := by
  have hbounded : SizeBounded brimful id [1, 2, 3] ⟨0⟩ "value" :=
    run_size_bounded brimful id (by decide) (by decide) (by decide +kernel) ⟨0⟩ "value"
  have hlimit := hbounded.passed (by decide +kernel) (by decide)
  have hreached := hbounded.reached
  rw [hlimit] at hreached
  exact ⟨by decide, by decide, hlimit, hbounded, hreached⟩

end GameLibrary.Tier1
