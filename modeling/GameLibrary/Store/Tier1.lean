import GameLibrary.Number.Binary64
import GameLibrary.Store.Shards
import GameLibrary.Time.Duration

/-!
# The tier in memory

Values are kept for a fixed time after their insertion. An expired one is dropped by the look-up
that finds it or by a sweep. The number of entries is bounded: an insertion that finds the tier full
first drops the expired entries and then the oldest, down to a fraction of the bound.
-/

namespace GameLibrary

open Number (Binary64)

/-- A value with the time of its insertion. -/
structure CacheEntry (ν : Type) where
  value : ν
  insertedAt : Instant
  ttl : Duration

/-- Whether the time to live is over. -/
def CacheEntry.isExpired {ν : Type} (entry : CacheEntry ν) (now : Instant) : Bool :=
  entry.ttl < now.since entry.insertedAt

namespace Tier1

/-- The bounds of the tier. -/
structure Config where
  ttl : Duration
  maxEntries : Nat
  /-- The fraction of the bound to which a full tier shrinks. -/
  lowWatermark : Binary64

/-- Five minutes, a thousand and twenty-four entries, four fifths. -/
def Config.standard : Config := ⟨.seconds 300, 1024, .ofRatio false 8 10⟩

/-- The number of entries to which a full tier shrinks. -/
def Config.target (config : Config) : Nat :=
  ((Binary64.ofNat config.maxEntries).mul config.lowWatermark).truncate 0xffffffffffffffff

end Tier1

/-- The tier in memory. -/
structure Tier1 (κ : Type) (ν : Type) where
  config : Tier1.Config
  storage : Shards κ (CacheEntry ν)
  hits : Nat
  misses : Nat
  evictions : Nat

namespace Tier1

variable {κ ν : Type} [DecidableEq κ]

/-- The empty tier, in sixty-four parts. -/
def ofConfig (config : Config) (hash : κ → Nat) : Tier1 κ ν :=
  ⟨config, .empty 6 hash, 0, 0, 0⟩

/-- The number of entries, expired ones included. -/
def size (tier : Tier1 κ ν) : Nat := tier.storage.size

/-- Whether the key has an entry, be it expired. -/
def contains (tier : Tier1 κ ν) (key : κ) : Bool := tier.storage.contains key

/-- The value of a key that has not expired. -/
def live? (tier : Tier1 κ ν) (now : Instant) (key : κ) : Option ν :=
  ((tier.storage.find? key).filter (!·.isExpired now)).map CacheEntry.value

/-- Looks a key up; an expired entry is dropped. -/
def get (tier : Tier1 κ ν) (now : Instant) (key : κ) : Option ν × Tier1 κ ν :=
  match tier.storage.find? key with
  | none => (none, { tier with misses := tier.misses + 1 })
  | some entry =>
      if entry.isExpired now then
        (none, { tier with
          storage := tier.storage.erase key
          misses := tier.misses + 1
          evictions := tier.evictions + 1 })
      else (some entry.value, { tier with hits := tier.hits + 1 })

/-- Drops the expired entries, and tells how many there were. -/
def purge (tier : Tier1 κ ν) (now : Instant) : Nat × Tier1 κ ν :=
  let kept := tier.storage.filter fun _ entry => !entry.isExpired now
  let removed := tier.size - kept.size
  (removed, { tier with storage := kept, evictions := tier.evictions + removed })

/-- The keys by time of insertion, the oldest first. -/
def keysByAge (tier : Tier1 κ ν) : List κ :=
  (tier.storage.entries.mergeSort fun a b => a.2.insertedAt ≤ b.2.insertedAt).map Prod.fst

/-- Drops one entry that is not wanted any more. -/
def evictKey (tier : Tier1 κ ν) (key : κ) : Tier1 κ ν :=
  if tier.contains key then
    { tier with storage := tier.storage.erase key, evictions := tier.evictions + 1 }
  else tier

/-- Shrinks to the target: the expired entries go first, then the oldest. -/
def shrink (tier : Tier1 κ ν) (now : Instant) : Tier1 κ ν :=
  let purged := (tier.purge now).2
  let excess := purged.size - tier.config.target
  (purged.keysByAge.take excess).foldl evictKey purged

/-- Inserts a value with the present time, after shrinking a full tier. -/
def insert (tier : Tier1 κ ν) (now : Instant) (key : κ) (value : ν) : Tier1 κ ν :=
  let room := if tier.config.maxEntries ≤ tier.size then tier.shrink now else tier
  { room with storage := room.storage.insert key ⟨value, now, tier.config.ttl⟩ }

/-- Removes a key, and gives its value, be it expired. -/
def remove (tier : Tier1 κ ν) (key : κ) : Option ν × Tier1 κ ν :=
  ((tier.storage.find? key).map CacheEntry.value,
    { tier with storage := tier.storage.erase key })

/-- Removes every entry. -/
def clear (tier : Tier1 κ ν) : Tier1 κ ν := { tier with storage := tier.storage.clear }

end Tier1

end GameLibrary
