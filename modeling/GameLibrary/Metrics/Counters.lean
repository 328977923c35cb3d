import GameLibrary.Json.Value
import GameLibrary.Number.Binary64
import GameLibrary.Time.Duration

/-!
# Counting how look-ups are answered

Every look-up adds to some of eleven counters. The latency of the computations is kept as a moving
average in microseconds: the first time that is not zero is taken as it is, and every later one
counts a tenth.
-/

namespace GameLibrary

open Number (Binary64)

/-- The counters of a cache. -/
structure Metrics where
  tier1Hits : Nat := 0
  tier1Misses : Nat := 0
  tier2Hits : Nat := 0
  tier2Misses : Nat := 0
  tier2Errors : Nat := 0
  promotions : Nat := 0
  originFetches : Nat := 0
  originFailures : Nat := 0
  partialResults : Nat := 0
  coalescedWaits : Nat := 0
  staleServed : Nat := 0
  /-- The moving average of the latency in microseconds. -/
  latencyMicros : Nat := 0
deriving DecidableEq, Inhabited, Repr

namespace Metrics

/-- The weight of a new latency. -/
def newWeight : Binary64 := .ofRatio false 1 10

/-- The moving average after one more latency. -/
def average (current new : Nat) : Nat :=
  if current = 0 then new
  else
    let kept := ((Binary64.ofNat 1).sub newWeight).mul (.ofNat current)
    (kept.add (newWeight.mul (.ofNat new))).truncate 0xffffffffffffffff

def tier1Hit (m : Metrics) : Metrics := { m with tier1Hits := m.tier1Hits + 1 }
def tier1Miss (m : Metrics) : Metrics := { m with tier1Misses := m.tier1Misses + 1 }
def tier2Hit (m : Metrics) : Metrics := { m with tier2Hits := m.tier2Hits + 1 }
def tier2Miss (m : Metrics) : Metrics := { m with tier2Misses := m.tier2Misses + 1 }
def tier2Error (m : Metrics) : Metrics := { m with tier2Errors := m.tier2Errors + 1 }
def promotion (m : Metrics) : Metrics := { m with promotions := m.promotions + 1 }
def originFailure (m : Metrics) : Metrics := { m with originFailures := m.originFailures + 1 }
def partialResult (m : Metrics) : Metrics := { m with partialResults := m.partialResults + 1 }
def coalescedWait (m : Metrics) : Metrics := { m with coalescedWaits := m.coalescedWaits + 1 }
def stale (m : Metrics) : Metrics := { m with staleServed := m.staleServed + 1 }

/-- Counts a computation that succeeded after some time, of which the microseconds are kept in
sixty-four bits. -/
def originFetch (m : Metrics) (elapsed : Duration) : Metrics :=
  { m with
    originFetches := m.originFetches + 1
    latencyMicros := average m.latencyMicros (elapsed.wholeMicroseconds % 0x10000000000000000) }

/-- The share of the answered look-ups that needed no computation. -/
def hitRatio (m : Metrics) : Binary64 :=
  let hits := Binary64.ofNat (m.tier1Hits + m.tier2Hits)
  let total := hits.add (.ofNat m.originFetches)
  if total.isZero then .zero else hits.div total

end Metrics

/-- The counters at one moment, with the state of the tier in memory. -/
structure Snapshot extends Metrics where
  tier1Entries : Nat := 0
  tier1Evictions : Nat := 0
  hitRatio : Binary64 := .zero
deriving DecidableEq, Inhabited

namespace Snapshot

/-- The counters of a cache whose tier in memory has so many entries and evictions. -/
def ofMetrics (m : Metrics) (entries evictions : Nat) : Snapshot :=
  { m with tier1Entries := entries, tier1Evictions := evictions, hitRatio := m.hitRatio }

/-- The snapshot whose counters are known by the names that `toJson` gives them. -/
def ofReadings (reading : String → Nat) : Snapshot where
  tier1Hits := reading "tier1_hits"
  tier1Misses := reading "tier1_misses"
  tier2Hits := reading "tier2_hits"
  tier2Misses := reading "tier2_misses"
  tier2Errors := reading "tier2_errors"
  promotions := reading "promotions"
  originFetches := reading "origin_fetches"
  originFailures := reading "origin_failures"
  partialResults := reading "partial_results"
  coalescedWaits := reading "coalesced_waits"
  staleServed := reading "stale_served"
  latencyMicros := reading "origin_latency_us"
  tier1Entries := reading "tier1_entries"
  tier1Evictions := reading "tier1_evictions"

/-- The snapshot as JSON. -/
def toJson (s : Snapshot) : Json :=
  .object [
    ("tier1_hits", .natural s.tier1Hits),
    ("tier1_misses", .natural s.tier1Misses),
    ("tier2_hits", .natural s.tier2Hits),
    ("tier2_misses", .natural s.tier2Misses),
    ("tier2_errors", .natural s.tier2Errors),
    ("promotions", .natural s.promotions),
    ("origin_fetches", .natural s.originFetches),
    ("origin_failures", .natural s.originFailures),
    ("partial_results", .natural s.partialResults),
    ("coalesced_waits", .natural s.coalescedWaits),
    ("stale_served", .natural s.staleServed),
    ("tier1_entries", .natural s.tier1Entries),
    ("tier1_evictions", .natural s.tier1Evictions),
    ("origin_latency_us", .natural s.latencyMicros),
    ("hit_ratio", .double s.hitRatio)]

end Snapshot

end GameLibrary
