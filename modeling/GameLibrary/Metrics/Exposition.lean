import GameLibrary.Metrics.Counters
import GameLibrary.Number.Shortest

/-!
# Metrics as text

The text exposition of a snapshot: for each gauge, by name, a line of help, a line with its type and
a line with its value. Values are taken as signed words of sixty-four bits and written as the
shortest digits of the nearest double, padded with zeros.
-/

namespace GameLibrary.Snapshot

open Number (Binary64 DecimalFormat)

/-- A number that goes up and down. -/
structure Gauge where
  name : String
  help : String
  value : Nat

/-- The gauges of a snapshot, by name. -/
def gauges (s : Snapshot) : List Gauge := [
  ⟨"coalesced_waits", "Callers that joined an in-flight fetch", s.coalescedWaits⟩,
  ⟨"origin_failures", "Origin fetches that failed", s.originFailures⟩,
  ⟨"origin_fetches", "Origin fetches performed", s.originFetches⟩,
  ⟨"origin_latency_us", "Smoothed origin fetch latency in microseconds", s.latencyMicros⟩,
  ⟨"partial_results", "Origin fetches with failed facets", s.partialResults⟩,
  ⟨"promotions", "Tier2 records promoted into Tier1", s.promotions⟩,
  ⟨"stale_served", "Expired Tier2 records served after a failure", s.staleServed⟩,
  ⟨"tier1_entries", "Entries currently in Tier1", s.tier1Entries⟩,
  ⟨"tier1_evictions", "Entries evicted from Tier1", s.tier1Evictions⟩,
  ⟨"tier1_hits", "Lookups answered by Tier1", s.tier1Hits⟩,
  ⟨"tier1_misses", "Lookups that missed Tier1", s.tier1Misses⟩,
  ⟨"tier2_errors", "Tier2 reads or writes that failed", s.tier2Errors⟩,
  ⟨"tier2_hits", "Lookups answered by Tier2", s.tier2Hits⟩,
  ⟨"tier2_misses", "Lookups that missed Tier2", s.tier2Misses⟩]

/-- How values are written: in positional notation, without a point. -/
def valueFormat : DecimalFormat where
  tie := .up
  positional := none
  wholeMark := ""

/-- The text of a value. -/
def valueText (n : Nat) : String := valueFormat.render (.ofInt (Int.bmod n 0x10000000000000000))

/-- The three lines of a gauge. -/
def Gauge.text (gauge : Gauge) : String :=
  let name := "shelfwise_cache_" ++ gauge.name
  "# HELP " ++ name ++ " " ++ gauge.help ++ "\n# TYPE " ++ name ++ " gauge\n" ++
    name ++ " " ++ valueText gauge.value ++ "\n"

/-- The text exposition. -/
def exposition (s : Snapshot) : String := String.join (s.gauges.map Gauge.text)

end GameLibrary.Snapshot
