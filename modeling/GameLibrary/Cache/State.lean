import GameLibrary.Cache.Config
import GameLibrary.Metrics.Counters

/-!
# The state of the cache

Callers that miss the same key at the same time share one computation. Such a shared computation is
a flight: one caller leads it, the others wait for its outcome in the order in which they came, and
the first of them takes over if the leader is dropped. A flight is registered under its key until its
leader has brought it to an end.

A caller runs without interruption until it has to wait for the durable store, for its computation or
for its flight. `Cache.Point` has one constructor for each of these places, with what the caller
still needs when it goes on.
-/

namespace GameLibrary

/-- The number of a caller. -/
abbrev CallId := Nat

/-- The number of a flight. -/
abbrev FlightId := Nat

namespace Cache

/-- A computation that callers share. -/
structure Flight (ν : Type) where
  /-- What it came to, once it has. -/
  outcome : Option (Outcome ν) := none
  /-- The caller that computes, or is the next to. -/
  leader : Option CallId := none
  /-- The callers that would take over, in this order. -/
  queue : List CallId := []

/-- Where a caller stands. -/
inductive Point (ν : Type) where
  /-- The durable store has not served the read yet. -/
  | reading
  /-- The answer to the read is under way. -/
  | answered (answer : ReadAnswer)
  /-- A record beyond the grace period is being removed. -/
  | erasing
  /-- The caller waits for the outcome of a flight, or for the lead. -/
  | waiting (flight : FlightId) (fallback : Option ν)
  /-- The caller leads the flight and computes. -/
  | computing (flight : FlightId) (fallback : Option ν) (started : Instant)
  /-- The caller leads the flight and writes the value that it computed to the durable store. -/
  | storing (flight : FlightId) (fallback : Option ν) (value : ν) (record : Record)
  /-- The call is over. -/
  | returned (outcome : Outcome ν)

/-- A call for the value of a key. -/
structure Call (ν : Type) where
  key : Key
  point : Point ν

end Cache

/-- The state of a cache with the calls that are under way. -/
structure Cache (ν : Type) where
  config : Cache.Config
  tier1 : Tier1 Key ν
  metrics : Metrics := {}
  /-- The flight that a new caller for a key joins. -/
  registry : Table Key FlightId := .empty
  flights : Table FlightId (Cache.Flight ν) := .empty
  /-- The number of the next flight. -/
  nextFlight : FlightId := 0
  calls : Table CallId (Cache.Call ν) := .empty

namespace Cache

variable {ν : Type}

/-- The cache before any call. -/
def ofConfig (config : Config) : Cache ν := { config, tier1 := .ofConfig config.tier1 Key.hash }

/-- A flight by its number. -/
def flight (cache : Cache ν) (id : FlightId) : Flight ν := (cache.flights.find? id).getD {}

/-- The cache in which a flight is in another state. -/
def setFlight (cache : Cache ν) (id : FlightId) (flight : Flight ν) : Cache ν :=
  { cache with flights := cache.flights.insert id flight }

/-- The cache in which a caller stands at another point. -/
def setPoint (cache : Cache ν) (id : CallId) (key : Key) (point : Point ν) : Cache ν :=
  { cache with calls := cache.calls.insert id ⟨key, point⟩ }

/-- The cache with other counters. -/
def count (cache : Cache ν) (change : Metrics → Metrics) : Cache ν :=
  { cache with metrics := change cache.metrics }

/-- The cache with a value in memory. -/
def keep (cache : Cache ν) (now : Instant) (key : Key) (value : ν) : Cache ν :=
  { cache with tier1 := cache.tier1.insert now key value }

/-- The number of keys with a flight. -/
def inFlight (cache : Cache ν) : Nat := cache.registry.size

/-- The outcome of a call that is over. -/
def outcome? (cache : Cache ν) (id : CallId) : Option (Outcome ν) :=
  match cache.calls.find? id with
  | some ⟨_, .returned outcome⟩ => some outcome
  | _ => none

/-- The counters of the cache at one moment. -/
def snapshot (cache : Cache ν) : Snapshot :=
  .ofMetrics cache.metrics cache.tier1.size cache.tier1.evictions

end Cache

end GameLibrary
