import GameLibrary.Store.Backend
import GameLibrary.Store.Payload

/-!
# The durable tier

Values with a time to live in a durable store. A record whose time is over is kept as a fallback for
a grace period; a look-up that finds one beyond the grace period removes it. `Durable.finding` says
what an answer of the store means at a given time.
-/

namespace GameLibrary.Durable

variable {σ ν : Type} [Backend σ] [Payload ν]

/-- How long values are kept. -/
structure Config where
  /-- How long a record is fresh. -/
  ttl : Duration
  /-- How long a record that is not fresh any more can be a fallback. -/
  grace : Duration
deriving DecidableEq, Inhabited, Repr

/-- A day and a week. -/
def Config.standard : Config := ⟨.seconds 86400, .seconds 604800⟩

/-- What a look-up gives. -/
inductive Lookup (ν : Type) where
  | fresh (value : ν)
  /-- A value that can only be a fallback. -/
  | stale (value : ν)
  | missing
deriving DecidableEq, Inhabited, Repr

/-- What the answer of the store means. -/
inductive Finding (ν : Type) where
  | usable (lookup : Lookup ν)
  /-- The record is too old even as a fallback. -/
  | outdated
  | failed (failure : Failure)

/-- What the answer of the store for a key means. A record with another key counts as none. -/
def finding (config : Config) (now : Instant) (key : Key) : ReadAnswer → Finding ν
  | .error failure => .failed failure
  | .ok none => .usable .missing
  | .ok (some record) =>
      if record.key ≠ key then .usable .missing
      else if record.isPastGrace now config.grace then .outdated
      else
        match Payload.decode record.payload with
        | .error failure => .failed failure
        | .ok value =>
            .usable (if record.isExpired now then .stale value else .fresh value)

/-- The record of a value written now. -/
def record (config : Config) (now : Instant) (key : Key) (value : ν) : Record :=
  .ofPayload key (Payload.encode value) config.ttl now

/-- Looks a key up, and removes a record beyond the grace period. The failure of that removal does
not matter. Gives the time at which the look-up ends. -/
def lookup (config : Config) (key : Key) (now : Instant) (store : σ) :
    Except Failure (Lookup ν) × Instant × σ :=
  let now := now.after (Backend.readDelay store)
  let (answer, store) := Backend.get store key
  match finding config now key answer with
  | .usable lookup => (.ok lookup, now, store)
  | .outdated => (.ok .missing, now, (Backend.delete store key).2)
  | .failed failure => (.error failure, now, store)

/-- Writes a value, and gives the time at which the writing ends. -/
def store (config : Config) (key : Key) (value : ν) (now : Instant) (store : σ) :
    Except Failure Unit × Instant × σ :=
  let record := record config now key value
  let now := now.after (Backend.writeDelay store)
  let (answer, store) := Backend.put store record
  (answer, now, store)

end GameLibrary.Durable
