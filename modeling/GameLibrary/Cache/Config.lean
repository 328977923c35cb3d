import GameLibrary.Store.Durable
import GameLibrary.Store.Tier1

/-!
# Settings and answers of the cache

The cache looks a key up in the tier in memory, then in the durable tier, and computes the value
when neither can answer. An answer tells where its value comes from.
-/

namespace GameLibrary.Cache

/-- Where a value comes from. -/
inductive Source where
  /-- The tier in memory. -/
  | tier1
  /-- The durable tier. -/
  | tier2
  /-- A computation of the caller's own. -/
  | origin
  /-- The computation of another caller. -/
  | coalesced
  /-- A record that is not fresh any more, given because the computation failed. -/
  | stale
deriving DecidableEq, Inhabited, Repr

/-- The name of a source in answers. -/
def Source.name : Source → String
  | tier1 => "tier1"
  | tier2 => "tier2"
  | origin => "origin"
  | coalesced => "coalesced"
  | stale => "stale"

/-- A value with its source. -/
structure Resolved (ν : Type) where
  value : ν
  source : Source
deriving DecidableEq, Inhabited, Repr

/-- What a call returns. -/
abbrev Outcome (ν : Type) := Except Failure (Resolved ν)

/-- What is done with a value in which something is missing. -/
inductive PartialPolicy where
  /-- It is kept like any other. -/
  | cacheAll
  /-- It is kept in memory only. -/
  | tier1Only
  /-- It is not kept. -/
  | completeOnly
deriving DecidableEq, Inhabited, Repr

/-- Whether a value is kept in memory. -/
def PartialPolicy.keepsInMemory (policy : PartialPolicy) (complete : Bool) : Bool :=
  complete || policy ≠ completeOnly

/-- Whether a value goes into the durable tier. -/
def PartialPolicy.keepsDurably (policy : PartialPolicy) (complete : Bool) : Bool :=
  complete || policy = cacheAll

/-- The settings of a cache. -/
structure Config where
  tier1 : Tier1.Config := .standard
  durable : Durable.Config := .standard
  /-- The longest that a computation may take. -/
  resolveTimeout : Duration := .seconds 30
  partialPolicy : PartialPolicy := .tier1Only
  /-- Whether a record that is not fresh any more stands in for a computation that failed. -/
  servesStale : Bool := true

end GameLibrary.Cache
