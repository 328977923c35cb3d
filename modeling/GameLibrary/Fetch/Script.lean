import GameLibrary.Fetch.Rehearsal

/-!
# Scripted services

To rehearse a fetch, the popularity service is played by a script, which says for each facet how
long each call takes and what comes of it. The calls to a facet are numbered from zero on, and every
call is written into a log.
-/

namespace GameLibrary.Fetcher

/-- How a scripted service answers the calls to one facet, by their numbers. -/
structure Behaviour where
  delay : Nat → Duration := fun _ => .zero
  crashes : Bool := false
  failure : Nat → Option Failure := fun _ => none
  /-- The answer, where it is not the plain one. -/
  rankings : Nat → Option (List RankedItem) := fun _ => none

/-- A call to a scripted service. -/
structure LoggedCall where
  start : Instant
  facet : Facet
  number : Nat
  ids : List String

/-- Whether a call may stand before another one in a list by start, facet and number. -/
def LoggedCall.precedes (a b : LoggedCall) : Bool :=
  if a.start ≠ b.start then a.start.nanoseconds < b.start.nanoseconds
  else if a.facet ≠ b.facet then a.facet.index < b.facet.index
  else a.number ≤ b.number

/-- The calls so far, and whether every further call is refused. -/
structure Log where
  calls : List LoggedCall := []
  down : Bool := false

/-- The plain answer: the items as they are asked for, the score falling to one. -/
def plainAnswer (ids : List String) : List RankedItem :=
  ids.zipIdx.map fun (id, i) => ⟨id, UInt32.ofNat (i + 1), .ofNat (ids.length - i)⟩

/-- The service that a script describes. -/
def scripted (script : Facet → Behaviour) : Service Log := fun facet ids now log =>
  let number := log.calls.countP (·.facet = facet)
  let behaviour := script facet
  let reply :=
    if behaviour.crashes then Reply.crash
    else if log.down then .result (.error (.query "down"))
    else
      match behaviour.failure number with
      | some failure => .result (.error failure)
      | none => .result (.ok ((behaviour.rankings number).getD (plainAnswer ids)))
  ((behaviour.delay number, reply), { log with calls := ⟨now, facet, number, ids⟩ :: log.calls })

end GameLibrary.Fetcher
