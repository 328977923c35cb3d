import GameLibrary.Cache.System
import GameLibrary.Time.Agenda

/-!
# Rehearsals

A rehearsal plays a list of calls on a system in virtual time, which passes only while something is
waited for: the start of a call, an answer of the store, a computation. At each moment a caller goes
on until it has to wait, and callers that can go on at the same moment do so in the order in which
they became able to. A computation that would take longer than allowed times out; one that ends at
that moment still counts. When every call is over, time stops.
-/

namespace GameLibrary.Rehearsal

variable {σ ν ω : Type}

/-- A call that is to be made. -/
structure Plan where
  key : Key
  /-- How long after the beginning the call is made. -/
  start : Duration := .zero
  /-- How long after its start the caller is dropped, if it has no answer by then. -/
  patience : Option Duration := none

/-- How callers compute. A computation that is begun at some time, in some state of the world, takes
a known time and has a known result, or has none before the longest time that it is allowed. -/
abbrev Computation (ν ω : Type) :=
  CallId → Instant → ω → Option (Duration × Except Failure ν) × ω

/-- What is to happen to a caller. -/
inductive Action (ν : Type) where
  | call (plan : Plan)
  | answer
  | erase
  | finish (result : Except Failure ν)
  | timeOut
  | write
  | drop

/-- An action and the caller that it happens to. -/
structure Errand (ν : Type) where
  id : CallId
  action : Action ν

/-- A system in the course of a rehearsal. -/
structure Stage (σ ν ω : Type) where
  system : System σ ν
  world : ω
  agenda : List (Appointment (Errand ν)) := []

namespace Stage

/-- Makes an appointment. A caller is dropped after everything else at the same time. -/
def arrange (stage : Stage σ ν ω) (delay : Duration) (id : CallId) (action : Action ν) :
    Stage σ ν ω :=
  let last := match action with
    | .drop => true
    | _ => false
  { stage with agenda := Appointment.arrange stage.system.now delay ⟨id, action⟩ last stage.agenda }

variable [Backend σ] [Payload ν]

/-- Lets an event happen. -/
def happen? (stage : Stage σ ν ω) (event : System.Event ν) : Option (Stage σ ν ω) :=
  (stage.system.step event).map fun system => { stage with system }

/-- Arranges what comes next for a caller that has just gone on. -/
def follow (compute : Computation ν ω) (stage : Stage σ ν ω) (id : CallId) : Stage σ ν ω :=
  match stage.system.cache.calls.find? id with
  | some ⟨_, .reading⟩ =>
      let delay := Backend.readDelay stage.system.store
      ((stage.happen? (.served id)).getD stage).arrange delay id .answer
  | some ⟨_, .erasing⟩ => stage.arrange .zero id .erase
  | some ⟨_, .computing _ _ _⟩ =>
      let limit := stage.system.cache.config.resolveTimeout
      let (result, world) := compute id stage.system.now stage.world
      let stage := { stage with world }
      match result with
      | none => stage.arrange limit id .timeOut
      | some (time, result) =>
          if time ≤ limit then stage.arrange time id (.finish result)
          else stage.arrange limit id .timeOut
  | some ⟨_, .storing _ _ _ _⟩ => stage.arrange (Backend.writeDelay stage.system.store) id .write
  | _ => stage

/-- Lets an event happen to a caller, which then goes on. -/
def proceed (compute : Computation ν ω) (stage : Stage σ ν ω) (id : CallId)
    (event : System.Event ν) : Stage σ ν ω :=
  match stage.happen? event with
  | some stage => stage.follow compute id
  | none => stage

/-- Whether nothing is left to do for the errand. -/
def isIdle (stage : Stage σ ν ω) (errand : Errand ν) : Bool :=
  match errand.action, stage.system.cache.calls.find? errand.id with
  | .call _, _ => false
  | _, none => true
  | _, some ⟨_, .returned _⟩ => true
  | _, _ => false

/-- Keeps an appointment when its time has come. -/
def keep (compute : Computation ν ω) (stage : Stage σ ν ω)
    (appointment : Appointment (Errand ν)) : Stage σ ν ω :=
  let id := appointment.errand.id
  let stage := { stage with system := { stage.system with now := appointment.time } }
  match appointment.errand.action with
  | .call plan =>
      let stage :=
        match plan.patience with
        | some patience => stage.arrange patience id .drop
        | none => stage
      stage.proceed compute id (.called id plan.key)
  | .answer => stage.proceed compute id (.answered id)
  | .erase => stage.proceed compute id (.erased id)
  | .finish result => stage.proceed compute id (.computed id result)
  | .timeOut => stage.proceed compute id (.timedOut id)
  | .write => stage.proceed compute id (.written id)
  | .drop => stage.proceed compute id (.dropped id)

/-- Whether a caller that waits for a flight can go on. -/
def canResume (stage : Stage σ ν ω) (id : CallId) : Bool :=
  match stage.system.cache.calls.find? id with
  | some ⟨_, .waiting flight _⟩ =>
      let joined := stage.system.cache.flight flight
      joined.outcome.isSome || joined.leader = some id
  | _ => false

/-- Takes the rehearsal further: a caller that waited for a flight and can go on, or else the next
appointment. -/
def run (compute : Computation ν ω) : Nat → Stage σ ν ω → Stage σ ν ω
  | 0, stage => stage
  | fuel + 1, stage =>
      match (stage.system.cache.calls.entries.map Prod.fst).find? stage.canResume with
      | some id => run compute fuel (stage.proceed compute id (.resumed id))
      | none =>
          match stage.agenda with
          | [] => stage
          | appointment :: agenda =>
              let stage := { stage with agenda }
              if stage.isIdle appointment.errand then run compute fuel stage
              else run compute fuel (stage.keep compute appointment)

end Stage

/-- The appointments to make the calls, which are numbered in order. -/
def invitations (beginning : Instant) (plans : List Plan) : List (Appointment (Errand ν)) :=
  plans.zipIdx.foldl
    (fun agenda (plan, id) =>
      Appointment.enter ⟨beginning.after plan.start, ⟨id, .call plan⟩, false⟩ agenda) []

/-- Plays the calls on a system without calls. Gives the outcome of each call that was not dropped.
A caller has at most six appointments and waits at most once for a flight. -/
def play [Backend σ] [Payload ν] (compute : Computation ν ω) (plans : List Plan)
    (system : System σ ν) (world : ω) : List (Option (Cache.Outcome ν)) × System σ ν × ω :=
  let first : Stage σ ν ω := ⟨system, world, invitations system.now plans⟩
  let last := Stage.run compute (7 * plans.length + 1) first
  let outcomes := (List.range plans.length).map last.system.cache.outcome?
  (outcomes, { last.system with cache := { last.system.cache with calls := .empty } }, last.world)

end GameLibrary.Rehearsal
