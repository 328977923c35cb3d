import GameLibrary.Fetch.Step
import GameLibrary.Time.Agenda

/-!
# Rehearsals of a fetch

A rehearsal plays one fetch in virtual time against a service whose answers are known in advance,
with the time that each of them takes. Tasks begin in the order of their facets, and each goes on
until it has to wait. An answer that comes at the moment of its timeout or of the deadline still
counts.
-/

namespace GameLibrary.Fetcher

variable {ω : Type}

/-- What comes of a call. -/
inductive Reply where
  | result (result : CallResult)
  /-- The task that called breaks down. -/
  | crash

/-- A popularity service: what comes of a call that is made at some time, how long it takes, and the
world after the call was made. -/
abbrev Service (ω : Type) := Facet → List String → Instant → ω → (Duration × Reply) × ω

/-- What is to happen in a rehearsal. -/
inductive Errand where
  | begin (task : TaskId)
  | resume (task : TaskId)
  | reply (task : TaskId) (reply : Reply)
  | timeOut (task : TaskId)
  | expire
  | drop

/-- A fetcher in the course of a rehearsal. -/
structure Stage (ω : Type) where
  fetcher : Fetcher
  now : Instant
  world : ω
  agenda : List (Appointment Errand) := []
  /-- The most calls that were under way at the same time. -/
  peak : Nat := 0

namespace Stage

/-- The tasks that were given a permit and have not gone on. -/
def granted (fetcher : Fetcher) : List TaskId :=
  fetcher.tasks.entries.filterMap fun (id, task) =>
    match task with
    | .granted => some id
    | _ => none

/-- Arranges the reply to a call that a task has just made. -/
def follow (service : Service ω) (stage : Stage ω) (id : TaskId) : Stage ω :=
  match stage.fetcher.tasks.find? id with
  | some (.calling _ batch _ _) =>
      let ((time, reply), world) := service id.facet batch stage.now stage.world
      let limit := stage.fetcher.config.callTimeout
      let (delay, errand) :=
        if time ≤ limit then (time, Errand.reply id reply) else (limit, Errand.timeOut id)
      { stage with world, agenda := Appointment.arrange stage.now delay errand false stage.agenda }
  | _ => stage

/-- Lets an event happen at the fetcher. Tasks that are given a permit by it go on after everything
else at this time. -/
def proceed (stage : Stage ω) (event : Event) : Stage ω :=
  match stage.fetcher.step stage.now event with
  | none => stage
  | some fetcher =>
      let before := granted stage.fetcher
      let fresh := (granted fetcher).filter fun id => !before.contains id
      { stage with
        fetcher
        peak := max stage.peak fetcher.running
        agenda := fresh.foldl
          (fun agenda id => Appointment.enter ⟨stage.now, .resume id, false⟩ agenda) stage.agenda }

/-- Runs an errand for the fetch with the number zero. -/
def perform (service : Service ω) (stage : Stage ω) : Errand → Stage ω
  | .begin id => (stage.proceed (.begun id)).follow service id
  | .resume id => (stage.proceed (.resumed id)).follow service id
  | .reply id (.result result) => (stage.proceed (.answered id result)).follow service id
  | .reply id .crash => stage.proceed (.crashed id)
  | .timeOut id => stage.proceed (.timedOut id)
  | .expire => stage.proceed (.expired 0)
  | .drop => stage.proceed (.dropped 0)

/-- Takes the rehearsal further until the fetch is over. -/
def run (service : Service ω) : Nat → Stage ω → Stage ω
  | 0, stage => stage
  | fuel + 1, stage =>
      match stage.fetcher.fetches.find? 0 with
      | none | some ⟨_, _, _, _, _, some _⟩ => stage
      | _ =>
          match stage.agenda with
          | [] => stage
          | ⟨time, errand, _⟩ :: agenda =>
              run service fuel ({ stage with agenda, now := time }.perform service errand)

end Stage

/-- What comes of a fetch. -/
structure Performance (ω : Type) where
  /-- The result, unless the fetch was given up. -/
  result : Option (Except Failure Report)
  /-- The time at which the fetch ended. -/
  finish : Instant
  world : ω
  /-- The most calls that were under way at the same time. -/
  peak : Nat

/-- Plays a fetch that begins at some time and is given up after its patience is over. A fetch has
one errand for each call and two more for each task, besides its end. -/
def play (service : Service ω) (config : Config) (ids : List String) (patience : Option Duration)
    (now : Instant) (world : ω) : Performance ω :=
  let fetcher := (ofConfig config).openFetch now 0 ids
  let tasks := fetcher.tasksOf 0
  let beginnings := tasks.map fun id => (⟨now, .begin id, false⟩ : Appointment Errand)
  let (limit, errand) :=
    match patience with
    | some patience =>
        if patience < config.deadline then (patience, Errand.drop) else (config.deadline, .expire)
    | none => (config.deadline, .expire)
  let agenda := Appointment.arrange now limit errand true beginnings
  let fuel := tasks.length * ((batches config.batchSize ids).length + 2) + 2
  let last := Stage.run service fuel { fetcher, now, world, agenda }
  ⟨last.fetcher.result? 0, last.now, last.world, last.peak⟩

end GameLibrary.Fetcher
