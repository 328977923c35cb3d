import GameLibrary.Breakdown
import GameLibrary.Failure
import GameLibrary.Fetch.Batches
import GameLibrary.Popularity.Report
import GameLibrary.Store.Table

/-!
# The state of the fetcher

A fetch asks the popularity service for the rankings of a list of ids, with one task for each facet.
A task asks for one batch of ids after the other. All the fetches of a fetcher share a number of
permits: a task holds one from its first call to its end, and tasks that find no permit free get the
next ones in the order in which they asked. A fetch ends when its last task does, or at its deadline,
which cuts the other tasks off.
-/

namespace GameLibrary

namespace Fetcher

/-- The settings of a fetcher. -/
structure Config where
  /-- The address of the service. -/
  baseUrl : String := "http://localhost:8080"
  /-- How many tasks may call at the same time; none counts as one. -/
  workers : Nat := 4
  /-- The longest that one call may take. -/
  callTimeout : Duration := .seconds 10
  /-- The longest that a fetch may take. -/
  deadline : Duration := .seconds 25
  /-- How many ids one call asks for; none counts as one. -/
  batchSize : Nat := 100
  /-- The facets to ask for. -/
  facets : List Facet := Facet.all

/-- The number of tasks that may call at the same time. -/
def Config.permits (config : Config) : Nat := max config.workers 1

/-- The number of a fetch. -/
abbrev FetchId := Nat

/-- The task of a fetch for one facet. -/
structure TaskId where
  fetch : FetchId
  facet : Facet
deriving DecidableEq, Inhabited, Repr

/-- An answer to one call. -/
abbrev CallResult := Except Failure (List RankedItem)

/-- Where a task stands. -/
inductive Task where
  /-- It has not begun. -/
  | fresh
  /-- It waits for a permit. -/
  | queued
  /-- It was given a permit and has not gone on yet. -/
  | granted
  /-- It calls the service for a batch; the answers for the batches before are there, and other
  batches come after. -/
  | calling (answers : List (List RankedItem)) (batch : List String) (later : List (List String))
      (since : Instant)
deriving Inhabited

/-- Whether the task holds a permit. -/
def Task.holdsPermit : Task → Bool
  | granted | calling _ _ _ _ => true
  | fresh | queued => false

/-- Whether the task is calling the service. -/
def Task.isCalling : Task → Bool
  | calling _ _ _ _ => true
  | _ => false

/-- A request for the rankings of a list of ids. -/
structure Fetch where
  ids : List String
  deadline : Instant
  /-- The facets that are asked for. -/
  attempted : List Facet
  /-- The facets whose task has not told its result. -/
  pending : List Facet
  /-- What is known so far. -/
  report : Report
  result : Option (Except Failure Report) := none

end Fetcher

/-- The state of a fetcher with the fetches that are under way. -/
structure Fetcher where
  config : Fetcher.Config
  /-- The permits that no task holds. -/
  free : Nat
  /-- The tasks that wait for a permit, in order. -/
  queue : List Fetcher.TaskId := []
  tasks : Table Fetcher.TaskId Fetcher.Task := .empty
  fetches : Table Fetcher.FetchId Fetcher.Fetch := .empty

namespace Fetcher

/-- The fetcher before any fetch. -/
def ofConfig (config : Config) : Fetcher := { config, free := config.permits }

/-- The fetcher before any fetch, if there are few enough permits. -/
def ofConfig? (config : Config) : Checked Fetcher :=
  if greatestPermits < config.permits then .error .tooManyPermits else .ok (ofConfig config)

/-- The seconds that the last instant has passed since the beginning of the clock. -/
def greatestInstantSeconds : Nat := 0x7fffffffffffffff

/-- Whether the deadline of a fetch that begins now can be told. The time is that of the one clock of
the library, which stands for the wall clock and for the monotonic clock of the system; on a machine
where these differ, the bound is on the latter. -/
def Config.deadlineFits (config : Config) (now : Instant) : Bool :=
  (now.after config.deadline).nanoseconds / 1000000000 ≤ greatestInstantSeconds

/-- The tasks of one fetch. -/
def tasksOf (fetcher : Fetcher) (id : FetchId) : List TaskId :=
  (fetcher.tasks.entries.map Prod.fst).filter (·.fetch = id)

/-- The number of calls that are under way. -/
def running (fetcher : Fetcher) : Nat := fetcher.tasks.entries.countP (·.2.isCalling)

/-- The result of a fetch that is over. -/
def result? (fetcher : Fetcher) (id : FetchId) : Option (Except Failure Report) :=
  (fetcher.fetches.find? id).bind Fetch.result

end Fetcher

end GameLibrary
