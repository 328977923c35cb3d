import GameLibrary.Fetch.State

/-!
# The steps of the fetcher

`Fetcher.step` says what each event does, and gives nothing where the event cannot happen. The tasks
may be served by the popularity service in any order, each call may fail or break its task down, and
a fetch may be dropped at any time.
-/

namespace GameLibrary.Fetcher

/-- What can happen to a fetcher. -/
inductive Event where
  /-- A fetch for some ids begins. -/
  | opened (id : FetchId) (ids : List String)
  /-- A task begins and asks for a permit. -/
  | begun (task : TaskId)
  /-- A task that was given a permit goes on. -/
  | resumed (task : TaskId)
  /-- The service has answered the call of a task. -/
  | answered (task : TaskId) (result : CallResult)
  /-- The call of a task has taken too long. -/
  | timedOut (task : TaskId)
  /-- The task breaks down in its call. -/
  | crashed (task : TaskId)
  /-- The time of a fetch is over. -/
  | expired (id : FetchId)
  /-- A fetch is given up. -/
  | dropped (id : FetchId)

/-- The fetcher in which a task stands elsewhere. -/
def setTask (fetcher : Fetcher) (id : TaskId) (task : Task) : Fetcher :=
  { fetcher with tasks := fetcher.tasks.insert id task }

/-- The fetcher in which a fetch is in another state. -/
def setFetch (fetcher : Fetcher) (id : FetchId) (fetch : Fetch) : Fetcher :=
  { fetcher with fetches := fetcher.fetches.insert id fetch }

/-- Gives a permit back: the first task of the queue gets it, or else it is free. -/
def release (fetcher : Fetcher) : Fetcher :=
  match fetcher.queue with
  | [] => { fetcher with free := fetcher.free + 1 }
  | next :: queue => { fetcher with queue }.setTask next .granted

/-- Takes a task away, with its permit or its place in the queue. -/
def removeTask (fetcher : Fetcher) (id : TaskId) : Fetcher :=
  match fetcher.tasks.find? id with
  | none => fetcher
  | some task =>
      let fetcher := { fetcher with
        tasks := fetcher.tasks.erase id
        queue := fetcher.queue.filter (· ≠ id) }
      if task.holdsPermit then fetcher.release else fetcher

/-- The result of a fetch of which no task is left: the facets without result have failed, and a
fetch without any ranking is a failure. -/
def Fetch.conclusion (fetch : Fetch) : Except Failure Report :=
  let failed := Facet.distinct (fetch.report.failed ++ fetch.pending)
  let report := { fetch.report with failed }
  if report.succeeded.isEmpty then .error (.originUnavailable fetch.attempted.length)
  else .ok report

/-- Ends a fetch if no task of it is left. -/
def closeIfDone (fetcher : Fetcher) (id : FetchId) : Fetcher :=
  match fetcher.fetches.find? id with
  | some fetch =>
      if (fetcher.tasksOf id).isEmpty then
        fetcher.setFetch id { fetch with result := some fetch.conclusion }
      else fetcher
  | none => fetcher

/-- The fetch with the result of the task for a facet. -/
def Fetch.record (fetch : Fetch) (facet : Facet) (result : Except Failure Ranking) : Fetch :=
  { fetch with
    pending := fetch.pending.erase facet
    report := match result with
      | .ok ranking => fetch.report.insert facet ranking
      | .error _ => { fetch.report with failed := fetch.report.failed ++ [facet] } }

/-- Ends a task with its result. -/
def finish (fetcher : Fetcher) (id : TaskId) (result : Except Failure Ranking) : Fetcher :=
  let fetcher := fetcher.removeTask id
  match fetcher.fetches.find? id.fetch with
  | some fetch =>
      (fetcher.setFetch id.fetch (fetch.record id.facet result)).closeIfDone id.fetch
  | none => fetcher

/-- Calls the service for the next batch, or ends the task after the last one. -/
def call (fetcher : Fetcher) (now : Instant) (id : TaskId) (answers : List (List RankedItem)) :
    List (List String) → Fetcher
  | [] => fetcher.finish id (.ok (Ranking.merge answers))
  | batch :: later => fetcher.setTask id (.calling answers batch later now)

/-- The batches of the fetch that a task belongs to. -/
def batchesOf (fetcher : Fetcher) (id : TaskId) : List (List String) :=
  match fetcher.fetches.find? id.fetch with
  | some fetch => batches fetcher.config.batchSize fetch.ids
  | none => []

/-- Begins a fetch. One without ids or without facets is over at once. -/
def openFetch (fetcher : Fetcher) (now : Instant) (id : FetchId) (ids : List String) : Fetcher :=
  let facets := Facet.distinct fetcher.config.facets
  let fetch : Fetch := {
    ids
    deadline := now.after fetcher.config.deadline
    attempted := facets
    pending := facets
    report := Report.empty ids.length now }
  if ids.isEmpty || facets.isEmpty then
    fetcher.setFetch id { fetch with result := some (.ok fetch.report) }
  else
    facets.foldl (fun fetcher facet => fetcher.setTask ⟨id, facet⟩ .fresh)
        (fetcher.setFetch id fetch)

/-- Takes every task of a fetch away. -/
def abort (fetcher : Fetcher) (id : FetchId) : Fetcher :=
  (fetcher.tasksOf id).foldl removeTask fetcher

/-- What an event does at a given time, if it can happen. -/
def step (fetcher : Fetcher) (now : Instant) : Event → Option Fetcher
  | .opened id ids =>
      match fetcher.fetches.find? id with
      | none => some (fetcher.openFetch now id ids)
      | some _ => none
  | .begun id =>
      match fetcher.tasks.find? id with
      | some .fresh =>
          if 0 < fetcher.free then
            some ({ fetcher with free := fetcher.free - 1 }.call now id [] (fetcher.batchesOf id))
          else some ({ fetcher with queue := fetcher.queue ++ [id] }.setTask id .queued)
      | _ => none
  | .resumed id =>
      match fetcher.tasks.find? id with
      | some .granted => some (fetcher.call now id [] (fetcher.batchesOf id))
      | _ => none
  | .answered id result =>
      match fetcher.tasks.find? id with
      | some (.calling answers _ later _) =>
          match result with
          | .ok items => some (fetcher.call now id (answers ++ [items]) later)
          | .error failure => some (fetcher.finish id (.error failure))
      | _ => none
  | .timedOut id =>
      match fetcher.tasks.find? id with
      | some (.calling _ _ _ since) =>
          let limit := fetcher.config.callTimeout
          if limit ≤ now.since since then
            some (fetcher.finish id (.error (.callTimeout id.facet.name limit)))
          else none
      | _ => none
  | .crashed id =>
      match fetcher.tasks.find? id with
      | some (.calling _ _ _ _) => some ((fetcher.removeTask id).closeIfDone id.fetch)
      | _ => none
  | .expired id =>
      match fetcher.fetches.find? id with
      | some fetch =>
          if fetch.result.isNone ∧ fetch.deadline ≤ now then
            some ((fetcher.abort id).closeIfDone id)
          else none
      | none => none
  | .dropped id =>
      match fetcher.fetches.find? id with
      | some _ =>
          let fetcher := fetcher.abort id
          some { fetcher with fetches := fetcher.fetches.erase id }
      | none => none

end GameLibrary.Fetcher
