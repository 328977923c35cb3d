import GameLibrary.Cache.Step
import GameLibrary.CommandLine.Arguments
import GameLibrary.CommandLine.Dialogue
import GameLibrary.Fetch.Step
import GameLibrary.Filter.Standard
import GameLibrary.Library.View
import GameLibrary.Metrics.Exposition
import GameLibrary.Popularity.Remote
import GameLibrary.Store.Files
import GameLibrary.Store.Memory

/-!
# The program

The program answers one query on the library of a file: it prints the view, and after it the counters
of the cache if it is asked to. Or it prints the catalog of filters. The calls that the fetcher may
have under way at the same time are made together, and their answers are taken in order.
-/

namespace GameLibrary.CommandLine

open Number (Binary64)

/-- What the program leaves behind: its exit status and what it has printed. -/
structure Exit where
  status : UInt8
  output : String
deriving DecidableEq, Repr

/-- A dialogue that can break down. -/
abbrev Session := ExceptT Breakdown Dialogue

/-! ## The durable store -/

/-- The durable store of the program. -/
inductive Storage where
  | memory (store : MemoryStore)
  | files (directory : String) (process sequence : Nat)

namespace Storage

/-- Holds a dialogue about the files of a directory. -/
def onFiles {α : Type} (directory : String) (program : FileProgram α) : Session α :=
  liftM (Dialogue.ofFiles directory program)

/-- The storage in a directory, or in memory if there is none. -/
def ofDirectory (directory : Option String) (now : Instant) : Storage :=
  match directory with
  | some path => .files path now.nanoseconds 0
  | none => .memory {}

/-- Reads the record of a key. -/
def get (storage : Storage) (key : Key) : Session (ReadAnswer × Storage) := do
  match storage with
  | memory store =>
      let (answer, store) := Backend.get store key
      return (answer, memory store)
  | files directory _ _ => return (← onFiles directory (FileStore.get key), storage)

/-- Writes a record. -/
def put (storage : Storage) (record : Record) : Session (Except Failure Unit × Storage) := do
  match storage with
  | memory store =>
      let (answer, store) := Backend.put store record
      return (answer, memory store)
  | files directory process sequence =>
      let temporary := FileStore.temporaryName record.key process sequence
      let answer ← onFiles directory (FileStore.put record temporary)
      return (answer, files directory process (sequence + 1))

/-- Removes the record of a key. -/
def delete (storage : Storage) (key : Key) : Session (Except Failure Bool × Storage) := do
  match storage with
  | memory store =>
      let (answer, store) := Backend.delete store key
      return (answer, memory store)
  | files directory _ _ => return (← onFiles directory (FileStore.delete key), storage)

end Storage

/-! ## Fetching -/

/-- Lets an event happen at a fetcher, if it can. -/
def happen (fetcher : Fetcher) (now : Instant) (event : Fetcher.Event) : Fetcher :=
  (fetcher.step now event).getD fetcher

/-- Lets every task go on that need not wait. -/
def goOn (fetcher : Fetcher) (now : Instant) : Fetcher :=
  (fetcher.tasksOf 0).foldl
    (fun fetcher id => happen (happen fetcher now (.begun id)) now (.resumed id)) fetcher

/-- The tasks that call, with the batches that they ask for. -/
def callers (fetcher : Fetcher) : List (Fetcher.TaskId × List String) :=
  fetcher.tasks.entries.filterMap fun (id, task) =>
    match task with
    | .calling _ batch _ _ => some (id, batch)
    | _ => none

/-- Takes the answers to the calls of some tasks. -/
def take (now : Instant) :
    List (Fetcher.TaskId × Http.Reception) → Fetcher × Remote → Fetcher × Remote
  | [], state => state
  | (id, .late _) :: rest, (fetcher, remote) =>
      let failure := Failure.callTimeout id.facet.name fetcher.config.callTimeout
      take now rest (happen fetcher now (.answered id (.error failure)), remote)
  | (id, reception) :: rest, (fetcher, remote) =>
      let (result, remote) := remote.ranked reception
      take now rest (happen fetcher now (.answered id result), remote)

/-- Makes calls until the fetch is over. -/
def rounds (deadline : Instant) : Nat → Fetcher → Remote → Session (Except Failure Report)
  | 0, _, _ => return .error (.internal "the fetch has no end")
  | fuel + 1, fetcher, remote => do
      let now ← Dialogue.clock
      let fetcher := happen fetcher now (.expired 0)
      match fetcher.result? 0 with
      | some result => return result
      | none =>
          let fetcher := goOn fetcher now
          let calls := callers fetcher
          let requests := calls.map fun (id, batch) => remote.rankingsRequest id.facet batch
          let left := deadline.since now
          let allowed := fetcher.config.callTimeout
          let limit := if left < allowed then left else allowed
          let receptions ← Dialogue.put (.exchange requests limit)
          let now ← Dialogue.clock
          let (fetcher, remote) := take now ((calls.map Prod.fst).zip receptions) (fetcher, remote)
          match fetcher.result? 0 with
          | some result => return result
          | none => rounds deadline fuel fetcher remote

/-- Fetches a report for some ids. -/
def fetch (remote : Remote) (config : Fetcher.Config) (ids : List String) :
    Session (Except Failure Report) := do
  let now ← Dialogue.clock
  if !ids.isEmpty && !config.facets.isEmpty && !config.deadlineFits now then
    throw .deadlineTooFar
  let fetcher := (Fetcher.ofConfig config).openFetch now 0 ids
  let calls := (fetcher.tasksOf 0).length * ((batches config.batchSize ids).length + 1)
  rounds (now.after config.deadline) (calls + 1) fetcher remote

/-! ## Resolving -/

/-- Takes the only call of a cache to its end. -/
def pursue (compute : Session (Except Failure Report)) :
    Nat → Cache Report → Storage → Session (Cache Report)
  | 0, cache, _ => return cache
  | fuel + 1, cache, storage => do
      match cache.calls.find? 0 with
      | some ⟨key, .reading⟩ =>
          let (answer, storage) ← storage.get key
          let now ← Dialogue.clock
          let served := (cache.step now (.served 0 answer)).bind (·.step now (.answered 0))
          pursue compute fuel (served.getD cache) storage
      | some ⟨key, .erasing⟩ =>
          let (_, storage) ← storage.delete key
          let now ← Dialogue.clock
          pursue compute fuel ((cache.step now (.erased 0)).getD cache) storage
      | some ⟨_, .computing _ _ _⟩ =>
          let result ← compute
          let now ← Dialogue.clock
          pursue compute fuel ((cache.step now (.computed 0 result)).getD cache) storage
      | some ⟨_, .storing _ _ _ record⟩ =>
          let (answer, storage) ← storage.put record
          let now ← Dialogue.clock
          pursue compute fuel ((cache.step now (.written 0 answer)).getD cache) storage
      | _ => return cache

/-- Resolves a key; a caller on its own has at most five waits. -/
def resolve (cache : Cache Report) (storage : Storage) (key : Key)
    (compute : Session (Except Failure Report)) : Session (Cache Report) := do
  let now ← Dialogue.clock
  pursue compute 5 ((cache.step now (.called 0 key)).getD cache) storage

/-! ## Running -/

namespace Arguments

/-- The settings of the cache. -/
def cacheConfig (arguments : Arguments) : Cache.Config where
  tier1 := { Tier1.Config.standard with ttl := .seconds arguments.tier1Seconds }
  durable := { Durable.Config.standard with ttl := .seconds arguments.tier2Seconds }
  resolveTimeout := .seconds arguments.resolveTimeoutSeconds

/-- Four fifths of a number of seconds, computed in doubles and rounded to a nanosecond. -/
def fourFifths (seconds : Nat) : Duration :=
  let product := (Binary64.ofRatio false 8 10).mul (.ofNat seconds)
  let (num, den) := Binary64.scaleRatio product.significand 1 (-product.exponent)
  ⟨Binary64.roundHalfEven (num * 1000000000) den⟩

/-- The settings of the fetcher. Its deadline is before the end of the time that the cache allows, so
that a report with what there is by then can be returned. -/
def fetchConfig (arguments : Arguments) (url : String) : Fetcher.Config where
  baseUrl := url
  workers := arguments.workers
  callTimeout := .seconds arguments.callTimeoutSeconds
  deadline := fourFifths arguments.resolveTimeoutSeconds

/-- The query. -/
def query (arguments : Arguments) : LibraryQuery where
  base := ⟨arguments.store, arguments.genre, arguments.search⟩
  filters := arguments.filters

end Arguments

/-- The popularity service at an address, after it was asked for its health, and the settings of its
fetcher. -/
def connect (arguments : Arguments) (url : String) : Session (Remote × Fetcher.Config) := do
  let config := arguments.fetchConfig url
  let remote := Remote.ofUrl url
  let receptions ← Dialogue.put (.exchange [remote.healthRequest] config.callTimeout)
  let (_, remote) := remote.checked (receptions.head?.getD default)
  match Fetcher.ofConfig? config with
  | .error breakdown => throw breakdown
  | .ok _ => return (remote, config)

/-- A failure of the whole program. -/
def failed : Exit := ⟨1, ""⟩

/-- Answers the query on the items of the library. -/
def answer (arguments : Arguments) (catalog : Catalog) (service : Option (Remote × Fetcher.Config))
    (items : List Item) : Session Exit := do
  let view ← MonadExcept.ofExcept (View.ofQuery catalog items arguments.query)
  let cache : Cache Report := .ofConfig arguments.cacheConfig
  let cache ← match service with
    | none => pure cache
    | some (remote, config) => do
        let storage := Storage.ofDirectory arguments.cacheDirectory (← Dialogue.clock)
        resolve cache storage view.key (fetch remote config view.ids)
  let view := { view with popularity := cache.outcome? 0 }
  let metrics := if arguments.printMetrics then cache.snapshot.exposition else ""
  return ⟨0, view.toJson.pretty ++ "\n" ++ metrics⟩

/-- The year that the clock shows. A year that thirty-two bits do not hold, which no calendar tells,
counts as the greatest. -/
def yearAt (now : Instant) : Int32 :=
  let date := CivilDate.ofDayNumber
    ((Timestamp.ofInstant now).seconds.fdiv Timestamp.secondsPerDay)
  Int32.ofInt (min date.year Int32.maxValue.toInt)

/-- Does what the arguments ask for. -/
def perform (arguments : Arguments) : Session Exit := do
  let catalog := Standard.catalog (yearAt (← Dialogue.clock))
  let service ← match arguments.popularityUrl with
    | none => pure none
    | some url => some <$> connect arguments url
  if arguments.listFilters then return ⟨0, catalog.toJson.pretty ++ "\n"⟩
  else
    let content ← Dialogue.put (.readFile (arguments.library.getD ""))
    match content.bind Item.listOfBytes? with
    | none => return failed
    | some items => answer arguments catalog service items

/-- How to use the program. -/
def usage : String :=
  "Usage: shelfwise [OPTIONS]\n\nOptions:\n" ++
    String.join (options.map fun option =>
      "      --" ++ option.name ++ (if option.kind = .flag then "" else " <VALUE>") ++ "\n") ++
    "  -h, --help\n  -V, --version\n"

/-- The version of the program. -/
def version : String := "shelfwise 0.1.0\n"

/-- Runs the program on a command line. -/
def program (arguments : List String) (environment : String → Option String) : Dialogue Exit := do
  match Arguments.read arguments environment with
  | .error .wrongUsage => return ⟨2, ""⟩
  | .error .help => return ⟨0, usage⟩
  | .error .version => return ⟨0, version⟩
  | .ok arguments =>
      match ← (perform arguments).run with
      | .ok exit => return exit
      | .error _ => return ⟨101, ""⟩

end GameLibrary.CommandLine
