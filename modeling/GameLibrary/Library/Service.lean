import GameLibrary.Cache.Rehearsal
import GameLibrary.Fetch.Rehearsal
import GameLibrary.Library.View

/-!
# The library with its popularity

A service answers queries on a library in virtual time. The popularity of the items of a view is
resolved by the cache, which fetches a report for the ids of the view when it has none. A service
without a fetcher shows no popularity.
-/

namespace GameLibrary

/-- A library service over a durable store. -/
structure LibraryService (σ : Type) where
  catalog : Catalog
  /-- The settings of the fetcher, if there is one. -/
  fetching : Option Fetcher.Config
  system : System σ Report

namespace LibraryService

variable {σ ω : Type} [Backend σ]

/-- The computation of the report for some ids. A fetch that is still under way after the longest
time that a computation may take is given up. -/
def compute (service : Fetcher.Service ω) (config : Fetcher.Config) (ids : List String)
    (limit : Duration) : Rehearsal.Computation Report ω := fun _ now world =>
  let played := Fetcher.play service config ids (some limit) now world
  (played.result.map fun result => (played.finish.since now, result), played.world)

/-- Answers a query, unless a filter breaks down. -/
def query (library : LibraryService σ) (service : Fetcher.Service ω) (items : List Item)
    (query : LibraryQuery) (world : ω) : Checked (View × LibraryService σ × ω) := do
  let view ← View.ofQuery library.catalog items query
  match library.fetching with
  | none => return (view, library, world)
  | some config =>
      let limit := library.system.cache.config.resolveTimeout
      let (outcomes, system, world) :=
        Rehearsal.play (compute service config view.ids limit) [{ key := view.key }] library.system
          world
      return ({ view with popularity := outcomes.head?.join }, { library with system }, world)

/-- The service after a restart: nothing is left in memory, and the durable store is as it was. -/
def restart (library : LibraryService σ) : LibraryService σ :=
  { library with
    system := { library.system with cache := .ofConfig library.system.cache.config } }

end LibraryService

end GameLibrary
