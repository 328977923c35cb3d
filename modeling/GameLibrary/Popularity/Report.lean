import GameLibrary.Popularity.Facet
import GameLibrary.Popularity.Ranking
import GameLibrary.Time.Reading

/-!
# Popularity reports

What a fetch finds out about a working set: a ranking for each facet that answered, and the facets
that did not. A report is written as one JSON object, without the list of failed facets if it is
empty.
-/

namespace GameLibrary

/-- The rankings of a working set. -/
structure Report where
  /-- The ranking of each facet that has one. -/
  rankings : Facet → Option Ranking
  /-- The facets that failed or were cut off. -/
  failed : List Facet
  /-- The number of items that were asked for. -/
  requested : Nat
  fetchedAt : Timestamp

namespace Report

/-- The report before any answer. -/
def empty (requested : Nat) (now : Instant) : Report :=
  ⟨fun _ => none, [], requested, .ofInstant now⟩

/-- The report with a ranking for one more facet. -/
def insert (report : Report) (facet : Facet) (ranking : Ranking) : Report :=
  { report with rankings := fun f => if f = facet then some ranking else report.rankings f }

/-- The facets with a ranking, in order. -/
def succeeded (report : Report) : List Facet :=
  Facet.all.filter fun facet => (report.rankings facet).isSome

/-- Whether no facet failed. -/
def isComplete (report : Report) : Bool := report.failed.isEmpty

/-- The rankings as the members of an object. -/
def rankingMembers (report : Report) : List (String × Json) :=
  Facet.all.filterMap fun facet =>
    (report.rankings facet).map fun ranking => (facet.name, Ranking.toJson ranking)

/-- The report as JSON. -/
def toJson (report : Report) : Json :=
  .object (
    ("facets", .object report.rankingMembers) ::
    (if report.failed.isEmpty then []
      else [("failed", .strings (report.failed.map Facet.name))]) ++
    [("requested_items", .natural report.requested),
      ("fetched_at", .string report.fetchedAt.text)])

open Json (Tree)

/-- The rankings that a document denotes; a facet that occurs twice has its last ranking. -/
def rankingsOfTree? (tree : Tree) : Option (Facet → Option Ranking) := do
  let members ← tree.members?
  members.foldlM
    (fun rankings (name, value) => do
      let facet ← Facet.named? name
      let ranking ← value.list? RankedItem.ofTree?
      return fun f => if f = facet then some ranking else rankings f)
    fun _ => none

/-- The report that a document denotes. -/
def ofTree? (tree : Tree) : Option Report := do
  match ← tree.fields? ["facets", "failed", "requested_items", "fetched_at"] with
  | [some facets, failed, some requested, some fetchedAt] =>
      return {
        rankings := ← rankingsOfTree? facets
        failed := ← Tree.fieldOr [] (Tree.list? Facet.ofTree?) failed
        requested := ← requested.natural? 64
        fetchedAt := ← Timestamp.ofText? (← fetchedAt.text?) }
  | _ => none

end Report

end GameLibrary
