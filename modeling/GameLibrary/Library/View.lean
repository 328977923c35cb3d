import GameLibrary.Cache.Config
import GameLibrary.Filter.Counts
import GameLibrary.Filter.Selection
import GameLibrary.Key
import GameLibrary.Popularity.Report
import GameLibrary.Query

/-!
# Views of a library

A view is what a page of the library shows: the items that a query keeps and its filters accept, the
counts of every filter over what the query keeps, and how popular the items are. The popularity is
looked up under the key of the items; a failure is shown in its place.
-/

namespace GameLibrary

/-- What a page of the library asks for. -/
structure LibraryQuery where
  base : BaseQuery
  /-- The ids of the filters that are selected. -/
  filters : List String
deriving DecidableEq, Inhabited

/-- What a page of the library shows. -/
structure View where
  workingSet : List Item
  counts : FilterCounts
  /-- The ids of the known filters that are selected, in order. -/
  appliedFilters : List String
  key : Key
  /-- What the look-up of the popularity came to, if there was one. -/
  popularity : Option (Cache.Outcome Report) := none

namespace View

/-- The view of a query on a list of items, without popularity. -/
def ofQuery (catalog : Catalog) (items : List Item) (query : LibraryQuery) : Checked View := do
  let base := query.base.apply items
  let counts ← catalog.count base
  let selection := catalog.compile query.filters
  let workingSet ← selection.apply base
  return {
    workingSet
    counts
    appliedFilters := selection.ids
    key := Key.ofItems workingSet }

/-- The ids of the items in the view. -/
def ids (view : View) : List String := view.workingSet.map Item.id

/-- A report with its source as JSON. -/
def resolvedJson (resolved : Cache.Resolved Report) : Json :=
  .object [("value", resolved.value.toJson), ("source", .string resolved.source.name)]

/-- The members that tell the popularity. -/
def popularityMembers (view : View) : List (String × Json) :=
  match view.popularity with
  | none => []
  | some (.ok resolved) => [("popularity", resolvedJson resolved)]
  | some (.error failure) => [("popularity_error", .string failure.message)]

/-- The view as JSON. -/
def toJson (view : View) : Json :=
  .object ([
    ("items", .strings view.ids),
    ("total", .natural view.workingSet.length),
    ("applied_filters", .strings view.appliedFilters),
    ("counts", view.counts.toJson),
    ("key", .string view.key.text)] ++ view.popularityMembers)

end View

end GameLibrary
