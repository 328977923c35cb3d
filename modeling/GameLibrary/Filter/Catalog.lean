import GameLibrary.Breakdown
import GameLibrary.Failure
import GameLibrary.Item

/-!
# The filter catalog

Filters are registered once, under ids of their own, and grouped into categories. The catalog keeps
its filters in the order of registration; the shelves of the categories are filled in one pass over
them, so a category comes where its first filter does.
-/

namespace GameLibrary

/-- A named property of items, which may fail to decide. Nothing keeps it from breaking down. -/
structure Filter where
  id : String
  category : String
  /-- The name shown in a picker. -/
  displayName : String
  /-- The property itself; a failure gives its reason. -/
  holds : Item → Checked (Except String Bool)

namespace Filter

/-- Whether the filter holds of the item, with a failure attributed to both. -/
def check (filter : Filter) (item : Item) : Checked (Except Failure Bool) :=
  (filter.holds item).map (·.mapError (.undecided filter.id item.id))

/-- Whether the filter accepts the item; one that cannot decide does not. -/
def accepts (filter : Filter) (item : Item) : Checked Bool :=
  (filter.check item).map fun
    | .ok b => b
    | .error _ => false

/-- The filter as shown to developers, without its property. -/
def debugText (filter : Filter) : String :=
  "FilterDefinition \x7b id: " ++ Text.quoted filter.id ++
    ", category: " ++ Text.quoted filter.category ++
    ", display_name: " ++ Text.quoted filter.displayName ++ ", .. \x7d"

end Filter

/-- The filters of one category, in order of registration. -/
structure Shelf where
  category : String
  filters : List Filter

/-- The shelves with one more filter, at the end of its category's shelf or on a new shelf. -/
def shelve : List Shelf → Filter → List Shelf
  | [], filter => [⟨filter.category, [filter]⟩]
  | shelf :: others, filter =>
      if shelf.category = filter.category then
        { shelf with filters := shelf.filters ++ [filter] } :: others
      else shelf :: shelve others filter

/-- A catalog of filters with distinct ids. -/
structure Catalog where
  /-- The filters in order of registration. -/
  filters : List Filter
  distinct : (filters.map Filter.id).Nodup

namespace Catalog

/-- The catalog without filters. -/
def empty : Catalog := ⟨[], by simp⟩

/-- The catalog with one more filter; an id that is taken is refused. -/
def register (catalog : Catalog) (filter : Filter) : Except Failure Catalog :=
  if h : filter.id ∈ catalog.filters.map Filter.id then .error (.duplicateFilter filter.id)
  else .ok ⟨catalog.filters ++ [filter], by
    rw [List.map_append, List.nodup_append]
    refine ⟨catalog.distinct, by simp, ?_⟩
    intro a ha b hb
    simp only [List.map_cons, List.map_nil, List.mem_singleton] at hb
    subst hb
    exact fun hab => h (hab ▸ ha)⟩

/-- The catalog with those of the filters whose ids are still free when their turn comes. -/
def registerAll (catalog : Catalog) (filters : List Filter) : Catalog :=
  filters.foldl (fun catalog filter =>
    match catalog.register filter with
    | .ok larger => larger
    | .error _ => catalog) catalog

/-- The filter with an id. -/
def find? (catalog : Catalog) (id : String) : Option Filter :=
  catalog.filters.find? (·.id = id)

/-- Whether a filter has the id. -/
def contains (catalog : Catalog) (id : String) : Bool := (catalog.find? id).isSome

/-- The number of filters. -/
def size (catalog : Catalog) : Nat := catalog.filters.length

/-- The filters by category. -/
def shelves (catalog : Catalog) : List Shelf := catalog.filters.foldl shelve []

/-- The categories in the order of their first filters. -/
def categories (catalog : Catalog) : List String := catalog.shelves.map Shelf.category

/-- The ids of a category's filters in order of registration. -/
def idsIn (catalog : Catalog) (category : String) : List String :=
  match catalog.shelves.find? (·.category = category) with
  | some shelf => shelf.filters.map Filter.id
  | none => []

/-- The catalog as shown to developers. -/
def debugText (catalog : Catalog) : String :=
  "FilterCatalog \x7b filters: " ++ toString catalog.size ++ ", categories: [" ++
    ", ".intercalate (catalog.categories.map Text.quoted) ++ "] \x7d"

/-- The catalog as shown in a picker. -/
def toJson (catalog : Catalog) : Json :=
  .array (catalog.filters.map fun filter => .object [
    ("id", .string filter.id),
    ("category", .string filter.category),
    ("display_name", .string filter.displayName)])

end Catalog

end GameLibrary
