import GameLibrary.Filter.Catalog
import GameLibrary.Text.Distinct

/-!
# Selections of filters

A selection is compiled into one predicate on items: filters of the same category are alternatives,
and every category with a selected filter is a requirement. Ids that the catalog does not know are
ignored, and so are the order and the repetitions of the selection.
-/

namespace GameLibrary

/-- A compiled selection: the shelves that constrain, with their selected filters only, and the ids
of all of these in ascending order. -/
structure Selection where
  requirements : List Shelf
  ids : List String

namespace Selection

/-- The selection that every item passes. -/
def all : Selection := ⟨[], []⟩

/-- Whether an item passes: of every requirement it is accepted by some filter. What has been decided
is not asked for again, neither the other filters of a requirement that is met nor the requirements
after one that is not. -/
def passes (selection : Selection) (item : Item) : Checked Bool :=
  selection.requirements.allM fun shelf => shelf.filters.anyM (·.accepts item)

/-- Whether nothing is required. -/
def isUnconstrained (selection : Selection) : Bool := selection.requirements.isEmpty

/-- The categories that constrain. -/
def categories (selection : Selection) : List String :=
  selection.requirements.map Shelf.category

/-- The items that pass, in their order. -/
def apply (selection : Selection) (items : List Item) : Checked (List Item) :=
  items.filterM selection.passes

end Selection

namespace Catalog

/-- The selection of the known ones among the given ids. -/
def compile (catalog : Catalog) (ids : List String) : Selection :=
  let known := Text.distinctSorted (ids.filter catalog.contains)
  if known.isEmpty then .all
  else
    { requirements := catalog.shelves.filterMap fun shelf =>
        let selected := shelf.filters.filter (known.contains ·.id)
        if selected.isEmpty then none else some { shelf with filters := selected }
      ids := known }

end Catalog

end GameLibrary
