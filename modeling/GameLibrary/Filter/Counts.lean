import GameLibrary.Filter.Catalog

/-!
# Counting filter matches

For every filter of a catalog on its own, the number of items that it accepts: what a picker shows
beside it. Items on which a filter fails are counted apart. All filters are counted in one pass over
the items, and there are no counts if one of them breaks down on one of the items.
-/

namespace GameLibrary

/-- The items that one filter accepts, and those on which it fails. -/
structure Tally where
  filter : String
  accepted : Nat
  failed : Nat
deriving DecidableEq, Repr

/-- The tally after one more item. -/
def Tally.add (tally : Tally) (outcome : Except Failure Bool) : Tally :=
  match outcome with
  | .ok true => { tally with accepted := tally.accepted + 1 }
  | .ok false => tally
  | .error _ => { tally with failed := tally.failed + 1 }

/-- The counts of all filters of a catalog, by ascending id, over a number of items. -/
structure FilterCounts where
  tallies : List Tally
  total : Nat
deriving DecidableEq, Repr

namespace FilterCounts

/-- The number of items that a filter accepts. -/
def accepted? (counts : FilterCounts) (filter : String) : Option Nat :=
  (counts.tallies.find? (·.filter = filter)).map Tally.accepted

/-- The number of items on which a filter fails. -/
def failures (counts : FilterCounts) (filter : String) : Nat :=
  ((counts.tallies.find? (·.filter = filter)).map Tally.failed).getD 0

/-- The number of filters. -/
def size (counts : FilterCounts) : Nat := counts.tallies.length

/-- The counts as JSON; failures are listed for the filters that have any, and left out if none
has. -/
def toJson (counts : FilterCounts) : Json :=
  let failing := counts.tallies.filter (0 < ·.failed)
  .object (
    ("counts", .object (counts.tallies.map fun t => (t.filter, .natural t.accepted))) ::
    (if failing.isEmpty then []
      else [("failures", .object (failing.map fun t => (t.filter, .natural t.failed)))]) ++
    [("total", .natural counts.total)])

end FilterCounts

namespace Catalog

/-- The tallies, one for each filter, after one more item. -/
def tallyItem (catalog : Catalog) (tallies : List Tally) (item : Item) : Checked (List Tally) :=
  (List.zipWith (fun (tally : Tally) (filter : Filter) => (filter.check item).map tally.add)
    tallies catalog.filters).mapM id

/-- The counts over a list of items. -/
def count (catalog : Catalog) (items : List Item) : Checked FilterCounts := do
  let start := catalog.filters.map fun filter => Tally.mk filter.id 0 0
  let tallies ← items.foldlM catalog.tallyItem start
  return { tallies := tallies.mergeSort fun a b => a.filter ≤ b.filter, total := items.length }

end Catalog

end GameLibrary
