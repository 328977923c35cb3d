import GameLibrary.Json.Decode

/-!
# Rankings

The service ranks the items of one request at a time. The answers for several requests are merged
into one ranking: by score, the highest first in the total order of doubles, then by the rank that
the service gave, then by id; and the ranks are given anew.
-/

namespace GameLibrary

open Number (Binary64)

/-- The place of one item under one facet. -/
structure RankedItem where
  id : String
  rank : UInt32
  score : Binary64
deriving DecidableEq, Inhabited

namespace RankedItem

/-- Whether the first of two items may stand before the second. -/
def precedes (a b : RankedItem) : Bool :=
  b.score.totalKey < a.score.totalKey ||
  (a.score.totalKey = b.score.totalKey &&
    (a.rank < b.rank || (a.rank = b.rank && a.id ≤ b.id)))

/-- The item as JSON. -/
def toJson (item : RankedItem) : Json :=
  .object [
    ("id", .string item.id),
    ("rank", .natural item.rank.toNat),
    ("score", .double item.score)]

open Json (Tree) in
/-- The item that a document denotes. -/
def ofTree? (tree : Tree) : Option RankedItem := do
  match ← tree.fields? ["id", "rank", "score"] with
  | [some id, some rank, some score] =>
      return ⟨← id.text?, UInt32.ofNat (← rank.natural? 32), ← score.double?⟩
  | _ => none

end RankedItem

/-- A ranking, best item first. -/
abbrev Ranking := List RankedItem

namespace Ranking

/-- The items with the ranks from `next` on. -/
def renumber (next : UInt32) : List RankedItem → Ranking
  | [] => []
  | item :: rest => { item with rank := next } :: renumber (next + 1) rest

/-- The ranking of all items of several answers. -/
def merge (batches : List (List RankedItem)) : Ranking :=
  renumber 1 (batches.flatten.mergeSort RankedItem.precedes)

/-- The rank of an item, the first one if it occurs more than once. -/
def rankOf? (ranking : Ranking) (id : String) : Option UInt32 :=
  (ranking.find? (·.id = id)).map RankedItem.rank

/-- The ranking as JSON. -/
def toJson (ranking : Ranking) : Json := .array (ranking.map RankedItem.toJson)

end Ranking

end GameLibrary
