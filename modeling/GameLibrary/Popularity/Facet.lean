import GameLibrary.Failure
import GameLibrary.Json.Decode

/-!
# Facets of popularity

The popularity service ranks items under seven facets. They are ordered as they are listed here.
-/

namespace GameLibrary

/-- One way of ranking items. -/
inductive Facet where
  | mostPlayed
  | trending
  | topRated
  | mostWishlisted
  | peakPlayers
  | topSellers
  | hiddenGems
deriving DecidableEq, Inhabited, Repr

namespace Facet

/-- The facets in order. -/
def all : List Facet :=
  [mostPlayed, trending, topRated, mostWishlisted, peakPlayers, topSellers, hiddenGems]

/-- The position in the order. -/
def index : Facet → Nat
  | mostPlayed => 0
  | trending => 1
  | topRated => 2
  | mostWishlisted => 3
  | peakPlayers => 4
  | topSellers => 5
  | hiddenGems => 6

/-- The name in requests and documents. -/
def name : Facet → String
  | mostPlayed => "most-played"
  | trending => "trending"
  | topRated => "top-rated"
  | mostWishlisted => "most-wishlisted"
  | peakPlayers => "peak-players"
  | topSellers => "top-sellers"
  | hiddenGems => "hidden-gems"

/-- The facet with a name. -/
def named? (name : String) : Option Facet := all.find? (·.name = name)

/-- The facet with a name that a user gave. -/
def ofText (text : String) : Except Failure Facet :=
  match named? text with
  | some facet => .ok facet
  | none => .error (.configuration ("Unknown facet: " ++ text))

/-- The facet that a document denotes: its name, or an object with the name and nothing else. -/
def ofTree? : Json.Tree → Option Facet
  | .string text => text.bind named?
  | .object [(some name, .null)] => named? name
  | _ => none

/-- The distinct facets of a list, in order. -/
def distinct (facets : List Facet) : List Facet := all.filter facets.contains

end Facet

end GameLibrary
