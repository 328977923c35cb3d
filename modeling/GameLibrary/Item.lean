import GameLibrary.Json.Decode
import GameLibrary.Text.Lowercase

/-!
# Library items

An item is one entry of the aggregated library. What a storefront may not report is optional; the
filters that need it decide what its absence means.
-/

namespace GameLibrary

open Number (Binary64)

/-- An entry of the library. -/
structure Item where
  /-- The stable identifier. -/
  id : String
  /-- The title shown. -/
  title : String
  /-- The storefront, such as `steam` or `gog`. -/
  store : String
  /-- The genre tags. -/
  genres : List String
  /-- The recorded playtime in hours. -/
  playtime : Option Binary64
  /-- The critic score out of a hundred. -/
  rating : Option UInt8
  releaseYear : Option Int32
  /-- Whether the item is installed on this machine. -/
  installed : Bool
  /-- Whether the user has marked the item as finished. -/
  completed : Bool
deriving DecidableEq, Inhabited

namespace Item

/-- Whether the item carries the genre, in whatever case of the letters `A` to `Z`. -/
def hasGenre (item : Item) (genre : String) : Bool :=
  item.genres.any (Text.sameIgnoringAsciiCase · genre)

/-- The item as JSON. -/
def toJson (item : Item) : Json :=
  .object [
    ("id", .string item.id),
    ("title", .string item.title),
    ("store", .string item.store),
    ("genres", .strings item.genres),
    ("playtime_hours", .ofOption .double item.playtime),
    ("rating", .ofOption (fun r => .natural r.toNat) item.rating),
    ("release_year", .ofOption (fun y => .integer y.toInt) item.releaseYear),
    ("installed", .bool item.installed),
    ("completed", .bool item.completed)]

open Json (Tree) in
/-- The item that a document denotes. Everything but id, title and store may be missing. -/
def ofTree? (tree : Tree) : Option Item := do
  let fields ← tree.fields? ["id", "title", "store", "genres", "playtime_hours", "rating",
    "release_year", "installed", "completed"]
  match fields with
  | [id, title, store, genres, playtime, rating, year, installed, completed] =>
      return {
        id := ← id.bind Tree.text?
        title := ← title.bind Tree.text?
        store := ← store.bind Tree.text?
        genres := ← Tree.fieldOr [] (Tree.list? Tree.text?) genres
        playtime := ← Tree.fieldOr none (Tree.optional? Tree.double?) playtime
        rating := (← Tree.fieldOr none (Tree.optional? (Tree.natural? 8)) rating).map UInt8.ofNat
        releaseYear :=
          (← Tree.fieldOr none (Tree.optional? (Tree.integer? (-0x80000000) 0x7fffffff)) year).map
            Int32.ofInt
        installed := ← Tree.fieldOr false Tree.flag? installed
        completed := ← Tree.fieldOr false Tree.flag? completed }
  | _ => none

/-- The items of a library document. -/
def listOfBytes? (bytes : ByteArray) : Option (List Item) := do
  (← Json.Tree.ofBytes? bytes).list? ofTree?

end Item

end GameLibrary
