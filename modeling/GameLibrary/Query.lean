import GameLibrary.Item
import GameLibrary.Text.Blank

/-!
# Queries on the item's own texts

A base query narrows the library by storefront, genre and title before any filter is applied. What
it keeps is the base set, on which the filters are counted.
-/

namespace GameLibrary

/-- A query by storefront, genre and a part of the title. An axis without text, or with a blank one,
keeps everything. -/
structure BaseQuery where
  store : Option String
  genre : Option String
  search : Option String
deriving DecidableEq, Inhabited

namespace BaseQuery

/-- The text of an axis without the blanks around it, if anything is left. -/
def axis (text : Option String) : Option String :=
  (text.map Text.trim).filter (!·.isEmpty)

/-- Whether the title holds the text, both in small letters. -/
def titleHolds (item : Item) (search : String) : Bool :=
  Text.occursIn (Text.lowercase search).toList (Text.lowercase item.title).toList

/-- Whether the item passes every axis. -/
def keeps (query : BaseQuery) (item : Item) : Bool :=
  (axis query.store).all (Text.sameIgnoringAsciiCase item.store) &&
  (axis query.genre).all item.hasGenre &&
  (axis query.search).all (titleHolds item)

/-- The items that pass, in their order. -/
def apply (query : BaseQuery) (items : List Item) : List Item := items.filter query.keeps

end BaseQuery

end GameLibrary
