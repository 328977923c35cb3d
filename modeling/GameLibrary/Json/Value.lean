import GameLibrary.Number.Binary64

/-!
# JSON values

A value keeps integers apart from doubles, and the members of an object in the order in which they
are written.
-/

namespace GameLibrary

/-- A JSON value. -/
inductive Json where
  | null
  | bool (value : Bool)
  | integer (value : Int)
  | double (value : Number.Binary64)
  | string (text : String)
  | array (elements : List Json)
  | object (members : List (String × Json))
deriving Inhabited

namespace Json

/-- A natural number as a value. -/
def natural (n : Nat) : Json := .integer n

/-- A list of texts as an array. -/
def strings (texts : List String) : Json := .array (texts.map .string)

/-- The value, or `null` where there is none. -/
def ofOption {α : Type} (encode : α → Json) : Option α → Json
  | none => .null
  | some a => encode a

/-- A member that is left out where there is no value. -/
def memberIfSome {α : Type} (name : String) (encode : α → Json) :
    Option α → List (String × Json)
  | none => []
  | some a => [(name, encode a)]

end Json

end GameLibrary
