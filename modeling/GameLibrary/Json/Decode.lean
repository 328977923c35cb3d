import GameLibrary.Json.Literal
import GameLibrary.Json.Tree
import GameLibrary.Json.Value

/-!
# Reading values out of documents

Each function takes a tree for one kind of value and gives nothing if the tree is of another kind.
A record is written as an object, whose unknown members are ignored whatever they hold, or as an
array of its fields in order, of which the last ones may be missing.
-/

namespace GameLibrary.Json.Tree

open Number (Binary64)

/-- A text. -/
def text? : Tree → Option String
  | .string text => text
  | _ => none

/-- A truth value. -/
def flag? : Tree → Option Bool
  | .bool b => some b
  | _ => none

/-- An integer between two bounds. -/
def integer? (low high : Int) : Tree → Option Int
  | .number literal => do
      let n ← literal.integer?
      if low ≤ n ∧ n ≤ high then some n else none
  | _ => none

/-- A natural number of at most so many bits. -/
def natural? (bits : Nat) (tree : Tree) : Option Nat :=
  (tree.integer? 0 (Nat.pow 2 bits - 1)).map Int.toNat

/-- A double, which may be written as an integer. -/
def double? : Tree → Option Binary64
  | .number literal => literal.double?
  | _ => none

/-- A value that may be `null`. -/
def optional? {α : Type} (decode : Tree → Option α) : Tree → Option (Option α)
  | .null => some none
  | tree => (decode tree).map some

/-- A list, each element of which can be read. -/
def list? {α : Type} (decode : Tree → Option α) : Tree → Option (List α)
  | .array elements => elements.mapM decode
  | _ => none

/-- The members of an object, each of which has a name that denotes a text. -/
def members? : Tree → Option (List (String × Tree))
  | .object members => members.mapM fun (name, value) => name.map (·, value)
  | _ => none

/-- The fields of a record, in the order of their names; a missing field has no tree. A name that
occurs twice makes the record unreadable. -/
def fields? (names : List String) : Tree → Option (List (Option Tree))
  | .array elements =>
      if elements.length ≤ names.length then
        some (elements.map some ++ List.replicate (names.length - elements.length) none)
      else none
  | .object members => do
      let named ← members? (.object members)
      names.mapM fun name =>
        match named.filter (·.1 = name) with
        | [] => some none
        | [(_, value)] => some (some value)
        | _ => none
  | _ => none

/-- A field that takes a default value when it is missing. -/
def fieldOr {α : Type} (default : α) (decode : Tree → Option α) : Option Tree → Option α
  | none => some default
  | some tree => decode tree

mutual

/-- The value of a document whose brackets nest at most `depth` deep. A name that occurs twice in an
object has its last value, in the first place. -/
def value? (depth : Nat) : Tree → Option Json
  | .null => some .null
  | .bool b => some (.bool b)
  | .number literal =>
      match literal.integer? with
      | some n => some (.integer n)
      | none => literal.double?.map .double
  | .string text => text.map .string
  | .array elements =>
      match depth with
      | 0 => none
      | depth + 1 => (values? depth elements).map .array
  | .object members =>
      match depth with
      | 0 => none
      | depth + 1 => (memberValues? depth members).map .object

/-- The values of the elements of an array. -/
def values? (depth : Nat) : List Tree → Option (List Json)
  | [] => some []
  | tree :: rest => do
      let value ← value? depth tree
      let others ← values? depth rest
      return value :: others

/-- The members of an object with their values. -/
def memberValues? (depth : Nat) : List (Option String × Tree) → Option (List (String × Json))
  | [] => some []
  | (name, tree) :: rest => do
      let name ← name
      let value ← value? depth tree
      let others ← memberValues? depth rest
      match others.find? (·.1 = name) with
      | some last => return last :: others.filter (·.1 ≠ name)
      | none => return (name, value) :: others

end

/-- The deepest nesting of brackets that is read. -/
def greatestDepth : Nat := 127

end GameLibrary.Json.Tree
