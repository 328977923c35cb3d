/-!
# Sets of texts

A set of texts is the list of its members in strictly ascending order, by code points. Two lists
with the same members, in any order and with any repetitions, give the same list.
-/

namespace GameLibrary.Text

/-- The list without the elements that repeat their predecessor. -/
def dropRepeats : List String → List String
  | [] => []
  | [text] => [text]
  | first :: second :: rest =>
      if first = second then dropRepeats (second :: rest)
      else first :: dropRepeats (second :: rest)

/-- The texts in strictly ascending order. -/
def distinctSorted (texts : List String) : List String :=
  dropRepeats (texts.mergeSort fun a b => a ≤ b)

end GameLibrary.Text
