/-!
# Sets of characters as intervals

A property of characters is a list of closed intervals of code points.
-/

namespace GameLibrary.Text

/-- Whether the character's code point lies in one of the closed intervals. -/
def covers (ranges : List (Nat × Nat)) (c : Char) : Bool :=
  ranges.any fun (first, last) => first ≤ c.toNat && c.toNat ≤ last

end GameLibrary.Text
