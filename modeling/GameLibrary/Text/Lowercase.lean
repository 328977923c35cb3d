import GameLibrary.Text.LetterCase

/-!
# Lowercase text

Every capital letter becomes its small letter. Two letters need more than a table: the dotted
capital I becomes an `i` with a combining dot, and the capital sigma becomes a final sigma exactly
when a letter stands before it and none follows, characters without case of their own being skipped
on both sides.
-/

namespace GameLibrary.Text

/-- The small letter of a code point, if it is a capital of one of the runs. -/
def CapitalRun.small? (run : CapitalRun) (code : Nat) : Option Nat :=
  if run.first ≤ code ∧ code ≤ run.last ∧ (code - run.first) % run.stride = 0 then
    some (run.small + (code - run.first))
  else none

/-- The small form of a character on its own. -/
def smallForm (c : Char) : List Char :=
  if c.toNat < 0x80 then [c.toLower]
  else if c = 'İ' then ['i', '\u0307']
  else [((capitalRuns.findSome? (·.small? c.toNat)).map Char.ofNat).getD c]

/-- Whether the nearest character with case, if any other kind is skipped, is the first to come. -/
def nextIsCased (chars : List Char) : Bool :=
  ((chars.dropWhile isCaseIgnorable).head?.map isCased).getD false

/-- Whether a sigma between these two stretches of text ends its word. The stretch before is given
backwards. -/
def endsWord (before after : List Char) : Bool := nextIsCased before && !nextIsCased after

/-- The small forms of the characters, `before` being what precedes them, backwards. -/
def lowercaseFrom (before : List Char) : List Char → List Char
  | [] => []
  | c :: after =>
      let small := if c = 'Σ' then [if endsWord before after then 'ς' else 'σ'] else smallForm c
      small ++ lowercaseFrom (c :: before) after

/-- The text in small letters. -/
def lowercase (text : String) : String := String.ofList (lowercaseFrom [] text.toList)

/-- Whether two texts differ at most in the case of the letters `A` to `Z`. -/
def sameIgnoringAsciiCase (a b : String) : Bool :=
  a.toList.map Char.toLower = b.toList.map Char.toLower

/-- Whether `needle` occurs in `text` as a stretch of consecutive characters. -/
def occursIn (needle : List Char) : List Char → Bool
  | [] => needle.isEmpty
  | c :: rest => needle.isPrefixOf (c :: rest) || occursIn needle rest

end GameLibrary.Text
