import GameLibrary.Json.Value
import GameLibrary.Number.Shortest
import GameLibrary.Text.Hex

/-!
# JSON text

Values are written on one line without blanks (`compact`), or with one element or member a line and
two spaces of indentation for each level (`pretty`). Inside a string only the quote, the backslash
and the control characters below the space are escaped. A double has the shortest digits that read
back; a point and a zero mark whole ones, and an exponent is used from `1e+16` up and below `1e-5`.
A double that is no number is `null`.
-/

namespace GameLibrary.Json

open Number (Binary64 DecimalFormat)

/-- How doubles are written in JSON text. -/
def doubleFormat : DecimalFormat where
  tie := .toEven
  positional := some (-5, 16)
  wholeMark := ".0"

/-- The text of a double. -/
def doubleText (x : Binary64) : String :=
  if x.isFinite then doubleFormat.render x else "null"

/-- One character inside a JSON string. -/
def escapedChar (c : Char) : List Char :=
  match c with
  | '"' => ['\\', '"']
  | '\\' => ['\\', '\\']
  | '\x08' => ['\\', 'b']
  | '\x0c' => ['\\', 'f']
  | '\n' => ['\\', 'n']
  | '\r' => ['\\', 'r']
  | '\t' => ['\\', 't']
  | c =>
      if c.toNat < 0x20 then
        ['\\', 'u', '0', '0', Text.hexDigit (c.toNat / 16), Text.hexDigit (c.toNat % 16)]
      else [c]

/-- The characters of a JSON string, quotes included. -/
def stringChars (text : String) : List Char :=
  '"' :: (text.toList.flatMap escapedChar ++ ['"'])

/-- The characters of a value that holds no others. -/
def scalarChars : Json → List Char
  | .null => "null".toList
  | .bool b => (if b then "true" else "false").toList
  | .integer n => (toString n).toList
  | .double x => (doubleText x).toList
  | .string s => stringChars s
  | .array _ => []
  | .object _ => []

mutual

/-- The characters of a value on one line. -/
def compactChars : Json → List Char
  | .array [] => ['[', ']']
  | .array (first :: others) => '[' :: (compactChars first ++ compactElements others ++ [']'])
  | .object [] => ['\x7b', '\x7d']
  | .object ((name, value) :: others) =>
      '\x7b' :: (stringChars name ++ ':' :: compactChars value ++ compactMembers others ++ ['\x7d'])
  | value => scalarChars value

/-- The elements after the first, each behind its comma. -/
def compactElements : List Json → List Char
  | [] => []
  | value :: others => ',' :: (compactChars value ++ compactElements others)

/-- The members after the first, each behind its comma. -/
def compactMembers : List (String × Json) → List Char
  | [] => []
  | (name, value) :: others =>
      ',' :: (stringChars name ++ ':' :: compactChars value ++ compactMembers others)

end

/-- A line break followed by the indentation of a level. -/
def newLine (level : Nat) : List Char := '\n' :: List.replicate (2 * level) ' '

mutual

/-- The characters of a value whose inner lines are indented one level more than `level`. -/
def prettyChars (level : Nat) : Json → List Char
  | .array [] => ['[', ']']
  | .array (first :: others) =>
      '[' :: (newLine (level + 1) ++ prettyChars (level + 1) first ++
        prettyElements (level + 1) others ++ newLine level ++ [']'])
  | .object [] => ['\x7b', '\x7d']
  | .object ((name, value) :: others) =>
      '\x7b' :: (newLine (level + 1) ++ stringChars name ++ [':', ' '] ++
        prettyChars (level + 1) value ++ prettyMembers (level + 1) others ++ newLine level ++
        ['\x7d'])
  | value => scalarChars value

/-- The elements after the first, each behind a comma on a line of its own. -/
def prettyElements (level : Nat) : List Json → List Char
  | [] => []
  | value :: others =>
      ',' :: (newLine level ++ prettyChars level value ++ prettyElements level others)

/-- The members after the first, each behind a comma on a line of its own. -/
def prettyMembers (level : Nat) : List (String × Json) → List Char
  | [] => []
  | (name, value) :: others =>
      ',' :: (newLine level ++ stringChars name ++ [':', ' '] ++ prettyChars level value ++
        prettyMembers level others)

end

/-- The value on one line. -/
def compact (value : Json) : String := String.ofList (compactChars value)

/-- The value on indented lines. -/
def pretty (value : Json) : String := String.ofList (prettyChars 0 value)

/-- A character as an escape of one or two sixteen-bit units. -/
def unitEscape (c : Char) : List Char :=
  let escape (unit : Nat) : List Char := '\\' :: 'u' :: Text.hexDigits 4 unit
  if c.toNat < 0x10000 then escape c.toNat
  else
    escape (0xd800 + (c.toNat - 0x10000) / 0x400) ++ escape (0xdc00 + (c.toNat - 0x10000) % 0x400)

/-- The value on one line of ASCII: every other character, which can only stand inside a string, is
escaped. -/
def ascii (value : Json) : String :=
  String.ofList ((compactChars value).flatMap fun c => if c.toNat < 0x80 then [c] else unitEscape c)

end GameLibrary.Json
