import GameLibrary.Text.Extender
import GameLibrary.Text.Hex
import GameLibrary.Text.Unprintable

/-!
# Quoted text

A text between double quotes in which every character can be seen: quotes, backslashes and the
common controls have short escapes, and what has no visible form of its own is shown by number.
-/

namespace GameLibrary.Text

/-- One character inside quotes. -/
def quotedChar (c : Char) : List Char :=
  match c with
  | '"' => ['\\', '"']
  | '\\' => ['\\', '\\']
  | '\n' => ['\\', 'n']
  | '\r' => ['\\', 'r']
  | '\t' => ['\\', 't']
  | '\x00' => ['\\', '0']
  | c =>
      if isExtender c || isUnprintable c then
        ['\\', 'u', '\x7b'] ++ Nat.toDigits 16 c.toNat ++ ['\x7d']
      else [c]

/-- The text between double quotes. -/
def quoted (text : String) : String :=
  String.ofList ('"' :: (text.toList.flatMap quotedChar ++ ['"']))

end GameLibrary.Text
