import GameLibrary.Text.Hex

/-!
# JSON tokens

A document is scanned in one pass, a character at a time. A character is `none` where the bytes of
the document form no character; that is only tolerated between quotes. What stands between quotes is
kept as pieces, because the escapes of a string are checked for their form at once but for their
meaning only when the string is used.
-/

namespace GameLibrary.Json

/-- A number as written, digit by digit. -/
structure Literal where
  negative : Bool
  whole : List Nat
  fraction : List Nat
  /-- The sign and the digits of the power of ten. -/
  power : Option (Bool × List Nat)
deriving DecidableEq, Repr

/-- A stretch of the text between quotes: a plain character or a simple escape, a sixteen-bit unit
given in hexadecimal, or bytes that form no character. -/
inductive Piece where
  | char (c : Char)
  | unit (value : Nat)
  | broken
deriving DecidableEq, Repr

/-- The text that the pieces denote. A unit of the surrogate range has to be one of a pair. -/
def textOfPieces : List Piece → Option (List Char)
  | [] => some []
  | .char c :: rest => (textOfPieces rest).map (c :: ·)
  | .broken :: _ => none
  | .unit high :: .unit low :: rest =>
      if 0xD800 ≤ high ∧ high ≤ 0xDBFF then
        if 0xDC00 ≤ low ∧ low ≤ 0xDFFF then
          (textOfPieces rest).map
            (Char.ofNat ((high - 0xD800) * 0x400 + (low - 0xDC00) + 0x10000) :: ·)
        else none
      else if 0xDC00 ≤ high ∧ high ≤ 0xDFFF then none
      else (textOfPieces (.unit low :: rest)).map (Char.ofNat high :: ·)
  | .unit value :: rest =>
      if 0xD800 ≤ value ∧ value ≤ 0xDFFF then none
      else (textOfPieces rest).map (Char.ofNat value :: ·)

/-- The words of the grammar. -/
inductive Token where
  | arrayOpen
  | arrayClose
  | objectOpen
  | objectClose
  | comma
  | colon
  | null
  | bool (value : Bool)
  | number (literal : Literal)
  /-- A string; there is no text if its pieces denote none. -/
  | string (text : Option String)
deriving DecidableEq, Repr

/-- Where the scanner stands. -/
inductive Scan where
  /-- Between two tokens. -/
  | between
  /-- Inside a word, of which these characters are still to come. -/
  | word (remaining : List Char) (token : Token)
  /-- Behind a minus sign. -/
  | minus
  /-- Behind the leading zero of a number. -/
  | zero (negative : Bool)
  /-- Among the digits before the point, of which the first is no zero; backwards. -/
  | whole (negative : Bool) (digits : List Nat)
  /-- Behind the point and `digits`, backwards. -/
  | fraction (negative : Bool) (integral digits : List Nat)
  /-- Behind the letter of a power of ten. -/
  | letter (negative : Bool) (integral decimals : List Nat)
  /-- Behind the sign of a power of ten and `digits`, backwards. -/
  | power (negative : Bool) (integral decimals : List Nat) (powerNegative : Bool)
      (digits : List Nat)
  /-- Between quotes, behind these pieces, backwards. -/
  | quoted (pieces : List Piece)
  /-- Behind a backslash. -/
  | escape (pieces : List Piece)
  /-- Inside a unit, with some hexadecimal digits to come. -/
  | unit (pieces : List Piece) (remaining value : Nat)

namespace Scan

/-- The value of a decimal digit. -/
def digit? (c : Char) : Option Nat :=
  if '0' ≤ c ∧ c ≤ '9' then some (c.toNat - '0'.toNat) else none

/-- The scanner after a character between two tokens, with the token that the character makes. -/
def start (c : Char) : Option (Scan × Option Token) :=
  match c with
  | ' ' | '\n' | '\t' | '\r' => some (.between, none)
  | '[' => some (.between, some .arrayOpen)
  | ']' => some (.between, some .arrayClose)
  | '\x7b' => some (.between, some .objectOpen)
  | '\x7d' => some (.between, some .objectClose)
  | ',' => some (.between, some .comma)
  | ':' => some (.between, some .colon)
  | '"' => some (.quoted [], none)
  | 'n' => some (.word ['u', 'l', 'l'] .null, none)
  | 't' => some (.word ['r', 'u', 'e'] (.bool true), none)
  | 'f' => some (.word ['a', 'l', 's', 'e'] (.bool false), none)
  | '-' => some (.minus, none)
  | '0' => some (.zero false, none)
  | c => (digit? c).map fun d => (.whole false [d], none)

/-- The number that ends where the scanner stands, if one may end there. -/
def ended? : Scan → Option Literal
  | .zero negative => some ⟨negative, [0], [], none⟩
  | .whole negative digits => some ⟨negative, digits.reverse, [], none⟩
  | .fraction negative integral (d :: more) => some ⟨negative, integral, (d :: more).reverse, none⟩
  | .power negative integral decimals powerNegative (d :: more) =>
      some ⟨negative, integral, decimals, some (powerNegative, (d :: more).reverse)⟩
  | _ => none

/-- The scanner behind one more character of a number, if the character continues it. -/
def continued? (c : Char) : Scan → Option Scan
  | .minus => (digit? c).map fun d => if d = 0 then .zero true else .whole true [d]
  | .zero negative =>
      if c = '.' then some (.fraction negative [0] [])
      else if c = 'e' ∨ c = 'E' then some (.letter negative [0] [])
      else none
  | .whole negative digits =>
      if c = '.' then some (.fraction negative digits.reverse [])
      else if c = 'e' ∨ c = 'E' then some (.letter negative digits.reverse [])
      else (digit? c).map fun d => .whole negative (d :: digits)
  | .fraction negative integral digits =>
      if (c = 'e' ∨ c = 'E') ∧ digits ≠ [] then some (.letter negative integral digits.reverse)
      else (digit? c).map fun d => .fraction negative integral (d :: digits)
  | .letter negative integral decimals =>
      if c = '+' then some (.power negative integral decimals false [])
      else if c = '-' then some (.power negative integral decimals true [])
      else (digit? c).map fun d => .power negative integral decimals false [d]
  | .power negative integral decimals powerNegative digits =>
      (digit? c).map fun d => .power negative integral decimals powerNegative (d :: digits)
  | _ => none

/-- The character that stands behind a backslash for another one. -/
def simpleEscape? : Char → Option Char
  | '"' => some '"'
  | '\\' => some '\\'
  | '/' => some '/'
  | 'b' => some '\x08'
  | 'f' => some '\x0c'
  | 'n' => some '\n'
  | 'r' => some '\r'
  | 't' => some '\t'
  | _ => none

/-- One character: the scanner behind it and the tokens that it completes, or nothing if no
document goes on like this. A character that does not continue a number ends it and is read
afresh. -/
def step (scan : Scan) (cell : Option Char) : Option (Scan × List Token) :=
  match scan with
  | .between => do
      let (next, token) ← start (← cell)
      return (next, token.toList)
  | .word [] token => do
      let (next, made) ← start (← cell)
      return (next, token :: made.toList)
  | .word (expected :: more) token => do
      let c ← cell
      if c ≠ expected then none
      else if more = [] then some (.between, [token])
      else some (.word more token, [])
  | .quoted pieces =>
      match cell with
      | none => some (.quoted (.broken :: pieces), [])
      | some c =>
          if c = '"' then
            some (.between, [.string ((textOfPieces pieces.reverse).map String.ofList)])
          else if c = '\\' then some (.escape pieces, [])
          else if c.toNat < 0x20 then none
          else some (.quoted (.char c :: pieces), [])
  | .escape pieces => do
      let c ← cell
      if c = 'u' then some (.unit pieces 4 0, [])
      else (simpleEscape? c).map fun plain => (.quoted (.char plain :: pieces), [])
  | .unit pieces remaining value => do
      let d ← Text.hexValue? (← cell)
      if remaining ≤ 1 then some (.quoted (.unit (value * 16 + d) :: pieces), [])
      else some (.unit pieces (remaining - 1) (value * 16 + d), [])
  | number => do
      let c ← cell
      match number.continued? c with
      | some next => some (next, [])
      | none =>
          let literal ← number.ended?
          let (next, token) ← start c
          return (next, .number literal :: token.toList)

/-- The token that the end of the document completes. -/
def finish : Scan → Option (List Token)
  | .between => some []
  | scan => scan.ended?.map fun literal => [.number literal]

end Scan

/-- The tokens of a document. -/
def tokens (document : List (Option Char)) : Option (List Token) := do
  let (scan, made) ← document.foldlM
    (fun (scan, made) cell => do
      let (next, more) ← Scan.step scan cell
      return (next, more.reverse ++ made))
    (Scan.between, [])
  return made.reverse ++ (← scan.finish)

end GameLibrary.Json
