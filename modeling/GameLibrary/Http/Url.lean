import GameLibrary.Text.Hex
import GameLibrary.Text.Natural

/-!
# Addresses

An address `http://host:port/path?query` names a server and what is asked of it. Everything from a
`#` on is ignored, and so is what stands before an `@` in front of the host. A path is freed of its
`.` and `..` segments, and characters that a request line cannot hold are written as `%` and the
digits of their bytes. Addresses with another scheme name no server here.
-/

namespace GameLibrary.Http

/-- A server and what is asked of it. -/
structure Url where
  host : String
  port : Nat
  /-- The path and the query. -/
  target : String
deriving DecidableEq, Repr

namespace Url

/-- The port of a server that names none. -/
def standardPort : Nat := 80

/-- The characters without control characters and blanks at the two ends, and without tabs and line
breaks. -/
def cleaned (text : String) : List Char :=
  let outer (c : Char) : Bool := c.toNat ≤ 0x20
  let inner := ((text.toList.dropWhile outer).reverse.dropWhile outer).reverse
  inner.filter fun c => c ≠ '\t' && c ≠ '\n' && c ≠ '\r'

/-- Whether a slash of either kind. -/
def isSlash (c : Char) : Bool := c = '/' || c = '\\'

/-- A character as a request line holds it, given those that have to be written as digits. -/
def encodeChar (special : List Char) (c : Char) : List Char :=
  if c.toNat ≤ 0x20 || 0x7f ≤ c.toNat || special.contains c then
    (String.singleton c).toUTF8.data.toList.flatMap fun byte =>
      '%' :: (Text.hexDigits 2 byte.toNat).map Char.toUpper
  else [c]

/-- The pieces of a path between its slashes. -/
def segments : List Char → List (List Char)
  | [] => [[]]
  | c :: rest =>
      if isSlash c then [] :: segments rest
      else
        match segments rest with
        | [] => [[c]]
        | first :: others => (c :: first) :: others

/-- Whether a segment stands for the place where it is. -/
def isHere (segment : List Char) : Bool :=
  [".", "%2e"].contains (String.ofList (segment.map Char.toLower))

/-- Whether a segment stands for the place above. -/
def isAbove (segment : List Char) : Bool :=
  ["..", ".%2e", "%2e.", "%2e%2e"].contains (String.ofList (segment.map Char.toLower))

/-- The segments without those that stand for a place, `before` being the ones before, backwards. A
path that ends in one of these ends in a slash. -/
def walk (before : List (List Char)) : List (List Char) → List (List Char)
  | [] => before.reverse
  | segment :: rest =>
      let last := rest.isEmpty
      if isAbove segment then walk (if last then [] :: before.tail else before.tail) rest
      else if isHere segment then walk (if last then [] :: before else before) rest
      else walk (segment :: before) rest

/-- The path of a request line, which begins with a slash. -/
def pathOf (chars : List Char) : List Char :=
  let relative := match chars with
    | c :: rest => if isSlash c then rest else c :: rest
    | [] => []
  (walk [] (segments relative)).flatMap fun segment =>
    '/' :: segment.flatMap (encodeChar ['"', '<', '>', '`', '#', '?', '\x7b', '\x7d'])

/-- The path and the query of a request line. -/
def targetOf (chars : List Char) : String :=
  let shown := chars.takeWhile (· ≠ '#')
  let query := match shown.dropWhile (· ≠ '?') with
    | [] => []
    | mark :: rest => mark :: rest.flatMap (encodeChar ['"', '<', '>', '\''])
  String.ofList (pathOf (shown.takeWhile (· ≠ '?')) ++ query)

/-- Whether a character may stand in the name of a host. -/
def isHostChar (c : Char) : Bool := c.isAlphanum || c = '.' || c = '-' || c = '_'

/-- The port behind a host, the standard one if there is none. -/
def portOf? : List Char → Option Nat
  | [] => some standardPort
  | ':' :: digits =>
      if digits.isEmpty then some standardPort
      else if digits.head? = some '+' then none
      else Text.natural? 16 (String.ofList digits)
  | _ => none

/-- The address that a text denotes. -/
def ofText? (text : String) : Option Url :=
  let chars := cleaned text
  let scheme := String.ofList ((chars.takeWhile (· ≠ ':')).map Char.toLower)
  if scheme ≠ "http" then none
  else
    let rest := ((chars.dropWhile (· ≠ ':')).drop 1).dropWhile isSlash
    let ends (c : Char) : Bool := isSlash c || c = '?' || c = '#'
    let authority := rest.takeWhile (!ends ·)
    let server := (authority.reverse.takeWhile (· ≠ '@')).reverse
    let host := server.takeWhile isHostChar
    if host.isEmpty then none
    else
      (portOf? (server.drop host.length)).map fun port =>
        ⟨String.ofList (host.map Char.toLower), port, targetOf (rest.dropWhile (!ends ·))⟩

end Url

end GameLibrary.Http
