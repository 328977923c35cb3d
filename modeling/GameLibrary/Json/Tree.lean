import GameLibrary.Json.Token

/-!
# JSON documents as written

A tree is a document before anything in it has been given a meaning: numbers have their digits,
strings that denote no text are holes, and an object may repeat a name. Trees are built from the
tokens with an explicit stack of open brackets, so nesting costs no recursion.
-/

namespace GameLibrary.Json

/-- A document as written. -/
inductive Tree where
  | null
  | bool (value : Bool)
  | number (literal : Literal)
  | string (text : Option String)
  | array (elements : List Tree)
  | object (members : List (Option String × Tree))
deriving Inhabited

/-- An open bracket with what has been read behind it, backwards. -/
inductive Frame where
  | array (elements : List Tree)
  | object (members : List (Option String × Tree)) (name : Option String)

/-- What may come next. -/
inductive Expected where
  | value
  | valueOrClose
  | nameOrClose (members : List (Option String × Tree))
  | name (members : List (Option String × Tree))
  | colon (members : List (Option String × Tree)) (name : Option String)
  | commaOrClose
  | nothing (document : Tree)

/-- The reader between two tokens: the open brackets, innermost first, and what may come next. -/
structure Reader where
  frames : List Frame
  expected : Expected

namespace Reader

/-- The reader behind a complete value. -/
def complete (frames : List Frame) (value : Tree) : Reader :=
  match frames with
  | [] => ⟨[], .nothing value⟩
  | .array elements :: outer => ⟨.array (value :: elements) :: outer, .commaOrClose⟩
  | .object members name :: outer =>
      ⟨.object ((name, value) :: members) name :: outer, .commaOrClose⟩

/-- The reader behind the first token of a value. -/
def begin (frames : List Frame) : Token → Option Reader
  | .null => some (complete frames .null)
  | .bool b => some (complete frames (.bool b))
  | .number literal => some (complete frames (.number literal))
  | .string text => some (complete frames (.string text))
  | .arrayOpen => some ⟨.array [] :: frames, .valueOrClose⟩
  | .objectOpen => some ⟨frames, .nameOrClose []⟩
  | _ => none

/-- One token. -/
def step (reader : Reader) (token : Token) : Option Reader :=
  match reader.expected, reader.frames, token with
  | .value, frames, token => begin frames token
  | .valueOrClose, .array elements :: outer, .arrayClose =>
      some (complete outer (.array elements.reverse))
  | .valueOrClose, frames, token => begin frames token
  | .nameOrClose members, frames, .objectClose =>
      some (complete frames (.object members.reverse))
  | .nameOrClose members, frames, .string name => some ⟨frames, .colon members name⟩
  | .name members, frames, .string name => some ⟨frames, .colon members name⟩
  | .colon members name, frames, .colon => some ⟨.object members name :: frames, .value⟩
  | .commaOrClose, .array elements :: outer, .comma => some ⟨.array elements :: outer, .value⟩
  | .commaOrClose, .array elements :: outer, .arrayClose =>
      some (complete outer (.array elements.reverse))
  | .commaOrClose, .object members _ :: outer, .comma => some ⟨outer, .name members⟩
  | .commaOrClose, .object members _ :: outer, .objectClose =>
      some (complete outer (.object members.reverse))
  | _, _, _ => none

/-- The document that has been read, if it is complete. -/
def document? : Reader → Option Tree
  | ⟨[], .nothing document⟩ => some document
  | _ => none

end Reader

/-- The tree of a sequence of tokens. -/
def Tree.ofTokens? (tokens : List Token) : Option Tree := do
  (← tokens.foldlM Reader.step ⟨[], .value⟩).document?

/-- The characters of a sequence of bytes from `position` on, with `none` for each byte that begins
no character. -/
def cellsFrom (bytes : ByteArray) (position : Nat) : List (Option Char) :=
  if _h : position < bytes.size then
    match bytes.utf8DecodeChar? position with
    | some c => some c :: cellsFrom bytes (position + c.utf8Size)
    | none => none :: cellsFrom bytes (position + 1)
  else []
termination_by bytes.size - position
decreasing_by
  · have := c.utf8Size_pos
    omega
  · omega

/-- The characters of a sequence of bytes, with `none` for each byte that begins no character. -/
def cells (bytes : ByteArray) : List (Option Char) :=
  match String.fromUTF8? bytes with
  | some text => text.toList.map some
  | none => cellsFrom bytes 0

/-- The tree of a document. -/
def Tree.ofBytes? (bytes : ByteArray) : Option Tree := do
  Tree.ofTokens? (← tokens (cells bytes))

/-- The tree of a document given as text. -/
def Tree.ofString? (text : String) : Option Tree := do
  Tree.ofTokens? (← tokens (text.toList.map some))

end GameLibrary.Json
