import GameLibrary.Http.Message
import GameLibrary.Http.Url

/-!
# Requests and responses as bytes

A request is sent as lines of text with a body behind them, and a response comes back in the same
form. `reception?` tells what becomes of a request from the bytes that have come so far, and nothing
as long as more of them could come and matter.
-/

namespace GameLibrary.Http

/-- The end of a line. -/
def lineEnd : String := "\r\n"

/-- The bytes of a request to the server of an address, which is asked to close the connection. -/
def Request.toBytes (request : Request) (url : Url) : ByteArray :=
  let body := request.body.toUTF8
  let content := match request.method with
    | .get => []
    | .post => ["content-type: " ++ request.contentType, "content-length: " ++ toString body.size]
  let lines := [
    request.method.name ++ " " ++ url.target ++ " HTTP/1.1",
    "host: " ++ url.host ++ ":" ++ toString url.port,
    "accept: */*",
    "connection: close"] ++ content ++ ["", ""]
  (lineEnd.intercalate lines).toUTF8 ++ body

namespace Wire

/-- The text of some bytes, each of which is one character. -/
def textOf (bytes : List UInt8) : String := String.ofList (bytes.map fun b => Char.ofNat b.toNat)

/-- What is before the first line end and what is behind it. -/
def splitLine (before : List UInt8) : List UInt8 → Option (String × List UInt8)
  | 13 :: 10 :: rest => some (textOf before.reverse, rest)
  | byte :: rest => splitLine (byte :: before) rest
  | [] => none

/-- What is before the first empty line and what is behind it. -/
def splitHead (before : List UInt8) : List UInt8 → Option (String × List UInt8)
  | 13 :: 10 :: 13 :: 10 :: rest => some (textOf before.reverse, rest)
  | byte :: rest => splitHead (byte :: before) rest
  | [] => none

/-- The name and the value of a header. -/
def header? (line : String) : Option (String × String) :=
  match line.toList.dropWhile (· ≠ ':') with
  | [] => none
  | _ :: value =>
      some (String.ofList (line.toList.takeWhile (· ≠ ':')), Text.trim (String.ofList value))

/-- The response without its body, if the head is well formed. -/
def head? (text : String) : Option Response :=
  match text.splitOn lineEnd with
  | [] => none
  | first :: lines =>
      match first.splitOn " " with
      | version :: status :: _ =>
          if version = "HTTP/1.1" ∨ version = "HTTP/1.0" then do
            let body := .error "end of file before message length reached"
            return ⟨← Text.natural? 16 status, ← lines.mapM header?, body⟩
          else none
      | _ => none

/-- How much is known of a body. -/
inductive Progress where
  /-- More has to come. -/
  | unfinished
  | malformed
  | whole (body : List UInt8)

/-- The number that hexadecimal digits denote. -/
def hexNumber? (digits : List Char) : Option Nat :=
  if digits.isEmpty then none
  else digits.foldlM (fun n c => (Text.hexValue? c).map (n * 16 + ·)) 0

/-- A body that is sent in chunks, each behind a line with its size; the last one is empty. -/
def unchunk (body : List UInt8) : Nat → List UInt8 → Progress
  | 0, _ => .malformed
  | fuel + 1, bytes =>
      match splitLine [] bytes with
      | none => .unfinished
      | some (line, rest) =>
          match hexNumber? ((line.toList.takeWhile (· ≠ ';')).filter (· ≠ ' ')) with
          | none => .malformed
          | some 0 => .whole body
          | some size =>
              if rest.length < size + lineEnd.length then .unfinished
              else unchunk (body ++ rest.take size) fuel (rest.drop (size + lineEnd.length))

/-- What becomes of a request to which these bytes have come back. A body without a length ends with
the connection. -/
def reception? (bytes : List UInt8) (ended : Bool) : Option Reception :=
  let pending : Option Reception :=
    if ended then some (.broken "connection closed before message completed") else none
  match splitHead [] bytes with
  | none => pending
  | some (text, rest) =>
      match head? text with
      | none => some (.broken "invalid HTTP version parsed")
      | some head =>
          let sent (body : List UInt8) (length : Nat) : Reception :=
            Transmission.reception ⟨head.status, head.headers, ⟨body.toArray⟩, length⟩
          let coding := head.header? "transfer-encoding"
          let chunked := coding.any (Text.sameIgnoringAsciiCase · "chunked")
          if Transmission.hasNoBody head.status then some (sent [] 0)
          else if chunked then
            match unchunk [] (rest.length + 1) rest with
            | .whole body => some (sent body body.length)
            | .unfinished => if ended then some (.response head) else none
            | .malformed => some (.response head)
          else
            match head.header? "content-length" with
            | none => if ended then some (sent rest rest.length) else none
            | some value =>
                match Text.natural? 64 value with
                | none => some (.broken "invalid content-length parsed")
                | some length =>
                    if rest.length < length && !ended then none else some (sent rest length)

end Wire

end GameLibrary.Http
