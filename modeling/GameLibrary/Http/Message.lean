import GameLibrary.Text.Blank
import GameLibrary.Text.Lowercase
import GameLibrary.Text.Natural
import GameLibrary.Time.Duration

/-!
# Requests and responses

What the library sends to a server and what it gets back. A server may not be reached, may send
nothing, or may break off before the end of a body; `Transmission.reception` says what arrives of
what a server sends.
-/

namespace GameLibrary.Http

/-- What is asked of a server. -/
inductive Method where
  | get
  | post
deriving DecidableEq, Repr

/-- The name of a method. -/
def Method.name : Method → String
  | get => "GET"
  | post => "POST"

/-- A request; one with a body also has the type of its content. -/
structure Request where
  method : Method
  url : String
  contentType : String := ""
  body : String := ""
deriving DecidableEq, Repr

/-- A response; of one that broke off the body is missing, with the cause in its place. -/
structure Response where
  status : Nat
  headers : List (String × String)
  body : Except String ByteArray

/-- What becomes of a request. -/
inductive Reception where
  | response (response : Response)
  /-- The server was not reached, or the connection ended before a response. -/
  | broken (cause : String)
  /-- No response came in the time allowed. -/
  | late (cause : String)
deriving Inhabited

/-- The phrases that belong to the statuses. -/
def phrases : List (Nat × String) := [
  (100, "Continue"), (101, "Switching Protocols"), (102, "Processing"), (200, "OK"),
  (201, "Created"), (202, "Accepted"), (203, "Non Authoritative Information"),
  (204, "No Content"), (205, "Reset Content"), (206, "Partial Content"), (207, "Multi-Status"),
  (208, "Already Reported"), (226, "IM Used"), (300, "Multiple Choices"),
  (301, "Moved Permanently"), (302, "Found"), (303, "See Other"), (304, "Not Modified"),
  (305, "Use Proxy"), (307, "Temporary Redirect"), (308, "Permanent Redirect"),
  (400, "Bad Request"), (401, "Unauthorized"), (402, "Payment Required"), (403, "Forbidden"),
  (404, "Not Found"), (405, "Method Not Allowed"), (406, "Not Acceptable"),
  (407, "Proxy Authentication Required"), (408, "Request Timeout"), (409, "Conflict"),
  (410, "Gone"), (411, "Length Required"), (412, "Precondition Failed"),
  (413, "Payload Too Large"), (414, "URI Too Long"), (415, "Unsupported Media Type"),
  (416, "Range Not Satisfiable"), (417, "Expectation Failed"), (418, "I'm a teapot"),
  (421, "Misdirected Request"), (422, "Unprocessable Entity"), (423, "Locked"),
  (424, "Failed Dependency"), (425, "Too Early"), (426, "Upgrade Required"),
  (428, "Precondition Required"), (429, "Too Many Requests"),
  (431, "Request Header Fields Too Large"), (451, "Unavailable For Legal Reasons"),
  (500, "Internal Server Error"), (501, "Not Implemented"), (502, "Bad Gateway"),
  (503, "Service Unavailable"), (504, "Gateway Timeout"), (505, "HTTP Version Not Supported"),
  (506, "Variant Also Negotiates"), (507, "Insufficient Storage"), (508, "Loop Detected"),
  (510, "Not Extended"), (511, "Network Authentication Required")]

/-- A status with its phrase. -/
def statusText (status : Nat) : String :=
  toString status ++ " " ++ ((phrases.find? (·.1 = status)).map (·.2)).getD "<unknown status code>"

namespace Response

/-- Whether the request was served. -/
def isSuccess (response : Response) : Bool := 200 ≤ response.status && response.status ≤ 299

/-- The first header of a name, in whatever case the name is written. -/
def header? (response : Response) (name : String) : Option String :=
  (response.headers.find? fun header => Text.sameIgnoringAsciiCase header.1 name).map (·.2)

/-- Whether a header is text that can be looked into. -/
def isVisible (text : String) : Bool :=
  text.toList.all fun c => c = '\t' || (0x20 ≤ c.toNat && c.toNat < 0x7f)

/-- The seconds after which the server wants to be asked again. -/
def retryAfter (response : Response) : Option Duration := do
  let text ← response.header? "retry-after"
  if isVisible text then (Text.natural? 64 (Text.trim text)).map .seconds else none

end Response

/-- What a server sends before it closes the connection. -/
structure Transmission where
  status : Nat
  headers : List (String × String)
  body : ByteArray
  /-- The length of the body that the server tells. -/
  length : Nat

namespace Transmission

/-- Whether responses of this status never have a body. -/
def hasNoBody (status : Nat) : Bool := status = 204 || status = 304

/-- What arrives of a transmission. A body is cut at the length that the server told, and one that
is shorter is broken off. A status from 100 to 199 only announces a response, unless it says that the
connection is used in another way from now on. -/
def reception (sent : Transmission) : Reception :=
  if sent.status < 100 ∨ 999 < sent.status then .broken "invalid HTTP status-code parsed"
  else if sent.status < 200 ∧ sent.status ≠ 101 then
    .broken "connection closed before message completed"
  else
    let body :=
      if hasNoBody sent.status then .ok .empty
      else if sent.body.size < sent.length then .error "end of file before message length reached"
      else .ok (sent.body.extract 0 sent.length)
    .response ⟨sent.status, sent.headers, body⟩

end Transmission

end GameLibrary.Http
