import GameLibrary.CommandLine.Program
import GameLibrary.Http.Wire
import Std.Async.DNS
import Std.Async.TCP
import Std.Async.Timer

/-!
# The executable

Holds the dialogue of the program with the real machine. Nothing is decided here: each question is
put to the operating system, and what it says is the answer.
-/

namespace GameLibrary

open CommandLine
open Std.Async

namespace Host

/-- Why an access to a file failed. -/
def fault : IO.Error → FileFault
  | .noFileOrDirectory .. => .notFound
  | error => .other (toString error)

/-- The result of an access to a file. -/
def attempt {α : Type} (access : IO α) : IO (Except FileFault α) := do
  try return .ok (← access)
  catch error => return .error (fault error)

/-- Serves a request to the file system. -/
def serve (directory : String) : (request : FileRequest) → IO request.Answer
  | .makeDirectory => attempt (IO.FS.createDirAll directory)
  | .read name => attempt (IO.FS.readBinFile (directory ++ "/" ++ name))
  | .write name content => attempt (IO.FS.writeBinFile (directory ++ "/" ++ name) content)
  | .rename source target =>
      attempt (IO.FS.rename (directory ++ "/" ++ source) (directory ++ "/" ++ target))
  | .remove name => attempt (IO.FS.removeFile (directory ++ "/" ++ name))

/-- The time. -/
def clock : IO Instant := do
  let now ← Std.Time.Timestamp.now
  return ⟨now.toNanosecondsSinceUnixEpoch.toInt.toNat⟩

/-- The places in the network that an address names. -/
def places (url : Http.Url) : Async (List Std.Net.SocketAddress) := do
  let hosts ← match Std.Net.IPv4Addr.ofString url.host with
    | some address => pure [Std.Net.IPAddr.v4 address]
    | none => Array.toList <$> DNS.getAddrInfo url.host (toString url.port) none
  return hosts.map fun
    | .v4 address => .v4 ⟨address, url.port.toUInt16⟩
    | .v6 address => .v6 ⟨address, url.port.toUInt16⟩

/-- Reads from a connection until it is known what becomes of the request. -/
partial def receive (connection : TCP.Socket.Client) (bytes : List UInt8) :
    Async Http.Reception := do
  match ← connection.recv? 65536 with
  | none => return (Http.Wire.reception? bytes true).getD default
  | some more =>
      let bytes := bytes ++ more.data.toList
      match Http.Wire.reception? bytes false with
      | some reception => return reception
      | none => receive connection bytes

/-- Makes a request. -/
def ask (request : Http.Request) : Async Http.Reception := do
  try
    match Http.Url.ofText? request.url with
    | none => return .broken "builder error"
    | some url =>
        match ← places url with
        | [] => return .broken "no address"
        | place :: _ =>
            let connection ← TCP.Socket.Client.mk
            connection.connect place
            connection.send (request.toBytes url)
            receive connection []
  catch error => return .broken (toString error)

/-- Makes a request that has to be answered within a time. -/
def askWithin (limit : Duration) (request : Http.Request) : Async Http.Reception :=
  Async.race (ask request) do
    sleep (.ofNat limit.wholeMilliseconds)
    return .late "operation timed out"

/-- Answers a question. -/
def reply : (question : Question) → IO question.Answer
  | .clock => clock
  | .readFile path => do return (← attempt (IO.FS.readBinFile path)).toOption
  | .exchange requests limit => do
      let answers ← Async.block (Async.concurrentlyAll (requests.map (askWithin limit)).toArray)
      return answers.toList
  | .files directory request => serve directory request

/-- Holds a dialogue. -/
def hold {α : Type} : Dialogue α → IO α
  | .done result => return result
  | .ask question next => do hold (next (← reply question))

/-- The variables of the environment that the options name. -/
def environment : IO (List (String × String)) := do
  let names := options.filterMap OptionSpec.environment
  let values ← names.mapM fun name => do return (← IO.getEnv name).map (name, ·)
  return values.filterMap id

end Host

end GameLibrary

/-- Runs the program on the arguments of the command line. -/
def main (arguments : List String) : IO UInt32 := do
  let environment ← GameLibrary.Host.environment
  let exit ← GameLibrary.Host.hold
    (GameLibrary.CommandLine.program arguments fun name => environment.lookup name)
  IO.print exit.output
  return exit.status.toUInt32
