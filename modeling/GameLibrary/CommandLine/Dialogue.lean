import GameLibrary.Http.Message
import GameLibrary.Store.Directory

/-!
# Dialogues with the machine

A program asks the machine on which it runs for the time, for files and for answers of servers, and
goes on with what it is told. `Dialogue.run` holds a dialogue with a machine that is a value; the
executable holds it with the real one.
-/

namespace GameLibrary.CommandLine

/-- What a program asks the machine for. -/
inductive Question where
  /-- The time. -/
  | clock
  /-- The content of a file. -/
  | readFile (path : String)
  /-- The answers to requests that are made at the same time, each within a limit. -/
  | exchange (requests : List Http.Request) (limit : Duration)
  /-- A request to the file system about a directory. -/
  | files (directory : String) (request : FileRequest)

/-- What the machine answers. -/
abbrev Question.Answer : Question → Type
  | clock => Instant
  | readFile _ => Option ByteArray
  | exchange _ _ => List Http.Reception
  | files _ request => request.Answer

/-- A program that talks to the machine. -/
inductive Dialogue (α : Type) where
  | done (result : α)
  | ask (question : Question) (next : question.Answer → Dialogue α)

namespace Dialogue

variable {α β : Type}

/-- One dialogue after the other. -/
def bind : Dialogue α → (α → Dialogue β) → Dialogue β
  | done result, next => next result
  | ask question answered, next => ask question fun answer => (answered answer).bind next

instance : Monad Dialogue where
  pure := done
  bind := bind

/-- Asks one question. -/
def put (question : Question) : Dialogue question.Answer := ask question done

/-- The time. -/
def clock : Dialogue Instant := put .clock

/-- A program on the files of a directory. -/
def ofFiles (directory : String) : FileProgram α → Dialogue α
  | .done result => done result
  | .ask request next =>
      ask (.files directory request) fun answer => ofFiles directory (next answer)

end Dialogue

/-- A machine that is a value. Time does not pass on it. -/
structure Machine where
  now : Instant
  files : String → Option ByteArray
  directories : String → Directory
  network : Http.Request → Http.Reception

namespace Machine

/-- The answer of a machine to a question. -/
def answer (machine : Machine) : (question : Question) → question.Answer × Machine
  | .clock => (machine.now, machine)
  | .readFile path => (machine.files path, machine)
  | .exchange requests _ => (requests.map machine.network, machine)
  | .files directory request =>
      let (answer, after) := (machine.directories directory).serve request
      (answer, { machine with
        directories := fun other =>
          if other = directory then after else machine.directories other })

end Machine

/-- Holds a dialogue with a machine. -/
def Dialogue.run {α : Type} : Dialogue α → Machine → α × Machine
  | .done result, machine => (result, machine)
  | .ask question next, machine =>
      let (answer, machine) := machine.answer question
      (next answer).run machine

end GameLibrary.CommandLine
