import GameLibrary.Failure
import GameLibrary.Store.Table

/-!
# Directories

A file program is a sequence of requests to the file system, each of which depends on the answers to
the requests before it. A program says nothing about when its requests are served: programs that run
at the same time may be served in any order, and every request may fail. `FileProgram.run` serves a
program without interruption on one directory.
-/

namespace GameLibrary

/-- Why the file system refused a request. -/
inductive FileFault where
  /-- The file or the directory it is looked for in does not exist. -/
  | notFound
  /-- Anything else; the cause is what the system says, and names the place. -/
  | other (cause : String)
deriving DecidableEq, Inhabited, Repr

namespace FileFault

/-- What the system says. -/
def cause : FileFault → String
  | notFound => "No such file or directory (os error 2)"
  | other cause => cause

/-- A place is looked for where there is no directory. -/
def noDirectory (place : String) : FileFault := other (place ++ ": Not a directory (os error 20)")

/-- There is a directory in the place of a file. -/
def noFile (place : String) : FileFault := other (place ++ ": Is a directory (os error 21)")

end FileFault

/-- Requests to the file system about one directory. -/
inductive FileRequest where
  /-- Make the directory, unless it exists. -/
  | makeDirectory
  | read (name : String)
  /-- Write a file of the given content, in place of one of this name. -/
  | write (name : String) (content : ByteArray)
  /-- Give a file a new name, in place of one of that name. -/
  | rename (source target : String)
  | remove (name : String)

/-- What a request is answered with. -/
abbrev FileRequest.Answer : FileRequest → Type
  | read _ => Except FileFault ByteArray
  | _ => Except FileFault Unit

/-- A program that makes requests to the file system about one directory. -/
inductive FileProgram (α : Type) where
  | done (result : α)
  | ask (request : FileRequest) (next : request.Answer → FileProgram α)

/-- What a name stands for in a directory. -/
inductive DirectoryEntry where
  | file (content : ByteArray)
  | directory

/-- The state of a directory. -/
inductive Directory where
  /-- It does not exist, and can be made. -/
  | absent
  | present (entries : Table String DirectoryEntry)
  /-- Its place is taken, so that every access fails. -/
  | blocked

namespace Directory

/-- Makes the directory, unless it exists. -/
def make : Directory → Except FileFault Unit × Directory
  | absent => (.ok (), present .empty)
  | present entries => (.ok (), present entries)
  | blocked => (.error (.noDirectory "."), blocked)

/-- What a name stands for. -/
def entry (directory : Directory) (name : String) : Except FileFault DirectoryEntry :=
  match directory with
  | absent => .error .notFound
  | blocked => .error (.noDirectory name)
  | present entries =>
      match entries.find? name with
      | some entry => .ok entry
      | none => .error .notFound

/-- The content of a file. -/
def read (directory : Directory) (name : String) : Except FileFault ByteArray :=
  match directory.entry name with
  | .ok (.file content) => .ok content
  | .ok .directory => .error (.noFile name)
  | .error fault => .error fault

/-- Writes a file. -/
def write (directory : Directory) (name : String) (content : ByteArray) :
    Except FileFault Unit × Directory :=
  match directory with
  | absent => (.error .notFound, directory)
  | blocked => (.error (.noDirectory name), directory)
  | present entries =>
      match entries.find? name with
      | some .directory => (.error (.noFile name), directory)
      | _ => (.ok (), present (entries.insert name (.file content)))

/-- Removes a file. -/
def remove (directory : Directory) (name : String) : Except FileFault Unit × Directory :=
  match directory, directory.read name with
  | present entries, .ok _ => (.ok (), present (entries.erase name))
  | _, .ok _ => (.ok (), directory)
  | _, .error fault => (.error fault, directory)

/-- Gives a file a new name, unless a directory has it. -/
def rename (directory : Directory) (source target : String) : Except FileFault Unit × Directory :=
  match directory.read source with
  | .error fault => (.error fault, directory)
  | .ok content =>
      if source = target then (.ok (), directory)
      else
        match directory.write target content with
        | (.error fault, _) => (.error fault, directory)
        | (.ok (), written) => (.ok (), (written.remove source).2)

/-- Puts something else in the place of a name, in a directory that is made if it does not exist. -/
def place (directory : Directory) (name : String) (entry : DirectoryEntry) : Directory :=
  match directory.make.2 with
  | present entries => present (entries.insert name entry)
  | blocked => blocked
  | absent => absent

/-- Serves a request. -/
def serve (directory : Directory) : (request : FileRequest) → request.Answer × Directory
  | .makeDirectory => directory.make
  | .read name => (directory.read name, directory)
  | .write name content => directory.write name content
  | .rename source target => directory.rename source target
  | .remove name => directory.remove name

/-- The names in use, in order. -/
def names : Directory → List String
  | present entries => (entries.entries.map Prod.fst).mergeSort (· ≤ ·)
  | _ => []

end Directory

/-- Serves a whole program on a directory. -/
def FileProgram.run {α : Type} : FileProgram α → Directory → α × Directory
  | done result, directory => (result, directory)
  | ask request next, directory =>
      let (answer, directory) := directory.serve request
      (next answer).run directory

end GameLibrary
