import GameLibrary.Store.Backend
import GameLibrary.Store.Directory

/-!
# A durable store of files

Every key has one file in a directory, with the JSON text of its record. A record is written to a
temporary file first, which then gets the name of the key's file, so that a reader sees the old
record or the new one. `FileStore.get`, `FileStore.put` and `FileStore.delete` are file programs;
the store that the cache uses serves each of them without interruption.
-/

namespace GameLibrary

/-- A store that keeps its records in the files of a directory. -/
structure FileStore where
  directory : Directory := .absent
  usage : Usage := {}
  /-- The number of this run of the program, which no other running program has. -/
  process : Nat := 0
  /-- The number of the next temporary file. -/
  sequence : Nat := 0

namespace FileStore

/-- The name of the file of a key. -/
def fileName (key : Key) : String := key.text ++ ".json"

/-- The name of a temporary file. -/
def temporaryName (key : Key) (process sequence : Nat) : String :=
  fileName key ++ ".tmp-" ++ toString process ++ "-" ++ toString sequence

/-- Reads the record of a key. -/
def get (key : Key) : FileProgram ReadAnswer :=
  .ask (.read (fileName key)) fun
    | .error .notFound => .done (.ok none)
    | .error (.other cause) => .done (.error (.storageFault "read" cause))
    | .ok content =>
        .done (match Record.ofBytes? content with
          | some record => .ok (some record)
          | none => .error (.serialization "no record"))

/-- Gives a temporary file that is written the name of a key's file, or removes it. -/
def commit (key : Key) (temporary : String) : FileProgram (Except Failure Unit) :=
  .ask (.rename temporary (fileName key)) fun
    | .ok () => .done (.ok ())
    | .error fault =>
        .ask (.remove temporary) fun _ => .done (.error (.storageFault "rename" fault.cause))

/-- Writes a record by way of a temporary file. -/
def put (record : Record) (temporary : String) : FileProgram (Except Failure Unit) :=
  .ask .makeDirectory fun
    | .error fault => .done (.error (.storageFault "create" fault.cause))
    | .ok () =>
        match record.toText? with
        | none => .done (.error (.serialization "payload is not valid UTF-8"))
        | some text =>
            .ask (.write temporary text.toUTF8) fun
              | .error fault => .done (.error (.storageFault "write" fault.cause))
              | .ok () => commit record.key temporary

/-- Removes the record of a key. -/
def delete (key : Key) : FileProgram (Except Failure Bool) :=
  .ask (.remove (fileName key)) fun
    | .ok () => .done (.ok true)
    | .error .notFound => .done (.ok false)
    | .error (.other cause) => .done (.error (.storageFault "delete" cause))

instance : Backend FileStore where
  get store key :=
    let (answer, directory) := (get key).run store.directory
    (answer, { store with directory, usage := store.usage.read })
  put store record :=
    let temporary := temporaryName record.key store.process store.sequence
    let (answer, directory) := (put record temporary).run store.directory
    (answer, { store with
      directory, usage := store.usage.written, sequence := store.sequence + 1 })
  delete store key :=
    let (answer, directory) := (delete key).run store.directory
    (answer, { store with directory, usage := store.usage.deleted })
  usage := FileStore.usage

end FileStore

end GameLibrary
