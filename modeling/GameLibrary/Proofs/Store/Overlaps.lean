import GameLibrary.Proofs.Histories
import GameLibrary.Proofs.Store.Disks
import GameLibrary.Proofs.Store.Mirrors

/-!
# Calls that overlap

Any number of calls on one store of files run at the same time. Each follows its file program, one
step at a time, in any order: the directory is made, a name is taken off or changed, or a file is
opened, and then written or read piece by piece. Every step may be refused, and then has no effect; a
write that is refused leaves what was written before. A write draws the number of its temporary file
when the directory has been made.

A call of which every step is served before another call goes on is served as the store serves it
(`World.served_alone`).
-/

namespace GameLibrary

/-- The program with its result changed. -/
def FileProgram.map {α β : Type} (f : α → β) : FileProgram α → FileProgram β
  | done result => done (f result)
  | ask request next => ask request fun answer => (next answer).map f

/-- The answer to a request that is refused. -/
def FileRequest.refuse (fault : FileFault) : (request : FileRequest) → request.Answer
  | read _ => .error fault
  | makeDirectory | write _ _ | rename _ _ | remove _ => .error fault

/-- A program with its result changed is served as the program is. -/
theorem FileProgram.serve_map {α β : Type} (f : α → β) (program : FileProgram α) (disk : Disk) :
    (program.map f).serve disk = (f (program.serve disk).1, (program.serve disk).2) := by
  induction program generalizing disk with
  | done result => rfl
  | ask request next ih => exact ih _ _

namespace FileStore

/-- How a read goes on with the content of the file. -/
def afterRead : Except FileFault ByteArray → FileProgram ReadAnswer
  | .error .notFound => .done (.ok none)
  | .error (.other cause) => .done (.error (.storageFault "read" cause))
  | .ok content =>
      .done (match Record.ofBytes? content with
        | some record => .ok (some record)
        | none => .error (.serialization "no record"))

/-- How a write goes on when its temporary file could not be given the name of the key's file. -/
def afterRename (temporary : String) : Except FileFault Unit → FileProgram (Except Failure Unit)
  | .ok () => .done (.ok ())
  | .error fault =>
      .ask (.remove temporary) fun _ => .done (.error (.storageFault "rename" fault.cause))

/-- How a write goes on when its temporary file is written. -/
def afterWrite (key : Key) (temporary : String) :
    Except FileFault Unit → FileProgram (Except Failure Unit)
  | .error fault => .done (.error (.storageFault "write" fault.cause))
  | .ok () => .ask (.rename temporary (fileName key)) (afterRename temporary)

/-- How a write goes on when the directory has been made. -/
def afterMake (record : Record) (temporary : String) :
    Except FileFault Unit → FileProgram (Except Failure Unit)
  | .error fault => .done (.error (.storageFault "create" fault.cause))
  | .ok () =>
      match record.toText? with
      | none => .done (.error (.serialization "payload is not valid UTF-8"))
      | some text => .ask (.write temporary text.toUTF8) (afterWrite record.key temporary)

/-- How a removal goes on. -/
def afterRemove : Except FileFault Unit → FileProgram (Except Failure Bool)
  | .ok () => .done (.ok true)
  | .error .notFound => .done (.ok false)
  | .error (.other cause) => .done (.error (.storageFault "delete" cause))

theorem get_eq (key : Key) : get key = .ask (.read (fileName key)) afterRead := by
  unfold get
  congr 1
  funext answer
  rcases answer with (_ | _) | _ <;> rfl

theorem delete_eq (key : Key) : delete key = .ask (.remove (fileName key)) afterRemove := by
  unfold delete
  congr 1
  funext answer
  rcases answer with (_ | _) | _ <;> rfl

theorem put_eq (record : Record) (temporary : String) :
    put record temporary = .ask .makeDirectory (afterMake record temporary) := by
  have hrename : ∀ key, commit key temporary =
      .ask (.rename temporary (fileName key)) (afterRename temporary) := by
    intro key
    unfold commit
    congr 1
    funext answer
    rcases answer with _ | _ <;> rfl
  unfold put
  congr 1
  funext answer
  unfold afterMake
  rcases answer with _ | _
  · rfl
  · cases record.toText? with
    | none => rfl
    | some text =>
        dsimp only
        congr 1
        funext answer
        rcases answer with _ | _
        · rfl
        · exact hrename record.key

end FileStore

namespace Overlap

open FileStore (fileName temporaryName afterRead afterMake afterWrite afterRename afterRemove)

/-- Where a call stands. -/
inductive Stage where
  /-- A write that has not drawn a number: it makes the directory first. -/
  | entering (record : Record)
  /-- The next request is to be made, or the call is over. -/
  | ready (program : FileProgram StoreReply)
  /-- An open file is written from an offset on. -/
  | writing (file offset : Nat) (rest : List UInt8)
      (next : Except FileFault Unit → FileProgram StoreReply)
  /-- An open file is read, and so much of it has been. -/
  | reading (file : Nat) (got : List UInt8)
      (next : Except FileFault ByteArray → FileProgram StoreReply)

/-- A call with the number of its temporary file. -/
structure Task where
  request : StoreRequest
  number : Option Nat := none
  stage : Stage

/-- A call that begins. -/
def Task.begin (request : StoreRequest) : Task where
  request
  stage :=
    match request with
    | .get key => .ready ((FileStore.get key).map .found)
    | .put record => .entering record
    | .delete key => .ready ((FileStore.delete key).map .removed)

/-- What a call has replied. -/
def Task.reply? (task : Task) : Option StoreReply :=
  match task.stage with
  | .ready (.done reply) => some reply
  | .ready (.ask _ _) | .entering _ | .writing _ _ _ _ | .reading _ _ _ => none

/-- What may happen to a call. -/
inductive Action where
  /-- Its next step is served; pieces of files are of the given size at most. -/
  | advance (size : Nat)
  /-- Its next step is refused. -/
  | refuse (fault : FileFault)
deriving DecidableEq

/-- The step of a call that is at a request, or writes or reads a file. -/
def Stage.advance (size : Nat) (disk : Disk) : Stage → Option (Stage × Disk)
  | .ready (.ask .makeDirectory next) => some (.ready (next disk.make.1), disk.make.2)
  | .ready (.ask (.read name) next) =>
      match disk.file? name with
      | .ok file => some (.reading file [] next, disk)
      | .error fault => some (.ready (next (.error fault)), disk)
  | .ready (.ask (.write name content) next) =>
      match disk.openEmpty name with
      | (.ok file, opened) => some (.writing file 0 content.data.toList next, opened)
      | (.error fault, same) => some (.ready (next (.error fault)), same)
  | .ready (.ask (.rename source target) next) =>
      some (.ready (next (disk.rename source target).1), (disk.rename source target).2)
  | .ready (.ask (.remove name) next) =>
      some (.ready (next (disk.remove name).1), (disk.remove name).2)
  | .writing file offset rest next =>
      if rest = [] then some (.ready (next (.ok ())), disk)
      else
        let piece := rest.take size
        some (.writing file (offset + piece.length) (rest.drop size) next,
          disk.withContent file (Disk.writeAt (disk.contents file) offset piece))
  | .reading file got next =>
      let rest := (disk.contents file).drop got.length
      if rest = [] then some (.ready (next (.ok ⟨got.toArray⟩)), disk)
      else some (.reading file (got ++ rest.take size) next, disk)
  | .ready (.done _) | .entering _ => none

/-- The step of a call that is refused. -/
def Stage.refuse (fault : FileFault) : Stage → Option Stage
  | .entering record => some (.ready ((afterMake record "" (.error fault)).map .written))
  | .ready (.ask request next) => some (.ready (next (request.refuse fault)))
  | .writing _ _ _ next => some (.ready (next (.error fault)))
  | .reading _ _ next => some (.ready (next (.error fault)))
  | .ready (.done _) => none

/-- Calls on one store of files, with what they share. -/
structure World where
  disk : Disk
  /-- The number of this run of the program. -/
  process : Nat
  /-- The number of the next temporary file. -/
  sequence : Nat := 0
  tasks : Table Nat Task := .empty

/-- What may happen to the calls on a store. -/
inductive Event where
  /-- A call begins. -/
  | called (id : Nat) (request : StoreRequest)
  | act (id : Nat) (action : Action)

/-- The call that an event is about. -/
def Event.caller : Event → Nat
  | called id _ | act id _ => id

namespace World

/-- The call after an action, with the disk and the number of the next temporary file. -/
def perform (world : World) (task : Task) : Action → Option (Task × Disk × Nat)
  | .refuse fault =>
      (task.stage.refuse fault).map fun stage => ({ task with stage }, world.disk, world.sequence)
  | .advance size =>
      match task.stage with
      | .entering record =>
          let temporary := temporaryName record.key world.process world.sequence
          match world.disk.make with
          | (.ok (), made) =>
              some ({ task with
                number := some world.sequence
                stage := .ready ((afterMake record temporary (.ok ())).map .written) },
                made, world.sequence + 1)
          | (.error fault, same) =>
              some ({ task with
                stage := .ready ((afterMake record temporary (.error fault)).map .written) },
                same, world.sequence)
      | stage =>
          (stage.advance size world.disk).map fun (stage, disk) =>
            ({ task with stage }, disk, world.sequence)

/-- The calls after an event, if it can happen. -/
def step (world : World) : Event → Option World
  | .called id request =>
      if world.tasks.contains id then none
      else some { world with tasks := world.tasks.insert id (.begin request) }
  | .act id action =>
      (world.tasks.find? id).bind fun task =>
        (world.perform task action).map fun (task, disk, sequence) =>
          { world with disk, sequence, tasks := world.tasks.insert id task }

/-- The calls after some events. -/
def run (world : World) (events : List Event) : Option World := events.foldlM step world

/-- What a call was asked for. -/
def request? (world : World) (id : Nat) : Option StoreRequest :=
  (world.tasks.find? id).map Task.request

/-- What a call has replied. -/
def reply? (world : World) (id : Nat) : Option StoreReply :=
  (world.tasks.find? id).bind Task.reply?

end World

section Pieces

variable {disk : Disk} {file offset size : Nat} {rest got : List UInt8}
  {written : Except FileFault Unit → FileProgram StoreReply}
  {read : Except FileFault ByteArray → FileProgram StoreReply}

/-- A file of which everything is written is closed. -/
theorem advance_written : (Stage.writing file offset [] written).advance size disk =
    some (.ready (written (.ok ())), disk) := by
  simp [Stage.advance]

/-- The next piece of a file is written. -/
theorem advance_writing (hrest : rest ≠ []) :
    (Stage.writing file offset rest written).advance size disk =
      some (.writing file (offset + (rest.take size).length) (rest.drop size) written,
        disk.withContent file (Disk.writeAt (disk.contents file) offset (rest.take size))) := by
  simp [Stage.advance, hrest]

/-- A file that is read to its end is closed. -/
theorem advance_read (hend : (disk.contents file).drop got.length = []) :
    (Stage.reading file got read).advance size disk =
      some (.ready (read (.ok ⟨got.toArray⟩)), disk) := by
  simp only [Stage.advance, hend, if_true]

/-- The next piece of a file is read. -/
theorem advance_reading (hmore : (disk.contents file).drop got.length ≠ []) :
    (Stage.reading file got read).advance size disk =
      some (.reading file (got ++ ((disk.contents file).drop got.length).take size) read, disk) := by
  simp only [Stage.advance, hmore, if_false]

end Pieces

section Alone

variable {disk : Disk} {id : Nat} {task : Task}

/-- The steps of a call, with pieces of the given sizes. -/
def Stage.advanceAll (stage : Stage) (disk : Disk) (sizes : List Nat) : Option (Stage × Disk) :=
  sizes.foldlM (fun state size => state.1.advance size state.2) (stage, disk)

/-- A step before other steps. -/
theorem advance_all_cons {stage stage' : Stage} {disk' : Disk} {size : Nat} {sizes : List Nat}
    (h : stage.advance size disk = some (stage', disk')) :
    stage.advanceAll disk (size :: sizes) = stage'.advanceAll disk' sizes := by
  unfold Stage.advanceAll
  rw [List.foldlM_cons]
  dsimp only
  rw [h]
  rfl

/-- A file is read in one piece. -/
theorem read_whole (file : Nat) (next : Except FileFault ByteArray → FileProgram StoreReply)
    (disk : Disk) : ∃ sizes, ∀ more, (Stage.reading file [] next).advanceAll disk (sizes ++ more) =
      (Stage.ready (next (.ok ⟨(disk.contents file).toArray⟩))).advanceAll disk more := by
  by_cases hempty : disk.contents file = []
  · refine ⟨[0], fun more => advance_all_cons ?_⟩
    rw [hempty]
    exact advance_read hempty
  · refine ⟨[(disk.contents file).length, 0], fun more => ?_⟩
    have hpiece : (Stage.reading file [] next).advance (disk.contents file).length disk =
        some (.reading file (disk.contents file) next, disk) := by
      have hmore : (disk.contents file).drop ([] : List UInt8).length ≠ [] := hempty
      rw [advance_reading hmore, List.length_nil, List.drop_zero, List.take_length,
        List.nil_append]
    rw [List.cons_append, advance_all_cons hpiece]
    exact advance_all_cons (advance_read (List.drop_length ..))

/-- A file that has been emptied is written in one piece. -/
theorem write_whole (file : Nat) (content : List UInt8)
    (next : Except FileFault Unit → FileProgram StoreReply) (hempty : disk.contents file = []) :
    ∃ sizes, ∀ more, (Stage.writing file 0 content next).advanceAll disk (sizes ++ more) =
      (Stage.ready (next (.ok ()))).advanceAll (disk.withContent file content) more := by
  by_cases hcontent : content = []
  · refine ⟨[0], fun more => advance_all_cons ?_⟩
    have hsame : disk.withContent file content = disk := by
      unfold Disk.withContent
      rw [hcontent, ← hempty, Function.update_eq_self]
    rw [hsame, hcontent]
    exact advance_written
  · refine ⟨[content.length, 0], fun more => ?_⟩
    have hwritten : Disk.writeAt [] 0 content = content := Disk.write_at_length [] content
    have hpiece : (Stage.writing file 0 content next).advance content.length disk =
        some (.writing file (0 + content.length) [] next, disk.withContent file content) := by
      rw [advance_writing hcontent, hempty, List.take_length, List.drop_length, hwritten]
    rw [List.cons_append, advance_all_cons hpiece]
    exact advance_all_cons advance_written

/-- A request of a call that goes on alone is served as a whole. -/
theorem request_whole (request : FileRequest) (next : request.Answer → FileProgram StoreReply)
    (disk : Disk) : ∃ sizes, ∀ more,
      (Stage.ready (.ask request next)).advanceAll disk (sizes ++ more) =
        (Stage.ready (next (disk.serve request).1)).advanceAll (disk.serve request).2 more := by
  cases request with
  | makeDirectory => exact ⟨[0], fun more => advance_all_cons rfl⟩
  | rename | remove => exact ⟨[0], fun more => advance_all_cons rfl⟩
  | read name =>
      have hstep : (Stage.ready (.ask (.read name) next)).advance 0 disk =
          match disk.file? name with
          | .ok file => some (.reading file [] next, disk)
          | .error fault => some (.ready (next (.error fault)), disk) := rfl
      show ∃ sizes, ∀ more, _ = (Stage.ready (next (disk.read name))).advanceAll disk more
      unfold Disk.read
      cases hfile : disk.file? name with
      | ok file =>
          rw [hfile] at hstep
          obtain ⟨sizes, hsizes⟩ := read_whole file next disk
          exact ⟨0 :: sizes, fun more => (advance_all_cons hstep).trans (hsizes more)⟩
      | error fault =>
          rw [hfile] at hstep
          exact ⟨[0], fun more => advance_all_cons hstep⟩
  | write name content =>
      have hstep : (Stage.ready (.ask (.write name content) next)).advance 0 disk =
          match disk.openEmpty name with
          | (.ok file, opened) => some (.writing file 0 content.data.toList next, opened)
          | (.error fault, same) => some (.ready (next (.error fault)), same) := rfl
      show ∃ sizes, ∀ more, _ = (Stage.ready (next (disk.write name content).1)).advanceAll
        (disk.write name content).2 more
      unfold Disk.write
      rcases hopen : disk.openEmpty name with ⟨fault | file, opened⟩
      · rw [hopen] at hstep
        exact ⟨[0], fun more => advance_all_cons hstep⟩
      · rw [hopen] at hstep
        have hempty : opened.contents file = [] := by
          rw [(Disk.opens_of_open_empty hopen).contents_eq, Function.update_self]
        obtain ⟨sizes, hsizes⟩ := write_whole file content.data.toList next hempty
        exact ⟨0 :: sizes, fun more => (advance_all_cons hstep).trans (hsizes more)⟩

/-- A program of a call that goes on alone is served as a whole. -/
theorem program_whole (program : FileProgram StoreReply) (disk : Disk) :
    ∃ sizes, (Stage.ready program).advanceAll disk sizes =
      some (.ready (.done (program.serve disk).1), (program.serve disk).2) := by
  induction program generalizing disk with
  | done reply => exact ⟨[], rfl⟩
  | ask request next ih =>
      obtain ⟨first, hfirst⟩ := request_whole request next disk
      obtain ⟨rest, hrest⟩ := ih (disk.serve request).1 (disk.serve request).2
      exact ⟨first ++ rest, (hfirst rest).trans hrest⟩

/-- The events of a call that goes on alone. -/
def alone (id : Nat) (sizes : List Nat) : List Event :=
  sizes.map fun size => .act id (.advance size)

/-- A call that performs an action. -/
theorem World.step_act (world : World) {action : Action} {task' : Task} {disk' : Disk}
    {sequence : Nat} (htask : world.tasks.find? id = some task)
    (hperform : world.perform task action = some (task', disk', sequence)) :
    world.step (.act id action) = some { world with
      disk := disk', sequence, tasks := world.tasks.insert id task' } := by
  unfold World.step
  dsimp only
  rw [htask, Option.bind_some, hperform]
  rfl

/-- The first step of a write makes the directory; what is left is a program. -/
theorem World.perform_entering (world : World) {record : Record}
    (hstage : task.stage = .entering record) (size : Nat) : ∃ task' sequence,
      world.perform task (.advance size) = some (task', world.disk.make.2, sequence) ∧
      task'.stage = .ready ((afterMake record (temporaryName record.key world.process
        world.sequence) world.disk.make.1).map .written) := by
  unfold World.perform
  dsimp only
  rw [hstage]
  dsimp only
  rcases world.disk.make with ⟨fault | _, made⟩
  · exact ⟨_, _, rfl, rfl⟩
  · exact ⟨_, _, rfl, rfl⟩

/-- A call that goes on alone takes the steps of its stage. -/
theorem World.run_alone (world : World) {sizes : List Nat} {stage : Stage} {disk' : Disk}
    (htask : world.tasks.find? id = some task)
    (hsteps : task.stage.advanceAll world.disk sizes = some (stage, disk')) :
    ∃ tasks, world.run (alone id sizes) = some { world with disk := disk', tasks } ∧
      tasks.find? id = some { task with stage } := by
  induction sizes generalizing world task with
  | nil =>
      cases hsteps
      exact ⟨world.tasks, rfl, htask⟩
  | cons size rest ih =>
      unfold Stage.advanceAll at hsteps
      obtain ⟨⟨next, after⟩, hfirst, hrest⟩ := fold_cons.1 hsteps
      have hperform : world.perform task (.advance size) =
          some ({ task with stage := next }, after, world.sequence) := by
        unfold World.perform
        dsimp only
        split
        · rename_i hstage
          rw [hstage] at hfirst
          cases hfirst
        · rw [hfirst]
          rfl
      have hstep := world.step_act htask hperform
      obtain ⟨tasks, hrun, hfound⟩ := ih { world with
        disk := after, tasks := world.tasks.insert id { task with stage := next } }
        ((Table.find?_insert ..).trans (if_pos rfl)) hrest
      exact ⟨tasks, fold_cons.2 ⟨_, hstep, hrun⟩, hfound⟩

/-- A call at the beginning of a program that goes on alone gets what the program returns. -/
theorem World.program_alone {α : Type} (world : World) (program : FileProgram α)
    (reply : α → StoreReply) (htask : world.tasks.find? id = some task)
    (hstage : task.stage = .ready (program.map reply)) :
    ∃ sizes finish, world.run (alone id sizes) = some finish ∧
      finish.reply? id = some (reply (program.serve world.disk).1) ∧
      finish.disk = (program.serve world.disk).2 := by
  obtain ⟨sizes, hsizes⟩ := program_whole (program.map reply) world.disk
  rw [← hstage] at hsizes
  obtain ⟨tasks, hrun, hfound⟩ := world.run_alone htask hsizes
  rw [FileProgram.serve_map] at hrun hfound
  refine ⟨sizes, _, hrun, ?_, rfl⟩
  unfold World.reply?
  rw [hfound]
  rfl

/-- The world in which one more call has begun. -/
def World.begin (world : World) (id : Nat) (request : StoreRequest) : World :=
  { world with tasks := world.tasks.insert id (.begin request) }

theorem World.step_called (world : World) (hnew : world.tasks.contains id = false)
    (request : StoreRequest) :
    world.step (.called id request) = some (world.begin id request) := by
  unfold World.step
  dsimp only
  rw [hnew]
  rfl

theorem World.find?_begin (world : World) (request : StoreRequest) :
    (world.begin id request).tasks.find? id = some (.begin request) :=
  (Table.find?_insert ..).trans (if_pos rfl)

end Alone

section Store

/-- A call that goes on alone gets the reply of the store and leaves what the store leaves. -/
theorem World.served_alone {world : World} {store : FileStore} {id : Nat}
    (hshows : world.disk.Shows store.directory) (hregular : world.disk.Regular)
    (hprocess : world.process = store.process) (hsequence : world.sequence = store.sequence)
    (hnew : world.tasks.contains id = false) (request : StoreRequest) :
    ∃ sizes finish, world.run (.called id request :: alone id sizes) = some finish ∧
      finish.reply? id = some (Backend.serve store request).1 ∧
      finish.disk.Shows (Backend.serve store request).2.directory := by
  have hcalled := world.step_called hnew request
  have hbegun : (world.begin id request).tasks.find? id = some (.begin request) :=
    world.find?_begin request
  cases request with
  | get key =>
      obtain ⟨sizes, finish, hrun, hreply, hdisk⟩ :=
        World.program_alone _ (FileStore.get key) .found hbegun rfl
      obtain ⟨hanswer, hafter⟩ := (FileStore.get key).serve_eq_run hshows hregular
      refine ⟨sizes, finish, fold_cons.2 ⟨_, hcalled, hrun⟩, ?_, ?_⟩
      · exact hreply.trans (congrArg (fun answer => some (StoreReply.found answer)) hanswer)
      · rw [hdisk]
        exact hafter
  | delete key =>
      obtain ⟨sizes, finish, hrun, hreply, hdisk⟩ :=
        World.program_alone _ (FileStore.delete key) .removed hbegun rfl
      obtain ⟨hanswer, hafter⟩ := (FileStore.delete key).serve_eq_run hshows hregular
      refine ⟨sizes, finish, fold_cons.2 ⟨_, hcalled, hrun⟩, ?_, ?_⟩
      · exact hreply.trans (congrArg (fun answer => some (StoreReply.removed answer)) hanswer)
      · rw [hdisk]
        exact hafter
  | put record =>
      obtain ⟨hanswer, hafter⟩ := (FileStore.put record (temporaryName record.key store.process
        store.sequence)).serve_eq_run hshows hregular
      have hserve : (FileStore.put record (temporaryName record.key store.process
          store.sequence)).serve world.disk = (afterMake record (temporaryName record.key
            world.process world.sequence) world.disk.make.1).serve world.disk.make.2 := by
        rw [FileStore.put_eq, hprocess, hsequence]
        rfl
      rw [hserve] at hanswer hafter
      have hentering : (Task.begin (.put record)).stage = .entering record := rfl
      obtain ⟨task', sequence, hmade, hstage⟩ :=
        (world.begin id (.put record)).perform_entering hentering 0
      have hstep := World.step_act _ hbegun hmade
      obtain ⟨sizes, finish, hrun, hreply, hdisk⟩ := World.program_alone { world with
        disk := world.disk.make.2
        sequence
        tasks := (world.begin id (.put record)).tasks.insert id task' } _ .written
        ((Table.find?_insert ..).trans (if_pos rfl)) hstage
      refine ⟨0 :: sizes, finish, fold_cons.2 ⟨_, hcalled, fold_cons.2 ⟨_, hstep, hrun⟩⟩, ?_, ?_⟩
      · exact hreply.trans (congrArg (fun answer => some (StoreReply.written answer)) hanswer)
      · rw [hdisk]
        exact hafter

end Store

end Overlap

end GameLibrary
