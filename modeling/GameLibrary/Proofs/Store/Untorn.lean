import GameLibrary.Proofs.Store.Whole

/-!
# No record is torn

However the steps of overlapping calls on a store of files follow one another, and whichever of them
are refused, a read finds nothing or a whole record that was put for its key or was there in the
beginning, and a write that fails changes nothing that could be read (`run_untorn`).

The file of a key is never written: a write has a temporary file of its own, since no other write
has its number, and the file gets the name of the key when it is complete. So what a call does
concerns, besides the names of keys, only what its own temporary name stands for, and every other
call stands where it stood (`Task.Stands.aside`).
-/

namespace GameLibrary

namespace Overlap

open FileStore (fileName temporaryName temporary_name_ne temporary_name_inj afterRead afterMake
  afterWrite afterRename afterRemove)

/-- What a read may answer: nothing, a whole record of the key, or that a step was refused. -/
inductive Answers (given : Record → Prop) (refused : Prop) (key : Key) : ReadAnswer → Prop
  | nothing : Answers given refused key (.ok none)
  | whole {record : Record} (hkey : record.key = key) (hgiven : given record) :
      Answers given refused key (.ok (some record))
  | refused {cause : String} (hrefused : refused) :
      Answers given refused key (.error (.storageFault "read" cause))

/-- The name is that of a temporary file of the call. -/
def Task.Owns (process : Nat) (task : Task) (name : String) : Prop :=
  ∃ key number, task.number = some number ∧ name = temporaryName key process number

/-- Where a call stands on a disk. -/
inductive Task.Stands (given : Record → Prop) (refused : Prop) (process : Nat) (disk : Disk) :
    Task → Prop
  | asking (key : Key) : Stands given refused process disk
      ⟨.get key, none, .ready (.ask (.read (fileName key)) fun answer =>
        (afterRead answer).map .found)⟩
  /-- The file that is read is whole, and no temporary file. -/
  | reading {key : Key} {file : Nat} {got : List UInt8} (hold : file < disk.nextFile)
      (hgot : got <+: disk.contents file) (huntorn : Untorn given key (disk.contents file))
      (hnames : ∀ {name}, disk.file? name = .ok file → ∃ key, name = fileName key) :
      Stands given refused process disk
        ⟨.get key, none, .reading file got fun answer => (afterRead answer).map .found⟩
  | found {key : Key} {answer : ReadAnswer} (hanswer : Answers given refused key answer) :
      Stands given refused process disk ⟨.get key, none, .ready (.done (.found answer))⟩
  | entering {record : Record}
      (hbody : ∀ text, record.toText? = some text →
        Untorn given record.key text.toUTF8.data.toList) :
      Stands given refused process disk ⟨.put record, none, .entering record⟩
  | opening {record : Record} {number : Nat} {body : ByteArray}
      (hbody : Untorn given record.key body.data.toList) : Stands given refused process disk
        ⟨.put record, some number,
          .ready (.ask (.write (temporaryName record.key process number) body) fun answer =>
            (afterWrite record.key (temporaryName record.key process number) answer).map
              .written)⟩
  /-- The file that is written has the name of the call, and lacks the rest only. -/
  | writing {record : Record} {number file : Nat} {rest : List UInt8}
      (hfile : disk.file? (temporaryName record.key process number) = .ok file)
      (hbody : Untorn given record.key (disk.contents file ++ rest)) :
      Stands given refused process disk
        ⟨.put record, some number,
          .writing file (disk.contents file).length rest fun answer =>
            (afterWrite record.key (temporaryName record.key process number) answer).map .written⟩
  | committing {record : Record} {number file : Nat}
      (hfile : disk.file? (temporaryName record.key process number) = .ok file)
      (hbody : Untorn given record.key (disk.contents file)) : Stands given refused process disk
        ⟨.put record, some number,
          .ready (.ask (.rename (temporaryName record.key process number) (fileName record.key))
            fun answer => (afterRename (temporaryName record.key process number) answer).map
              .written)⟩
  | removing {record : Record} {number : Nat} {cause : String} : Stands given refused process disk
      ⟨.put record, some number, .ready (.ask (.remove (temporaryName record.key process number))
        fun _ => .done (.written (.error (.storageFault "rename" cause))))⟩
  | written {record : Record} {number : Option Nat} {answer : Except Failure Unit} :
      Stands given refused process disk ⟨.put record, number, .ready (.done (.written answer))⟩
  | deleting (key : Key) : Stands given refused process disk
      ⟨.delete key, none, .ready (.ask (.remove (fileName key)) fun answer =>
        (afterRemove answer).map .removed)⟩
  | removed {key : Key} {answer : Except Failure Bool} : Stands given refused process disk
      ⟨.delete key, none, .ready (.done (.removed answer))⟩

section Standing

variable {given given' : Record → Prop} {refused refused' : Prop} {process : Nat}
  {disk disk' : Disk} {task : Task}

/-- No name that a call owns is the name of a key's file. -/
theorem Task.Owns.ne_file_name {name : String} (h : task.Owns process name) (key : Key) :
    name ≠ fileName key := by
  obtain ⟨other, number, -, rfl⟩ := h
  exact temporary_name_ne other key process number

/-- A call stands where it stood when more records are given. -/
theorem Task.Stands.mono (hgiven : ∀ record, given record → given' record)
    (hrefused : refused → refused') (h : task.Stands given refused process disk) :
    task.Stands given' refused' process disk := by
  cases h with
  | asking key => exact .asking key
  | reading hold hgot huntorn hnames => exact .reading hold hgot (huntorn.mono hgiven) hnames
  | found hanswer =>
      cases hanswer with
      | nothing => exact .found .nothing
      | whole hkey hrecord => exact .found (.whole hkey (hgiven _ hrecord))
      | refused h => exact .found (.refused (hrefused h))
  | entering hbody => exact .entering fun text htext => (hbody text htext).mono hgiven
  | opening hbody => exact .opening (hbody.mono hgiven)
  | writing hfile hbody => exact .writing hfile (hbody.mono hgiven)
  | committing hfile hbody => exact .committing hfile (hbody.mono hgiven)
  | removing => exact .removing
  | written => exact .written
  | deleting key => exact .deleting key
  | removed => exact .removed

/-- A call stands where it stood when another one with its own temporary name goes on. -/
theorem Task.Stands.aside (h : task.Stands given refused process disk) {other : Task}
    (hregular : disk.Regular) (hevolves : disk.Evolves (other.Owns process) disk')
    (hother : ∀ number, task.number = some number → other.number ≠ some number) :
    task.Stands given refused process disk' := by
  -- The own name stands for the same file, which has the same content.
  have hmine : ∀ {key number file}, task.number = some number →
      disk.file? (temporaryName key process number) = .ok file →
        disk'.file? (temporaryName key process number) = .ok file ∧
          disk'.contents file = disk.contents file := by
    intro key number file hnumber hfile
    have hnot : ∀ name, other.Owns process name → name ≠ temporaryName key process number := by
      rintro name ⟨key', number', hnumber', rfl⟩ hname
      rw [temporary_name_inj hname] at hnumber'
      exact hother number hnumber hnumber'
    refine ⟨?_, hevolves.contents_eq (hregular.below hfile) fun name hown hname => ?_⟩
    · rw [hevolves.others (fun other => temporary_name_ne key other process number)
        fun hown => hnot _ hown rfl, hfile]
    · exact hnot name hown (hregular.single hname hfile)
  cases h with
  | asking key => exact .asking key
  | reading hold hgot huntorn hnames =>
      rename_i key file got
      have hsame : disk'.contents file = disk.contents file := by
        refine hevolves.contents_eq hold fun name hown hname => ?_
        obtain ⟨key, hkey⟩ := hnames hname
        exact hown.ne_file_name key hkey
      refine .reading (Nat.lt_of_lt_of_le hold hevolves.nextFile_le) (hsame ▸ hgot)
        (hsame ▸ huntorn) fun hname => ?_
      rcases hevolves.origin hold hname with hbefore | hkey
      · exact hnames hbefore
      · exact hkey
  | found hanswer => exact .found hanswer
  | entering hbody => exact .entering hbody
  | opening hbody => exact .opening hbody
  | writing hfile hbody =>
      obtain ⟨hfile', hsame⟩ := hmine rfl hfile
      rw [← hsame] at hbody ⊢
      exact .writing hfile' hbody
  | committing hfile hbody =>
      obtain ⟨hfile', hsame⟩ := hmine rfl hfile
      exact .committing hfile' (hsame ▸ hbody)
  | removing => exact .removing
  | written => exact .written
  | deleting key => exact .deleting key
  | removed => exact .removed

end Standing

section Steps

variable {given : Record → Prop} {refused refused' : Prop} {process : Nat} {disk disk' : Disk}
  {task : Task} {stage : Stage}

/-- A call of which a step is refused stands behind that step, or is about to end. -/
theorem Task.Stands.refuse (h : task.Stands given refused process disk) (hrefused : refused')
    {fault : FileFault} (hstep : task.stage.refuse fault = some stage) :
    Task.Stands given refused' process disk { task with stage } := by
  cases h with
  | asking key | reading =>
      cases hstep
      cases fault with
      | notFound => exact .found .nothing
      | other => exact .found (.refused hrefused)
  | entering => cases hstep; exact .written
  | opening | writing => cases hstep; exact .written
  | committing => cases hstep; exact .removing
  | removing => cases hstep; exact .written
  | deleting key =>
      cases hstep
      cases fault <;> exact .removed
  | found | written | removed => cases hstep

/-- What a step of a call does that is served. -/
structure Task.Advances (given : Record → Prop) (refused : Prop) (process : Nat) (disk : Disk)
    (task : Task) (disk' : Disk) (task' : Task) : Prop where
  stands : task'.Stands given refused process disk'
  regular : disk'.Regular
  sound : disk'.Sound given
  evolves : disk.Evolves (task.Owns process) disk'
  /-- A write changes the file of a key with its last step only, and then succeeds. -/
  keeps : ∀ record, task.request = .put record →
    disk.KeepsKeys disk' ∨ task'.reply? = some (.written (.ok ()))

/-- A step that changes no file. -/
theorem Task.Stands.advances_same {task' : Task} (h : task'.Stands given refused process disk)
    (hregular : disk.Regular) (hsound : disk.Sound given) :
    task.Advances given refused process disk disk task' where
  stands := h
  regular := hregular
  sound := hsound
  evolves := Disk.evolves_of_same (fun _ => rfl) rfl rfl
  keeps _ _ := .inl (Disk.keeps_keys_of_same (fun _ => rfl) rfl)

section Cases

variable (hregular : disk.Regular) (hsound : disk.Sound given) {size : Nat}
include hregular hsound

/-- A read opens the file of its key. -/
theorem advances_asking {key : Key}
    (hstage : task.stage = .ready (.ask (.read (fileName key)) fun answer =>
      (afterRead answer).map .found)) (hstep : task.stage.advance size disk = some (stage, disk')) :
    task.Advances given refused process disk disk' ⟨.get key, none, stage⟩ := by
  rw [hstage] at hstep
  unfold Stage.advance at hstep
  dsimp only at hstep
  rcases hsound key with hnone | ⟨file, hfile, huntorn⟩
  · rw [hnone] at hstep
    cases hstep
    exact Task.Stands.advances_same (.found .nothing) hregular hsound
  · rw [hfile] at hstep
    cases hstep
    exact Task.Stands.advances_same (.reading (hregular.below hfile) List.nil_prefix huntorn
      fun hname => ⟨key, hregular.single hname hfile⟩) hregular hsound

/-- A read gets the next piece of its file, or has all of it. -/
theorem advances_reading {key : Key} {file : Nat} {got : List UInt8}
    (hold : file < disk.nextFile) (hgot : got <+: disk.contents file)
    (huntorn : Untorn given key (disk.contents file))
    (hnames : ∀ {name}, disk.file? name = .ok file → ∃ key, name = fileName key)
    (hstage : task.stage = .reading file got fun answer => (afterRead answer).map .found)
    (hstep : task.stage.advance size disk = some (stage, disk')) :
    task.Advances given refused process disk disk' ⟨.get key, none, stage⟩ := by
  obtain ⟨rest, hrest⟩ := hgot
  have hdrop : (disk.contents file).drop got.length = rest := by
    rw [← hrest, List.drop_left]
  rw [hstage] at hstep
  by_cases hend : rest = []
  · rw [advance_read (hdrop.trans hend)] at hstep
    cases hstep
    obtain ⟨record, hread, hkey, hgiven⟩ := huntorn
    rw [← hrest, hend, List.append_nil] at hread
    have hanswer : afterRead (.ok ⟨got.toArray⟩) = .done (.ok (some record)) := by
      unfold afterRead
      dsimp only
      rw [hread]
    rw [hanswer]
    exact Task.Stands.advances_same (.found (.whole hkey hgiven)) hregular hsound
  · rw [advance_reading (hdrop.trans_ne hend)] at hstep
    cases hstep
    refine Task.Stands.advances_same (.reading hold ?_ huntorn hnames) hregular hsound
    rw [hdrop, ← hrest, List.prefix_append_right_inj]
    exact List.take_prefix ..

/-- A removal takes the name of its key off, and is over. -/
theorem advances_deleting {key : Key}
    (hstage : task.stage = .ready (.ask (.remove (fileName key)) fun answer =>
      (afterRemove answer).map .removed))
    (hstep : task.stage.advance size disk = some (stage, disk'))
    (hdelete : task.request = .delete key) :
    task.Advances given refused process disk disk' ⟨.delete key, none, stage⟩ := by
  rw [hstage] at hstep
  cases hstep
  have hover : ∀ answer, ∃ reply, (afterRemove answer).map StoreReply.removed =
      .done (.removed reply) := by
    rintro ((_ | _) | _)
    · exact ⟨_, rfl⟩
    · exact ⟨_, rfl⟩
    · exact ⟨_, rfl⟩
  obtain ⟨reply, hreply⟩ := hover (disk.remove (fileName key)).1
  dsimp only
  rw [hreply]
  refine ⟨.removed, hregular.remove _, hsound.remove key, Disk.evolves_remove (.inr ⟨key, rfl⟩),
    fun record hput => ?_⟩
  rw [hdelete] at hput
  cases hput

variable {record : Record} {number : Nat} (hnumber : task.number = some number)
include hnumber

/-- A write opens its temporary file, which nobody else has. -/
theorem advances_opening {body : ByteArray} (hbody : Untorn given record.key body.data.toList)
    (hstage : task.stage = .ready
      (.ask (.write (temporaryName record.key process number) body) fun answer =>
        (afterWrite record.key (temporaryName record.key process number) answer).map .written))
    (hstep : task.stage.advance size disk = some (stage, disk')) :
    task.Advances given refused process disk disk' ⟨.put record, some number, stage⟩ := by
  rw [hstage] at hstep
  unfold Stage.advance at hstep
  dsimp only at hstep
  rcases hopen : disk.openEmpty (temporaryName record.key process number) with
    ⟨fault | file, opened⟩
  · rw [hopen] at hstep
    cases hstep
    rw [Disk.open_empty_error hopen]
    exact Task.Stands.advances_same .written hregular hsound
  · rw [hopen] at hstep
    cases hstep
    have hopens := Disk.opens_of_open_empty hopen
    have hempty : disk'.contents file = [] := by
      rw [hopens.contents_eq, Function.update_self]
    have hkeeps := Disk.keeps_keys_opened hregular
      (fun other => temporary_name_ne record.key other process number) hopens
    have hstands : Task.Stands given refused process disk'
        ⟨.put record, some number, .writing file (disk'.contents file).length body.data.toList
          fun answer => (afterWrite record.key (temporaryName record.key process number)
            answer).map .written⟩ := by
      refine .writing ?_ ?_
      · rw [hopens.file?_eq, if_pos rfl]
      · rw [hempty]
        exact hbody
    rw [hempty] at hstands
    exact ⟨hstands, hregular.opened hopens, hkeeps.sound hsound,
      Disk.evolves_opened ⟨record.key, number, hnumber, rfl⟩ hopens, fun _ _ => .inl hkeeps⟩

/-- A write puts the next piece into its temporary file, or has written all of it. -/
theorem advances_writing {file : Nat} {rest : List UInt8}
    (hfile : disk.file? (temporaryName record.key process number) = .ok file)
    (hbody : Untorn given record.key (disk.contents file ++ rest))
    (hstage : task.stage = .writing file (disk.contents file).length rest fun answer =>
      (afterWrite record.key (temporaryName record.key process number) answer).map .written)
    (hstep : task.stage.advance size disk = some (stage, disk')) :
    task.Advances given refused process disk disk' ⟨.put record, some number, stage⟩ := by
  rw [hstage] at hstep
  by_cases hend : rest = []
  · rw [hend, advance_written] at hstep
    cases hstep
    rw [hend, List.append_nil] at hbody
    exact Task.Stands.advances_same (.committing hfile hbody) hregular hsound
  · rw [advance_writing hend, Disk.write_at_length] at hstep
    cases hstep
    have hkeeps := Disk.keeps_keys_with_content hregular
      (fun other => temporary_name_ne record.key other process number) hfile
      (disk.contents file ++ rest.take size)
    have hnow : (disk.withContent file (disk.contents file ++ rest.take size)).contents file =
        disk.contents file ++ rest.take size := Function.update_self ..
    have hstands : Task.Stands given refused process
        (disk.withContent file (disk.contents file ++ rest.take size))
        ⟨.put record, some number, .writing file
          ((disk.withContent file (disk.contents file ++ rest.take size)).contents file).length
          (rest.drop size) fun answer => (afterWrite record.key
            (temporaryName record.key process number) answer).map .written⟩ := by
      refine .writing hfile ?_
      rw [hnow, List.append_assoc, List.take_append_drop]
      exact hbody
    rw [hnow, List.length_append] at hstands
    exact ⟨hstands, hregular.with_content .., hkeeps.sound hsound,
      Disk.evolves_with_content ⟨record.key, number, hnumber, rfl⟩ hfile _, fun _ _ => .inl hkeeps⟩

/-- A write gives its temporary file the name of the key's, or goes on to remove it. -/
theorem advances_committing {file : Nat}
    (hfile : disk.file? (temporaryName record.key process number) = .ok file)
    (hbody : Untorn given record.key (disk.contents file))
    (hstage : task.stage = .ready
      (.ask (.rename (temporaryName record.key process number) (fileName record.key))
        fun answer => (afterRename (temporaryName record.key process number) answer).map .written))
    (hstep : task.stage.advance size disk = some (stage, disk')) :
    task.Advances given refused process disk disk' ⟨.put record, some number, stage⟩ := by
  have htemporary := fun other => temporary_name_ne record.key other process number
  rw [hstage] at hstep
  cases hstep
  rcases disk.rename_cases (htemporary record.key) with ⟨fault, hsame⟩ | ⟨hok, -⟩
  · rw [hsame]
    exact Task.Stands.advances_same .removing hregular hsound
  · rw [hok]
    exact ⟨.written, hregular.rename (htemporary record.key),
      hsound.rename htemporary hfile hbody,
      Disk.evolves_rename htemporary ⟨record.key, number, hnumber, rfl⟩, fun _ _ => .inr rfl⟩

/-- A write removes its temporary file. -/
theorem advances_removing {cause : String}
    (hstage : task.stage = .ready
      (.ask (.remove (temporaryName record.key process number)) fun _ =>
        .done (.written (.error (.storageFault "rename" cause)))))
    (hstep : task.stage.advance size disk = some (stage, disk')) :
    task.Advances given refused process disk disk' ⟨.put record, some number, stage⟩ := by
  have hkeeps : disk.KeepsKeys (disk.remove (temporaryName record.key process number)).2 :=
    Disk.keeps_keys_remove fun other => temporary_name_ne record.key other process number
  rw [hstage] at hstep
  cases hstep
  exact ⟨.written, hregular.remove _, hkeeps.sound hsound,
    Disk.evolves_remove (.inl ⟨record.key, number, hnumber, rfl⟩), fun _ _ => .inl hkeeps⟩

end Cases

/-- After a step of a call everything is in order again. -/
theorem Task.Stands.advance (h : task.Stands given refused process disk) (hregular : disk.Regular)
    (hsound : disk.Sound given) {size : Nat}
    (hstep : task.stage.advance size disk = some (stage, disk')) :
    task.Advances given refused process disk disk' { task with stage } := by
  cases h with
  | asking key => exact advances_asking hregular hsound rfl hstep
  | reading hold hgot huntorn hnames =>
      exact advances_reading hregular hsound hold hgot huntorn hnames rfl hstep
  | opening hbody => exact advances_opening hregular hsound rfl hbody rfl hstep
  | writing hfile hbody => exact advances_writing hregular hsound rfl hfile hbody rfl hstep
  | committing hfile hbody => exact advances_committing hregular hsound rfl hfile hbody rfl hstep
  | removing => exact advances_removing hregular hsound rfl rfl hstep
  | deleting key => exact advances_deleting hregular hsound rfl hstep rfl
  | entering | found | written | removed => cases hstep

/-- A write that begins has a number when the directory has been made. -/
theorem advances_entering (hregular : disk.Regular) (hsound : disk.Sound given) {record : Record}
    (hbody : ∀ text, record.toText? = some text → Untorn given record.key text.toUTF8.data.toList)
    (number : Option Nat) (sequence : Nat)
    (hnumber : disk.make.1 = .ok () → number = some sequence) :
    task.Advances given refused process disk disk.make.2 ⟨.put record, number,
      .ready ((afterMake record (temporaryName record.key process sequence) disk.make.1).map
        .written)⟩ := by
  have hkeeps : disk.KeepsKeys disk.make.2 :=
    Disk.keeps_keys_of_same (Disk.file?_make disk) (Disk.contents_make disk)
  refine ⟨?_, hregular.make, hkeeps.sound hsound, Disk.evolves_of_same (Disk.file?_make disk)
    (Disk.contents_make disk) (Disk.next_file_make disk), fun _ _ => .inl hkeeps⟩
  cases hmade : disk.make.1 with
  | error fault => exact .written
  | ok _ =>
      rw [hnumber hmade]
      unfold afterMake
      cases htext : record.toText? with
      | none => exact .written
      | some text => exact .opening (hbody text htext)

/-- What stands behind a write that has not begun. -/
theorem Task.Stands.of_entering (h : task.Stands given refused process disk) {record : Record}
    (hstage : task.stage = .entering record) :
    task = ⟨.put record, none, .entering record⟩ ∧
      ∀ text, record.toText? = some text → Untorn given record.key text.toUTF8.data.toList := by
  cases h with
  | entering hbody =>
      cases hstage
      exact ⟨rfl, hbody⟩
  | _ => cases hstage

/-- A read that is over has an answer. -/
theorem Task.Stands.answers (h : task.Stands given refused process disk) {key : Key}
    (hrequest : task.request = .get key) {reply : StoreReply} (hreply : task.reply? = some reply) :
    ∃ answer, reply = .found answer ∧ Answers given refused key answer := by
  cases h with
  | found hanswer =>
      cases hrequest
      cases hreply
      exact ⟨_, rfl, hanswer⟩
  | written | removed => cases hrequest
  | _ => cases hreply

/-- A call that has replied as a write was asked to write. -/
theorem Task.Stands.wrote (h : task.Stands given refused process disk)
    {answer : Except Failure Unit} (hreply : task.reply? = some (.written answer)) :
    ∃ record, task.request = .put record := by
  cases h with
  | written => exact ⟨_, rfl⟩
  | _ => cases hreply

end Steps

namespace World

variable {world next : World} {action : Action} {task task' : Task} {disk' : Disk} {sequence' : Nat}

/-- A call that goes on has not replied, and is still asked for the same. -/
theorem perform_request (h : world.perform task action = some (task', disk', sequence')) :
    task'.request = task.request ∧ task.reply? = none := by
  have hreply : ∀ {reply}, task.reply? = some reply → task.stage = .ready (.done reply) := by
    intro reply hreply
    unfold Task.reply? at hreply
    split at hreply
    · rename_i hstage
      cases hreply
      exact hstage
    all_goals cases hreply
  cases action with
  | refuse fault =>
      obtain ⟨stage, hstage, heq⟩ := Option.map_eq_some_iff.1 h
      cases heq
      refine ⟨rfl, Option.eq_none_iff_forall_ne_some.2 fun reply hover => ?_⟩
      rw [hreply hover] at hstage
      cases hstage
  | advance size =>
      unfold perform at h
      dsimp only at h
      split at h
      · rename_i record hentering
        refine ⟨?_, Option.eq_none_iff_forall_ne_some.2 fun reply hover => ?_⟩
        · split at h <;> cases h <;> rfl
        · cases (hreply hover).symm.trans hentering
      · obtain ⟨⟨stage, disk⟩, hstage, heq⟩ := Option.map_eq_some_iff.1 h
        cases heq
        refine ⟨rfl, Option.eq_none_iff_forall_ne_some.2 fun reply hover => ?_⟩
        rw [hreply hover] at hstage
        cases hstage

/-- An event is the beginning of a call, or something that happens to one. -/
theorem step_cases {event : Event} (h : world.step event = some next) :
    (∃ id request, event = .called id request ∧ world.tasks.find? id = none ∧
      next = { world with tasks := world.tasks.insert id (.begin request) }) ∨
    ∃ id action task task' disk' sequence', event = .act id action ∧
      world.tasks.find? id = some task ∧
      world.perform task action = some (task', disk', sequence') ∧
      next = { world with
        disk := disk', sequence := sequence', tasks := world.tasks.insert id task' } := by
  cases event with
  | called id request =>
      unfold step at h
      dsimp only at h
      split at h
      · cases h
      · rename_i hnew
        cases h
        refine .inl ⟨id, request, rfl, ?_, rfl⟩
        unfold Table.contains at hnew
        exact Option.not_isSome_iff_eq_none.1 hnew
  | act id action =>
      obtain ⟨task, htask, h⟩ := Option.bind_eq_some_iff.1 h
      obtain ⟨⟨task', disk', sequence'⟩, hperform, heq⟩ := Option.map_eq_some_iff.1 h
      cases heq
      exact .inr ⟨id, action, task, task', disk', sequence', rfl, htask, hperform, rfl⟩

/-- A call stays, with its request, and with its reply once it has one. -/
theorem step_keeps {event : Event} (h : world.step event = some next) {id : Nat}
    (htask : world.tasks.find? id = some task) :
    ∃ task', next.tasks.find? id = some task' ∧ task'.request = task.request ∧
      (event.caller = id → task.reply? = none) ∧ (task.reply? ≠ none → task' = task) := by
  rcases step_cases h with ⟨other, request, rfl, hnew, rfl⟩ |
    ⟨other, action, old, new, disk', sequence', rfl, hold, hperform, rfl⟩
  · have hne : id ≠ other := by
      rintro rfl
      cases htask.symm.trans hnew
    refine ⟨task, ?_, rfl, fun hcaller => absurd hcaller.symm hne, fun _ => rfl⟩
    rw [Table.find?_insert, if_neg hne]
    exact htask
  · obtain ⟨hrequest, hreply⟩ := perform_request hperform
    by_cases hid : id = other
    · cases hid
      cases htask.symm.trans hold
      refine ⟨new, ?_, hrequest, fun _ => hreply, fun hover => absurd hreply hover⟩
      rw [Table.find?_insert, if_pos rfl]
    · refine ⟨task, ?_, rfl, fun hcaller => absurd hcaller.symm hid, fun _ => rfl⟩
      rw [Table.find?_insert, if_neg hid]
      exact htask

/-- After something that happened to a call everything is in order again; only a write that begins
draws a number. -/
theorem perform_advances {given : Record → Prop} {refused refused' : Prop}
    (h : task.Stands given refused world.process world.disk) (hregular : world.disk.Regular)
    (hsound : world.disk.Sound given) (hstill : refused → refused')
    (hrefused : ∀ fault, action = .refuse fault → refused')
    (hperform : world.perform task action = some (task', disk', sequence')) :
    task.Advances given refused' world.process world.disk disk' task' ∧
      (task'.number = task.number ∧ sequence' = world.sequence ∨
        task'.number = some world.sequence ∧ sequence' = world.sequence + 1) := by
  cases action with
  | refuse fault =>
      obtain ⟨stage, hstage, heq⟩ := Option.map_eq_some_iff.1 hperform
      cases heq
      exact ⟨Task.Stands.advances_same (h.refuse (hrefused fault rfl) hstage) hregular hsound,
        .inl ⟨rfl, rfl⟩⟩
  | advance size =>
      unfold perform at hperform
      dsimp only at hperform
      split at hperform
      · rename_i record hentering
        obtain ⟨rfl, hbody⟩ := h.of_entering hentering
        have hadvances : ∀ number, (world.disk.make.1 = .ok () → number = some world.sequence) →
            Task.Advances given refused' world.process world.disk
              ⟨.put record, none, .entering record⟩ world.disk.make.2 ⟨.put record, number, .ready
                ((afterMake record (temporaryName record.key world.process world.sequence)
                  world.disk.make.1).map .written)⟩ :=
          fun number => advances_entering hregular hsound hbody number world.sequence
        rcases hmade : world.disk.make with ⟨fault | _, made⟩
        · rw [hmade] at hperform hadvances
          cases hperform
          exact ⟨hadvances none nofun, .inl ⟨rfl, rfl⟩⟩
        · rw [hmade] at hperform hadvances
          cases hperform
          exact ⟨hadvances _ fun _ => rfl, .inr ⟨rfl, rfl⟩⟩
      · obtain ⟨⟨stage, disk⟩, hstage, heq⟩ := Option.map_eq_some_iff.1 hperform
        cases heq
        exact ⟨(h.mono (fun _ hgiven => hgiven) hstill).advance hregular hsound hstage,
          .inl ⟨rfl, rfl⟩⟩

end World

section Runs

/-- What reads may find: what was put, and what was there in the beginning. -/
def Given (start : World) (events : List Event) (record : Record) : Prop :=
  (∃ id put, .called id (.put put) ∈ events ∧ put.ReadAs record) ∨
    start.disk.answer record.key = .ok (some record)

/-- A step of the call has been refused. -/
def Refused (events : List Event) (id : Nat) : Prop := ∃ fault, .act id (.refuse fault) ∈ events

variable {start world next finish : World} {past events : List Event} {event : Event}

theorem Given.mono {record : Record} (h : Given start past record) :
    Given start (past ++ [event]) record :=
  h.imp_left fun ⟨id, put, hmem, hrecord⟩ => ⟨id, put, List.mem_append_left _ hmem, hrecord⟩

theorem Refused.mono {id : Nat} (h : Refused past id) : Refused (past ++ [event]) id :=
  h.imp fun _ hmem => List.mem_append_left _ hmem

/-- Calls that do not get in each other's way. -/
structure Orderly (start : World) (past : List Event) (world : World) : Prop where
  regular : world.disk.Regular
  sound : world.disk.Sound (Given start past)
  number_lt : ∀ {id task number}, world.tasks.find? id = some task → task.number = some number →
    number < world.sequence
  distinct : ∀ {id other task task' number}, world.tasks.find? id = some task →
    world.tasks.find? other = some task' → task.number = some number → task'.number = some number →
      id = other
  stands : ∀ {id task}, world.tasks.find? id = some task →
    task.Stands (Given start past) (Refused past id) world.process world.disk

/-- A call that is found is the one that was changed, or another one that is as it was. -/
theorem found_insert {tasks : Table Nat Task} {id other : Nat} {changed task : Task}
    (h : (tasks.insert id changed).find? other = some task) :
    other = id ∧ task = changed ∨ other ≠ id ∧ tasks.find? other = some task := by
  rw [Table.find?_insert] at h
  split at h
  · rename_i hid
    cases h
    exact .inl ⟨hid, rfl⟩
  · rename_i hid
    exact .inr ⟨hid, h⟩

/-- A call that begins stands at its beginning. -/
theorem Task.stands_begin {given : Record → Prop} {refused : Prop} {process : Nat} {disk : Disk}
    (request : StoreRequest)
    (hgiven : ∀ record, request = .put record → ∀ text, record.toText? = some text →
      Untorn given record.key text.toUTF8.data.toList) :
    (Task.begin request).Stands given refused process disk := by
  unfold Task.begin
  cases request with
  | get key =>
      dsimp only
      rw [FileStore.get_eq]
      exact .asking key
  | put record => exact .entering (hgiven record rfl)
  | delete key =>
      dsimp only
      rw [FileStore.delete_eq]
      exact .deleting key

theorem Orderly.called (h : Orderly start past world) {id : Nat} {request : StoreRequest}
    (hcalendar : ∀ record, request = .put record → record.insertedAt.InCalendar) :
    Orderly start (past ++ [.called id request])
      { world with tasks := world.tasks.insert id (.begin request) } := by
  have hnumber : (Task.begin request).number = none := rfl
  constructor
  case regular => exact h.regular
  case sound => exact h.sound.mono fun _ => Given.mono
  case number_lt =>
    intro other task number htask hother
    rcases found_insert htask with ⟨-, rfl⟩ | ⟨-, hold⟩
    · cases hother
    · exact h.number_lt hold hother
  case distinct =>
    intro first second task task' number hfirst hsecond hnum hnum'
    rcases found_insert hfirst with ⟨-, rfl⟩ | ⟨-, hold⟩
    · cases hnum
    rcases found_insert hsecond with ⟨-, rfl⟩ | ⟨-, hold'⟩
    · cases hnum'
    exact h.distinct hold hold' hnum hnum'
  case stands =>
    intro other task htask
    rcases found_insert htask with ⟨-, rfl⟩ | ⟨-, hold⟩
    · refine Task.stands_begin request fun record hput text htext => ?_
      subst hput
      refine ⟨record.asRead, ?_, rfl, .inl ⟨id, record, by simp, record.read_as_as_read⟩⟩
      rw [Array.toArray_toList]
      exact Record.of_bytes_text (hcalendar record rfl) htext
    · exact (h.stands hold).mono (fun _ => Given.mono) Refused.mono

/-- A call goes on, and no other call notices but by the names of keys. -/
theorem Orderly.act (h : Orderly start past world) {id sequence' : Nat} {action : Action}
    {task task' : Task} {disk' : Disk} (htask : world.tasks.find? id = some task)
    (hperform : world.perform task action = some (task', disk', sequence')) :
    Orderly start (past ++ [.act id action]) { world with
      disk := disk', sequence := sequence', tasks := world.tasks.insert id task' } := by
  have hgiven : ∀ record, Given start past record → Given start (past ++ [.act id action]) record :=
    fun _ => Given.mono
  have hrefused : ∀ fault, action = .refuse fault → Refused (past ++ [.act id action]) id := by
    rintro fault rfl
    exact ⟨fault, by simp⟩
  obtain ⟨hadvances, hnumber⟩ := World.perform_advances
    ((h.stands htask).mono hgiven fun hearlier => hearlier) h.regular (h.sound.mono hgiven)
    Refused.mono hrefused hperform
  -- The number of the call is its own: it had it before, or it is the next one.
  have hnew : ∀ {number}, task'.number = some number →
      task.number = some number ∧ sequence' = world.sequence ∨
        number = world.sequence ∧ sequence' = world.sequence + 1 := by
    intro number hnum
    rcases hnumber with ⟨hsame, hsequence⟩ | ⟨hdrawn, hsequence⟩
    · exact .inl ⟨hsame ▸ hnum, hsequence⟩
    · cases hdrawn.symm.trans hnum
      exact .inr ⟨rfl, hsequence⟩
  have hle : world.sequence ≤ sequence' := by
    rcases hnumber with ⟨-, hsequence⟩ | ⟨-, hsequence⟩ <;> omega
  have hother : ∀ {other found number}, other ≠ id → world.tasks.find? other = some found →
      found.number = some number → task'.number ≠ some number := by
    intro other found number hne hold hnum hnum'
    rcases hnew hnum' with ⟨hmine, -⟩ | ⟨rfl, -⟩
    · exact hne (h.distinct hold htask hnum hmine)
    · exact Nat.lt_irrefl _ (h.number_lt hold hnum)
  constructor
  case regular => exact hadvances.regular
  case sound => exact hadvances.sound
  case number_lt =>
    intro other found number hfind hnum
    rcases found_insert hfind with ⟨-, rfl⟩ | ⟨-, hold⟩
    · rcases hnew hnum with ⟨hmine, hsequence⟩ | ⟨rfl, hsequence⟩
      · rw [hsequence]
        exact h.number_lt htask hmine
      · rw [hsequence]
        exact Nat.lt_succ_self _
    · exact Nat.lt_of_lt_of_le (h.number_lt hold hnum) hle
  case distinct =>
    intro first second found found' number hfirst hsecond hnum hnum'
    rcases found_insert hfirst with ⟨rfl, rfl⟩ | ⟨hne, hold⟩
    · rcases found_insert hsecond with ⟨rfl, -⟩ | ⟨hne', hold'⟩
      · rfl
      · exact absurd hnum (hother hne' hold' hnum')
    · rcases found_insert hsecond with ⟨rfl, rfl⟩ | ⟨-, hold'⟩
      · exact absurd hnum' (hother hne hold hnum)
      · exact h.distinct hold hold' hnum hnum'
  case stands =>
    intro other found hfind
    rcases found_insert hfind with ⟨rfl, rfl⟩ | ⟨hne, hold⟩
    · exact hadvances.stands
    · refine ((h.stands hold).mono hgiven Refused.mono).aside h.regular hadvances.evolves
        fun number hnum hmine => ?_
      exact hne (h.distinct hold htask hnum hmine)

theorem Orderly.step (h : Orderly start past world)
    (hcalendar : ∀ id record, event = .called id (.put record) → record.insertedAt.InCalendar)
    (hstep : world.step event = some next) : Orderly start (past ++ [event]) next := by
  rcases World.step_cases hstep with ⟨id, request, rfl, -, rfl⟩ |
    ⟨id, action, task, task', disk', sequence', rfl, htask, hperform, rfl⟩
  · exact h.called fun record hput => hcalendar id record (hput ▸ rfl)
  · exact h.act htask hperform

/-- The calls of a run do not get in each other's way. -/
theorem orderly_run (hregular : start.disk.Regular) (hsound : start.disk.Sound (Given start []))
    (hnone : start.tasks = .empty)
    (hcalendar : ∀ id record, .called id (.put record) ∈ events → record.insertedAt.InCalendar)
    (hrun : start.run events = some finish) : Orderly start events finish := by
  have hempty : ∀ {id task}, start.tasks.find? id ≠ some task := by
    intro id task htask
    rw [hnone] at htask
    cases htask
  refine fold_history (Orderly start) ?_ ?_ hrun
  · exact ⟨hregular, hsound, fun htask => absurd htask hempty, fun htask => absurd htask hempty,
      fun htask => absurd htask hempty⟩
  · intro past event world next hprefix _ h hstep
    refine h.step (fun id record hevent => hcalendar id record ?_) hstep
    rw [← hevent]
    exact hprefix.subset (by simp)

/-- A call keeps its request through a run, and its reply once it has one. -/
theorem run_keeps {id : Nat} {task : Task} (hrun : world.run events = some finish)
    (htask : world.tasks.find? id = some task) :
    ∃ task', finish.tasks.find? id = some task' ∧ task'.request = task.request ∧
      (task.reply? ≠ none → task' = task) := by
  refine fold_invariant (fun reached => ∃ task', reached.tasks.find? id = some task' ∧
    task'.request = task.request ∧ (task.reply? ≠ none → task' = task)) ?_
    ⟨task, htask, rfl, fun _ => rfl⟩ hrun
  rintro reached event next ⟨task', htask', hrequest, hover⟩ hstep
  obtain ⟨later, hlater, hsame, -, hkeeps⟩ := World.step_keeps hstep htask'
  refine ⟨later, hlater, hsame.trans hrequest, fun hreply => ?_⟩
  cases hover hreply
  exact hkeeps hreply

/-- However the steps of calls on a store of files follow one another, and whichever of them are
refused, a read that is over has found nothing, or a whole record of its key that was put or was
there in the beginning, unless a step of its own was refused; and no step of a write that fails
changes what is read for any key. -/
theorem run_untorn (hregular : start.disk.Regular) (hnone : start.tasks = .empty)
    (hwhole : ∀ key, start.disk.answer key = .ok none ∨
      ∃ record, start.disk.answer key = .ok (some record) ∧ record.key = key)
    (hcalendar : ∀ id record, .called id (.put record) ∈ events → record.insertedAt.InCalendar)
    (hrun : start.run events = some finish) :
    (∀ id key reply, finish.request? id = some (.get key) → finish.reply? id = some reply →
      ∃ answer, reply = .found answer ∧
        Answers (Given start events) (Refused events id) key answer) ∧
    (∀ id failure, finish.reply? id = some (.written (.error failure)) →
      ∀ past event rest before after, events = past ++ event :: rest →
        start.run past = some before → before.step event = some after → event.caller = id →
          ∀ key, after.disk.answer key = before.disk.answer key) := by
  have hsound : start.disk.Sound (Given start []) := by
    refine Disk.sound_of_answers fun key => (hwhole key).imp_right ?_
    rintro ⟨record, hanswer, rfl⟩
    exact ⟨record, hanswer, rfl, .inr hanswer⟩
  constructor
  · intro id key reply hrequest hreply
    obtain ⟨task, htask, hget⟩ := Option.map_eq_some_iff.1 hrequest
    obtain ⟨task', htask', hover⟩ := Option.bind_eq_some_iff.1 hreply
    cases htask.symm.trans htask'
    exact ((orderly_run hregular hsound hnone hcalendar hrun).stands htask).answers hget hover
  · rintro id failure hreply past event rest before after rfl hbefore hstep hcaller key
    obtain ⟨last, hlast, hover⟩ := Option.bind_eq_some_iff.1 hreply
    obtain ⟨record, hput⟩ :=
      ((orderly_run hregular hsound hnone hcalendar hrun).stands hlast).wrote hover
    obtain ⟨middle, hmiddle, hlater⟩ := fold_append.1 hrun
    cases hbefore.symm.trans hmiddle
    obtain ⟨middle, hmiddle, hafter⟩ := fold_cons.1 hlater
    cases hstep.symm.trans hmiddle
    have horderly := orderly_run hregular hsound hnone
      (fun id record hmem => hcalendar id record (List.mem_append_left _ hmem)) hbefore
    rcases World.step_cases hstep with ⟨other, request, rfl, -, rfl⟩ |
      ⟨other, action, task, task', disk', sequence', rfl, htask, hperform, rfl⟩
    · rfl
    · cases hcaller
      obtain ⟨hadvances, -⟩ := World.perform_advances (horderly.stands htask) horderly.regular
        horderly.sound (fun _ => trivial) (fun _ _ => trivial) hperform
      obtain ⟨task'', htask'', hsame, hkept⟩ := run_keeps hafter
        ((Table.find?_insert ..).trans (if_pos rfl))
      cases hlast.symm.trans htask''
      have hrequest : task.request = .put record :=
        (World.perform_request hperform).1.symm.trans (hsame.symm.trans hput)
      rcases hadvances.keeps record hrequest with hkeeps | hdone
      · exact hkeeps.answer_eq key
      · -- The last step of a write that succeeds: it would have replied so.
        cases hkept (by rw [hdone]; exact nofun)
        cases hdone.symm.trans hover

/-- A record that is written in two pieces, of which the second is refused. -/
def halfWritten : Record := ⟨.zeros, "half".toUTF8, ⟨0, 0⟩, 1000⟩

/-- A record that is written for the same key in the meantime. -/
def wholeWritten : Record := ⟨.zeros, "whole".toUTF8, ⟨1, 0⟩, 1000⟩

/-- Two writes for one key, one of which fails for want of space, and a read that begins before the
other one ends. -/
def tangle : List Event := [
  .called 0 (.put halfWritten), .called 1 (.put wholeWritten),
  .act 0 (.advance 0), .act 1 (.advance 0), .act 0 (.advance 0), .act 1 (.advance 0),
  .act 0 (.advance 3), .act 1 (.advance 200), .act 1 (.advance 0),
  .called 2 (.get .zeros), .act 1 (.advance 0), .act 2 (.advance 0),
  .act 0 (.refuse (.other "No space left on device (os error 28)")),
  .act 2 (.advance 100), .act 2 (.advance 200), .act 2 (.advance 0)]

/-- The calls on a store whose directory does not exist. -/
def untouched : World := { disk := {}, process := 7 }

/-- The key that is to be read. -/
def keyOfRead : StoreRequest → Option Key
  | .get key => some key
  | .put _ | .delete _ => none

/-- The record that is read. -/
def recordOfRead : StoreReply → Option Record
  | .found (.ok record) => record
  | .found (.error _) | .written _ | .removed _ => none

/-- Why a write has failed. -/
def failureOfWrite : StoreReply → Option Failure
  | .written (.error failure) => some failure
  | .written (.ok ()) | .found _ | .removed _ => none

theorem run_untorn_tangle : ∃ finish, untouched.run tangle = some finish ∧
    finish.reply? 2 = some (.found (.ok (some wholeWritten))) ∧
    Answers (Given untouched tangle) (Refused tangle 2) .zeros (.ok (some wholeWritten)) ∧
    (finish.reply? 0).bind failureOfWrite =
      some (.storageFault "write" "No space left on device (os error 28)") := by
  have hends : ((untouched.run tangle).map fun finish =>
      ((finish.request? 2).bind keyOfRead, (finish.reply? 2).bind recordOfRead,
        (finish.reply? 0).bind failureOfWrite)) =
      some (some .zeros, some wholeWritten,
        some (.storageFault "write" "No space left on device (os error 28)")) := by
    decide +kernel
  obtain ⟨finish, hrun, hend⟩ := Option.map_eq_some_iff.1 hends
  obtain ⟨hread, hend⟩ := Prod.mk.inj hend
  obtain ⟨hrecord, hfailed⟩ := Prod.mk.inj hend
  obtain ⟨request, hrequest, hkey⟩ := Option.bind_eq_some_iff.1 hread
  obtain ⟨reply, hreply, hrecord⟩ := Option.bind_eq_some_iff.1 hrecord
  have hregular : untouched.disk.Regular := ⟨nofun, nofun⟩
  have hcalendar : ∀ id record, Event.called id (.put record) ∈ tangle →
      record.insertedAt.InCalendar := by
    intro id record hmem
    have hrecord : record = halfWritten ∨ record = wholeWritten := by
      simp only [tangle, List.mem_cons, Event.called.injEq, StoreRequest.put.injEq, reduceCtorEq,
        List.not_mem_nil, and_false, or_false] at hmem
      exact hmem.imp And.right And.right
    rcases hrecord with rfl | rfl
    · exact ⟨by decide, by decide, by decide⟩
    · exact ⟨by decide, by decide, by decide⟩
  have hfound : reply = .found (.ok (some wholeWritten)) := by
    rcases reply with (_ | record) | answer | answer
    · cases hrecord
    · exact congrArg (fun record => StoreReply.found (.ok record)) hrecord
    · cases hrecord
    · cases hrecord
  subst hfound
  refine ⟨finish, hrun, hreply, ?_, hfailed⟩
  cases request with
  | get key =>
      cases hkey
      obtain ⟨answer, hanswer, hanswers⟩ :=
        (run_untorn hregular rfl (fun _ => .inl rfl) hcalendar hrun).1 2 .zeros _ hrequest hreply
      cases hanswer
      exact hanswers
  | put record => cases hkey
  | delete key => cases hkey

end Runs

end Overlap

end GameLibrary
