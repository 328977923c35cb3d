import GameLibrary.Proofs.Store.Available
import Mathlib.Logic.Function.Basic

/-!
# Disks

A program that has opened a file goes on with that file, whatever happens to its name. So a disk
keeps the content of each file under a number, and a name of the directory stands for a number. A
file can be written and read in pieces. Each operation is described by what it does to `file?`, the
number that a name stands for, and to the contents.

Where every file has one name, a disk that serves whole requests is a directory
(`Shows.serve`).
-/

namespace GameLibrary

open Function (update)

/-- What a name stands for on a disk. -/
inductive Node where
  | file (number : Nat)
  | directory
deriving DecidableEq, Repr

/-- What a node looks like in a directory. -/
def Node.entry (contents : Nat → List UInt8) : Node → DirectoryEntry
  | .file number => .file ⟨(contents number).toArray⟩
  | .directory => .directory

/-- The state of the place of a directory. -/
inductive Place where
  /-- Nothing is there, and the directory can be made. -/
  | absent
  | present (names : Table String Node)
  /-- The place is taken, so that every access fails. -/
  | blocked

/-- The state of a disk with one directory. -/
structure Disk where
  place : Place := .absent
  /-- The content of each file, under its number. -/
  contents : Nat → List UInt8 := fun _ => []
  /-- The number of the next file that is made. -/
  nextFile : Nat := 0

namespace Disk

/-- The number of the file that a name stands for. -/
def file? (disk : Disk) (name : String) : Except FileFault Nat :=
  match disk.place with
  | .absent => .error .notFound
  | .blocked => .error (.noDirectory name)
  | .present names =>
      match names.find? name with
      | some (.file number) => .ok number
      | some .directory => .error (.noFile name)
      | none => .error .notFound

/-- The content of a file. -/
def read (disk : Disk) (name : String) : Except FileFault ByteArray :=
  match disk.file? name with
  | .ok number => .ok ⟨(disk.contents number).toArray⟩
  | .error fault => .error fault

/-- Makes the directory, unless it exists. -/
def make (disk : Disk) : Except FileFault Unit × Disk :=
  match disk.place with
  | .absent => (.ok (), { disk with place := .present .empty })
  | .present _ => (.ok (), disk)
  | .blocked => (.error (.noDirectory "."), disk)

/-- The disk with another content of a file. -/
def withContent (disk : Disk) (number : Nat) (content : List UInt8) : Disk :=
  { disk with contents := update disk.contents number content }

/-- Opens a file to write it. The file is emptied, or made if no file has the name. -/
def openEmpty (disk : Disk) (name : String) : Except FileFault Nat × Disk :=
  match disk.place with
  | .absent => (.error .notFound, disk)
  | .blocked => (.error (.noDirectory name), disk)
  | .present names =>
      match names.find? name with
      | some .directory => (.error (.noFile name), disk)
      | some (.file number) => (.ok number, disk.withContent number [])
      | none =>
          (.ok disk.nextFile, {
            place := .present (names.insert name (.file disk.nextFile))
            contents := update disk.contents disk.nextFile []
            nextFile := disk.nextFile + 1 })

/-- The disk with other names in the directory, if that exists. -/
def withNames (disk : Disk) (change : Table String Node → Table String Node) : Disk :=
  match disk.place with
  | .present names => { disk with place := .present (change names) }
  | .absent | .blocked => disk

/-- Takes a name off its file. -/
def remove (disk : Disk) (name : String) : Except FileFault Unit × Disk :=
  match disk.file? name with
  | .ok _ => (.ok (), disk.withNames (·.erase name))
  | .error fault => (.error fault, disk)

/-- Gives a file a new name, in place of the file of that name. -/
def rename (disk : Disk) (source target : String) : Except FileFault Unit × Disk :=
  match disk.file? source with
  | .error fault => (.error fault, disk)
  | .ok number =>
      if source = target then (.ok (), disk)
      else
        match disk.file? target with
        | .error (.other cause) => (.error (.other cause), disk)
        | .error .notFound | .ok _ =>
            (.ok (), disk.withNames fun names => (names.insert target (.file number)).erase source)

/-- Writes a whole file. -/
def write (disk : Disk) (name : String) (content : ByteArray) : Except FileFault Unit × Disk :=
  match disk.openEmpty name with
  | (.ok number, opened) => (.ok (), opened.withContent number content.data.toList)
  | (.error fault, same) => (.error fault, same)

/-- Serves a whole request. -/
def serve (disk : Disk) : (request : FileRequest) → request.Answer × Disk
  | .makeDirectory => disk.make
  | .read name => (disk.read name, disk)
  | .write name content => disk.write name content
  | .rename source target => disk.rename source target
  | .remove name => disk.remove name

/-- A content after some bytes were written at a place in it; a gap before them is filled with
zeros. -/
def writeAt (content : List UInt8) (offset : Nat) (piece : List UInt8) : List UInt8 :=
  (content ++ List.replicate (offset - content.length) 0).take offset ++ piece ++
    content.drop (offset + piece.length)

/-- What is written at the end of a content comes behind it. -/
theorem write_at_length (content piece : List UInt8) :
    writeAt content content.length piece = content ++ piece := by
  unfold writeAt
  simp

end Disk

/-- Serves a whole program on a disk. -/
def FileProgram.serve {α : Type} : FileProgram α → Disk → α × Disk
  | done result, disk => (result, disk)
  | ask request next, disk => (next (disk.serve request).1).serve (disk.serve request).2

namespace Disk

variable {disk : Disk} {name other source target : String} {number : Nat}

/-- A disk on which every file has one name at most. -/
structure Regular (disk : Disk) : Prop where
  single : ∀ {name other number}, disk.file? name = .ok number → disk.file? other = .ok number →
    name = other
  /-- The next file is a new one. -/
  below : ∀ {name number}, disk.file? name = .ok number → number < disk.nextFile

section Operations

theorem file?_eq_ok : disk.file? name = .ok number ↔
    ∃ names, disk.place = .present names ∧ names.find? name = some (.file number) := by
  unfold file?
  cases disk.place with
  | absent | blocked => simp
  | present names =>
      cases hfound : names.find? name with
      | none => simp [hfound]
      | some node => cases node <;> simp [hfound]

/-- Making the directory makes no file. -/
@[simp] theorem file?_make (disk : Disk) (name : String) :
    disk.make.2.file? name = disk.file? name := by
  unfold make
  cases hplace : disk.place with
  | absent =>
      unfold file?
      rw [hplace]
      rfl
  | present | blocked => rfl

@[simp] theorem contents_make (disk : Disk) : disk.make.2.contents = disk.contents := by
  unfold make
  cases disk.place <;> rfl

@[simp] theorem next_file_make (disk : Disk) : disk.make.2.nextFile = disk.nextFile := by
  unfold make
  cases disk.place <;> rfl

@[simp] theorem file?_with_content (disk : Disk) (number : Nat) (content : List UInt8)
    (name : String) : (disk.withContent number content).file? name = disk.file? name := rfl

/-- What opening a file to write it does. -/
structure Opens (disk : Disk) (name : String) (number : Nat) (opened : Disk) : Prop where
  file?_eq : ∀ other, opened.file? other = if other = name then .ok number else disk.file? other
  contents_eq : opened.contents = update disk.contents number []
  /-- The file is the one of the name, or a new one. -/
  origin : disk.file? name = .ok number ∧ opened.nextFile = disk.nextFile ∨
    disk.file? name = .error .notFound ∧ number = disk.nextFile ∧
      opened.nextFile = disk.nextFile + 1

theorem opens_of_open_empty {opened : Disk} (h : disk.openEmpty name = (.ok number, opened)) :
    disk.Opens name number opened := by
  unfold openEmpty at h
  cases hplace : disk.place with
  | absent | blocked =>
      rw [hplace] at h
      cases h
  | present names =>
      rw [hplace] at h
      dsimp only at h
      split at h
      · cases h
      · rename_i found hfound
        cases h
        have hfile : disk.file? name = .ok number := file?_eq_ok.2 ⟨names, hplace, hfound⟩
        refine ⟨fun other => ?_, rfl, .inl ⟨hfile, rfl⟩⟩
        rw [file?_with_content]
        split
        · rename_i hother
          rw [hother, hfile]
        · rfl
      · rename_i hfound
        cases h
        have hfile : disk.file? name = .error .notFound := by
          unfold file?
          rw [hplace]
          dsimp only
          rw [hfound]
        refine ⟨fun other => ?_, rfl, .inr ⟨hfile, rfl, rfl⟩⟩
        unfold file?
        rw [hplace]
        dsimp only
        rw [Table.find?_insert]
        by_cases hother : other = name
        · simp [hother]
        · simp [hother]

/-- A file that cannot be opened leaves the disk as it is. -/
theorem open_empty_error {fault : FileFault} {opened : Disk}
    (h : disk.openEmpty name = (.error fault, opened)) : opened = disk := by
  unfold openEmpty at h
  split at h
  · cases h
    rfl
  · cases h
    rfl
  · split at h <;> cases h
    rfl

/-- What a change of the names does to the file of a name. -/
theorem file?_with_names {names : Table String Node} (hplace : disk.place = .present names)
    (change : Table String Node → Table String Node) (name : String) :
    (disk.withNames change).file? name =
      match (change names).find? name with
      | some (.file number) => .ok number
      | some .directory => .error (.noFile name)
      | none => .error .notFound := by
  unfold withNames file?
  rw [hplace]

@[simp] theorem contents_with_names (disk : Disk)
    (change : Table String Node → Table String Node) :
    (disk.withNames change).contents = disk.contents := by
  unfold withNames
  split <;> rfl

@[simp] theorem next_file_with_names (disk : Disk)
    (change : Table String Node → Table String Node) :
    (disk.withNames change).nextFile = disk.nextFile := by
  unfold withNames
  split <;> rfl

/-- A removal takes the name off, or fails and leaves the disk as it is. -/
theorem remove_cases (disk : Disk) (name : String) :
    (∃ fault, disk.remove name = (.error fault, disk)) ∨
      (disk.remove name).1 = .ok () ∧
        (∀ other, (disk.remove name).2.file? other =
          if other = name then .error .notFound else disk.file? other) ∧
        (disk.remove name).2.contents = disk.contents ∧
        (disk.remove name).2.nextFile = disk.nextFile := by
  unfold remove
  cases hfile : disk.file? name with
  | error fault => exact .inl ⟨fault, rfl⟩
  | ok number =>
      obtain ⟨names, hplace, -⟩ := file?_eq_ok.1 hfile
      refine .inr ⟨rfl, fun other => ?_, contents_with_names .., next_file_with_names ..⟩
      dsimp only
      rw [file?_with_names hplace, Table.find?_erase]
      by_cases hother : other = name
      · simp [hother]
      · simp [hother, file?, hplace]

/-- A renaming gives the file the other name, or fails and leaves the disk as it is. -/
theorem rename_cases (disk : Disk) (hne : source ≠ target) :
    (∃ fault, disk.rename source target = (.error fault, disk)) ∨
      (disk.rename source target).1 = .ok () ∧ ∃ number, disk.file? source = .ok number ∧
        (∀ other, (disk.rename source target).2.file? other =
          if other = source then .error .notFound
          else if other = target then .ok number else disk.file? other) ∧
        (disk.rename source target).2.contents = disk.contents ∧
        (disk.rename source target).2.nextFile = disk.nextFile := by
  unfold rename
  cases hfile : disk.file? source with
  | error fault => exact .inl ⟨fault, rfl⟩
  | ok number =>
      obtain ⟨names, hplace, -⟩ := file?_eq_ok.1 hfile
      have hrenamed : ∀ other, (disk.withNames fun names =>
          (names.insert target (.file number)).erase source).file? other =
            if other = source then .error .notFound
            else if other = target then .ok number else disk.file? other := by
        intro other
        rw [file?_with_names hplace, Table.find?_erase, Table.find?_insert]
        by_cases hother : other = source
        · simp [hother]
        · by_cases htarget : other = target
          · simp [htarget, hne.symm]
          · simp [hother, htarget, file?, hplace]
      dsimp only
      rw [if_neg hne]
      split
      · exact .inl ⟨_, rfl⟩
      · exact .inr ⟨rfl, number, rfl, hrenamed, contents_with_names .., next_file_with_names ..⟩
      · exact .inr ⟨rfl, number, rfl, hrenamed, contents_with_names .., next_file_with_names ..⟩

end Operations

section Regularity

variable (h : disk.Regular)
include h

theorem Regular.make : disk.make.2.Regular := by
  constructor
  case single =>
    intro first second number hfirst hsecond
    rw [file?_make] at hfirst hsecond
    exact h.single hfirst hsecond
  case below =>
    intro name number hname
    rw [file?_make] at hname
    rw [next_file_make]
    exact h.below hname

theorem Regular.with_content (number : Nat) (content : List UInt8) :
    (disk.withContent number content).Regular :=
  ⟨h.single, h.below⟩

theorem Regular.opened {opened : Disk} (hopens : disk.Opens name number opened) :
    opened.Regular := by
  -- A new file has no other name, and an old one has none but its own.
  have hown : ∀ {other}, disk.file? other = .ok number → other = name := by
    intro other hother
    rcases hopens.origin with ⟨hname, -⟩ | ⟨-, rfl, -⟩
    · exact h.single hother hname
    · exact absurd (h.below hother) (Nat.lt_irrefl _)
  have hnext : number < opened.nextFile ∧ disk.nextFile ≤ opened.nextFile := by
    rcases hopens.origin with ⟨hname, hnext⟩ | ⟨-, rfl, hnext⟩
    · rw [hnext]
      exact ⟨h.below hname, Nat.le_refl _⟩
    · rw [hnext]
      exact ⟨Nat.lt_succ_self _, Nat.le_succ _⟩
  constructor
  case single =>
    intro first second found hfirst hsecond
    rw [hopens.file?_eq] at hfirst hsecond
    split at hfirst <;> split at hsecond
    · rename_i heq heq'
      exact heq.trans heq'.symm
    · rename_i heq _
      cases hfirst
      exact heq.trans (hown hsecond).symm
    · rename_i _ heq
      cases hsecond
      exact (hown hfirst).trans heq.symm
    · exact h.single hfirst hsecond
  case below =>
    intro other found hfound
    rw [hopens.file?_eq] at hfound
    split at hfound
    · cases hfound
      exact hnext.1
    · exact Nat.lt_of_lt_of_le (h.below hfound) hnext.2

theorem Regular.remove (name : String) : (disk.remove name).2.Regular := by
  rcases disk.remove_cases name with ⟨fault, hsame⟩ | ⟨-, hfile, -, hnext⟩
  · rw [hsame]
    exact h
  · have hbefore : ∀ {other number}, (disk.remove name).2.file? other = .ok number →
        disk.file? other = .ok number := by
      intro other number hother
      rw [hfile] at hother
      split at hother
      · cases hother
      · exact hother
    refine ⟨fun hfirst hsecond => h.single (hbefore hfirst) (hbefore hsecond), fun hother => ?_⟩
    rw [hnext]
    exact h.below (hbefore hother)

theorem Regular.rename (hne : source ≠ target) : (disk.rename source target).2.Regular := by
  rcases disk.rename_cases hne with ⟨fault, hsame⟩ | ⟨-, number, hsource, hfile, -, hnext⟩
  · rw [hsame]
    exact h
  · constructor
    case single =>
      intro first second found hfirst hsecond
      rw [hfile] at hfirst hsecond
      split at hfirst
      · cases hfirst
      split at hsecond
      · cases hsecond
      rename_i hnot hnot'
      split at hfirst <;> split at hsecond
      · rename_i heq heq'
        exact heq.trans heq'.symm
      · cases hfirst
        exact absurd (h.single hsecond hsource) hnot'
      · cases hsecond
        exact absurd (h.single hfirst hsource) hnot
      · exact h.single hfirst hsecond
    case below =>
      intro other found hother
      rw [hnext]
      rw [hfile] at hother
      split at hother
      · cases hother
      split at hother
      · cases hother
        exact h.below hsource
      · exact h.below hother

end Regularity

section Directories

variable {directory : Directory}

/-- The directory is what the disk shows: every name stands for a file with the same content. -/
def Shows (disk : Disk) : Directory → Prop
  | .absent => disk.place = .absent
  | .blocked => disk.place = .blocked
  | .present entries => ∃ names, disk.place = .present names ∧
      ∀ name, entries.find? name = (names.find? name).map (Node.entry disk.contents)

theorem Shows.read (h : disk.Shows directory) (name : String) :
    disk.read name = directory.read name := by
  unfold Disk.read file? Directory.read Directory.entry
  cases directory with
  | absent | blocked =>
      have hplace := show disk.place = _ from h
      rw [hplace]
  | present entries =>
      obtain ⟨names, hplace, hentries⟩ := h
      rw [hplace]
      dsimp only
      rw [hentries]
      cases names.find? name with
      | none => rfl
      | some node => cases node <;> rfl

/-- A name stands for a file on the disk if it does in the directory. -/
theorem Shows.file? (h : disk.Shows directory) (name : String) :
    (∃ number, disk.file? name = .ok number ∧
        directory.read name = .ok ⟨(disk.contents number).toArray⟩) ∨
      ∃ fault, disk.file? name = .error fault ∧ directory.read name = .error fault := by
  rw [← h.read]
  unfold Disk.read
  cases disk.file? name with
  | ok number => exact .inl ⟨number, rfl, rfl⟩
  | error fault => exact .inr ⟨fault, rfl, rfl⟩

theorem Shows.make (h : disk.Shows directory) :
    disk.make.1 = directory.make.1 ∧ disk.make.2.Shows directory.make.2 := by
  unfold Disk.make Directory.make
  cases directory with
  | absent =>
      have hplace := show disk.place = _ from h
      rw [hplace]
      exact ⟨rfl, .empty, rfl, fun _ => rfl⟩
  | blocked =>
      have hplace := show disk.place = _ from h
      rw [hplace]
      exact ⟨rfl, hplace⟩
  | present entries =>
      obtain ⟨names, hplace, hentries⟩ := h
      rw [hplace]
      exact ⟨rfl, names, hplace, hentries⟩

theorem Shows.remove (h : disk.Shows directory) (name : String) :
    (disk.remove name).1 = (directory.remove name).1 ∧
      (disk.remove name).2.Shows (directory.remove name).2 := by
  unfold Disk.remove Directory.remove
  rcases h.file? name with ⟨number, hfile, hread⟩ | ⟨fault, hfile, hread⟩
  · obtain ⟨names, hplace, -⟩ := file?_eq_ok.1 hfile
    rw [hfile, hread]
    cases directory with
    | absent | blocked =>
        have hother := show disk.place = _ from h
        rw [hplace] at hother
        cases hother
    | present entries =>
        obtain ⟨names', hplace', hentries⟩ := h
        cases hplace.symm.trans hplace'
        refine ⟨rfl, names.erase name, ?_, fun other => ?_⟩
        · unfold withNames
          rw [hplace]
        · dsimp only
          rw [Table.find?_erase, Table.find?_erase, contents_with_names, hentries]
          split <;> rfl
  · rw [hfile, hread]
    cases directory <;> exact ⟨rfl, h⟩

/-- A directory in which a file is found is there. -/
theorem Shows.present (h : disk.Shows directory) (hfile : disk.file? name = .ok number) :
    ∃ names entries, disk.place = .present names ∧ directory = .present entries ∧
      names.find? name = some (.file number) ∧
      ∀ name, entries.find? name = (names.find? name).map (Node.entry disk.contents) := by
  obtain ⟨names, hplace, hfound⟩ := file?_eq_ok.1 hfile
  cases directory with
  | absent | blocked =>
      have hother := show disk.place = _ from h
      rw [hplace] at hother
      cases hother
  | present entries =>
      obtain ⟨names', hplace', hentries⟩ := h
      cases hplace.symm.trans hplace'
      exact ⟨names, entries, hplace, rfl, hfound, hentries⟩

theorem Shows.rename (h : disk.Shows directory) (source target : String) :
    (disk.rename source target).1 = (directory.rename source target).1 ∧
      (disk.rename source target).2.Shows (directory.rename source target).2 := by
  unfold Disk.rename Directory.rename
  rcases h.file? source with ⟨number, hfile, hread⟩ | ⟨fault, hfile, hread⟩
  · rw [hfile, hread]
    dsimp only
    by_cases hsame : source = target
    · rw [if_pos hsame, if_pos hsame]
      exact ⟨rfl, h⟩
    · rw [if_neg hsame, if_neg hsame]
      obtain ⟨names, entries, hplace, rfl, hfound, hentries⟩ := h.present hfile
      have hsource : entries.find? source = some (.file ⟨(disk.contents number).toArray⟩) := by
        rw [hentries, hfound]
        rfl
      have hrenamed : (disk.withNames fun names =>
          (names.insert target (.file number)).erase source).Shows (.present ((entries.insert target
            (.file ⟨(disk.contents number).toArray⟩)).erase source)) := by
        unfold withNames
        rw [hplace]
        refine ⟨_, rfl, fun other => ?_⟩
        rw [Table.find?_erase, Table.find?_erase, Table.find?_insert, Table.find?_insert, hentries]
        split
        · rfl
        · split <;> rfl
      -- The directory writes the target and removes the source.
      have hremoved : ((Directory.present (entries.insert target
          (.file ⟨(disk.contents number).toArray⟩))).remove source).2 =
          .present ((entries.insert target
            (.file ⟨(disk.contents number).toArray⟩)).erase source) := by
        have hstill : (Directory.present (entries.insert target
            (.file ⟨(disk.contents number).toArray⟩))).read source =
              .ok ⟨(disk.contents number).toArray⟩ := by
          refine Directory.read_of_find? ?_
          rw [Table.find?_insert, if_neg hsame, hsource]
        unfold Directory.remove
        rw [hstill]
      unfold Disk.file? Directory.write
      rw [hplace]
      dsimp only
      rw [hentries]
      cases names.find? target with
      | none => exact ⟨rfl, hremoved ▸ hrenamed⟩
      | some node =>
          cases node with
          | directory => exact ⟨rfl, h⟩
          | file old => exact ⟨rfl, hremoved ▸ hrenamed⟩
  · rw [hfile, hread]
    exact ⟨rfl, h⟩

/-- Writing a whole file is opening it and putting the content into it. -/
theorem Shows.write (h : disk.Shows directory) (hregular : disk.Regular) (name : String)
    (content : ByteArray) :
    (disk.write name content).1 = (directory.write name content).1 ∧
      (disk.write name content).2.Shows (directory.write name content).2 := by
  unfold Disk.write openEmpty Directory.write
  cases directory with
  | absent | blocked =>
      have hplace := show disk.place = _ from h
      rw [hplace]
      exact ⟨rfl, h⟩
  | present entries =>
      obtain ⟨names, hplace, hentries⟩ := h
      have hfile : ∀ {other number}, names.find? other = some (.file number) →
          disk.file? other = .ok number :=
        fun hfound => file?_eq_ok.2 ⟨names, hplace, hfound⟩
      -- The new content of the file shows under its name, and under no other.
      have hshown : ∀ {changed : Table String Node} {number : Nat},
          (∀ other, changed.find? other =
            if other = name then some (.file number) else names.find? other) →
          (∀ other, names.find? other = some (.file number) → other = name) →
          ∀ other, (entries.insert name (.file content)).find? other =
            (changed.find? other).map (Node.entry
              (update (update disk.contents number []) number content.data.toList)) := by
        intro changed number hchanged hown other
        rw [Table.find?_insert, hchanged]
        by_cases hother : other = name
        · simp [hother, Node.entry]
        · rw [if_neg hother, if_neg hother, hentries]
          cases hfound : names.find? other with
          | none => rfl
          | some node =>
              cases node with
              | directory => rfl
              | file found =>
                  have hne : found ≠ number := by
                    rintro rfl
                    exact hother (hown other hfound)
                  simp [Node.entry, hne]
      rw [hplace]
      dsimp only
      rw [hentries]
      cases hfound : names.find? name with
      | none =>
          refine ⟨rfl, _, rfl, hshown (fun other => Table.find?_insert ..) fun other hother => ?_⟩
          exact absurd (hregular.below (hfile hother)) (Nat.lt_irrefl _)
      | some node =>
          cases node with
          | directory => exact ⟨rfl, names, hplace, hentries⟩
          | file number =>
              refine ⟨rfl, names, hplace, hshown (fun other => ?_) fun other hother => ?_⟩
              · split
                · rename_i hother
                  rw [hother, hfound]
                · rfl
              · exact hregular.single (hfile hother) (hfile hfound)

/-- A disk serves a request as the directory that it shows. -/
theorem Shows.serve (h : disk.Shows directory) (hregular : disk.Regular) (request : FileRequest) :
    (disk.serve request).1 = (directory.serve request).1 ∧
      (disk.serve request).2.Shows (directory.serve request).2 ∧
      (disk.serve request).2.Regular := by
  cases request with
  | makeDirectory => exact ⟨h.make.1, h.make.2, hregular.make⟩
  | read name => exact ⟨h.read name, h, hregular⟩
  | write name content =>
      obtain ⟨hanswer, hshows⟩ := h.write hregular name content
      refine ⟨hanswer, hshows, ?_⟩
      show (disk.write name content).2.Regular
      unfold Disk.write
      split
      · rename_i number opened hopened
        exact (hregular.opened (opens_of_open_empty hopened)).with_content ..
      · rename_i fault same hrefused
        rw [open_empty_error hrefused]
        exact hregular
  | rename source target =>
      obtain ⟨hanswer, hshows⟩ := h.rename source target
      refine ⟨hanswer, hshows, ?_⟩
      by_cases hne : source = target
      · show (disk.rename source target).2.Regular
        unfold Disk.rename
        split
        · exact hregular
        · rw [if_pos hne]
          exact hregular
      · exact hregular.rename hne
  | remove name => exact ⟨(h.remove name).1, (h.remove name).2, hregular.remove name⟩

end Directories

end Disk

/-- A disk serves a whole program as the directory that it shows. -/
theorem FileProgram.serve_eq_run {α : Type} {disk : Disk} {directory : Directory}
    (program : FileProgram α) (h : disk.Shows directory) (hregular : disk.Regular) :
    (program.serve disk).1 = (program.run directory).1 ∧
      (program.serve disk).2.Shows (program.run directory).2 := by
  induction program generalizing disk directory with
  | done result => exact ⟨rfl, h⟩
  | ask request next ih =>
      obtain ⟨hanswer, hshows, hafter⟩ := h.serve hregular request
      unfold FileProgram.serve FileProgram.run
      dsimp only
      rw [hanswer]
      exact ih _ hshows hafter

end GameLibrary
