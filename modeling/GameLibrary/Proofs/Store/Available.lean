import GameLibrary.Proofs.Store.Codec
import GameLibrary.Proofs.Store.Lawful
import GameLibrary.Proofs.Store.Lifetime
import GameLibrary.Store.Files

/-!
# Stores that are always there

A store is available if it serves every request: what is written is found again, and stays until it
is written over or removed. A store in memory is available unless it is switched off. A store of
files is available if nothing is in the way of its files, and records can be written there if they
are read back from their own text (`Record.Writable.read_back`); all records of the durable tier are
such.
-/

namespace GameLibrary

open Json (Tree treeOf)

/-- A reading of the clock that is one of the calendar. -/
def Instant.InCalendar (now : Instant) : Prop := (Timestamp.ofInstant now).InCalendar

/-- What was before an instant of the calendar was one of the calendar. -/
theorem Instant.InCalendar.mono {early late : Instant} (h : late.InCalendar) (hle : early ≤ late) :
    early.InCalendar := by
  have hlater : early.nanoseconds ≤ late.nanoseconds := hle
  have hlast := h.last
  refine ⟨?_, ?_, ?_⟩
  · refine Int.le_trans (b := 0) (by decide) ?_
    rw [Int.fdiv_eq_ediv_of_nonneg _ (by decide)]
    exact Int.ediv_nonneg (Int.ediv_nonneg (Int.natCast_nonneg _) (by decide)) (by decide)
  · refine Int.le_trans ?_ hlast
    rw [Int.fdiv_eq_ediv_of_nonneg _ (by decide), Int.fdiv_eq_ediv_of_nonneg _ (by decide)]
    refine Int.ediv_le_ediv (by decide) ?_
    simp only [Timestamp.ofInstant]
    omega
  · show early.nanoseconds % 1000000000 < 2000000000
    omega

namespace Record

variable {record : Record}

/-- A record with a payload that is text, stamped with a reading of the clock. -/
structure Writable (record : Record) : Prop where
  text : ∃ text : String, record.payload = text.toUTF8
  stamped : ∃ now : Instant, now.InCalendar ∧ record.insertedAt = .ofInstant now

/-- What the durable tier writes can be written. -/
theorem writable_record {ν : Type} [Payload ν] {now : Instant} (h : now.InCalendar)
    (config : Durable.Config) (key : Key) (value : ν) :
    (Durable.record config now key value).Writable :=
  ⟨⟨_, rfl⟩, now, h, rfl⟩

/-- A record that can be written is read back: its time is that of a clock, which is never within a
leap second. -/
theorem Writable.read_back (h : record.Writable) : record.ReadBack := by
  obtain ⟨htext, now, hcalendar, hstamp⟩ := h
  refine read_back_of_text htext ?_
  rw [hstamp, Timestamp.of_text_text hcalendar, Timestamp.as_read_eq_self]
  left
  show now.nanoseconds % 1000000000 < 1000000000
  omega

end Record

/-- The record of a value is fresh for the whole milliseconds that the settings say, at any time of
the calendar: so long a time is within the limit of records. -/
theorem Durable.finding_record {ν : Type} [Payload ν] {config : Config} {written now : Instant}
    {value found : ν} (hback : Payload.decode (Payload.encode value) = .ok found)
    (hfresh : now ≤ written.after config.floor) (hcalendar : now.InCalendar) (key : Key) :
    finding config now key (.ok (some (record config written key value))) =
      .usable (.fresh found) := by
  have hage := Record.age_eq_since (inserted_at_record config written key value) now
  have hwithin : now.nanoseconds ≤ written.nanoseconds + config.floor.nanoseconds := hfresh
  have hshort : now.nanoseconds < 0xffffffffffffffff * 1000000 := by
    have hlast : ((now.nanoseconds : Int) / 1000000000).fdiv 86400 ≤
        (CivilDate.mk 262142 12 31).dayNumber := hcalendar.last
    have hday : (CivilDate.mk 262142 12 31).dayNumber = 95026236 := by decide
    rw [hday, Int.fdiv_eq_ediv_of_nonneg _ (by decide)] at hlast
    omega
  have httl : (record config written key value).ttl.nanoseconds =
      min config.ttl.wholeMilliseconds 0xffffffffffffffff * 1000000 := by
    show (UInt64.ofNat (min config.ttl.wholeMilliseconds 0xffffffffffffffff)).toNat * 1000000 = _
    rw [UInt64.toNat_ofNat', Nat.mod_eq_of_lt (by omega)]
  have hyoung : (now.since written).nanoseconds ≤
      (record config written key value).ttl.nanoseconds := by
    have hfloor : config.floor.nanoseconds = config.ttl.wholeMilliseconds * 1000000 := rfl
    show now.nanoseconds - written.nanoseconds ≤ _
    omega
  have hexpired : (record config written key value).isExpired now = false := by
    unfold Record.isExpired
    rw [hage]
    exact decide_eq_false (Nat.not_lt.2 hyoung)
  have hgrace : (record config written key value).isPastGrace now config.grace = false := by
    unfold Record.isPastGrace
    rw [hage]
    refine decide_eq_false (Nat.not_lt.2 (Nat.le_min.2 ⟨?_, ?_⟩))
    · exact Nat.le_trans hyoung (Nat.le_add_right _ _)
    · show _ ≤ 0x10000000000000000 * 1000000000 - 1
      omega
  have hkey : (record config written key value).key = key := rfl
  have hdecode : Payload.decode (record config written key value).payload = .ok found := hback
  unfold finding
  dsimp only
  rw [if_neg (Decidable.not_not.2 hkey), hgrace, if_neg (by decide), hdecode, hexpired]
  rfl

/-- A store that serves every request, as long as nothing has happened to it from outside. -/
class AvailableBackend (σ : Type) [Backend σ] where
  Available : σ → Prop
  available_get : ∀ {store}, Available store → ∀ key, Available (Backend.get store key).2
  available_put : ∀ {store record}, Available store → record.Writable →
    Available (Backend.put store record).2
  available_delete : ∀ {store}, Available store → ∀ key, Available (Backend.delete store key).2
  put_ok : ∀ {store record}, Available store → record.Writable →
    (Backend.put store record).1 = .ok ()
  get_get : ∀ {store}, Available store → ∀ key other,
    (Backend.get (Backend.get store other).2 key).1 = (Backend.get store key).1
  get_put : ∀ {store record}, Available store → record.Writable → ∀ key,
    (Backend.get (Backend.put store record).2 key).1 =
      if key = record.key then .ok (some record) else (Backend.get store key).1
  get_delete : ∀ {store}, Available store → ∀ {key other}, key ≠ other →
    (Backend.get (Backend.delete store other).2 key).1 = (Backend.get store key).1

namespace MemoryStore

variable {store : MemoryStore} (honline : store.offline = false)
include honline

/-- A store in memory that is not switched off answers with what is in its table. -/
theorem read_online (key : Key) : (Backend.get store key).1 = .ok (store.records.find? key) := by
  rw [get_online honline]

theorem online_get (key : Key) : (Backend.get store key).2.offline = false := by
  rw [get_online honline]
  exact honline

theorem online_put (record : Record) : (Backend.put store record).2.offline = false := by
  rw [put_online honline]
  exact honline

theorem online_delete (key : Key) : (Backend.delete store key).2.offline = false := by
  rw [delete_online honline]
  exact honline

end MemoryStore

open MemoryStore in
/-- A store in memory is available as long as it is not switched off. -/
instance : AvailableBackend MemoryStore where
  Available store := store.offline = false
  available_get := online_get
  available_put honline _ := online_put honline _
  available_delete := online_delete
  put_ok honline _ := by
    rw [put_online honline]
  get_get honline key other := by
    rw [read_online (online_get honline other), read_online honline, get_online honline]
  get_put {store record} honline _ key := by
    rw [read_online (online_put honline record), read_online honline, put_online honline]
    dsimp only
    rw [Table.find?_insert]
    split <;> rfl
  get_delete {store} honline key other hne := by
    rw [read_online (online_delete honline other), read_online honline, delete_online honline]
    dsimp only
    rw [Table.find?_erase, if_neg hne]

namespace Directory

variable {entries : Table String DirectoryEntry} {name other source target : String}
  {content : ByteArray}

/-- Nothing is in the way of files: the directory is there or can be made, and no directory has the
name of a file. -/
def Clear : Directory → Prop
  | absent => True
  | blocked => False
  | present entries => ∀ name, entries.find? name ≠ some .directory

/-- What is read from the files of a directory. -/
theorem read_of_find? (hfile : entries.find? name = some (.file content)) :
    (present entries).read name = .ok content := by
  unfold read entry
  dsimp only
  rw [hfile]

/-- What is read depends on the entry with the name. -/
theorem read_congr {entries' : Table String DirectoryEntry}
    (h : entries.find? name = entries'.find? name) :
    (present entries).read name = (present entries').read name := by
  unfold read entry
  dsimp only
  rw [h]

/-- A directory that can be made has nothing to read. -/
theorem read_absent (name : String) : absent.read name = (present .empty).read name := rfl

/-- A directory that can be made is as good as one without files. -/
theorem Clear.make {directory : Directory} (h : directory.Clear) : ∃ entries,
    directory.make = (.ok (), present entries) ∧ (present entries).Clear ∧
      ∀ name, directory.read name = (present entries).read name := by
  cases directory with
  | absent => exact ⟨.empty, rfl, nofun, read_absent⟩
  | blocked => exact h.elim
  | present entries => exact ⟨entries, rfl, h, fun _ => rfl⟩

/-- A file can be written where nothing is in the way. -/
theorem Clear.write (h : (present entries).Clear) (name : String) (content : ByteArray) :
    (present entries).write name content =
        (.ok (), present (entries.insert name (.file content))) ∧
      (present (entries.insert name (.file content))).Clear := by
  constructor
  · unfold Directory.write
    dsimp only
    split
    · rename_i hdirectory
      exact absurd hdirectory (h name)
    · rfl
  · intro other
    rw [Table.find?_insert]
    split
    · rintro ⟨⟩
    · exact h other

/-- Nothing comes in the way by a removal. -/
theorem Clear.erase (h : (present entries).Clear) (name : String) :
    (present (entries.erase name)).Clear := by
  intro other
  rw [Table.find?_erase]
  split
  · rintro ⟨⟩
  · exact h other

/-- A file can be given a new name where nothing is in the way. -/
theorem Clear.rename (h : (present entries).Clear)
    (hfile : entries.find? source = some (.file content)) (hne : source ≠ target) :
    (present entries).rename source target =
      (.ok (), present ((entries.insert target (.file content)).erase source)) := by
  have hstill : (entries.insert target (.file content)).find? source = some (.file content) := by
    rw [Table.find?_insert, if_neg hne, hfile]
  unfold Directory.rename
  rw [read_of_find? hfile]
  dsimp only
  rw [if_neg hne, (h.write target content).1]
  unfold Directory.remove
  dsimp only
  rw [read_of_find? hstill]

/-- A removal leaves the directory clear, and all other files as they were. -/
theorem Clear.remove {directory : Directory} (h : directory.Clear) (name : String) :
    (directory.remove name).2.Clear ∧
      ∀ other, other ≠ name → (directory.remove name).2.read other = directory.read other := by
  unfold Directory.remove
  split
  · refine ⟨h.erase name, fun other hne => read_congr ?_⟩
    rw [Table.find?_erase, if_neg hne]
  · exact ⟨h, fun _ _ => rfl⟩
  · exact ⟨h, fun _ _ => rfl⟩

end Directory

namespace FileStore

open Directory (present)

/-- The file of a key tells the key. -/
theorem file_name_inj {key other : Key} (h : fileName key = fileName other) : key = other := by
  have htext : key.text = other.text := String.append_left_inj _ |>.1 h
  cases key
  cases other
  cases htext
  rfl

/-- No temporary file has the name of a key's file. -/
theorem temporary_name_ne (key other : Key) (process sequence : Nat) :
    temporaryName key process sequence ≠ fileName other := by
  intro h
  have hlength := congrArg String.length h
  have hkey : ∀ key : Key, (fileName key).length = 69 := by
    intro key
    unfold fileName
    rw [String.length_append, key.length_text]
    rfl
  unfold temporaryName at hlength
  simp only [String.length_append, hkey] at hlength
  have hmark : ".tmp-".length = 5 := rfl
  omega

section Programs

variable {directory : Directory} {key other : Key} {record : Record}

/-- A read leaves the directory as it is. -/
theorem run_get (key : Key) (directory : Directory) : ((get key).run directory).2 = directory := by
  unfold get FileProgram.run
  dsimp only [Directory.serve]
  split <;> rfl

/-- The answer to a read depends on the file of the key. -/
theorem run_get_congr {directory' : Directory}
    (h : directory.read (fileName key) = directory'.read (fileName key)) :
    ((get key).run directory).1 = ((get key).run directory').1 := by
  unfold get FileProgram.run
  dsimp only [Directory.serve]
  rw [h]
  split <;> rfl

/-- A record is read from the file of its key. -/
theorem run_get_of_file {content : ByteArray} (hfile : directory.read (fileName key) = .ok content)
    (hrecord : Record.ofBytes? content = some record) :
    ((get key).run directory).1 = .ok (some record) := by
  unfold get FileProgram.run
  dsimp only [Directory.serve]
  rw [hfile]
  dsimp only
  rw [hrecord]
  rfl

/-- A removal is the removal of the file of the key. -/
theorem run_delete (key : Key) (directory : Directory) :
    ((delete key).run directory).2 = (directory.remove (fileName key)).2 := by
  unfold delete FileProgram.run
  dsimp only [Directory.serve]
  split <;> rfl

/-- What a write of a record does to a directory where nothing is in its way. -/
structure Writes (record : Record) (temporary : String) (before after : Directory) : Prop where
  clear : after.Clear
  file : ∃ text, record.toText? = some text ∧ after.read (fileName record.key) = .ok text.toUTF8
  /-- The temporary file is there no more. -/
  gone : after.read temporary = .error .notFound
  others : ∀ name, name ≠ temporary → name ≠ fileName record.key → after.read name = before.read name

/-- A record that has been written is read, if it is read back from its text. -/
theorem Writes.written {temporary : String} {before after : Directory}
    (h : Writes record temporary before after) (hreadBack : record.ReadBack) :
    ((get record.key).run after).1 = .ok (some record) := by
  obtain ⟨text, htext, hfile⟩ := h.file
  obtain ⟨other, hother, hback⟩ := hreadBack
  cases htext.symm.trans hother
  exact run_get_of_file hfile hback

/-- A record that has a text is written where nothing is in the way. -/
theorem run_put (hclear : directory.Clear) {text : String} (htext : record.toText? = some text)
    {temporary : String}
    (hne : temporary ≠ fileName record.key) :
    ((put record temporary).run directory).1 = .ok () ∧
      Writes record temporary directory ((put record temporary).run directory).2 := by
  obtain ⟨entries, hmake, hpresent, hsame⟩ := hclear.make
  obtain ⟨hwrite, htemporary⟩ := hpresent.write temporary text.toUTF8
  obtain ⟨-, htarget⟩ := htemporary.write (fileName record.key) text.toUTF8
  have hfile : (entries.insert temporary (.file text.toUTF8)).find? temporary =
      some (.file text.toUTF8) := (Table.find?_insert ..).trans (if_pos rfl)
  have hrename := htemporary.rename hfile hne
  have hrun : (put record temporary).run directory = (.ok (), present
      (((entries.insert temporary (.file text.toUTF8)).insert (fileName record.key)
        (.file text.toUTF8)).erase temporary)) := by
    unfold put FileProgram.run
    dsimp only [Directory.serve]
    rw [hmake]
    dsimp only
    rw [htext]
    unfold FileProgram.run
    dsimp only [Directory.serve]
    rw [hwrite]
    unfold commit FileProgram.run
    dsimp only [Directory.serve]
    rw [hrename]
    rfl
  rw [hrun]
  refine ⟨rfl, htarget.erase temporary, ⟨text, htext, Directory.read_of_find? ?_⟩, ?_,
    fun name htemp hname => ?_⟩
  · rw [Table.find?_erase, if_neg hne.symm, Table.find?_insert, if_pos rfl]
  · unfold Directory.read Directory.entry
    dsimp only
    rw [Table.find?_erase, if_pos rfl]
  · rw [hsame]
    refine Directory.read_congr ?_
    rw [Table.find?_erase, if_neg htemp, Table.find?_insert, if_neg hname, Table.find?_insert,
      if_neg htemp]

end Programs

/-- A store of files is available where nothing is in the way of its files. -/
instance : AvailableBackend FileStore where
  Available store := store.directory.Clear
  available_get {store} h key := by
    show ((get key).run store.directory).2.Clear
    rw [run_get]
    exact h
  available_put h hwritable := by
    obtain ⟨text, htext, -⟩ := hwritable.read_back
    exact (run_put h htext (temporary_name_ne _ _ _ _)).2.clear
  available_delete {store} h key := by
    show ((delete key).run store.directory).2.Clear
    rw [run_delete]
    exact (h.remove _).1
  put_ok h hwritable := by
    obtain ⟨text, htext, -⟩ := hwritable.read_back
    exact (run_put h htext (temporary_name_ne _ _ _ _)).1
  get_get {store} _ key other := by
    show ((get key).run ((get other).run store.directory).2).1 = _
    rw [run_get]
    rfl
  get_put {store record} h hwritable key := by
    obtain ⟨text, htext, -⟩ := hwritable.read_back
    have hwrites := (run_put h htext
      (temporary_name_ne record.key record.key store.process store.sequence)).2
    split
    · rename_i hkey
      rw [hkey]
      exact hwrites.written hwritable.read_back
    · rename_i hkey
      exact run_get_congr (hwrites.others _ (temporary_name_ne _ _ _ _).symm fun hname =>
        hkey (file_name_inj hname))
  get_delete {store} h key other hne := by
    show ((get key).run ((delete other).run store.directory).2).1 = _
    rw [run_delete]
    exact run_get_congr ((h.remove _).2 _ fun hname => hne (file_name_inj hname))

end FileStore

end GameLibrary
