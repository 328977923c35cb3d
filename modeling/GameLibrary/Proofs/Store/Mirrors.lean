import GameLibrary.Proofs.Store.Available
import GameLibrary.Proofs.Store.Shards

/-!
# Files in the place of memory

A store of files behaves as a store in memory does (`FileStore.serves_as_memory`): on a directory that
does not exist yet, and where nothing is in the way, it gives the same replies to the same requests.
The two are held together by `FileStore.Mirrors`: the directory has one file for each key of the
table, with the text of its record, and nothing else.
-/

namespace GameLibrary

/-- What a store is asked for. -/
inductive StoreRequest where
  | get (key : Key)
  | put (record : Record)
  | delete (key : Key)

/-- What a store replies. -/
inductive StoreReply where
  | found (answer : ReadAnswer)
  | written (answer : Except Failure Unit)
  | removed (answer : Except Failure Bool)

namespace Backend

variable {σ : Type} [Backend σ]

/-- Serves a request. -/
def serve (store : σ) : StoreRequest → StoreReply × σ
  | .get key => (.found (get store key).1, (get store key).2)
  | .put record => (.written (put store record).1, (put store record).2)
  | .delete key => (.removed (delete store key).1, (delete store key).2)

/-- Serves one request after another. -/
def serveAll (store : σ) : List StoreRequest → List StoreReply × σ
  | [] => ([], store)
  | request :: others =>
      ((serve store request).1 :: (serveAll (serve store request).2 others).1,
        (serveAll (serve store request).2 others).2)

end Backend

namespace Directory

variable {directory : Directory} {entries : Table String DirectoryEntry} {name : String}

/-- Where nothing is in the way, a name is that of a file or of nothing. -/
theorem Clear.file_or_nothing (h : (present entries).Clear) (name : String) :
    (∃ content, entries.find? name = some (.file content) ∧
      (present entries).read name = .ok content) ∨
    entries.find? name = none ∧ (present entries).read name = .error .notFound := by
  cases hfound : entries.find? name with
  | some entry =>
      cases entry with
      | file content => exact .inl ⟨content, rfl, read_of_find? hfound⟩
      | directory => exact absurd hfound (h name)
  | none =>
      refine .inr ⟨rfl, ?_⟩
      unfold read entry
      dsimp only
      rw [hfound]

/-- Where nothing is in the way, what cannot be read does not exist. -/
theorem Clear.not_found (h : directory.Clear) (hnone : ∀ content, directory.read name ≠ .ok content) :
    directory.read name = .error .notFound := by
  cases directory with
  | absent => rfl
  | blocked => exact h.elim
  | present entries =>
      rcases h.file_or_nothing name with ⟨content, -, hread⟩ | ⟨-, hread⟩
      · exact absurd hread (hnone content)
      · exact hread

/-- The names of a directory where nothing is in the way are those of its files. -/
theorem Clear.mem_names (h : directory.Clear) :
    name ∈ directory.names ↔ ∃ content, directory.read name = .ok content := by
  cases directory with
  | absent => exact iff_of_false List.not_mem_nil nofun
  | blocked => exact h.elim
  | present entries =>
      unfold names
      dsimp only
      rw [List.mem_mergeSort, ← Table.contains_iff]
      unfold Table.contains
      rcases h.file_or_nothing name with ⟨content, hfound, hread⟩ | ⟨hfound, hread⟩
      · rw [hfound, hread]
        exact iff_of_true rfl ⟨content, rfl⟩
      · rw [hfound, hread]
        exact iff_of_false nofun nofun

theorem nodup_names (directory : Directory) : directory.names.Nodup := by
  cases directory with
  | absent => exact List.nodup_nil
  | blocked => exact List.nodup_nil
  | present entries => exact (List.mergeSort_perm _ _).nodup_iff.2 entries.distinct

/-- A file is removed where nothing is in the way. -/
theorem Clear.remove_file (h : directory.Clear) {content : ByteArray}
    (hread : directory.read name = .ok content) :
    (directory.remove name).1 = .ok () ∧ (directory.remove name).2.read name = .error .notFound := by
  cases directory with
  | absent => cases hread
  | blocked => exact h.elim
  | present entries =>
      have hremove : (present entries).remove name = (.ok (), present (entries.erase name)) := by
        unfold Directory.remove
        rw [hread]
      rw [hremove]
      refine ⟨rfl, ?_⟩
      unfold read entry
      dsimp only
      rw [Table.find?_erase, if_pos rfl]

/-- What does not exist is not removed. -/
theorem remove_nothing (hread : directory.read name = .error .notFound) :
    directory.remove name = (.error .notFound, directory) := by
  unfold remove
  rw [hread]
  cases directory <;> rfl

end Directory

namespace FileStore

variable {directory : Directory} {records : Table Key Record} {key : Key} {record : Record}

/-- The directory has one file for each key, with the text of its record, and nothing else. -/
structure Mirrors (directory : Directory) (records : Table Key Record) : Prop where
  clear : directory.Clear
  file : ∀ {key record}, records.find? key = some record → ∃ text, record.toText? = some text ∧
    Record.ofBytes? text.toUTF8 = some record ∧ directory.read (fileName key) = .ok text.toUTF8
  key : ∀ {name content}, directory.read name = .ok content →
    ∃ key, records.contains key = true ∧ name = fileName key

/-- A key that has no record has no file. -/
theorem Mirrors.not_found (h : Mirrors directory records) (hnone : records.find? key = none) :
    directory.read (fileName key) = .error .notFound := by
  refine h.clear.not_found fun content hread => ?_
  obtain ⟨other, hother, hname⟩ := h.key hread
  cases file_name_inj hname
  unfold Table.contains at hother
  rw [hnone] at hother
  cases hother

/-- The names in use are those of the files of the keys. -/
theorem Mirrors.names (h : Mirrors directory records) :
    directory.names.Perm (records.entries.map fun entry => fileName entry.1) := by
  have hdistinct : (records.entries.map fun entry => fileName entry.1).Nodup := by
    have hkeys := records.distinct.map (f := fileName) fun _ _ => file_name_inj
    rwa [List.map_map] at hkeys
  refine (List.perm_ext_iff_of_nodup directory.nodup_names hdistinct).2 fun name => ?_
  rw [h.clear.mem_names, List.mem_map]
  constructor
  · rintro ⟨content, hread⟩
    obtain ⟨key, hkey, rfl⟩ := h.key hread
    obtain ⟨entry, hentry, rfl⟩ := List.mem_map.1 (records.contains_iff.1 hkey)
    exact ⟨entry, hentry, rfl⟩
  · rintro ⟨⟨key, record⟩, hentry, rfl⟩
    obtain ⟨text, -, -, hfile⟩ := h.file (records.find?_eq_some.2 hentry)
    exact ⟨text.toUTF8, hfile⟩

/-- A read finds the record that is in the table. -/
theorem Mirrors.get (h : Mirrors directory records) (key : Key) :
    ((get key).run directory).1 = .ok (records.find? key) := by
  cases hfound : records.find? key with
  | some record =>
      obtain ⟨text, -, hback, hfile⟩ := h.file hfound
      exact run_get_of_file hfile hback
  | none =>
      unfold FileStore.get FileProgram.run
      dsimp only [Directory.serve]
      rw [h.not_found hfound]
      rfl

/-- A record that is written takes the place of that of its key. -/
theorem Mirrors.put (h : Mirrors directory records) (hreadBack : record.ReadBack)
    {temporary : String} (hne : ∀ key, temporary ≠ fileName key) :
    ((put record temporary).run directory).1 = .ok () ∧
      Mirrors ((put record temporary).run directory).2 (records.insert record.key record) := by
  obtain ⟨text, htext, hback⟩ := hreadBack
  obtain ⟨hanswer, hwrites⟩ := run_put h.clear htext (hne record.key)
  refine ⟨hanswer, hwrites.clear, ?_, ?_⟩
  · intro key found hfound
    rw [Table.find?_insert] at hfound
    split at hfound
    · rename_i hkey
      cases hfound
      obtain ⟨other, hother, hfile⟩ := hwrites.file
      cases htext.symm.trans hother
      rw [hkey]
      exact ⟨text, htext, hback, hfile⟩
    · rename_i hkey
      obtain ⟨other, hother, hread, hfile⟩ := h.file hfound
      rw [← hwrites.others _ (hne key).symm fun hname => hkey (file_name_inj hname)] at hfile
      exact ⟨other, hother, hread, hfile⟩
  · intro name content hread
    by_cases hname : name = fileName record.key
    · exact ⟨record.key, (records.contains_insert ..).2 (.inl rfl), hname⟩
    · by_cases htemporary : name = temporary
      · rw [htemporary, hwrites.gone] at hread
        cases hread
      · rw [hwrites.others name htemporary hname] at hread
        obtain ⟨key, hkey, rfl⟩ := h.key hread
        exact ⟨key, (records.contains_insert ..).2 (.inr hkey), rfl⟩

/-- A removal finds a file where the table has a record. -/
theorem Mirrors.delete (h : Mirrors directory records) (key : Key) :
    ((FileStore.delete key).run directory).1 = .ok (records.contains key) ∧
      Mirrors ((FileStore.delete key).run directory).2 (records.erase key) := by
  have hanswer : ((FileStore.delete key).run directory).1 = .ok (records.contains key) ∧
      (directory.remove (fileName key)).2.read (fileName key) = .error .notFound := by
    unfold FileStore.delete FileProgram.run Table.contains
    dsimp only [Directory.serve]
    cases hfound : records.find? key with
    | some record =>
        obtain ⟨text, -, -, hfile⟩ := h.file hfound
        obtain ⟨hremoved, hgone⟩ := h.clear.remove_file hfile
        rw [hremoved]
        exact ⟨rfl, hgone⟩
    | none =>
        have hnothing := Directory.remove_nothing (h.not_found hfound)
        rw [hnothing]
        exact ⟨rfl, h.not_found hfound⟩
  obtain ⟨hclear, hothers⟩ := h.clear.remove (fileName key)
  rw [run_delete]
  refine ⟨hanswer.1, hclear, ?_, ?_⟩
  · intro other record hfound
    rw [Table.find?_erase] at hfound
    split at hfound
    · cases hfound
    · rename_i hne
      rw [hothers _ fun hname => hne (file_name_inj hname)]
      exact h.file hfound
  · intro name content hread
    by_cases hname : name = fileName key
    · rw [hname, hanswer.2] at hread
      cases hread
    · rw [hothers name hname] at hread
      obtain ⟨other, hother, rfl⟩ := h.key hread
      refine ⟨other, (records.contains_erase ..).2 ⟨?_, hother⟩, rfl⟩
      rintro rfl
      exact hname rfl

/-- A store of files and a store in memory that hold the same and have been asked the same. -/
structure Agrees (files : FileStore) (memory : MemoryStore) : Prop where
  mirrors : Mirrors files.directory memory.records
  online : memory.offline = false
  usage : files.usage = memory.usage

variable {files : FileStore} {memory : MemoryStore} {request : StoreRequest}

/-- The two stores reply the same to a request, and agree again after it. -/
theorem Agrees.serve (h : Agrees files memory)
    (hreadBack : ∀ record, request = .put record → record.ReadBack) :
    (Backend.serve files request).1 = (Backend.serve memory request).1 ∧
      Agrees (Backend.serve files request).2 (Backend.serve memory request).2 := by
  unfold Backend.serve
  cases request with
  | get key =>
      dsimp only
      rw [MemoryStore.get_online h.online]
      refine ⟨congrArg StoreReply.found (h.mirrors.get key), ?_, h.online, congrArg Usage.read h.usage⟩
      show Mirrors ((FileStore.get key).run files.directory).2 memory.records
      rw [run_get]
      exact h.mirrors
  | put record =>
      dsimp only
      rw [MemoryStore.put_online h.online]
      obtain ⟨hanswer, hmirrors⟩ := h.mirrors.put (hreadBack record rfl)
        (temporary_name_ne record.key · files.process files.sequence)
      exact ⟨congrArg StoreReply.written hanswer, hmirrors, h.online,
        congrArg Usage.written h.usage⟩
  | delete key =>
      dsimp only
      rw [MemoryStore.delete_online h.online]
      obtain ⟨hanswer, hmirrors⟩ := h.mirrors.delete key
      exact ⟨congrArg StoreReply.removed hanswer, hmirrors, h.online,
        congrArg Usage.deleted h.usage⟩

/-- The two stores reply the same to any number of requests. -/
theorem Agrees.serve_all {requests : List StoreRequest} (h : Agrees files memory)
    (hreadBack : ∀ record, .put record ∈ requests → record.ReadBack) :
    (Backend.serveAll files requests).1 = (Backend.serveAll memory requests).1 ∧
      Agrees (Backend.serveAll files requests).2 (Backend.serveAll memory requests).2 := by
  induction requests generalizing files memory with
  | nil => exact ⟨rfl, h⟩
  | cons request others ih =>
      have hfirst : ∀ record, request = .put record → record.ReadBack := fun record hrecord =>
        hreadBack record (hrecord ▸ List.mem_cons_self)
      obtain ⟨hreply, hagrees⟩ := h.serve hfirst
      obtain ⟨hreplies, hlater⟩ := ih hagrees fun record hmem =>
        hreadBack record (List.mem_cons_of_mem _ hmem)
      unfold Backend.serveAll
      dsimp only
      rw [hreply, hreplies]
      exact ⟨rfl, hlater⟩

/-- A store of files behaves as one in memory does. From a directory that does not exist, and through
any requests, it gives the same replies and counts the same; and after them the directory has one
file for each key of the store in memory, with the text of its record, and nothing beside these. -/
theorem serves_as_memory (process : Nat) (requests : List StoreRequest)
    (hplain : ∀ record, .put record ∈ requests → record.Plain) :
    let files := Backend.serveAll ({ process } : FileStore) requests
    let memory := Backend.serveAll ({} : MemoryStore) requests
    files.1 = memory.1 ∧ Backend.usage files.2 = Backend.usage memory.2 ∧
      files.2.directory.names.Perm
        (memory.2.records.entries.map fun entry => fileName entry.1) ∧
      ∀ key record, memory.2.records.find? key = some record →
        ∃ text, record.toText? = some text ∧
          files.2.directory.read (fileName key) = .ok text.toUTF8 := by
  have hstart : Agrees ({ process } : FileStore) {} := ⟨⟨trivial, nofun, nofun⟩, rfl, rfl⟩
  obtain ⟨hreplies, hagrees⟩ := hstart.serve_all fun record hmem => (hplain record hmem).read_back
  refine ⟨hreplies, hagrees.usage, hagrees.mirrors.names, fun key record hfound => ?_⟩
  obtain ⟨text, htext, -, hfile⟩ := hagrees.mirrors.file hfound
  exact ⟨text, htext, hfile⟩

/-- A record is written, read and removed. -/
def writtenAndRemoved : List StoreRequest :=
  [.delete Record.ofLastYear.key, .put .ofLastYear, .get Record.ofLastYear.key,
    .delete Record.ofLastYear.key, .get Record.ofLastYear.key]

theorem serves_as_memory_removed :
    (Backend.serveAll ({ process := 7 } : FileStore) writtenAndRemoved).1 =
        [.removed (.ok false), .written (.ok ()), .found (.ok (some .ofLastYear)),
          .removed (.ok true), .found (.ok none)] := by
  refine (serves_as_memory 7 writtenAndRemoved ?_).1.trans ?_
  · intro record hmem
    simp only [writtenAndRemoved, List.mem_cons, reduceCtorEq, StoreRequest.put.injEq,
      List.not_mem_nil, or_false, false_or] at hmem
    subst hmem
    exact ⟨⟨Record.quotedText, rfl⟩, by decide, by decide⟩
  · simp [Backend.serveAll, Backend.serve, writtenAndRemoved, MemoryStore.get_online,
      MemoryStore.put_online, MemoryStore.delete_online, Table.contains]

end FileStore

end GameLibrary
