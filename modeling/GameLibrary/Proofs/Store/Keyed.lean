import GameLibrary.Proofs.Store.Mirrors

/-!
# Stores in which keys do not meet

What an operation on one key does and answers depends on what the store has for the key, and changes
nothing of what it has for others. What a store has for a key is what it would answer to a read.
`KeyedBackend` says so also of a store that refuses to serve, of records that cannot be written and
of files that cannot be read back. A store in memory and a store of files where nothing is in the
way are keyed, and a gate before a keyed store refuses or passes on without mixing keys.
-/

namespace GameLibrary

/-- A store in which keys do not meet. -/
class KeyedBackend (σ : Type) [Backend σ] where
  Sound : σ → Prop
  sound_get : ∀ {store}, Sound store → ∀ key, Sound (Backend.get store key).2
  sound_put : ∀ {store}, Sound store → ∀ record, Sound (Backend.put store record).2
  sound_delete : ∀ {store}, Sound store → ∀ key, Sound (Backend.delete store key).2
  /-- A read changes nothing. -/
  read_get : ∀ {store}, Sound store → ∀ key other,
    (Backend.get (Backend.get store other).2 key).1 = (Backend.get store key).1
  /-- A write changes the key of the record. -/
  read_put : ∀ {store}, Sound store → ∀ {record key}, key ≠ record.key →
    (Backend.get (Backend.put store record).2 key).1 = (Backend.get store key).1
  /-- A removal changes its key. -/
  read_delete : ∀ {store}, Sound store → ∀ {key other}, key ≠ other →
    (Backend.get (Backend.delete store other).2 key).1 = (Backend.get store key).1
  /-- A write depends on the key of the record. -/
  put_congr : ∀ {store store'}, Sound store → Sound store' → ∀ {record},
    (Backend.get store record.key).1 = (Backend.get store' record.key).1 →
    (Backend.put store record).1 = (Backend.put store' record).1 ∧
      (Backend.get (Backend.put store record).2 record.key).1 =
        (Backend.get (Backend.put store' record).2 record.key).1
  /-- A removal depends on its key. -/
  delete_congr : ∀ {store store'}, Sound store → Sound store' → ∀ {key},
    (Backend.get store key).1 = (Backend.get store' key).1 →
    (Backend.delete store key).1 = (Backend.delete store' key).1 ∧
      (Backend.get (Backend.delete store key).2 key).1 =
        (Backend.get (Backend.delete store' key).2 key).1

namespace MemoryStore

variable {store store' : MemoryStore} {key other : Key} {record : Record}

/-- What a store in memory has for a key: the record, or a refusal if the store is switched off. -/
theorem read_eq (store : MemoryStore) (key : Key) : (Backend.get store key).1 =
    if store.offline then .error refusal else .ok (store.records.find? key) := by
  cases honline : store.offline with
  | true =>
      rw [get_offline honline]
      rfl
  | false =>
      rw [get_online honline]
      rfl

/-- Two stores that have the same for a key are both switched off, or have the same record. -/
theorem of_read_eq (h : (Backend.get store key).1 = (Backend.get store' key).1) :
    store.offline = true ∧ store'.offline = true ∨
      store.offline = false ∧ store'.offline = false ∧
        store.records.find? key = store'.records.find? key := by
  rw [read_eq, read_eq] at h
  cases honline : store.offline with
  | true =>
      cases honline' : store'.offline with
      | true => exact .inl ⟨rfl, rfl⟩
      | false => simp [honline, honline'] at h
  | false =>
      cases honline' : store'.offline with
      | true => simp [honline, honline'] at h
      | false => exact .inr ⟨rfl, rfl, by simpa [honline, honline'] using h⟩

/-- In a store in memory keys do not meet. -/
instance : KeyedBackend MemoryStore where
  Sound _ := True
  sound_get _ _ := trivial
  sound_put _ _ := trivial
  sound_delete _ _ := trivial
  read_get {store} _ key other := by
    cases honline : store.offline with
    | true => rw [get_offline honline]
    | false => rw [read_online (online_get honline other), read_online honline, get_online honline]
  read_put {store} _ {record key} hne := by
    cases honline : store.offline with
    | true => rw [put_offline honline]
    | false =>
        rw [read_online (online_put honline record), read_online honline, put_online honline]
        exact congrArg Except.ok ((Table.find?_insert ..).trans (if_neg hne))
  read_delete {store} _ {key other} hne := by
    cases honline : store.offline with
    | true => rw [delete_offline honline]
    | false =>
        rw [read_online (online_delete honline other), read_online honline, delete_online honline]
        exact congrArg Except.ok ((Table.find?_erase ..).trans (if_neg hne))
  put_congr {store store'} _ _ {record} hread := by
    rcases of_read_eq hread with ⟨honline, honline'⟩ | ⟨honline, honline', -⟩
    · rw [put_offline honline, put_offline honline']
      exact ⟨rfl, hread⟩
    · rw [read_online (online_put honline record), read_online (online_put honline' record),
        put_online honline, put_online honline']
      refine ⟨rfl, congrArg Except.ok ?_⟩
      rw [Table.find?_insert, Table.find?_insert, if_pos rfl, if_pos rfl]
  delete_congr {store store'} _ _ {key} hread := by
    rcases of_read_eq hread with ⟨honline, honline'⟩ | ⟨honline, honline', hfound⟩
    · rw [delete_offline honline, delete_offline honline']
      exact ⟨rfl, hread⟩
    · rw [read_online (online_delete honline key), read_online (online_delete honline' key),
        delete_online honline, delete_online honline']
      unfold Table.contains
      rw [hfound]
      refine ⟨rfl, congrArg Except.ok ?_⟩
      rw [Table.find?_erase, Table.find?_erase, if_pos rfl, if_pos rfl]

end MemoryStore

namespace FileStore

variable {directory : Directory} {key other : Key} {record : Record}

/-- A record without a text is not written, and all files stay as they are. -/
theorem run_put_without_text (hclear : directory.Clear) (htext : record.toText? = none)
    (temporary : String) : ((put record temporary).run directory).1 =
        .error (.serialization "payload is not valid UTF-8") ∧
      ((put record temporary).run directory).2.Clear ∧
      ∀ name, ((put record temporary).run directory).2.read name = directory.read name := by
  obtain ⟨entries, hmake, hpresent, hsame⟩ := hclear.make
  have hrun : (put record temporary).run directory =
      (.error (.serialization "payload is not valid UTF-8"), .present entries) := by
    unfold put FileProgram.run
    dsimp only [Directory.serve]
    rw [hmake]
    dsimp only
    rw [htext]
    rfl
  rw [hrun]
  exact ⟨rfl, hpresent, fun name => (hsame name).symm⟩

/-- A file is removed. -/
theorem run_delete_of_file (hclear : directory.Clear) {content : ByteArray}
    (hfile : directory.read (fileName key) = .ok content) :
    ((delete key).run directory).1 = .ok true ∧
      ((delete key).run directory).2.read (fileName key) = .error .notFound := by
  obtain ⟨hremoved, hgone⟩ := hclear.remove_file hfile
  rw [run_delete]
  refine ⟨?_, hgone⟩
  unfold delete FileProgram.run
  dsimp only [Directory.serve]
  rw [hremoved]
  rfl

/-- What does not exist is not removed. -/
theorem run_delete_of_nothing (hnothing : directory.read (fileName key) = .error .notFound) :
    (delete key).run directory = (.ok false, directory) := by
  unfold delete FileProgram.run
  dsimp only [Directory.serve]
  rw [Directory.remove_nothing hnothing]
  rfl

/-- A read finds nothing if there is no file, and only then. -/
theorem run_get_eq_none_iff (hclear : directory.Clear) :
    ((get key).run directory).1 = .ok none ↔
      directory.read (fileName key) = .error .notFound := by
  unfold get FileProgram.run
  dsimp only [Directory.serve]
  constructor
  · intro hnone
    refine hclear.not_found fun content hfile => ?_
    rw [hfile] at hnone
    dsimp only at hnone
    cases hrecord : Record.ofBytes? content with
    | none =>
        rw [hrecord] at hnone
        cases hnone
    | some record =>
        rw [hrecord] at hnone
        cases hnone
  · intro hnothing
    rw [hnothing]
    rfl

/-- Where nothing is in the way, a key has a file or nothing. -/
theorem file_or_nothing (hclear : directory.Clear) (key : Key) :
    (∃ content, directory.read (fileName key) = .ok content) ∨
      directory.read (fileName key) = .error .notFound := by
  by_cases hfile : ∃ content, directory.read (fileName key) = .ok content
  · exact .inl hfile
  · exact .inr (hclear.not_found (not_exists.1 hfile))

/-- In a store of files where nothing is in the way keys do not meet. -/
instance : KeyedBackend FileStore where
  Sound store := store.directory.Clear
  sound_get {store} h key := by
    have havailable : AvailableBackend.Available store := h
    exact AvailableBackend.available_get havailable key
  sound_put {store} h record := by
    show ((put record _).run store.directory).2.Clear
    cases htext : record.toText? with
    | none => exact (run_put_without_text h htext _).2.1
    | some text => exact (run_put h htext (temporary_name_ne _ _ _ _)).2.clear
  sound_delete {store} h key := by
    have havailable : AvailableBackend.Available store := h
    exact AvailableBackend.available_delete havailable key
  read_get h key other := AvailableBackend.get_get h key other
  read_put {store} h {record key} hne := by
    show ((get key).run ((put record _).run store.directory).2).1 = _
    refine run_get_congr ?_
    cases htext : record.toText? with
    | none => exact (run_put_without_text h htext _).2.2 _
    | some text =>
        exact (run_put h htext (temporary_name_ne _ _ _ _)).2.others _
          (temporary_name_ne _ _ _ _).symm fun hname => hne (file_name_inj hname)
  read_delete {_} h {_ _} hne := AvailableBackend.get_delete h hne
  put_congr {store store'} h h' {record} hread := by
    show ((put record (temporaryName record.key store.process store.sequence)).run
        store.directory).1 = ((put record (temporaryName record.key store'.process
          store'.sequence)).run store'.directory).1 ∧
      ((get record.key).run ((put record (temporaryName record.key store.process
        store.sequence)).run store.directory).2).1 = ((get record.key).run ((put record
          (temporaryName record.key store'.process store'.sequence)).run store'.directory).2).1
    cases htext : record.toText? with
    | none =>
        obtain ⟨hanswer, -, hsame⟩ := run_put_without_text h htext
          (temporaryName record.key store.process store.sequence)
        obtain ⟨hanswer', -, hsame'⟩ := run_put_without_text h' htext
          (temporaryName record.key store'.process store'.sequence)
        refine ⟨hanswer.trans hanswer'.symm, ?_⟩
        exact ((run_get_congr (hsame _)).trans hread).trans (run_get_congr (hsame' _)).symm
    | some text =>
        obtain ⟨hanswer, hwrites⟩ := run_put h htext
          (temporary_name_ne record.key record.key store.process store.sequence)
        obtain ⟨hanswer', hwrites'⟩ := run_put h' htext
          (temporary_name_ne record.key record.key store'.process store'.sequence)
        obtain ⟨text, htext, hfile⟩ := hwrites.file
        obtain ⟨text', htext', hfile'⟩ := hwrites'.file
        cases htext.symm.trans htext'
        exact ⟨hanswer.trans hanswer'.symm, run_get_congr (hfile.trans hfile'.symm)⟩
  delete_congr {store store'} h h' {key} hread := by
    show ((delete key).run store.directory).1 = ((delete key).run store'.directory).1 ∧
      ((get key).run ((delete key).run store.directory).2).1 =
        ((get key).run ((delete key).run store'.directory).2).1
    have hread' : ((get key).run store.directory).1 = ((get key).run store'.directory).1 := hread
    have hnothing : store.directory.read (fileName key) = .error .notFound ↔
        store'.directory.read (fileName key) = .error .notFound := by
      rw [← run_get_eq_none_iff h, ← run_get_eq_none_iff h', hread']
    rcases file_or_nothing h key with ⟨content, hfile⟩ | hgone
    · rcases file_or_nothing h' key with ⟨content', hfile'⟩ | hgone'
      · obtain ⟨hanswer, hafter⟩ := run_delete_of_file h hfile
        obtain ⟨hanswer', hafter'⟩ := run_delete_of_file h' hfile'
        exact ⟨hanswer.trans hanswer'.symm, run_get_congr (hafter.trans hafter'.symm)⟩
      · cases hfile.symm.trans (hnothing.2 hgone')
    · rw [run_delete_of_nothing hgone, run_delete_of_nothing (hnothing.1 hgone)]
      exact ⟨rfl, hread'⟩

end FileStore

namespace Gate

open KeyedBackend (Sound)

variable {σ : Type} [Backend σ] [KeyedBackend σ] {gate gate' : Gate σ}

section Sound

variable (h : Sound gate.inner)
include h

theorem sound_get (key : Key) : Sound (Backend.get gate key).2.inner := by
  cases hgate : gate.refusesGet with
  | true =>
      rw [get_closed hgate]
      exact h
  | false =>
      rw [get_open hgate]
      exact KeyedBackend.sound_get h key

theorem sound_put (record : Record) : Sound (Backend.put gate record).2.inner := by
  cases hgate : gate.refusesPut with
  | true =>
      rw [put_closed hgate]
      exact h
  | false =>
      rw [put_open hgate]
      exact KeyedBackend.sound_put h record

theorem sound_delete (key : Key) : Sound (Backend.delete gate key).2.inner := by
  cases hgate : gate.refusesDelete with
  | true =>
      rw [delete_closed hgate]
      exact h
  | false =>
      rw [delete_open hgate]
      exact KeyedBackend.sound_delete h key

/-- A read through the gate changes nothing behind it. -/
theorem read_get (key other : Key) : (Backend.get (Backend.get gate other).2.inner key).1 =
    (Backend.get gate.inner key).1 := by
  cases hgate : gate.refusesGet with
  | true => rw [get_closed hgate]
  | false =>
      rw [get_open hgate]
      exact KeyedBackend.read_get h key other

/-- A write through the gate changes the key of the record. -/
theorem read_put {record : Record} {key : Key} (hne : key ≠ record.key) :
    (Backend.get (Backend.put gate record).2.inner key).1 = (Backend.get gate.inner key).1 := by
  cases hgate : gate.refusesPut with
  | true => rw [put_closed hgate]
  | false =>
      rw [put_open hgate]
      exact KeyedBackend.read_put h hne

/-- A removal through the gate changes its key. -/
theorem read_delete {key other : Key} (hne : key ≠ other) :
    (Backend.get (Backend.delete gate other).2.inner key).1 = (Backend.get gate.inner key).1 := by
  cases hgate : gate.refusesDelete with
  | true => rw [delete_closed hgate]
  | false =>
      rw [delete_open hgate]
      exact KeyedBackend.read_delete h hne

end Sound

omit [KeyedBackend σ] in
/-- Two gates that refuse the same answer a read the same, if the stores behind them do. -/
theorem get_congr {key : Key} (hrefuses : gate.refusesGet = gate'.refusesGet)
    (hread : (Backend.get gate.inner key).1 = (Backend.get gate'.inner key).1) :
    (Backend.get gate key).1 = (Backend.get gate' key).1 := by
  cases hgate : gate.refusesGet with
  | true => rw [get_closed hgate, get_closed (hrefuses.symm.trans hgate)]
  | false =>
      rw [get_open hgate, get_open (hrefuses.symm.trans hgate)]
      exact hread

/-- A write through two gates that refuse the same, to stores that have the same for its key. -/
theorem put_congr (h : Sound gate.inner) (h' : Sound gate'.inner) {record : Record}
    (hrefuses : gate.refusesPut = gate'.refusesPut)
    (hread : (Backend.get gate.inner record.key).1 = (Backend.get gate'.inner record.key).1) :
    (Backend.put gate record).1 = (Backend.put gate' record).1 ∧
      (Backend.get (Backend.put gate record).2.inner record.key).1 =
        (Backend.get (Backend.put gate' record).2.inner record.key).1 := by
  cases hgate : gate.refusesPut with
  | true =>
      rw [put_closed hgate, put_closed (hrefuses.symm.trans hgate)]
      exact ⟨rfl, hread⟩
  | false =>
      rw [put_open hgate, put_open (hrefuses.symm.trans hgate)]
      exact KeyedBackend.put_congr h h' hread

/-- A removal through two gates that refuse the same, from stores that have the same for its key. -/
theorem delete_congr (h : Sound gate.inner) (h' : Sound gate'.inner) {key : Key}
    (hrefuses : gate.refusesDelete = gate'.refusesDelete)
    (hread : (Backend.get gate.inner key).1 = (Backend.get gate'.inner key).1) :
    (Backend.delete gate key).1 = (Backend.delete gate' key).1 ∧
      (Backend.get (Backend.delete gate key).2.inner key).1 =
        (Backend.get (Backend.delete gate' key).2.inner key).1 := by
  cases hgate : gate.refusesDelete with
  | true =>
      rw [delete_closed hgate, delete_closed (hrefuses.symm.trans hgate)]
      exact ⟨rfl, hread⟩
  | false =>
      rw [delete_open hgate, delete_open (hrefuses.symm.trans hgate)]
      exact KeyedBackend.delete_congr h h' hread

end Gate

end GameLibrary
