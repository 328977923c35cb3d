import GameLibrary.Proofs.Store.Codec
import GameLibrary.Proofs.Store.Overlaps

/-!
# Whole files

The file of a key is whole on a sound disk (`Disk.Sound`): there is none, or it has all of a record.
An operation on another name keeps what is read for every key (`Disk.KeepsKeys`). Whoever has a
temporary name of its own, and writes under that name only, leaves every other temporary file as it
is (`Disk.Evolves`).
-/

namespace GameLibrary

open Function (update)

namespace Record

variable {record : Record}

/-- What the text of a record denotes: the second after it in place of a leap second within a
minute. -/
def asRead (record : Record) : Record := { record with insertedAt := record.insertedAt.asRead }

/-- A record is read as it was written, or it is stamped with a leap second inside a minute and comes
back with the second after that. -/
def ReadAs (record found : Record) : Prop :=
  found = record ∨ (1000000000 ≤ record.insertedAt.nanoseconds ∧ record.insertedAt.seconds % 60 ≠ 59) ∧
    found = { record with insertedAt :=
      ⟨record.insertedAt.seconds + 1, record.insertedAt.nanoseconds - 1000000000⟩ }

theorem read_as_as_read (record : Record) : record.ReadAs record.asRead := by
  unfold ReadAs asRead Timestamp.asRead
  split
  · rename_i hleap
    exact .inr ⟨hleap, rfl⟩
  · exact .inl rfl

/-- A record with a text is read from it. -/
theorem of_bytes_text (h : record.insertedAt.InCalendar) {text : String}
    (htext : record.toText? = some text) : ofBytes? text.toUTF8 = some record.asRead := by
  by_cases hpayload : record.payload.IsValidUTF8
  · have hbytes : record.payload = (String.fromUTF8 record.payload hpayload).toUTF8 := rfl
    cases htext.symm.trans (to_text_of_payload hbytes)
    exact of_bytes_document hbytes (Timestamp.of_text_text h)
  · cases htext.symm.trans (to_text_eq_none hpayload)

end Record

namespace FileStore

/-- Numbers are told apart by their digits. -/
theorem to_string_nat_inj {n m : Nat} (h : toString n = toString m) : n = m := by
  have hdigits := congrArg String.toList h
  rw [Nat.toString_eq_ofList_toDigits, Nat.toString_eq_ofList_toDigits, String.toList_ofList,
    String.toList_ofList] at hdigits
  calc
    n = Nat.ofDigitChars 10 (Nat.toDigits 10 n) 0 := Nat.ofDigitChars_ten_toDigits.symm
    _ = Nat.ofDigitChars 10 (Nat.toDigits 10 m) 0 := by rw [hdigits]
    _ = m := Nat.ofDigitChars_ten_toDigits

/-- Temporary files of one process with one name have one number. -/
theorem temporary_name_inj {key other : Key} {process first second : Nat}
    (h : temporaryName key process first = temporaryName other process second) :
    first = second := by
  have hlength : ∀ key : Key, (fileName key).toList.length = 69 := by
    intro key
    rw [String.length_toList]
    unfold fileName
    rw [String.length_append, key.length_text]
    rfl
  have hlist := congrArg String.toList h
  unfold temporaryName at hlist
  simp only [String.toList_append, List.append_assoc] at hlist
  have hrest := (List.append_inj hlist ((hlength key).trans (hlength other).symm)).2
  have hnumber := List.append_cancel_left (List.append_cancel_left (List.append_cancel_left hrest))
  exact to_string_nat_inj (String.toList_inj.1 hnumber)

end FileStore

/-- The content is a whole record of the key, and one of those that are given. -/
def Untorn (given : Record → Prop) (key : Key) (content : List UInt8) : Prop :=
  ∃ record, Record.ofBytes? ⟨content.toArray⟩ = some record ∧ record.key = key ∧ given record

theorem Untorn.mono {given given' : Record → Prop} (hgiven : ∀ record, given record → given' record)
    {key : Key} {content : List UInt8} (h : Untorn given key content) :
    Untorn given' key content := by
  obtain ⟨record, hread, hkey, hrecord⟩ := h
  exact ⟨record, hread, hkey, hgiven record hrecord⟩

namespace Disk

open FileStore (fileName temporaryName afterRead)

variable {given : Record → Prop} {own : String → Prop} {before after : Disk} {name : String}
  {file : Nat} {key : Key}

/-- The file of every key is whole, if there is one. -/
def Sound (given : Record → Prop) (disk : Disk) : Prop :=
  ∀ key, disk.file? (fileName key) = .error .notFound ∨
    ∃ file, disk.file? (fileName key) = .ok file ∧ Untorn given key (disk.contents file)

/-- What a read answers that is served alone. -/
def answer (disk : Disk) (key : Key) : ReadAnswer := ((FileStore.get key).serve disk).1

/-- The files of the keys are the same, with the same contents. -/
structure KeepsKeys (before after : Disk) : Prop where
  file?_eq : ∀ key, after.file? (fileName key) = before.file? (fileName key)
  contents_eq : ∀ {key file}, before.file? (fileName key) = .ok file →
    after.contents file = before.contents file

/-- What a call does that has its own temporary name: besides the names of keys it concerns the file
of its own name only. -/
structure Evolves (own : String → Prop) (before after : Disk) : Prop where
  nextFile_le : before.nextFile ≤ after.nextFile
  others : ∀ {name}, (∀ key, name ≠ fileName key) → ¬ own name →
    after.file? name = before.file? name
  contents_eq : ∀ {file}, file < before.nextFile →
    (∀ name, own name → before.file? name ≠ .ok file) → after.contents file = before.contents file
  /-- A file gets no new name but that of a key. -/
  origin : ∀ {name file}, file < before.nextFile → after.file? name = .ok file →
    before.file? name = .ok file ∨ ∃ key, name = fileName key

section Keys

theorem Sound.mono {given' : Record → Prop} (h : before.Sound given)
    (hgiven : ∀ record, given record → given' record) : before.Sound given' :=
  fun key => (h key).imp_right fun ⟨file, hfile, huntorn⟩ => ⟨file, hfile, huntorn.mono hgiven⟩

/-- What a read answers, by the content of the key's file. -/
theorem answer_of_read (disk : Disk) (key : Key) : disk.answer key =
    match disk.read (fileName key) with
    | .error .notFound => .ok none
    | .error (.other cause) => .error (.storageFault "read" cause)
    | .ok content =>
        match Record.ofBytes? content with
        | some record => .ok (some record)
        | none => .error (.serialization "no record") := by
  have hanswer : disk.answer key = ((afterRead (disk.read (fileName key))).serve disk).1 := by
    unfold answer
    rw [FileStore.get_eq]
    rfl
  rw [hanswer]
  rcases disk.read (fileName key) with (_ | _) | content <;> rfl

/-- A disk is sound if a read finds nothing or a record of the key. -/
theorem sound_of_answers {disk : Disk} (h : ∀ key, disk.answer key = .ok none ∨
    ∃ record, disk.answer key = .ok (some record) ∧ record.key = key ∧ given record) :
    disk.Sound given := by
  intro key
  have hanswer := h key
  rw [answer_of_read] at hanswer
  unfold read at hanswer
  cases hfile : disk.file? (fileName key) with
  | ok file =>
      rw [hfile] at hanswer
      dsimp only at hanswer
      refine .inr ⟨file, rfl, ?_⟩
      cases hread : Record.ofBytes? ⟨(disk.contents file).toArray⟩ with
      | none =>
          rw [hread] at hanswer
          rcases hanswer with hnone | ⟨_, hsome, -⟩
          · cases hnone
          · cases hsome
      | some record =>
          rw [hread] at hanswer
          rcases hanswer with hnone | ⟨found, hsome, hkey, hgiven⟩
          · cases hnone
          · cases hsome
            exact ⟨record, hread, hkey, hgiven⟩
  | error fault =>
      rw [hfile] at hanswer
      cases fault with
      | notFound => exact .inl rfl
      | other =>
          rcases hanswer with hnone | ⟨_, hsome, -⟩
          · cases hnone
          · cases hsome

theorem KeepsKeys.answer_eq (h : before.KeepsKeys after) (key : Key) :
    after.answer key = before.answer key := by
  rw [answer_of_read, answer_of_read]
  unfold read
  rw [h.file?_eq]
  cases hfile : before.file? (fileName key) with
  | ok file =>
      dsimp only
      rw [h.contents_eq hfile]
  | error fault => rfl

theorem KeepsKeys.sound (h : before.KeepsKeys after) (hsound : before.Sound given) :
    after.Sound given := by
  intro key
  rw [h.file?_eq]
  rcases hsound key with hnone | ⟨file, hfile, huntorn⟩
  · exact .inl hnone
  · exact .inr ⟨file, hfile, (h.contents_eq hfile).symm ▸ huntorn⟩

end Keys

section Same

variable (hfile : ∀ name, after.file? name = before.file? name)
  (hcontents : after.contents = before.contents)
include hfile hcontents

/-- Where the files are the same, those of the keys are. -/
theorem keeps_keys_of_same : before.KeepsKeys after :=
  ⟨fun _ => hfile _, fun _ => congrFun hcontents _⟩

theorem evolves_of_same (hnext : after.nextFile = before.nextFile) : before.Evolves own after where
  nextFile_le := Nat.le_of_eq hnext.symm
  others _ _ := hfile _
  contents_eq _ _ := congrFun hcontents _
  origin _ hname := .inl ((hfile _).symm.trans hname)

end Same

section Temporary

variable (hregular : before.Regular) (htemporary : ∀ key, name ≠ fileName key)
include hregular htemporary

/-- The content of a temporary file is none of a key. -/
theorem keeps_keys_with_content (hname : before.file? name = .ok file) (content : List UInt8) :
    before.KeepsKeys (before.withContent file content) where
  file?_eq _ := rfl
  contents_eq {key found} hfound := by
    refine Function.update_of_ne ?_ ..
    rintro rfl
    exact htemporary key (hregular.single hname hfound)

omit hregular htemporary in
/-- The content of the own file changes. -/
theorem evolves_with_content (hown : own name) (hname : before.file? name = .ok file)
    (content : List UInt8) : before.Evolves own (before.withContent file content) where
  nextFile_le := Nat.le_refl _
  others _ _ := rfl
  contents_eq {found} _ hfound := by
    refine Function.update_of_ne ?_ ..
    rintro rfl
    exact hfound name hown hname
  origin _ hfound := .inl hfound

/-- A temporary file that is opened is none of a key. -/
theorem keeps_keys_opened (hopens : before.Opens name file after) : before.KeepsKeys after where
  file?_eq key := by
    rw [hopens.file?_eq, if_neg (htemporary key).symm]
  contents_eq {key found} hfound := by
    rw [hopens.contents_eq]
    refine Function.update_of_ne ?_ ..
    rintro rfl
    rcases hopens.origin with ⟨hname, -⟩ | ⟨-, hnew, -⟩
    · exact htemporary key (hregular.single hname hfound)
    · exact Nat.ne_of_lt (hregular.below hfound) hnew

omit hregular htemporary in
/-- The own file is opened. -/
theorem evolves_opened (hown : own name) (hopens : before.Opens name file after) :
    before.Evolves own after where
  nextFile_le := by
    rcases hopens.origin with ⟨-, hnext⟩ | ⟨-, -, hnext⟩
    · exact Nat.le_of_eq hnext.symm
    · rw [hnext]
      exact Nat.le_succ _
  others {other} _ hother := by
    rw [hopens.file?_eq, if_neg]
    rintro rfl
    exact hother hown
  contents_eq {found} hold hfound := by
    rw [hopens.contents_eq]
    refine Function.update_of_ne ?_ ..
    rintro rfl
    rcases hopens.origin with ⟨hname, -⟩ | ⟨-, hnew, -⟩
    · exact hfound name hown hname
    · exact Nat.ne_of_lt hold hnew
  origin {other found} hold hfound := by
    rw [hopens.file?_eq] at hfound
    split at hfound
    · rename_i hother
      cases hfound
      rcases hopens.origin with ⟨hname, -⟩ | ⟨-, hnew, -⟩
      · exact .inl (hother ▸ hname)
      · exact absurd hnew (Nat.ne_of_lt hold)
    · exact .inl hfound

end Temporary

section Names

/-- A temporary name that is removed is none of a key. -/
theorem keeps_keys_remove (htemporary : ∀ key, name ≠ fileName key) :
    before.KeepsKeys (before.remove name).2 := by
  rcases before.remove_cases name with ⟨fault, hsame⟩ | ⟨-, hfile, hcontents, -⟩
  · rw [hsame]
    exact keeps_keys_of_same (fun _ => rfl) rfl
  · refine ⟨fun key => ?_, fun _ => congrFun hcontents _⟩
    rw [hfile, if_neg (htemporary key).symm]

/-- The own name or that of a key is removed. -/
theorem evolves_remove (hname : own name ∨ ∃ key, name = fileName key) :
    before.Evolves own (before.remove name).2 := by
  rcases before.remove_cases name with ⟨fault, hsame⟩ | ⟨-, hfile, hcontents, hnext⟩
  · rw [hsame]
    exact evolves_of_same (fun _ => rfl) rfl rfl
  · refine ⟨Nat.le_of_eq hnext.symm, fun {other} htemporary hother => ?_,
      fun _ _ => congrFun hcontents _, fun {other found} _ hfound => .inl ?_⟩
    · rw [hfile, if_neg]
      rintro rfl
      rcases hname with hown | ⟨key, hkey⟩
      · exact hother hown
      · exact htemporary key hkey
    · rw [hfile] at hfound
      split at hfound
      · cases hfound
      · exact hfound

/-- Where the name of a key is removed, the other keys keep their files. -/
theorem Sound.remove (hsound : before.Sound given) (key : Key) :
    (before.remove (fileName key)).2.Sound given := by
  rcases before.remove_cases (fileName key) with ⟨fault, hsame⟩ | ⟨-, hfile, hcontents, -⟩
  · rw [hsame]
    exact hsound
  · intro other
    rw [hfile, hcontents]
    split
    · exact .inl rfl
    · exact hsound other

variable {key : Key} (htemporary : ∀ key, name ≠ fileName key)
include htemporary

/-- The file with the own name gets that of a key. -/
theorem evolves_rename (hown : own name) :
    before.Evolves own (before.rename name (fileName key)).2 := by
  rcases before.rename_cases (htemporary key) with
    ⟨fault, hsame⟩ | ⟨-, number, hnumber, hfile, hcontents, hnext⟩
  · rw [hsame]
    exact evolves_of_same (fun _ => rfl) rfl rfl
  · refine ⟨Nat.le_of_eq hnext.symm, fun {other} hother hnot => ?_,
      fun _ _ => congrFun hcontents _, fun {other found} _ hfound => ?_⟩
    · rw [hfile, if_neg, if_neg (hother key)]
      rintro rfl
      exact hnot hown
    · rw [hfile] at hfound
      split at hfound
      · cases hfound
      · split at hfound
        · rename_i hkey
          exact .inr ⟨key, hkey⟩
        · exact .inl hfound

/-- A whole record gets the name of its key. -/
theorem Sound.rename (hsound : before.Sound given) (hname : before.file? name = .ok file)
    (huntorn : Untorn given key (before.contents file)) :
    (before.rename name (fileName key)).2.Sound given := by
  rcases before.rename_cases (htemporary key) with
    ⟨fault, hsame⟩ | ⟨-, number, hnumber, hfile, hcontents, -⟩
  · rw [hsame]
    exact hsound
  · cases hname.symm.trans hnumber
    intro other
    rw [hfile, hcontents, if_neg (htemporary other).symm]
    split
    · rename_i hother
      exact .inr ⟨file, rfl, FileStore.file_name_inj hother ▸ huntorn⟩
    · exact hsound other

end Names

end Disk

end GameLibrary
