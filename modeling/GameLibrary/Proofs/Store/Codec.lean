import GameLibrary.Proofs.Popularity.Written
import GameLibrary.Store.Files

/-!
# Records and their text

A record whose payload is text, and whose time is read back from its own text, is read back from its
own text as a whole (`Record.read_back_of_text`). A record with another payload has no text, so that a
store of files refuses it before it writes anything. What is read from a document has the form of a
record, whatever the document came from.
-/

namespace GameLibrary

open Json (Tree treeOf)

namespace Key

variable {key : Key}

/-- Keys are written in sixty-four characters. -/
theorem length_text (key : Key) : key.text.length = 64 := by
  have hform := key.wellFormed
  unfold isKeyText at hform
  simp only [Bool.and_eq_true, decide_eq_true_eq] at hform
  exact hform.1

/-- Keys are written in the lowercase hexadecimal digits. -/
theorem digit_of_mem {c : Char} (hmem : c ∈ key.text.toList) : c ∈ "0123456789abcdef".toList := by
  have hform := key.wellFormed
  unfold isKeyText at hform
  simp only [Bool.and_eq_true, List.all_eq_true] at hform
  have hdigit : Text.isHexDigit c = true := hform.2 c hmem
  have hsmall : c.toNat < 128 := by
    unfold Text.isHexDigit at hdigit
    simp only [Bool.or_eq_true, Bool.and_eq_true, decide_eq_true_eq, Char.le_def,
      UInt32.le_iff_toNat_le, Char.toNat_val] at hdigit
    have hnine : '9'.toNat = 57 := rfl
    have hf : 'f'.toNat = 102 := rfl
    omega
  have hall : ∀ n : Fin 128, Text.isHexDigit (Char.ofNat n) = true →
      Char.ofNat n ∈ "0123456789abcdef".toList := by decide
  have hmember := hall ⟨c.toNat, hsmall⟩
  rw [Char.ofNat_toNat] at hmember
  exact hmember hdigit

/-- The key of sixty-four zeros, for runs on a fixed key. -/
def zeros : Key :=
  ⟨"0000000000000000000000000000000000000000000000000000000000000000", by decide⟩

/-- The key of sixty-four ones, for runs on two fixed keys. -/
def ones : Key :=
  ⟨"1111111111111111111111111111111111111111111111111111111111111111", by decide⟩

end Key

namespace Record

variable {record : Record} {tree : Tree}

/-- The record has a text, and is read back from it. -/
def ReadBack (record : Record) : Prop :=
  ∃ text, record.toText? = some text ∧ ofBytes? text.toUTF8 = some record

/-- A key is read from its own text. -/
theorem key_tree_of (key : Key) : Key.ofTree? (treeOf (.string key.text)) = some key := by
  unfold Key.ofTree?
  rw [text_tree_of]
  unfold Key.ofText
  dsimp only [Option.bind_eq_bind, Option.bind_some]
  rw [dif_pos key.wellFormed]
  rfl

/-- The document of a record with the given text as its payload. -/
def document (record : Record) (payload : String) : Json := .object [
  ("key", .string record.key.text), ("payload", .string payload),
  ("inserted_at", .string record.insertedAt.text), ("ttl_millis", .natural record.ttlMillis.toNat)]

/-- A record is read from its own document, with the time that the text of its own denotes. -/
theorem of_tree_document {payload : String} (hpayload : record.payload = payload.toUTF8)
    {stamp : Timestamp} (hinserted : Timestamp.ofText? record.insertedAt.text = some stamp) :
    ofTree? (treeOf (record.document payload)) = some { record with insertedAt := stamp } := by
  have httl : (treeOf (.natural record.ttlMillis.toNat)).natural? 64 = some record.ttlMillis.toNat :=
    natural_tree_of (by decide) record.ttlMillis.toNat_lt
  have hfields : (treeOf (record.document payload)).fields?
        ["key", "payload", "inserted_at", "ttl_millis"] =
      some [some (treeOf (.string record.key.text)), some (treeOf (.string payload)),
        some (treeOf (.string record.insertedAt.text)),
        some (treeOf (.natural record.ttlMillis.toNat))] := by
    unfold document
    rw [tree_of_object]
    rfl
  unfold ofTree?
  simp only [hfields, key_tree_of, text_tree_of, hinserted, httl, ← hpayload, Option.bind_eq_bind,
    Option.bind_some, Option.pure_def, UInt64.ofNat_toNat]

/-- A record with text for its payload has the text of its document. -/
theorem to_text_of_payload {payload : String} (hpayload : record.payload = payload.toUTF8) :
    record.toText? = some (record.document payload).compact := by
  have htext : String.fromUTF8? record.payload = some payload := by
    rw [hpayload]
    unfold String.fromUTF8?
    exact dif_pos payload.isValidUTF8
  unfold toText? toJson?
  rw [htext]
  rfl

/-- What the text of a record is read as. -/
theorem of_bytes_document {payload : String} (hpayload : record.payload = payload.toUTF8)
    {stamp : Timestamp} (hinserted : Timestamp.ofText? record.insertedAt.text = some stamp) :
    ofBytes? (record.document payload).compact.toUTF8 = some { record with insertedAt := stamp } := by
  unfold ofBytes?
  rw [Json.of_bytes_compact, Option.bind_eq_bind, Option.bind_some]
  exact of_tree_document hpayload hinserted

/-- A record with text for its payload is read back, if its time is. -/
theorem read_back_of_text (htext : ∃ text : String, record.payload = text.toUTF8)
    (hinserted : Timestamp.ofText? record.insertedAt.text = some record.insertedAt) :
    record.ReadBack := by
  obtain ⟨payload, hpayload⟩ := htext
  exact ⟨(record.document payload).compact, to_text_of_payload hpayload,
    of_bytes_document hpayload hinserted⟩

/-- A record of the kind that the durable tier is made for: a payload that is text, written in a
year of four digits. -/
structure Plain (record : Record) : Prop where
  text : ∃ text : String, record.payload = text.toUTF8
  insertedAt : record.insertedAt.Ordinary

theorem Plain.read_back (h : record.Plain) : record.ReadBack :=
  read_back_of_text h.text h.insertedAt.read_back

/-- The record has what the fields of the document say. -/
structure ReadFrom (record : Record) (tree : Tree) : Prop where
  fields : ∃ key payload insertedAt ttl,
    tree.fields? ["key", "payload", "inserted_at", "ttl_millis"] =
        some [some key, some payload, some insertedAt, some ttl] ∧
      key.text? = some record.key.text ∧
      payload.text?.map String.toUTF8 = some record.payload ∧
      insertedAt.text?.bind Timestamp.ofText? = some record.insertedAt ∧
      ttl.natural? 64 = some record.ttlMillis.toNat

/-- The key that is read from a document is the text that stands there. -/
theorem text_of_key {key : Key} (h : Key.ofTree? tree = some key) : tree.text? = some key.text := by
  unfold Key.ofTree? at h
  obtain ⟨text, htext, hkey⟩ := Option.bind_eq_some_iff.1 h
  unfold Key.ofText at hkey
  split at hkey
  · cases hkey
    exact htext
  · cases hkey

/-- A natural number that is read has as many bits as are asked for. -/
theorem lt_of_natural {bits n : Nat} (h : tree.natural? bits = some n) : n < 2 ^ bits := by
  unfold Tree.natural? Tree.integer? at h
  obtain ⟨m, hm, rfl⟩ := Option.map_eq_some_iff.1 h
  split at hm
  · obtain ⟨i, -, hi⟩ := Option.bind_eq_some_iff.1 hm
    split at hi
    · rename_i hbounds
      cases hi
      have hpower : ((Nat.pow 2 bits : Nat) : Int) = ((2 ^ bits : Nat) : Int) := rfl
      omega
    · cases hi
  · cases hm

/-- What is read from a document has what its fields say. -/
theorem read_from_of_of_tree (h : ofTree? tree = some record) : record.ReadFrom tree := by
  unfold ofTree? at h
  obtain ⟨fields, hfields, h⟩ := Option.bind_eq_some_iff.1 h
  split at h
  · rename_i key payload insertedAt ttl
    obtain ⟨foundKey, hkey, h⟩ := Option.bind_eq_some_iff.1 h
    obtain ⟨text, htext, h⟩ := Option.bind_eq_some_iff.1 h
    obtain ⟨time, htime, h⟩ := Option.bind_eq_some_iff.1 h
    obtain ⟨stamp, hstamp, h⟩ := Option.bind_eq_some_iff.1 h
    obtain ⟨millis, hmillis, h⟩ := Option.bind_eq_some_iff.1 h
    cases h
    refine ⟨key, payload, insertedAt, ttl, hfields, text_of_key hkey, ?_, ?_, ?_⟩
    · rw [htext, Option.map_some]
    · rw [htime, Option.bind_some, hstamp]
    · rw [hmillis, UInt64.toNat_ofNat_of_lt' (lt_of_natural hmillis)]
  · cases h

/-- A record with a payload that is not text has no text. -/
theorem to_text_eq_none (h : ¬ record.payload.IsValidUTF8) : record.toText? = none := by
  have htext : String.fromUTF8? record.payload = none := by
    unfold String.fromUTF8?
    exact dif_neg h
  unfold toText? toJson?
  rw [htext]
  rfl

end Record

/-- A record without a text is not put among the files: the directory is made if it does not exist,
and that is all. -/
theorem FileStore.put_without_text {record : Record} (h : record.toText? = none)
    (store : FileStore) : (∃ failure, (Backend.put store record).1 = .error failure) ∧
      ∀ name, (Backend.put store record).2.directory.entry name = store.directory.entry name := by
  have hprogram : ∀ directory temporary,
      ((FileStore.put record temporary).run directory).2 = directory.make.2 ∧
      ∃ failure, ((FileStore.put record temporary).run directory).1 = .error failure := by
    intro directory temporary
    unfold FileStore.put FileProgram.run
    dsimp only [Directory.serve]
    split
    · exact ⟨rfl, _, rfl⟩
    · rw [h]
      exact ⟨rfl, _, rfl⟩
  obtain ⟨hdirectory, hfailure⟩ :=
    hprogram store.directory (temporaryName record.key store.process store.sequence)
  refine ⟨hfailure, fun name => ?_⟩
  show ((FileStore.put record _).run store.directory).2.entry name = _
  rw [hdirectory]
  cases store.directory <;> rfl

namespace Record

/-- Records are read back from their text. Those of a payload that is text and of a year of four
digits have a text, which denotes them and nothing else. Those of a payload that is not text have
none, and are refused by a store of files, in which every name stands for what it stood for before.
And whatever bytes a record is read from: its key is the text of the field for it, which is sixty-four
hexadecimal digits in lowercase, and its payload is the text of its field. -/
theorem codec :
    (∀ record : Record, record.Plain →
      ∃ text, record.toText? = some text ∧ ofBytes? text.toUTF8 = some record) ∧
    (∀ record : Record, ¬ record.payload.IsValidUTF8 → record.toText? = none ∧
      ∀ store : FileStore, (∃ failure, (Backend.put store record).1 = .error failure) ∧
        ∀ name, (Backend.put store record).2.directory.entry name = store.directory.entry name) ∧
    (∀ bytes record, ofBytes? bytes = some record →
      (∃ tree, Tree.ofBytes? bytes = some tree ∧ record.ReadFrom tree) ∧
      record.key.text.length = 64 ∧ (∀ c ∈ record.key.text.toList, c ∈ "0123456789abcdef".toList) ∧
      record.payload.IsValidUTF8) := by
  refine ⟨fun record hplain => hplain.read_back, fun record hbytes => ?_, fun bytes record hread => ?_⟩
  · have hnone := to_text_eq_none hbytes
    exact ⟨hnone, FileStore.put_without_text hnone⟩
  · obtain ⟨tree, htree, hrecord⟩ := Option.bind_eq_some_iff.1 hread
    have hfrom := read_from_of_of_tree hrecord
    refine ⟨⟨tree, htree, hfrom⟩, record.key.length_text, fun c => record.key.digit_of_mem, ?_⟩
    obtain ⟨-, payload, -, -, -, -, hpayload, -, -⟩ := hfrom
    obtain ⟨text, -, htext⟩ := Option.map_eq_some_iff.1 hpayload
    rw [← htext]
    exact text.isValidUTF8

/-- A text with quotes, backslashes and control characters, which is a document itself. -/
def quotedText : String := "\x7b\"a\\b\": \"\t\u0001é\"\x7d"

/-- A record of the last nanosecond of the last year, to be kept for ever. -/
def ofLastYear : Record where
  key := .zeros
  payload := quotedText.toUTF8
  insertedAt := ⟨253402300799, 999999999⟩
  ttlMillis := 0xffffffffffffffff

/-- A record with a byte for its payload that is no text. -/
def ofByte : Record := { ofLastYear with payload := ⟨#[0xff]⟩ }

theorem codec_of_last_year :
    (∃ text, ofLastYear.toText? = some text ∧ ofBytes? text.toUTF8 = some ofLastYear ∧
      ofLastYear.key.text.length = 64) ∧
    ofByte.toText? = none := by
  obtain ⟨hplain, hbytes, hread⟩ := codec
  obtain ⟨text, htext, hback⟩ := hplain ofLastYear ⟨⟨quotedText, rfl⟩, by decide, by decide⟩
  refine ⟨⟨text, htext, hback, (hread _ _ hback).2.1⟩, (hbytes ofByte ?_).1⟩
  unfold ofByte
  decide

end Record

end GameLibrary
