import GameLibrary.Proofs.Store.Available

/-!
# The form of keys and the names of their files

Every key is a text of sixty-four lowercase hexadecimal digits, wherever it comes from: digests are
written in this form, and from texts and documents exactly what has the form is taken, as it is. So
a key can be cut for a log line, and its file has a name of its own, which stands for an entry of the
directory and for no temporary file: `Key.named_safely`.
-/

namespace GameLibrary

/-- The name is that of an entry of the directory in which it is looked up: it is not empty, does
not begin with a point, and has only letters and digits of ASCII, points and hyphens, none of which
separates the parts of a path. -/
structure IsEntryName (name : String) : Prop where
  first : ∃ c rest, name.toList = c :: rest ∧ c ≠ '.'
  plain : ∀ c ∈ name.toList, c.isAlphanum = true ∨ c = '.' ∨ c = '-'

namespace Key

open Json (Tree)

/-- The text consists of sixty-four lowercase hexadecimal digits. -/
structure Form (text : String) : Prop where
  length_eq : text.toList.length = 64
  digits : ∀ c ∈ text.toList, c ∈ "0123456789abcdef".toList

section Characters

/-- The digits are letters and digits of ASCII. -/
theorem of_digit {c : Char} (h : c ∈ "0123456789abcdef".toList) :
    Text.isHexDigit c = true ∧ c.isAlphanum = true ∧ c ≠ '.' ∧ c.toNat < 128 := by
  have hall : ("0123456789abcdef".toList.all fun c =>
      Text.isHexDigit c && c.isAlphanum && c != '.' && decide (c.toNat < 128)) = true := by
    decide +kernel
  simpa [and_assoc] using List.all_eq_true.1 hall c h

theorem form_text (key : Key) : Form key.text where
  length_eq := by rw [String.length_toList, key.length_text]
  digits _ hmem := digit_of_mem hmem

/-- What is checked of a text is the form. -/
theorem is_key_text_iff (text : String) : isKeyText text = true ↔ Form text := by
  constructor
  · exact fun h => form_text ⟨text, h⟩
  · intro h
    unfold isKeyText
    rw [Bool.and_eq_true, decide_eq_true_eq, List.all_eq_true]
    exact ⟨h.length_eq ▸ String.length_toList.symm, fun c hmem => (of_digit (h.digits c hmem)).1⟩

end Characters

section Bytes

/-- Whether the byte is the code of a lowercase hexadecimal digit. -/
def isDigitByte (b : UInt8) : Bool := (48 ≤ b && b ≤ 57) || (97 ≤ b && b ≤ 102)

/-- The bytes of a text are those of its characters. -/
theorem bytes_of_eq_flat_map (text : String) :
    bytesOf text = text.toList.flatMap String.utf8EncodeChar := by
  have hbytes : text.toByteArray = text.toList.utf8Encode := by
    rw [← String.toByteArray_ofList, String.ofList_toList]
  show text.toByteArray.data.toList = _
  rw [hbytes, List.utf8Encode]
  simp

/-- A character of ASCII has one byte, and the first byte of every other character is beyond
ASCII. -/
theorem utf8_encode_char_cases (c : Char) :
    c.toNat < 128 ∧ String.utf8EncodeChar c = [UInt8.ofNat c.toNat] ∨
      128 ≤ c.toNat ∧ ∃ first rest, String.utf8EncodeChar c = first :: rest ∧ 128 ≤ first := by
  have hbeyond (n lead : Nat) (hlead : 128 ≤ lead) (hsmall : n + lead < 256) :
      (128 : UInt8) ≤ UInt8.ofNat (n + lead) := by
    rw [UInt8.le_iff_toNat_le, UInt8.toNat_ofNat', Nat.mod_eq_of_lt hsmall]
    exact hlead.trans (Nat.le_add_left lead n)
  have hcode : c.val.toNat = c.toNat := rfl
  unfold String.utf8EncodeChar
  dsimp only
  rw [hcode]
  split
  · exact .inl ⟨by omega, rfl⟩
  · refine .inr ⟨by omega, ?_⟩
    split
    · exact ⟨_, _, rfl, hbeyond _ _ (by decide) (by omega)⟩
    · split
      · exact ⟨_, _, rfl, hbeyond _ _ (by decide) (by omega)⟩
      · exact ⟨_, _, rfl, hbeyond _ _ (by decide) (by omega)⟩

/-- Characters of which all bytes are in ASCII are in ASCII themselves. -/
theorem lt_of_bytes {chars : List Char} (h : ∀ b ∈ chars.flatMap String.utf8EncodeChar, b < 128)
    {c : Char} (hc : c ∈ chars) : c.toNat < 128 := by
  rcases utf8_encode_char_cases c with ⟨hascii, -⟩ | ⟨-, first, others, hbytes, hbeyond⟩
  · exact hascii
  · have hfirst : first ∈ String.utf8EncodeChar c := hbytes ▸ List.mem_cons_self
    exact absurd (h first (List.mem_flatMap.2 ⟨c, hc, hfirst⟩)) (UInt8.not_lt.2 hbeyond)

/-- Characters of ASCII are their bytes. -/
theorem bytes_of_codes {chars : List Char} (h : ∀ c ∈ chars, c.toNat < 128) :
    chars.flatMap String.utf8EncodeChar = chars.map (UInt8.ofNat ·.toNat) := by
  induction chars with
  | nil => rfl
  | cons c rest ih =>
      have hone : String.utf8EncodeChar c = [UInt8.ofNat c.toNat] := by
        have hascii := h c List.mem_cons_self
        rcases utf8_encode_char_cases c with ⟨-, hone⟩ | ⟨hbeyond, -⟩
        · exact hone
        · omega
      rw [List.flatMap_cons, hone, ih fun d hd => h d (List.mem_cons_of_mem c hd)]
      rfl

/-- Of the characters of ASCII, the digits are those with the codes of digits. -/
theorem is_digit_byte_code {c : Char} (h : c.toNat < 128) :
    isDigitByte (UInt8.ofNat c.toNat) = true ↔ c ∈ "0123456789abcdef".toList := by
  have hall : ∀ n : Fin 128, isDigitByte (UInt8.ofNat n) = true ↔
      Char.ofNat n ∈ "0123456789abcdef".toList := by decide +kernel
  have hcode := hall ⟨c.toNat, h⟩
  rwa [Char.ofNat_toNat] at hcode

/-- The form can be told from the bytes of a text. -/
theorem form_iff_bytes (text : String) :
    Form text ↔ (bytesOf text).length = 64 ∧ ∀ b ∈ bytesOf text, isDigitByte b = true := by
  rw [bytes_of_eq_flat_map]
  constructor
  · intro h
    have hchars (c : Char) (hc : c ∈ text.toList) : c.toNat < 128 :=
      (of_digit (h.digits c hc)).2.2.2
    rw [bytes_of_codes hchars, List.length_map]
    refine ⟨h.length_eq, fun b hb => ?_⟩
    obtain ⟨c, hc, rfl⟩ := List.mem_map.1 hb
    exact (is_digit_byte_code (hchars c hc)).2 (h.digits c hc)
  · rintro ⟨hlength, hdigits⟩
    have hascii : ∀ b, isDigitByte b = true → b < 128 := by
      intro b hb
      simp only [isDigitByte, Bool.or_eq_true, Bool.and_eq_true, decide_eq_true_eq,
        UInt8.le_iff_toNat_le, UInt8.reduceToNat] at hb
      simp only [UInt8.lt_iff_toNat_lt, UInt8.reduceToNat]
      omega
    have hchars (c : Char) (hc : c ∈ text.toList) : c.toNat < 128 :=
      lt_of_bytes (fun b hb => hascii b (hdigits b hb)) hc
    rw [bytes_of_codes hchars] at hlength hdigits
    refine ⟨by rwa [List.length_map] at hlength, fun c hc => ?_⟩
    exact (is_digit_byte_code (hchars c hc)).1 (hdigits _ (List.mem_map_of_mem hc))

end Bytes

section Reading

/-- A text in the form is taken as the key that it is. -/
theorem of_text_of_form {text : String} (h : Form text) :
    ∃ key, ofText text = .ok key ∧ key.text = text :=
  ⟨⟨text, (is_key_text_iff text).2 h⟩, dif_pos _, rfl⟩

/-- Every other text is refused, and shown in the refusal. -/
theorem of_text_of_not_form {text : String} (h : ¬ Form text) :
    ofText text = .error (.invalidKey text) :=
  dif_neg (mt (is_key_text_iff text).1 h)

/-- A document that is a text in the form is read as the key that it is. -/
theorem of_tree_of_form {tree : Tree} {text : String} (htext : tree.text? = some text)
    (h : Form text) : ∃ key, ofTree? tree = some key ∧ key.text = text := by
  obtain ⟨key, hkey, rfl⟩ := of_text_of_form h
  refine ⟨key, ?_, rfl⟩
  unfold ofTree?
  rw [htext]
  dsimp only [Option.bind_eq_bind, Option.bind_some]
  rw [hkey]
  rfl

/-- A document that is no text in the form is refused. -/
theorem of_tree_eq_none {tree : Tree} (h : ∀ text, tree.text? = some text → ¬ Form text) :
    ofTree? tree = none := by
  refine Option.eq_none_iff_forall_ne_some.2 fun key hkey => ?_
  exact h key.text (Record.text_of_key hkey) (form_text key)

end Reading

section Names

variable (key : Key)

/-- The abbreviated form has the first twelve characters, which are the first twelve bytes. -/
theorem short_eq : key.short.toList = key.text.toList.take 12 ∧ key.short.length = 12 ∧
    bytesOf key.short = (bytesOf key.text).take 12 := by
  have hform := form_text key
  have hascii (c : Char) (hc : c ∈ key.text.toList) : c.toNat < 128 :=
    (of_digit (hform.digits c hc)).2.2.2
  have htake : key.short.toList = key.text.toList.take 12 := String.toList_ofList
  refine ⟨htake, ?_, ?_⟩
  · rw [← String.length_toList, htake, List.length_take, hform.length_eq]
    rfl
  · rw [bytes_of_eq_flat_map, bytes_of_eq_flat_map, htake, bytes_of_codes hascii,
      bytes_of_codes fun c hc => hascii c (List.mem_of_mem_take hc), List.map_take]

/-- The file of a key is an entry of its directory. -/
theorem is_entry_name_file_name : IsEntryName (FileStore.fileName key) := by
  have hform := form_text key
  have hname : (FileStore.fileName key).toList = key.text.toList ++ ".json".toList :=
    String.toList_append
  have hending : (".json".toList.all fun c => c.isAlphanum || c == '.') = true := by
    decide +kernel
  constructor
  case first =>
    obtain ⟨c, rest, hcons⟩ : ∃ c rest, key.text.toList = c :: rest :=
      List.exists_cons_of_length_pos (by rw [hform.length_eq]; decide)
    refine ⟨c, rest ++ ".json".toList, by rw [hname, hcons, List.cons_append], ?_⟩
    exact (of_digit (hform.digits c (hcons ▸ List.mem_cons_self))).2.2.1
  case plain =>
    intro c hc
    rw [hname, List.mem_append] at hc
    rcases hc with hc | hc
    · exact .inl (of_digit (hform.digits c hc)).2.1
    · have hplain := List.all_eq_true.1 hending c hc
      rw [Bool.or_eq_true, beq_iff_eq] at hplain
      exact hplain.imp_right .inl

end Names

/-- Keys of ids and of items have the form, whatever the ids are; texts and documents are read as
keys exactly if they have it, unchanged, and every other text is refused with itself in the refusal.
The abbreviated form of a key is its beginning, byte by byte. Different keys have different files,
whose names are entries of the directory and never those of temporary files. -/
theorem named_safely :
    (∀ text, Form text ↔
      (bytesOf text).length = 64 ∧ ∀ b ∈ bytesOf text, isDigitByte b = true) ∧
    (∀ ids, Form (ofIds ids).text) ∧
    (∀ items, Form (ofItems items).text) ∧
    (∀ text, (Form text → ∃ key, ofText text = .ok key ∧ key.text = text) ∧
      (¬ Form text → ofText text = .error (.invalidKey text))) ∧
    (∀ tree : Tree, (∀ text, tree.text? = some text → Form text →
        ∃ key, ofTree? tree = some key ∧ key.text = text) ∧
      ((∀ text, tree.text? = some text → ¬ Form text) → ofTree? tree = none)) ∧
    (∀ key : Key, (Tree.ofBytes? (Json.string key.text).compact.toUTF8).bind ofTree? = some key) ∧
    (∀ key : Key, key.short.toList = key.text.toList.take 12 ∧ key.short.length = 12 ∧
      bytesOf key.short = (bytesOf key.text).take 12) ∧
    (∀ key, IsEntryName (FileStore.fileName key)) ∧
    Function.Injective FileStore.fileName ∧
    ∀ key other process sequence,
      FileStore.fileName key ≠ FileStore.temporaryName other process sequence := by
  refine ⟨form_iff_bytes, fun ids => form_text _, fun items => form_text _,
    fun text => ⟨of_text_of_form, of_text_of_not_form⟩,
    fun tree => ⟨fun text => of_tree_of_form, of_tree_eq_none⟩, ?_, short_eq, is_entry_name_file_name,
    fun key other => FileStore.file_name_inj, ?_⟩
  · intro key
    rw [Json.of_bytes_compact]
    exact Record.key_tree_of key
  · exact fun key other process sequence =>
      (FileStore.temporary_name_ne other key process sequence).symm

end Key

end GameLibrary
