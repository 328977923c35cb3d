import GameLibrary.Key
import GameLibrary.Proofs.Text.Distinct

/-!
# What a key tells

The message behind a key can be read in one way only, since every id stands behind its length. So
two lists of ids have the same message exactly if they have the same members
(`message_tells_ids`), and as the digits of a digest tell the digest, two sets have the same key
only where the digest collides.
-/

namespace GameLibrary

/-- A list of words of a code can be read in one way only if the first word can be told from what
follows it. -/
theorem flat_map_code_inj {α β : Type} {code : α → List β} (admissible : α → Prop)
    (hne : ∀ a, code a ≠ [])
    (hsplit : ∀ {a b first second}, admissible a → admissible b →
      code a ++ first = code b ++ second → a = b ∧ first = second)
    {as bs : List α} (has : ∀ a ∈ as, admissible a) (hbs : ∀ b ∈ bs, admissible b)
    (h : as.flatMap code = bs.flatMap code) : as = bs := by
  induction as generalizing bs with
  | nil =>
      cases bs with
      | nil => rfl
      | cons b bs =>
          rw [List.flatMap_nil, List.flatMap_cons, eq_comm, List.append_eq_nil_iff] at h
          exact absurd h.1 (hne b)
  | cons a as ih =>
      cases bs with
      | nil =>
          rw [List.flatMap_nil, List.flatMap_cons, List.append_eq_nil_iff] at h
          exact absurd h.1 (hne a)
      | cons b bs =>
          rw [List.flatMap_cons, List.flatMap_cons] at h
          obtain ⟨hhead, htail⟩ := hsplit (has a List.mem_cons_self) (hbs b List.mem_cons_self) h
          have hrest := ih (fun x hx => has x (List.mem_cons_of_mem a hx))
            (fun x hx => hbs x (List.mem_cons_of_mem b hx)) htail
          rw [hhead, hrest]

/-- Numbers agree below a power of the base if their digits do. -/
theorem mod_pow_of_digits {base m n count : Nat}
    (h : ∀ place < count, m / base ^ place % base = n / base ^ place % base) :
    m % base ^ count = n % base ^ count := by
  induction count with
  | zero => rw [Nat.pow_zero, Nat.mod_one, Nat.mod_one]
  | succ count ih =>
      have hbelow := ih fun place hplace => h place (Nat.lt_succ_of_lt hplace)
      rw [Nat.mod_pow_succ, Nat.mod_pow_succ, hbelow, h count (Nat.lt_succ_self count)]

/-- A digit tells its value. -/
theorem Text.hex_digit_inj {m n : Nat} (hm : m < 16) (hn : n < 16)
    (h : Text.hexDigit m = Text.hexDigit n) : m = n := by
  have hall : ∀ a b : Fin 16, Text.hexDigit a = Text.hexDigit b → a = b := by decide
  exact congrArg Fin.val (hall ⟨m, hm⟩ ⟨n, hn⟩ h)

namespace Key

/-- The length of every id can be written in eight bytes, as the length of a text in memory can. -/
def Addressable (ids : List String) : Prop := ∀ id ∈ ids, id.utf8ByteSize < 2 ^ 64

/-- A text is determined by its bytes. -/
theorem bytes_of_inj {text other : String} (h : bytesOf text = bytesOf other) : text = other := by
  have hdata : text.toByteArray.data = other.toByteArray.data := Array.toList_inj.1 h
  exact String.toByteArray_inj.1 (ByteArray.ext hdata)

theorem length_length_bytes (n : Nat) : (lengthBytes n).length = 8 := rfl

/-- Eight bytes tell a length that fits into them. -/
theorem length_bytes_inj {m n : Nat} (hm : m < 2 ^ 64) (hn : n < 2 ^ 64)
    (h : lengthBytes m = lengthBytes n) : m = n := by
  have hmod : m % 2 ^ 64 = n % 2 ^ 64 := by
    rw [show (2 : Nat) ^ 64 = 256 ^ 8 from rfl]
    apply mod_pow_of_digits
    intro position hposition
    have hmem : position ∈ [0, 1, 2, 3, 4, 5, 6, 7] := by
      simp only [List.mem_cons]
      omega
    have hbyte := congrArg UInt8.toNat (List.map_inj_left.1 h position hmem)
    simpa [Digest.Sha256.byteAt] using hbyte
  rwa [Nat.mod_eq_of_lt hm, Nat.mod_eq_of_lt hn] at hmod

/-- An id behind its length can be told from what follows it. -/
theorem entry_append_inj {id other : String} {first second : List UInt8}
    (hid : id.utf8ByteSize < 2 ^ 64) (hother : other.utf8ByteSize < 2 ^ 64)
    (h : entry id ++ first = entry other ++ second) : id = other ∧ first = second := by
  unfold entry at h
  rw [List.append_assoc, List.append_assoc] at h
  obtain ⟨hlength, hbytes⟩ := List.append_inj h
    ((length_length_bytes _).trans (length_length_bytes _).symm)
  have hsame : (bytesOf id).length = (bytesOf other).length :=
    length_bytes_inj hid hother hlength
  obtain ⟨htext, hrest⟩ := List.append_inj hbytes hsame
  exact ⟨bytes_of_inj htext, hrest⟩

theorem entry_ne_nil (id : String) : entry id ≠ [] := by
  intro h
  have hlength := congrArg List.length h
  rw [entry, List.length_append, length_length_bytes, List.length_nil] at hlength
  omega

/-- The message tells the distinct ids. -/
theorem distinct_of_message {ids others : List String} (hids : Addressable ids)
    (hothers : Addressable others) (h : message ids = message others) :
    Text.distinctSorted ids = Text.distinctSorted others := by
  unfold message at h
  dsimp only at h
  rw [List.append_assoc, List.append_assoc] at h
  -- The ids can be told apart without their number, which stands before them.
  have hentries := (List.append_inj (List.append_cancel_left h)
    ((length_length_bytes _).trans (length_length_bytes _).symm)).2
  refine flat_map_code_inj (fun id => id.utf8ByteSize < 2 ^ 64) entry_ne_nil entry_append_inj ?_ ?_
    hentries
  · intro id hid
    exact hids id ((Text.mem_distinct_sorted ids).1 hid)
  · intro id hid
    exact hothers id ((Text.mem_distinct_sorted others).1 hid)

theorem length_word_digits (word : UInt32) : (wordDigits word).length = 8 := rfl

/-- Eight digits tell a word. -/
theorem word_digits_inj {word other : UInt32} (h : wordDigits word = wordDigits other) :
    word = other := by
  have hmod : word.toNat % 2 ^ 32 = other.toNat % 2 ^ 32 := by
    rw [show (2 : Nat) ^ 32 = 16 ^ 8 from rfl]
    apply mod_pow_of_digits
    intro place hplace
    have hmem : 4 * place ∈ [28, 24, 20, 16, 12, 8, 4, 0] := by
      simp only [List.mem_cons]
      omega
    rw [show (16 : Nat) = 2 ^ 4 from rfl, ← Nat.pow_mul]
    exact Text.hex_digit_inj (Nat.mod_lt _ (by decide)) (Nat.mod_lt _ (by decide))
      (List.map_inj_left.1 h (4 * place) hmem)
  rw [Nat.mod_eq_of_lt word.toNat_lt, Nat.mod_eq_of_lt other.toNat_lt] at hmod
  exact UInt32.toNat_inj.1 hmod

/-- Its digits tell a digest. -/
theorem digits_inj {digest other : Digest.Sha256.State} (h : digits digest = digits other) :
    digest = other := by
  have hwords : digest.toList.flatMap wordDigits = other.toList.flatMap wordDigits :=
    String.ofList_injective h
  apply Vector.toList_inj.1
  refine flat_map_code_inj (fun _ => True) ?_ ?_ (fun _ _ => trivial) (fun _ _ => trivial)
    hwords
  · intro word hnil
    have hlength := congrArg List.length hnil
    rw [length_word_digits, List.length_nil] at hlength
    omega
  · intro word word' first second _ _ hsplit
    obtain ⟨hhead, hrest⟩ := List.append_inj hsplit
      ((length_word_digits _).trans (length_word_digits _).symm)
    exact ⟨word_digits_inj hhead, hrest⟩

/-- Lists with the same members have the same message. -/
theorem message_congr {ids others : List String} (hsame : ∀ id, id ∈ ids ↔ id ∈ others) :
    message ids = message others := by
  unfold message
  rw [Text.distinct_sorted_congr hsame]

/-- Lists with the same members have the same key. -/
theorem of_ids_congr {ids others : List String} (hsame : ∀ id, id ∈ ids ↔ id ∈ others) :
    ofIds ids = ofIds others := by
  unfold ofIds
  simp only [message_congr hsame]

/-- The digest does not collide on the lists, whose ids are short enough to be in memory. -/
structure CollisionFree (lists : List (List String)) : Prop where
  addressable : ∀ ids ∈ lists, Addressable ids
  digest : ∀ ids ∈ lists, ∀ others ∈ lists,
    Digest.Sha256.digest (message ids) = Digest.Sha256.digest (message others) →
    message ids = message others

/-- The digest cannot collide on lists with the same members. -/
theorem CollisionFree.of_mem_iff {lists : List (List String)} (ids : List String)
    (haddressable : Addressable ids) (hsame : ∀ others ∈ lists, ∀ id, id ∈ others ↔ id ∈ ids) :
    CollisionFree lists where
  addressable others hothers id hid := haddressable id ((hsame others hothers id).1 hid)
  digest first hfirst second hsecond _ :=
    message_congr fun id => (hsame first hfirst id).trans (hsame second hsecond id).symm

/-- Of lists on which the digest does not collide, those with the same key have the same members. -/
theorem CollisionFree.mem_iff {lists : List (List String)} {ids others : List String}
    (h : CollisionFree lists) (hids : ids ∈ lists) (hothers : others ∈ lists)
    (hkey : ofIds ids = ofIds others) (id : String) : id ∈ ids ↔ id ∈ others := by
  have hdigest := digits_inj (congrArg Key.text hkey)
  have hdistinct := distinct_of_message (h.addressable ids hids) (h.addressable others hothers)
    (h.digest ids hids others hothers hdigest)
  rw [← Text.mem_distinct_sorted ids, ← Text.mem_distinct_sorted others, hdistinct]

/-- The message behind a key tells the set of ids and nothing else. So sets have one key each, and
where the digest does not collide, no two sets have the same. -/
theorem message_tells_ids {ids others : List String} (hids : Addressable ids)
    (hothers : Addressable others) :
    (message ids = message others ↔ ∀ id, id ∈ ids ↔ id ∈ others) ∧
      ((∀ id, id ∈ ids ↔ id ∈ others) → ofIds ids = ofIds others) ∧
      ((Digest.Sha256.digest (message ids) = Digest.Sha256.digest (message others) →
          message ids = message others) →
        ¬ (∀ id, id ∈ ids ↔ id ∈ others) → ofIds ids ≠ ofIds others) := by
  have hmessage : message ids = message others ↔ ∀ id, id ∈ ids ↔ id ∈ others := by
    constructor
    · intro h id
      rw [← Text.mem_distinct_sorted ids, ← Text.mem_distinct_sorted others,
        distinct_of_message hids hothers h]
    · exact message_congr
  refine ⟨hmessage, of_ids_congr, ?_⟩
  · intro hcollision hdiffer hkey
    have hdigest := digits_inj (congrArg Key.text hkey)
    exact hdiffer (hmessage.1 (hcollision hdigest))

/-- The first word of the digest of a message that takes one block. -/
theorem first_word_of_block {message : List UInt8}
    (hblock : (Digest.Sha256.words (Digest.Sha256.pad message)).length = 16) :
    (Digest.Sha256.digest message)[0] = Digest.Sha256.start[0] +
      ((Digest.Sha256.roundConstants.zip (Digest.Sha256.schedule 64
        (Digest.Sha256.words (Digest.Sha256.pad message)))).foldl
          (fun s next => Digest.Sha256.round s next.1 next.2)
          Digest.Sha256.start)[0] := by
  unfold Digest.Sha256.digest
  dsimp only
  rw [hblock]
  show (Digest.Sha256.compress _ _)[0] = _
  rw [List.take_of_length_le (by omega)]
  exact Vector.getElem_zipWith _

/-- Two sets of ids that would run together without the lengths; the first is listed out of order
and with a repetition. Their digests differ in the first word, so their keys differ. -/
theorem message_tells_ids_split :
    message ["c", "ab", "c"] ≠ message ["a", "bc"] ∧
      ofIds ["c", "ab", "c"] ≠ ofIds ["a", "bc"] := by
  have hfirst : message ["c", "ab", "c"] =
      bytesOf domain ++ lengthBytes 2 ++ ["ab", "c"].flatMap entry := by
    have hsame : ∀ id, id ∈ ["c", "ab", "c"] ↔ id ∈ ["ab", "c"] := by
      intro id
      simp only [List.mem_cons]
      tauto
    unfold message
    rw [Text.distinct_sorted_congr hsame, Text.distinct_sorted_of_pairwise (by decide)]
    rfl
  have hsecond : message ["a", "bc"] =
      bytesOf domain ++ lengthBytes 2 ++ ["a", "bc"].flatMap entry := by
    unfold message
    rw [Text.distinct_sorted_of_pairwise (by decide)]
    rfl
  have hdigest : Digest.Sha256.digest (message ["c", "ab", "c"]) ≠
      Digest.Sha256.digest (message ["a", "bc"]) := by
    intro h
    have hword := congrArg (fun digest => digest[0]) h
    rw [hfirst, hsecond] at hword
    rw [first_word_of_block (by decide +kernel), first_word_of_block (by decide +kernel)] at hword
    exact absurd hword (by decide +kernel)
  have hdiffer : ¬ ∀ id, id ∈ ["c", "ab", "c"] ↔ id ∈ ["a", "bc"] := by
    intro hsame
    exact absurd ((hsame "c").1 (by decide)) (by decide)
  have htells : Addressable ["c", "ab", "c"] ∧ Addressable ["a", "bc"] := by
    unfold Addressable
    decide
  obtain ⟨hmessage, -, hkey⟩ := message_tells_ids htells.1 htells.2
  exact ⟨fun h => hdiffer (hmessage.1 h), hkey (fun h => absurd h hdigest) hdiffer⟩

end Key

end GameLibrary
