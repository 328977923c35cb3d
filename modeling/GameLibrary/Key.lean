import GameLibrary.Digest.Sha256
import GameLibrary.Failure
import GameLibrary.Item
import GameLibrary.Text.Distinct
import GameLibrary.Text.Hex

/-!
# Working-set keys

A working set is identified by the set of its item ids: the key is the digest of the distinct ids in
ascending order, each behind its length, so neither the order nor the repetitions of a list matter
and no two sets run together. A key is written as sixty-four lowercase hexadecimal digits, which
holds of every key by its type.
-/

namespace GameLibrary

/-- Whether a text has the form of a key. -/
def isKeyText (text : String) : Bool := text.length = 64 && text.toList.all Text.isHexDigit

/-- The identity of a working set. -/
structure Key where
  text : String
  wellFormed : isKeyText text = true
deriving DecidableEq

namespace Key

/-- What every digest begins with. -/
def domain : String := "shelfwise/working-set/v1"

/-- The bytes of a text. -/
def bytesOf (text : String) : List UInt8 := text.toUTF8.data.toList

/-- A number in eight bytes, lowest first. -/
def lengthBytes (n : Nat) : List UInt8 :=
  [0, 1, 2, 3, 4, 5, 6, 7].map (Digest.Sha256.byteAt n)

/-- An id behind its length. -/
def entry (id : String) : List UInt8 := lengthBytes (bytesOf id).length ++ bytesOf id

/-- What is digested for a list of ids. -/
def message (ids : List String) : List UInt8 :=
  let distinct := Text.distinctSorted ids
  bytesOf domain ++ lengthBytes distinct.length ++ distinct.flatMap entry

/-- The eight digits of a word. -/
def wordDigits (word : UInt32) : List Char :=
  [28, 24, 20, 16, 12, 8, 4, 0].map fun shift => Text.hexDigit (word.toNat / Nat.pow 2 shift % 16)

/-- The digits of a digest. -/
def digits (digest : Digest.Sha256.State) : String :=
  String.ofList (digest.toList.flatMap wordDigits)

/-- The digits of a digest have the form of a key. -/
theorem is_key_text_digits (digest : Digest.Sha256.State) : isKeyText (digits digest) = true := by
  have word (w : UInt32) : (wordDigits w).length = 8 := by simp [wordDigits]
  have eights : ∀ ws : List UInt32, (ws.flatMap wordDigits).length = 8 * ws.length := by
    intro ws
    induction ws with
    | nil => rfl
    | cons w ws ih =>
      simp only [List.flatMap_cons, List.length_append, word, ih, List.length_cons]
      omega
  have length : (digest.toList.flatMap wordDigits).length = 64 := by
    rw [eights, Vector.length_toList]
  have hex : ∀ c ∈ digest.toList.flatMap wordDigits, Text.isHexDigit c = true := by
    intro c hc
    obtain ⟨w, -, hw⟩ := List.mem_flatMap.1 hc
    obtain ⟨shift, -, rfl⟩ := List.mem_map.1 hw
    exact Text.is_hex_digit_hex_digit _
  simp only [isKeyText, digits, String.length_ofList, length, String.toList_ofList,
    decide_true, Bool.true_and, List.all_eq_true]
  exact hex

/-- The key of a set of ids. -/
def ofIds (ids : List String) : Key :=
  ⟨digits (Digest.Sha256.digest (message ids)), is_key_text_digits _⟩

/-- The key of a working set. -/
def ofItems (items : List Item) : Key := ofIds (items.map Item.id)

/-- The key that a text is, if it has the form of one. -/
def ofText (text : String) : Except Failure Key :=
  if h : isKeyText text = true then .ok ⟨text, h⟩ else .error (.invalidKey text)

/-- The abbreviated form for log lines. -/
def short (key : Key) : String := String.ofList (key.text.toList.take 12)

/-- A number that spreads keys evenly: the value of their first digits, which are those of a
digest. -/
def hash (key : Key) : Nat :=
  (key.text.toList.take 4).foldl (fun n c => n * 16 + (Text.hexValue? c).getD 0) 0

/-- The key that a document denotes. -/
def ofTree? (tree : Json.Tree) : Option Key := do
  (ofText (← tree.text?)).toOption

end Key

end GameLibrary
