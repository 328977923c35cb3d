import GameLibrary.Json.Tree
import GameLibrary.Proofs.Json.Numbers

/-!
# Reading what was printed

The bytes of a value that was printed on one line are read as the tree of the value
(`of_bytes_compact`). The characters are those of the tokens of the value (`spells_compact`), and the
tokens take the reader behind its tree (`takes_tokens`), each by recursion over the value.
-/

namespace GameLibrary.Json

open Number (Binary64)
open Scan (Reads)

mutual

/-- A value as it is written. -/
def treeOf : Json → Tree
  | .null => .null
  | .bool b => .bool b
  | .integer n => .number (Literal.ofInt n)
  | .double x => if x.isFinite then .number (doubleLiteral x) else .null
  | .string text => .string (some text)
  | .array elements => .array (treesOf elements)
  | .object members => .object (memberTreesOf members)

/-- The elements of an array as they are written. -/
def treesOf : List Json → List Tree
  | [] => []
  | value :: others => treeOf value :: treesOf others

/-- The members of an object as they are written. -/
def memberTreesOf : List (String × Json) → List (Option String × Tree)
  | [] => []
  | (name, value) :: others => (some name, treeOf value) :: memberTreesOf others

end

theorem trees_of_eq_map (values : List Json) : treesOf values = values.map treeOf := by
  induction values with
  | nil => rfl
  | cons value others ih => rw [treesOf, ih, List.map_cons]

theorem member_trees_of_eq_map (members : List (String × Json)) :
    memberTreesOf members = members.map fun (name, value) => (some name, treeOf value) := by
  induction members with
  | nil => rfl
  | cons member others ih => rw [memberTreesOf, ih, List.map_cons]

/-- The token of a value that holds no others. -/
def scalarToken : Json → Token
  | .null => .null
  | .bool b => .bool b
  | .integer n => .number (Literal.ofInt n)
  | .double x => if x.isFinite then .number (doubleLiteral x) else .null
  | .string text => .string (some text)
  | .array _ => .arrayOpen
  | .object _ => .objectOpen

mutual

/-- The tokens of a value. -/
def tokensOf : Json → List Token
  | .array [] => [.arrayOpen, .arrayClose]
  | .array (first :: others) =>
      .arrayOpen :: (tokensOf first ++ (elementTokens others ++ [.arrayClose]))
  | .object [] => [.objectOpen, .objectClose]
  | .object ((name, value) :: others) =>
      .objectOpen :: .string (some name) :: .colon ::
        (tokensOf value ++ (memberTokens others ++ [.objectClose]))
  | value => [scalarToken value]

/-- The tokens of the elements after the first. -/
def elementTokens : List Json → List Token
  | [] => []
  | value :: others => .comma :: (tokensOf value ++ elementTokens others)

/-- The tokens of the members after the first. -/
def memberTokens : List (String × Json) → List Token
  | [] => []
  | (name, value) :: others =>
      .comma :: .string (some name) :: .colon :: (tokensOf value ++ memberTokens others)

end

section Scanning

/-- A value that holds no others is spelled with its token. -/
theorem spells_scalar (value : Json) (harray : ∀ elements, value ≠ .array elements)
    (hobject : ∀ members, value ≠ .object members) :
    Spells (scalarChars value) [scalarToken value] := by
  have hnull : Spells "null".toList [.null] :=
    spells_of_reads (.silent rfl (.silent rfl (.silent rfl (.single rfl))))
  cases value with
  | null => exact hnull
  | bool b =>
      cases b with
      | false =>
          exact spells_of_reads
            (.silent rfl (.silent rfl (.silent rfl (.silent rfl (.single rfl)))))
      | true => exact spells_of_reads (.silent rfl (.silent rfl (.silent rfl (.single rfl))))
  | integer n =>
      rw [scalarChars, scalarToken, ← chars_of_int]
      exact spells_literal (well_formed_of_int n)
  | double x =>
      rw [scalarChars, scalarToken]
      by_cases hx : x.isFinite
      · rw [if_pos hx, ← chars_double_literal hx]
        exact spells_literal (well_formed_double_literal x)
      · unfold doubleText
        rw [if_neg hx, if_neg hx]
        exact hnull
  | string text => exact spells_of_reads (reads_string text)
  | array elements => exact absurd rfl (harray elements)
  | object members => exact absurd rfl (hobject members)

/-- The name of a member with its colon. -/
theorem reads_name (name : String) :
    Reads .between (stringChars name ++ [':']) [.string (some name), .colon] .between :=
  (reads_string name).append (.single rfl)

mutual

/-- A value is spelled with its tokens. -/
theorem spells_compact : ∀ value : Json, Spells (compactChars value) (tokensOf value)
  | .null | .bool _ | .integer _ | .double _ | .string _ => by
      simp only [compactChars, tokensOf]
      exact spells_scalar _ nofun nofun
  | .array [] => by
      rw [compactChars, tokensOf]
      exact spells_of_reads (.speaks rfl (.single rfl))
  | .array (first :: others) => by
      rw [compactChars, tokensOf, List.append_assoc]
      exact spells_of_reads (.speaks rfl (reads_elements others (spells_compact first)))
  | .object [] => by
      rw [compactChars, tokensOf]
      exact spells_of_reads (.speaks rfl (.single rfl))
  | .object ((name, value) :: others) => by
      have hvalue := (reads_name name).append (reads_members others (spells_compact value))
      rw [compactChars, tokensOf]
      refine spells_of_reads (.speaks rfl ?_)
      simpa using hvalue

/-- The elements of an array from the end of one on. -/
theorem reads_elements : ∀ (others : List Json) {chars : List Char} {made : List Token},
    Spells chars made → Reads .between (chars ++ (compactElements others ++ [']']))
      (made ++ (elementTokens others ++ [.arrayClose])) .between
  | [], _, _, h => h.delimited .arrayClose
  | value :: others, _, _, h => by
      have hmore := (h.delimited .comma).append (reads_elements others (spells_compact value))
      rw [compactElements, elementTokens]
      simpa using hmore

/-- The members of an object from the end of one on. -/
theorem reads_members : ∀ (others : List (String × Json)) {chars : List Char} {made : List Token},
    Spells chars made → Reads .between (chars ++ (compactMembers others ++ ['\x7d']))
      (made ++ (memberTokens others ++ [.objectClose])) .between
  | [], _, _, h => h.delimited .objectClose
  | (name, value) :: others, _, _, h => by
      have hmore := (h.delimited .comma).append
        ((reads_name name).append (reads_members others (spells_compact value)))
      rw [compactMembers, memberTokens]
      simpa using hmore

end

end Scanning

section Tokens

/-- The tokens take the reader from one place to another one. -/
def Reader.Takes (reader : Reader) (tokens : List Token) (next : Reader) : Prop :=
  tokens.foldlM Reader.step reader = some next

open Reader (Takes complete)

variable {reader next last : Reader} {token : Token} {tokens more : List Token}
  {frames outer : List Frame}

theorem Reader.Takes.cons (hstep : reader.step token = some next) (h : Takes next tokens last) :
    Takes reader (token :: tokens) last := by
  unfold Takes at *
  rw [List.foldlM_cons, hstep]
  exact h

theorem Reader.Takes.append (h : Takes reader tokens next) (hmore : Takes next more last) :
    Takes reader (tokens ++ more) last := by
  unfold Takes at *
  rw [List.foldlM_append, h]
  exact hmore

/-- The tokens of a value begin with one that closes no bracket. -/
theorem tokens_of_eq_cons (value : Json) :
    ∃ token tokens, tokensOf value = token :: tokens ∧ token ≠ .arrayClose := by
  cases value with
  | null | bool | integer | string =>
      simp only [tokensOf]
      exact ⟨_, [], rfl, nofun⟩
  | double x =>
      simp only [tokensOf]
      refine ⟨_, [], rfl, ?_⟩
      rw [scalarToken]
      split <;> exact nofun
  | array elements =>
      cases elements with
      | nil =>
          rw [tokensOf]
          exact ⟨_, _, rfl, nofun⟩
      | cons first others =>
          rw [tokensOf]
          exact ⟨_, _, rfl, nofun⟩
  | object members =>
      cases members with
      | nil =>
          rw [tokensOf]
          exact ⟨_, _, rfl, nofun⟩
      | cons member others =>
          rw [tokensOf]
          exact ⟨_, _, rfl, nofun⟩

/-- Behind an opening bracket a value is read as elsewhere. -/
theorem Reader.Takes.first {value : Json}
    (h : Takes ⟨.array [] :: outer, .value⟩ (tokensOf value) next) :
    Takes ⟨.array [] :: outer, .valueOrClose⟩ (tokensOf value) next := by
  obtain ⟨token, tokens, htokens, htoken⟩ := tokens_of_eq_cons value
  rw [htokens] at h ⊢
  have hstep : Reader.step ⟨.array [] :: outer, .valueOrClose⟩ token =
      Reader.step ⟨.array [] :: outer, .value⟩ token := by
    cases token with
    | arrayClose => exact absurd rfl htoken
    | _ => rfl
  unfold Takes at *
  rw [List.foldlM_cons] at h ⊢
  rw [hstep]
  exact h

mutual

/-- The tokens of a value take the reader behind its tree. -/
theorem takes_tokens : ∀ (value : Json) {frames : List Frame},
    Takes ⟨frames, .value⟩ (tokensOf value) (complete frames (treeOf value))
  | .null, _ | .bool _, _ | .integer _, _ | .string _, _ => by
      simp only [tokensOf, treeOf]
      rfl
  | .double x, _ => by
      simp only [tokensOf, treeOf, scalarToken]
      by_cases hx : x.isFinite
      · rw [if_pos hx, if_pos hx]
        rfl
      · rw [if_neg hx, if_neg hx]
        rfl
  | .array [], _ => by
      rw [tokensOf, treeOf, treesOf]
      rfl
  | .array (first :: others), _ => by
      rw [tokensOf, treeOf, treesOf]
      exact .cons rfl ((takes_tokens first).first.append (takes_elements others))
  | .object [], _ => by
      rw [tokensOf, treeOf, memberTreesOf]
      rfl
  | .object ((name, value) :: others), _ => by
      rw [tokensOf, treeOf, memberTreesOf]
      exact .cons rfl (.cons rfl (.cons rfl ((takes_tokens value).append (takes_members others))))

/-- The tokens of the elements after the first. -/
theorem takes_elements : ∀ (others : List Json) {elements : List Tree} {outer : List Frame},
    Takes ⟨.array elements :: outer, .commaOrClose⟩ (elementTokens others ++ [.arrayClose])
      (complete outer (.array (elements.reverse ++ treesOf others)))
  | [], _, _ => by
      rw [elementTokens, treesOf, List.append_nil]
      rfl
  | value :: others, elements, outer => by
      have hvalue : Takes ⟨.array elements :: outer, .value⟩ (tokensOf value)
          ⟨.array (treeOf value :: elements) :: outer, .commaOrClose⟩ := takes_tokens value
      have hmore := hvalue.append (takes_elements others)
      rw [List.reverse_cons, List.append_assoc] at hmore
      rw [elementTokens, treesOf, List.cons_append, List.append_assoc]
      exact .cons rfl hmore

/-- The tokens of the members after the first. -/
theorem takes_members : ∀ (others : List (String × Json)) {members : List (Option String × Tree)}
    {name : Option String} {outer : List Frame},
    Takes ⟨.object members name :: outer, .commaOrClose⟩ (memberTokens others ++ [.objectClose])
      (complete outer (.object (members.reverse ++ memberTreesOf others)))
  | [], _, _, _ => by
      rw [memberTokens, memberTreesOf, List.append_nil]
      rfl
  | (next, value) :: others, members, name, outer => by
      have hvalue : Takes ⟨.object members (some next) :: outer, .value⟩ (tokensOf value)
          ⟨.object ((some next, treeOf value) :: members) (some next) :: outer, .commaOrClose⟩ :=
        takes_tokens value
      have hmore := hvalue.append (takes_members others)
      rw [List.reverse_cons, List.append_assoc] at hmore
      rw [memberTokens, memberTreesOf, List.cons_append, List.cons_append, List.cons_append,
        List.append_assoc]
      exact .cons rfl (.cons rfl (.cons rfl hmore))

end

/-- The tree of the tokens of a value. -/
theorem of_tokens_tokens_of (value : Json) :
    Tree.ofTokens? (tokensOf value) = some (treeOf value) := by
  have htakes : Takes ⟨[], .value⟩ (tokensOf value) (complete [] (treeOf value)) :=
    takes_tokens value
  unfold Takes at htakes
  unfold Tree.ofTokens?
  rw [htakes]
  rfl

end Tokens

/-- The characters of a text are those of its bytes. -/
theorem cells_to_utf8 (text : String) : cells text.toUTF8 = text.toList.map some := by
  have hread : String.fromUTF8? text.toUTF8 = some text := by
    unfold String.fromUTF8?
    exact dif_pos text.isValidUTF8
  unfold cells
  rw [hread]

/-- The bytes of a value that was printed on one line are read as the tree of the value. -/
theorem of_bytes_compact (value : Json) :
    Tree.ofBytes? value.compact.toUTF8 = some (treeOf value) := by
  have htokens := tokens_of_spells (spells_compact value)
  unfold Tree.ofBytes? compact
  rw [cells_to_utf8, String.toList_ofList, htokens]
  exact of_tokens_tokens_of value

end GameLibrary.Json
