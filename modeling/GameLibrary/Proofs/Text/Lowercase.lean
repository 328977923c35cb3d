import GameLibrary.Proofs.Text.SmallForms
import GameLibrary.Proofs.Text.Trimming
import Mathlib.Algebra.GroupWithZero.Nat

/-!
# Lowercase of a stretch of text

The small letters of a stretch of text depend on its surroundings only through its capital sigmas
(`lowercase_between_eq_iff`). All that comes out is small, so lowercase text stays as it is
(`lowercase_lowercase`); blanks stay, and they do not matter to the sigmas between them, so it is
all one whether a text is first trimmed or first put in small letters (`trim_lowercase`). It is the
same as putting the letters from `A` to `Z` in small letters only for texts without other capitals
(`lowercase_eq_ascii_iff`).
-/

namespace GameLibrary.Text

variable {before chars after : List Char} {c d : Char}

section Sigmas

/-- The small form of a character that stands between two stretches of text, the one before being
given backwards. -/
def smallFormBetween (before : List Char) (c : Char) (after : List Char) : List Char :=
  if c = 'Σ' then [if endsWord before after then 'ς' else 'σ'] else smallForm c

theorem lowercase_from_cons : lowercaseFrom before (c :: after) =
    smallFormBetween before c after ++ lowercaseFrom (c :: before) after := rfl

/-- Where a character stands matters only to the capital sigma. -/
theorem small_form_between_eq_iff {before after before' after' : List Char} :
    smallFormBetween before c after = smallFormBetween before' c after' ↔
      (c = 'Σ' → endsWord before after = endsWord before' after') := by
  unfold smallFormBetween
  by_cases hsigma : c = 'Σ'
  · simp only [hsigma, if_true, true_imp_iff]
    cases endsWord before after <;> cases endsWord before' after' <;> simp
  · simp [hsigma]

/-- A small form is as long wherever the character stands. -/
theorem length_small_form_between (before : List Char) (c : Char) (after : List Char) :
    (smallFormBetween before c after).length = (smallForm c).length := by
  have hsigma : (smallForm 'Σ').length = 1 := rfl
  unfold smallFormBetween
  split
  · rename_i hc
    rw [hc, hsigma, List.length_singleton]
  · rfl

/-- The small forms of the characters of a stretch of text between two others. -/
def lowercaseBetween (before : List Char) : List Char → List Char → List Char
  | [], _ => []
  | c :: rest, after =>
      smallFormBetween before c (rest ++ after) ++ lowercaseBetween (c :: before) rest after

/-- A text is put in small letters stretch by stretch. -/
theorem lowercase_from_append (before chars after : List Char) :
    lowercaseFrom before (chars ++ after) =
      lowercaseBetween before chars after ++ lowercaseFrom (chars.reverse ++ before) after := by
  induction chars generalizing before with
  | nil => rfl
  | cons c rest ih =>
      rw [List.cons_append, lowercase_from_cons, ih, lowercaseBetween, List.append_assoc,
        List.reverse_cons, List.append_assoc, List.singleton_append]

theorem lowercase_between_nil (before chars : List Char) :
    lowercaseBetween before chars [] = lowercaseFrom before chars := by
  have happend := lowercase_from_append before chars []
  rw [List.append_nil, lowercaseFrom, List.append_nil] at happend
  exact happend.symm

theorem length_lowercase_between (before chars after : List Char) :
    (lowercaseBetween before chars after).length =
      (chars.map fun c => (smallForm c).length).sum := by
  induction chars generalizing before with
  | nil => rfl
  | cons c rest ih =>
      rw [lowercaseBetween, List.length_append, length_small_form_between, ih, List.map_cons,
        List.sum_cons]

/-- The last character of a stretch of text. -/
theorem lowercase_between_concat (before chars after : List Char) (c : Char) :
    lowercaseBetween before (chars ++ [c]) after =
      lowercaseBetween before chars (c :: after) ++
        smallFormBetween (chars.reverse ++ before) c after := by
  induction chars generalizing before with
  | nil => exact List.append_nil _
  | cons d rest ih =>
      rw [List.cons_append, lowercaseBetween, ih, lowercaseBetween, List.append_assoc,
        List.append_assoc, List.singleton_append, List.reverse_cons, List.append_assoc,
        List.singleton_append]

/-- Two surroundings agree on a stretch of text if they agree on whether its sigmas end words. -/
def Agree (chars before after before' after' : List Char) : Prop :=
  ∀ left right, chars = left ++ 'Σ' :: right →
    endsWord (left.reverse ++ before) (right ++ after) =
      endsWord (left.reverse ++ before') (right ++ after')

/-- The small letters of a stretch of text are the same exactly in surroundings that agree. -/
theorem lowercase_between_eq_iff {before after before' after' : List Char} :
    lowercaseBetween before chars after = lowercaseBetween before' chars after' ↔
      Agree chars before after before' after' := by
  induction chars generalizing before before' with
  | nil => simp [lowercaseBetween, Agree]
  | cons c rest ih =>
      have hlength : (smallFormBetween before c (rest ++ after)).length =
          (smallFormBetween before' c (rest ++ after')).length := by
        rw [length_small_form_between, length_small_form_between]
      rw [lowercaseBetween, lowercaseBetween]
      constructor
      · intro heq left right hsplit
        obtain ⟨hform, hrest⟩ := List.append_inj heq hlength
        cases left with
        | nil =>
            cases hsplit
            exact small_form_between_eq_iff.1 hform rfl
        | cons d left =>
            cases hsplit
            have hagree := ih.1 hrest left right rfl
            simpa using hagree
      · intro hagree
        have hform : smallFormBetween before c (rest ++ after) =
            smallFormBetween before' c (rest ++ after') :=
          small_form_between_eq_iff.2 fun hsigma => hagree [] rest (by rw [hsigma]; rfl)
        have hrest := ih.2 fun left right hsplit => by
          have hsigma := hagree (c :: left) right (by rw [hsplit]; rfl)
          simpa using hsigma
        rw [hform, hrest]

end Sigmas

section Small

theorem not_is_small_sigma : ¬ IsSmall 'Σ' := by decide

/-- The small form of a character is small wherever it stands. -/
theorem is_small_of_mem_between (h : d ∈ smallFormBetween before c after) : IsSmall d := by
  unfold smallFormBetween at h
  split at h
  · rw [List.mem_singleton.1 h]
    split <;> rfl
  · exact is_small_of_mem_small_form h

/-- Lowercase text is small. -/
theorem is_small_of_mem_lowercase_from (h : d ∈ lowercaseFrom before chars) : IsSmall d := by
  induction chars generalizing before with
  | nil => cases h
  | cons c rest ih =>
      rw [lowercase_from_cons] at h
      rcases List.mem_append.1 h with h | h
      · exact is_small_of_mem_between h
      · exact ih h

/-- A small character stays as it is. -/
theorem small_form_between_of_small (h : IsSmall c) : smallFormBetween before c after = [c] := by
  unfold smallFormBetween
  rw [if_neg]
  · exact h
  · rintro rfl
    exact not_is_small_sigma h

/-- A stretch of small text stays as it is. -/
theorem lowercase_between_of_small (h : ∀ c ∈ chars, IsSmall c) :
    lowercaseBetween before chars after = chars := by
  induction chars generalizing before with
  | nil => rfl
  | cons c rest ih =>
      rw [lowercaseBetween, small_form_between_of_small (h c List.mem_cons_self),
        ih fun d hd => h d (List.mem_cons_of_mem c hd), List.singleton_append]

theorem to_list_lowercase (text : String) :
    (lowercase text).toList = lowercaseFrom [] text.toList := String.toList_ofList

/-- Lowercase text stays as it is. -/
theorem lowercase_lowercase (text : String) : lowercase (lowercase text) = lowercase text := by
  rw [← String.toList_inj, to_list_lowercase, to_list_lowercase, ← lowercase_between_nil]
  exact lowercase_between_of_small fun c hc => is_small_of_mem_lowercase_from hc

end Small

section Blanks

/-- Blanks are neither skipped in looking for a letter nor letters themselves. -/
theorem blank_plain (h : isBlank c = true) : isCaseIgnorable c = false ∧ isCased c = false := by
  have hapart : ∀ blanks ∈ blankRanges,
      (∀ range ∈ caseIgnorableRanges, blanks.2 < range.1 ∨ range.2 < blanks.1) ∧
        ∀ range ∈ casedRanges, blanks.2 < range.1 ∨ range.2 < blanks.1 := by decide +kernel
  obtain ⟨blanks, hblanks, hlow, hhigh⟩ := is_blank_iff.1 h
  obtain ⟨hignorable, hcased⟩ := hapart blanks hblanks
  unfold isCaseIgnorable isCased covers
  rw [List.any_eq_false, List.any_eq_false]
  constructor
  · intro range hrange
    have := hignorable range hrange
    simp only [Bool.and_eq_true, decide_eq_true_eq]
    omega
  · intro range hrange
    have := hcased range hrange
    simp only [Bool.and_eq_true, decide_eq_true_eq]
    omega

/-- What follows does not matter to a stretch of text in which there is something not to skip. -/
theorem next_is_cased_append (chars after : List Char) : nextIsCased (chars ++ after) =
    if chars.all isCaseIgnorable then nextIsCased after else nextIsCased chars := by
  induction chars with
  | nil => rfl
  | cons c rest ih =>
      unfold nextIsCased at *
      by_cases hskip : isCaseIgnorable c = true
      · rw [List.cons_append, List.dropWhile_cons_of_pos hskip, ih,
          List.dropWhile_cons_of_pos hskip, List.all_cons, hskip, Bool.true_and]
      · have hstop : isCaseIgnorable c = false := by simpa using hskip
        rw [List.cons_append, List.dropWhile_cons_of_neg hskip, List.dropWhile_cons_of_neg hskip,
          List.all_cons, hstop, Bool.false_and]
        rfl

/-- In blanks there is no letter. -/
theorem next_is_cased_blanks (h : ∀ c ∈ chars, isBlank c = true) : nextIsCased chars = false := by
  cases chars with
  | nil => rfl
  | cons c rest =>
      obtain ⟨hskip, hcased⟩ := blank_plain (h c List.mem_cons_self)
      unfold nextIsCased
      rw [List.dropWhile_cons_of_neg (by rw [hskip]; exact Bool.false_ne_true)]
      exact hcased

/-- Where everything is skipped there is no letter. -/
theorem next_is_cased_of_all (h : chars.all isCaseIgnorable = true) : nextIsCased chars = false := by
  have happend := next_is_cased_append chars []
  rw [List.append_nil, if_pos h] at happend
  exact happend

/-- Blanks behind a stretch of text do not matter. -/
theorem next_is_cased_append_blanks (h : ∀ c ∈ after, isBlank c = true) :
    nextIsCased (chars ++ after) = nextIsCased chars := by
  rw [next_is_cased_append, next_is_cased_blanks h]
  split
  · rename_i hall
    exact (next_is_cased_of_all hall).symm
  · rfl

/-- Blanks around a stretch of text do not matter to its sigmas. -/
theorem agree_blanks (hbefore : ∀ c ∈ before, isBlank c = true)
    (hafter : ∀ c ∈ after, isBlank c = true) : Agree chars before after [] [] := by
  intro left right _
  unfold endsWord
  rw [next_is_cased_append_blanks hbefore, next_is_cased_append_blanks hafter, List.append_nil,
    List.append_nil]

/-- Exactly the blanks have blanks in their small form, wherever they stand. -/
theorem is_blank_of_mem_between (h : d ∈ smallFormBetween before c after) :
    isBlank d = isBlank c := by
  unfold smallFormBetween at h
  split at h
  · rename_i hsigma
    rw [List.mem_singleton.1 h, hsigma]
    split <;> rfl
  · exact is_blank_of_mem_small_form h

theorem small_form_between_ne_nil (before : List Char) (c : Char) (after : List Char) :
    smallFormBetween before c after ≠ [] := by
  unfold smallFormBetween
  split
  · exact List.cons_ne_nil _ _
  · exact small_form_ne_nil c

/-- Bare text stays bare in small letters. -/
theorem bare_lowercase (h : Bare chars) : Bare (lowercaseFrom before chars) := by
  constructor
  case first =>
    intro c rest hlower
    cases chars with
    | nil => cases hlower
    | cons d others =>
        rw [lowercase_from_cons] at hlower
        obtain ⟨first, form, hform⟩ :=
          List.exists_cons_of_ne_nil (small_form_between_ne_nil before d others)
        rw [hform] at hlower
        cases hlower
        rw [is_blank_of_mem_between (hform ▸ List.mem_cons_self), h.first rfl]
  case last =>
    intro c rest hlower
    rcases List.eq_nil_or_concat' chars with rfl | ⟨others, d, rfl⟩
    · simp [lowercaseFrom] at hlower
    · rw [← lowercase_between_nil, lowercase_between_concat] at hlower
      rcases List.eq_nil_or_concat'
        (smallFormBetween (others.reverse ++ before) d []) with hnil | ⟨form, last, hform⟩
      · exact absurd hnil (small_form_between_ne_nil _ _ _)
      · rw [hform, ← List.append_assoc] at hlower
        obtain ⟨-, hlast⟩ := List.append_inj' hlower rfl
        cases hlast
        rw [is_blank_of_mem_between (hform ▸ List.mem_concat_self), h.last rfl]

/-- It is all one whether a text is first trimmed or first put in small letters. -/
theorem trim_lowercase (text : String) : trim (lowercase text) = lowercase (trim text) := by
  obtain ⟨before, after, hbefore, hafter, htext⟩ := exists_trim text
  have hcore := bare_trim text
  rw [← String.toList_inj, to_list_lowercase (trim text)]
  refine to_list_trim_of_bare hbefore hafter (bare_lowercase hcore) ?_
  have hsmall : ∀ {chars : List Char}, (∀ c ∈ chars, isBlank c = true) → ∀ c ∈ chars, IsSmall c :=
    fun h c hc => is_small_of_blank (h c hc)
  have hmiddle : lowercaseBetween (before.reverse ++ []) (trim text).toList after =
      lowercaseFrom [] (trim text).toList := by
    rw [← lowercase_between_nil]
    refine lowercase_between_eq_iff.2 (agree_blanks (fun c hc => hbefore c ?_) hafter)
    simpa using hc
  have hend : lowercaseFrom ((trim text).toList.reverse ++ (before.reverse ++ [])) after =
      after := by
    rw [← lowercase_between_nil]
    exact lowercase_between_of_small (hsmall hafter)
  rw [to_list_lowercase, htext, List.append_assoc, lowercase_from_append, lowercase_from_append,
    lowercase_between_of_small (hsmall hbefore), hmiddle, hend, List.append_assoc]

end Blanks

section Ascii

/-- Beyond the codes below 128 no character is changed with the letters from `A` to `Z`. -/
theorem to_lower_of_not_ascii (h : 0x80 ≤ c.toNat) : c.toLower = c := by
  unfold Char.toLower
  rw [dif_neg]
  rintro ⟨-, hlast⟩
  have hcode : c.toNat ≤ 0x5a := UInt32.le_iff_toNat_le.1 hlast
  omega

/-- Small characters are not changed with the letters from `A` to `Z`. -/
theorem to_lower_of_small (h : IsSmall c) : c.toLower = c := by
  by_cases hascii : c.toNat < 0x80
  · have hform : smallForm c = [c.toLower] := if_pos hascii
    rw [IsSmall, hform] at h
    exact List.singleton_inj.1 h
  · exact to_lower_of_not_ascii (Nat.le_of_not_lt hascii)

theorem map_to_lower_lowercase_from (before chars : List Char) :
    (lowercaseFrom before chars).map Char.toLower = lowercaseFrom before chars := by
  conv_rhs => rw [← List.map_id (lowercaseFrom before chars)]
  exact List.map_congr_left fun c hc => to_lower_of_small (is_small_of_mem_lowercase_from hc)

/-- Lowercase text is not shorter. -/
theorem length_le_lowercase_from (before chars : List Char) :
    chars.length ≤ (lowercaseFrom before chars).length := by
  induction chars generalizing before with
  | nil => exact Nat.zero_le _
  | cons c rest ih =>
      have hform := List.length_pos_iff.2 (small_form_between_ne_nil before c rest)
      have hrest := ih (c :: before)
      rw [lowercase_from_cons, List.length_append, List.length_cons]
      omega

/-- The small form of a character is one of the letters from `A` to `Z` in small, or the character
itself, exactly if it is no other capital. -/
theorem small_form_between_eq_ascii_iff :
    smallFormBetween before c after = [c.toLower] ↔ c.toNat < 0x80 ∨ IsSmall c := by
  constructor
  · intro hform
    by_cases hascii : c.toNat < 0x80
    · exact .inl hascii
    · rw [to_lower_of_not_ascii (Nat.le_of_not_lt hascii)] at hform
      unfold smallFormBetween at hform
      split at hform
      · rename_i hsigma
        subst hsigma
        split at hform <;> simp at hform
      · exact .inr hform
  · rintro (hascii | hsmall)
    · unfold smallFormBetween
      rw [if_neg]
      · exact if_pos hascii
      · rintro rfl
        revert hascii
        decide
    · rw [small_form_between_of_small hsmall, to_lower_of_small hsmall]

/-- Putting a text in small letters is putting its letters from `A` to `Z` in small letters exactly
if it has no other capitals. -/
theorem lowercase_eq_ascii_iff : lowercaseFrom before chars = chars.map Char.toLower ↔
    ∀ c ∈ chars, c.toNat < 0x80 ∨ IsSmall c := by
  induction chars generalizing before with
  | nil => simp [lowercaseFrom]
  | cons c rest ih =>
      rw [lowercase_from_cons, List.map_cons, List.forall_mem_cons, ← @ih (c :: before),
        ← @small_form_between_eq_ascii_iff before rest c]
      constructor
      · intro h
        obtain ⟨first, others, hform⟩ :=
          List.exists_cons_of_ne_nil (small_form_between_ne_nil before c rest)
        rw [hform, List.cons_append, List.cons.injEq] at h
        obtain ⟨rfl, hrest⟩ := h
        -- The small form is one character, or else the text would have become longer.
        have hlength := congrArg List.length hrest
        rw [List.length_append, List.length_map] at hlength
        have hle := length_le_lowercase_from (c :: before) rest
        have hothers : others = [] := List.length_eq_zero_iff.1 (by omega)
        subst hothers
        exact ⟨hform, hrest⟩
      · rintro ⟨hform, hrest⟩
        rw [hform, hrest, List.singleton_append]

end Ascii

end GameLibrary.Text
