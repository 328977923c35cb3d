import GameLibrary.Proofs.Text.Lowercase

/-!
# Settled sigmas

Whether a capital sigma becomes a final one depends on the letters around it. In a stretch of text
whose sigmas are settled it cannot depend on what stands around the stretch
(`agree_of_settled`); around any other one a letter can be put such that the stretch alone does not
occur any more in small letters (`exists_apart`).
-/

namespace GameLibrary.Text

variable {needle text chars before after : List Char} {c : Char}

/-- A text occurs in another one if it is a stretch of it. -/
theorem occurs_in_iff : occursIn needle text = true ↔ needle <:+: text := by
  induction text with
  | nil =>
      rw [occursIn, List.isEmpty_iff]
      exact List.infix_nil.symm
  | cons c rest ih =>
      rw [occursIn, Bool.or_eq_true, ih, List.isPrefixOf_iff_prefix, List.infix_cons_iff]

/-- The sigmas of a stretch of text are settled: behind each of them comes a letter, or the nearest
character that counts is known on both sides or known on the left and no letter. -/
def Settled (chars : List Char) : Prop :=
  ∀ left right, chars = left ++ 'Σ' :: right →
    nextIsCased right = true ∨
      left.all isCaseIgnorable = false ∧
        (right.all isCaseIgnorable = false ∨ nextIsCased left.reverse = false)

/-- All surroundings agree on a stretch of text with settled sigmas. -/
theorem agree_of_settled (h : Settled chars) (before after : List Char) :
    Agree chars before after [] [] := by
  intro left right hsplit
  unfold endsWord
  rw [next_is_cased_append, next_is_cased_append, List.append_nil, List.append_nil, List.all_reverse]
  rcases h left right hsplit with hright | ⟨hleft, hright | hletter⟩
  · have hnot : right.all isCaseIgnorable = false := by
      by_cases hall : right.all isCaseIgnorable = true
      · rw [next_is_cased_of_all hall] at hright
        cases hright
      · simpa using hall
    simp [hright, hnot]
  · simp [hleft, hright]
  · simp [hleft, hletter]

/-- A text that occurs behind one more character begins with it, or is the rest. -/
theorem head_of_infix_cons (hoccurs : needle <:+: c :: text) (hlength : needle.length = text.length)
    (hne : needle ≠ text) : needle.head? = some c := by
  rcases List.infix_cons_iff.1 hoccurs with hstart | hrest
  · cases needle with
    | nil => exact absurd (List.length_eq_zero_iff.1 hlength.symm).symm hne
    | cons first rest => rw [List.head?_cons, (List.cons_prefix_cons.1 hstart).1]
  · exact absurd (hrest.eq_of_length hlength) hne

/-- A text that occurs in front of one more character ends with it, or is what is in front. -/
theorem get_last_of_infix_concat (hoccurs : needle <:+: text ++ [c])
    (hlength : needle.length = text.length) (hne : needle ≠ text) : needle.getLast? = some c := by
  rw [← List.head?_reverse]
  refine @head_of_infix_cons needle.reverse text.reverse c ?_ ?_ fun heq =>
    hne (List.reverse_injective heq)
  · rw [← List.reverse_concat, List.reverse_infix]
    exact hoccurs
  · rw [List.length_reverse, List.length_reverse, hlength]

/-- There is a small letter other than a given character. -/
theorem exists_letter (avoid : Option Char) :
    ∃ letter, IsSmall letter ∧ nextIsCased [letter] = true ∧ avoid ≠ some letter := by
  have hletters : nextIsCased ['a'] = true ∧ nextIsCased ['b'] = true := by decide +kernel
  by_cases hfirst : avoid = some 'a'
  · exact ⟨'b', rfl, hletters.2, by rw [hfirst]; decide⟩
  · exact ⟨'a', rfl, hletters.1, hfirst⟩

/-- Behind a letter that changes its sigmas, a stretch of text that does not begin with the letter
does not occur in small letters. -/
theorem not_infix_behind (hsmall : IsSmall c) (hhead : (lowercaseFrom [] chars).head? ≠ some c)
    (hagree : ¬ Agree chars [c] [] [] []) :
    ¬ lowercaseFrom [] chars <:+: lowercaseFrom [] (c :: chars) := by
  intro hoccurs
  rw [lowercase_from_cons, small_form_between_of_small hsmall, List.singleton_append,
    ← lowercase_between_nil, ← lowercase_between_nil] at hoccurs
  rw [← lowercase_between_nil] at hhead
  refine hhead (head_of_infix_cons hoccurs ?_ fun heq => ?_)
  · rw [length_lowercase_between, length_lowercase_between]
  · exact hagree (lowercase_between_eq_iff.1 heq.symm)

/-- In front of a letter that changes its sigmas, a stretch of text that does not end with the
letter does not occur in small letters. -/
theorem not_infix_before (hsmall : IsSmall c)
    (hlast : (lowercaseFrom [] chars).getLast? ≠ some c) (hagree : ¬ Agree chars [] [c] [] []) :
    ¬ lowercaseFrom [] chars <:+: lowercaseFrom [] (chars ++ [c]) := by
  intro hoccurs
  rw [lowercase_from_append, lowercase_from_cons, small_form_between_of_small hsmall, lowercaseFrom,
    List.append_nil, ← lowercase_between_nil] at hoccurs
  rw [← lowercase_between_nil] at hlast
  refine hlast (get_last_of_infix_concat hoccurs ?_ fun heq => ?_)
  · rw [length_lowercase_between, length_lowercase_between]
  · exact hagree (lowercase_between_eq_iff.1 heq.symm)

/-- Around a stretch of text with a sigma that is not settled a letter can be put such that the
stretch alone does not occur in small letters any more. -/
theorem exists_apart (h : ¬ Settled chars) : ∃ before after,
    ¬ lowercaseFrom [] chars <:+: lowercaseFrom [] (before ++ chars ++ after) := by
  obtain ⟨left, right, hsplit, hright, hleft⟩ : ∃ left right, chars = left ++ 'Σ' :: right ∧
      nextIsCased right = false ∧ (left.all isCaseIgnorable = false →
        right.all isCaseIgnorable = true ∧ nextIsCased left.reverse = true) := by
    unfold Settled at h
    simp only [not_forall, not_or, not_and, Bool.not_eq_true, Bool.not_eq_false] at h
    obtain ⟨left, right, hsplit, hright, hleft⟩ := h
    exact ⟨left, right, hsplit, hright, hleft⟩
  cases hall : left.all isCaseIgnorable with
  | true =>
      -- A letter in front makes the sigma final.
      obtain ⟨letter, hsmall, hcased, hhead⟩ := exists_letter (lowercaseFrom [] chars).head?
      refine ⟨[letter], [], ?_⟩
      rw [List.append_nil, List.singleton_append]
      refine not_infix_behind hsmall hhead fun hagree => ?_
      have hends := hagree left right hsplit
      unfold endsWord at hends
      rw [List.append_nil, List.append_nil, next_is_cased_append, List.all_reverse, if_pos hall,
        hcased, hright, next_is_cased_of_all (by rw [List.all_reverse, hall])] at hends
      cases hends
  | false =>
      -- A letter behind keeps the sigma from being final.
      obtain ⟨hrightAll, hbefore⟩ := hleft hall
      obtain ⟨letter, hsmall, hcased, hlast⟩ :=
        exists_letter (lowercaseFrom [] chars).getLast?
      refine ⟨[], [letter], ?_⟩
      rw [List.nil_append]
      refine not_infix_before hsmall hlast fun hagree => ?_
      have hends := hagree left right hsplit
      unfold endsWord at hends
      rw [List.append_nil, List.append_nil, next_is_cased_append, if_pos hrightAll, hcased, hbefore,
        hright] at hends
      cases hends

end GameLibrary.Text
