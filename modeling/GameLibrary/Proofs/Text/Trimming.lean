import GameLibrary.Text.Blank
import Mathlib.Data.List.DropRight

/-!
# Texts between blanks

Trimming takes a text apart into blanks, a bare middle and blanks (`exists_trim`), and there is no
other way to take it apart like that (`to_list_trim_of_bare`).
-/

namespace GameLibrary.Text

/-- A stretch of text that neither begins nor ends with a blank. -/
structure Bare (chars : List Char) : Prop where
  first : ∀ {c rest}, chars = c :: rest → isBlank c = false
  last : ∀ {c rest}, chars = rest ++ [c] → isBlank c = false

variable {before core after : List Char}

theorem to_list_trim (text : String) :
    (trim text).toList = (text.toList.dropWhile isBlank).rdropWhile isBlank :=
  String.toList_ofList

/-- What is left after trimming is bare. -/
theorem bare_trim (text : String) : Bare (trim text).toList := by
  rw [to_list_trim]
  constructor
  case first =>
    intro c rest hchars
    obtain ⟨after, hafter⟩ := List.rdropWhile_prefix isBlank (text.toList.dropWhile isBlank)
    rw [hchars, List.cons_append] at hafter
    have hnot := List.head?_dropWhile_not isBlank text.toList
    rw [← hafter] at hnot
    exact hnot
  case last =>
    intro c rest hchars
    -- Seen from the end, the last character is the first one behind the blanks.
    have hreverse := congrArg List.reverse hchars
    rw [List.rdropWhile, List.reverse_reverse, List.reverse_append] at hreverse
    have hnot := List.head?_dropWhile_not isBlank (text.toList.dropWhile isBlank).reverse
    rw [hreverse] at hnot
    exact hnot

/-- A text is what trimming leaves of it, between blanks. -/
theorem exists_trim (text : String) : ∃ before after,
    (∀ c ∈ before, isBlank c = true) ∧ (∀ c ∈ after, isBlank c = true) ∧
      text.toList = before ++ (trim text).toList ++ after := by
  refine ⟨text.toList.takeWhile isBlank, (text.toList.dropWhile isBlank).rtakeWhile isBlank,
    fun c hc => List.mem_takeWhile_imp hc, fun c hc => List.mem_rtakeWhile_imp hc, ?_⟩
  rw [to_list_trim, List.append_assoc, List.rdropWhile_append_rtakeWhile,
    List.takeWhile_append_dropWhile]

/-- What stands bare between blanks is what trimming leaves. -/
theorem to_list_trim_of_bare {text : String} (hbefore : ∀ c ∈ before, isBlank c = true)
    (hafter : ∀ c ∈ after, isBlank c = true) (hcore : Bare core)
    (htext : text.toList = before ++ core ++ after) : (trim text).toList = core := by
  have hdrop : (core ++ after).dropWhile isBlank = core ++ after ∨ core = [] := by
    cases core with
    | nil => exact .inr rfl
    | cons c rest =>
        left
        rw [List.cons_append, List.dropWhile_cons_of_neg]
        rw [hcore.first rfl]
        exact Bool.false_ne_true
  rw [to_list_trim, htext, List.append_assoc, List.dropWhile_append_of_pos hbefore]
  rcases hdrop with hdrop | rfl
  · rw [hdrop, List.rdropWhile, List.reverse_append, List.dropWhile_append_of_pos]
    · refine List.rdropWhile_eq_self_iff.2 fun hne hblank => ?_
      rw [hcore.last (List.dropLast_append_getLast hne).symm] at hblank
      cases hblank
    · exact fun c hc => hafter c (List.mem_reverse.1 hc)
  · rw [List.nil_append, List.rdropWhile_eq_nil_iff]
    exact fun c hc => hafter c ((List.dropWhile_suffix isBlank).subset hc)

end GameLibrary.Text
