import GameLibrary.Text.Distinct
import Mathlib.Data.List.Sort
import Mathlib.Data.String.Basic

/-!
# Sets of texts as lists

`Text.distinctSorted` gives the one strictly ascending list with the members of its argument. So
lists with the same members give the same list.
-/

namespace GameLibrary.Text

/-- Dropping repetitions keeps the members. -/
theorem mem_drop_repeats {text : String} (texts : List String) :
    text ∈ dropRepeats texts ↔ text ∈ texts := by
  induction texts using dropRepeats.induct with
  | case1 => rfl
  | case2 => rfl
  | case3 first rest ih =>
      rw [dropRepeats, if_pos rfl, ih]
      simp
  | case4 first second rest hne ih =>
      rw [dropRepeats, if_neg hne, List.mem_cons, List.mem_cons, ih]

/-- Without its repetitions an ascending list is strictly ascending. -/
theorem pairwise_drop_repeats {texts : List String} (hsorted : texts.Pairwise (· ≤ ·)) :
    (dropRepeats texts).Pairwise (· < ·) := by
  induction texts using dropRepeats.induct with
  | case1 => exact .nil
  | case2 => exact List.pairwise_singleton ..
  | case3 first rest ih =>
      rw [dropRepeats, if_pos rfl]
      exact ih hsorted.of_cons
  | case4 first second rest hne ih =>
      rw [dropRepeats, if_neg hne, List.pairwise_cons]
      refine ⟨?_, ih hsorted.of_cons⟩
      intro text htext
      obtain ⟨hfirst, hrest⟩ := List.pairwise_cons.1 hsorted
      -- The first element is below the second, and that is below all that follow.
      have hlt : first < second := lt_of_le_of_ne (hfirst second List.mem_cons_self) hne
      rcases List.mem_cons.1 ((mem_drop_repeats _).1 htext) with rfl | htext
      · exact hlt
      · exact lt_of_lt_of_le hlt ((List.pairwise_cons.1 hrest).1 text htext)

/-- The list of a set has its members. -/
@[simp] theorem mem_distinct_sorted {text : String} (texts : List String) :
    text ∈ distinctSorted texts ↔ text ∈ texts := by
  unfold distinctSorted
  rw [mem_drop_repeats, List.mem_mergeSort]

/-- The list of a set is strictly ascending. -/
theorem pairwise_distinct_sorted (texts : List String) :
    (distinctSorted texts).Pairwise (· < ·) := by
  have htrans : ∀ a b c : String, decide (a ≤ b) = true → decide (b ≤ c) = true →
      decide (a ≤ c) = true := by
    intro a b c hab hbc
    exact decide_eq_true ((of_decide_eq_true hab).trans (of_decide_eq_true hbc))
  have htotal : ∀ a b : String, (decide (a ≤ b) || decide (b ≤ a)) = true := by
    intro a b
    simpa using le_total a b
  have hsorted := List.pairwise_mergeSort htrans htotal texts
  exact pairwise_drop_repeats (hsorted.imp of_decide_eq_true)

/-- A set has one list. -/
theorem distinct_sorted_congr {texts others : List String}
    (hsame : ∀ text, text ∈ texts ↔ text ∈ others) :
    distinctSorted texts = distinctSorted others := by
  refine (pairwise_distinct_sorted texts).eq_of_mem_iff (pairwise_distinct_sorted others) ?_
  intro text
  rw [mem_distinct_sorted, mem_distinct_sorted, hsame]

/-- A strictly ascending list is the list of its set. -/
theorem distinct_sorted_of_pairwise {texts : List String} (hascending : texts.Pairwise (· < ·)) :
    distinctSorted texts = texts :=
  (pairwise_distinct_sorted texts).eq_of_mem_iff hascending fun _ => mem_distinct_sorted texts

end GameLibrary.Text
