import GameLibrary.Proofs.Text.Sigmas
import GameLibrary.Query

/-!
# Searching titles

A search puts the text and the title in small letters, each on its own, so what stands in a title as
it is searched for is found unless a capital sigma of it reads differently there. The searches that
find all titles of this kind are those whose sigmas are settled: `BaseQuery.search_finds`.
-/

namespace GameLibrary

namespace BaseQuery

/-- The query for a part of the title only. -/
def bySearch (search : String) : BaseQuery := ⟨none, none, some search⟩

variable {item : Item} {search : String}

/-- A text of an axis that is blank keeps everything. -/
theorem axis_some (text : String) :
    axis (some text) = if (Text.trim text).isEmpty then none else some (Text.trim text) := by
  unfold axis
  cases hempty : (Text.trim text).isEmpty <;> simp [Option.filter, hempty]

/-- A title holds a text if the one occurs in the other, both in small letters. -/
theorem title_holds_iff {text : String} : titleHolds item text = true ↔
    Text.lowercaseFrom [] text.toList <:+: Text.lowercaseFrom [] item.title.toList := by
  unfold titleHolds
  rw [Text.occurs_in_iff, Text.to_list_lowercase, Text.to_list_lowercase]

/-- What a search keeps. -/
theorem keeps_by_search : (bySearch search).keeps item = true ↔
    Text.lowercaseFrom [] (Text.trim search).toList <:+:
      Text.lowercaseFrom [] item.title.toList := by
  have hkeeps : (bySearch search).keeps item = (axis (some search)).all (titleHolds item) := by
    have hnone : axis none = none := rfl
    simp only [keeps, bySearch, hnone, Option.all_none, Bool.true_and]
  rw [hkeeps, axis_some]
  cases hempty : (Text.trim search).isEmpty with
  | true =>
      rw [if_pos rfl, String.isEmpty_iff.1 hempty]
      exact iff_of_true rfl (List.nil_infix)
  | false => rw [if_neg Bool.false_ne_true, Option.all_some, title_holds_iff]

/-- What stands in a title, with surroundings that agree on its sigmas, is found. -/
theorem keeps_of_agree {before after : List Char}
    (htitle : item.title.toList = before ++ (Text.trim search).toList ++ after)
    (hagree : Text.Agree (Text.trim search).toList before.reverse after [] []) :
    (bySearch search).keeps item = true := by
  rw [keeps_by_search, htitle, List.append_assoc, Text.lowercase_from_append,
    Text.lowercase_from_append, List.append_nil, Text.lowercase_between_eq_iff.2 hagree,
    Text.lowercase_between_nil]
  exact ⟨_, _, List.append_assoc _ _ _⟩

/-- A blank search keeps everything. A search finds the titles in which its text stands between
surroundings that agree on its sigmas, and it finds all titles in which its text stands exactly if
its sigmas are settled. -/
theorem search_finds (search : String) :
    ((Text.trim search).isEmpty = true → ∀ item, (bySearch search).keeps item = true) ∧
    (∀ item before after, item.title.toList = before ++ (Text.trim search).toList ++ after →
      Text.Agree (Text.trim search).toList before.reverse after [] [] →
        (bySearch search).keeps item = true) ∧
    ((∀ item : Item, (Text.trim search).toList <:+: item.title.toList →
      (bySearch search).keeps item = true) ↔ Text.Settled (Text.trim search).toList) := by
  refine ⟨?_, fun item before after => keeps_of_agree, ?_, ?_⟩
  · intro hempty item
    rw [keeps_by_search, String.isEmpty_iff.1 hempty]
    exact List.nil_infix
  · intro hfinds
    by_contra hunsettled
    obtain ⟨before, after, hapart⟩ := Text.exists_apart hunsettled
    let item : Item := { (default : Item) with
      title := String.ofList (before ++ (Text.trim search).toList ++ after) }
    have htitle : item.title.toList = before ++ (Text.trim search).toList ++ after :=
      String.toList_ofList
    have hkeeps := hfinds item ⟨before, after, htitle.symm⟩
    rw [keeps_by_search, htitle] at hkeeps
    exact hapart hkeeps
  · rintro hsettled item ⟨before, after, htitle⟩
    exact keeps_of_agree htitle.symm (Text.agree_of_settled hsettled before.reverse after)

/-- The first letters of a title in capitals: the sigma ends the search, but not the word. -/
example : (bySearch "ΟΔΥΣ").keeps { (default : Item) with title := "ΟΔΥΣΣΕΙΑ" } = false := by
  decide +kernel

end BaseQuery

end GameLibrary
