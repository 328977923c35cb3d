import GameLibrary.Filter.Catalog
import Mathlib.Data.List.Induction
import Mathlib.Data.List.Nodup

/-!
# The shelves of a catalog

The shelves of a catalog are filled filter by filter. `Catalog.shelves_eq` says what comes of it:
there is one shelf for each category, in the order of first registration, and on it are the filters
of the category in the order of registration.
-/

namespace GameLibrary

section FirstOccurrences

variable {α : Type} [BEq α] [LawfulBEq α]

/-- A new element at the end counts only if it is the first of its kind. -/
theorem erase_dups_concat [DecidableEq α] (list : List α) (a : α) :
    (list ++ [a]).eraseDups =
      if a ∈ list then list.eraseDups else list.eraseDups ++ [a] := by
  rw [List.eraseDups_append]
  split <;> rename_i hmem <;> simp [List.removeAll, hmem, List.eraseDups_cons]

/-- First occurrences are distinct. -/
theorem nodup_erase_dups (list : List α) : list.eraseDups.Nodup := by
  classical
  induction list using List.reverseRecOn with
  | nil => exact List.nodup_nil
  | append_singleton list a ih =>
      rw [erase_dups_concat]
      split
      · exact ih
      · rename_i hnew
        rw [List.nodup_append]
        refine ⟨ih, List.nodup_singleton a, ?_⟩
        intro b hb c hc heq
        subst heq
        rw [List.mem_singleton] at hc
        subst hc
        exact hnew (List.mem_eraseDups.1 hb)

end FirstOccurrences

/-- The shelf of a category among the given filters. -/
def shelfOf (filters : List Filter) (category : String) : Shelf :=
  ⟨category, filters.filter (·.category = category)⟩

/-- A new filter comes to the end of its category's shelf. -/
theorem shelf_of_concat (filters : List Filter) (filter : Filter) (category : String) :
    shelfOf (filters ++ [filter]) category =
      if filter.category = category then
        ⟨category, (shelfOf filters category).filters ++ [filter]⟩
      else shelfOf filters category := by
  unfold shelfOf
  rw [List.filter_append]
  split <;> rename_i hcategory <;> simp [hcategory]

/-- The shelves of the other categories stay as they are. -/
theorem map_shelf_of_concat (filters : List Filter) {filter : Filter} {categories : List String}
    (hnot : filter.category ∉ categories) :
    categories.map (shelfOf (filters ++ [filter])) = categories.map (shelfOf filters) := by
  refine List.map_congr_left fun category hcategory => ?_
  rw [shelf_of_concat, if_neg]
  intro heq
  subst heq
  exact hnot hcategory

/-- Putting a filter on the shelves of distinct categories. -/
theorem shelve_map (filters : List Filter) (filter : Filter) {categories : List String}
    (hdistinct : categories.Nodup) :
    shelve (categories.map (shelfOf filters)) filter =
      if filter.category ∈ categories then
        categories.map (shelfOf (filters ++ [filter]))
      else categories.map (shelfOf filters) ++ [⟨filter.category, [filter]⟩] := by
  induction categories with
  | nil => rfl
  | cons category rest ih =>
      obtain ⟨hnot, hrest⟩ := List.nodup_cons.1 hdistinct
      rw [List.map_cons, shelve]
      by_cases hcategory : (shelfOf filters category).category = filter.category
      · rw [if_pos hcategory]
        cases hcategory
        rw [if_pos List.mem_cons_self, List.map_cons, map_shelf_of_concat filters hnot,
          shelf_of_concat, if_pos rfl]
        rfl
      · have hne : ¬ filter.category = category := fun h => hcategory h.symm
        rw [if_neg hcategory, ih hrest]
        by_cases hmem : filter.category ∈ rest
        · rw [if_pos hmem, if_pos (List.mem_cons_of_mem _ hmem), List.map_cons, shelf_of_concat,
            if_neg hne]
        · have hout : filter.category ∉ category :: rest := by simp [hne, hmem]
          rw [if_neg hmem, if_neg hout]
          rfl

/-- What comes of shelving filters one by one. -/
theorem foldl_shelve (filters : List Filter) :
    filters.foldl shelve [] =
      (filters.map Filter.category).eraseDups.map (shelfOf filters) := by
  induction filters using List.reverseRecOn with
  | nil => rfl
  | append_singleton filters filter ih =>
      rw [List.foldl_append, List.foldl_cons, List.foldl_nil, ih,
        shelve_map filters filter (nodup_erase_dups _), List.map_append, List.map_cons,
        List.map_nil, erase_dups_concat]
      by_cases hmem : filter.category ∈ filters.map Filter.category
      · rw [if_pos hmem, if_pos (List.mem_eraseDups.2 hmem)]
      · have hout : filter.category ∉ (filters.map Filter.category).eraseDups :=
          fun h => hmem (List.mem_eraseDups.1 h)
        -- The category is new: no filter before has it.
        have hempty : (shelfOf filters filter.category).filters = [] := by
          refine List.filter_eq_nil_iff.2 fun other hother hsame => ?_
          exact hmem (List.mem_map.2 ⟨other, hother, of_decide_eq_true hsame⟩)
        rw [if_neg hmem, if_neg hout, List.map_append, map_shelf_of_concat filters hout,
          List.map_cons, List.map_nil, shelf_of_concat, if_pos rfl, hempty, List.nil_append]

namespace Catalog

/-- There is one shelf for each category, in the order of the categories' first filters. -/
theorem shelves_eq (catalog : Catalog) : catalog.shelves =
    (catalog.filters.map Filter.category).eraseDups.map (shelfOf catalog.filters) :=
  foldl_shelve catalog.filters

/-- The categories come in the order of their first filters. -/
theorem categories_eq (catalog : Catalog) :
    catalog.categories = (catalog.filters.map Filter.category).eraseDups := by
  unfold categories
  rw [shelves_eq, List.map_map]
  exact List.map_id _

/-- An id is known if one of the filters has it. -/
theorem contains_iff (catalog : Catalog) (id : String) :
    catalog.contains id = true ↔ ∃ filter ∈ catalog.filters, filter.id = id := by
  unfold contains find?
  simp

end Catalog

end GameLibrary
