import GameLibrary.Filter.Selection
import GameLibrary.Proofs.Filter.Evaluation
import GameLibrary.Proofs.Filter.Shelves
import GameLibrary.Proofs.Text.Distinct

/-!
# What a selection means

A compiled selection keeps one shelf for each category that constrains, with the selected filters of
the category (`Catalog.requirements_compile`), and the ids of these filters. All that can be asked
of it follows from that: `Catalog.compile_means`. There is a decision on an item unless one of the
selected filters breaks down on it.
-/

namespace GameLibrary

namespace Catalog

variable (catalog : Catalog) (ids : List String)

/-- The filters of the catalog that are selected. -/
def selected : List Filter := catalog.filters.filter (·.id ∈ ids)

/-- Of every category with a selected filter, some selected filter holds of the item. -/
def Meets (item : Item) : Prop :=
  ∀ filter ∈ catalog.selected ids, ∃ other ∈ catalog.selected ids,
    other.category = filter.category ∧ other.holds item = .ok (.ok true)

instance (item : Item) : Decidable (catalog.Meets ids item) :=
  inferInstanceAs (Decidable (∀ filter ∈ catalog.selected ids, ∃ other ∈ catalog.selected ids,
    other.category = filter.category ∧ other.holds item = .ok (.ok true)))

/-- The selection `selection` is what the ids `ids` mean for the catalog. -/
structure Means (selection : Selection) : Prop where
  /-- There is a decision on an item on which no selected filter breaks down, -/
  passes_returns : ∀ {item}, (∀ filter ∈ catalog.selected ids, filter.Answers item) →
    ∃ passed, selection.passes item = .ok passed
  /-- and a decision is for the items that meet the selection. -/
  passes_iff : ∀ {item passed}, selection.passes item = .ok passed →
    (passed = true ↔ catalog.Meets ids item)
  /-- The ids are the known ones, -/
  mem_ids : ∀ id, id ∈ selection.ids ↔ id ∈ ids ∧ ∃ filter ∈ catalog.filters, filter.id = id
  /-- in strictly ascending order. -/
  ids_ascending : selection.ids.Pairwise (· < ·)
  /-- The categories are those with a selected filter, in the order of registration. -/
  categories_eq : selection.categories =
    (catalog.filters.map Filter.category).eraseDups.filter
      (· ∈ (catalog.selected ids).map Filter.category)
  unconstrained_iff : selection.isUnconstrained = true ↔
    ∀ id ∈ ids, ∀ filter ∈ catalog.filters, filter.id ≠ id
  apply_iff : ∀ {items kept}, selection.apply items = .ok kept ↔
    (∀ item ∈ items, ∃ passed, selection.passes item = .ok passed) ∧
      kept = items.filter (catalog.Meets ids ·)

variable {catalog ids}

theorem mem_selected {filter : Filter} :
    filter ∈ catalog.selected ids ↔ filter ∈ catalog.filters ∧ filter.id ∈ ids := by
  unfold selected
  rw [List.mem_filter, decide_eq_true_iff]

variable (catalog ids)

/-- The ids of a compiled selection. -/
theorem ids_compile :
    (catalog.compile ids).ids = Text.distinctSorted (ids.filter catalog.contains) := by
  unfold compile
  dsimp only
  split
  · rename_i hempty
    exact (List.isEmpty_iff.1 hempty).symm
  · rfl

/-- The known ids among the given ones. -/
theorem mem_ids_compile {id : String} : id ∈ (catalog.compile ids).ids ↔
    id ∈ ids ∧ ∃ filter ∈ catalog.filters, filter.id = id := by
  rw [ids_compile, Text.mem_distinct_sorted, List.mem_filter, contains_iff]

/-- The selected filters on the shelf of a category. -/
theorem filter_shelf (category : String) :
    (shelfOf catalog.filters category).filters.filter
        ((Text.distinctSorted (ids.filter catalog.contains)).contains ·.id) =
      (shelfOf (catalog.selected ids) category).filters := by
  unfold shelfOf selected
  rw [List.filter_filter, List.filter_filter]
  refine List.filter_congr fun filter hfilter => ?_
  have hknown : catalog.contains filter.id = true :=
    (catalog.contains_iff filter.id).2 ⟨filter, hfilter, rfl⟩
  rw [Bool.and_comm]
  congr 1
  rw [List.contains_eq_mem]
  simp [hknown]

/-- A category constrains if its shelf has selected filters. -/
theorem shelf_of_is_empty {filters : List Filter} {category : String} :
    (shelfOf filters category).filters.isEmpty = true ↔
      category ∉ filters.map Filter.category := by
  unfold shelfOf
  rw [List.isEmpty_iff, List.filter_eq_nil_iff, List.mem_map]
  simp

/-- The requirements of a compiled selection: one shelf for each category that has a selected
filter, with the selected filters of the category. -/
theorem requirements_compile : (catalog.compile ids).requirements =
    ((catalog.filters.map Filter.category).eraseDups.filter
      (· ∈ (catalog.selected ids).map Filter.category)).map (shelfOf (catalog.selected ids)) := by
  unfold compile
  dsimp only
  split
  · rename_i hempty
    -- No id is known, so no filter is selected.
    have hselected : catalog.selected ids = [] := by
      refine List.filter_eq_nil_iff.2 fun filter hfilter hid => ?_
      have hmem := (catalog.mem_ids_compile ids).2 ⟨of_decide_eq_true hid, filter, hfilter, rfl⟩
      rw [ids_compile, List.isEmpty_iff.1 hempty] at hmem
      cases hmem
    rw [hselected, List.map_nil]
    simp [Selection.all]
  · dsimp only
    rw [shelves_eq, List.filterMap_map,
      ← @List.filterMap_eq_map _ _ (shelfOf (catalog.selected ids)), List.filterMap_filter]
    -- Shelf by shelf: what is kept of it, and whether it is kept at all.
    refine List.filterMap_congr fun category _ => ?_
    dsimp only [Function.comp_apply]
    rw [filter_shelf]
    by_cases hcategory : category ∈ (catalog.selected ids).map Filter.category
    · rw [if_neg (by rw [shelf_of_is_empty]; exact not_not.2 hcategory),
        if_pos (decide_eq_true hcategory)]
      rfl
    · rw [if_pos (shelf_of_is_empty.2 hcategory), if_neg (by simpa using hcategory)]

/-- The requirements of a compiled selection are met by the filters of each of its categories. -/
theorem mem_requirements {shelf : Shelf} : shelf ∈ (catalog.compile ids).requirements ↔
    ∃ filter ∈ catalog.selected ids, shelf = shelfOf (catalog.selected ids) filter.category := by
  rw [requirements_compile, List.mem_map]
  constructor
  · rintro ⟨category, hcategory, rfl⟩
    obtain ⟨filter, hfilter, rfl⟩ :=
      List.mem_map.1 (of_decide_eq_true (List.mem_filter.1 hcategory).2)
    exact ⟨filter, hfilter, rfl⟩
  · rintro ⟨filter, hfilter, rfl⟩
    refine ⟨filter.category, List.mem_filter.2 ⟨List.mem_eraseDups.2 ?_, decide_eq_true ?_⟩, rfl⟩
    · exact List.mem_map_of_mem (mem_selected.1 hfilter).1
    · exact List.mem_map_of_mem hfilter

/-- There is a decision unless a selected filter breaks down. -/
theorem passes_compile_returns {item : Item}
    (hanswers : ∀ filter ∈ catalog.selected ids, filter.Answers item) :
    ∃ passed, (catalog.compile ids).passes item = .ok passed := by
  refine Checked.all_returns fun shelf hshelf => Checked.any_returns fun filter hfilter => ?_
  obtain ⟨_, -, rfl⟩ := (catalog.mem_requirements ids).1 hshelf
  exact Filter.accepts_returns.2 (hanswers filter (List.mem_filter.1 hfilter).1)

/-- What a decision of a compiled selection says. -/
theorem passes_compile_iff {item : Item} {passed : Bool}
    (hpassed : (catalog.compile ids).passes item = .ok passed) :
    passed = true ↔ catalog.Meets ids item := by
  unfold Selection.passes at hpassed
  constructor
  · -- The shelf of a selected filter is a requirement, so one of its filters accepts.
    rintro rfl filter hfilter
    obtain ⟨other, hother, haccepts⟩ := Checked.exists_of_any
      (Checked.all_eq_true.1 hpassed _ ((catalog.mem_requirements ids).2 ⟨filter, hfilter, rfl⟩))
    obtain ⟨hselected, hsame⟩ := List.mem_filter.1 hother
    exact ⟨other, hselected, of_decide_eq_true hsame, Filter.accepts_eq_true.1 haccepts⟩
  · -- A requirement that is not met has been denied by all its filters.
    intro hmeets
    by_contra hnot
    rw [Bool.not_eq_true] at hnot
    subst hnot
    obtain ⟨shelf, hshelf, hnone⟩ := Checked.exists_of_all hpassed
    obtain ⟨filter, hfilter, rfl⟩ := (catalog.mem_requirements ids).1 hshelf
    obtain ⟨other, hother, hsame, hholds⟩ := hmeets filter hfilter
    have hdenied := Checked.any_eq_false.1 hnone other
      (List.mem_filter.2 ⟨hother, decide_eq_true hsame⟩)
    rw [Filter.accepts_eq_true.2 hholds] at hdenied
    cases hdenied

/-- The items that a compiled selection keeps, if there is a decision on all of them. -/
theorem apply_compile {items kept : List Item} : (catalog.compile ids).apply items = .ok kept ↔
    (∀ item ∈ items, ∃ passed, (catalog.compile ids).passes item = .ok passed) ∧
      kept = items.filter (catalog.Meets ids ·) := by
  unfold Selection.apply
  rw [Checked.filter_eq_ok]
  refine and_congr_right fun hdecided => ?_
  have hfilter : items.filter (fun item => (catalog.compile ids).passes item = .ok true) =
      items.filter (catalog.Meets ids ·) := by
    refine List.filter_congr fun item hitem => ?_
    obtain ⟨passed, hpassed⟩ := hdecided item hitem
    rw [decide_eq_decide, ← catalog.passes_compile_iff ids hpassed, hpassed, Except.ok.injEq]
  rw [hfilter]

/-- The categories of a compiled selection. -/
theorem categories_compile : (catalog.compile ids).categories =
    (catalog.filters.map Filter.category).eraseDups.filter
      (· ∈ (catalog.selected ids).map Filter.category) := by
  unfold Selection.categories
  rw [requirements_compile, List.map_map]
  exact List.map_id _

/-- Nothing is required if and only if no filter is selected. -/
theorem unconstrained_compile : (catalog.compile ids).isUnconstrained = true ↔
    ∀ id ∈ ids, ∀ filter ∈ catalog.filters, filter.id ≠ id := by
  unfold Selection.isUnconstrained
  rw [requirements_compile, List.isEmpty_iff, List.map_eq_nil_iff, List.filter_eq_nil_iff]
  constructor
  · intro hnone id hid filter hfilter heq
    subst heq
    have hmem : filter.category ∈ (catalog.filters.map Filter.category).eraseDups :=
      List.mem_eraseDups.2 (List.mem_map_of_mem hfilter)
    exact hnone filter.category hmem
      (decide_eq_true (List.mem_map_of_mem (mem_selected.2 ⟨hfilter, hid⟩)))
  · intro hnone category _ hcategory
    obtain ⟨filter, hfilter, -⟩ := List.mem_map.1 (of_decide_eq_true hcategory)
    obtain ⟨hfilter, hid⟩ := mem_selected.1 hfilter
    exact hnone filter.id hid filter hfilter rfl

/-- Selections with the same known ids are the same. -/
theorem compile_congr {others : List String}
    (hsame : ∀ filter ∈ catalog.filters, filter.id ∈ others ↔ filter.id ∈ ids) :
    catalog.compile others = catalog.compile ids := by
  have hselected : catalog.selected others = catalog.selected ids :=
    List.filter_congr fun filter hfilter => decide_eq_decide.2 (hsame filter hfilter)
  have hids : (catalog.compile others).ids = (catalog.compile ids).ids := by
    rw [ids_compile, ids_compile]
    refine Text.distinct_sorted_congr fun id => ?_
    rw [List.mem_filter, List.mem_filter, contains_iff]
    constructor
    · intro hmem
      obtain ⟨hid, filter, hfilter, rfl⟩ := hmem
      exact ⟨(hsame filter hfilter).1 hid, filter, hfilter, rfl⟩
    · intro hmem
      obtain ⟨hid, filter, hfilter, rfl⟩ := hmem
      exact ⟨(hsame filter hfilter).2 hid, filter, hfilter, rfl⟩
  have hrequirements : (catalog.compile others).requirements =
      (catalog.compile ids).requirements := by
    rw [requirements_compile, requirements_compile, hselected]
  exact congrArg₂ Selection.mk hrequirements hids

/-- A compiled selection is what its ids mean, and selections with the same known ids are the same.
-/
theorem compile_means : catalog.Means ids (catalog.compile ids) ∧
    ∀ others, (∀ filter ∈ catalog.filters, filter.id ∈ others ↔ filter.id ∈ ids) →
      catalog.compile others = catalog.compile ids := by
  refine ⟨?_, fun others => catalog.compile_congr ids⟩
  constructor
  case passes_returns => exact catalog.passes_compile_returns ids
  case passes_iff => exact catalog.passes_compile_iff ids
  case mem_ids => exact fun id => catalog.mem_ids_compile ids
  case ids_ascending =>
    rw [ids_compile]
    exact Text.pairwise_distinct_sorted _
  case categories_eq => exact catalog.categories_compile ids
  case unconstrained_iff => exact catalog.unconstrained_compile ids
  case apply_iff => exact catalog.apply_compile ids

end Catalog

end GameLibrary
