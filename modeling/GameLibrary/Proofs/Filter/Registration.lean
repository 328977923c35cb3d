import GameLibrary.Proofs.Filter.Shelves

/-!
# Registering filters

A catalog comes of registrations one after the other, some of which are refused. The filters that
are kept are the accepted ones (`Catalog.filters_register_all`), of which each has its id first
(`Catalog.find_register_all`), and the shelves divide them without loss or repetition
(`Catalog.flat_map_ids_in_perm`). Together: `Catalog.register_all_partitioned`.
-/

namespace GameLibrary

namespace Catalog

variable (catalog : Catalog)

/-- Those of the filters that are accepted if they are registered one after the other. -/
def accepted (catalog : Catalog) : List Filter → List Filter
  | [] => []
  | filter :: rest =>
      match catalog.register filter with
      | .ok larger => filter :: larger.accepted rest
      | .error _ => catalog.accepted rest

section Step

variable {catalog} {filter : Filter}

/-- A registration is refused for a taken id, with this id, and else adds the filter at the end. -/
theorem register_cases (catalog : Catalog) (filter : Filter) :
    (filter.id ∈ catalog.filters.map Filter.id ∧
        catalog.register filter = .error (.duplicateFilter filter.id)) ∨
      filter.id ∉ catalog.filters.map Filter.id ∧
        ∃ larger, catalog.register filter = .ok larger ∧
          larger.filters = catalog.filters ++ [filter] := by
  unfold register
  split
  · rename_i htaken
    exact .inl ⟨htaken, rfl⟩
  · rename_i hfree
    exact .inr ⟨hfree, _, rfl, rfl⟩

/-- A registration is refused exactly if the id is taken. -/
theorem register_error_iff :
    (∃ failure, catalog.register filter = .error failure) ↔
      filter.id ∈ catalog.filters.map Filter.id := by
  rcases catalog.register_cases filter with ⟨htaken, hrefused⟩ | ⟨hfree, larger, hgranted, -⟩
  · exact ⟨fun _ => htaken, fun _ => ⟨_, hrefused⟩⟩
  · refine ⟨fun ⟨failure, hrefused⟩ => ?_, fun htaken => absurd htaken hfree⟩
    rw [hgranted] at hrefused
    cases hrefused

/-- A refusal names the id. -/
theorem eq_duplicate_of_register {failure : Failure}
    (h : catalog.register filter = .error failure) : failure = .duplicateFilter filter.id := by
  rcases catalog.register_cases filter with ⟨-, hrefused⟩ | ⟨-, larger, hgranted, -⟩
  · rw [hrefused] at h
    cases h
    rfl
  · rw [hgranted] at h
    cases h

/-- A filter that is accepted comes to the end. -/
theorem filters_of_register {larger : Catalog} (h : catalog.register filter = .ok larger) :
    larger.filters = catalog.filters ++ [filter] := by
  rcases catalog.register_cases filter with ⟨-, hrefused⟩ | ⟨-, other, hgranted, hfilters⟩
  · rw [hrefused] at h
    cases h
  · rw [hgranted] at h
    cases h
    exact hfilters

/-- A registration that is refused leaves the catalog as it was. -/
theorem register_all_concat_refused {calls : List Filter} {failure : Failure}
    (h : (catalog.registerAll calls).register filter = .error failure) :
    catalog.registerAll (calls ++ [filter]) = catalog.registerAll calls := by
  unfold registerAll at *
  rw [List.foldl_append, List.foldl_cons, List.foldl_nil, h]

/-- A registration that is accepted gives the next catalog. -/
theorem register_all_concat_granted {calls : List Filter} {larger : Catalog}
    (h : (catalog.registerAll calls).register filter = .ok larger) :
    catalog.registerAll (calls ++ [filter]) = larger := by
  unfold registerAll at *
  rw [List.foldl_append, List.foldl_cons, List.foldl_nil, h]

end Step

/-- The filters of the catalog come first, the accepted ones after them. -/
theorem filters_register_all (calls : List Filter) :
    (catalog.registerAll calls).filters = catalog.filters ++ catalog.accepted calls := by
  induction calls generalizing catalog with
  | nil => exact (List.append_nil _).symm
  | cons filter rest ih =>
      unfold registerAll accepted
      rw [List.foldl_cons]
      cases hregister : catalog.register filter with
      | ok larger =>
          change (larger.registerAll rest).filters = _
          rw [ih, filters_of_register hregister, List.append_assoc, List.singleton_append]
      | error failure => exact ih catalog

/-- A look-up finds the filter that had the id first. -/
theorem find_register_all (calls : List Filter) (id : String) :
    (catalog.registerAll calls).find? id =
      (catalog.find? id).or (calls.find? (·.id = id)) := by
  induction calls generalizing catalog with
  | nil => exact (Option.or_none).symm
  | cons filter rest ih =>
      unfold registerAll
      rw [List.foldl_cons]
      rcases catalog.register_cases filter with ⟨htaken, hrefused⟩ | ⟨-, larger, hgranted, hfilters⟩
      · rw [hrefused]
        change (catalog.registerAll rest).find? id = _
        rw [ih]
        by_cases hid : filter.id = id
        · -- The id is taken, so what the later calls bring does not count.
          subst hid
          obtain ⟨first, hfirst⟩ : ∃ first, catalog.find? filter.id = some first := by
            refine Option.isSome_iff_exists.1 ((catalog.contains_iff filter.id).2 ?_)
            exact List.mem_map.1 htaken
          rw [hfirst, Option.some_or, Option.some_or]
        · rw [List.find?_cons_of_neg (by simpa using hid)]
      · rw [hgranted]
        change (larger.registerAll rest).find? id = _
        rw [ih]
        unfold find?
        rw [hfilters, List.find?_append, Option.or_assoc]
        by_cases hid : filter.id = id <;> simp [hid]

section Shelves

/-- No category has two shelves. -/
theorem nodup_categories : catalog.categories.Nodup := by
  rw [categories_eq]
  exact nodup_erase_dups _

/-- The ids on a shelf are those of the category's filters, in the order of registration. -/
theorem ids_in_eq (category : String) : catalog.idsIn category =
    (catalog.filters.filter (·.category = category)).map Filter.id := by
  unfold idsIn
  rw [shelves_eq]
  cases hfind : ((catalog.filters.map Filter.category).eraseDups.map
      (shelfOf catalog.filters)).find? (·.category = category) with
  | some shelf =>
      obtain ⟨other, -, rfl⟩ := List.mem_map.1 (List.mem_of_find?_eq_some hfind)
      have hsame : (shelfOf catalog.filters other).category = category := by
        simpa using List.find?_some hfind
      subst hsame
      rfl
  | none =>
      -- There is no such shelf, so no filter has the category.
      have hnone : catalog.filters.filter (·.category = category) = [] := by
        refine List.filter_eq_nil_iff.2 fun filter hfilter hsame => ?_
        have hshelf : shelfOf catalog.filters filter.category ∈
            (catalog.filters.map Filter.category).eraseDups.map (shelfOf catalog.filters) :=
          List.mem_map_of_mem (List.mem_eraseDups.2 (List.mem_map_of_mem hfilter))
        exact List.find?_eq_none.1 hfind _ hshelf hsame
      rw [hnone]
      rfl

/-- A category that no filter has is empty. -/
theorem ids_in_unknown {category : String} (hunknown : category ∉ catalog.categories) :
    catalog.idsIn category = [] := by
  rw [categories_eq, List.mem_eraseDups, List.mem_map] at hunknown
  rw [ids_in_eq, List.map_eq_nil_iff, List.filter_eq_nil_iff]
  intro filter hfilter hsame
  exact hunknown ⟨filter, hfilter, of_decide_eq_true hsame⟩

/-- The filters of distinct categories, one category after the other, are those of all of them. -/
theorem flat_map_filter_perm (filters : List Filter) {categories : List String}
    (hdistinct : categories.Nodup) :
    (categories.flatMap fun category => filters.filter (·.category = category)).Perm
      (filters.filter (·.category ∈ categories)) := by
  induction categories with
  | nil => simp
  | cons category rest ih =>
      obtain ⟨hnot, hrest⟩ := List.nodup_cons.1 hdistinct
      -- Of the filters of all categories, some have the first one, and the others have not.
      have hfirst : (filters.filter (·.category ∈ category :: rest)).filter
          (·.category = category) = filters.filter (·.category = category) := by
        rw [List.filter_filter]
        refine List.filter_congr fun filter _ => ?_
        by_cases hsame : filter.category = category <;> simp [hsame]
      have hothers : (filters.filter (·.category ∈ category :: rest)).filter
          (fun filter => !decide (filter.category = category)) =
            filters.filter (·.category ∈ rest) := by
        rw [List.filter_filter]
        refine List.filter_congr fun filter _ => ?_
        by_cases hsame : filter.category = category
        · simp [hsame, hnot]
        · simp [hsame]
      have hsplit := List.filter_append_perm (fun filter : Filter => filter.category = category)
        (filters.filter (·.category ∈ category :: rest))
      rw [hfirst, hothers] at hsplit
      rw [List.flatMap_cons]
      exact ((ih hrest).append_left _).trans hsplit

/-- The shelves hold every id, and none of them twice. -/
theorem flat_map_ids_in_perm :
    (catalog.categories.flatMap catalog.idsIn).Perm (catalog.filters.map Filter.id) := by
  have hshelves : catalog.categories.flatMap catalog.idsIn =
      (catalog.categories.flatMap fun category =>
        catalog.filters.filter (·.category = category)).map Filter.id := by
    rw [List.map_flatMap]
    exact List.flatMap_congr fun category _ => catalog.ids_in_eq category
  have hall : catalog.filters.filter (·.category ∈ catalog.categories) = catalog.filters := by
    refine List.filter_eq_self.2 fun filter hfilter => decide_eq_true ?_
    rw [categories_eq]
    exact List.mem_eraseDups.2 (List.mem_map_of_mem hfilter)
  rw [hshelves]
  have hperm := flat_map_filter_perm catalog.filters catalog.nodup_categories
  rw [hall] at hperm
  exact hperm.map Filter.id

end Shelves

/-- The catalog `catalog` is what the registrations `calls`, one after the other, make of the empty
catalog. -/
structure Registered (calls : List Filter) (catalog : Catalog) : Prop where
  /-- One more registration fails exactly if its id was accepted before. -/
  refused_iff : ∀ filter, (∃ failure, catalog.register filter = .error failure) ↔
    filter.id ∈ (empty.accepted calls).map Filter.id
  /-- Its failure names the id, and it leaves the catalog as it was. -/
  refused : ∀ {filter failure}, catalog.register filter = .error failure →
    failure = .duplicateFilter filter.id ∧ empty.registerAll (calls ++ [filter]) = catalog
  /-- One that does not fail adds its filter at the end. -/
  granted : ∀ {filter larger}, catalog.register filter = .ok larger →
    empty.registerAll (calls ++ [filter]) = larger ∧
      larger.filters = catalog.filters ++ [filter]
  /-- The filters are the accepted ones, in the order of registration, with distinct ids. -/
  filters_eq : catalog.filters = empty.accepted calls
  ids_distinct : (catalog.filters.map Filter.id).Nodup
  /-- A look-up finds the filter that was registered first under the id, and no other id. -/
  find_eq : ∀ id, catalog.find? id = calls.find? (·.id = id)
  find_none_iff : ∀ id, catalog.find? id = none ↔ id ∉ catalog.filters.map Filter.id
  /-- The categories come in the order of their first filters, without repetition. -/
  categories_eq : catalog.categories = (catalog.filters.map Filter.category).eraseDups
  categories_distinct : catalog.categories.Nodup
  /-- The ids of a category are those of its filters, in the order of registration. -/
  ids_in : ∀ category, catalog.idsIn category =
    (catalog.filters.filter (·.category = category)).map Filter.id
  ids_in_unknown : ∀ category, category ∉ catalog.categories → catalog.idsIn category = []
  /-- The categories together have every id once. -/
  partition : (catalog.categories.flatMap catalog.idsIn).Perm (catalog.filters.map Filter.id)

/-- Registrations in any order and with any repetitions make an ordered partition of the accepted
filters. -/
theorem register_all_partitioned (calls : List Filter) :
    Registered calls (empty.registerAll calls) := by
  have hfilters : (empty.registerAll calls).filters = empty.accepted calls :=
    empty.filters_register_all calls
  constructor
  case refused_iff =>
    intro filter
    rw [← hfilters]
    exact register_error_iff
  case refused => exact fun h => ⟨eq_duplicate_of_register h, register_all_concat_refused h⟩
  case granted => exact fun h => ⟨register_all_concat_granted h, filters_of_register h⟩
  case filters_eq => exact hfilters
  case ids_distinct => exact (empty.registerAll calls).distinct
  case find_eq => exact fun id => empty.find_register_all calls id
  case find_none_iff =>
    intro id
    rw [← Option.not_isSome_iff_eq_none, List.mem_map]
    exact not_congr ((empty.registerAll calls).contains_iff id)
  case categories_eq => exact (empty.registerAll calls).categories_eq
  case categories_distinct => exact (empty.registerAll calls).nodup_categories
  case ids_in => exact (empty.registerAll calls).ids_in_eq
  case ids_in_unknown => exact fun category => (empty.registerAll calls).ids_in_unknown
  case partition => exact (empty.registerAll calls).flat_map_ids_in_perm

end Catalog

end GameLibrary
