import GameLibrary.Library.View
import GameLibrary.Proofs.Filter.Counting
import GameLibrary.Proofs.Key.Identity

/-!
# What a query comes to

A query comes to a view exactly if the filters can be counted on what it keeps
(`View.of_query_eq_ok`); the selection then decides on all of it. Two queries that ask for the same
come to views with the same key: `View.of_query_rephrased`.
-/

namespace GameLibrary

/-- One query on one list asks for the same as another query on another list: the lists are the same
but for their order, and so are the selected filters, but for order, repetitions and unknown ids. -/
structure Rephrases (catalog : Catalog) (items' : List Item) (query' : LibraryQuery)
    (items : List Item) (query : LibraryQuery) : Prop where
  items_perm : items'.Perm items
  base_eq : query'.base = query.base
  filters_iff : ∀ filter ∈ catalog.filters,
    filter.id ∈ query'.filters ↔ filter.id ∈ query.filters

namespace View

variable {catalog : Catalog} {items items' : List Item} {query query' : LibraryQuery}
  {view : View}

/-- The view of a query shows the items that it keeps and its selection is met by. There is one
exactly if there are counts. -/
theorem of_query_eq_ok : ofQuery catalog items query = .ok view ↔
    ∃ counts, catalog.count (query.base.apply items) = .ok counts ∧
      view = {
        workingSet := (query.base.apply items).filter (catalog.Meets query.filters ·)
        counts
        appliedFilters := (catalog.compile query.filters).ids
        key := .ofItems ((query.base.apply items).filter (catalog.Meets query.filters ·)) } := by
  unfold ofQuery
  dsimp only
  rw [Checked.bind_eq_ok]
  refine exists_congr fun counts => and_congr_right fun hcounts => ?_
  -- Filters that can be counted can also be selected.
  have hanswers := (catalog.count_returns _).1 ⟨counts, hcounts⟩
  have hkept := (catalog.apply_compile query.filters).2
    ⟨fun item hitem => catalog.passes_compile_returns query.filters fun filter hfilter =>
      hanswers item hitem filter (Catalog.mem_selected.1 hfilter).1, rfl⟩
  rw [hkept]
  exact (Iff.of_eq (Except.ok.injEq ..)).trans eq_comm

/-- A query comes to a view exactly if the filters can be counted on what it keeps. -/
theorem of_query_returns : (∃ view, ofQuery catalog items query = .ok view) ↔
    ∃ counts, catalog.count (query.base.apply items) = .ok counts := by
  simp only [of_query_eq_ok]
  exact ⟨fun ⟨_, counts, hcounts, _⟩ => ⟨counts, hcounts⟩,
    fun ⟨counts, hcounts⟩ => ⟨_, counts, hcounts, rfl⟩⟩

/-- The key of a view is that of its ids. -/
theorem key_of_query (h : ofQuery catalog items query = .ok view) :
    view.key = Key.ofIds view.ids := by
  obtain ⟨counts, -, rfl⟩ := of_query_eq_ok.1 h
  rfl

/-- Who asks for the same sees the same items, under the same key. -/
theorem of_query_rephrased (hsame : Rephrases catalog items' query' items query)
    (h : ofQuery catalog items query = .ok view) :
    ∃ view', ofQuery catalog items' query' = .ok view' ∧ view'.ids.Perm view.ids ∧
      view'.key = view.key := by
  obtain ⟨counts, hcounts, rfl⟩ := of_query_eq_ok.1 h
  have hbase : (query'.base.apply items').Perm (query.base.apply items) := by
    rw [hsame.base_eq]
    exact hsame.items_perm.filter _
  have hselected : catalog.selected query'.filters = catalog.selected query.filters :=
    List.filter_congr fun filter hfilter => decide_eq_decide.2 (hsame.filters_iff filter hfilter)
  have hmeets : ∀ item, catalog.Meets query'.filters item ↔ catalog.Meets query.filters item := by
    intro item
    unfold Catalog.Meets
    rw [hselected]
  have hids : ((query'.base.apply items').filter (catalog.Meets query'.filters ·)).Perm
      ((query.base.apply items).filter (catalog.Meets query.filters ·)) := by
    simp only [hmeets]
    exact hbase.filter _
  refine ⟨_, of_query_eq_ok.2 ⟨counts, Catalog.count_congr hbase hcounts, rfl⟩, hids.map _, ?_⟩
  exact Key.of_ids_congr fun id => (hids.map Item.id).mem_iff

end View

end GameLibrary
