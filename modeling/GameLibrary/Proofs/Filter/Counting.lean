import GameLibrary.Filter.Counts
import GameLibrary.Proofs.Filter.Selection

/-!
# Counts agree with selections

All filters are counted in one pass over the items, each in a slot of its own. What comes of a slot
is what its filter on its own says of the items, unless some filter breaks down on one of them
(`Catalog.count_eq_ok`). So the count of a filter is the number of items that pass it as a selection,
and neither the other filters nor the order of the items matter: `Catalog.count_agrees`.
-/

namespace GameLibrary

namespace Filter

/-- What the filter on its own says of some items. -/
def tally (filter : Filter) (items : List Item) : Tally where
  filter := filter.id
  accepted := items.countP (filter.holds · = .ok (.ok true))
  failed := items.countP filter.fails

/-- One more item is added to the tally of the items before it, unless the filter breaks down. -/
theorem add_check (filter : Filter) (items : List Item) (item : Item) (tally : Tally) :
    (filter.check item).map (filter.tally items).add = .ok tally ↔
      filter.Answers item ∧ tally = filter.tally (items ++ [item]) := by
  unfold Filter.tally Tally.add check Answers fails
  rw [List.countP_append, List.countP_append, List.countP_singleton, List.countP_singleton]
  cases hholds : filter.holds item with
  | error breakdown => exact iff_of_false nofun nofun
  | ok answer =>
      rcases answer with reason | (_ | _) <;>
        simp [Except.map, Except.mapError, eq_comm]

/-- An item cannot both be accepted and make the filter fail. -/
theorem accepted_add_failed_le (filter : Filter) (items : List Item) :
    (filter.tally items).accepted + (filter.tally items).failed ≤ items.length := by
  have hexclusive : items.countP filter.fails ≤
      items.countP fun item => decide ¬ decide (filter.holds item = .ok (.ok true)) = true := by
    refine List.countP_mono_left fun item _ hfails => ?_
    unfold fails at hfails
    split at hfails
    case h_1 hholds => simp [hholds]
    case h_2 => cases hfails
    case h_3 => cases hfails
  rw [List.length_eq_countP_add_countP (filter.holds · = .ok (.ok true))]
  exact Nat.add_le_add_left hexclusive _

/-- The order of the items does not matter. -/
theorem tally_congr (filter : Filter) {items others : List Item} (hperm : others.Perm items) :
    filter.tally others = filter.tally items := by
  unfold tally
  rw [hperm.countP_eq, hperm.countP_eq]

end Filter

namespace FilterCounts

/-- The filters that fail on some items, each with the number of these. -/
def failing (counts : FilterCounts) : List (String × Nat) :=
  (counts.tallies.filter (0 < ·.failed)).map fun tally => (tally.filter, tally.failed)

/-- The part of the document that lists failures, which is left out where there are none. -/
def failuresMember (failing : List (String × Nat)) : List (String × Json) :=
  if failing.isEmpty then []
  else [("failures", .object (failing.map fun entry => (entry.1, .natural entry.2)))]

/-- The document has the counts of all filters, the failures and the number of items. -/
theorem to_json_eq (counts : FilterCounts) : counts.toJson = .object (
    ("counts", .object (counts.tallies.map fun tally => (tally.filter, .natural tally.accepted))) ::
      failuresMember counts.failing ++ [("total", .natural counts.total)]) := by
  unfold toJson failuresMember failing
  dsimp only
  rw [List.isEmpty_map, List.map_map]
  rfl

/-- Among tallies of distinct filters a look-up finds the one with the id. -/
theorem find?_tally {tallies : List Tally} (hdistinct : (tallies.map Tally.filter).Nodup)
    {tally : Tally} (hmem : tally ∈ tallies) :
    tallies.find? (·.filter = tally.filter) = some tally := by
  induction tallies with
  | nil => cases hmem
  | cons first rest ih =>
      obtain ⟨hnot, hrest⟩ := List.nodup_cons.1 hdistinct
      rcases List.mem_cons.1 hmem with rfl | hmem
      · rw [List.find?_cons_of_pos (by simp)]
      · have hne : first.filter ≠ tally.filter :=
          fun heq => hnot (heq ▸ List.mem_map_of_mem hmem)
        rw [List.find?_cons_of_neg (by simpa using hne)]
        exact ih hrest hmem

end FilterCounts

namespace Catalog

variable (catalog : Catalog) (items : List Item)

/-- An item is added slot by slot. -/
theorem tally_item_eq_ok (past : List Item) (item : Item) {tallies : List Tally} :
    catalog.tallyItem (catalog.filters.map (·.tally past)) item = .ok tallies ↔
      (∀ filter ∈ catalog.filters, filter.Answers item) ∧
        tallies = catalog.filters.map (·.tally (past ++ [item])) := by
  unfold tallyItem
  rw [List.zipWith_map_left, List.zipWith_self, List.mapM_map]
  exact Checked.sequence_eq_ok fun filter tally => filter.add_check past item tally

/-- The pass over the items keeps in every slot what its filter says of the items so far. -/
theorem foldl_tally_item_eq_ok (past : List Item) (tallies : List Tally) :
    items.foldlM catalog.tallyItem (catalog.filters.map (·.tally past)) = .ok tallies ↔
      (∀ item ∈ items, ∀ filter ∈ catalog.filters, filter.Answers item) ∧
        tallies = catalog.filters.map (·.tally (past ++ items)) := by
  induction items generalizing past with
  | nil =>
      rw [List.foldlM_nil, List.append_nil]
      constructor
      · rintro ⟨⟩
        exact ⟨nofun, rfl⟩
      · rintro ⟨-, rfl⟩
        rfl
  | cons item rest ih =>
      rw [List.foldlM_cons, Checked.bind_eq_ok, List.forall_mem_cons, ← List.singleton_append,
        ← List.append_assoc]
      constructor
      · rintro ⟨first, hfirst, hrest⟩
        obtain ⟨hitem, rfl⟩ := (catalog.tally_item_eq_ok past item).1 hfirst
        obtain ⟨hitems, rfl⟩ := (ih _).1 hrest
        exact ⟨⟨hitem, hitems⟩, rfl⟩
      · rintro ⟨⟨hitem, hitems⟩, rfl⟩
        exact ⟨_, (catalog.tally_item_eq_ok past item).2 ⟨hitem, rfl⟩, (ih _).2 ⟨hitems, rfl⟩⟩

/-- The counts are the tallies of the filters, each on its own, in the order of the ids. There are
counts unless a filter breaks down on an item. -/
theorem count_eq_ok {counts : FilterCounts} : catalog.count items = .ok counts ↔
    (∀ item ∈ items, ∀ filter ∈ catalog.filters, filter.Answers item) ∧
      counts = ⟨(catalog.filters.map (·.tally items)).mergeSort fun a b => a.filter ≤ b.filter,
        items.length⟩ := by
  have hpass := catalog.foldl_tally_item_eq_ok items []
  unfold count
  rw [Checked.bind_eq_ok]
  constructor
  · rintro ⟨tallies, htallies, hcounts⟩
    obtain ⟨hanswers, rfl⟩ := (hpass tallies).1 htallies
    cases hcounts
    exact ⟨hanswers, rfl⟩
  · rintro ⟨hanswers, rfl⟩
    exact ⟨_, (hpass _).2 ⟨hanswers, rfl⟩, rfl⟩

/-- There are counts exactly if no filter breaks down on any of the items. -/
theorem count_returns : (∃ counts, catalog.count items = .ok counts) ↔
    ∀ item ∈ items, ∀ filter ∈ catalog.filters, filter.Answers item := by
  constructor
  · rintro ⟨counts, hcounts⟩
    exact ((catalog.count_eq_ok items).1 hcounts).1
  · exact fun hanswers => ⟨_, (catalog.count_eq_ok items).2 ⟨hanswers, rfl⟩⟩

variable {catalog items}

/-- If counting breaks down, it is a filter that breaks down on an item. -/
theorem breaks_of_count {breakdown : Breakdown} (h : catalog.count items = .error breakdown) :
    ∃ item ∈ items, ∃ filter ∈ catalog.filters, filter.holds item = .error breakdown := by
  unfold count at h
  have hpass : items.foldlM catalog.tallyItem (catalog.filters.map fun filter => ⟨filter.id, 0, 0⟩) =
      .error breakdown := by
    simpa [Checked.bind_eq_error, pure, Except.pure] using h
  obtain ⟨item, hitem, tallies, hbreaks⟩ := Checked.breaks_of_fold hpass
  unfold tallyItem at hbreaks
  rw [← List.map_uncurry_zip_eq_zipWith, List.mapM_map] at hbreaks
  obtain ⟨⟨tally, filter⟩, hmem, hcheck⟩ := Checked.breaks_of_sequence hbreaks
  refine ⟨item, hitem, filter, (List.of_mem_zip hmem).2, ?_⟩
  cases hholds : filter.holds item with
  | ok answer => simp [Function.uncurry_apply_pair, Filter.check, hholds, Except.map] at hcheck
  | error other => simpa [Function.uncurry_apply_pair, Filter.check, hholds, Except.map] using hcheck

section Counts

variable {counts : FilterCounts} (hcounts : catalog.count items = .ok counts)

include hcounts

theorem tallies_count : counts.tallies.Perm (catalog.filters.map (·.tally items)) := by
  obtain ⟨-, rfl⟩ := (catalog.count_eq_ok items).1 hcounts
  exact List.mergeSort_perm _ _

theorem total_count : counts.total = items.length := by
  obtain ⟨-, rfl⟩ := (catalog.count_eq_ok items).1 hcounts
  rfl

theorem ids_count : (counts.tallies.map Tally.filter).Perm (catalog.filters.map Filter.id) := by
  refine ((tallies_count hcounts).map Tally.filter).trans (List.Perm.of_eq ?_)
  rw [List.map_map]
  rfl

theorem nodup_ids_count : (counts.tallies.map Tally.filter).Nodup :=
  (ids_count hcounts).nodup_iff.2 catalog.distinct

/-- The tallies come in the order of the ids. -/
theorem ascending_count : (counts.tallies.map Tally.filter).Pairwise (· < ·) := by
  have hsorted : (counts.tallies.map Tally.filter).Pairwise (· ≤ ·) := by
    obtain ⟨-, rfl⟩ := (catalog.count_eq_ok items).1 hcounts
    rw [List.pairwise_map]
    refine (List.pairwise_mergeSort ?_ ?_ _).imp of_decide_eq_true
    · intro a b c hab hbc
      exact decide_eq_true (le_trans (of_decide_eq_true hab) (of_decide_eq_true hbc))
    · intro a b
      simpa using le_total a.filter b.filter
  exact (hsorted.and (nodup_ids_count hcounts)).imp fun h => lt_of_le_of_ne h.1 h.2

/-- A look-up finds the tally of the filter. -/
theorem find_count {filter : Filter} (hfilter : filter ∈ catalog.filters) :
    counts.tallies.find? (·.filter = filter.id) = some (filter.tally items) :=
  FilterCounts.find?_tally (nodup_ids_count hcounts)
    ((tallies_count hcounts).mem_iff.2 (List.mem_map_of_mem hfilter))

theorem accepted_count {filter : Filter} (hfilter : filter ∈ catalog.filters) :
    counts.accepted? filter.id = some (filter.tally items).accepted := by
  unfold FilterCounts.accepted?
  rw [find_count hcounts hfilter, Option.map_some]

theorem failures_count {filter : Filter} (hfilter : filter ∈ catalog.filters) :
    counts.failures filter.id = (filter.tally items).failed := by
  unfold FilterCounts.failures
  rw [find_count hcounts hfilter, Option.map_some, Option.getD_some]

/-- An id that no filter has is not counted. -/
theorem find_count_eq_none {id : String} (hnone : ∀ filter ∈ catalog.filters, filter.id ≠ id) :
    counts.tallies.find? (·.filter = id) = none := by
  refine List.find?_eq_none.2 fun tally htally heq => ?_
  have hid := (ids_count hcounts).mem_iff.1 (List.mem_map_of_mem htally)
  obtain ⟨filter, hfilter, hsame⟩ := List.mem_map.1 hid
  exact hnone filter hfilter (hsame.trans (of_decide_eq_true heq))

/-- The filters that fail on some items are listed with the number of these. -/
theorem mem_failing_count {id : String} {n : Nat} : (id, n) ∈ counts.failing ↔
    0 < n ∧ ∃ filter ∈ catalog.filters, filter.id = id ∧ (filter.tally items).failed = n := by
  unfold FilterCounts.failing
  simp only [List.mem_map, List.mem_filter, (tallies_count hcounts).mem_iff,
    decide_eq_true_eq, Prod.mk.injEq]
  constructor
  · rintro ⟨tally, ⟨⟨filter, hfilter, rfl⟩, hpos⟩, rfl, rfl⟩
    exact ⟨hpos, filter, hfilter, rfl, rfl⟩
  · rintro ⟨hpos, filter, hfilter, rfl, rfl⟩
    exact ⟨filter.tally items, ⟨⟨filter, hfilter, rfl⟩, hpos⟩, rfl, rfl⟩

/-- Where the filters are counted, the items that pass one of them as a selection of its own are
those of which it holds. -/
theorem apply_compile_single {filter : Filter} (hfilter : filter ∈ catalog.filters) :
    (catalog.compile [filter.id]).apply items =
      .ok (items.filter (filter.holds · = .ok (.ok true))) := by
  -- No other filter has the id.
  have honly : ∀ other, other ∈ catalog.selected [filter.id] ↔ other = filter := by
    intro other
    rw [mem_selected, List.mem_singleton]
    constructor
    · rintro ⟨hother, hid⟩
      exact List.inj_on_of_nodup_map catalog.distinct hother hfilter hid
    · rintro rfl
      exact ⟨hfilter, rfl⟩
  refine (catalog.apply_compile _).2 ⟨fun item hitem => ?_, List.filter_congr fun item _ => ?_⟩
  · refine catalog.passes_compile_returns _ fun other hother => ?_
    rw [(honly other).1 hother]
    exact ((catalog.count_eq_ok items).1 hcounts).1 item hitem filter hfilter
  · unfold Meets
    simp [honly]

end Counts

/-- The order of the items does not matter. -/
theorem count_congr {others : List Item} (hperm : others.Perm items) {counts : FilterCounts}
    (hcounts : catalog.count items = .ok counts) : catalog.count others = .ok counts := by
  obtain ⟨hanswers, rfl⟩ := (catalog.count_eq_ok items).1 hcounts
  have htallies : catalog.filters.map (·.tally others) = catalog.filters.map (·.tally items) :=
    List.map_congr_left fun filter _ => filter.tally_congr hperm
  rw [count_eq_ok, htallies, hperm.length_eq]
  exact ⟨fun item hitem => hanswers item (hperm.mem_iff.1 hitem), rfl⟩

variable (catalog items)

/-- The counts `counts` tell of every filter of the catalog what it says of the items. -/
structure Counted (counts : FilterCounts) : Prop where
  /-- There is one count for each filter, and the counts come in the order of the ids. -/
  ids : (counts.tallies.map Tally.filter).Perm (catalog.filters.map Filter.id)
  ascending : (counts.tallies.map Tally.filter).Pairwise (· < ·)
  unknown : ∀ {id}, (∀ filter ∈ catalog.filters, filter.id ≠ id) →
    counts.accepted? id = none ∧ counts.failures id = 0
  /-- A filter is counted as often as it holds, -/
  accepted : ∀ filter ∈ catalog.filters,
    counts.accepted? filter.id = some (items.countP (filter.holds · = .ok (.ok true)))
  /-- which is the number of items that pass the filter as a selection of its own. -/
  selected : ∀ filter ∈ catalog.filters, ∃ kept,
    (catalog.compile [filter.id]).apply items = .ok kept ∧
      counts.accepted? filter.id = some kept.length
  /-- The items on which it fails are counted apart. -/
  failed : ∀ filter ∈ catalog.filters, counts.failures filter.id = items.countP filter.fails
  total_eq : counts.total = items.length
  bounded : ∀ filter ∈ catalog.filters, ∀ {accepted}, counts.accepted? filter.id = some accepted →
    accepted + counts.failures filter.id ≤ counts.total
  /-- In another catalog, a filter that says the same has the same counts. -/
  independent : ∀ {other : Catalog} {others filter filter'},
    other.count items = .ok others → filter ∈ catalog.filters → filter' ∈ other.filters →
    filter'.holds = filter.holds →
      others.accepted? filter'.id = counts.accepted? filter.id ∧
        others.failures filter'.id = counts.failures filter.id
  /-- In another order, the same items have the same counts. -/
  unordered : ∀ {others : List Item}, others.Perm items → catalog.count others = .ok counts
  /-- The document lists the failures of exactly those filters that have any. -/
  listed : ∃ failing : List (String × Nat),
    counts.toJson = .object (("counts", .object
      (counts.tallies.map fun tally => (tally.filter, .natural tally.accepted))) ::
        FilterCounts.failuresMember failing ++ [("total", .natural counts.total)]) ∧
    (failing.map Prod.fst).Pairwise (· < ·) ∧
    ∀ id n, (id, n) ∈ failing ↔ 0 < n ∧ ∃ filter ∈ catalog.filters, filter.id = id ∧
      items.countP filter.fails = n

/-- The items are counted unless a filter breaks down on one of them, and the counts agree with what
the filters say as selections. -/
theorem count_agrees :
    ((∃ counts, catalog.count items = .ok counts) ↔
      ∀ item ∈ items, ∀ filter ∈ catalog.filters, filter.Answers item) ∧
    ∀ counts, catalog.count items = .ok counts → catalog.Counted items counts := by
  refine ⟨catalog.count_returns items, fun counts hcounts => ?_⟩
  constructor
  case ids => exact ids_count hcounts
  case ascending => exact ascending_count hcounts
  case unknown =>
    intro id hnone
    have hfind := find_count_eq_none hcounts hnone
    unfold FilterCounts.accepted? FilterCounts.failures
    rw [hfind]
    exact ⟨rfl, rfl⟩
  case accepted => exact fun filter hfilter => accepted_count hcounts hfilter
  case selected =>
    intro filter hfilter
    refine ⟨_, apply_compile_single hcounts hfilter, ?_⟩
    rw [← List.countP_eq_length_filter]
    exact accepted_count hcounts hfilter
  case failed => exact fun filter hfilter => failures_count hcounts hfilter
  case total_eq => exact total_count hcounts
  case bounded =>
    intro filter hfilter accepted haccepted
    rw [accepted_count hcounts hfilter, Option.some.injEq] at haccepted
    subst haccepted
    rw [failures_count hcounts hfilter, total_count hcounts]
    exact filter.accepted_add_failed_le items
  case independent =>
    intro other others filter filter' hothers hfilter hfilter' hsame
    have hfails : filter'.fails = filter.fails := by
      unfold Filter.fails
      rw [hsame]
    rw [accepted_count hothers hfilter', accepted_count hcounts hfilter,
      failures_count hothers hfilter', failures_count hcounts hfilter]
    unfold Filter.tally
    rw [hsame, hfails]
    exact ⟨rfl, rfl⟩
  case unordered => exact fun hperm => count_congr hperm hcounts
  case listed =>
    refine ⟨counts.failing, FilterCounts.to_json_eq _, ?_, fun id n => mem_failing_count hcounts⟩
    have hsub : (counts.failing.map Prod.fst).Sublist (counts.tallies.map Tally.filter) := by
      unfold FilterCounts.failing
      rw [List.map_map]
      exact List.Sublist.map Tally.filter List.filter_sublist
    exact (ascending_count hcounts).sublist hsub

end Catalog

end GameLibrary
