import GameLibrary.Popularity.Ranking
import GameLibrary.Proofs.Number.Ordering
import Mathlib.Data.List.Sort
import Mathlib.Data.Prod.Lex
import Mathlib.Data.String.Basic

/-!
# What a merged ranking is

The order of a ranking is a linear order of items: no two items that differ have the same place in it
(`RankedItem.place_injective`). So the merged ranking depends on which items were answered, and how
often, and not on the order or the batches in which they came (`Ranking.merge_congr`); and it lists
each id with its scores as often as the answers do. Its ranks are counted from one on, as long as they
can be counted in thirty-two bits, so the ranking is in order by its own ranks as well, and merging it
again changes nothing. `Ranking.merge_canonical` puts this together.
-/

namespace GameLibrary

open Number (Binary64)

namespace RankedItem

/-- The place of an item among all items: by score from above, then by rank, then by id. -/
def place (item : RankedItem) : ℤᵒᵈ ×ₗ ℕ ×ₗ String :=
  toLex (OrderDual.toDual item.score.totalKey, toLex (item.rank.toNat, item.id))

/-- Items that differ have different places. -/
theorem place_injective : Function.Injective place := by
  intro a b h
  obtain ⟨hscore, hrest⟩ := Prod.mk.inj (toLex_inj.1 h)
  obtain ⟨hrank, hid⟩ := Prod.mk.inj (toLex_inj.1 hrest)
  cases a
  cases b
  obtain rfl := Binary64.total_key_injective (OrderDual.toDual_inj.1 hscore)
  obtain rfl := UInt32.toNat_inj.1 hrank
  obtain rfl := hid
  rfl

/-- An item may stand before another one if its place is not behind. -/
theorem precedes_iff {a b : RankedItem} : a.precedes b = true ↔ a.place ≤ b.place := by
  unfold precedes place
  rw [Prod.Lex.toLex_le_toLex, Prod.Lex.toLex_le_toLex]
  simp only [Bool.or_eq_true, Bool.and_eq_true, decide_eq_true_eq, OrderDual.toDual_lt_toDual,
    OrderDual.toDual_inj, UInt32.lt_iff_toNat_lt, UInt32.toNat_inj]

/-- The sorted items stand in order. -/
theorem pairwise_sort (items : List RankedItem) :
    (items.mergeSort precedes).Pairwise fun a b => a.precedes b = true := by
  refine List.pairwise_mergeSort ?_ ?_ items
  · intro a b c hab hbc
    rw [precedes_iff] at hab hbc ⊢
    exact hab.trans hbc
  · intro a b
    rw [Bool.or_eq_true, precedes_iff, precedes_iff]
    exact le_total a.place b.place

/-- Items in any order are sorted in one way. -/
theorem sort_congr {items others : List RankedItem} (h : items.Perm others) :
    items.mergeSort precedes = others.mergeSort precedes := by
  have hperm : (items.mergeSort precedes).Perm (others.mergeSort precedes) :=
    (List.mergeSort_perm items precedes).trans (h.trans (List.mergeSort_perm others precedes).symm)
  refine hperm.eq_of_pairwise ?_ (pairwise_sort items) (pairwise_sort others)
  intro a b _ _ hab hba
  exact place_injective (le_antisymm (precedes_iff.1 hab) (precedes_iff.1 hba))

/-- An item is ahead of another one: by a score that is above in the total order of doubles, or with
the same score by a rank that is less, or with the same rank by its id. -/
def Ahead (a b : RankedItem) : Prop :=
  b.score.Below a.score ∨
    a.score = b.score ∧ (a.rank < b.rank ∨ a.rank = b.rank ∧ a.id < b.id)

/-- An item that may stand before another one is ahead of it, unless they are the same. -/
theorem ahead_of_precedes {a b : RankedItem} (h : a.precedes b = true) : a.Ahead b ∨ a = b := by
  unfold precedes at h
  simp only [Bool.or_eq_true, Bool.and_eq_true, decide_eq_true_eq] at h
  rcases h with hscore | ⟨hscore, hrank | ⟨hrank, hid⟩⟩
  · exact .inl (.inl (Binary64.below_iff.2 hscore))
  · exact .inl (.inr ⟨Binary64.total_key_injective hscore, .inl hrank⟩)
  · have hsame := Binary64.total_key_injective hscore
    rcases lt_or_eq_of_le hid with hid | hid
    · exact .inl (.inr ⟨hsame, .inr ⟨hrank, hid⟩⟩)
    · refine .inr ?_
      cases a
      cases b
      cases hsame
      cases hrank
      cases hid
      rfl

/-- Items whose scores do not rise and whose ranks rise stand in order. -/
theorem precedes_of_rank_lt {a b : RankedItem} (hscore : b.score.totalKey ≤ a.score.totalKey)
    (hrank : a.rank.toNat < b.rank.toNat) : a.precedes b = true := by
  unfold precedes
  simp only [Bool.or_eq_true, Bool.and_eq_true, decide_eq_true_eq]
  rcases lt_or_eq_of_le hscore with hscore | hscore
  · exact .inl hscore
  · exact .inr ⟨hscore.symm, .inl (UInt32.lt_iff_toNat_lt.2 hrank)⟩

/-- What an item says besides its rank. -/
def entry (item : RankedItem) : String × Binary64 := (item.id, item.score)

end RankedItem

namespace Ranking

variable {batches others : List (List RankedItem)} {items : List RankedItem} {next : UInt32}

/-- The ranks are given anew, the ids and scores stay. -/
theorem entries_renumber (next : UInt32) (items : List RankedItem) :
    (renumber next items).map RankedItem.entry = items.map RankedItem.entry := by
  induction items generalizing next with
  | nil => rfl
  | cons item rest ih =>
      unfold renumber
      rw [List.map_cons, List.map_cons, ih]
      rfl

/-- The ranks are counted up, as long as there are ranks. -/
theorem ranks_renumber (hfew : next.toNat + items.length ≤ 2 ^ 32) :
    (renumber next items).map (fun item => item.rank.toNat) =
      List.range' next.toNat items.length := by
  induction items generalizing next with
  | nil => rfl
  | cons item rest ih =>
      rw [List.length_cons] at hfew
      rw [renumber, List.map_cons, List.length_cons, List.range'_succ]
      cases rest with
      | nil => rfl
      | cons second rest =>
          have hnext : (next + 1).toNat = next.toNat + 1 := by
            rw [List.length_cons] at hfew
            rw [UInt32.toNat_add, UInt32.toNat_one]
            omega
          rw [ih (by omega), hnext]

/-- Items that have their ranks keep them. -/
theorem renumber_renumber (next : UInt32) (items : List RankedItem) :
    renumber next (renumber next items) = renumber next items := by
  induction items generalizing next with
  | nil => rfl
  | cons item rest ih => rw [renumber, renumber, ih]

/-- The merged ranking depends on which items were answered, and how often. -/
theorem merge_congr (h : batches.flatten.Perm others.flatten) : merge batches = merge others := by
  unfold merge
  rw [RankedItem.sort_congr h]

/-- Items that stand in order only get their ranks. -/
theorem merge_of_sorted (hperm : items.Perm batches.flatten)
    (hsorted : items.Pairwise fun a b => a.precedes b = true) :
    merge batches = renumber 1 items := by
  unfold merge
  rw [← RankedItem.sort_congr hperm, List.mergeSort_of_pairwise hsorted]

/-- The merged ranking lists every id with its scores as often as the answers do. -/
theorem entries_merge (batches : List (List RankedItem)) :
    ((merge batches).map RankedItem.entry).Perm (batches.flatten.map RankedItem.entry) := by
  unfold merge
  rw [entries_renumber]
  exact (List.mergeSort_perm _ _).map _

/-- The merged ranking lists every id as often as the answers do. -/
theorem ids_merge (batches : List (List RankedItem)) :
    ((merge batches).map RankedItem.id).Perm (batches.flatten.map RankedItem.id) := by
  have hentries := (entries_merge batches).map Prod.fst
  rwa [List.map_map, List.map_map] at hentries

section Ranks

variable (hfew : batches.flatten.length < 2 ^ 32)
include hfew

/-- A merged ranking has the ranks from one on. -/
theorem ranks_merge : (merge batches).map (fun item => item.rank.toNat) =
    List.range' 1 batches.flatten.length := by
  have hlength := (List.mergeSort_perm batches.flatten RankedItem.precedes).length_eq
  have hone : (1 : UInt32).toNat = 1 := rfl
  unfold merge
  rw [ranks_renumber (by omega), hlength, hone]

/-- The ranks of a merged ranking rise. -/
theorem pairwise_rank_merge :
    (merge batches).Pairwise fun a b => a.rank.toNat < b.rank.toNat := by
  have hranks : (List.range' 1 batches.flatten.length).Pairwise (· < ·) := List.pairwise_lt_range' 1
  rwa [← ranks_merge hfew, List.pairwise_map] at hranks

/-- A merged ranking is in order by its own ranks. -/
theorem pairwise_merge : (merge batches).Pairwise fun a b => a.precedes b = true := by
  have hscores : (merge batches).Pairwise
      fun a b => b.score.totalKey ≤ a.score.totalKey := by
    have hsorted : ((batches.flatten.mergeSort RankedItem.precedes).map
        RankedItem.entry).Pairwise fun a b => b.2.totalKey ≤ a.2.totalKey := by
      refine List.pairwise_map.2 ((RankedItem.pairwise_sort _).imp fun {a b} hab => ?_)
      unfold RankedItem.precedes at hab
      simp only [Bool.or_eq_true, Bool.and_eq_true, decide_eq_true_eq] at hab
      exact hab.elim le_of_lt fun h => h.1.symm.le
    rw [← entries_renumber 1] at hsorted
    exact List.pairwise_map.1 hsorted
  refine (hscores.and (pairwise_rank_merge hfew)).imp ?_
  rintro a b ⟨hscore, hrank⟩
  exact RankedItem.precedes_of_rank_lt hscore hrank

/-- Merging a merged ranking changes nothing. -/
theorem merge_merge : merge [merge batches] = merge batches := by
  have hperm : (merge batches).Perm [merge batches].flatten := by rw [List.flatten_singleton]
  calc merge [merge batches]
    _ = renumber 1 (merge batches) := merge_of_sorted hperm (pairwise_merge hfew)
    _ = merge batches := renumber_renumber 1 _

/-- The rank of an id is the least one that the id has. -/
theorem rank_of_merge {id : String} {rank : UInt32} (hrank : rankOf? (merge batches) id = some rank) :
    IsLeast {n | ∃ item ∈ merge batches, item.id = id ∧ item.rank.toNat = n} rank.toNat := by
  obtain ⟨item, hfound, rfl⟩ := Option.map_eq_some_iff.1 hrank
  obtain ⟨hid, before, after, hsplit, hnone⟩ := List.find?_eq_some_iff_append.1 hfound
  have hid := of_decide_eq_true hid
  refine ⟨⟨item, List.mem_of_find?_eq_some hfound, hid, rfl⟩, ?_⟩
  rintro n ⟨other, hother, hsame, rfl⟩
  -- No item with the id comes earlier, and the ranks of those behind are greater.
  have hrising := pairwise_rank_merge hfew
  rw [hsplit, List.pairwise_append, List.pairwise_cons] at hrising
  rw [hsplit, List.mem_append, List.mem_cons] at hother
  rcases hother with hbefore | rfl | hafter
  · have hnot := hnone other hbefore
    simp [hsame] at hnot
  · exact le_rfl
  · exact (hrising.2.1.1 other hafter).le

end Ranks

/-- An id without rank is that of no item. -/
theorem rank_of_merge_eq_none (batches : List (List RankedItem)) (id : String) :
    rankOf? (merge batches) id = none ↔ ∀ batch ∈ batches, ∀ item ∈ batch, item.id ≠ id := by
  have hmem : id ∈ (merge batches).map RankedItem.id ↔ id ∈ batches.flatten.map RankedItem.id :=
    (ids_merge batches).mem_iff
  have hnone : rankOf? (merge batches) id = none ↔ id ∉ (merge batches).map RankedItem.id := by
    unfold rankOf?
    rw [Option.map_eq_none_iff, List.find?_eq_none, List.mem_map]
    simp only [decide_eq_true_eq]
    exact ⟨fun h ⟨item, hitem, hid⟩ => h item hitem hid, fun h item hitem hid => h ⟨item, hitem, hid⟩⟩
  rw [hnone, hmem, List.mem_map]
  simp only [List.mem_flatten]
  constructor
  · intro h batch hbatch item hitem hid
    exact h ⟨item, ⟨batch, hbatch, hitem⟩, hid⟩
  · rintro h ⟨item, ⟨batch, hbatch, hitem⟩, hid⟩
    exact h batch hbatch item hitem hid

/-- A ranking is the one that the items of some batches have. -/
structure Canonical (batches : List (List RankedItem)) (ranking : Ranking) : Prop where
  /-- The ids and scores are those of the items, the items ahead of others first. -/
  sorted : ∃ items : List RankedItem, items.Perm batches.flatten ∧
    items.Pairwise (fun a b => a.Ahead b ∨ a = b) ∧
    ranking.map RankedItem.entry = items.map RankedItem.entry
  /-- The ranks are counted from one on. -/
  ranks : ranking.map (fun item => item.rank.toNat) = List.range' 1 batches.flatten.length
  /-- The same items in other batches or in another order have the same ranking. -/
  unsplit : ∀ {others : List (List RankedItem)}, others.flatten.Perm batches.flatten →
    merge others = ranking
  /-- The ranking is that of its own items. -/
  again : merge [ranking] = ranking
  /-- An id has the least rank that it occurs with. -/
  rank_of : ∀ {id rank}, rankOf? ranking id = some rank →
    IsLeast {n | ∃ item ∈ ranking, item.id = id ∧ item.rank.toNat = n} rank.toNat
  /-- An id has no rank if and only if it does not occur. -/
  rank_of_none : ∀ id, rankOf? ranking id = none ↔ ∀ batch ∈ batches, ∀ item ∈ batch, item.id ≠ id

/-- Batches of fewer than `2 ^ 32` items are merged into the ranking that their items have, whatever
the scores, ranks and ids are. -/
theorem merge_canonical (hfew : batches.flatten.length < 2 ^ 32) :
    Canonical batches (merge batches) where
  sorted := ⟨batches.flatten.mergeSort RankedItem.precedes, List.mergeSort_perm _ _,
    (RankedItem.pairwise_sort _).imp RankedItem.ahead_of_precedes, entries_renumber 1 _⟩
  ranks := ranks_merge hfew
  unsplit hperm := merge_congr hperm
  again := merge_merge hfew
  rank_of hrank := rank_of_merge hfew hrank
  rank_of_none := rank_of_merge_eq_none batches

/-- A NaN, both zeros, an id with two scores and ties of score and rank, in two batches. -/
def tiedBatches : List (List RankedItem) :=
  [[⟨"b", 3, Binary64.zero⟩, ⟨"a", 3, Binary64.zero⟩, ⟨"c", 1, Binary64.zero.neg⟩],
    [⟨"c", 7, Binary64.nan⟩, ⟨"d", 2, Binary64.zero⟩, ⟨"c", 1, Binary64.zero.neg⟩]]

/-- The same items in order. -/
def tiedItems : List RankedItem :=
  [⟨"c", 7, Binary64.nan⟩, ⟨"d", 2, Binary64.zero⟩, ⟨"a", 3, Binary64.zero⟩,
    ⟨"b", 3, Binary64.zero⟩, ⟨"c", 1, Binary64.zero.neg⟩, ⟨"c", 1, Binary64.zero.neg⟩]

/-- The NaN comes first, and negative zeros come after the positive ones. -/
theorem merge_canonical_tied :
    merge tiedBatches = renumber 1 tiedItems ∧ rankOf? (merge tiedBatches) "c" = some 1 ∧
      Canonical tiedBatches (merge tiedBatches) := by
  have hmerged : merge tiedBatches = renumber 1 tiedItems :=
    merge_of_sorted (by decide +kernel) (by decide +kernel)
  refine ⟨hmerged, ?_, merge_canonical (by decide)⟩
  rw [hmerged]
  rfl

end Ranking

end GameLibrary
