import GameLibrary.Proofs.Filter.Bands

/-!
# The release windows of the standard filters

A release window takes in the items of its first year and of all later ones, and the shorter one
lies in the longer one. Where there is no first year the filter breaks down. For the reference years
from which only the longer window goes back too far, a new release is an item on which it breaks
down; but then there are no counts either, and those that there are never give more new releases than
recent items: `Standard.release_windows`.
-/

namespace GameLibrary

/-- The counts give no more items to the first filter than to the second. -/
def FilterCounts.NoMore (counts : FilterCounts) (id other : String) : Prop :=
  ∃ few many, counts.accepted? id = some few ∧ counts.accepted? other = some many ∧ few ≤ many

namespace Catalog

/-- The catalog has a filter with the id that decides on every item, and it holds of those of which
`property` is true. -/
def Decides (catalog : Catalog) (id : String) (property : Item → Bool) : Prop :=
  ∃ filter, catalog.find? id = some filter ∧ ∀ item, filter.holds item = .ok (.ok (property item))

/-- The catalog has both filters, and whatever the first holds of, the second holds of. -/
def Implies (catalog : Catalog) (id other : String) : Prop :=
  ∃ filter implied, catalog.find? id = some filter ∧ catalog.find? other = some implied ∧
    ∀ item, filter.holds item = .ok (.ok true) → implied.holds item = .ok (.ok true)

/-- A filter that the catalog finds is counted as often as it holds. -/
theorem accepted_of_find {catalog : Catalog} {id : String} {filter : Filter}
    (hfind : catalog.find? id = some filter) {items : List Item} {counts : FilterCounts}
    (hcounts : catalog.count items = .ok counts) :
    counts.accepted? id = some (items.countP (filter.holds · = .ok (.ok true))) := by
  have hid : filter.id = id := by simpa using List.find?_some hfind
  rw [← hid]
  exact accepted_count hcounts (List.mem_of_find?_eq_some hfind)

end Catalog

namespace Standard

open Number (Binary64)

variable (year : Int32)

/-- The catalog finds the filters of the release windows. -/
theorem find_window : ∀ window ∈ releaseWindows, ∃ displayName,
    (catalog year).find? window.1 =
      some (byRelease window.1 displayName (since year window.2)) := by
  intro window hwindow
  simp only [releaseWindows, List.mem_cons, List.not_mem_nil, or_false] at hwindow
  rcases hwindow with rfl | rfl
  · exact ⟨"New release", rfl⟩
  · exact ⟨"Last five years", rfl⟩

/-- A window has a first year and takes in all items since then, or breaks down on some item. -/
theorem decides_window : ∀ window ∈ releaseWindows,
    (catalog year).Decides window.1 (releasedSince (year.toInt - window.2.toInt)) ↔
      CountsBack year window.2 := by
  intro window hwindow
  obtain ⟨displayName, hfind⟩ := find_window year window hwindow
  have hback : ∀ window ∈ releaseWindows, 0 ≤ window.2.toInt := by decide
  have hholds := holds_since year window.1 displayName (hback window hwindow)
  constructor
  · rintro ⟨filter, hfilter, hdecides⟩
    cases Option.some.inj (hfilter.symm.trans hfind)
    by_contra hyear
    have hitem := hdecides { (default : Item) with releaseYear := some year }
    rw [hholds, if_neg (not_or.2 ⟨hyear, nofun⟩)] at hitem
    cases hitem
  · exact fun hyear => ⟨_, hfind, fun item => by rw [hholds, if_pos (.inl hyear)]⟩

/-- What a release window holds of. -/
theorem holds_since_iff (id displayName : String) {back : Int32} (hback : 0 ≤ back.toInt)
    (item : Item) : (byRelease id displayName (since year back)).holds item = .ok (.ok true) ↔
      CountsBack year back ∧ releasedSince (year.toInt - back.toInt) item = true := by
  rw [holds_since year id displayName hback]
  split
  · rename_i hdecides
    rw [Except.ok.injEq, Except.ok.injEq]
    refine ⟨fun hsince => ⟨hdecides.resolve_right fun hnone => ?_, hsince⟩, And.right⟩
    rw [releasedSince, hnone] at hsince
    cases hsince
  · rename_i hbreaks
    exact iff_of_false nofun fun h => hbreaks (.inl h.1)

/-- A new release is recent, unless the window of five years alone goes back too far. -/
theorem new_release_imp_recent_iff :
    (∀ item, CountsBack year 1 ∧ releasedSince (year.toInt - 1) item = true →
      CountsBack year 5 ∧ releasedSince (year.toInt - 5) item = true) ↔
      year = Int32.minValue ∨ CountsBack year 5 := by
  have hleast := year.le_toInt
  have hmin := Int32.toInt_minValue
  have hone : (1 : Int32).toInt = 1 := by decide
  constructor
  · intro himplies
    by_cases hyear : CountsBack year 1
    · -- An item of the reference year tells.
      refine .inr (himplies { (default : Item) with releaseYear := some year } ⟨hyear, ?_⟩).1
      exact decide_eq_true (Int.sub_le_self _ (by decide))
    · unfold CountsBack at hyear
      exact .inl (Int32.toInt_inj.1 (by omega))
  · rintro (rfl | hyear) item ⟨hnew, hreleased⟩
    · unfold CountsBack at hnew
      omega
    · obtain ⟨released, hmem, hsince⟩ := (Option.any_eq_true _ _).1 hreleased
      rw [decide_eq_true_eq] at hsince
      exact ⟨hyear, (Option.any_eq_true _ _).2 ⟨released, hmem, decide_eq_true (by omega)⟩⟩

/-- What is asked of a reading fails exactly if the reading does. -/
theorem is_ok_map {α β : Type} (f : α → β) (read : Except String α) :
    (read.map f).isOk = read.isOk := by
  cases read <;> rfl

/-- A filter fails if what it comes to is a reason and no decision. -/
theorem fails_of_holds {filter : Filter} {item : Item} {answer : Except String Bool}
    (h : filter.holds item = .ok answer) : filter.fails item = !answer.isOk := by
  unfold Filter.fails
  rw [h]
  cases answer <;> rfl

/-- A filter on the release year gives no reason: it decides or breaks down. -/
theorem fails_by_release (id displayName : String) (window : Int32 → Checked Bool) (item : Item) :
    (byRelease id displayName window).fails item = false := by
  unfold Filter.fails byRelease
  dsimp only
  cases item.releaseYear with
  | none => rfl
  | some released => cases hwindow : window released <;> simp [hwindow, Except.map]

/-- A filter fails on an item exactly if it asks for a band of an axis on which the item has a value
that cannot be one. -/
theorem fails_iff {filter : Filter} (hfilter : filter ∈ (catalog year).filters) (item : Item) :
    filter.fails item = true ↔
      filter.id ∈ playtimeBands ∧ hasInvalidPlaytime item = true ∨
        filter.id ∈ ratingBands ∧ hasInvalidRating item = true := by
  have hplaytime (id displayName : String) (band : Binary64 → Bool) :
      (byPlaytime id displayName band).fails item = hasInvalidPlaytime item := by
    rw [fails_of_holds rfl, is_ok_map, is_ok_playtime, Bool.not_not]
  have hrating (id displayName : String) (band : UInt8 → Bool) :
      (byRating id displayName band).fails item = hasInvalidRating item := by
    rw [fails_of_holds rfl, is_ok_map, is_ok_rating, Bool.not_not]
  have hunrated : Filter.fails ⟨"unrated", "ratings", "Unrated",
      fun item => .ok ((rating item).map Option.isNone)⟩ item = hasInvalidRating item := by
    rw [fails_of_holds rfl, is_ok_map, is_ok_rating, Bool.not_not]
  have hcompleted : Filter.fails ⟨"completed", "gameplay", "Completed",
      fun item => .ok (.ok item.completed)⟩ item = false := rfl
  have hinstalled (id displayName : String) (state : Bool) :
      (byInstallation id displayName state).fails item = false := rfl
  simp only [catalog, filters, List.mem_cons, List.not_mem_nil, or_false] at hfilter
  rcases hfilter with rfl | rfl | rfl | rfl | rfl | rfl | rfl | rfl | rfl | rfl | rfl | rfl | rfl |
    rfl | rfl <;>
    simp only [hplaytime, hrating, hunrated, hcompleted, hinstalled, fails_by_release] <;>
    simp [playtimeBands, ratingBands, byPlaytime, byRating, byRelease, byInstallation]

/-- A standard filter breaks down on an item exactly if it is a release window without a first year
and the item has a release year; otherwise it decides, unless it asks for the playtime or the score
and what the item has cannot be one. So all of them answer on every item exactly if there is a year
five years before the reference year, and the same decides whether they can be counted. Each window
takes in the items since its first year exactly if there is one. A new release is recent unless the
window of five years alone goes back too far; but no counts give more new releases than recent
items. -/
theorem release_windows :
    (∀ filter ∈ (catalog year).filters, ∀ item,
      (∀ breakdown, filter.holds item = .error breakdown ↔ breakdown = .differenceTooFar ∧
        item.releaseYear ≠ none ∧
          ∃ window ∈ releaseWindows, window.1 = filter.id ∧ ¬CountsBack year window.2) ∧
      (filter.fails item = true ↔
        filter.id ∈ playtimeBands ∧ hasInvalidPlaytime item = true ∨
          filter.id ∈ ratingBands ∧ hasInvalidRating item = true)) ∧
    ((∀ item, ∀ filter ∈ (catalog year).filters, filter.Answers item) ↔ CountsBack year 5) ∧
    (∀ items breakdown, (catalog year).count items = .error breakdown ↔
      breakdown = .differenceTooFar ∧ ¬CountsBack year 5 ∧
        ∃ item ∈ items, item.releaseYear ≠ none) ∧
    (∀ window ∈ releaseWindows,
      (catalog year).Decides window.1 (releasedSince (year.toInt - window.2.toInt)) ↔
        CountsBack year window.2) ∧
    ((catalog year).Implies "new-release" "recent" ↔
      year = Int32.minValue ∨ CountsBack year 5) ∧
    ∀ items counts, (catalog year).count items = .ok counts →
      counts.NoMore "new-release" "recent" := by
  obtain ⟨newName, hnew⟩ := find_window year ("new-release", 1) (by decide)
  obtain ⟨recentName, hrecent⟩ := find_window year ("recent", 5) (by decide)
  have hone : (1 : Int32).toInt = 1 := by decide
  have hfive : (5 : Int32).toInt = 5 := by decide
  have hbackOne : 0 ≤ (1 : Int32).toInt := by decide
  have hbackFive : 0 ≤ (5 : Int32).toInt := by decide
  have hnewHolds := holds_since_iff year "new-release" newName hbackOne
  have hrecentHolds := holds_since_iff year "recent" recentName hbackFive
  refine ⟨fun filter hfilter item => ⟨breaks_iff hfilter item, fails_iff year hfilter item⟩, ?_,
    fun items => count_breaks_iff year items, decides_window year, ?_, ?_⟩
  · simp only [answers_iff]
    constructor
    · intro hanswers
      exact (hanswers { (default : Item) with releaseYear := some year }).resolve_right nofun
    · exact fun hyear item => .inl hyear
  · rw [← new_release_imp_recent_iff]
    unfold Catalog.Implies
    simp [hnew, hrecent, hnewHolds, hrecentHolds, hone, hfive]
  · intro items counts hcounts
    refine ⟨_, _, Catalog.accepted_of_find hnew hcounts, Catalog.accepted_of_find hrecent hcounts,
      List.countP_mono_left fun item hitem hholds => ?_⟩
    -- A new release has a release year, so there are counts only if there is a first year.
    have hreleased := (hnewHolds item).1 (of_decide_eq_true hholds)
    have hyear : CountsBack year 5 := by
      refine ((count_returns year items).1 ⟨counts, hcounts⟩).resolve_right fun hnone => ?_
      rw [releasedSince, hnone item hitem] at hreleased
      cases hreleased.2
    exact decide_eq_true ((hrecentHolds item).2
      ((new_release_imp_recent_iff year).2 (.inr hyear) item hreleased))

/-- Five years before the second least year there is no year: an item of 2024 is a new release then,
and the other window breaks down. -/
example : ["new-release", "recent"].map (fun id =>
    ((catalog (-2147483647)).find? id).map
      (·.holds { (default : Item) with releaseYear := some 2024 })) =
    [some (.ok (.ok true)), some (.error .differenceTooFar)] := by decide

end Standard

end GameLibrary
