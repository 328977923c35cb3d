import GameLibrary.Filter.Standard
import GameLibrary.Proofs.Filter.Counting

/-!
# Counting back from the reference year

A release window begins some years before the reference year. The difference has to be a number of
thirty-two bits; where it is none, the filter breaks down on every item with a release year
(`Standard.since_eq`). No other standard filter breaks down (`Standard.breaks_iff`). The longest
window decides whether the standard filters can be counted: `Standard.count_breaks_iff`.
-/

namespace GameLibrary.Standard

/-- So many years before the year there still is a year in thirty-two bits. -/
def CountsBack (year back : Int32) : Prop := Int32.minValue.toInt ≤ year.toInt - back.toInt

instance (year back : Int32) : Decidable (CountsBack year back) :=
  inferInstanceAs (Decidable (_ ≤ _))

/-- The release windows, with the number of years that each goes back. -/
def releaseWindows : List (String × Int32) := [("new-release", 1), ("recent", 5)]

/-- Whether the item is known to be released in the year or later. -/
def releasedSince (first : Int) (item : Item) : Bool := item.releaseYear.any (first ≤ ·.toInt)

variable {year back : Int32} {item : Item}

/-- What lies further back than a year that there is none of is no year either. -/
theorem CountsBack.mono {less : Int32} (h : CountsBack year back)
    (hle : less.toInt ≤ back.toInt) : CountsBack year less := by
  unfold CountsBack at *
  omega

/-- The difference in thirty-two bits is the year meant exactly if there is such a year. -/
theorem to_int_sub_iff (hback : 0 ≤ back.toInt) :
    (year - back).toInt = year.toInt - back.toInt ↔ CountsBack year back := by
  have hleast := year.le_toInt
  have hgreatest := year.toInt_lt
  have hback' := back.toInt_lt
  unfold CountsBack
  rw [Int32.toInt_sub, Int.bmod_def, Int32.toInt_minValue]
  split <;> omega

/-- A window takes in the years since its first one, or breaks down if there is no such year. -/
theorem since_eq (hback : 0 ≤ back.toInt) (released : Int32) : since year back released =
    if CountsBack year back then .ok (decide (year.toInt - back.toInt ≤ released.toInt))
    else .error .differenceTooFar := by
  unfold since Checked.difference
  by_cases hyear : CountsBack year back
  · have hfirst := (to_int_sub_iff hback).2 hyear
    rw [if_pos hfirst, if_pos hyear, ← hfirst]
    simp only [Except.map, Int32.le_iff_toInt_le]
  · rw [if_neg (mt (to_int_sub_iff hback).1 hyear), if_neg hyear]
    rfl

variable (year)

/-- A filter on a release window decides on the items without a release year, and on all others if
there is a first year. -/
theorem holds_since (id displayName : String) (hback : 0 ≤ back.toInt) (item : Item) :
    (byRelease id displayName (since year back)).holds item =
      if CountsBack year back ∨ item.releaseYear = none then
        .ok (.ok (releasedSince (year.toInt - back.toInt) item))
      else .error .differenceTooFar := by
  unfold byRelease releasedSince
  dsimp only
  cases item.releaseYear with
  | none => simp
  | some released =>
      dsimp only
      rw [since_eq hback, Option.any_some]
      split <;> simp [Except.map, *]

/-- A release window breaks down if it has no first year and the item has a release year. -/
theorem since_breaks_iff (id displayName : String) (hback : 0 ≤ back.toInt) (item : Item)
    (breakdown : Breakdown) :
    (byRelease id displayName (since year back)).holds item = .error breakdown ↔
      breakdown = .differenceTooFar ∧ item.releaseYear ≠ none ∧ ¬CountsBack year back := by
  rw [holds_since year id displayName hback]
  by_cases hyear : CountsBack year back <;> cases item.releaseYear <;> simp [hyear, eq_comm]

variable {year} in
/-- A standard filter breaks down on an item exactly if it is a release window without a first year
and the item has a release year. -/
theorem breaks_iff {filter : Filter} (hfilter : filter ∈ (catalog year).filters) (item : Item)
    (breakdown : Breakdown) : filter.holds item = .error breakdown ↔
      breakdown = .differenceTooFar ∧ item.releaseYear ≠ none ∧
        ∃ window ∈ releaseWindows, window.1 = filter.id ∧ ¬CountsBack year window.2 := by
  have hone : 0 ≤ (1 : Int32).toInt := by decide
  have hfive : 0 ≤ (5 : Int32).toInt := by decide
  have hnew := since_breaks_iff year "new-release" "New release" hone item breakdown
  have hrecent := since_breaks_iff year "recent" "Last five years" hfive item breakdown
  have hclassic : ((byRelease "classic" "Classic" fun released =>
      .ok (released < classicBefore)).holds item = .error breakdown) ↔ False := by
    unfold byRelease
    dsimp only
    cases item.releaseYear <;> simp [Except.map]
  simp only [catalog, filters, List.mem_cons, List.not_mem_nil, or_false] at hfilter
  rcases hfilter with rfl | rfl | rfl | rfl | rfl | rfl | rfl | rfl | rfl | rfl | rfl | rfl | rfl |
    rfl | rfl <;>
    simp only [hnew, hrecent, hclassic, byPlaytime, byRating, byInstallation] <;>
    simp [releaseWindows, byRelease]

/-- The standard filters answer on an item exactly if it has no release year or there is a year five
years before the reference year. -/
theorem answers_iff (item : Item) : (∀ filter ∈ (catalog year).filters, filter.Answers item) ↔
    CountsBack year 5 ∨ item.releaseYear = none := by
  constructor
  · intro hanswers
    by_contra hbreaks
    rw [not_or] at hbreaks
    obtain ⟨recent, hrecent, hid⟩ : ∃ recent ∈ (catalog year).filters, recent.id = "recent" :=
      ⟨byRelease "recent" "Last five years" (since year 5), by simp [catalog, filters], rfl⟩
    obtain ⟨answer, hanswer⟩ := hanswers recent hrecent
    have herror := (breaks_iff hrecent item .differenceTooFar).2
      ⟨rfl, hbreaks.2, ("recent", 5), by decide, hid.symm, hbreaks.1⟩
    rw [hanswer] at herror
    cases herror
  · intro hyear filter hfilter
    cases hholds : filter.holds item with
    | ok answer => exact ⟨answer, hholds⟩
    | error breakdown =>
        obtain ⟨-, hreleased, window, hwindow, -, hnone⟩ :=
          (breaks_iff hfilter item breakdown).1 hholds
        have hlongest : ∀ window ∈ releaseWindows, window.2.toInt ≤ (5 : Int32).toInt := by decide
        exact (hyear.elim (fun h => hnone (h.mono (hlongest window hwindow))) hreleased).elim

variable (items : List Item)

/-- The standard filters can be counted exactly if there is a year five years before the reference
year, or none of the items has a release year. -/
theorem count_returns : (∃ counts, (catalog year).count items = .ok counts) ↔
    CountsBack year 5 ∨ ∀ item ∈ items, item.releaseYear = none := by
  rw [Catalog.count_returns, ← forall_or_left]
  simp only [answers_iff, ← forall_or_left]

/-- What else counting the standard filters comes to. -/
theorem count_breaks_iff (breakdown : Breakdown) :
    (catalog year).count items = .error breakdown ↔ breakdown = .differenceTooFar ∧
      ¬CountsBack year 5 ∧ ∃ item ∈ items, item.releaseYear ≠ none := by
  have hreturns := count_returns year items
  constructor
  · intro hbreaks
    obtain ⟨item, -, filter, hfilter, hholds⟩ := Catalog.breaks_of_count hbreaks
    refine ⟨((breaks_iff hfilter item breakdown).1 hholds).1, ?_⟩
    by_contra hnot
    obtain ⟨counts, hcounts⟩ := hreturns.2 (by push Not at hnot; exact or_iff_not_imp_left.2 hnot)
    rw [hbreaks] at hcounts
    cases hcounts
  · rintro ⟨rfl, hyear, item, hitem, hreleased⟩
    cases hcount : (catalog year).count items with
    | ok counts => exact ((hreturns.1 ⟨counts, hcount⟩).elim hyear fun h =>
        hreleased (h item hitem)).elim
    | error breakdown =>
        obtain ⟨item, -, filter, hfilter, hholds⟩ := Catalog.breaks_of_count hcount
        rw [((breaks_iff hfilter item breakdown).1 hholds).1]

end GameLibrary.Standard
