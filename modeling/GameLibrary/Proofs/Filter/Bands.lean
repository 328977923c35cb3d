import GameLibrary.Proofs.Filter.Years
import Mathlib.Algebra.GroupWithZero.Nat

/-!
# The bands of the standard filters

The filters of one axis divide the items among them: of every item they all fail, or exactly one of
them holds. What is true of each item carries over to the counts, so the items of the bands and
those on which the axis fails make up the whole (`Catalog.Divides.make_up`). The standard filters
have three such axes, the playtime, the critic score and the state of installation. All filters are
counted together, so there are counts only where the release windows do not break down:
`Standard.bands_partition`.
-/

namespace GameLibrary

/-- The counts of the filters with the ids `ids`, and the `failed` items on which each of them
fails, make up all items. -/
structure FilterCounts.MakeUp (counts : FilterCounts) (ids : List String) (failed : Nat) :
    Prop where
  failures_eq : ∀ id ∈ ids, counts.failures id = failed
  sum_eq : ∃ accepted : List Nat, ids.map counts.accepted? = accepted.map some ∧
    accepted.sum + failed = counts.total

namespace Catalog

/-- The filters with the ids `ids` divide the items among them, except for those of which `fails` is
true. -/
structure Divides (catalog : Catalog) (ids : List String) (fails : Item → Bool) : Prop where
  /-- All of the ids are known, and they come in the order of registration. -/
  ids_eq : (catalog.selected ids).map Filter.id = ids
  failing : ∀ {item}, fails item = true → ∀ filter ∈ catalog.selected ids,
    ∃ reason, filter.holds item = .ok (.error reason)
  deciding : ∀ {item}, fails item = false → ∀ filter ∈ catalog.selected ids,
    ∃ decision, filter.holds item = .ok (.ok decision)
  /-- Where they decide, exactly one of them holds. -/
  one : ∀ {item}, fails item = false →
    (catalog.selected ids).countP (·.holds item = .ok (.ok true)) = 1

namespace Divides

variable {catalog : Catalog} {ids : List String} {fails : Item → Bool}

/-- Filters that divide the items fail alike. -/
theorem failed_tally (h : catalog.Divides ids fails) {filter : Filter}
    (hfilter : filter ∈ catalog.selected ids) (items : List Item) :
    (filter.tally items).failed = items.countP fails := by
  refine List.countP_congr fun item _ => ?_
  unfold Filter.fails
  cases hfails : fails item with
  | true =>
      obtain ⟨reason, hholds⟩ := h.failing hfails filter hfilter
      simp [hholds]
  | false =>
      obtain ⟨decision, hholds⟩ := h.deciding hfails filter hfilter
      simp [hholds]

/-- An item adds to one band, or to none if it fails. -/
theorem count_add (h : catalog.Divides ids fails) (item : Item) :
    (catalog.selected ids).countP (·.holds item = .ok (.ok true)) +
      (if fails item then 1 else 0) = 1 := by
  cases hfails : fails item with
  | true =>
      have hnone : (catalog.selected ids).countP (·.holds item = .ok (.ok true)) = 0 := by
        refine List.countP_eq_zero.2 fun filter hfilter hholds => ?_
        obtain ⟨reason, hfailing⟩ := h.failing hfails filter hfilter
        rw [of_decide_eq_true hholds] at hfailing
        cases hfailing
      rw [hnone]
      rfl
  | false => rw [h.one hfails]; rfl

/-- One more item is counted by the filters that hold of it. -/
theorem sum_tally_cons (filters : List Filter) (item : Item) (rest : List Item) :
    (filters.map fun filter => (filter.tally (item :: rest)).accepted).sum =
      (filters.map fun filter => (filter.tally rest).accepted).sum +
        filters.countP (·.holds item = .ok (.ok true)) := by
  induction filters with
  | nil => rfl
  | cons filter others ih =>
      have hone : (filter.tally (item :: rest)).accepted = (filter.tally rest).accepted +
          if decide (filter.holds item = .ok (.ok true)) = true then 1 else 0 := by
        dsimp only [Filter.tally]
        rw [List.countP_cons]
      rw [List.map_cons, List.sum_cons, ih, hone, List.map_cons, List.sum_cons, List.countP_cons]
      omega

/-- The items of the bands and those that fail are all items. -/
theorem sum_tally (h : catalog.Divides ids fails) (items : List Item) :
    ((catalog.selected ids).map fun filter => (filter.tally items).accepted).sum +
      items.countP fails = items.length := by
  induction items with
  | nil => simp [Filter.tally]
  | cons item rest ih =>
      have hitem := h.count_add item
      rw [sum_tally_cons, List.countP_cons, List.length_cons]
      omega

/-- Filters that divide the items make up the whole in the counts. -/
theorem make_up (h : catalog.Divides ids fails) {items : List Item} {counts : FilterCounts}
    (hcounts : catalog.count items = .ok counts) : counts.MakeUp ids (items.countP fails) := by
  constructor
  case failures_eq =>
    intro id hid
    rw [← h.ids_eq] at hid
    obtain ⟨filter, hfilter, rfl⟩ := List.mem_map.1 hid
    rw [failures_count hcounts (mem_selected.1 hfilter).1, h.failed_tally hfilter]
  case sum_eq =>
    refine ⟨(catalog.selected ids).map fun filter => (filter.tally items).accepted, ?_, ?_⟩
    · have haccepted : ((catalog.selected ids).map Filter.id).map counts.accepted? =
          ((catalog.selected ids).map fun filter => (filter.tally items).accepted).map some := by
        rw [List.map_map, List.map_map]
        exact List.map_congr_left fun filter hfilter =>
          accepted_count hcounts (mem_selected.1 hfilter).1
      rwa [h.ids_eq] at haccepted
    · rw [total_count hcounts]
      exact h.sum_tally items

/-- Filters that ask for bands of one reading of the item divide the items that can be read, if each
value lies in exactly one band. -/
theorem of_reading {α : Type} (read : Item → Except String α) (bands : List (α → Bool))
    (hids : (catalog.selected ids).map Filter.id = ids)
    (hasks : ∀ item, (catalog.selected ids).map (·.holds item) =
      bands.map fun band => .ok ((read item).map band))
    (hfails : ∀ item, (read item).isOk = !fails item)
    (hone : ∀ {item value}, read item = .ok value → (bands.map (· value)).count true = 1) :
    catalog.Divides ids fails := by
  have hholds : ∀ item, ∀ filter ∈ catalog.selected ids,
      ∃ band, filter.holds item = .ok ((read item).map band) := by
    intro item filter hfilter
    have hmem : filter.holds item ∈ bands.map fun band => .ok ((read item).map band) :=
      hasks item ▸ List.mem_map_of_mem hfilter
    obtain ⟨band, -, hband⟩ := List.mem_map.1 hmem
    exact ⟨band, hband.symm⟩
  have hread : ∀ item, fails item = false → ∃ value, read item = .ok value := by
    intro item hdeciding
    have hok := hfails item
    rw [hdeciding] at hok
    cases hread : read item with
    | ok value => exact ⟨value, rfl⟩
    | error reason =>
        rw [hread] at hok
        cases hok
  constructor
  case ids_eq => exact hids
  case failing =>
    intro item hfailing filter hfilter
    obtain ⟨band, hband⟩ := hholds item filter hfilter
    have hok := hfails item
    rw [hfailing] at hok
    cases hread : read item with
    | ok value =>
        rw [hread] at hok
        cases hok
    | error reason => exact ⟨reason, by rw [hband, hread]; rfl⟩
  case deciding =>
    intro item hdeciding filter hfilter
    obtain ⟨band, hband⟩ := hholds item filter hfilter
    obtain ⟨value, hvalue⟩ := hread item hdeciding
    exact ⟨band value, by rw [hband, hvalue]; rfl⟩
  case one =>
    intro item hdeciding
    obtain ⟨value, hvalue⟩ := hread item hdeciding
    -- Counting the filters that hold is counting the bands that the value lies in.
    have hcount : ((catalog.selected ids).map (·.holds item)).countP (· = .ok (.ok true)) =
        (bands.map (· value)).count true := by
      rw [hasks item, hvalue, List.countP_map, List.count_eq_countP, List.countP_map]
      refine List.countP_congr fun band _ => ?_
      simp [Except.map]
    rw [← hone hvalue, ← hcount, List.countP_map]
    rfl

end Divides

end Catalog

namespace Standard

open Number (Binary64)

/-- The bands of playtime, from none to much. -/
def playtimeBands : List String := ["unplayed", "started", "well-played", "heavily-played"]

/-- The bands of the critic score, from the best down, and the items without a score. -/
def ratingBands : List String :=
  ["highly-rated", "well-rated", "mixed-reviews", "poorly-rated", "unrated"]

/-- The two states of installation. -/
def installationStates : List String := ["installed", "not-installed"]

/-- Whether a playtime is recorded that cannot be one. -/
def hasInvalidPlaytime (item : Item) : Bool :=
  item.playtime.any fun hours => !(hours.isFinite && Binary64.zero.le hours)

/-- Whether a critic score is recorded that cannot be one. -/
def hasInvalidRating (item : Item) : Bool := item.rating.any (100 < ·)

section Playtime

variable {item : Item} {hours : Binary64}

/-- The playtime is read unless what is recorded cannot be one. -/
theorem is_ok_playtime (item : Item) : (playtime item).isOk = !hasInvalidPlaytime item := by
  unfold playtime hasInvalidPlaytime
  cases item.playtime with
  | none => rfl
  | some hours =>
      rw [Option.any_some, Bool.not_not]
      dsimp only
      split
      · rename_i hvalid
        exact hvalid.symm
      · rename_i hinvalid
        exact (Bool.not_eq_true _ ▸ hinvalid).symm

/-- What is read is a number, and not a negative one. -/
theorem number_of_playtime (h : playtime item = .ok hours) :
    hours.isNaN = false ∧ 0 ≤ hours.realKey := by
  unfold playtime at h
  split at h
  · cases h
    decide
  · split at h
    · rename_i hvalid
      cases h
      simp only [Bool.and_eq_true, Binary64.le, Bool.not_eq_true', decide_eq_true_eq] at hvalid
      exact ⟨hvalid.2.1.2, hvalid.2.2⟩
    · cases h

/-- Every number that is not negative lies in one band of playtime. -/
theorem playtime_in_one_band (hnumber : hours.isNaN = false) (hnonneg : 0 ≤ hours.realKey) :
    [hours.numEq .zero, Binary64.zero.lt hours && hours.lt wellPlayedFrom,
      wellPlayedFrom.le hours && hours.lt heavilyPlayedFrom, heavilyPlayedFrom.le hours].count
        true = 1 := by
  have hzero : Binary64.zero.isNaN = false ∧ Binary64.zero.realKey = 0 := by decide
  have hten : wellPlayedFrom.isNaN = false ∧ wellPlayedFrom.realKey = 0x4024000000000000 := by
    decide +kernel
  have hfifty :
      heavilyPlayedFrom.isNaN = false ∧ heavilyPlayedFrom.realKey = 0x4049000000000000 := by
    decide +kernel
  unfold Binary64.numEq Binary64.lt Binary64.le
  rw [hnumber, hzero.1, hzero.2, hten.1, hten.2, hfifty.1, hfifty.2]
  simp only [Bool.not_false, Bool.true_and]
  generalize hours.realKey = key at hnonneg
  rcases hnonneg.eq_or_lt with rfl | hpos
  · decide
  · by_cases hbelowTen : key < 0x4024000000000000
    · simp [show key ≠ 0 by omega, hpos, hbelowTen, show ¬ 0x4024000000000000 ≤ key by omega,
        show ¬ 0x4049000000000000 ≤ key by omega]
    · by_cases hbelowFifty : key < 0x4049000000000000
      · simp [show key ≠ 0 by omega, hbelowTen, hbelowFifty, show 0x4024000000000000 ≤ key by omega]
      · simp [show key ≠ 0 by omega, hbelowTen, hbelowFifty,
          show 0x4049000000000000 ≤ key by omega]

/-- The bands of playtime divide the items whose playtime can be read. -/
theorem playtime_divides (year : Int32) :
    (catalog year).Divides playtimeBands hasInvalidPlaytime := by
  refine Catalog.Divides.of_reading playtime [(·.numEq .zero),
    fun hours => Binary64.zero.lt hours && hours.lt wellPlayedFrom,
    fun hours => wellPlayedFrom.le hours && hours.lt heavilyPlayedFrom, heavilyPlayedFrom.le]
    rfl (fun _ => rfl) is_ok_playtime ?_
  intro item hours hread
  obtain ⟨hnumber, hnonneg⟩ := number_of_playtime hread
  exact playtime_in_one_band hnumber hnonneg

end Playtime

section Rating

/-- The score is read unless what is recorded cannot be one. -/
theorem is_ok_rating (item : Item) : (rating item).isOk = !hasInvalidRating item := by
  unfold rating hasInvalidRating
  cases item.rating with
  | none => rfl
  | some score =>
      rw [Option.any_some]
      dsimp only
      split <;> rename_i hscore <;> simp [hscore, Except.isOk, Except.toBool]

/-- Every score lies in one band, and no score in the last one. -/
theorem rating_in_one_band (score : Option UInt8) :
    [score.any (highlyRatedFrom ≤ ·),
      score.any fun score => wellRatedFrom ≤ score && score < highlyRatedFrom,
      score.any fun score => mixedFrom ≤ score && score < wellRatedFrom,
      score.any (· < mixedFrom), score.isNone].count true = 1 := by
  cases score with
  | none => rfl
  | some score =>
      simp only [Option.any_some, Option.isNone_some, highlyRatedFrom, wellRatedFrom, mixedFrom,
        UInt8.le_iff_toNat_le, UInt8.lt_iff_toNat_lt, UInt8.reduceToNat]
      generalize score.toNat = points
      by_cases hmixed : points < 50
      · simp [hmixed, show ¬ 85 ≤ points by omega, show ¬ 70 ≤ points by omega,
          show ¬ 50 ≤ points by omega]
      · by_cases hwell : points < 70
        · simp [hmixed, hwell, show ¬ 85 ≤ points by omega, show ¬ 70 ≤ points by omega,
            show 50 ≤ points by omega]
        · by_cases hhighly : points < 85
          · simp [hmixed, hwell, hhighly, show ¬ 85 ≤ points by omega,
              show 70 ≤ points by omega]
          · simp [hmixed, hwell, hhighly, show 85 ≤ points by omega]

/-- The bands of the critic score divide the items whose score can be read. -/
theorem rating_divides (year : Int32) : (catalog year).Divides ratingBands hasInvalidRating :=
  .of_reading rating [(·.any (highlyRatedFrom ≤ ·)),
    (·.any fun score => wellRatedFrom ≤ score && score < highlyRatedFrom),
    (·.any fun score => mixedFrom ≤ score && score < wellRatedFrom),
    (·.any (· < mixedFrom)), Option.isNone]
    rfl (fun _ => rfl) is_ok_rating fun {_ score} _ => rating_in_one_band score

end Rating

/-- Every item is installed or not. -/
theorem installation_divides (year : Int32) :
    (catalog year).Divides installationStates fun _ => false := by
  refine .of_reading (fun item => .ok item.installed) [(· == true), (· == false)] rfl
    (fun _ => rfl) (fun _ => rfl) ?_
  intro item installed _
  cases installed <;> rfl

/-- On each axis the standard filters divide the items, whatever the reference year. There are
counts exactly if no release window breaks down, for which there has to be a year five years before
the reference year unless the items have no release years; and in the counts every axis makes up the
whole. -/
theorem bands_partition (year : Int32) (items : List Item) :
    ((catalog year).Divides playtimeBands hasInvalidPlaytime ∧
      (catalog year).Divides ratingBands hasInvalidRating ∧
      (catalog year).Divides installationStates fun _ => false) ∧
    ((∃ counts, (catalog year).count items = .ok counts) ↔
      CountsBack year 5 ∨ ∀ item ∈ items, item.releaseYear = none) ∧
    ∀ counts, (catalog year).count items = .ok counts →
      counts.MakeUp playtimeBands (items.countP hasInvalidPlaytime) ∧
      counts.MakeUp ratingBands (items.countP hasInvalidRating) ∧
      counts.MakeUp installationStates 0 := by
  have hplaytime := playtime_divides year
  have hrating := rating_divides year
  have hinstallation := installation_divides year
  refine ⟨⟨hplaytime, hrating, hinstallation⟩, count_returns year items, fun counts hcounts => ?_⟩
  have hstates := hinstallation.make_up hcounts
  rw [List.countP_false] at hstates
  exact ⟨hplaytime.make_up hcounts, hrating.make_up hcounts, hstates⟩

end Standard

end GameLibrary
