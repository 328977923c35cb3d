import GameLibrary.Filter.Catalog
import GameLibrary.Number.Shortest

/-!
# The standard filters

The filters offered for every library: bands of playtime, bands of critic score, release windows
counted back from a reference year, and the state of installation. A playtime that is negative or no
number, and a score above a hundred, are failures of every filter that needs them.
-/

namespace GameLibrary.Standard

open Number (Binary64 DecimalFormat)

/-- The hours from which a started item counts as well played. -/
def wellPlayedFrom : Binary64 := .ofNat 10

/-- The hours from which an item counts as heavily played. -/
def heavilyPlayedFrom : Binary64 := .ofNat 50

/-- The least score of a highly rated item. -/
def highlyRatedFrom : UInt8 := 85

/-- The least score of a well rated item. -/
def wellRatedFrom : UInt8 := 70

/-- The least score of an item with mixed reviews. -/
def mixedFrom : UInt8 := 50

/-- The first year that is not classic. -/
def classicBefore : Int32 := 2005

/-- How hours are written in a reason: in positional notation, whole ones without a point. -/
def hoursFormat : DecimalFormat where
  tie := .up
  positional := none
  wholeMark := ""

/-- The text of a number of hours, which need not be a number. -/
def hoursText (hours : Binary64) : String :=
  if hours.isNaN then "NaN"
  else if hours.isInfinite then if hours.negative then "-inf" else "inf"
  else hoursFormat.render hours

/-- The playtime, zero if none is recorded. -/
def playtime (item : Item) : Except String Binary64 :=
  match item.playtime with
  | none => .ok .zero
  | some hours =>
      if hours.isFinite && Binary64.zero.le hours then .ok hours
      else .error ("invalid playtime " ++ hoursText hours)

/-- The critic score, if there is one. -/
def rating (item : Item) : Except String (Option UInt8) :=
  match item.rating with
  | some score =>
      if 100 < score then .error ("rating " ++ toString score.toNat ++ " out of range")
      else .ok (some score)
  | none => .ok none

/-- A filter on the playtime. -/
def byPlaytime (id displayName : String) (band : Binary64 → Bool) : Filter where
  id := id
  category := "gameplay"
  displayName := displayName
  holds item := .ok ((playtime item).map band)

/-- A filter on the critic score; an item without one is in no band. -/
def byRating (id displayName : String) (band : UInt8 → Bool) : Filter where
  id := id
  category := "ratings"
  displayName := displayName
  holds item := .ok ((rating item).map (·.any band))

/-- A filter on the release year; an item without one is in no window. -/
def byRelease (id displayName : String) (window : Int32 → Checked Bool) : Filter where
  id := id
  category := "release"
  displayName := displayName
  holds item :=
    match item.releaseYear with
    | some released => (window released).map .ok
    | none => .ok (.ok false)

/-- The window that begins some years before the reference year. Its first year is counted back for
every year that is compared with it, and the filter breaks down where there is no such year. -/
def since (year back : Int32) (released : Int32) : Checked Bool :=
  (Checked.difference year back).map fun first => first ≤ released

/-- A filter on the state of installation. -/
def byInstallation (id displayName : String) (state : Bool) : Filter where
  id := id
  category := "installation"
  displayName := displayName
  holds item := .ok (.ok (item.installed == state))

/-- The standard filters in order of registration. -/
def filters (year : Int32) : List Filter := [
  byPlaytime "unplayed" "Unplayed" (·.numEq .zero),
  byPlaytime "started" "Started" fun hours =>
    Binary64.zero.lt hours && hours.lt wellPlayedFrom,
  byPlaytime "well-played" "Well played" fun hours =>
    wellPlayedFrom.le hours && hours.lt heavilyPlayedFrom,
  byPlaytime "heavily-played" "Heavily played" heavilyPlayedFrom.le,
  ⟨"completed", "gameplay", "Completed", fun item => .ok (.ok item.completed)⟩,
  byRating "highly-rated" "Highly rated" (highlyRatedFrom ≤ ·),
  byRating "well-rated" "Well rated" fun score => wellRatedFrom ≤ score && score < highlyRatedFrom,
  byRating "mixed-reviews" "Mixed reviews" fun score => mixedFrom ≤ score && score < wellRatedFrom,
  byRating "poorly-rated" "Poorly rated" (· < mixedFrom),
  ⟨"unrated", "ratings", "Unrated", fun item => .ok ((rating item).map Option.isNone)⟩,
  byRelease "new-release" "New release" (since year 1),
  byRelease "recent" "Last five years" (since year 5),
  byRelease "classic" "Classic" fun released => .ok (released < classicBefore),
  byInstallation "installed" "Installed" true,
  byInstallation "not-installed" "Not installed" false]

/-- The catalog of the standard filters. -/
def catalog (year : Int32) : Catalog where
  filters := filters year
  distinct := by
    simp only [filters, byPlaytime, byRating, byRelease, byInstallation, List.map_cons,
      List.map_nil]
    decide

end GameLibrary.Standard
