import GameLibrary.Proofs.Query.Titles

/-!
# The letter case of a query

Titles are searched in small letters of all scripts, but storefronts and genres are compared in the
case of the letters from `A` to `Z` only. So a search may as well be written in small letters, and a
query altogether exactly if its storefront and its genre have no other capitals:
`BaseQuery.keeps_lowered_iff`.
-/

namespace GameLibrary

namespace Text

/-- Whether a text has no capitals but the letters from `A` to `Z`. -/
def AsciiCapitals (text : String) : Prop := ∀ c ∈ text.toList, c.toNat < 0x80 ∨ IsSmall c

/-- The blanks around a text are no capitals. -/
theorem ascii_capitals_trim {text : String} : AsciiCapitals (trim text) ↔ AsciiCapitals text := by
  obtain ⟨before, after, hbefore, hafter, htext⟩ := exists_trim text
  unfold AsciiCapitals
  rw [htext]
  constructor
  · intro h c hc
    rcases List.mem_append.1 hc with hc | hc
    · rcases List.mem_append.1 hc with hc | hc
      · exact .inr (is_small_of_blank (hbefore c hc))
      · exact h c hc
    · exact .inr (is_small_of_blank (hafter c hc))
  · exact fun h c hc => h c (List.mem_append_left _ (List.mem_append_right _ hc))

/-- A text without other capitals is compared as its small letters are. -/
theorem same_lowercase_of_ascii {text : String} (h : AsciiCapitals text) (other : String) :
    sameIgnoringAsciiCase other (lowercase text) = sameIgnoringAsciiCase other text := by
  unfold sameIgnoringAsciiCase
  rw [to_list_lowercase, map_to_lower_lowercase_from, lowercase_eq_ascii_iff.2 h]

/-- A text is the same as its small letters exactly if it has no other capitals. -/
theorem same_lowercase_iff {text : String} :
    sameIgnoringAsciiCase text (lowercase text) = true ↔ AsciiCapitals text := by
  unfold sameIgnoringAsciiCase
  rw [decide_eq_true_iff, to_list_lowercase, map_to_lower_lowercase_from, eq_comm,
    lowercase_eq_ascii_iff]
  rfl

theorem same_self (text : String) : sameIgnoringAsciiCase text text = true := decide_eq_true rfl

/-- Putting a text in small letters leaves a text. -/
theorem is_empty_lowercase (text : String) : (lowercase text).isEmpty = text.isEmpty := by
  have hiff : (lowercase text).toList = [] ↔ text.toList = [] := by
    rw [to_list_lowercase]
    constructor
    · intro h
      have hle := length_le_lowercase_from [] text.toList
      rw [h] at hle
      exact List.length_eq_zero_iff.1 (Nat.le_zero.1 hle)
    · intro h
      rw [h]
      rfl
  rw [Bool.eq_iff_iff, String.isEmpty_iff, String.isEmpty_iff, ← String.toList_eq_nil_iff,
    ← String.toList_eq_nil_iff]
  exact hiff

end Text

namespace BaseQuery

/-- The query with its texts in small letters. -/
def lowered (query : BaseQuery) : BaseQuery where
  store := query.store.map Text.lowercase
  genre := query.genre.map Text.lowercase
  search := query.search.map Text.lowercase

variable (query : BaseQuery)

/-- The text of an axis in small letters. -/
theorem axis_lowercase (text : Option String) :
    axis (text.map Text.lowercase) = (axis text).map Text.lowercase := by
  cases text with
  | none => rfl
  | some text =>
      rw [Option.map_some, axis_some, axis_some, Text.trim_lowercase, Text.is_empty_lowercase]
      split <;> rfl

/-- A title holds a text if it holds its small letters. -/
theorem title_holds_lowercase (item : Item) (text : String) :
    titleHolds item (Text.lowercase text) = titleHolds item text := by
  unfold titleHolds
  rw [Text.lowercase_lowercase]

/-- A property of the small letters of what is left of a text. -/
theorem all_axis_lowercase (text : Option String) (holds : String → Bool) :
    (axis (text.map Text.lowercase)).all holds =
      (axis text).all fun text => holds (Text.lowercase text) := by
  rw [axis_lowercase, Option.all_map]

/-- An axis may as well be written in small letters if its property does not tell what is left of
the text from its small letters. -/
theorem all_axis_lowercase_of_same {text : Option String} {holds : String → Bool}
    (h : ∀ t, axis text = some t → holds (Text.lowercase t) = holds t) :
    (axis (text.map Text.lowercase)).all holds = (axis text).all holds := by
  rw [all_axis_lowercase]
  cases haxis : axis text with
  | none => rw [Option.all_none, Option.all_none]
  | some t => rw [Option.all_some, Option.all_some, h t haxis]

/-- A search may as well be written in small letters. -/
theorem search_lowercase (item : Item) (text : Option String) :
    (axis (text.map Text.lowercase)).all (titleHolds item) = (axis text).all (titleHolds item) :=
  all_axis_lowercase_of_same fun text _ => title_holds_lowercase item text

/-- It is all one whether the capitals of a text are looked for before or after trimming. -/
theorem ascii_capitals_axis {text : Option String} :
    (∀ t, axis text = some t → Text.AsciiCapitals t) ↔
      ∀ t, text = some t → Text.AsciiCapitals t := by
  cases text with
  | none => exact iff_of_true (fun t ht => nomatch ht) (fun t ht => nomatch ht)
  | some text =>
      have htrim : (∀ t, axis (some text) = some t → Text.AsciiCapitals t) ↔
          Text.AsciiCapitals (Text.trim text) := by
        rw [axis_some]
        split
        · rename_i hempty
          -- A blank text has no capitals at all.
          rw [String.isEmpty_iff.1 hempty]
          exact iff_of_true (fun t ht => nomatch ht) fun c hc => nomatch hc
        · simp
      rw [htrim, Text.ascii_capitals_trim]
      simp

/-- An item that has just the texts that a query asks for. -/
def likely : Item :=
  { (default : Item) with
    store := (axis query.store).getD ""
    genres := [(axis query.genre).getD ""]
    title := (axis query.search).getD "" }

variable {query}

theorem store_likely {store : String} (h : axis query.store = some store) :
    query.likely.store = store := by
  unfold likely
  rw [h, Option.getD_some]

theorem has_genre_likely {genre : String} (h : axis query.genre = some genre) (text : String) :
    query.likely.hasGenre text = Text.sameIgnoringAsciiCase genre text := by
  unfold likely Item.hasGenre
  rw [h, Option.getD_some, List.any_cons, List.any_nil, Bool.or_false]

theorem title_likely {search : String} (h : axis query.search = some search) :
    query.likely.title = search := by
  unfold likely
  rw [h, Option.getD_some]

variable (query)

/-- The likely item is kept. -/
theorem keeps_likely : query.keeps query.likely = true := by
  unfold keeps
  simp only [Bool.and_eq_true, Option.all_eq_true]
  refine ⟨⟨fun store haxis => ?_, fun genre haxis => ?_⟩, fun search haxis => ?_⟩
  · rw [store_likely haxis]
    exact Text.same_self store
  · rw [has_genre_likely haxis]
    exact Text.same_self genre
  · simp only [title_holds_iff, title_likely haxis, List.infix_rfl]

/-- Small letters are found among the genres as the text without other capitals is. -/
theorem has_genre_lowercase_of_ascii {text : String} (h : Text.AsciiCapitals text) (item : Item) :
    item.hasGenre (Text.lowercase text) = item.hasGenre text := by
  unfold Item.hasGenre
  exact congrArg item.genres.any (funext fun genre => Text.same_lowercase_of_ascii h genre)

/-- Putting the search in small letters changes nothing, and putting all texts in small letters
changes nothing exactly if neither the storefront nor the genre has capitals other than the letters
from `A` to `Z`. -/
theorem keeps_lowered_iff (query : BaseQuery) :
    (∀ item, { query with search := query.search.map Text.lowercase }.keeps item =
      query.keeps item) ∧
    ((∀ item, query.lowered.keeps item = query.keeps item) ↔
      (∀ store, query.store = some store → Text.AsciiCapitals store) ∧
        ∀ genre, query.genre = some genre → Text.AsciiCapitals genre) := by
  rw [← @ascii_capitals_axis query.store, ← @ascii_capitals_axis query.genre]
  refine ⟨fun item => ?_, fun hsame => ?_, fun ⟨hstore, hgenre⟩ item => ?_⟩
  · simp only [keeps, search_lowercase]
  · -- The likely item is still kept, so its texts are the same as their small letters.
    have hlikely : query.lowered.keeps query.likely = true :=
      (hsame query.likely).trans query.keeps_likely
    unfold keeps lowered at hlikely
    simp only [all_axis_lowercase, Bool.and_eq_true, Option.all_eq_true] at hlikely
    obtain ⟨⟨hstore, hgenre⟩, -⟩ := hlikely
    constructor
    · intro store haxis
      have hsame := hstore store haxis
      rw [store_likely haxis] at hsame
      exact Text.same_lowercase_iff.1 hsame
    · intro genre haxis
      have hsame := hgenre genre haxis
      rw [has_genre_likely haxis] at hsame
      exact Text.same_lowercase_iff.1 hsame
  · have hstoreAxis : (axis (query.store.map Text.lowercase)).all
        (Text.sameIgnoringAsciiCase item.store) =
          (axis query.store).all (Text.sameIgnoringAsciiCase item.store) :=
      all_axis_lowercase_of_same fun store haxis =>
        Text.same_lowercase_of_ascii (hstore store haxis) item.store
    have hgenreAxis : (axis (query.genre.map Text.lowercase)).all item.hasGenre =
        (axis query.genre).all item.hasGenre :=
      all_axis_lowercase_of_same fun genre haxis =>
        has_genre_lowercase_of_ascii (hgenre genre haxis) item
    simp only [keeps, lowered, hstoreAxis, hgenreAxis, search_lowercase]

/-- A genre with another capital is found as it is written, but not in small letters. -/
example : (BaseQuery.mk none (some "ÉNIGME") none).keeps
      { (default : Item) with genres := ["ÉNIGME"] } = true ∧
    (BaseQuery.mk none (some "énigme") none).keeps
      { (default : Item) with genres := ["ÉNIGME"] } = false := by
  decide +kernel

end BaseQuery

end GameLibrary
