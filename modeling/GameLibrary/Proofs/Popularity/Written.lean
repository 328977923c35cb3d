import GameLibrary.Popularity.Report
import GameLibrary.Proofs.Json.Exact
import GameLibrary.Proofs.Json.Reading
import GameLibrary.Proofs.Time.Written
import GameLibrary.Store.Payload

/-!
# Written reports

A report with finite scores is read from its own document (`of_tree_to_json`): with the same facets,
items and ranks, and the same failed facets, which are left out of the document if there are none.
Only a score may come back as a neighbour of itself, and a leap second as the second after it. A
report that is complete is therefore read as a complete one.
-/

namespace GameLibrary

open Json (Tree treeOf treesOf memberTreesOf doubleLiteral)
open Number (Binary64)

section Fields

variable {α β γ : Type}

/-- Lists are read element by element. -/
theorem map_m_map_of_read {encode : α → γ} {decode : γ → Option β} {read : α → β}
    {values : List α} (h : ∀ value ∈ values, decode (encode value) = some (read value)) :
    (values.map encode).mapM decode = some (values.map read) := by
  induction values with
  | nil => rfl
  | cons value others ih =>
      rw [List.map_cons, List.mapM_cons, h value List.mem_cons_self,
        ih fun value hmem => h value (List.mem_cons_of_mem _ hmem)]
      rfl

/-- A natural number is read as itself. -/
theorem natural_tree_of {n bits : Nat} (hbits : bits ≤ 64) (hn : n < 2 ^ bits) :
    (treeOf (.natural n)).natural? bits = some n := by
  have hle : (2 : Nat) ^ bits ≤ 2 ^ 64 := Nat.pow_le_pow_right (by decide) hbits
  have hinteger : (Json.Literal.ofInt n).integer? = some (n : Int) :=
    Json.integer_of_int (by omega) (by omega)
  have hbound : (0 : Int) ≤ n ∧ (n : Int) ≤ ((Nat.pow 2 bits : Nat) : Int) - 1 := by
    rw [Nat.pow_eq]
    omega
  rw [Json.natural, treeOf]
  unfold Tree.natural? Tree.integer?
  simp only [hinteger, Option.bind_eq_bind, Option.bind_some]
  rw [if_pos hbound, Option.map_some, Int.toNat_natCast]

/-- A text is read as itself. -/
theorem text_tree_of (text : String) : (treeOf (.string text)).text? = some text := by
  rw [treeOf]
  rfl

/-- An object as it is written. -/
theorem tree_of_object (members : List (String × Json)) : treeOf (.object members) =
    .object (members.map fun (name, value) => (some name, treeOf value)) := by
  rw [treeOf, Json.member_trees_of_eq_map]

/-- The members of an object that was written. -/
theorem members_tree_of (members : List (String × Json)) :
    (treeOf (.object members)).members? =
      some (members.map fun (name, value) => (name, treeOf value)) := by
  rw [tree_of_object]
  unfold Tree.members?
  refine map_m_map_of_read ?_
  exact fun _ _ => rfl

end Fields

namespace RankedItem

/-- An item as it is read from its own document. -/
def asRead (item : RankedItem) : RankedItem :=
  { item with score := (doubleLiteral item.score).double?.getD item.score }

theorem of_tree_to_json {item : RankedItem} (h : item.score.isFinite) :
    ofTree? (treeOf item.toJson) = some item.asRead := by
  have hrank : (treeOf (.natural item.rank.toNat)).natural? 32 = some item.rank.toNat :=
    natural_tree_of (by decide) item.rank.toNat_lt
  obtain ⟨score, hscore⟩ := Option.isSome_iff_exists.1 (Json.double_is_some h)
  have hdouble : (treeOf (.double item.score)).double? = some score := by
    rw [treeOf, if_pos h]
    exact hscore
  have hfields : (treeOf item.toJson).fields? ["id", "rank", "score"] =
      some [some (treeOf (.string item.id)), some (treeOf (.natural item.rank.toNat)),
        some (treeOf (.double item.score))] := by
    unfold toJson
    rw [tree_of_object]
    rfl
  unfold ofTree? asRead
  simp only [hfields, Option.bind_eq_bind, Option.bind_some, text_tree_of, hrank, hdouble, hscore,
    Option.getD_some, Option.pure_def, UInt32.ofNat_toNat]

/-- The score of the item is read from its own text as itself. -/
def Exact (item : RankedItem) : Prop := (doubleLiteral item.score).double? = some item.score

/-- A score of few digits is read from its own text as itself. -/
theorem exact_of_brief {item : RankedItem} (h : item.score.isFinite)
    (hbrief : (doubleLiteral item.score).Brief) : item.Exact :=
  Json.double_double_literal h hbrief

/-- An item is read as itself if its score is. -/
theorem as_read_eq_self_iff {item : RankedItem} (h : item.score.isFinite) :
    item.asRead = item ↔ item.Exact := by
  obtain ⟨score, hscore⟩ := Option.isSome_iff_exists.1 (Json.double_is_some h)
  unfold asRead Exact
  rw [hscore, Option.getD_some, Option.some.injEq]
  constructor
  · exact congrArg RankedItem.score
  · intro heq
    rw [heq]

end RankedItem

namespace Report

variable {report : Report}

/-- The reports that can be written: their scores are finite, their size is one of sixty-four bits,
and their time is one of the calendar. -/
structure Writable (report : Report) : Prop where
  scores : ∀ {facet ranking}, report.rankings facet = some ranking →
    ∀ item ∈ ranking, item.score.isFinite
  requested : report.requested < 2 ^ 64
  fetchedAt : report.fetchedAt.InCalendar

/-- A report as it is read from its own document. -/
def asRead (report : Report) : Report where
  rankings facet := (report.rankings facet).map (List.map RankedItem.asRead)
  failed := report.failed
  requested := report.requested
  fetchedAt := report.fetchedAt.asRead

theorem named_name (facet : Facet) : Facet.named? facet.name = some facet := by
  cases facet <;> decide

/-- The rankings with that of one more member of a document. -/
def withRanking? (rankings : Facet → Option Ranking) (member : String × Tree) :
    Option (Facet → Option Ranking) :=
  (Facet.named? member.1).bind fun facet =>
    (member.2.list? RankedItem.ofTree?).bind fun ranking =>
      some fun f => if f = facet then some ranking else rankings f

/-- The rankings of a document are those of its members. -/
theorem rankings_of_tree_eq (tree : Tree) : rankingsOfTree? tree =
    tree.members?.bind fun members => members.foldlM withRanking? fun _ => none := rfl

/-- A member with the name of a facet has the ranking of the facet. -/
theorem with_ranking_name {rankings : Facet → Option Ranking} {facet : Facet} {tree : Tree}
    {ranking : Ranking} (h : tree.list? RankedItem.ofTree? = some ranking) :
    withRanking? rankings (facet.name, tree) =
      some fun f => if f = facet then some ranking else rankings f := by
  unfold withRanking?
  rw [named_name, Option.bind_some, h, Option.bind_some]

/-- The ranking of a facet is read from its own document. -/
theorem Writable.ranking_to_json (h : report.Writable) {facet : Facet} {ranking : Ranking}
    (hfound : report.rankings facet = some ranking) :
    (treeOf (Ranking.toJson ranking)).list? RankedItem.ofTree? =
      some (ranking.map RankedItem.asRead) := by
  unfold Ranking.toJson
  rw [treeOf, Json.trees_of_eq_map, List.map_map]
  exact map_m_map_of_read fun item hitem => RankedItem.of_tree_to_json (h.scores hfound item hitem)

/-- The members for some facets give these their rankings, and leave the others as they were. -/
theorem foldl_m_with_ranking (h : report.Writable) (facets : List Facet)
    (rankings : Facet → Option Ranking) :
    ((facets.filterMap fun facet => (report.rankings facet).map fun ranking =>
      (facet.name, treeOf (Ranking.toJson ranking))).foldlM withRanking? rankings) =
      some fun facet => if facet ∈ facets ∧ (report.rankings facet).isSome then
        report.asRead.rankings facet else rankings facet := by
  induction facets generalizing rankings with
  | nil => simp
  | cons facet others ih =>
      cases hfound : report.rankings facet with
      | none =>
          rw [List.filterMap_cons_none (by rw [hfound]; rfl), ih]
          congr 1
          funext f
          by_cases hf : f = facet
          · simp [hf, hfound]
          · simp [hf]
      | some ranking =>
          rw [List.filterMap_cons_some (by rw [hfound]; rfl), List.foldlM_cons,
            with_ranking_name (h.ranking_to_json hfound), Option.bind_eq_bind, Option.bind_some, ih]
          congr 1
          funext f
          by_cases hf : f = facet
          · simp [hf, hfound, asRead]
          · simp [hf]

/-- The rankings of a report are read facet by facet. -/
theorem rankings_of_tree_to_json (h : report.Writable) :
    rankingsOfTree? (treeOf (.object report.rankingMembers)) = some report.asRead.rankings := by
  rw [rankings_of_tree_eq, members_tree_of, Option.bind_some]
  unfold rankingMembers
  rw [List.map_filterMap]
  simp only [Option.map_map]
  refine (foldl_m_with_ranking h Facet.all fun _ => none).trans
    (congrArg some (funext fun facet => ?_))
  have hall : facet ∈ Facet.all := by
    cases facet <;> decide
  cases hfound : report.rankings facet with
  | none => simp [asRead, hfound]
  | some ranking => simp [hall]

/-- The list of failed facets is read as it was, also when it was left out. -/
theorem failed_to_json (report : Report) : ∃ failed,
    (treeOf report.toJson).fields? ["facets", "failed", "requested_items", "fetched_at"] =
      some [some (treeOf (.object report.rankingMembers)), failed,
        some (treeOf (.natural report.requested)),
        some (treeOf (.string report.fetchedAt.text))] ∧
      Tree.fieldOr [] (Tree.list? Facet.ofTree?) failed = some report.failed := by
  unfold toJson
  rw [tree_of_object]
  cases hfailed : report.failed with
  | nil => exact ⟨none, rfl, rfl⟩
  | cons facet others =>
      refine ⟨some (treeOf (.strings ((facet :: others).map Facet.name))), rfl, ?_⟩
      rw [Json.strings, treeOf, Json.trees_of_eq_map, List.map_map, List.map_map]
      have hread : ((facet :: others).map (treeOf ∘ Json.string ∘ Facet.name)).mapM Facet.ofTree? =
          some ((facet :: others).map id) := by
        refine map_m_map_of_read fun facet _ => ?_
        show Facet.ofTree? (treeOf (.string facet.name)) = some facet
        rw [treeOf]
        exact named_name facet
      rwa [List.map_id] at hread

/-- A report is read from its own document. -/
theorem of_tree_to_json (h : report.Writable) :
    ofTree? (treeOf report.toJson) = some report.asRead := by
  have hrequested : (treeOf (.natural report.requested)).natural? 64 = some report.requested :=
    natural_tree_of (by decide) h.requested
  have hfetchedAt : Timestamp.ofText? report.fetchedAt.text = some report.fetchedAt.asRead :=
    Timestamp.of_text_text h.fetchedAt
  obtain ⟨failed, hfields, hfailed⟩ := failed_to_json report
  unfold ofTree?
  simp only [hfields, rankings_of_tree_to_json h, hfailed, hrequested, text_tree_of, hfetchedAt,
    Option.bind_eq_bind, Option.bind_some, Option.pure_def]
  rfl

/-- A report is read from its own bytes. -/
theorem Writable.decode_encode (h : report.Writable) :
    Payload.decode (Payload.encode report) = .ok report.asRead := by
  have hread : (Tree.ofBytes? (Payload.encode report)).bind Payload.ofTree? = some report.asRead := by
    show (Tree.ofBytes? report.toJson.compact.toUTF8).bind Report.ofTree? = _
    rw [Json.of_bytes_compact, Option.bind_some, of_tree_to_json h]
  unfold Payload.decode
  rw [hread]

/-- What is read is the report itself if and only if every score is read from its own text as
itself, and there is no leap second within a minute in the time. -/
theorem Writable.as_read_eq_self_iff (h : report.Writable) : report.asRead = report ↔
    report.fetchedAt.asRead = report.fetchedAt ∧
      ∀ {facet ranking}, report.rankings facet = some ranking → ∀ item ∈ ranking, item.Exact := by
  have hranking : ∀ {facet ranking}, report.rankings facet = some ranking →
      (ranking.map RankedItem.asRead = ranking ↔ ∀ item ∈ ranking, item.Exact) := by
    intro facet ranking hfound
    have hmap := List.map_inj_left (l := ranking) (f := RankedItem.asRead) (g := id)
    rw [List.map_id] at hmap
    exact hmap.trans (forall₂_congr fun item hmem =>
      RankedItem.as_read_eq_self_iff (h.scores hfound item hmem))
  constructor
  · intro heq
    refine ⟨congrArg Report.fetchedAt heq, fun {facet ranking} hfound => (hranking hfound).1 ?_⟩
    have hfacet : (report.rankings facet).map (List.map RankedItem.asRead) =
        report.rankings facet := congrFun (congrArg Report.rankings heq) facet
    rw [hfound, Option.map_some, Option.some.injEq] at hfacet
    exact hfacet
  · rintro ⟨hfetchedAt, hscores⟩
    have hrankings : report.asRead.rankings = report.rankings := by
      funext facet
      show (report.rankings facet).map (List.map RankedItem.asRead) = report.rankings facet
      cases hfound : report.rankings facet with
      | none => rfl
      | some ranking => rw [Option.map_some, (hranking hfound).2 (hscores hfound)]
    show (⟨report.asRead.rankings, report.failed, report.requested, report.fetchedAt.asRead⟩ :
      Report) = report
    rw [hrankings, hfetchedAt]

end Report

end GameLibrary
