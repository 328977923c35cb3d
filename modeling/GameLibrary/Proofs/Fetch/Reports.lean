import GameLibrary.Popularity.Report
import Mathlib.Data.List.Nodup

/-!
# What a report says of the facets

`Report.Accounts` states that a report tells which facets have succeeded and which have not, with no
facet lost and none told twice.
-/

namespace GameLibrary

namespace Facet

theorem mem_distinct {facet : Facet} (facets : List Facet) :
    facet ∈ distinct facets ↔ facet ∈ facets := by
  have hall : facet ∈ all := by cases facet <;> decide
  unfold distinct
  rw [List.mem_filter, List.contains_iff_mem]
  exact ⟨And.right, fun hmem => ⟨hall, hmem⟩⟩

theorem distinct_eq_nil {facets : List Facet} : distinct facets = [] ↔ facets = [] := by
  simp only [List.eq_nil_iff_forall_not_mem, mem_distinct]

/-- The distinct facets are listed in their order. -/
theorem pairwise_distinct (facets : List Facet) :
    (distinct facets).Pairwise fun a b => a.index < b.index :=
  List.Pairwise.filter _ (by decide)

theorem nodup_distinct (facets : List Facet) : (distinct facets).Nodup :=
  List.Pairwise.filter _ (by decide)

end Facet

namespace Report

theorem mem_succeeded {report : Report} {facet : Facet} :
    facet ∈ report.succeeded ↔ (report.rankings facet).isSome = true := by
  have hall : facet ∈ Facet.all := by cases facet <;> decide
  unfold succeeded
  rw [List.mem_filter]
  exact ⟨And.right, fun hsome => ⟨hall, hsome⟩⟩

/-- A report accounts for the facets that were asked for, of which some have succeeded. -/
structure Accounts (facets : List Facet) (succeeded : Facet → Prop) (requested : Nat)
    (report : Report) : Prop where
  /-- The facets with a ranking and those that failed are those that were asked for. -/
  covered : ∀ facet, facet ∈ facets ↔
    (report.rankings facet).isSome = true ∨ facet ∈ report.failed
  /-- No facet has a ranking and failed. -/
  disjoint : ∀ {facet}, (report.rankings facet).isSome = true → facet ∉ report.failed
  /-- The facets that failed are listed once each, in order. -/
  ascending : report.failed.Pairwise fun a b => a.index < b.index
  /-- The facets with a ranking are those that have succeeded. -/
  ranked : ∀ facet, (report.rankings facet).isSome = true ↔ succeeded facet
  requested_eq : report.requested = requested
  /-- The report is complete if every facet that was asked for has succeeded. -/
  complete : report.isComplete = true ↔ ∀ facet ∈ facets, succeeded facet

end Report

end GameLibrary
