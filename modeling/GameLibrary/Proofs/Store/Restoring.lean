import GameLibrary.Proofs.Store.Mirrors

/-!
# What the durable tier gives back

A report that is stored is found fresh for as long as the settings say, whatever is done meanwhile
for other keys (`Durable.lookup_stored`). It comes back with the same facets, items, ranks and failed
facets, and with every score that is read from its own text as itself. Every score with few digits
is. Others may not be: the text is the shortest one that denotes the score, but the reader rounds
twice if the digits have more than fifty-three bits, and may come to a neighbour of the score, as it
does for three nineteenths.
-/

namespace GameLibrary

open Number (Binary64)

/-- The key that a request is about. -/
def StoreRequest.key : StoreRequest → Key
  | get key => key
  | put record => record.key
  | delete key => key

namespace Backend

variable {σ : Type} [Backend σ] [AvailableBackend σ] {store : σ} {key : Key}
  {request : StoreRequest} {requests : List StoreRequest}

/-- A request for another key leaves the record of a key as it is. -/
theorem get_serve (havailable : AvailableBackend.Available store) (hother : request.key ≠ key)
    (hwritable : ∀ record, request = .put record → record.Writable) :
    (get (serve store request).2 key).1 = (get store key).1 ∧
      AvailableBackend.Available (serve store request).2 := by
  unfold serve
  cases request with
  | get other =>
      exact ⟨AvailableBackend.get_get havailable .., AvailableBackend.available_get havailable _⟩
  | put record =>
      have hrecord := hwritable record rfl
      refine ⟨?_, AvailableBackend.available_put havailable hrecord⟩
      exact (AvailableBackend.get_put havailable hrecord key).trans (if_neg (Ne.symm hother))
  | delete other =>
      exact ⟨AvailableBackend.get_delete havailable (Ne.symm hother),
        AvailableBackend.available_delete havailable _⟩

/-- Requests for other keys leave the record of a key as it is. -/
theorem get_serve_all (havailable : AvailableBackend.Available store)
    (hothers : ∀ request ∈ requests, request.key ≠ key)
    (hwritable : ∀ record, .put record ∈ requests → record.Writable) :
    (get (serveAll store requests).2 key).1 = (get store key).1 := by
  induction requests generalizing store with
  | nil => rfl
  | cons request others ih =>
      obtain ⟨hget, hstill⟩ := get_serve havailable (hothers request List.mem_cons_self)
        fun record hrecord => hwritable record (hrecord ▸ List.mem_cons_self)
      refine (ih hstill (fun request hmem => hothers request (List.mem_cons_of_mem _ hmem)) ?_).trans
        hget
      exact fun record hmem => hwritable record (List.mem_cons_of_mem _ hmem)

end Backend

namespace Durable

variable {σ : Type} [Backend σ] [AvailableBackend σ]

/-- A report that is stored is found fresh for the time that the settings say, after any requests
for other keys: with the facets, the items, the ranks and the failed facets that it had, and with the
scores that their texts denote. It is the report that was stored if and only if each of its scores
is read from its own text as itself, and its time is. Every score with a brief text is. -/
theorem lookup_stored {report : Report} (hreport : report.Writable) {store : σ}
    (havailable : AvailableBackend.Available store) (config : Config) (key : Key)
    {written now : Instant} (hwritten : written.InCalendar) {between : List StoreRequest}
    (hothers : ∀ request ∈ between, request.key ≠ key)
    (hwritable : ∀ record, .put record ∈ between → record.Writable) :
    let stored := Durable.store config key report written store
    let kept := (Backend.serveAll stored.2.2 between).2
    let ending := now.after (Backend.readDelay kept)
    stored.1 = .ok () ∧
      (ending ≤ written.after config.floor → ending.InCalendar →
        (lookup config key now kept).1 = .ok (.fresh report.asRead)) ∧
      (report.asRead = report ↔ report.fetchedAt.asRead = report.fetchedAt ∧
        ∀ {facet ranking}, report.rankings facet = some ranking →
          ∀ item ∈ ranking, item.Exact) ∧
      (∀ {facet ranking}, report.rankings facet = some ranking →
        ∀ item ∈ ranking, (Json.doubleLiteral item.score).Brief → item.Exact) := by
  have hrecord := Record.writable_record hwritten config key report
  have hput := AvailableBackend.put_ok havailable hrecord
  refine ⟨hput, fun hfresh hcalendar => ?_, hreport.as_read_eq_self_iff,
    fun hranking item hmem => RankedItem.exact_of_brief (hreport.scores hranking item hmem)⟩
  have hstored : (Backend.get (Backend.serveAll (Durable.store config key report written store).2.2
      between).2 key).1 = .ok (some (record config written key report)) := by
    refine (Backend.get_serve_all (AvailableBackend.available_put havailable hrecord) hothers
      hwritable).trans ?_
    exact (AvailableBackend.get_put havailable hrecord key).trans (if_pos rfl)
  have hfinding := finding_record hreport.decode_encode hfresh hcalendar key
  unfold lookup
  dsimp only
  rw [hstored, hfinding]

/-- Three nineteenths. -/
def threeNineteenths : Binary64 := ⟨0x3fc435e50d79435e⟩

/-- A report with one score, which is not read from its own text as itself. -/
def ofThreeNineteenths : Report where
  rankings facet := if facet = .trending then some [⟨"a", 1, threeNineteenths⟩] else none
  failed := []
  requested := 1
  fetchedAt := ⟨1717243200, 0⟩

/-- Another key is written and removed meanwhile. -/
def otherKey : List StoreRequest :=
  [.put { Record.ofLastYear with key := .ones, insertedAt := .ofInstant ⟨0⟩ }, .delete .ones]

/-- Three nineteenths come back as the double below them. -/
theorem lookup_stored_changed :
    let stored := Durable.store .standard .zeros ofThreeNineteenths ⟨0⟩ ({} : MemoryStore)
    let kept := (Backend.serveAll stored.2.2 otherKey).2
    (lookup .standard .zeros ⟨1000000000⟩ kept).1 = .ok (.fresh ofThreeNineteenths.asRead) ∧
      ofThreeNineteenths.asRead ≠ ofThreeNineteenths ∧
      (Json.doubleLiteral threeNineteenths).double? = some ⟨0x3fc435e50d79435d⟩ := by
  have hread : (Json.doubleLiteral threeNineteenths).double? = some ⟨0x3fc435e50d79435d⟩ := by
    decide +kernel
  have hranking : ofThreeNineteenths.rankings .trending = some [⟨"a", 1, threeNineteenths⟩] := rfl
  have hcalendar : ∀ {now : Instant}, now.nanoseconds ≤ 1000000000 → now.InCalendar := by
    intro now hle
    have hsecond : (⟨1000000000⟩ : Instant).InCalendar := ⟨by decide, by decide, by decide⟩
    exact hsecond.mono hle
  have hreport : ofThreeNineteenths.Writable := by
    refine ⟨fun {facet ranking} hfound item hmem => ?_, by decide, by decide, by decide, by decide⟩
    simp only [ofThreeNineteenths, Option.ite_none_right_eq_some, Option.some.injEq] at hfound
    obtain ⟨-, rfl⟩ := hfound
    cases List.mem_singleton.1 hmem
    decide
  have hothers : ∀ request ∈ otherKey, request.key ≠ .zeros := by
    simp [otherKey, StoreRequest.key, Key.zeros, Key.ones]
  have hwritable : ∀ record, .put record ∈ otherKey → record.Writable := by
    intro record hmem
    simp only [otherKey, List.mem_cons, StoreRequest.put.injEq, reduceCtorEq, List.not_mem_nil,
      or_false] at hmem
    subst hmem
    exact ⟨⟨Record.quotedText, rfl⟩, ⟨0⟩, hcalendar (by decide), rfl⟩
  have honline : AvailableBackend.Available ({} : MemoryStore) := rfl
  have hstart : (⟨0⟩ : Instant).InCalendar := hcalendar (by decide)
  obtain ⟨-, hfresh, hself, -⟩ :=
    lookup_stored hreport honline .standard .zeros hstart hothers hwritable
  refine ⟨hfresh (by decide) (hcalendar (by decide)), fun heq => ?_, hread⟩
  have hexact := (hself.1 heq).2 hranking _ List.mem_cons_self
  unfold RankedItem.Exact at hexact
  rw [hread] at hexact
  exact absurd (Option.some.inj hexact) (by decide)

end Durable

end GameLibrary
