import GameLibrary.Proofs.Cache.Memory
import GameLibrary.Proofs.CommandLine.Conversations

/-!
# Fetches and look-ups that break down

A fetch breaks down at its beginning or not at all (`fetch_breaks_iff`): its rounds only talk to the
machine, and so does the durable store. A look-up breaks down where its computation does, and since
both tiers may have nothing, every computation may be made (`resolve_breaks_iff`).
-/

namespace GameLibrary.CommandLine

variable {around : Surroundings} {breakdown : Breakdown}

section Fetching

/-- The rounds of a fetch never break down. -/
theorem steady_rounds (deadline : Instant) (fuel : Nat) (fetcher : Fetcher) (remote : Remote) :
    Steady around (rounds deadline fuel fetcher remote) := by
  induction fuel generalizing fetcher remote with
  | zero => exact steady_pure _
  | succ fuel ih =>
      unfold rounds
      refine .bind (steady_lift _) fun now => ?_
      dsimp only
      split
      · exact steady_pure _
      · refine .bind (steady_lift _) fun receptions => .bind (steady_lift _) fun now => ?_
        split
        · exact steady_pure _
        · exact ih _ _

/-- A deadline that begins when the clock shows its latest time is beyond the last instant. There is
one clock for the time of day and for the instants of deadlines; what is exact about the deadlines
that are too far is so for a machine on which both show the same. -/
def Surroundings.TooFar (around : Surroundings) (deadline : Duration) : Prop :=
  2 ^ 63 * 1000000000 ≤ around.latest.nanoseconds + deadline.nanoseconds

theorem not_fits_iff (config : Fetcher.Config) (now : Instant) :
    config.deadlineFits now = false ↔
      2 ^ 63 * 1000000000 ≤ now.nanoseconds + config.deadline.nanoseconds := by
  unfold Fetcher.Config.deadlineFits
  rw [decide_eq_false_iff_not]
  change ¬ (now.nanoseconds + config.deadline.nanoseconds) / 1000000000 ≤ 0x7fffffffffffffff ↔ _
  omega

/-- A fetch breaks down at its beginning or not at all. -/
theorem fetch_breaks_iff {remote : Remote} {config : Fetcher.Config} {ids : List String} :
    Reaches around (fetch remote config ids) (.error breakdown) ↔
      breakdown = .deadlineTooFar ∧ ids ≠ [] ∧ config.facets ≠ [] ∧
        around.TooFar config.deadline := by
  have hguard : ∀ now, (!ids.isEmpty && !config.facets.isEmpty && !config.deadlineFits now) = true ↔
      ids ≠ [] ∧ config.facets ≠ [] ∧
        2 ^ 63 * 1000000000 ≤ now.nanoseconds + config.deadline.nanoseconds := by
    intro now
    simp [not_fits_iff, and_assoc]
  unfold fetch
  refine reaches_ask.trans ?_
  constructor
  · rintro ⟨now, hnow, hrest⟩
    dsimp only at hrest
    split at hrest
    · rename_i hcondition
      obtain ⟨hids, hfacets, hfar⟩ := (hguard now).1 hcondition
      cases reaches_throw_bind.1 hrest
      exact ⟨rfl, hids, hfacets, hfar.trans (Nat.add_le_add_right hnow _)⟩
    · exact absurd hrest (steady_rounds _ _ _ _ _)
  · rintro ⟨rfl, hfar⟩
    refine ⟨around.latest, Nat.le_refl _, ?_⟩
    rw [if_pos ((hguard _).2 hfar)]
    exact reaches_throw_bind.2 rfl

end Fetching

section Storing

variable (storage : Storage) (key : Key)

/-- The durable store may refuse, but it never breaks the program down. -/
theorem steady_get : Steady around (storage.get key) := by
  cases storage with
  | memory store => exact steady_pure _
  | files directory process sequence => exact .bind (steady_lift _) fun answer => steady_pure _

theorem steady_put (record : Record) : Steady around (storage.put record) := by
  cases storage with
  | memory store => exact steady_pure _
  | files directory process sequence => exact .bind (steady_lift _) fun answer => steady_pure _

theorem steady_delete : Steady around (storage.delete key) := by
  cases storage with
  | memory store => exact steady_pure _
  | files directory process sequence => exact .bind (steady_lift _) fun answer => steady_pure _

/-- At the beginning the durable store may have nothing. -/
theorem reaches_nothing (directory : Option String) (now : Instant) :
    ∃ storage, Reaches around ((Storage.ofDirectory directory now).get key)
      (.ok (.ok none, storage)) := by
  cases directory with
  | none => exact ⟨_, reaches_pure.2 rfl⟩
  | some path =>
      refine ⟨.files path now.nanoseconds 0, reaches_bind_ok.2 ⟨.ok none, ?_, reaches_pure.2 rfl⟩⟩
      exact reaches_lift.2 ⟨.ok none, ⟨.error .notFound, trivial, rfl⟩, rfl⟩

end Storing

section Resolving

variable {compute : Session (Except Failure Report)}

/-- While a call is followed, only its computation can break down. -/
theorem compute_of_pursue {fuel : Nat} {cache : Cache Report} {storage : Storage}
    (h : Reaches around (pursue compute fuel cache storage) (.error breakdown)) :
    Reaches around compute (.error breakdown) := by
  induction fuel generalizing cache storage with
  | zero => cases reaches_pure.1 h
  | succ fuel ih =>
      unfold pursue at h
      split at h
      -- Whatever the caller waits for, the rest of the call is followed from the next point.
      · obtain ⟨⟨answer, storage'⟩, -, h⟩ := (steady_get _ _).bind_error.1 h
        obtain ⟨now, -, h⟩ := reaches_ask.1 h
        exact ih h
      · obtain ⟨⟨answer, storage'⟩, -, h⟩ := (steady_delete _ _).bind_error.1 h
        obtain ⟨now, -, h⟩ := reaches_ask.1 h
        exact ih h
      · rcases reaches_bind_error.1 h with h | ⟨result, -, h⟩
        · exact h
        · obtain ⟨now, -, h⟩ := reaches_ask.1 h
          exact ih h
      · obtain ⟨⟨answer, storage'⟩, -, h⟩ := (steady_put _ _).bind_error.1 h
        obtain ⟨now, -, h⟩ := reaches_ask.1 h
        exact ih h
      · cases reaches_pure.1 h

/-- A key of which nothing is in memory and that nobody computes. -/
structure Lacking (cache : Cache Report) (key : Key) : Prop where
  memory : cache.tier1.storage.find? key = none
  registry : cache.registry.find? key = none

variable {cache : Cache Report} {key : Key}

theorem Lacking.live (h : Lacking cache key) (now : Instant) :
    cache.tier1.live? now key = none := by
  unfold Tier1.live?
  rw [h.memory]
  rfl

/-- The caller of a key that is not in memory reads the durable store. -/
theorem Lacking.called (h : Lacking cache key) (hfree : cache.calls.find? 0 = none)
    (now : Instant) : ∃ next, cache.step now (.called 0 key) = some next ∧ Lacking next key ∧
      next.calls.find? 0 = some ⟨key, .reading⟩ := by
  have hpoint : cache.enterPoint now key = .reading := by
    unfold Cache.enterPoint
    rw [h.live now]
  refine ⟨cache.enter now 0 key, by simp [Cache.step, hfree], ⟨?_, ?_⟩, ?_⟩
  · rw [Cache.tier1_enter, Tier1.find?_get, if_pos rfl, h.memory]
    rfl
  · unfold Cache.enter
    cases cache.tier1.get now key with
    | mk held tier1 => cases held <;> exact h.registry
  · rw [Cache.calls_enter, Table.find?_insert, if_pos rfl, hpoint]

/-- A caller that hears of no record computes. -/
theorem Lacking.received (h : Lacking cache key) (now : Instant) :
    (cache.receive now 0 key (.ok none)).calls.find? 0 =
      some ⟨key, .computing cache.nextFlight none now⟩ := by
  have hpoint : cache.receivePoint now key (.ok none) =
      .computing cache.nextFlight none now := by
    change cache.joinPoint now key none = _
    unfold Cache.joinPoint Cache.leadPoint
    rw [h.registry, h.live now]
  rw [Cache.calls_receive, Table.find?_insert, if_pos rfl, hpoint]

/-- If the durable store has nothing either, the caller computes. -/
theorem Lacking.answered (h : Lacking cache key)
    (hreading : cache.calls.find? 0 = some ⟨key, .reading⟩) (now : Instant) :
    ∃ next flight, (cache.step now (.served 0 (.ok none))).bind (·.step now (.answered 0)) =
      some next ∧ next.calls.find? 0 = some ⟨key, .computing flight none now⟩ := by
  let served := cache.setPoint 0 key (.answered (.ok none))
  have hcall : served.calls.find? 0 = some ⟨key, .answered (.ok none)⟩ :=
    (Table.find?_insert ..).trans (if_pos rfl)
  have hlacking : Lacking served key := ⟨h.memory, h.registry⟩
  refine ⟨served.receive now 0 key (.ok none), served.nextFlight, ?_, hlacking.received now⟩
  have hserved : cache.step now (.served 0 (.ok none)) = some served := by
    simp [Cache.step, hreading, served]
  rw [hserved, Option.bind_some]
  simp [Cache.step, hcall]

/-- A query of a new program may find nothing in either tier, and then its computation is made. -/
theorem resolve_breaks_iff {config : Cache.Config} {directory : Option String} {start : Instant} :
    Reaches around (resolve (.ofConfig config) (Storage.ofDirectory directory start) key compute)
      (.error breakdown) ↔ Reaches around compute (.error breakdown) := by
  unfold resolve
  refine reaches_ask.trans ?_
  constructor
  · rintro ⟨now, -, h⟩
    exact compute_of_pursue h
  · -- The clock stands at its latest time, and the store answers that it has nothing.
    intro h
    have hlacking : Lacking (.ofConfig config) key := ⟨Cache.not_found_of_config config key, rfl⟩
    obtain ⟨called, hstep, hlacking, hreading⟩ := hlacking.called rfl around.latest
    obtain ⟨answered, flight, hsteps, hcomputing⟩ := hlacking.answered hreading around.latest
    obtain ⟨storage, hnothing⟩ : ∃ storage,
        Reaches around ((Storage.ofDirectory directory start).get key) (.ok (.ok none, storage)) :=
      reaches_nothing key directory start
    refine ⟨around.latest, Nat.le_refl _, ?_⟩
    rw [hstep, Option.getD_some]
    unfold pursue
    rw [hreading]
    refine reaches_bind_error.2 (.inr ⟨(.ok none, storage), hnothing, ?_⟩)
    refine reaches_ask.2 ⟨around.latest, Nat.le_refl _, ?_⟩
    dsimp only
    rw [hsteps, Option.getD_some]
    unfold pursue
    rw [hcomputing]
    exact reaches_bind_error.2 (.inl h)

end Resolving

end GameLibrary.CommandLine
