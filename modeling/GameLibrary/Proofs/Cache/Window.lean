import GameLibrary.Proofs.Cache.Memory
import GameLibrary.Store.Memory

/-!
# One computation in the time to live

A value that a computation has brought into memory spares the next ones: as long as its entry lives,
no caller begins to compute the value of the key again, whatever it had missed before
(`run_one_fetch`). The entry leaves memory before its time only if the key is invalidated, or if the
entry has to make room (`Removes`).
-/

namespace GameLibrary

/-- An entry that has expired was inserted longer ago than it was to live. -/
theorem CacheEntry.after_lt_of_expired {ν : Type} {entry : CacheEntry ν} {early now : Instant}
    (hexpired : entry.isExpired now = true) (hearly : early ≤ entry.insertedAt) :
    early.after entry.ttl < now := by
  have hage : entry.ttl.nanoseconds < now.nanoseconds - entry.insertedAt.nanoseconds :=
    of_decide_eq_true hexpired
  have hle : early.nanoseconds ≤ entry.insertedAt.nanoseconds := hearly
  show early.nanoseconds + entry.ttl.nanoseconds < now.nanoseconds
  omega

namespace Cache

variable {ν : Type} {cache : Cache ν} {now : Instant} {id : CallId} {key : Key}

/-- Whoever begins to compute has found nothing in memory, and begins at once. -/
theorem computing_of_lead_point {fallback fallback' : Option ν} {flight flight' : FlightId}
    {started : Instant}
    (h : cache.leadPoint now key fallback flight = .computing flight' fallback' started) :
    cache.tier1.live? now key = none ∧ started = now := by
  unfold leadPoint at h
  split at h
  · cases h
  · cases h
    exact ⟨‹_›, rfl⟩

/-- Whoever joins a flight and computes has found nothing in memory. -/
theorem computing_of_join_point {fallback fallback' : Option ν} {flight : FlightId}
    {started : Instant}
    (h : cache.joinPoint now key fallback = .computing flight fallback' started) :
    cache.tier1.live? now key = none ∧ started = now := by
  unfold joinPoint at h
  split at h
  · exact computing_of_lead_point h
  · split at h
    · cases h
    · exact computing_of_lead_point h
    · cases h

/-- A caller begins to compute when it has found nothing in memory. -/
theorem Arrival.computing_from [Payload ν] {event : Event ν} {flight : FlightId}
    {fallback : Option ν} {started : Instant}
    (h : cache.Arrival now id key event (.computing flight fallback started)) :
    cache.tier1.live? now key = none ∧ started = now := by
  have hstage := h.stage_mem
  generalize hpoint : (.computing flight fallback started : Point ν) = point at h hstage
  cases event with
  | answered =>
      cases h with
      | answered hcall =>
          unfold receivePoint at hpoint
          split at hpoint
          · cases hpoint
          · exact computing_of_join_point hpoint.symm
          · exact computing_of_join_point hpoint.symm
          · cases hpoint
          · exact computing_of_join_point hpoint.symm
  | erased =>
      cases h with
      | erased hcall => exact computing_of_join_point hpoint.symm
  | resumed =>
      cases h with
      | settled => cases hpoint
      | promoted => exact computing_of_lead_point hpoint.symm
  | _ => simp [← hpoint, Point.stage, Event.stages] at hstage

end Cache

namespace System

open Cache.Traffic (Orderly)

variable {σ ν : Type} [Backend σ] [Payload ν]

/-- The caller that an event takes further. -/
def Event.caller : Event ν → Option CallId
  | .called id _ | .served id | .answered id | .erased id | .computed id _ | .timedOut id
  | .written id | .resumed id | .dropped id => some id
  | .elapsed _ | .invalidated _ _ | .deleted _ | .purged => none

/-- With a step a caller begins to compute the value of a key. -/
def Starts (system next : System σ ν) (id : CallId) (key : Key) : Prop :=
  (∃ flight fallback,
      next.cache.calls.find? id = some ⟨key, .computing flight fallback system.now⟩) ∧
    ∀ {flight fallback started},
      system.cache.calls.find? id ≠ some ⟨key, .computing flight fallback started⟩

/-- An entry of the key that has not expired leaves memory: the key is invalidated, or the entry has
to make room for another one. -/
structure Removes (system : System σ ν) (key : Key) (event : Event ν) : Prop where
  live : ∃ entry, system.cache.tier1.storage.find? key = some entry ∧
    entry.isExpired system.now = false
  cause : (∃ id, event = .invalidated id key) ∨
    ∃ own, event.own = some own ∧ system.cache.Crowds system.now key own

/-- Why the value of a key is computed again at some time, in terms of the event that ended the
computation before, and of what came after it: the computation failed, took too long or was given
up; its value was not to be kept; its time to live is over; or it was removed. -/
inductive Reason (config : Cache.Config) (id : CallId) (key : Key) (system after : System σ ν)
    (rest : List (Event ν)) (again : Instant) : Event ν → Prop where
  | failed {failure} : Reason config id key system after rest again (.computed id (.error failure))
  | timedOut : Reason config id key system after rest again (.timedOut id)
  | dropped : Reason config id key system after rest again (.dropped id)
  | fleeting {value} : Payload.isComplete value = false → config.partialPolicy = .completeOnly →
      Reason config id key system after rest again (.computed id (.ok value))
  | expired {value} : system.now.after config.tier1.ttl < again →
      Reason config id key system after rest again (.computed id (.ok value))
  | removed {value} : Happens step after rest (fun system event => system.Removes key event) →
      Reason config id key system after rest again (.computed id (.ok value))

variable {system next start finish : System σ ν} {event : Event ν} {events : List (Event ν)}
  {id : CallId} {key : Key} {config : Cache.Config}

/-- Time does not run backwards. -/
theorem Transition.now_le (h : system.Transition event next) : system.now ≤ next.now := by
  cases h with
  | elapsed => exact Nat.le_add_right _ _
  | own | served | erased | written | invalidated | deleted => exact Nat.le_refl _

/-- An event leaves all callers but its own where they are. -/
theorem Transition.find?_of_caller_ne (h : system.Transition event next)
    (hne : event.caller ≠ some id) :
    next.cache.calls.find? id = system.cache.calls.find? id := by
  cases h with
  | elapsed | invalidated | deleted => rfl
  | @own _ own _ hown hcache =>
      refine hcache.find?_of_caller_ne ?_
      cases event <;> cases hown <;> exact hne
  | served _ hcache | erased _ hcache | written _ hcache => exact hcache.find?_of_caller_ne hne

/-- The settings never change. -/
theorem Transition.config_eq (h : system.Transition event next) :
    next.cache.config = system.cache.config ∧
      next.cache.tier1.config = system.cache.tier1.config := by
  rcases h.cache_transition with hsame | ⟨own, hcache⟩
  · rw [hsame]
    exact ⟨rfl, rfl⟩
  · exact ⟨hcache.config_eq, hcache.tier1_config_eq⟩

/-- Memory has an entry of the key that was not inserted before some time, and is to live as long as
the settings say. -/
def Holds (config : Cache.Config) (key : Key) (since : Instant) (system : System σ ν) : Prop :=
  ∃ entry, system.cache.tier1.storage.find? key = some entry ∧ since ≤ entry.insertedAt ∧
    entry.ttl = config.tier1.ttl

/-- A step leaves the entry in memory, unless its time is over or it is removed. -/
theorem step_holds {since : Instant} (hconfig : system.cache.tier1.config = config.tier1)
    (hsince : since ≤ system.now) (h : system.Holds config key since)
    (hstep : system.step event = some next) :
    next.Holds config key since ∨ since.after config.tier1.ttl < system.now ∨
      system.Removes key event := by
  obtain ⟨entry, hfound, hinserted, httl⟩ := h
  by_cases hexpired : entry.isExpired system.now = true
  · exact .inr (.inl (httl ▸ CacheEntry.after_lt_of_expired hexpired hinserted))
  have hlive := Bool.eq_false_iff.2 hexpired
  -- What is found after a step of the cache is the entry, or a newer one.
  have hafter : ∀ {own}, system.cache.Transition system.now own next.cache →
      own ≠ .forgotten key → ¬ system.cache.Crowds system.now key own →
      next.Holds config key since := by
    intro own hcache hkept hroom
    rcases hcache.found_after hfound hlive hkept hroom with hfound' | ⟨value, hfound'⟩
    · exact ⟨entry, hfound', hinserted, httl⟩
    · exact ⟨_, hfound', hsince, congrArg Tier1.Config.ttl hconfig⟩
  by_cases hremoves : system.Removes key event
  · exact .inr (.inr hremoves)
  left
  have hroom : ∀ {own}, event.own = some own → ¬ system.cache.Crowds system.now key own :=
    fun hown hcrowds => hremoves ⟨⟨entry, hfound, hlive⟩, .inr ⟨_, hown, hcrowds⟩⟩
  cases step_transition hstep with
  | elapsed | deleted => exact ⟨entry, hfound, hinserted, httl⟩
  | own hown hcache =>
      refine hafter hcache ?_ (hroom hown)
      rintro rfl
      cases event <;> cases hown
  | served _ hcache | erased _ hcache | written _ hcache =>
      refine hafter hcache (by rintro ⟨⟩) ?_
      rintro ⟨other, value, -, hinserts, -⟩
      cases hinserts
  | @invalidated remover other =>
      refine hafter .forgotten ?_ ?_
      · rintro ⟨⟩
        exact hremoves ⟨⟨entry, hfound, hlive⟩, .inl ⟨remover, rfl⟩⟩
      · rintro ⟨other, value, -, hinserts, -⟩
        cases hinserts

/-- A run leaves the entry in memory, unless its time is over or it is removed. -/
theorem run_holds {since : Instant} (hconfig : start.cache.tier1.config = config.tier1)
    (hsince : since ≤ start.now) (hstart : start.Holds config key since)
    (hrun : start.run events = some finish) :
    finish.Holds config key since ∨ since.after config.tier1.ttl < finish.now ∨
      Happens step start events (fun system event => system.Removes key event) := by
  refine (fold_history (fun past system => system.cache.tier1.config = config.tier1 ∧
    since ≤ system.now ∧ (system.Holds config key since ∨
      since.after config.tier1.ttl < system.now ∨
      Happens step start past (fun system event => system.Removes key event)))
    ⟨hconfig, hsince, .inl hstart⟩ ?_ hrun).2.2
  rintro past event system next - hpast ⟨hconfig, hsince, h⟩ hstep
  have htransition := step_transition hstep
  refine ⟨htransition.config_eq.2.trans hconfig, Nat.le_trans hsince htransition.now_le, ?_⟩
  rw [happens_concat hpast hstep]
  rcases h with hholds | hover | hremoved
  · rcases step_holds hconfig hsince hholds hstep with hholds | hover | hremoves
    · exact .inl hholds
    · exact .inr (.inl (Nat.lt_of_lt_of_le hover htransition.now_le))
    · exact .inr (.inr (.inr hremoves))
  · exact .inr (.inl (Nat.lt_of_lt_of_le hover htransition.now_le))
  · exact .inr (.inr (.inl hremoved))

/-- A caller stays where it is as long as no event is its own. -/
theorem run_elsewhere (hother : ∀ event ∈ events, event.caller ≠ some id)
    (hrun : start.run events = some finish) :
    finish.cache.calls.find? id = start.cache.calls.find? id := by
  refine fold_history
    (fun _ system => system.cache.calls.find? id = start.cache.calls.find? id) rfl ?_ hrun
  intro past event system next hwithin _ hsame hstep
  have hmem : event ∈ events :=
    List.IsPrefix.subset hwithin (List.mem_append_right _ List.mem_cons_self)
  exact ((step_transition hstep).find?_of_caller_ne (hother event hmem)).trans hsame

/-- The places from which an event takes its caller further. -/
def Event.departures : Event ν → List Cache.Stage
  | .served _ => [.reading]
  | .answered _ => [.answered]
  | .erased _ => [.erasing]
  | .computed _ _ | .timedOut _ => [.computing]
  | .written _ => [.storing]
  | .resumed _ => [.waiting]
  | .called _ _ | .dropped _ | .elapsed _ | .invalidated _ _ | .deleted _ | .purged => []

/-- A caller that is not given up goes further from such a place only. -/
theorem departure_mem {point : Cache.Point ν}
    (hcall : system.cache.calls.find? id = some ⟨key, point⟩) (hcaller : event.caller = some id)
    (hkept : event ≠ .dropped id) (hstep : system.step event = some next) :
    point.stage ∈ event.departures := by
  cases step_transition hstep with
  | elapsed | invalidated | deleted => cases hcaller
  | served hother | erased hother | written hother =>
      cases hcaller
      cases hcall.symm.trans hother
      exact List.mem_singleton_self _
  | own hown hcache =>
      cases event with
      | called =>
          cases hown
          cases hcaller
          cases hcache with
          | called hfree => cases hcall.symm.trans hfree
      | answered | computed | timedOut =>
          cases hown
          cases hcaller
          cases hcache
          rename_i hother
          cases hcall.symm.trans hother
          exact List.mem_singleton_self _
      | resumed =>
          cases hown
          cases hcaller
          cases hcache with
          | settled hother | promoted hother =>
              cases hcall.symm.trans hother
              exact List.mem_singleton_self _
      | dropped =>
          cases hcaller
          exact absurd rfl hkept
      | elapsed | served | erased | written | invalidated | deleted => cases hown
      | purged => cases hcaller

/-- The next event of a caller that computes is the end of the computation, or the caller is given
up. -/
theorem ending_of_computing {flight : FlightId} {fallback : Option ν} {started : Instant}
    (hcall : system.cache.calls.find? id = some ⟨key, .computing flight fallback started⟩)
    (hcaller : event.caller = some id) (hstep : system.step event = some next) :
    (∃ result, event = .computed id result) ∨ event = .timedOut id ∨ event = .dropped id := by
  by_cases hdropped : event = .dropped id
  · exact .inr (.inr hdropped)
  have hplace := departure_mem hcall hcaller hdropped hstep
  cases event with
  | computed => exact .inl ⟨_, by cases hcaller; rfl⟩
  | timedOut => exact .inr (.inl (by cases hcaller; rfl))
  | _ => simp [Cache.Point.stage, Event.departures] at hplace

/-- The next event of a caller that writes is the answer of the store, or the caller is given up. -/
theorem ending_of_storing {flight : FlightId} {fallback : Option ν} {value : ν} {record : Record}
    (hcall : system.cache.calls.find? id = some ⟨key, .storing flight fallback value record⟩)
    (hcaller : event.caller = some id) (hstep : system.step event = some next) :
    event = .written id ∨ event = .dropped id := by
  by_cases hdropped : event = .dropped id
  · exact .inr hdropped
  have hplace := departure_mem hcall hcaller hdropped hstep
  cases event with
  | written => exact .inl (by cases hcaller; rfl)
  | _ => simp [Cache.Point.stage, Event.departures] at hplace

/-- Whoever begins to compute the value of a key has found nothing in memory. -/
theorem live?_of_starts (hstep : system.step event = some next)
    (hstarts : system.Starts next id key) :
    system.cache.tier1.live? system.now key = none := by
  obtain ⟨⟨flight, fallback, hcall⟩, hnot⟩ := hstarts
  rcases (step_transition hstep).cache_transition with hsame | ⟨own, hcache⟩
  · rw [hsame] at hcall
    exact absurd hcall hnot
  · rcases hcache.arrival hcall with hbefore | harrival
    · exact absurd hbefore hnot
    · exact harrival.computing_from.1

/-- A caller that computes the value of a key keeps others from beginning to. -/
theorem not_starts_of_computing {flight : FlightId} {fallback : Option ν} {started : Instant}
    {other : CallId} (h : Orderly next.cache.traffic)
    (hcall : system.cache.calls.find? id = some ⟨key, .computing flight fallback started⟩)
    (hstep : system.step event = some next) : ¬ system.Starts next other key := by
  rintro ⟨⟨flight', fallback', hother⟩, hnot⟩
  have htransition := step_transition hstep
  have hcaller : event.caller = some other := by
    by_contra hne
    rw [htransition.find?_of_caller_ne hne] at hother
    exact hnot hother
  have hne : other ≠ id := by
    rintro rfl
    exact hnot hcall
  have hstays := (htransition.find?_of_caller_ne
    (show event.caller ≠ some id by rw [hcaller]; exact fun heq => hne (Option.some.inj heq))).trans
      hcall
  exact hne (h.leader_unique (Cache.seat_of_call hother) (Cache.seat_of_call hstays))

/-- A computation can end with any result. -/
theorem step_computed {flight : FlightId} {fallback : Option ν} {started : Instant}
    (hcall : system.cache.calls.find? id = some ⟨key, .computing flight fallback started⟩)
    (result : Except Failure ν) :
    system.step (.computed id result) = some { system with
      cache := system.cache.conclude system.now id key flight fallback started result } := by
  unfold step onCache Cache.step
  dsimp only
  rw [hcall]
  rfl

/-- A value that is computed and is to be kept in memory is found there. -/
theorem found_of_conclude {cache : Cache ν} {now : Instant} {value : ν}
    (hkeeps : cache.config.partialPolicy.keepsInMemory (Payload.isComplete value) = true)
    (flight : FlightId) (fallback : Option ν) (started : Instant) :
    (cache.conclude now id key flight fallback started (.ok value)).tier1.storage.find? key =
      some ⟨value, now, cache.tier1.config.ttl⟩ := by
  rw [Cache.tier1_conclude_ok]
  unfold Cache.keptTier1
  rw [if_pos hkeeps, Tier1.found_inserted]

/-- A value that is computed and is to be kept in memory has an entry there. -/
theorem holds_of_computed {flight : FlightId} {fallback : Option ν} {started : Instant} {value : ν}
    (hcall : system.cache.calls.find? id = some ⟨key, .computing flight fallback started⟩)
    (hconfig : system.cache.tier1.config = config.tier1)
    (hkeeps : system.cache.config.partialPolicy.keepsInMemory (Payload.isComplete value) = true)
    (hstep : system.step (.computed id (.ok value)) = some next) :
    next.Holds config key system.now ∧ next.now = system.now := by
  rw [step_computed hcall] at hstep
  cases hstep
  have hfound : (system.cache.conclude system.now id key flight fallback started
      (.ok value)).tier1.storage.find? key = some ⟨value, system.now, config.tier1.ttl⟩ := by
    rw [found_of_conclude hkeeps, hconfig]
  exact ⟨⟨_, hfound, Nat.le_refl _, rfl⟩, rfl⟩

/-- If a computation has given a value that is to be kept, the key is computed again only when the
entry of the value is gone. -/
theorem reason_of_value {flight : FlightId} {fallback : Option ν} {started : Instant} {value : ν}
    (hcall : system.cache.calls.find? id = some ⟨key, .computing flight fallback started⟩)
    (hconfig : system.cache.config = config ∧ system.cache.tier1.config = config.tier1)
    (hstep : system.step (.computed id (.ok value)) = some next)
    (hrun : next.run events = some finish)
    (hnone : finish.cache.tier1.live? finish.now key = none) :
    Reason config id key system next events finish.now (.computed id (.ok value)) := by
  cases hkeeps : system.cache.config.partialPolicy.keepsInMemory (Payload.isComplete value) with
  | false =>
      obtain ⟨hpartial, hpolicy⟩ := Cache.PartialPolicy.of_not_keeps_in_memory hkeeps
      exact .fleeting hpartial (hconfig.1 ▸ hpolicy)
  | true =>
      obtain ⟨hholds, hnow⟩ := holds_of_computed hcall hconfig.2 hkeeps hstep
      have htier1 := (step_transition hstep).config_eq.2.trans hconfig.2
      rcases run_holds htier1 (Nat.le_of_eq (congrArg _ hnow.symm)) hholds hrun with
        ⟨entry, hfound, hsince, httl⟩ | hover | hremoved
      · have hexpired := Tier1.expired_of_live_eq_none hnone hfound
        exact .expired (httl ▸ CacheEntry.after_lt_of_expired hexpired hsince)
      · exact .expired hover
      · exact .removed hremoved

/-- A key is computed again only for a reason: the computation before failed, took too long or was
given up, its value was not to be kept, or it has left memory. -/
theorem run_one_fetch {store : σ} {now : Instant} {before between : List (Event ν)}
    {event event' : Event ν} {first second third fourth : System σ ν} {id' : CallId}
    (hbefore : (⟨.ofConfig config, store, now, .empty⟩ : System σ ν).run before = some first)
    (hfirst : first.step event = some second) (hstarts : first.Starts second id key)
    (hbetween : second.run between = some third)
    (hlast : third.step event' = some fourth) (hrestarts : third.Starts fourth id' key) :
    ∃ past ending rest system after, between = past ++ ending :: rest ∧
      (∀ event ∈ past, event.caller ≠ some id) ∧ second.run past = some system ∧
      system.step ending = some after ∧
      Reason config id key system after rest third.now ending := by
  have hconfig : ∀ {events system},
      (⟨.ofConfig config, store, now, .empty⟩ : System σ ν).run events = some system →
      system.cache.config = config ∧ system.cache.tier1.config = config.tier1 := by
    intro events system hrun
    refine run_invariant (fun system => system.cache.config = config ∧
      system.cache.tier1.config = config.tier1) ?_ ⟨rfl, rfl⟩ hrun
    intro system event next h hstep
    obtain ⟨hcache, htier1⟩ := (step_transition hstep).config_eq
    exact ⟨hcache.trans h.1, htier1.trans h.2⟩
  have hsecond : (⟨.ofConfig config, store, now, .empty⟩ : System σ ν).run (before ++ [event]) =
      some second := run_concat.2 ⟨first, hbefore, hfirst⟩
  have hthird := fold_append.2 ⟨second, hsecond, hbetween⟩
  obtain ⟨⟨flight, fallback, hcomputing⟩, -⟩ := hstarts
  cases hending : between.find? (·.caller = some id) with
  | none =>
      -- Then the caller would still compute when the other one begins.
      have hother : ∀ event ∈ between, event.caller ≠ some id := by
        intro event hmem
        simpa using List.find?_eq_none.1 hending event hmem
      have hstays := (run_elsewhere hother hbetween).trans hcomputing
      have horderly : Orderly fourth.cache.traffic :=
        run_orderly Cache.Traffic.orderly_empty (fold_concat.2 ⟨third, hthird, hlast⟩)
      exact absurd hrestarts (not_starts_of_computing horderly hstays hlast)
  | some ending =>
      obtain ⟨hcaller, past, rest, hsplit, hpast⟩ := List.find?_eq_some_iff_append.1 hending
      have hother : ∀ event ∈ past, event.caller ≠ some id := by
        intro event hmem
        simpa using hpast event hmem
      subst hsplit
      obtain ⟨system, hsystem, hremaining⟩ := fold_append.1 hbetween
      obtain ⟨after, hafter, hrest⟩ := fold_cons.1 hremaining
      refine ⟨past, ending, rest, system, after, rfl, hother, hsystem, hafter, ?_⟩
      have hstays := (run_elsewhere hother hsystem).trans hcomputing
      rcases ending_of_computing hstays (of_decide_eq_true hcaller) hafter with
        ⟨result, rfl⟩ | rfl | rfl
      · cases result with
        | error failure => exact .failed
        | ok value =>
            exact reason_of_value hstays (hconfig (fold_append.2 ⟨second, hsecond, hsystem⟩)) hafter
              hrest (live?_of_starts hlast hrestarts)
      · exact .timedOut
      · exact .dropped

/-- The first caller is dropped while it writes its value, and five minutes later another one takes
over its flight. -/
def orphanedFlight : List (Event UInt32) :=
  [.computed 0 (.ok 8), .dropped 0, .elapsed (.seconds 301), .called 1 .zeros, .served 1]

/-- There is a reason for the second caller to compute: the first value has expired. -/
theorem run_one_fetch_orphaned : ∃ first second third fourth : System MemoryStore UInt32,
    (⟨.ofConfig {}, {}, ⟨0⟩, .empty⟩ : System MemoryStore UInt32).run
      [.called 0 .zeros, .served 0] = some first ∧
    first.step (.answered 0) = some second ∧ second.run orphanedFlight = some third ∧
    third.step (.answered 1) = some fourth ∧ third.Starts fourth 1 .zeros ∧
    ∃ past ending rest system after, orphanedFlight = past ++ ending :: rest ∧
      (∀ event ∈ past, event.caller ≠ some 0) ∧ second.run past = some system ∧
      system.step ending = some after ∧
      Reason {} 0 .zeros system after rest third.now ending := by
  have hruns : ∃ first second third fourth : System MemoryStore UInt32,
      (⟨.ofConfig {}, {}, ⟨0⟩, .empty⟩ : System MemoryStore UInt32).run
        [.called 0 .zeros, .served 0] = some first ∧
      first.step (.answered 0) = some second ∧ second.run orphanedFlight = some third ∧
      third.step (.answered 1) = some fourth ∧
      first.cache.calls.find? 0 = some ⟨.zeros, .answered (.ok none)⟩ ∧
      second.cache.calls.find? 0 = some ⟨.zeros, .computing 0 none first.now⟩ ∧
      third.cache.calls.find? 1 = some ⟨.zeros, .answered (.ok none)⟩ ∧
      fourth.cache.calls.find? 1 = some ⟨.zeros, .computing 0 none third.now⟩ :=
    ⟨_, _, _, _, rfl, rfl, rfl, rfl, rfl, rfl, rfl, rfl⟩
  obtain ⟨first, second, third, fourth, hbefore, hfirst, hbetween, hlast, hmissed, hcomputing,
    hmissed', hcomputing'⟩ := hruns
  have hstarts : first.Starts second 0 .zeros := by
    refine ⟨⟨0, none, hcomputing⟩, fun hcall => ?_⟩
    cases hmissed.symm.trans hcall
  have hrestarts : third.Starts fourth 1 .zeros := by
    refine ⟨⟨0, none, hcomputing'⟩, fun hcall => ?_⟩
    cases hmissed'.symm.trans hcall
  exact ⟨first, second, third, fourth, hbefore, hfirst, hbetween, hlast, hrestarts,
    run_one_fetch hbefore hfirst hstarts hbetween hlast hrestarts⟩

end System

end GameLibrary
