import GameLibrary.Cache.System
import GameLibrary.Proofs.Cache.Traffic
import GameLibrary.Proofs.Histories
import GameLibrary.Proofs.Store.Codec

/-!
# Steps and runs

`Cache.Transition` states the steps of a cache as rules, and `Cache.step_transition` says that the
cache steps by these rules only; `System.Transition` does the same for a cache over its store. A run
of a cache is a sequence of events, each at its own time; a run of a system is a sequence of events
in which time is one of them. What every step keeps, every run keeps.
-/

namespace GameLibrary

namespace Cache

variable {ν : Type} [Payload ν]

/-- The steps of a cache: for each event the callers that it can happen to, and what it does. -/
inductive Transition (cache : Cache ν) (now : Instant) : Event ν → Cache ν → Prop where
  | called {id key} : cache.calls.find? id = none →
      Transition cache now (.called id key) (cache.enter now id key)
  | served {id key answer} : cache.calls.find? id = some ⟨key, .reading⟩ →
      Transition cache now (.served id answer) (cache.setPoint id key (.answered answer))
  | answered {id key answer} : cache.calls.find? id = some ⟨key, .answered answer⟩ →
      Transition cache now (.answered id) (cache.receive now id key answer)
  | erased {id key} : cache.calls.find? id = some ⟨key, .erasing⟩ →
      Transition cache now (.erased id) ((cache.count .tier2Miss).join now id key none)
  | computed {id key flight fallback started result} :
      cache.calls.find? id = some ⟨key, .computing flight fallback started⟩ →
      Transition cache now (.computed id result)
        (cache.conclude now id key flight fallback started result)
  | timedOut {id key flight fallback started} :
      cache.calls.find? id = some ⟨key, .computing flight fallback started⟩ →
      cache.config.resolveTimeout ≤ now.since started →
      Transition cache now (.timedOut id)
        (cache.conclude now id key flight fallback started
          (.error (.resolveTimeout key.text cache.config.resolveTimeout)))
  | written {id key flight fallback value record} :
      cache.calls.find? id = some ⟨key, .storing flight fallback value record⟩ →
      Transition cache now (.written id (.ok ()))
        (cache.land id key flight fallback (.ok ⟨value, .origin⟩))
  | unwritten {id key flight fallback value record failure} :
      cache.calls.find? id = some ⟨key, .storing flight fallback value record⟩ →
      Transition cache now (.written id (.error failure))
        ((cache.count .tier2Error).land id key flight fallback (.ok ⟨value, .origin⟩))
  | settled {id key flight fallback outcome} :
      cache.calls.find? id = some ⟨key, .waiting flight fallback⟩ →
      (cache.flight flight).outcome = some outcome →
      Transition cache now (.resumed id) (cache.settle id key false fallback outcome)
  | promoted {id key flight fallback} :
      cache.calls.find? id = some ⟨key, .waiting flight fallback⟩ →
      (cache.flight flight).outcome = none → (cache.flight flight).leader = some id →
      Transition cache now (.resumed id) (cache.lead now id key flight fallback)
  | left {id call seat} : cache.calls.find? id = some call → call.seat = some seat →
      Transition cache now (.dropped id)
        (({ cache with calls := cache.calls.erase id } : Cache ν).leave id seat.flight)
  | dropped {id call} : cache.calls.find? id = some call → call.seat = none →
      Transition cache now (.dropped id) { cache with calls := cache.calls.erase id }
  | forgotten {key} :
      Transition cache now (.forgotten key) { cache with tier1 := (cache.tier1.remove key).2 }
  | purged : Transition cache now .purged { cache with tier1 := (cache.tier1.purge now).2 }

/-- A cache steps by its rules only. -/
theorem step_transition {cache next : Cache ν} {now : Instant} {event : Event ν}
    (hstep : cache.step now event = some next) : cache.Transition now event next := by
  unfold step at hstep
  cases event with
  | called id key | served id answer | answered id | erased id | computed id result =>
      dsimp only at hstep
      split at hstep
      · rename_i hcall
        cases hstep
        constructor
        exact hcall
      · cases hstep
  | timedOut id =>
      dsimp only at hstep
      split at hstep
      · rename_i hcall
        split at hstep
        · rename_i hlimit
          cases hstep
          exact .timedOut hcall hlimit
        · cases hstep
      · cases hstep
  | written id answer =>
      dsimp only at hstep
      split at hstep
      · rename_i hcall
        cases hstep
        cases answer with
        | ok => exact .written hcall
        | error failure => exact .unwritten hcall
      · cases hstep
  | resumed id =>
      dsimp only at hstep
      split at hstep
      · rename_i hcall
        split at hstep
        · rename_i hout
          cases hstep
          exact .settled hcall hout
        · rename_i hout
          split at hstep
          · rename_i hleader
            cases hstep
            exact .promoted hcall hout hleader
          · cases hstep
      · cases hstep
  | dropped id =>
      dsimp only at hstep
      split at hstep
      · cases hstep
      · rename_i call hcall
        obtain ⟨key, point⟩ := call
        cases point with
        | waiting | computing | storing =>
            cases hstep
            exact .left hcall rfl
        | reading | answered | erasing | returned =>
            cases hstep
            exact .dropped hcall rfl
  | forgotten key =>
      cases hstep
      exact .forgotten
  | purged =>
      cases hstep
      exact .purged

/-- The cache after a sequence of events, if each of them can happen when its turn comes. -/
def run (cache : Cache ν) (events : List (Instant × Event ν)) : Option (Cache ν) :=
  events.foldlM (fun cache (now, event) => cache.step now event) cache

/-- What every step keeps holds after every run. -/
theorem run_invariant (property : Cache ν → Prop)
    (hstep : ∀ {cache now event next}, property cache → cache.step now event = some next →
      property next)
    {start finish : Cache ν} {events : List (Instant × Event ν)} (hstart : property start)
    (hrun : start.run events = some finish) : property finish :=
  fold_invariant property hstep hstart hrun

end Cache

namespace System

variable {σ ν : Type} [Backend σ] [Payload ν]

/-- The event of the cache that an event is in which neither the store nor an invalidation has a
part. -/
def Event.own : Event ν → Option (Cache.Event ν)
  | .called id key => some (.called id key)
  | .answered id => some (.answered id)
  | .computed id result => some (.computed id result)
  | .timedOut id => some (.timedOut id)
  | .resumed id => some (.resumed id)
  | .dropped id => some (.dropped id)
  | .purged => some .purged
  | .elapsed _ | .served _ | .erased _ | .written _ | .invalidated _ _ | .deleted _ => none

/-- The steps of a system. -/
inductive Transition (system : System σ ν) : Event ν → System σ ν → Prop where
  | elapsed {time} : Transition system (.elapsed time) { system with now := system.now.after time }
  | own {event own cache} : event.own = some own →
      system.cache.Transition system.now own cache → Transition system event { system with cache }
  | served {id key cache} : system.cache.calls.find? id = some ⟨key, .reading⟩ →
      system.cache.Transition system.now (.served id (Backend.get system.store key).1) cache →
      Transition system (.served id)
        { system with cache, store := (Backend.get system.store key).2 }
  | erased {id key cache} : system.cache.calls.find? id = some ⟨key, .erasing⟩ →
      system.cache.Transition system.now (.erased id) cache →
      Transition system (.erased id)
        { system with cache, store := (Backend.delete system.store key).2 }
  | written {id key flight fallback value record cache} :
      system.cache.calls.find? id = some ⟨key, .storing flight fallback value record⟩ →
      system.cache.Transition system.now (.written id (Backend.put system.store record).1) cache →
      Transition system (.written id)
        { system with cache, store := (Backend.put system.store record).2 }
  | invalidated {id key} : system.invalidations.find? id = none →
      Transition system (.invalidated id key) { system with
        cache := { system.cache with tier1 := (system.cache.tier1.remove key).2 }
        invalidations :=
          system.invalidations.insert id (.deleting key (system.cache.tier1.contains key)) }
  | deleted {id key held} : system.invalidations.find? id = some (.deleting key held) →
      Transition system (.deleted id) { system with
        store := (Backend.delete system.store key).2
        invalidations := system.invalidations.insert id
          (.returned (Invalidation.result held (Backend.delete system.store key).1)) }

/-- A system steps by its rules only. -/
theorem step_transition {system next : System σ ν} {event : Event ν}
    (hstep : system.step event = some next) : system.Transition event next := by
  have hon : ∀ {start : System σ ν} {own}, start.onCache own = some next →
      ∃ cache, start.cache.Transition start.now own cache ∧ next = { start with cache } := by
    intro start own hstart
    obtain ⟨cache, hcache, rfl⟩ := Option.map_eq_some_iff.1 hstart
    exact ⟨cache, Cache.step_transition hcache, rfl⟩
  unfold step at hstep
  cases event with
  | elapsed time =>
      cases hstep
      exact .elapsed
  | called | answered | computed | timedOut | resumed | dropped | purged =>
      obtain ⟨cache, hcache, rfl⟩ := hon hstep
      exact .own rfl hcache
  | served id | erased id | written id =>
      dsimp only at hstep
      split at hstep
      · rename_i hcall
        obtain ⟨cache, hcache, rfl⟩ := hon hstep
        constructor
        · exact hcall
        · exact hcache
      · cases hstep
  | invalidated id key =>
      dsimp only at hstep
      split at hstep
      · cases hstep
      · rename_i hfree
        obtain ⟨cache, hcache, rfl⟩ := hon hstep
        cases hcache
        exact .invalidated hfree
  | deleted id =>
      dsimp only at hstep
      split at hstep
      · rename_i hdeleting
        cases hstep
        exact .deleted hdeleting
      · cases hstep

/-- A step of a system is a step of its cache, or leaves the cache as it is. -/
theorem Transition.cache_transition {system next : System σ ν} {event : Event ν}
    (h : system.Transition event next) :
    next.cache = system.cache ∨ ∃ own, system.cache.Transition system.now own next.cache := by
  cases h with
  | elapsed | deleted => exact .inl rfl
  | own _ hcache => exact .inr ⟨_, hcache⟩
  | served _ hcache => exact .inr ⟨_, hcache⟩
  | erased _ hcache => exact .inr ⟨_, hcache⟩
  | written _ hcache => exact .inr ⟨_, hcache⟩
  | invalidated => exact .inr ⟨_, .forgotten⟩

/-- What an event of the system is to its cache. -/
inductive Mirrors (system : System σ ν) : Event ν → Cache.Event ν → Prop where
  | own {event own} : event.own = some own → Mirrors system event own
  | served {id key} : system.cache.calls.find? id = some ⟨key, .reading⟩ →
      Mirrors system (.served id) (.served id (Backend.get system.store key).1)
  | erased {id} : Mirrors system (.erased id) (.erased id)
  | written {id answer} : Mirrors system (.written id) (.written id answer)
  | invalidated {id key} : Mirrors system (.invalidated id key) (.forgotten key)

/-- A step of a system leaves its cache as it is, or is a step of the cache. -/
theorem Transition.mirrored {system next : System σ ν} {event : Event ν}
    (h : system.Transition event next) :
    next.cache = system.cache ∨
      ∃ own, system.Mirrors event own ∧ system.cache.Transition system.now own next.cache := by
  cases h with
  | elapsed | deleted => exact .inl rfl
  | own hown hcache => exact .inr ⟨_, .own hown, hcache⟩
  | served hcall hcache => exact .inr ⟨_, .served hcall, hcache⟩
  | erased _ hcache => exact .inr ⟨_, .erased, hcache⟩
  | written _ hcache => exact .inr ⟨_, .written, hcache⟩
  | invalidated => exact .inr ⟨_, .invalidated, .forgotten⟩

section Mirrors

variable {system : System σ ν} {event : Event ν} {id : CallId}

omit [Payload ν] in
/-- The end of a computation is the same to the cache. -/
theorem Mirrors.of_computed {result : Except Failure ν}
    (h : system.Mirrors event (.computed id result)) : event = .computed id result := by
  cases h with
  | own hown =>
      cases event <;> cases hown
      rfl

omit [Payload ν] in
/-- That an answer reaches its caller is the same to the cache. -/
theorem Mirrors.of_answered (h : system.Mirrors event (.answered id)) : event = .answered id := by
  cases h with
  | own hown =>
      cases event <;> cases hown
      rfl

omit [Payload ν] in
/-- The answer that the cache is served is that of the store for the key of the caller. -/
theorem Mirrors.of_served {answer : ReadAnswer} {key : Key}
    (h : system.Mirrors event (.served id answer))
    (hcall : system.cache.calls.find? id = some ⟨key, .reading⟩) :
    answer = (Backend.get system.store key).1 := by
  cases h with
  | own hown => cases event <;> cases hown
  | served hreading =>
      cases hreading.symm.trans hcall
      rfl

end Mirrors

/-- The system after a sequence of events, if each of them can happen when its turn comes. -/
def run (system : System σ ν) (events : List (Event ν)) : Option (System σ ν) :=
  events.foldlM step system

/-- A run is a run of its first part and then of the rest. -/
theorem run_append (system : System σ ν) (first rest : List (Event ν)) :
    system.run (first ++ rest) = (system.run first).bind (·.run rest) :=
  List.foldlM_append

/-- What every step keeps holds after every run. -/
theorem run_invariant (property : System σ ν → Prop)
    (hstep : ∀ {system event next}, property system → system.step event = some next →
      property next)
    {start finish : System σ ν} {events : List (Event ν)} (hstart : property start)
    (hrun : start.run events = some finish) : property finish :=
  fold_invariant property hstep hstart hrun

/-- A run begins with a step. -/
theorem run_cons {start finish : System σ ν} {event : Event ν} {rest : List (Event ν)} :
    start.run (event :: rest) = some finish ↔
      ∃ middle, start.step event = some middle ∧ middle.run rest = some finish :=
  fold_cons

/-- A run can be taken one event further if the last event can happen. -/
theorem run_concat {start finish : System σ ν} {events : List (Event ν)} {event : Event ν} :
    start.run (events ++ [event]) = some finish ↔
      ∃ middle, start.run events = some middle ∧ middle.step event = some finish :=
  fold_concat

/-- A property of the events so far and the system holds after every run, if it holds at the
beginning and every step of the run keeps it. -/
theorem run_history {start finish : System σ ν} {events : List (Event ν)}
    (property : List (Event ν) → System σ ν → Prop) (hstart : property [] start)
    (hstep : ∀ {past event system next}, past ++ [event] <+: events →
      start.run past = some system → property past system → system.step event = some next →
      property (past ++ [event]) next)
    (hrun : start.run events = some finish) : property events finish :=
  fold_history property hstart hstep hrun

end System

end GameLibrary
