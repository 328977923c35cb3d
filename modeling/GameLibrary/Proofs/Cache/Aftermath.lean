import GameLibrary.Proofs.Cache.Abandoned
import GameLibrary.Proofs.Cache.Bystanders
import GameLibrary.Proofs.Cache.Window
import GameLibrary.Proofs.Store.Lawful

/-!
# What a failed call leaves behind

A call that fails, or returns a value that is not fresh any more, leaves the cache as it was: memory
keeps its entries, except that an expired one of the key goes; the store keeps its records, except
that one of the key beyond its grace period may go; and the key is not registered
(`System.LeftAsItWas`). The call fails exactly if memory and the store have no fresh value, the
computation fails or takes too long, and there is nothing to fall back on (`System.run_failing`).

The call is followed from point to point (`System.Stands`). Up to the end of its computation it
concerns its own key only, and brings nothing into memory (`Cache.Spared`). Since nobody else is
under way, it never waits (`Cache.Alone.leads`).
-/

namespace GameLibrary

/-- The value that a caller falls back on after the look-up. -/
def Durable.Finding.fallback? {ν : Type} : Durable.Finding ν → Option ν
  | .usable (.stale value) => some value
  | .usable (.fresh _) | .usable .missing | .outdated | .failed _ => none

namespace Cache

open Traffic (Orderly)

variable {ν : Type} {start cache next : Cache ν} {now : Instant} {id : CallId} {key : Key}
  {fallback : Option ν}

/-- Every other call is over. -/
def Alone (cache : Cache ν) (id : CallId) : Prop :=
  ∀ other call, other ≠ id → cache.calls.find? other = some call →
    ∃ outcome, call.point = .returned outcome

/-- All that the cache has to do with other keys is as it was, and memory has nothing for this
one. -/
structure Spared (start : Cache ν) (key : Key) (cache : Cache ν) : Prop where
  elsewhere : ∀ {other}, other ≠ key → cache.slice other = start.slice other
  absent : cache.tier1.storage.find? key = none

/-- Where no caller sits on a flight, no flight has a leader. -/
theorem Alone.vacant (h : cache.Alone id) (horderly : Orderly cache.traffic)
    (hseat : cache.traffic.seats id = none) (flight : FlightId) :
    (cache.flight flight).leader = none := by
  refine Option.eq_none_iff_forall_ne_some.2 fun leader hleader => ?_
  obtain ⟨⟨_, point⟩, hcall, hsits⟩ := may_lead_of_leader horderly hleader
  by_cases hid : leader = id
  · cases hid
    have hunseated := (seat_of_call hcall).symm.trans hseat
    simp [hunseated] at hsits
  · obtain ⟨outcome, rfl⟩ := h _ _ hid hcall
    simp [Call.seat] at hsits

section Steps

variable [Payload ν] {event : Event ν}

/-- An event for the key that brings nothing into memory spares everything else. -/
theorem Spared.step (h : start.Spared key cache) (horderly : Orderly cache.traffic)
    (hstep : cache.Transition now event next) (hconcerns : cache.Concerns key event)
    (hnothing : ∀ value, ¬ cache.Inserts now key event value) : start.Spared key next where
  elsewhere hne := (slice_step_elsewhere horderly hne.symm hconcerns
    (fun value hinserts => absurd hinserts (hnothing value)) hstep).trans (h.elsewhere hne)
  absent := by
    refine Option.eq_none_iff_forall_ne_some.2 fun entry hfound => ?_
    rcases hstep.found_from hfound with hbefore | ⟨hinserts, -⟩
    · cases h.absent.symm.trans hbefore
    · exact hnothing _ hinserts

omit [Payload ν] in
/-- A call that finds nothing in memory spares everything else. -/
theorem spared_enter (hfree : cache.calls.find? id = none)
    (hlive : cache.tier1.live? now key = none) : cache.Spared key (cache.enter now id key) where
  elsewhere hne := slice_enter_elsewhere hne.symm (place_of_free hfree) rfl
  absent := by
    rw [tier1_enter, Tier1.find?_get, if_pos rfl]
    exact Option.map_eq_none_iff.1 hlive

/-- Whoever joins a flight while nobody else is under way leads it, and computes if memory has
nothing. -/
theorem Alone.leads (h : cache.Alone id) (hregular : Regular cache)
    (hstep : cache.Transition now event next) (hjoins : cache.Joins now id key fallback event)
    (habsent : cache.tier1.storage.find? key = none) :
    ∃ flight, next.calls.find? id = some ⟨key, .computing flight fallback now⟩ := by
  have hseat : cache.traffic.seats id = none := by
    cases hjoins with
    | stale hcall | missing hcall | failed hcall | erased hcall => exact seat_of_call hcall
  have hbegins : ∃ flight, cache.Begins now id key fallback flight event := by
    cases hreg : cache.registry.find? key with
    | none => exact ⟨_, .opened hjoins hreg⟩
    | some flight => exact ⟨flight, .vacant hjoins hreg (h.vacant hregular.orderly hseat flight)⟩
  obtain ⟨flight, hbegins⟩ := hbegins
  obtain ⟨leading, -, htier1, rfl⟩ := hstep.of_begins hregular hbegins
  refine ⟨flight, ?_⟩
  have hlive : leading.tier1.live? now key = none := by
    unfold Tier1.live?
    rw [htier1, habsent]
    rfl
  rw [calls_lead, Table.find?_insert, if_pos rfl]
  unfold leadPoint
  rw [hlive]

end Steps

end Cache

namespace System

open Cache (Regular)

variable {σ ν : Type} [Backend σ] [Payload ν] {start system next finish : System σ ν}
  {past events : List (Event ν)} {event : Event ν} {id : CallId} {key : Key}

/-- In the course of the call its caller finds this in the answer of the store. -/
def Finds (start : System σ ν) (events : List (Event ν)) (id : CallId) (key : Key)
    (finding : Durable.Finding ν) : Prop :=
  Happens step start events fun system event => event = .answered id ∧
    Durable.finding start.cache.config.durable system.now key (Backend.get start.store key).1 =
      finding

/-- The computation of the call has failed, or has taken too long. -/
def Fails (events : List (Event ν)) (id : CallId) : Prop :=
  (∃ failure, .computed id (.error failure) ∈ events) ∨ .timedOut id ∈ events

/-- An event of the one call, which is not given up, or of the clock. -/
def Event.IsOf (id : CallId) (event : Event ν) : Prop :=
  (∃ time, event = .elapsed time) ∨ event.caller = some id ∧ event ≠ .dropped id

/-- The store after a look-up. -/
def storeAfter (start : System σ ν) (key : Key) : Durable.Finding ν → σ
  | .outdated => (Backend.delete (Backend.get start.store key).2 key).2
  | .usable _ | .failed _ => (Backend.get start.store key).2

/-- Memory had no value, and the computation has not failed so far. -/
structure Missing (start : System σ ν) (past : List (Event ν)) (id : CallId) (key : Key)
    (system : System σ ν) : Prop where
  live : start.cache.tier1.live? start.now key = none
  spared : start.cache.Spared key system.cache
  calm : ¬ Fails past id

/-- Where the caller stands, and what has happened to the system. -/
inductive Stands (start : System σ ν) (past : List (Event ν)) (id : CallId) (key : Key)
    (system : System σ ν) : Cache.Point ν → Prop where
  | memory {value} : start.cache.tier1.live? start.now key = some value →
      Stands start past id key system (.returned (.ok ⟨value, .tier1⟩))
  | reading (hmissing : start.Missing past id key system) (hstore : system.store = start.store)
      (hfinds : ∀ found, ¬ start.Finds past id key found) :
      Stands start past id key system .reading
  | answered (hmissing : start.Missing past id key system)
      (hstore : system.store = (Backend.get start.store key).2)
      (hfinds : ∀ found, ¬ start.Finds past id key found) :
      Stands start past id key system (.answered (Backend.get start.store key).1)
  | fresh {value} (hfinds : start.Finds past id key (.usable (.fresh value))) :
      Stands start past id key system (.returned (.ok ⟨value, .tier2⟩))
  | erasing (hmissing : start.Missing past id key system)
      (hstore : system.store = (Backend.get start.store key).2)
      (hfinds : ∀ found, start.Finds past id key found ↔ found = .outdated) :
      Stands start past id key system .erasing
  | computing {finding flight started} (hmissing : start.Missing past id key system)
      (hstore : system.store = start.storeAfter key finding)
      (hfinds : ∀ found, start.Finds past id key found ↔ found = finding)
      (hstale : ∀ value, finding ≠ .usable (.fresh value)) :
      Stands start past id key system (.computing flight finding.fallback? started)
  | storing {flight fallback value record} (hcalm : ¬ Fails past id) :
      Stands start past id key system (.storing flight fallback value record)
  | origin {value} (hcalm : ¬ Fails past id) :
      Stands start past id key system (.returned (.ok ⟨value, .origin⟩))
  | failed {finding failure} (hlive : start.cache.tier1.live? start.now key = none)
      (hspared : start.cache.Spared key system.cache) (hfails : Fails past id)
      (hstore : system.store = start.storeAfter key finding)
      (hfinds : ∀ found, start.Finds past id key found ↔ found = finding)
      (hstale : ∀ value, finding ≠ .usable (.fresh value))
      (hreg : system.cache.registry.find? key = none) :
      Stands start past id key system (.returned
        (Cache.verdict start.cache.config true finding.fallback? (.error failure)))

/-- Every step leaves the flights as they should be. -/
theorem Transition.regular (h : system.Transition event next) (hregular : Regular system.cache) :
    Regular next.cache := by
  rcases h.cache_transition with hsame | ⟨own, hcache⟩
  · rw [hsame]
    exact hregular
  · exact hcache.regular hregular

section Moments

variable (hpast : start.run past = some system) (hstep : system.step event = some next)
include hpast hstep

theorem finds_concat {found : Durable.Finding ν} : start.Finds (past ++ [event]) id key found ↔
    start.Finds past id key found ∨ event = .answered id ∧
      Durable.finding start.cache.config.durable system.now key (Backend.get start.store key).1 =
        found :=
  happens_concat hpast hstep

/-- What the caller has found changes only when the answer reaches it. -/
theorem finds_same (hother : event ≠ .answered id) (found : Durable.Finding ν) :
    start.Finds (past ++ [event]) id key found ↔ start.Finds past id key found := by
  rw [finds_concat hpast hstep, or_iff_left]
  exact fun h => hother h.1

end Moments

omit [Payload ν] in
/-- With an event that does not end the computation badly nothing fails. -/
theorem not_fails_concat (h : ¬ Fails past id)
    (hcomputed : ∀ failure, event ≠ .computed id (.error failure)) (htimed : event ≠ .timedOut id) :
    ¬ Fails (past ++ [event]) id := by
  rintro (⟨failure, hmem⟩ | hmem)
  · rcases List.mem_append.1 hmem with hbefore | hlast
    · exact h (.inl ⟨failure, hbefore⟩)
    · exact hcomputed failure (List.mem_singleton.1 hlast).symm
  · rcases List.mem_append.1 hmem with hbefore | hlast
    · exact h (.inr hbefore)
    · exact htimed (List.mem_singleton.1 hlast).symm

/-- What is known in the course of a call while nobody else is under way. -/
structure Resolving (start : System σ ν) (past : List (Event ν)) (id : CallId) (key : Key)
    (system : System σ ν) : Prop where
  regular : Regular system.cache
  config_eq : system.cache.config = start.cache.config
  alone : system.cache.Alone id
  stands : ∃ point, system.cache.calls.find? id = some ⟨key, point⟩ ∧
    start.Stands past id key system point

section Steps

variable (h : start.Resolving past id key system) (hpast : start.run past = some system)
include h hpast

/-- A caller that has been served has the answer of the store. -/
theorem Resolving.served (hcall : system.cache.calls.find? id = some ⟨key, .reading⟩)
    (hmissing : start.Missing past id key system) (hstore : system.store = start.store)
    (hfinds : ∀ found, ¬ start.Finds past id key found)
    (hstep : system.step (.served id) = some next) :
    ∃ point, next.cache.calls.find? id = some ⟨key, point⟩ ∧
      start.Stands (past ++ [.served id]) id key next point := by
  cases step_transition hstep with
  | own hown => cases hown
  | served hreading hcache =>
      cases hcall.symm.trans hreading
      rename_i cache
      have hpoint : cache.calls.find? id =
          some ⟨key, .answered (Backend.get start.store key).1⟩ := by
        cases hcache with
        | served hreading' =>
            cases hcall.symm.trans hreading'
            rw [hstore]
            exact (Table.find?_insert ..).trans (if_pos rfl)
      refine ⟨_, hpoint, .answered ⟨hmissing.live,
        hmissing.spared.step h.regular.orderly hcache (.caller rfl hcall) nofun,
        not_fails_concat hmissing.calm nofun nofun⟩ ?_ fun found => ?_⟩
      · dsimp only
        rw [hstore]
      · rw [finds_same hpast hstep nofun]
        exact hfinds found

omit hpast in
/-- A caller that joins a flight computes. -/
theorem Resolving.joins {own : Cache.Event ν} {finding : Durable.Finding ν}
    (hfinds : ∀ found, start.Finds (past ++ [event]) id key found ↔ found = finding)
    (hjoins : system.cache.Joins system.now id key finding.fallback? own)
    (hcache : system.cache.Transition system.now own next.cache)
    (hmissing : start.Missing (past ++ [event]) id key next)
    (habsent : system.cache.tier1.storage.find? key = none)
    (hstore : next.store = start.storeAfter key finding)
    (hstale : ∀ value, finding ≠ .usable (.fresh value)) :
    ∃ point, next.cache.calls.find? id = some ⟨key, point⟩ ∧
      start.Stands (past ++ [event]) id key next point := by
  obtain ⟨flight, hcomputing⟩ := h.alone.leads h.regular hcache hjoins habsent
  exact ⟨_, hcomputing, .computing hmissing hstore hfinds hstale⟩

omit hpast in
/-- An answer without a fresh value brings nothing into memory. -/
theorem Resolving.missing_answered {answer : ReadAnswer} {cache : Cache ν}
    (hcall : system.cache.calls.find? id = some ⟨key, .answered answer⟩)
    (hmissing : start.Missing past id key system)
    (hcache : system.cache.Transition system.now (.answered id) cache)
    (hstale : ∀ value : ν,
      Durable.finding system.cache.config.durable system.now key answer ≠ .usable (.fresh value)) :
    start.Missing (past ++ [.answered id]) id key { system with cache } := by
  refine ⟨hmissing.live, hmissing.spared.step h.regular.orderly hcache (.caller rfl hcall) ?_,
    not_fails_concat hmissing.calm nofun nofun⟩
  intro value hinserts
  cases hinserts with
  | promoted hcall' hfresh =>
      cases hcall.symm.trans hcall'
      exact hstale value hfresh

/-- A caller that has its answer returns a fresh value, has a record removed, or computes. -/
theorem Resolving.answered
    (hcall : system.cache.calls.find? id =
      some ⟨key, .answered (Backend.get start.store key).1⟩)
    (hmissing : start.Missing past id key system)
    (hstore : system.store = (Backend.get start.store key).2)
    (hfinds : ∀ found, ¬ start.Finds past id key found)
    (hstep : system.step (.answered id) = some next) :
    ∃ point, next.cache.calls.find? id = some ⟨key, point⟩ ∧
      start.Stands (past ++ [.answered id]) id key next point := by
  -- What the caller finds is known from now on.
  have hfound : ∀ found, start.Finds (past ++ [.answered id]) id key found ↔
      found = Durable.finding system.cache.config.durable system.now key
        (Backend.get start.store key).1 := by
    intro found
    rw [finds_concat hpast hstep, or_iff_right (hfinds found), and_iff_right rfl, h.config_eq,
      eq_comm]
  cases step_transition hstep with
  | own hown hcache =>
      cases hown
      rename_i cache
      have hpoint : cache.calls.find? id = some ⟨key, system.cache.receivePoint system.now key
          (Backend.get start.store key).1⟩ := by
        cases hcache with
        | answered hcall' =>
            cases hcall.symm.trans hcall'
            rw [Cache.calls_receive, Table.find?_insert, if_pos rfl]
      have hnext := h.missing_answered hcall hmissing hcache
      cases hfinding : (Durable.finding system.cache.config.durable system.now key
          (Backend.get start.store key).1 : Durable.Finding ν) with
      | outdated =>
          rw [hfinding] at hfound hnext
          refine ⟨_, hpoint, ?_⟩
          unfold Cache.receivePoint
          rw [hfinding]
          exact .erasing (hnext nofun) hstore hfound
      | failed failure =>
          rw [hfinding] at hfound hnext
          exact h.joins hfound (.failed hcall hfinding) hcache (hnext nofun) hmissing.spared.absent
            hstore nofun
      | usable lookup =>
          cases lookup with
          | fresh value =>
              refine ⟨_, hpoint, ?_⟩
              unfold Cache.receivePoint
              rw [hfinding]
              exact .fresh ((hfound _).2 hfinding.symm)
          | stale value =>
              rw [hfinding] at hfound hnext
              exact h.joins hfound (.stale hcall hfinding) hcache (hnext nofun)
                hmissing.spared.absent hstore nofun
          | missing =>
              rw [hfinding] at hfound hnext
              exact h.joins hfound (.missing hcall hfinding) hcache (hnext nofun)
                hmissing.spared.absent hstore nofun

/-- A caller for whom a record is removed computes. -/
theorem Resolving.erased (hcall : system.cache.calls.find? id = some ⟨key, .erasing⟩)
    (hmissing : start.Missing past id key system)
    (hstore : system.store = (Backend.get start.store key).2)
    (hfinds : ∀ found, start.Finds past id key found ↔ found = .outdated)
    (hstep : system.step (.erased id) = some next) :
    ∃ point, next.cache.calls.find? id = some ⟨key, point⟩ ∧
      start.Stands (past ++ [.erased id]) id key next point := by
  have hfound : ∀ found, start.Finds (past ++ [.erased id]) id key found ↔ found = .outdated :=
    fun found => (finds_same hpast hstep nofun found).trans (hfinds found)
  cases step_transition hstep with
  | own hown => cases hown
  | erased hcall' hcache =>
      cases hcall.symm.trans hcall'
      have hspared := hmissing.spared.step h.regular.orderly hcache (.caller rfl hcall) nofun
      refine h.joins hfound (.erased hcall) hcache
        ⟨hmissing.live, hspared, not_fails_concat hmissing.calm nofun nofun⟩
        hmissing.spared.absent ?_ nofun
      unfold storeAfter
      dsimp only
      rw [hstore]

/-- A computation that ends badly leaves the key unregistered. -/
theorem Resolving.failed {finding : Durable.Finding ν} {flight : FlightId} {started : Instant}
    {own : Cache.Event ν} {failure : Failure}
    (hends : system.cache.Ends system.now id key finding.fallback? flight own (.error failure))
    (hcall : system.cache.calls.find? id =
      some ⟨key, .computing flight finding.fallback? started⟩)
    (hmissing : start.Missing past id key system)
    (hstore : system.store = start.storeAfter key finding)
    (hfinds : ∀ found, start.Finds past id key found ↔ found = finding)
    (hstale : ∀ value, finding ≠ .usable (.fresh value)) (hfails : Fails (past ++ [event]) id)
    (hnothing : ∀ value, ¬ system.cache.Inserts system.now key own value)
    (hown : event.own = some own) (hanswer : event ≠ .answered id)
    (hstep : system.step event = some next) :
    ∃ point, next.cache.calls.find? id = some ⟨key, point⟩ ∧
      start.Stands (past ++ [event]) id key next point := by
  have hfound := fun found => (finds_same hpast hstep hanswer found).trans (hfinds found)
  cases step_transition hstep with
  | own hown' hcache =>
      cases hown.symm.trans hown'
      obtain ⟨-, -, hreg, hreturned⟩ := hcache.after_end h.regular hends
      rw [h.config_eq] at hreturned
      exact ⟨_, hreturned, .failed hmissing.live (hmissing.spared.step h.regular.orderly hcache
        (.caller hends.caller hcall) hnothing) hfails hstore hfound hstale hreg⟩
  | elapsed | served | erased | written | invalidated | deleted => cases hown

omit h hpast in
/-- A caller whose computation has given a value does not fail any more. -/
theorem Resolving.computed {flight : FlightId} {fallback : Option ν} {started : Instant} {value : ν}
    (hcall : system.cache.calls.find? id = some ⟨key, .computing flight fallback started⟩)
    (hcalm : ¬ Fails past id) (hstep : system.step (.computed id (.ok value)) = some next) :
    ∃ point, next.cache.calls.find? id = some ⟨key, point⟩ ∧
      start.Stands (past ++ [.computed id (.ok value)]) id key next point := by
  rw [step_computed hcall] at hstep
  cases hstep
  have hstill : ¬ Fails (past ++ [.computed id (.ok value)]) id :=
    not_fails_concat hcalm (by rintro failure ⟨⟩) nofun
  refine ⟨system.cache.concludePoint system.now key fallback flight (.ok value), ?_, ?_⟩
  · dsimp only
    rw [Cache.calls_conclude, Table.find?_insert, if_pos rfl]
  · unfold Cache.concludePoint
    dsimp only
    split
    · exact .storing hstill
    · exact .origin hstill

omit hpast in
/-- A caller that has written its value returns it. -/
theorem Resolving.written {flight : FlightId} {fallback : Option ν} {value : ν} {record : Record}
    (hcall : system.cache.calls.find? id = some ⟨key, .storing flight fallback value record⟩)
    (hcalm : ¬ Fails past id) (hstep : system.step (.written id) = some next) :
    ∃ point, next.cache.calls.find? id = some ⟨key, point⟩ ∧
      start.Stands (past ++ [.written id]) id key next point := by
  have hstill : ¬ Fails (past ++ [.written id]) id := not_fails_concat hcalm nofun nofun
  cases step_transition hstep with
  | own hown => cases hown
  | written hcall' hcache =>
      cases hcall.symm.trans hcall'
      obtain ⟨-, -, -, hreturned⟩ := hcache.after_end h.regular (.written hcall)
      exact ⟨_, hreturned, .origin hstill⟩

omit h in
/-- The passing of time changes nothing about the caller. -/
theorem Stands.elapsed {point : Cache.Point ν} {time : Duration}
    (hstands : start.Stands past id key system point)
    (hstep : system.step (.elapsed time) = some next) :
    start.Stands (past ++ [.elapsed time]) id key next point := by
  have hsame : ∀ found, start.Finds (past ++ [.elapsed time]) id key found ↔
      start.Finds past id key found := finds_same hpast hstep nofun
  have hcalm : ¬ Fails past id → ¬ Fails (past ++ [.elapsed time]) id :=
    fun hcalm => not_fails_concat hcalm nofun nofun
  cases hstep
  cases hstands with
  | memory hlive => exact .memory hlive
  | reading hmissing hstore hfinds =>
      exact .reading ⟨hmissing.live, hmissing.spared, hcalm hmissing.calm⟩ hstore
        fun found => fun hfound => hfinds found ((hsame found).1 hfound)
  | answered hmissing hstore hfinds =>
      exact .answered ⟨hmissing.live, hmissing.spared, hcalm hmissing.calm⟩ hstore
        fun found => fun hfound => hfinds found ((hsame found).1 hfound)
  | fresh hfinds => exact .fresh ((hsame _).2 hfinds)
  | erasing hmissing hstore hfinds =>
      exact .erasing ⟨hmissing.live, hmissing.spared, hcalm hmissing.calm⟩ hstore
        fun found => (hsame found).trans (hfinds found)
  | computing hmissing hstore hfinds hstale =>
      exact .computing ⟨hmissing.live, hmissing.spared, hcalm hmissing.calm⟩ hstore
        (fun found => (hsame found).trans (hfinds found)) hstale
  | storing hstill => exact .storing (hcalm hstill)
  | origin hstill => exact .origin (hcalm hstill)
  | failed hlive hspared hfails hstore hfinds hstale hreg =>
      have hfailed : Fails (past ++ [.elapsed time]) id :=
        hfails.imp (fun ⟨failure, hmem⟩ => ⟨failure, List.mem_append_left _ hmem⟩)
          fun hmem => List.mem_append_left _ hmem
      exact .failed hlive hspared hfailed hstore (fun found => (hsame found).trans (hfinds found))
        hstale hreg

/-- Every event of the call takes its caller further. -/
theorem Resolving.turn (hcaller : event.caller = some id) (hkept : event ≠ .dropped id)
    (hstep : system.step event = some next) :
    ∃ point, next.cache.calls.find? id = some ⟨key, point⟩ ∧
      start.Stands (past ++ [event]) id key next point := by
  obtain ⟨point, hcall, hstands⟩ := h.stands
  have hplace := departure_mem hcall hcaller hkept hstep
  cases hstands with
  | reading hmissing hstore hfinds =>
      cases event with
      | served =>
          cases hcaller
          exact h.served hpast hcall hmissing hstore hfinds hstep
      | _ => simp [Cache.Point.stage, Event.departures] at hplace
  | answered hmissing hstore hfinds =>
      cases event with
      | answered =>
          cases hcaller
          exact h.answered hpast hcall hmissing hstore hfinds hstep
      | _ => simp [Cache.Point.stage, Event.departures] at hplace
  | erasing hmissing hstore hfinds =>
      cases event with
      | erased =>
          cases hcaller
          exact h.erased hpast hcall hmissing hstore hfinds hstep
      | _ => simp [Cache.Point.stage, Event.departures] at hplace
  | computing hmissing hstore hfinds hstale =>
      cases event with
      | computed other result =>
          cases hcaller
          cases result with
          | error failure =>
              exact h.failed hpast (.failed hcall) hcall hmissing hstore hfinds hstale
                (.inl ⟨failure, by simp⟩) (by rintro _ ⟨⟩) rfl (by simp) hstep
          | ok value => exact Resolving.computed hcall hmissing.calm hstep
      | timedOut =>
          cases hcaller
          exact h.failed hpast (.late hcall) hcall hmissing hstore hfinds hstale
            (.inr (by simp)) (by rintro _ ⟨⟩) rfl (by simp) hstep
      | _ => simp [Cache.Point.stage, Event.departures] at hplace
  | storing hcalm =>
      cases event with
      | written =>
          cases hcaller
          exact h.written hcall hcalm hstep
      | _ => simp [Cache.Point.stage, Event.departures] at hplace
  | memory | fresh | origin | failed =>
      cases event <;> simp [Cache.Point.stage, Event.departures] at hplace

theorem Resolving.step (hevent : event.IsOf id) (hstep : system.step event = some next) :
    start.Resolving (past ++ [event]) id key next := by
  have htransition := step_transition hstep
  have hothers : ∀ other, other ≠ id → event.caller ≠ some other := by
    intro other hne hcaller
    rcases hevent with ⟨time, rfl⟩ | ⟨hown, -⟩
    · cases hcaller
    · exact hne (Option.some.inj (hcaller.symm.trans hown))
  refine ⟨htransition.regular h.regular, htransition.config_eq.1.trans h.config_eq, ?_, ?_⟩
  · intro other call hne hcall
    rw [htransition.find?_of_caller_ne (hothers other hne)] at hcall
    exact h.alone other call hne hcall
  · rcases hevent with ⟨time, rfl⟩ | ⟨hcaller, hkept⟩
    · obtain ⟨point, hcall, hstands⟩ := h.stands
      refine ⟨point, ?_, hstands.elapsed hpast hstep⟩
      exact (htransition.find?_of_caller_ne nofun).trans hcall
    · exact h.turn hpast hcaller hkept hstep

end Steps

/-- A call begins when every other one is over. -/
theorem resolving_called (hregular : Regular start.cache) (hidle : start.cache.Idle)
    (hstep : start.step (.called id key) = some next) :
    start.Resolving [.called id key] id key next := by
  have htransition := step_transition hstep
  have hnone : ∀ found, ¬ start.Finds [.called id key] id key found := by
    intro found
    have hsame : start.Finds ([] ++ [.called id key]) id key found ↔ start.Finds [] id key found :=
      finds_same rfl hstep nofun found
    exact fun hfound => not_happens_nil (hsame.1 hfound)
  have hcalm : ¬ Fails ([.called id key] : List (Event ν)) id := by
    simp [Fails]
  cases htransition with
  | own hown hcache =>
      cases hown
      have hregular' := hcache.regular hregular
      cases hcache with
      | called hfree =>
          refine ⟨hregular', Cache.config_enter _, fun other call hne hcall => ?_, ?_⟩
          · dsimp only at hcall
            rw [Cache.calls_enter, Table.find?_insert, if_neg hne] at hcall
            exact hidle other call hcall
          · refine ⟨start.cache.enterPoint start.now key, ?_, ?_⟩
            · dsimp only
              rw [Cache.calls_enter, Table.find?_insert, if_pos rfl]
            · unfold Cache.enterPoint
              cases hlive : start.cache.tier1.live? start.now key with
              | some value => exact .memory hlive
              | none => exact .reading ⟨hlive, Cache.spared_enter hfree hlive, hcalm⟩ rfl hnone

/-- What is known in the course of a call is known after it. -/
theorem run_resolving (hregular : Regular start.cache) (hidle : start.cache.Idle)
    (hevents : ∀ event ∈ events, event.IsOf id)
    (hrun : start.run (.called id key :: events) = some finish) :
    start.Resolving (.called id key :: events) id key finish := by
  obtain ⟨begun, hbegun, hrun⟩ := run_cons.1 hrun
  refine run_history (fun past system => start.Resolving (.called id key :: past) id key system)
    (resolving_called hregular hidle hbegun) ?_ hrun
  intro past event system next hearly hpast h hstep
  exact h.step (run_cons.2 ⟨begun, hbegun, hpast⟩) (hevents event (hearly.subset (by simp))) hstep

/-- The answer of the store is this record of the key, and is beyond its grace period when it
reaches the caller. -/
structure Outdates (start : System σ ν) (events : List (Event ν)) (id : CallId) (key : Key)
    (record : Record) : Prop where
  answer : (Backend.get start.store key).1 = .ok (some record)
  key_eq : record.key = key
  past : Happens step start events fun system event => event = .answered id ∧
    record.isPastGrace system.now start.cache.config.durable.grace = true

/-- The call has left everything as it was, but for an entry that has expired and a record that is
beyond its grace period. -/
structure LeftAsItWas (start : System σ ν) (events : List (Event ν)) (id : CallId) (key : Key)
    (finish : System σ ν) : Prop where
  /-- The entries of other keys are in memory as before, -/
  entries : ∀ other, other ≠ key →
    finish.cache.tier1.storage.find? other = start.cache.tier1.storage.find? other
  /-- and one of this key has gone because it had expired. -/
  entry : finish.cache.tier1.storage.find? key = none ∧
    ∀ entry, start.cache.tier1.storage.find? key = some entry → entry.isExpired start.now = true
  /-- The store has been asked for the record, and then at most to remove one that is outdated; -/
  store : finish.store = (Backend.get start.store key).2 ∨
    (∃ record, start.Outdates events id key record) ∧
      finish.store = (Backend.delete (Backend.get start.store key).2 key).2
  /-- if it keeps its word, it holds the same records, except that this one may have gone. -/
  held : ∀ [LawfulBackend σ] (other : Key),
    LawfulBackend.held finish.store other = LawfulBackend.held start.store other ∨
      other = key ∧ LawfulBackend.held finish.store key = none ∧
        ∃ record, LawfulBackend.held start.store key = some record ∧
          start.Outdates events id key record
  /-- The key is not registered, and other keys are as before. -/
  registry : finish.cache.registry.find? key = none
  registered : ∀ other, other ≠ key → (finish.cache.registry.find? other).map finish.cache.flight =
    (start.cache.registry.find? other).map start.cache.flight

/-- What an outdated record is found to be. -/
theorem outdates_of_finds (h : start.Finds events id key .outdated) :
    ∃ record, start.Outdates events id key record := by
  obtain ⟨past, event, rest, system, hevents, hpast, hanswered, hfinding⟩ := h
  obtain ⟨record, hanswer, hkey, hgrace⟩ := Durable.outdated_iff.1 hfinding
  exact ⟨record, hanswer, hkey, past, event, rest, system, hevents, hpast, hanswered, hgrace⟩

/-- What a lawful store holds after a look-up. -/
theorem held_after [LawfulBackend σ] {finding : Durable.Finding ν}
    (hfinds : start.Finds events id key finding) (other : Key) :
    LawfulBackend.held (start.storeAfter key finding) other = LawfulBackend.held start.store other ∨
      other = key ∧ LawfulBackend.held (start.storeAfter key finding) key = none ∧
        ∃ record, LawfulBackend.held start.store key = some record ∧
          start.Outdates events id key record := by
  cases finding with
  | usable lookup => exact .inl (congrFun (LawfulBackend.held_get ..) other)
  | failed failure => exact .inl (congrFun (LawfulBackend.held_get ..) other)
  | outdated =>
      obtain ⟨record, houtdates⟩ := outdates_of_finds hfinds
      have hheld := LawfulBackend.found_held houtdates.answer
      unfold storeAfter
      dsimp only
      cases hdelete : (Backend.delete (Backend.get start.store key).2 key).1 with
      | error failure =>
          rw [LawfulBackend.held_delete_refused hdelete, LawfulBackend.held_get]
          exact .inl rfl
      | ok found =>
          rw [LawfulBackend.held_delete hdelete, LawfulBackend.held_get]
          by_cases hother : other = key
          · exact .inr ⟨hother, Function.update_self .., record, hheld.symm, houtdates⟩
          · exact .inl (Function.update_of_ne hother ..)

/-- Where the caller of a failed call stands tells what the call has left behind. -/
theorem left_as_it_was {finding : Durable.Finding ν}
    (hlive : start.cache.tier1.live? start.now key = none)
    (hspared : start.cache.Spared key finish.cache)
    (hstore : finish.store = start.storeAfter key finding)
    (hfinds : start.Finds events id key finding)
    (hreg : finish.cache.registry.find? key = none) :
    start.LeftAsItWas events id key finish where
  entries other hne := congrArg Cache.Slice.entry (hspared.elsewhere hne)
  entry := ⟨hspared.absent, fun _ hentry => Tier1.expired_of_live_eq_none hlive hentry⟩
  store := by
    cases finding with
    | usable lookup => exact .inl hstore
    | failed failure => exact .inl hstore
    | outdated => exact .inr ⟨outdates_of_finds hfinds, hstore⟩
  held other := by
    rw [hstore]
    exact held_after hfinds other
  registry := hreg
  registered other hne := congrArg Cache.Slice.flight (hspared.elsewhere hne)

omit [Payload ν] in
/-- A caller fails with its flight unless it may and can fall back on something. -/
theorem verdict_error_iff {config : Cache.Config} {finding : Durable.Finding ν}
    {failure : Failure} :
    (∃ own, Cache.verdict config true finding.fallback? (.error failure) = .error own) ↔
      config.servesStale = false ∨ ∀ value, finding ≠ .usable (.stale value) := by
  have hfails : finding.fallback? = none →
      ((∃ own, Cache.verdict config true finding.fallback? (.error failure) = .error own) ↔
        config.servesStale = false ∨ ∀ value, finding ≠ .usable (.stale value)) := by
    intro hnone
    refine iff_of_true ⟨failure, ?_⟩ (.inr ?_)
    · rw [hnone]
      rfl
    · rintro value rfl
      cases hnone
  cases finding with
  | outdated | failed => exact hfails rfl
  | usable lookup =>
      cases lookup with
      | fresh | missing => exact hfails rfl
      | stale value =>
          unfold Cache.verdict Durable.Finding.fallback?
          cases config.servesStale with
          | true =>
              refine iff_of_false nofun ?_
              rintro (hoff | hnot)
              · cases hoff
              · exact hnot value rfl
          | false => exact iff_of_true ⟨failure, rfl⟩ (.inl rfl)

omit [Payload ν] in
/-- What is said of failures and stale values holds where there is neither. -/
theorem aside_of_point {point : Cache.Point ν} {leaves fails : Prop}
    (hnofailure : ∀ failure, point ≠ .returned (.error failure))
    (hnostale : ∀ value, point ≠ .returned (.ok ⟨value, .stale⟩)) (hnot : ¬ fails) :
    ((∃ failure, point = .returned (.error failure)) ∨
        (∃ value, point = .returned (.ok ⟨value, .stale⟩)) → leaves) ∧
      ((∃ failure, point = .returned (.error failure)) ↔ fails) := by
  refine ⟨?_, iff_of_false ?_ hnot⟩
  · rintro (⟨failure, herror⟩ | ⟨value, hvalue⟩)
    · exact absurd herror (hnofailure failure)
    · exact absurd hvalue (hnostale value)
  · rintro ⟨failure, herror⟩
    exact hnofailure failure herror

/-- When nobody else is under way, a call that fails or returns a stale value leaves everything as
it was; and a call fails if and only if memory has no live value, the look-up no fresh one, the
computation fails or takes too long, and the look-up has nothing that may be served stale. -/
theorem run_failing {config : Cache.Config} {store : σ} {now : Instant}
    {before rest : List (Event ν)}
    (hbefore : (⟨.ofConfig config, store, now, .empty⟩ : System σ ν).run before = some start)
    (hidle : start.cache.Idle) (hcalled : events = .called id key :: rest)
    (hrest : ∀ event ∈ rest, event.IsOf id) (hrun : start.run events = some finish) :
    ((∃ failure, finish.cache.outcome? id = some (.error failure)) ∨
        (∃ value, finish.cache.outcome? id = some (.ok ⟨value, .stale⟩)) →
      start.LeftAsItWas events id key finish) ∧
    ((∃ failure, finish.cache.outcome? id = some (.error failure)) ↔
      start.cache.tier1.live? start.now key = none ∧
      (∀ value, ¬ start.Finds events id key (.usable (.fresh value))) ∧
      Fails events id ∧
      (start.cache.config.servesStale = false ∨
        ∀ value, ¬ start.Finds events id key (.usable (.stale value)))) := by
  subst hcalled
  have hregular : Regular start.cache :=
    run_invariant (fun system => Regular system.cache)
      (fun hregular hstep => (step_transition hstep).regular hregular)
      (Cache.regular_of_config config) hbefore
  obtain ⟨-, -, -, point, hcall, hstands⟩ := run_resolving hregular hidle hrest hrun
  have houtcome : ∀ outcome,
      finish.cache.outcome? id = some outcome ↔ point = .returned outcome := by
    intro outcome
    unfold Cache.outcome?
    rw [hcall]
    cases point <;> simp
  simp only [houtcome]
  cases hstands with
  | memory hlive =>
      refine aside_of_point (by simp) (by simp) ?_
      rintro ⟨hnone, -⟩
      cases hlive.symm.trans hnone
  | reading hmissing | answered hmissing | erasing hmissing | computing hmissing =>
      exact aside_of_point (by simp) (by simp) fun h => hmissing.calm h.2.2.1
  | storing hcalm | origin hcalm => exact aside_of_point (by simp) (by simp) fun h => hcalm h.2.2.1
  | fresh hfinds => exact aside_of_point (by simp) (by simp) fun h => h.2.1 _ hfinds
  | @failed finding failure hlive hspared hfails hstore hfinds hstale hreg =>
      refine ⟨fun _ => left_as_it_was hlive hspared hstore ((hfinds _).2 rfl) hreg, ?_⟩
      have hnofresh : ∀ value,
          ¬ start.Finds (.called id key :: rest) id key (.usable (.fresh value)) :=
        fun value hfresh => hstale value ((hfinds _).1 hfresh).symm
      have hfound : ∀ value, start.Finds (.called id key :: rest) id key (.usable (.stale value)) ↔
          finding = .usable (.stale value) := fun value => (hfinds _).trans eq_comm
      rw [and_iff_right hlive, and_iff_right hnofresh, and_iff_right hfails]
      simp only [hfound, Cache.Point.returned.injEq]
      exact verdict_error_iff

section Runs

/-- A value is computed and written, and then nobody asks for it until its record is beyond its
grace period and it has expired in memory. -/
def outlived : List (Event UInt32) :=
  [.called 0 .zeros, .served 0, .answered 0, .computed 0 (.ok 7), .written 0,
    .elapsed (.seconds 301)]

/-- The record is removed for the next caller, and its computation takes too long. -/
def lateAgain : List (Event UInt32) :=
  [.served 1, .answered 1, .erased 1, .elapsed (.seconds 31), .timedOut 1]

theorem run_failing_outlived : ∃ start finish : System MemoryStore UInt32,
    (⟨.ofConfig { durable := ⟨.seconds 10, .zero⟩ }, {}, ⟨0⟩, .empty⟩ :
        System MemoryStore UInt32).run outlived = some start ∧
    start.run (.called 1 .zeros :: lateAgain) = some finish ∧
    (start.store.records.find? .zeros).isSome = true ∧
    finish.store.records.find? .zeros = none ∧
    start.LeftAsItWas (.called 1 .zeros :: lateAgain) 1 .zeros finish ∧
    ∀ value, ¬ start.Finds (.called 1 .zeros :: lateAgain) 1 .zeros (.usable (.stale value)) := by
  have hruns : ∃ start finish : System MemoryStore UInt32,
      (⟨.ofConfig { durable := ⟨.seconds 10, .zero⟩ }, {}, ⟨0⟩, .empty⟩ :
          System MemoryStore UInt32).run outlived = some start ∧
      start.run (.called 1 .zeros :: lateAgain) = some finish ∧
      start.cache.calls.entries = [(0, ⟨.zeros, .returned (.ok ⟨7, .origin⟩)⟩)] ∧
      start.cache.config.servesStale = true ∧
      (start.store.records.find? .zeros).isSome = true ∧
      finish.store.records.find? .zeros = none ∧
      finish.cache.outcome? 1 = some (.error (.resolveTimeout Key.zeros.text (.seconds 30))) :=
    ⟨_, _, rfl, rfl, rfl, rfl, rfl, rfl, rfl⟩
  obtain ⟨start, finish, hpast, hrun, hcalls, hserves, hheld, hgone, houtcome⟩ := hruns
  have hidle : start.cache.Idle := by
    intro id call hcall
    have hentry : (id, call) ∈ start.cache.calls.entries := (Table.find?_eq_some _).1 hcall
    rw [hcalls] at hentry
    cases List.mem_singleton.1 hentry
    exact ⟨_, rfl⟩
  have hcourse : ∀ event ∈ lateAgain, event.IsOf 1 := by
    simp [lateAgain, Event.IsOf, Event.caller]
  obtain ⟨hleaves, hfails⟩ := run_failing hpast hidle rfl hcourse hrun
  refine ⟨start, finish, hpast, hrun, hheld, hgone, hleaves (.inl ⟨_, houtcome⟩), ?_⟩
  obtain ⟨-, -, -, hoff | hnostale⟩ := hfails.1 ⟨_, houtcome⟩
  · cases hserves.symm.trans hoff
  · exact hnostale

end Runs

end System

end GameLibrary
