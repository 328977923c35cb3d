import GameLibrary.Proofs.Cache.Endings
import GameLibrary.Proofs.Cache.Invalidation
import GameLibrary.Proofs.Cache.Memory

/-!
# How old an answer can be

A value that is computed goes into memory and into the store; from the store it comes back into
memory, with a new time to live there. But it never goes back into the store, and the record keeps
the time of the computation. So every value in memory was computed no longer before its insertion
than records are fresh (`Dated`), however often it has been brought back, and this bounds the age of
whatever a call returns: `run_staleness`. The age is that of a computation which gave the value; where
no two computations give the same, it is the one that the value comes from.
-/

namespace GameLibrary

/-- An entry that has not expired was inserted no longer ago than it is to live. -/
theorem CacheEntry.le_after_of_live {ν : Type} {entry : CacheEntry ν} {now : Instant}
    (hlive : entry.isExpired now = false) : now ≤ entry.insertedAt.after entry.ttl := by
  have hage : ¬ entry.ttl.nanoseconds < now.nanoseconds - entry.insertedAt.nanoseconds :=
    of_decide_eq_false hlive
  show now.nanoseconds ≤ entry.insertedAt.nanoseconds + entry.ttl.nanoseconds
  omega

/-- What is live in memory is the value of an entry that has not expired. -/
theorem Tier1.live_entry {κ ν : Type} [DecidableEq κ] {tier : Tier1 κ ν} {now : Instant} {key : κ}
    {value : ν} (hlive : tier.live? now key = some value) :
    ∃ entry, tier.storage.find? key = some entry ∧ entry.isExpired now = false ∧
      entry.value = value := by
  obtain ⟨entry, hentry, hvalue⟩ := Option.map_eq_some_iff.1 hlive
  obtain ⟨hfound, hfresh⟩ := Option.filter_eq_some_iff.1 hentry
  exact ⟨entry, hfound, by simpa using hfresh, hvalue⟩

namespace Cache

variable {ν : Type}

/-- What the caller gives instead of a failure, if it has found anything. -/
def Point.fallback? : Point ν → Option ν
  | .waiting _ fallback | .computing _ fallback _ | .storing _ fallback _ _ => fallback
  | .reading | .answered _ | .erasing | .returned _ => none

variable [Payload ν]

/-- Where a caller has what it returns: from memory, from a fresh record, from its own look-up
earlier in the call, or from a computation that ends only now. -/
inductive Draws (cache : Cache ν) (now : Instant) (id : CallId) (key : Key) (event : Event ν) :
    Resolved ν → Prop where
  | memory {value} : cache.tier1.live? now key = some value →
      Draws cache now id key event ⟨value, .tier1⟩
  | durable {answer value} : cache.calls.find? id = some ⟨key, .answered answer⟩ →
      Durable.finding cache.config.durable now key answer = .usable (.fresh value) →
      Draws cache now id key event ⟨value, .tier2⟩
  | fallback {point value} : cache.calls.find? id = some ⟨key, point⟩ →
      point.fallback? = some value → Draws cache now id key event ⟨value, .stale⟩
  | computed {value source} : source = .origin ∨ source = .coalesced →
      Draws cache now id key event ⟨value, source⟩

variable {cache : Cache ν} {now : Instant} {id : CallId} {key : Key} {event : Event ν}
  {flight : FlightId} {fallback : Option ν} {point : Point ν} {resolved : Resolved ν}

open Traffic (Orderly)

section Draws

theorem draws_of_lead
    (h : cache.leadPoint now key fallback flight = .returned (.ok resolved)) :
    cache.Draws now id key event resolved := by
  unfold leadPoint at h
  split at h
  · cases h
    exact .memory ‹_›
  · cases h

theorem draws_of_join (horderly : Orderly cache.traffic)
    (h : cache.joinPoint now key fallback = .returned (.ok resolved)) :
    cache.Draws now id key event resolved := by
  unfold joinPoint at h
  split at h
  · exact draws_of_lead h
  · rename_i flight hreg
    split at h
    · -- A registered flight has no outcome.
      rename_i hout
      have hopen : (cache.flight flight).outcome = none := (horderly.registered hreg).2
      cases hopen.symm.trans hout
    · exact draws_of_lead h
    · cases h

theorem draws_of_verdict {led : Bool} {outcome : Outcome ν}
    (hcall : cache.calls.find? id = some ⟨key, point⟩) (hpoint : point.fallback? = fallback)
    (hsource : ∀ given, outcome = .ok given → led = false)
    (h : verdict cache.config led fallback outcome = .ok resolved) :
    cache.Draws now id key event resolved := by
  cases outcome with
  | ok given =>
      cases hsource given rfl
      cases h
      exact .computed (.inr rfl)
  | error failure =>
      unfold verdict at h
      dsimp only at h
      split at h
      · cases h
        exact .fallback hcall hpoint
      · cases h

/-- A caller that has just returned a value has it from somewhere. -/
theorem Arrival.draws (horderly : Orderly cache.traffic)
    (h : cache.Arrival now id key event (.returned (.ok resolved))) :
    cache.Draws now id key event resolved := by
  generalize hpoint : (.returned (.ok resolved) : Point ν) = point at h
  cases h with
  | called =>
      unfold enterPoint at hpoint
      split at hpoint
      · cases hpoint
        exact .memory ‹_›
      · cases hpoint
  | served => cases hpoint
  | answered hcall =>
      unfold receivePoint at hpoint
      split at hpoint
      · cases hpoint
        exact .durable hcall ‹_›
      · exact draws_of_join horderly hpoint.symm
      · exact draws_of_join horderly hpoint.symm
      · cases hpoint
      · exact draws_of_join horderly hpoint.symm
  | erased => exact draws_of_join horderly hpoint.symm
  | computed hcall =>
      unfold concludePoint at hpoint
      split at hpoint
      · injection hpoint with hverdict
        exact draws_of_verdict hcall rfl (by rintro given ⟨⟩) hverdict.symm
      · split at hpoint
        · cases hpoint
        · cases hpoint
          exact .computed (.inl rfl)
  | timedOut hcall =>
      injection hpoint with hverdict
      exact draws_of_verdict hcall rfl (by rintro given ⟨⟩) hverdict.symm
  | written =>
      cases hpoint
      exact .computed (.inl rfl)
  | settled hcall =>
      injection hpoint with hverdict
      exact draws_of_verdict hcall rfl (fun _ _ => rfl) hverdict.symm
  | promoted => exact draws_of_lead hpoint.symm

end Draws

/-- A caller that is dropped has no call any more. -/
theorem Transition.not_found_dropped {next : Cache ν}
    (h : cache.Transition now (.dropped id) next) : next.calls.find? id = none := by
  cases h with
  | left => simp
  | dropped => simp

section Fallbacks

omit [Payload ν] in
theorem fallback_of_lead {value : ν}
    (h : (cache.leadPoint now key fallback flight).fallback? = some value) :
    fallback = some value := by
  unfold leadPoint at h
  split at h
  · cases h
  · exact h

omit [Payload ν] in
theorem fallback_of_join {value : ν}
    (h : (cache.joinPoint now key fallback).fallback? = some value) : fallback = some value := by
  unfold joinPoint at h
  split at h
  · exact fallback_of_lead h
  · split at h
    · cases h
    · exact fallback_of_lead h
    · exact h

/-- What a caller falls back on it fell back on before, or it joins a flight with it. -/
theorem Arrival.fallback_from {value : ν} (h : cache.Arrival now id key event point)
    (hfallback : point.fallback? = some value) :
    (∃ before, cache.calls.find? id = some ⟨key, before⟩ ∧ before.fallback? = some value) ∨
    event = .answered id ∧ cache.Joins now id key (some value) (.answered id) := by
  cases h with
  | called =>
      unfold enterPoint at hfallback
      split at hfallback <;> cases hfallback
  | served | written | settled => cases hfallback
  | answered hcall =>
      unfold receivePoint at hfallback
      split at hfallback
      · cases hfallback
      · rename_i hfinding
        cases fallback_of_join hfallback
        exact .inr ⟨rfl, .stale hcall hfinding⟩
      · cases fallback_of_join hfallback
      · cases hfallback
      · cases fallback_of_join hfallback
  | erased => cases fallback_of_join hfallback
  | computed hcall =>
      unfold concludePoint at hfallback
      split at hfallback
      · cases hfallback
      · split at hfallback
        · exact .inl ⟨_, hcall, hfallback⟩
        · cases hfallback
  | timedOut => cases hfallback
  | promoted hcall => exact .inl ⟨_, hcall, fallback_of_lead hfallback⟩

end Fallbacks

end Cache

namespace System

open Cache (Recent)
open Cache.Traffic (Orderly)
open LawfulBackend (held)

variable {σ ν : Type} [Backend σ] [Payload ν]

section Definitions

/-- In the course of the events a computation for the key has ended at the time, with the value. -/
def ComputedAt (start : System σ ν) (events : List (Event ν)) (key : Key) (time : Instant)
    (value : ν) : Prop :=
  Happens step start events fun system event => ∃ id flight fallback started,
    event = .computed id (.ok value) ∧ system.now = time ∧
      system.cache.calls.find? id = some ⟨key, .computing flight fallback started⟩

/-- The value is that of a computation for the key that has ended at the time, or what is read back
where that has been written. -/
def StemsFrom (start : System σ ν) (events : List (Event ν)) (key : Key) (time : Instant) :
    ν → Prop :=
  Recent (ComputedAt start events key time)

/-- In the course of the events, at the time, the call has ended its look-up with the value, which
was not fresh any more. -/
def LookedUp (start : System σ ν) (events : List (Event ν)) (id : CallId) (key : Key)
    (time : Instant) (value : ν) : Prop :=
  ∃ early late system, events = early ++ .answered id :: late ∧ start.run early = some system ∧
    system.now = time ∧ system.cache.Joins time id key (some value) (.answered id) ∧
    .dropped id ∉ late

/-- The value was computed no longer before the instant than records are fresh. -/
def YoungAt (config : Cache.Config) (start : System σ ν) (events : List (Event ν)) (key : Key)
    (value : ν) (instant : Instant) : Prop :=
  ∃ time, StemsFrom start events key time value ∧ instant ≤ time.after config.durable.floor

/-- The value was computed no longer before the call looked it up than records are fresh and can be
fallbacks. -/
def Overdue (config : Cache.Config) (start : System σ ν) (events : List (Event ν)) (id : CallId)
    (key : Key) (value : ν) : Prop :=
  ∃ time lookup, StemsFrom start events key time value ∧
    LookedUp start events id key lookup value ∧
    lookup ≤ (time.after config.durable.floor).after config.durable.grace

/-- The record was made of a computed value, at the end of the computation. -/
def Stamped (config : Cache.Config) (start : System σ ν) (events : List (Event ν))
    (record : Record) : Prop :=
  ∃ time value, record = Durable.record config.durable time record.key value ∧
    ComputedAt start events record.key time value

/-- The age of everything is known: of what memory and the store hold, and of what callers have in
hand. -/
structure Dated [LawfulBackend σ] (config : Cache.Config) (start : System σ ν)
    (events : List (Event ν)) (system : System σ ν) : Prop where
  orderly : Orderly system.cache.traffic
  config_eq : system.cache.config = config
  tier1_config_eq : system.cache.tier1.config = config.tier1
  memory : ∀ {key entry}, system.cache.tier1.storage.find? key = some entry →
    entry.ttl = config.tier1.ttl ∧ YoungAt config start events key entry.value entry.insertedAt
  store : ∀ {key record}, held system.store key = some record →
    Stamped config start events record
  answered : ∀ {id key record},
    system.cache.calls.find? id = some ⟨key, .answered (.ok (some record))⟩ →
    Stamped config start events record
  storing : ∀ {id key flight fallback value record},
    system.cache.calls.find? id = some ⟨key, .storing flight fallback value record⟩ →
    Stamped config start events record
  fallbacks : ∀ {id key point value}, system.cache.calls.find? id = some ⟨key, point⟩ →
    point.fallback? = some value → Overdue config start events id key value

end Definitions

variable {config : Cache.Config} {start system next : System σ ν} {past : List (Event ν)}
  {event : Event ν} {id : CallId} {key : Key} {time : Instant} {value : ν} {record : Record}

section Records

variable {now : Instant} (hstamped : Stamped config start past record) (hkey : record.key = key)
include hstamped hkey

/-- What is read from the record of a computed value stems from its computation. -/
theorem Stamped.stems (hdecode : Payload.decode record.payload = .ok value) :
    ∃ time, record.insertedAt = .ofInstant time ∧ record.ttl ≤ config.durable.floor ∧
      StemsFrom start past key time value := by
  obtain ⟨time, source, hrecord, hcomputed⟩ := hstamped
  rw [hkey] at hrecord hcomputed
  subst hrecord
  exact ⟨time, rfl, Durable.ttl_record_le .., .inr ⟨source, hcomputed, hdecode⟩⟩

/-- A fresh value was computed no longer ago than records are fresh. -/
theorem Stamped.fresh (hfinding : Durable.finding config.durable now key (.ok (some record)) =
      .usable (.fresh value)) : YoungAt config start past key value now := by
  obtain ⟨_, ⟨⟩, -, hdecode⟩ := Durable.usable_from hfinding (.inl rfl)
  obtain ⟨time, hstamp, httl, hstems⟩ := hstamped.stems hkey hdecode
  refine ⟨time, hstems, ?_⟩
  have hexpired := (Durable.age_of_usable hfinding (by rintro ⟨⟩)).2 value rfl
  exact Nat.le_trans (Record.le_after_ttl hstamp hexpired) (Nat.add_le_add_left httl _)

/-- A value that is not fresh any more, and can be a fallback, was computed no longer ago than
records are fresh and can be fallbacks. -/
theorem Stamped.stale (hfinding : Durable.finding config.durable now key (.ok (some record)) =
      .usable (.stale value)) :
    ∃ time, StemsFrom start past key time value ∧
      now ≤ (time.after config.durable.floor).after config.durable.grace := by
  obtain ⟨_, ⟨⟩, -, hdecode⟩ := Durable.usable_from hfinding (.inr rfl)
  obtain ⟨time, hstamp, httl, hstems⟩ := hstamped.stems hkey hdecode
  refine ⟨time, hstems, ?_⟩
  have hgrace := (Durable.age_of_usable hfinding (by rintro ⟨⟩)).1
  exact Nat.le_trans (Record.le_after_grace hstamp hgrace)
    (Nat.add_le_add_right (Nat.add_le_add_left httl _) _)

end Records

section Later

variable (hpast : start.run past = some system) (hstep : system.step event = some next)
include hpast hstep

theorem ComputedAt.later (h : ComputedAt start past key time value) :
    ComputedAt start (past ++ [event]) key time value :=
  (happens_concat hpast hstep).2 (.inl h)

theorem StemsFrom.later (h : StemsFrom start past key time value) :
    StemsFrom start (past ++ [event]) key time value := by
  rcases h with hcomputed | ⟨source, hcomputed, hdecode⟩
  · exact .inl (hcomputed.later hpast hstep)
  · exact .inr ⟨source, hcomputed.later hpast hstep, hdecode⟩

theorem YoungAt.later {instant : Instant} (h : YoungAt config start past key value instant) :
    YoungAt config start (past ++ [event]) key value instant := by
  obtain ⟨time, hstems, hle⟩ := h
  exact ⟨time, hstems.later hpast hstep, hle⟩

theorem Stamped.later (h : Stamped config start past record) :
    Stamped config start (past ++ [event]) record := by
  obtain ⟨time, value, hrecord, hcomputed⟩ := h
  exact ⟨time, value, hrecord, hcomputed.later hpast hstep⟩

theorem Overdue.later (h : Overdue config start past id key value)
    (hkept : event ≠ .dropped id) : Overdue config start (past ++ [event]) id key value := by
  obtain ⟨time, lookup, hstems, ⟨early, late, before, rfl, hearly, hnow, hjoins, hlate⟩, hle⟩ := h
  refine ⟨time, lookup, hstems.later hpast hstep, ⟨early, late ++ [event], before, by simp, hearly,
    hnow, hjoins, ?_⟩, hle⟩
  rw [List.mem_append, List.mem_singleton]
  rintro (hmem | hlast)
  · exact hlate hmem
  · exact hkept hlast.symm

end Later

section Origins

variable (h : system.Transition event next)
include h

/-- A caller that has a call was not dropped just now. -/
theorem Transition.ne_dropped {call : Cache.Call ν}
    (hcall : next.cache.calls.find? id = some call) : event ≠ .dropped id := by
  rintro rfl
  cases h with
  | own hown hcache =>
      cases hown
      cases hcache.not_found_dropped.symm.trans hcall

/-- A caller stands at its point because it stood there already, or it has just come there. -/
theorem Transition.arrival {point : Cache.Point ν}
    (hcall : next.cache.calls.find? id = some ⟨key, point⟩) :
    system.cache.calls.find? id = some ⟨key, point⟩ ∨
      ∃ own, system.Mirrors event own ∧ system.cache.Arrival system.now id key own point := by
  rcases h.mirrored with hcache | ⟨own, hmirrors, hcache⟩
  · rw [hcache] at hcall
    exact .inl hcall
  · exact (hcache.arrival hcall).imp_right fun harrival => ⟨own, hmirrors, harrival⟩

/-- A caller has a record in hand because it had it already, or the store has just given it. -/
theorem Transition.answered_from [LawfulBackend σ]
    (hcall : next.cache.calls.find? id = some ⟨key, .answered (.ok (some record))⟩) :
    system.cache.calls.find? id = some ⟨key, .answered (.ok (some record))⟩ ∨
      held system.store key = some record := by
  refine (h.arrival hcall).imp_right ?_
  rintro ⟨own, hmirrors, harrival⟩
  obtain ⟨rfl, hreading⟩ := harrival.answered_from
  exact (LawfulBackend.found_held (hmirrors.of_served hreading).symm).symm

/-- A caller writes a value because it did so already, or its computation has just given a value that
the policy lets into the store. -/
theorem Transition.storing_from {flight : FlightId} {fallback : Option ν}
    (hcall : next.cache.calls.find? id = some ⟨key, .storing flight fallback value record⟩) :
    system.cache.calls.find? id = some ⟨key, .storing flight fallback value record⟩ ∨
      event = .computed id (.ok value) ∧
      (∃ started,
        system.cache.calls.find? id = some ⟨key, .computing flight fallback started⟩) ∧
      record = Durable.record system.cache.config.durable system.now key value ∧
      system.cache.config.partialPolicy.keepsDurably (Payload.isComplete value) = true := by
  refine (h.arrival hcall).imp_right ?_
  rintro ⟨own, hmirrors, harrival⟩
  have hkeeps := harrival.keeps_durably
  obtain ⟨rfl, hcomputing, hrecord⟩ := harrival.storing_from
  exact ⟨hmirrors.of_computed, hcomputing, hrecord, hkeeps⟩

/-- What memory holds after a step it held before, or the event has brought it. -/
theorem Transition.found_from {entry : CacheEntry ν}
    (hfound : next.cache.tier1.storage.find? key = some entry) :
    system.cache.tier1.storage.find? key = some entry ∨
      ∃ own, system.Mirrors event own ∧ system.cache.Inserts system.now key own entry.value ∧
        entry.insertedAt = system.now ∧ entry.ttl = system.cache.tier1.config.ttl := by
  rcases h.mirrored with hcache | ⟨own, hmirrors, hcache⟩
  · rw [hcache] at hfound
    exact .inl hfound
  · exact (hcache.found_from hfound).imp_right fun hinserts => ⟨own, hmirrors, hinserts⟩

end Origins

section Steps

variable [LawfulBackend σ] (h : Dated config start past system)

include h in
/-- A value with which a call ends its look-up is fresh, or it can be a fallback. -/
theorem Dated.look_up {answer : ReadAnswer}
    (hcall : system.cache.calls.find? id = some ⟨key, .answered answer⟩) :
    (Durable.finding config.durable system.now key answer = .usable (.fresh value) →
      YoungAt config start past key value system.now) ∧
    (Durable.finding config.durable system.now key answer = .usable (.stale value) →
      ∃ time, StemsFrom start past key time value ∧
        system.now ≤ (time.after config.durable.floor).after config.durable.grace) := by
  constructor
  · intro hfinding
    obtain ⟨record, rfl, hkey, -⟩ := Durable.usable_from hfinding (.inl rfl)
    exact (h.answered hcall).fresh hkey hfinding
  · intro hfinding
    obtain ⟨record, rfl, hkey, -⟩ := Durable.usable_from hfinding (.inr rfl)
    exact (h.answered hcall).stale hkey hfinding

variable (hpast : start.run past = some system) (hstep : system.step event = some next)
include hpast hstep

omit [LawfulBackend σ] in
/-- A computation that ends with the last event ends at its time. -/
theorem computed_last {flight : FlightId} {fallback : Option ν} {started : Instant}
    (hevent : event = .computed id (.ok value))
    (hcall : system.cache.calls.find? id = some ⟨key, .computing flight fallback started⟩) :
    ComputedAt start (past ++ [event]) key system.now value :=
  (happens_concat hpast hstep).2 (.inr ⟨id, flight, fallback, started, hevent, rfl, hcall⟩)

include h

/-- Every step leaves everything with a known age. -/
theorem Dated.step : Dated config start (past ++ [event]) next := by
  have htransition := step_transition hstep
  constructor
  case orderly =>
    rcases htransition.cache_transition with hcache | ⟨own, hcache⟩
    · rw [hcache]
      exact h.orderly
    · exact hcache.orderly h.orderly
  case config_eq =>
    rcases htransition.cache_transition with hcache | ⟨own, hcache⟩
    · rw [hcache]
      exact h.config_eq
    · exact hcache.config_eq.trans h.config_eq
  case tier1_config_eq =>
    rcases htransition.cache_transition with hcache | ⟨own, hcache⟩
    · rw [hcache]
      exact h.tier1_config_eq
    · exact hcache.tier1_config_eq.trans h.tier1_config_eq
  case memory =>
    intro key entry hfound
    rcases htransition.found_from hfound with hbefore | ⟨own, hmirrors, hinserts, htime, httl⟩
    · obtain ⟨httl, hyoung⟩ := h.memory hbefore
      exact ⟨httl, hyoung.later hpast hstep⟩
    · rw [httl, htime, h.tier1_config_eq]
      refine ⟨rfl, ?_⟩
      generalize entry.value = value at hinserts
      cases hinserts with
      | promoted hcall hfinding =>
          rw [h.config_eq] at hfinding
          exact ((h.look_up hcall).1 hfinding).later hpast hstep
      | computed hcall =>
          refine ⟨_, .inl (computed_last hpast hstep hmirrors.of_computed hcall), ?_⟩
          exact Nat.le_add_right ..
  case store =>
    intro key record hheld
    rcases htransition.held_from hheld with hbefore | ⟨-, _, _, _, _, _, hcall⟩
    · exact (h.store hbefore).later hpast hstep
    · exact (h.storing hcall).later hpast hstep
  case answered =>
    intro id key record hcall
    rcases htransition.answered_from hcall with hbefore | hheld
    · exact (h.answered hbefore).later hpast hstep
    · exact (h.store hheld).later hpast hstep
  case storing =>
    intro id key flight fallback value record hcall
    rcases htransition.storing_from hcall with hbefore | ⟨hevent, ⟨_, hcomputing⟩, rfl, -⟩
    · exact (h.storing hbefore).later hpast hstep
    · rw [h.config_eq]
      exact ⟨_, value, rfl, computed_last hpast hstep hevent hcomputing⟩
  case fallbacks =>
    intro id key point value hcall hfallback
    have hkept := htransition.ne_dropped hcall
    rcases htransition.arrival hcall with hbefore | ⟨own, hmirrors, harrival⟩
    · exact (h.fallbacks hbefore hfallback).later hpast hstep hkept
    · rcases harrival.fallback_from hfallback with ⟨before, hbefore, hsame⟩ | ⟨rfl, hjoins⟩
      · exact (h.fallbacks hbefore hsame).later hpast hstep hkept
      · cases hmirrors.of_answered
        cases hjoins with
        | stale hanswered hfinding =>
            have hfinding' := hfinding
            rw [h.config_eq] at hfinding'
            obtain ⟨time, hstems, hle⟩ := (h.look_up hanswered).2 hfinding'
            exact ⟨time, _, hstems.later hpast hstep,
              ⟨past, [], system, rfl, hpast, rfl, .stale hanswered hfinding, List.not_mem_nil⟩, hle⟩

end Steps

section Runs

variable [LawfulBackend σ] {store : σ} {now : Instant} {events : List (Event ν)}
  {resolved : Cache.Resolved ν}

/-- After a run from an empty store the age of everything is known. -/
theorem run_dated (hempty : ∀ key, held store key = none)
    (hrun : (⟨.ofConfig config, store, now, .empty⟩ : System σ ν).run events = some system) :
    Dated config ⟨.ofConfig config, store, now, .empty⟩ events system := by
  refine run_history (Dated config ⟨.ofConfig config, store, now, .empty⟩) ?_ ?_ hrun
  · constructor
    case orderly => exact Cache.Traffic.orderly_empty
    case config_eq => rfl
    case tier1_config_eq => rfl
    case memory =>
      intro key entry hfound
      cases (Cache.not_found_of_config config key).symm.trans hfound
    case store =>
      intro key record hheld
      cases (hempty key).symm.trans hheld
    case answered =>
      rintro _ _ _ ⟨⟩
    case storing =>
      rintro _ _ _ _ _ _ ⟨⟩
    case fallbacks =>
      rintro _ _ _ _ ⟨⟩
  · intro past event system next _ hpast h hstep
    exact h.step hpast hstep

/-- A value that a call returns from memory or from a fresh record was computed no longer ago than
records are fresh and values stay in memory. A value that a call returns because the computation has
failed was computed no longer before the end of its look-up than records are fresh and can be
fallbacks. -/
theorem run_staleness (hempty : ∀ key, held store key = none)
    (hrun : (⟨.ofConfig config, store, now, .empty⟩ : System σ ν).run events = some system)
    (hstep : system.step event = some next) (hopen : system.cache.outcome? id = none)
    (hreturned : next.cache.calls.find? id = some ⟨key, .returned (.ok resolved)⟩) :
    (resolved.source = .tier1 ∨ resolved.source = .tier2 →
      ∃ time, StemsFrom ⟨.ofConfig config, store, now, .empty⟩ (events ++ [event]) key time
          resolved.value ∧
        system.now ≤ (time.after config.durable.floor).after config.tier1.ttl) ∧
    (resolved.source = .stale →
      ∃ time lookup, StemsFrom ⟨.ofConfig config, store, now, .empty⟩ (events ++ [event]) key time
          resolved.value ∧
        LookedUp ⟨.ofConfig config, store, now, .empty⟩ (events ++ [event]) id key lookup
          resolved.value ∧
        lookup ≤ (time.after config.durable.floor).after config.durable.grace) := by
  have h := run_dated hempty hrun
  have htransition := step_transition hstep
  have hkept := htransition.ne_dropped hreturned
  rcases htransition.arrival hreturned with hbefore | ⟨own, hmirrors, harrival⟩
  · unfold Cache.outcome? at hopen
    rw [hbefore] at hopen
    cases hopen
  have hdraws := harrival.draws h.orderly
  cases hdraws with
  | memory hlive =>
      obtain ⟨entry, hfound, hfresh, rfl⟩ := Tier1.live_entry hlive
      obtain ⟨httl, time, hstems, hyoung⟩ := h.memory hfound
      refine ⟨fun _ => ⟨time, hstems.later hrun hstep, ?_⟩, by rintro ⟨⟩⟩
      rw [← httl]
      exact Nat.le_trans (CacheEntry.le_after_of_live hfresh) (Nat.add_le_add_right hyoung _)
  | durable hcall hfinding =>
      rw [h.config_eq] at hfinding
      obtain ⟨time, hstems, hyoung⟩ := (h.look_up hcall).1 hfinding
      refine ⟨fun _ => ⟨time, hstems.later hrun hstep, ?_⟩, by rintro ⟨⟩⟩
      exact Nat.le_trans hyoung (Nat.le_add_right ..)
  | fallback hcall hfallback =>
      refine ⟨by rintro (⟨⟨⟩⟩ | ⟨⟨⟩⟩), fun _ => ?_⟩
      exact (h.fallbacks hcall hfallback).later hrun hstep hkept
  | computed hsource =>
      rcases hsource with rfl | rfl
      · exact ⟨by rintro (⟨⟨⟩⟩ | ⟨⟨⟩⟩), by rintro ⟨⟩⟩
      · exact ⟨by rintro (⟨⟨⟩⟩ | ⟨⟨⟩⟩), by rintro ⟨⟩⟩

/-- A value is computed, brought back from the store after it has expired in memory, and called for
once more. -/
def broughtBack : List (Event UInt32) :=
  [.called 0 .zeros, .served 0, .answered 0, .computed 0 (.ok 8), .written 0, .elapsed (.seconds 400),
    .called 1 .zeros, .served 1, .answered 1, .elapsed (.seconds 200)]

/-- The last caller gets the value from memory, ten minutes after the computation. -/
theorem run_staleness_brought_back : ∃ system next : System MemoryStore UInt32,
    emptySystem.run broughtBack = some system ∧ system.step (.called 2 .zeros) = some next ∧
    next.cache.calls.find? 2 = some ⟨.zeros, .returned (.ok ⟨8, .tier1⟩)⟩ ∧
    system.now = ⟨600000000000⟩ ∧
    ∃ time, StemsFrom emptySystem (broughtBack ++ [.called 2 .zeros]) .zeros time 8 ∧
      system.now ≤ (time.after (.seconds 86400)).after (.seconds 300) := by
  have hruns : ∃ system next : System MemoryStore UInt32,
      emptySystem.run broughtBack = some system ∧ system.step (.called 2 .zeros) = some next ∧
      system.cache.outcome? 2 = none ∧
      next.cache.calls.find? 2 = some ⟨.zeros, .returned (.ok ⟨8, .tier1⟩)⟩ ∧
      system.now = ⟨600000000000⟩ := ⟨_, _, rfl, rfl, rfl, rfl, rfl⟩
  obtain ⟨system, next, hrun, hstep, hopen, hreturned, hnow⟩ := hruns
  have hempty : ∀ key, held ({} : MemoryStore) key = none := fun _ => rfl
  exact ⟨system, next, hrun, hstep, hreturned, hnow,
    (run_staleness hempty hrun hstep hopen hreturned).1 (.inl rfl)⟩

end Runs

end System

end GameLibrary
