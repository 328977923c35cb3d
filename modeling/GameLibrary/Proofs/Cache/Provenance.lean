import GameLibrary.Proofs.Cache.Sharing

/-!
# Answers of a store that cannot be trusted

The store may fail at any time, and may answer a read with any record: one of another key, one that
cannot be read, one of any age. A call never fails for that, only for a computation that it has led
or has waited for (`Visit.Blamed`). And whatever a call returns was in memory under its key from the
beginning, has been computed for its key, or is written in a record of its key (`Traced`).
`run_faults_hidden` says so for every run from every content of memory.
-/

namespace GameLibrary.Cache

variable {ν : Type} [Payload ν]

section Definitions

/-- In the course of the events a computation for the key has given the value. -/
def Computes (start : Cache ν) (events : List (Instant × Event ν)) (key : Key) (value : ν) : Prop :=
  start.Meets events fun cache _ event => ∃ id flight fallback started,
    event = .computed id (.ok value) ∧
      cache.calls.find? id = some ⟨key, .computing flight fallback started⟩

/-- In the course of the events the store has served the record to a caller for the key. -/
def Serves (start : Cache ν) (events : List (Instant × Event ν)) (key : Key) (record : Record) :
    Prop :=
  start.Meets events fun cache _ event => ∃ id,
    event = .served id (.ok (some record)) ∧ cache.calls.find? id = some ⟨key, .reading⟩

/-- The value belongs to the key: memory had it under the key at the start, it has been computed for
the key since, or it is the payload of a record of the key that the store has served. -/
inductive Traced (start : Cache ν) (events : List (Instant × Event ν)) (key : Key) : ν → Prop where
  | memory {entry} : start.tier1.storage.find? key = some entry →
      Traced start events key entry.value
  | computed {value} : start.Computes events key value → Traced start events key value
  | record {record value} : start.Serves events key record → record.key = key →
      Payload.decode record.payload = .ok value → Traced start events key value

/-- With this event the computation of a caller that leads a flight fails or takes too long. -/
inductive Fails (cache : Cache ν) (now : Instant) (id : CallId) (key : Key) (flight : FlightId) :
    Event ν → Failure → Prop where
  | failed {fallback started failure} :
      cache.calls.find? id = some ⟨key, .computing flight fallback started⟩ →
      Fails cache now id key flight (.computed id (.error failure)) failure
  | late {fallback started} :
      cache.calls.find? id = some ⟨key, .computing flight fallback started⟩ →
      cache.config.resolveTimeout ≤ now.since started →
      Fails cache now id key flight (.timedOut id)
        (.resolveTimeout key.text cache.config.resolveTimeout)

/-- The failure that a call returns is that of a computation: its caller's own, or by its message
that of another caller for the same key, while the caller waited for it. -/
inductive Visit.Blamed (visit : Visit ν) (events : List (Instant × Event ν)) : Failure → Prop where
  | own {flight failure} : visit.start.Meets events (fun cache now event =>
        cache.Fails now visit.id visit.key flight event failure) →
      Blamed visit events failure
  | shared {flight fallback leader failure} : leader ≠ visit.id →
      visit.start.Meets events (fun cache now event =>
        cache.calls.find? visit.id = some ⟨visit.key, .waiting flight fallback⟩ ∧
          cache.Fails now leader visit.key flight event failure) →
      Blamed visit events (.coalesced failure.message)

/-- What memory holds, what callers have in hand and what they write belongs to its key. -/
structure Sourced (start : Cache ν) (events : List (Instant × Event ν)) (cache : Cache ν) :
    Prop where
  memory : ∀ {key entry}, cache.tier1.storage.find? key = some entry →
    Traced start events key entry.value
  answered : ∀ {id key record}, cache.calls.find? id = some ⟨key, .answered (.ok (some record))⟩ →
    start.Serves events key record
  storing : ∀ {id key flight fallback value record},
    cache.calls.find? id = some ⟨key, .storing flight fallback value record⟩ →
    start.Computes events key value

end Definitions

variable {start cache next finish : Cache ν} {past rest : List (Instant × Event ν)} {now : Instant}
  {event : Event ν} {key : Key} {value : ν} {record : Record}

/-- What was the case in the first part of a run was the case in the run. -/
theorem Meets.append {described : Cache ν → Instant → Event ν → Prop}
    (h : start.Meets past described) (hpast : start.run past = some cache) :
    start.Meets (past ++ rest) described :=
  (happens_append hpast).2 (.inl h)

/-- What belonged to the key in the first part of a run belongs to it in the run. -/
theorem Traced.append (h : Traced start past key value) (hpast : start.run past = some cache) :
    Traced start (past ++ rest) key value := by
  cases h with
  | memory hfound => exact .memory hfound
  | computed hcomputes => exact .computed (Meets.append hcomputes hpast)
  | record hserves hkey hdecode => exact .record (Meets.append hserves hpast) hkey hdecode

section Steps

variable (h : Sourced start past cache) (hpast : start.run past = some cache)
include h

/-- A fresh value, and one that is not fresh any more, is read from a record of the key. -/
theorem Sourced.read {id : CallId} {answer : ReadAnswer} {lookup : Durable.Lookup ν}
    (hcall : cache.calls.find? id = some ⟨key, .answered answer⟩)
    (hfinding : Durable.finding cache.config.durable now key answer = .usable lookup)
    (hvalue : lookup = .fresh value ∨ lookup = .stale value) : Traced start past key value := by
  obtain ⟨record, rfl, hkey, hdecode⟩ := Durable.usable_from hfinding hvalue
  exact .record (h.answered hcall) hkey hdecode

/-- What is live in memory belongs to its key. -/
theorem Sourced.live (hlive : cache.tier1.live? now key = some value) :
    Traced start past key value := by
  obtain ⟨entry, hfound, rfl⟩ := Tier1.entry_of_live hlive
  exact h.memory hfound

/-- What a caller falls back on belongs to its key. -/
theorem Sourced.joins {id : CallId} (hjoins : cache.Joins now id key (some value) event) :
    Traced start past key value := by
  cases hjoins with
  | stale hcall hfinding => exact h.read hcall hfinding (.inr rfl)

/-- The value with which a flight ends belongs to the key of its leader. -/
theorem Sourced.ends {id : CallId} {fallback : Option ν} {flight : FlightId}
    {resolved : Resolved ν} (hpast : start.run past = some cache)
    (hstep : cache.step now event = some next)
    (hends : cache.Ends now id key fallback flight event (.ok resolved)) :
    Traced start (past ++ [(now, event)]) key resolved.value := by
  cases hends with
  | found _ hlive => exact (h.live hlive).append hpast
  | unwritten hcall _ => exact .computed (meets_last hpast hstep ⟨_, _, _, _, rfl, hcall⟩)
  | written hcall => exact (Traced.computed (h.storing hcall)).append hpast

/-- Every step leaves everything with its key. -/
theorem Sourced.step (hpast : start.run past = some cache)
    (hstep : cache.step now event = some next) :
    Sourced start (past ++ [(now, event)]) next := by
  have htransition := step_transition hstep
  constructor
  case memory =>
    intro key entry hfound
    rcases htransition.memory_from hfound with hbefore | hbrings
    · exact (h.memory hbefore).append hpast
    · generalize entry.value = value at hbrings
      cases hbrings with
      | promoted hcall hkey hdecode =>
          exact (Traced.record (h.answered hcall) hkey hdecode).append hpast
      | computed hcall => exact .computed (meets_last hpast hstep ⟨_, _, _, _, rfl, hcall⟩)
  case answered =>
    intro id key record hcall
    rcases htransition.arrival hcall with hbefore | harrival
    · exact (h.answered hbefore).append hpast
    · obtain ⟨rfl, hreading⟩ := harrival.answered_from
      exact meets_last hpast hstep ⟨_, rfl, hreading⟩
  case storing =>
    intro id key flight fallback value record hcall
    rcases htransition.arrival hcall with hbefore | harrival
    · exact (h.storing hbefore).append hpast
    · obtain ⟨rfl, ⟨started, hcomputing⟩, -⟩ := harrival.storing_from
      exact meets_last hpast hstep ⟨_, _, _, _, rfl, hcomputing⟩

end Steps

/-- The cache with some content of memory, before any call. -/
def ofMemory (config : Config) (tier1 : Tier1 Key ν) : Cache ν :=
  { (ofConfig config : Cache ν) with tier1 }

variable {config : Config} {tier1 : Tier1 Key ν}

omit [Payload ν] in
/-- Before any call the flights are as they should be, whatever memory holds. -/
theorem regular_of_memory (config : Config) (tier1 : Tier1 Key ν) :
    Regular (ofMemory config tier1) where
  orderly := Traffic.orderly_empty
  numbered _ := rfl

/-- Every run leaves everything with its key. -/
theorem run_sourced (hrun : (ofMemory config tier1).run past = some cache) :
    Sourced (ofMemory config tier1) past cache := by
  refine fold_history (Sourced (ofMemory config tier1)) ⟨.memory, by rintro _ _ _ ⟨⟩,
    by rintro _ _ _ _ _ _ ⟨⟩⟩ ?_ hrun
  rintro past ⟨now, event⟩ cache next - hpast h hstep
  exact h.step hpast hstep

section Calls

variable {before : Cache ν} {id : CallId} {called : Instant}
  (hpast : (ofMemory config tier1).run past = some before)
  (hcalled : before.step called (.called id key) = some start)
  (hrest : start.run rest = some finish)
include hpast hcalled hrest

/-- What is described at a moment of the call is described of a moment of the run up to it. -/
theorem Meets.moment {described : Cache ν → Instant → Event ν → Prop}
    (h : start.Meets rest described) : ∃ first second cache next now event,
      rest = first ++ (now, event) :: second ∧ start.run first = some cache ∧
      (ofMemory config tier1).run (past ++ (called, .called id key) :: first) = some cache ∧
      cache.step now event = some next ∧ described cache now event := by
  obtain ⟨first, ⟨now, event⟩, second, cache, rfl, hfirst, hdescribed⟩ := h
  obtain ⟨middle, hmiddle, hsecond⟩ := fold_append.1 hrest
  cases hfirst.symm.trans hmiddle
  obtain ⟨next, hstep, -⟩ := fold_cons.1 hsecond
  exact ⟨first, second, cache, next, now, event, rfl, hfirst,
    fold_append.2 ⟨before, hpast, fold_cons.2 ⟨start, hcalled, hfirst⟩⟩, hstep, hdescribed⟩

/-- What belonged to the key at a moment of the call, or after the event there, belongs to it in
the end. -/
theorem traced_of_meets {described : Cache ν → Instant → Event ν → Prop}
    (h : start.Meets rest described)
    (htraced : ∀ {past cache next now event},
      (ofMemory config tier1).run past = some cache → Sourced (ofMemory config tier1) past cache →
      cache.step now event = some next → described cache now event →
      Traced (ofMemory config tier1) (past ++ [(now, event)]) key value) :
    Traced (ofMemory config tier1) (past ++ (called, .called id key) :: rest) key value := by
  obtain ⟨first, second, cache, next, now, event, rfl, -, hmoment, hstep, hdescribed⟩ :=
    Meets.moment hpast hcalled hrest h
  have hlast := htraced hmoment (run_sourced hmoment) hstep hdescribed
  have hsplit : past ++ (called, .called id key) :: (first ++ (now, event) :: second) =
      (past ++ (called, .called id key) :: first ++ [(now, event)]) ++ second := by simp
  rw [hsplit]
  exact hlast.append (fold_concat.2 ⟨cache, hmoment, hstep⟩)

/-- Whatever a call is told of the end of a flight belongs to its key, if it is a value. -/
theorem traced_of_told {led : Bool} {leader : CallId} {flight : FlightId} {fallback : Option ν}
    {fallback' : Option ν} {outcome : Outcome ν} {resolved : Resolved ν}
    (hjoined : Visit.Joined ⟨id, key, called, before, start⟩ rest fallback)
    (hended : start.Meets rest fun cache now event =>
      cache.Ends now leader key fallback' flight event outcome)
    (htold : Told before.config led fallback outcome (.ok resolved)) :
    Traced (ofMemory config tier1) (past ++ (called, .called id key) :: rest) key
      resolved.value := by
  have htraced : ∀ resolved, outcome = .ok resolved → Traced (ofMemory config tier1)
      (past ++ (called, .called id key) :: rest) key resolved.value := by
    rintro resolved rfl
    exact traced_of_meets hpast hcalled hrest hended
      fun hrun h hstep hends => h.ends hrun hstep hends
  cases htold with
  | value => exact htraced _ rfl
  | @sharedValue shared => exact htraced shared rfl
  | stale hfallback _ =>
      subst hfallback
      exact traced_of_meets hpast hcalled hrest hjoined
        fun hrun h _ hjoins => (h.joins hjoins).append hrun

/-- A flight ends with a failure only if the computation of its leader does. -/
theorem fails_of_ends {leader : CallId} {flight : FlightId} {fallback : Option ν}
    {failure : Failure} (described : Cache ν → Instant → Event ν → Prop)
    (h : start.Meets rest fun cache now event => described cache now event ∧
      cache.Ends now leader key fallback flight event (.error failure)) :
    start.Meets rest fun cache now event => described cache now event ∧
      cache.Fails now leader key flight event failure := by
  obtain ⟨first, second, cache, next, now, event, rfl, hfirst, -, hstep, hdescribed, hends⟩ :=
    Meets.moment hpast hcalled hrest h
  refine ⟨first, (now, event), second, cache, rfl, hfirst, hdescribed, ?_⟩
  cases hends with
  | failed hcall => exact .failed hcall
  | late hcall =>
      cases step_transition hstep with
      | timedOut hcall' hlimit =>
          cases hcall.symm.trans hcall'
          exact .late hcall hlimit

end Calls

/-- Whatever the store answers, a call returns a failure only if a computation failed that it has led
or has waited for, and a value only if it belongs to the key of the call. -/
theorem run_faults_hidden {before : Cache ν} {id : CallId} {called : Instant}
    {outcome : Outcome ν} (hpast : (ofMemory config tier1).run past = some before)
    (hcalled : before.step called (.called id key) = some start)
    (hrest : start.run rest = some finish) (hkept : ∀ later, (later, .dropped id) ∉ rest)
    (houtcome : finish.outcome? id = some outcome) :
    (∀ resolved, outcome = .ok resolved →
      Traced (ofMemory config tier1) (past ++ (called, .called id key) :: rest) key
        resolved.value) ∧
    ∀ failure, outcome = .error failure →
      Visit.Blamed ⟨id, key, called, before, start⟩ rest failure := by
  have hregular := (run_regular (regular_of_memory config tier1) hpast).1
  have htracked := Visit.run_tracked (Visit.tracked_start hregular hcalled) hrest hkept
  obtain ⟨point, hcall, hprogress⟩ := htracked.progress
  have haccount : Visit.Account ⟨id, key, called, before, start⟩ rest outcome := by
    unfold outcome? at houtcome
    rw [hcall] at houtcome
    cases hprogress with
    | returned haccount =>
        cases houtcome
        exact haccount
    | _ => cases houtcome
  constructor
  · rintro resolved rfl
    cases haccount with
    | memory hlive => exact ((run_sourced hpast).live hlive).append hpast
    | durable hmeets =>
        refine traced_of_meets hpast hcalled hrest hmeets ?_
        rintro past cache next now event hrun h - ⟨-, answer, hanswered, hfinding⟩
        exact (h.read hanswered hfinding (.inl rfl)).append hrun
    | led hjoined _ hled htold => exact traced_of_told hpast hcalled hrest hjoined hled htold
    | shared hjoined _ hshared htold =>
        obtain ⟨leader, fallback', -, hmeets⟩ := hshared
        obtain ⟨first, moment, second, cache, hsplit, hfirst, -, hends⟩ := hmeets
        exact traced_of_told hpast hcalled hrest hjoined
          ⟨first, moment, second, cache, hsplit, hfirst, hends⟩ htold
  · rintro failure rfl
    cases haccount with
    | led _ _ hled htold =>
        cases htold with
        | sharedFailure _ hleads => cases hleads
        | failure =>
            obtain ⟨first, moment, second, cache, hsplit, hfirst, hends⟩ := hled
            obtain ⟨first, moment, second, cache, hsplit, hfirst, -, hfails⟩ :=
              fails_of_ends hpast hcalled hrest (fun _ _ _ => True)
                ⟨first, moment, second, cache, hsplit, hfirst, trivial, hends⟩
            exact .own ⟨first, moment, second, cache, hsplit, hfirst, hfails⟩
    | shared _ _ hshared htold =>
        cases htold with
        | failure _ hleads => cases hleads
        | sharedFailure =>
            obtain ⟨leader, fallback', hne, hmeets⟩ := hshared
            exact .shared hne (fails_of_ends hpast hcalled hrest _ hmeets)

/-- The store answers the read with the record of another key, and fails to write. -/
def unreliableStore : List (Instant × Event UInt32) :=
  [(⟨1⟩, .served 0 (.ok (some (Durable.record .standard ⟨0⟩ .ones (7 : UInt32))))), (⟨2⟩, .answered 0),
    (⟨3⟩, .computed 0 (.ok 8)), (⟨4⟩, .written 0 (.error (.tierUnavailable "down")))]

/-- The caller gets the value that it has computed. -/
theorem run_faults_hidden_unreliable : ∃ start finish : Cache UInt32,
    (ofMemory {} (.ofConfig .standard Key.hash)).step ⟨0⟩ (.called 0 .zeros) = some start ∧
    start.run unreliableStore = some finish ∧ finish.outcome? 0 = some (.ok ⟨8, .origin⟩) ∧
    Traced (ofMemory {} (.ofConfig .standard Key.hash))
      ((⟨0⟩, .called 0 .zeros) :: unreliableStore) .zeros 8 := by
  have hruns : ∃ start finish : Cache UInt32,
      (ofMemory {} (.ofConfig .standard Key.hash)).step ⟨0⟩ (.called 0 .zeros) = some start ∧
      start.run unreliableStore = some finish ∧ finish.outcome? 0 = some (.ok ⟨8, .origin⟩) :=
    ⟨_, _, rfl, rfl, rfl⟩
  obtain ⟨start, finish, hcalled, hrest, houtcome⟩ := hruns
  have hpast : (ofMemory {} (.ofConfig .standard Key.hash) : Cache UInt32).run [] = some _ := rfl
  have hkept : ∀ later, (later, .dropped 0) ∉ unreliableStore := by simp [unreliableStore]
  exact ⟨start, finish, hcalled, hrest, houtcome,
    (run_faults_hidden hpast hcalled hrest hkept houtcome).1 _ rfl⟩

end GameLibrary.Cache
