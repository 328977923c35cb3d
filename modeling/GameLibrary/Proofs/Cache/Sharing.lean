import GameLibrary.Proofs.Cache.Endings

/-!
# What callers are told

Every call that is over has been answered from memory, by a fresh record, or with the outcome of a
flight (`Account`). The flight ended in the course of the call: its leader was the caller itself, or
another one while the caller waited. So a flight that has ended before a call tells it nothing, and
all those whom a flight tells something are told the same outcome, each in its own way (`Told`).
-/

namespace GameLibrary.Cache

variable {ν : Type}

/-- What a caller is told of the outcome of a flight. The leader is told the outcome itself, the
others get its value as a shared one and its failure by the message. But a caller whose own look-up
has found a value that is not fresh any more gets this one instead of a failure, if the settings
allow it. -/
inductive Told (config : Config) (led : Bool) (fallback : Option ν) :
    Outcome ν → Outcome ν → Prop where
  | value {resolved} : led = true → Told config led fallback (.ok resolved) (.ok resolved)
  | sharedValue {resolved} : led = false →
      Told config led fallback (.ok resolved) (.ok ⟨resolved.value, .coalesced⟩)
  | stale {failure value} : fallback = some value → config.servesStale = true →
      Told config led fallback (.error failure) (.ok ⟨value, .stale⟩)
  | failure {failure} : (fallback = none ∨ config.servesStale = false) → led = true →
      Told config led fallback (.error failure) (.error failure)
  | sharedFailure {failure} : (fallback = none ∨ config.servesStale = false) → led = false →
      Told config led fallback (.error failure) (.error (.coalesced failure.message))

/-- What a call returns is what its caller is told. -/
theorem told_verdict (config : Config) (led : Bool) (fallback : Option ν) (outcome : Outcome ν) :
    Told config led fallback outcome (verdict config led fallback outcome) := by
  cases outcome with
  | ok resolved =>
      cases led with
      | true => exact .value rfl
      | false => exact .sharedValue rfl
  | error failure =>
      have hown : (fallback = none ∨ config.servesStale = false) → Told config led fallback
          (.error failure) (.error (if led then failure else .coalesced failure.message)) := by
        intro hown
        cases led with
        | true => exact .failure hown rfl
        | false => exact .sharedFailure hown rfl
      unfold verdict
      cases fallback with
      | none => exact hown (.inl rfl)
      | some value =>
          cases hstale : config.servesStale with
          | true => exact .stale rfl hstale
          | false => exact hown (.inr hstale)

/-- A call that begins: who calls for which key, when, and the cache before and after. -/
structure Visit (ν : Type) where
  id : CallId
  key : Key
  called : Instant
  before : Cache ν
  start : Cache ν

variable [Payload ν]

/-- What an event does at its time. -/
def stepAt (cache : Cache ν) (event : Instant × Event ν) : Option (Cache ν) :=
  cache.step event.1 event.2

/-- In the course of a run there is an event at which the cache is as described. -/
def Meets (start : Cache ν) (events : List (Instant × Event ν))
    (described : Cache ν → Instant → Event ν → Prop) : Prop :=
  Happens stepAt start events fun cache event => described cache event.1 event.2

namespace Visit

/-- In the course of the call its caller has joined the flight of its key with this fallback. -/
def Joined (visit : Visit ν) (events : List (Instant × Event ν)) (fallback : Option ν) : Prop :=
  visit.start.Meets events fun cache now event =>
    cache.Joins now visit.id visit.key fallback event

/-- In the course of the call its caller has led a flight to its end. -/
def Led (visit : Visit ν) (events : List (Instant × Event ν)) (flight : FlightId)
    (fallback : Option ν) (outcome : Outcome ν) : Prop :=
  visit.start.Meets events fun cache now event =>
    cache.Ends now visit.id visit.key fallback flight event outcome

/-- In the course of the call another caller has led a flight for the same key to its end, while the
caller of this one waited for it. -/
def Shared (visit : Visit ν) (events : List (Instant × Event ν)) (flight : FlightId)
    (fallback : Option ν) (outcome : Outcome ν) : Prop :=
  ∃ leader fallback', leader ≠ visit.id ∧ visit.start.Meets events fun cache now event =>
    cache.calls.find? visit.id = some ⟨visit.key, .waiting flight fallback⟩ ∧
      cache.Ends now leader visit.key fallback' flight event outcome

/-- Where the outcome of a call comes from, in terms of the events since it began. A flight that the
caller was told of had no outcome by then. -/
inductive Account (visit : Visit ν) (events : List (Instant × Event ν)) : Outcome ν → Prop where
  /-- The value was in memory when the call began. -/
  | memory {value} : visit.before.tier1.live? visit.called visit.key = some value →
      Account visit events (.ok ⟨value, .tier1⟩)
  /-- The caller has read a fresh record of the key. -/
  | durable {value} : visit.start.Meets events (fun cache now event =>
        event = .answered visit.id ∧ ∃ answer,
          cache.calls.find? visit.id = some ⟨visit.key, .answered answer⟩ ∧
          Durable.finding cache.config.durable now visit.key answer = .usable (.fresh value)) →
      Account visit events (.ok ⟨value, .tier2⟩)
  | led {flight fallback outcome told} : visit.Joined events fallback →
      (visit.before.flight flight).outcome = none → visit.Led events flight fallback outcome →
      Told visit.before.config true fallback outcome told → Account visit events told
  | shared {flight fallback outcome told} : visit.Joined events fallback →
      (visit.before.flight flight).outcome = none → visit.Shared events flight fallback outcome →
      Told visit.before.config false fallback outcome told → Account visit events told

/-- Where the caller stands in the course of its call, and how it has come there. -/
inductive Progress (visit : Visit ν) (events : List (Instant × Event ν)) (cache : Cache ν) :
    Point ν → Prop where
  | reading : Progress visit events cache .reading
  | answered {answer} : Progress visit events cache (.answered answer)
  | erasing : Progress visit events cache .erasing
  | waiting {flight fallback} : visit.Joined events fallback →
      (visit.before.flight flight).outcome = none →
      (∀ outcome, (cache.flight flight).outcome = some outcome →
        visit.Shared events flight fallback outcome) →
      Progress visit events cache (.waiting flight fallback)
  | computing {flight fallback started} : visit.Joined events fallback →
      (visit.before.flight flight).outcome = none →
      Progress visit events cache (.computing flight fallback started)
  | storing {flight fallback value record} : visit.Joined events fallback →
      (visit.before.flight flight).outcome = none →
      Progress visit events cache (.storing flight fallback value record)
  | returned {outcome} : visit.Account events outcome →
      Progress visit events cache (.returned outcome)

end Visit

variable {start cache next : Cache ν} {past : List (Instant × Event ν)} {now : Instant}
  {event : Event ν} {visit : Visit ν} {point : Point ν} {flight : FlightId} {fallback : Option ν}
  {outcome : Outcome ν}

section Moments

variable (hpast : start.run past = some cache) (hstep : cache.step now event = some next)
  {described : Cache ν → Instant → Event ν → Prop}
include hpast hstep

/-- What is the case at the last event of a run, or has been at an event before. -/
theorem meets_concat : start.Meets (past ++ [(now, event)]) described ↔
    start.Meets past described ∨ described cache now event :=
  happens_concat hpast hstep

theorem Meets.later (h : start.Meets past described) :
    start.Meets (past ++ [(now, event)]) described :=
  (meets_concat hpast hstep).2 (.inl h)

theorem meets_last (h : described cache now event) :
    start.Meets (past ++ [(now, event)]) described :=
  (meets_concat hpast hstep).2 (.inr h)

end Moments

namespace Visit

/-- What is known of a call that is not given up. -/
structure Tracked (visit : Visit ν) (events : List (Instant × Event ν)) (cache : Cache ν) :
    Prop where
  regular : Regular cache
  config_eq : cache.config = visit.before.config
  /-- No flight loses its outcome. -/
  open_before : ∀ {flight}, (cache.flight flight).outcome = none →
    (visit.before.flight flight).outcome = none
  progress : ∃ point, cache.calls.find? visit.id = some ⟨visit.key, point⟩ ∧
    visit.Progress events cache point

section Steps

variable (hpast : visit.start.run past = some cache) (hstep : cache.step now event = some next)
include hpast hstep

theorem Shared.later (h : visit.Shared past flight fallback outcome) :
    visit.Shared (past ++ [(now, event)]) flight fallback outcome := by
  obtain ⟨leader, fallback', hne, hmeets⟩ := h
  exact ⟨leader, fallback', hne, hmeets.later hpast hstep⟩

/-- An account of the outcome stays one. -/
theorem Account.later (h : visit.Account past outcome) :
    visit.Account (past ++ [(now, event)]) outcome := by
  cases h with
  | memory hlive => exact .memory hlive
  | durable hmeets => exact .durable (hmeets.later hpast hstep)
  | led hjoined hopen hled htold =>
      exact .led (hjoined.later hpast hstep) hopen (hled.later hpast hstep) htold
  | shared hjoined hopen hshared htold =>
      exact .shared (hjoined.later hpast hstep) hopen (hshared.later hpast hstep) htold

/-- A caller that has brought its flight to an end has its outcome. -/
theorem Tracked.ends (h : visit.Tracked past cache)
    (hjoined : visit.Joined (past ++ [(now, event)]) fallback)
    (hends : cache.Ends now visit.id visit.key fallback flight event outcome) :
    ∃ point, next.calls.find? visit.id = some ⟨visit.key, point⟩ ∧
      visit.Progress (past ++ [(now, event)]) next point := by
  obtain ⟨hopen, -, -, hcall⟩ := (step_transition hstep).after_end h.regular hends
  refine ⟨_, hcall, .returned (.led hjoined (h.open_before hopen)
    (meets_last hpast hstep hends) ?_)⟩
  rw [h.config_eq]
  exact told_verdict ..

/-- A caller that begins to lead a flight computes, or has its outcome at once. -/
theorem Tracked.begins (h : visit.Tracked past cache)
    (hjoined : visit.Joined (past ++ [(now, event)]) fallback)
    (hbegins : cache.Begins now visit.id visit.key fallback flight event) :
    ∃ point, next.calls.find? visit.id = some ⟨visit.key, point⟩ ∧
      visit.Progress (past ++ [(now, event)]) next point := by
  cases hlive : cache.tier1.live? now visit.key with
  | some value => exact h.ends hpast hstep hjoined (.found hbegins hlive)
  | none =>
      obtain ⟨leading, hlead, htier1, rfl⟩ := (step_transition hstep).of_begins h.regular hbegins
      refine ⟨.computing flight fallback now, ?_, .computing hjoined (h.open_before hlead.open)⟩
      rw [calls_lead, Table.find?_insert, if_pos rfl]
      unfold leadPoint
      rw [htier1, hlive]

/-- A caller that joins a flight begins to lead it, or waits for its outcome. -/
theorem Tracked.joins (h : visit.Tracked past cache)
    (hjoins : cache.Joins now visit.id visit.key fallback event) :
    ∃ point, next.calls.find? visit.id = some ⟨visit.key, point⟩ ∧
      visit.Progress (past ++ [(now, event)]) next point := by
  have hjoined : visit.Joined (past ++ [(now, event)]) fallback := meets_last hpast hstep hjoins
  cases hreg : cache.registry.find? visit.key with
  | none => exact h.begins hpast hstep hjoined (.opened hjoins hreg)
  | some flight =>
      cases hleader : (cache.flight flight).leader with
      | none => exact h.begins hpast hstep hjoined (.vacant hjoins hreg hleader)
      | some leader =>
          have hopen : (cache.flight flight).outcome = none :=
            (h.regular.orderly.registered hreg).2
          have htransition := step_transition hstep
          obtain ⟨change, rfl⟩ := htransition.of_joins hjoins
          have hwaits : ((cache.count change).join now visit.id visit.key fallback).calls.find?
              visit.id = some ⟨visit.key, .waiting flight fallback⟩ := by
            rw [calls_join, Table.find?_insert, if_pos rfl]
            unfold joinPoint
            rw [show (cache.count change).registry.find? visit.key = some flight from hreg]
            dsimp only
            rw [show ((cache.count change).flight flight).outcome = none from hopen,
              show ((cache.count change).flight flight).leader = some leader from hleader]
          refine ⟨_, hwaits, .waiting hjoined (h.open_before hopen) fun outcome hout => ?_⟩
          -- Whoever waits has not ended the flight.
          obtain ⟨-, -, -, hreturned⟩ := htransition.after_end h.regular (hjoins.ended hopen hout)
          cases hwaits.symm.trans hreturned

/-- Other callers may bring the flight to its end for which this one waits. -/
theorem Tracked.aside (h : visit.Tracked past cache) (hother : event.caller ≠ some visit.id) :
    ∃ point, next.calls.find? visit.id = some ⟨visit.key, point⟩ ∧
      visit.Progress (past ++ [(now, event)]) next point := by
  have htransition := step_transition hstep
  obtain ⟨point, hcall, hprogress⟩ := h.progress
  refine ⟨point, (htransition.find?_of_caller_ne hother).trans hcall, ?_⟩
  cases hprogress with
  | reading => exact .reading
  | answered => exact .answered
  | erasing => exact .erasing
  | computing hjoined hopen => exact .computing (hjoined.later hpast hstep) hopen
  | storing hjoined hopen => exact .storing (hjoined.later hpast hstep) hopen
  | returned haccount => exact .returned (haccount.later hpast hstep)
  | @waiting flight fallback hjoined hopen hshared =>
      refine .waiting (hjoined.later hpast hstep) hopen fun outcome hout => ?_
      cases hbefore : (cache.flight flight).outcome with
      | some outcome' =>
          have hkept := htransition.outcome_kept h.regular hbefore
          cases hkept.symm.trans hout
          exact (hshared _ hbefore).later hpast hstep
      | none =>
          obtain ⟨leader, key, fallback', hends⟩ := htransition.ended hbefore hout
          have hne : leader ≠ visit.id := by
            rintro rfl
            exact hother hends.caller
          obtain ⟨leading, hlead, -⟩ := htransition.of_ends h.regular hends
          -- A flight has one key, and that is the key of all who sit on it.
          have hkey : key = visit.key := by
            have hseat : (leading.traffic.sit leader (some ⟨key, flight, true⟩)).seats visit.id =
                some ⟨visit.key, flight, false⟩ := by
              rw [Traffic.seats_sit, if_neg hne.symm]
              exact seat_of_call ((congrArg (·.find? visit.id) hlead.calls_eq).trans hcall)
            have hopen' := hlead.open
            rw [← hlead.outcome_eq] at hopen'
            exact hlead.orderly.keyed hlead.registered.1
              ((hlead.orderly.seated hseat).2 hopen').1
          subst hkey
          exact ⟨leader, fallback', hne, meets_last hpast hstep ⟨hcall, hends⟩⟩

/-- What is known of a call is known after every step that does not give it up. -/
theorem Tracked.step (h : visit.Tracked past cache) (hkept : event ≠ .dropped visit.id) :
    visit.Tracked (past ++ [(now, event)]) next := by
  have htransition := step_transition hstep
  refine ⟨htransition.regular h.regular, htransition.config_eq.trans h.config_eq, ?_, ?_⟩
  · intro flight hopen
    refine h.open_before ?_
    by_contra hout
    obtain ⟨outcome, hout⟩ := Option.ne_none_iff_exists'.1 hout
    cases hopen.symm.trans (htransition.outcome_kept h.regular hout)
  by_cases hcaller : event.caller = some visit.id
  swap
  · exact h.aside hpast hstep hcaller
  obtain ⟨point, hcall, hprogress⟩ := h.progress
  cases htransition with
  | called hfree =>
      cases hcaller
      cases hfree.symm.trans hcall
  | served hreading =>
      cases hcaller
      cases hreading.symm.trans hcall
      exact ⟨_, (Table.find?_insert ..).trans (if_pos rfl), .answered⟩
  | answered hanswered =>
      cases hcaller
      cases hanswered.symm.trans hcall
      rcases receive_cases hcall with ⟨value, hfresh, hreceive⟩ | hreceive | ⟨_, _, hjoins, -⟩
      · rw [hreceive]
        refine ⟨_, (Table.find?_insert ..).trans (if_pos rfl), .returned (.durable ?_)⟩
        exact meets_last hpast hstep ⟨rfl, _, hcall, hfresh⟩
      · rw [hreceive]
        exact ⟨_, (Table.find?_insert ..).trans (if_pos rfl), .erasing⟩
      · exact h.joins hpast hstep hjoins
  | erased herasing =>
      cases hcaller
      cases herasing.symm.trans hcall
      exact h.joins hpast hstep (.erased hcall)
  | @computed _ _ _ _ _ result hcomputing =>
      cases hcaller
      cases hcomputing.symm.trans hcall
      cases hprogress with
      | computing hjoined hopen =>
          have hlater := hjoined.later hpast hstep
          cases result with
          | error failure => exact h.ends hpast hstep hlater (.failed hcall)
          | ok value =>
              cases hdurable :
                  cache.config.partialPolicy.keepsDurably (Payload.isComplete value) with
              | false => exact h.ends hpast hstep hlater (.unwritten hcall hdurable)
              | true =>
                  refine ⟨.storing _ _ value
                    (Durable.record cache.config.durable now visit.key value), ?_,
                    .storing hlater hopen⟩
                  rw [calls_conclude, Table.find?_insert, if_pos rfl]
                  unfold concludePoint
                  dsimp only
                  rw [if_pos hdurable]
  | timedOut hcomputing =>
      cases hcaller
      cases hcomputing.symm.trans hcall
      cases hprogress with
      | computing hjoined _ =>
          exact h.ends hpast hstep (hjoined.later hpast hstep) (.late hcall)
  | written hstoring | unwritten hstoring =>
      cases hcaller
      cases hstoring.symm.trans hcall
      cases hprogress with
      | storing hjoined _ =>
          exact h.ends hpast hstep (hjoined.later hpast hstep) (.written hcall)
  | settled hwaiting hout =>
      cases hcaller
      cases hwaiting.symm.trans hcall
      cases hprogress with
      | waiting hjoined hopen hshared =>
          refine ⟨_, ?_, .returned (.shared (hjoined.later hpast hstep) hopen
            ((hshared _ hout).later hpast hstep) (told_verdict ..))⟩
          rw [calls_settle, Table.find?_insert, if_pos rfl, h.config_eq]
  | promoted hwaiting hopen hleader =>
      cases hcaller
      cases hwaiting.symm.trans hcall
      cases hprogress with
      | waiting hjoined _ _ =>
          exact h.begins hpast hstep (hjoined.later hpast hstep) (.promoted hcall hopen hleader)
  | left | dropped =>
      cases hcaller
      exact absurd rfl hkept
  | forgotten | purged => cases hcaller

end Steps

/-- A call that begins is looked up in memory first. -/
theorem tracked_start {before start : Cache ν} {id : CallId} {key : Key} (h : Regular before)
    (hcalled : before.step now (.called id key) = some start) :
    Tracked ⟨id, key, now, before, start⟩ [] start := by
  have htransition := step_transition hcalled
  refine ⟨htransition.regular h, htransition.config_eq, ?_, ?_⟩
  · intro flight hopen
    by_contra hout
    obtain ⟨outcome, hout⟩ := Option.ne_none_iff_exists'.1 hout
    cases hopen.symm.trans (htransition.outcome_kept h hout)
  · cases htransition with
    | called hfree =>
        refine ⟨before.enterPoint now key, ?_, ?_⟩
        · rw [calls_enter, Table.find?_insert, if_pos rfl]
        · unfold enterPoint
          cases hlive : before.tier1.live? now key with
          | some value => exact .returned (.memory hlive)
          | none => exact .reading

/-- What is known of a call is known throughout its course. -/
theorem run_tracked {events : List (Instant × Event ν)} {finish : Cache ν}
    (hstart : visit.Tracked [] visit.start) (hrun : visit.start.run events = some finish)
    (hkept : ∀ now, (now, .dropped visit.id) ∉ events) : visit.Tracked events finish := by
  refine fold_history visit.Tracked hstart ?_ hrun
  rintro past ⟨now, event⟩ cache next hwithin hpast h hstep
  refine h.step hpast hstep ?_
  rintro rfl
  exact hkept now (hwithin.subset (List.mem_append_right _ List.mem_cons_self))

end Visit

/-- Every run leaves the flights as they should be, and their outcomes as they were. -/
theorem run_regular {events : List (Instant × Event ν)} {finish : Cache ν} (h : Regular start)
    (hrun : start.run events = some finish) :
    Regular finish ∧ ∀ {flight outcome}, (start.flight flight).outcome = some outcome →
      (finish.flight flight).outcome = some outcome := by
  refine fold_invariant (fun cache => Regular cache ∧ ∀ {flight outcome},
    (start.flight flight).outcome = some outcome → (cache.flight flight).outcome = some outcome)
    ?_ ⟨h, id⟩ hrun
  rintro cache ⟨now, event⟩ next ⟨hregular, hkept⟩ hstep
  have htransition := step_transition hstep
  exact ⟨htransition.regular hregular, fun hout => htransition.outcome_kept hregular (hkept hout)⟩

/-- A flight that has ended does not end again. -/
theorem run_ends_once {last : Cache ν} {id id' : CallId} {key key' : Key} {fallback' : Option ν}
    {moment moment' : Instant × Event ν} {events rest : List (Instant × Event ν)}
    {outcome' : Outcome ν} (h : Regular start)
    (hends : start.Ends moment.1 id key fallback flight moment.2 outcome)
    (hevents : start.run (moment :: events) = some cache)
    (hrest : cache.run (moment' :: rest) = some last) :
    ¬ cache.Ends moment'.1 id' key' fallback' flight moment'.2 outcome' := by
  obtain ⟨middle, hfirst, hevents⟩ := fold_cons.1 hevents
  obtain ⟨next, hsecond, -⟩ := fold_cons.1 hrest
  have htransition := step_transition hfirst
  obtain ⟨-, hout, -, -⟩ := htransition.after_end h hends
  obtain ⟨hregular, hkept⟩ := run_regular (htransition.regular h) hevents
  intro hagain
  obtain ⟨hopen, -, -, -⟩ := (step_transition hsecond).after_end hregular hagain
  cases hopen.symm.trans (hkept hout)

/-- With one event a flight ends in one way. -/
theorem Transition.end_unique {id id' : CallId} {key key' : Key} {fallback' : Option ν}
    {outcome' : Outcome ν} (h : cache.Transition now event next) (hregular : Regular cache)
    (hends : cache.Ends now id key fallback flight event outcome)
    (hends' : cache.Ends now id' key' fallback' flight event outcome') :
    id = id' ∧ outcome = outcome' := by
  obtain ⟨-, hout, -⟩ := h.after_end hregular hends
  obtain ⟨-, hout', -⟩ := h.after_end hregular hends'
  exact ⟨Option.some.inj (hends.caller.symm.trans hends'.caller),
    Option.some.inj (hout.symm.trans hout')⟩

/-- A failure leaves memory as it is, and so does a value that is not to be kept. -/
theorem Transition.tier1_eq_of_end {id : CallId} {key : Key}
    (h : cache.Transition now event next)
    (hends : cache.Ends now id key fallback flight event outcome)
    (hnone : (∃ failure, outcome = .error failure) ∨ ∃ value, event = .computed id (.ok value) ∧
      cache.config.partialPolicy.keepsInMemory (Payload.isComplete value) = false) :
    next.tier1 = cache.tier1 := by
  cases hends with
  | found hbegins =>
      rcases hnone with ⟨failure, hfailure⟩ | ⟨value, rfl, -⟩
      · cases hfailure
      · cases hbegins with
        | opened hjoins | vacant hjoins => cases hjoins
  | failed hcall =>
      cases h with
      | computed => exact tier1_land _ _
  | late hcall =>
      cases h with
      | timedOut => exact tier1_land _ _
  | @unwritten started value hcall hdurable =>
      rcases hnone with ⟨failure, hfailure⟩ | ⟨value', hvalue, hmemory⟩
      · cases hfailure
      · cases hvalue
        cases h with
        | computed =>
            rw [tier1_conclude_ok]
            unfold keptTier1
            rw [if_neg (Bool.eq_false_iff.1 hmemory)]
  | written =>
      rcases hnone with ⟨failure, hfailure⟩ | ⟨value, hvalue, -⟩
      · cases hfailure
      · cases hvalue

/-- Memory holds what it held before, or what the event brings and the policy is to keep there. -/
theorem Transition.memory_kept {key : Key} {entry : CacheEntry ν}
    (h : cache.Transition now event next) (hfound : next.tier1.storage.find? key = some entry) :
    cache.tier1.storage.find? key = some entry ∨ cache.Brings key event entry.value ∧
      ∀ {id}, event = .computed id (.ok entry.value) →
        cache.config.partialPolicy.keepsInMemory (Payload.isComplete entry.value) = true := by
  rcases h.memory_from hfound with hbefore | hbrings
  · exact .inl hbefore
  by_cases hfleeting : ∃ id, event = .computed id (.ok entry.value) ∧
      cache.config.partialPolicy.keepsInMemory (Payload.isComplete entry.value) = false
  · obtain ⟨id, rfl, hmemory⟩ := hfleeting
    cases hbrings with
    | computed hcall =>
        have hends : cache.Ends now id key _ _ (.computed id (.ok entry.value)) _ :=
          .unwritten hcall (PartialPolicy.not_keeps_durably hmemory)
        rw [h.tier1_eq_of_end hends (.inr ⟨_, rfl, hmemory⟩)] at hfound
        exact .inl hfound
  · refine .inr ⟨hbrings, fun {id} hevent => ?_⟩
    by_contra hmemory
    exact hfleeting ⟨id, hevent, Bool.eq_false_iff.2 hmemory⟩

/-- Callers share the ends of flights. -/
structure Sharing (config : Config) (events : List (Instant × Event ν)) (finish : Cache ν) :
    Prop where
  /-- A call that is over has its outcome from what has happened in its course. -/
  account : ∀ {past rest now id key before start outcome},
    events = past ++ (now, .called id key) :: rest → (ofConfig config).run past = some before →
    before.step now (.called id key) = some start → (∀ later, (later, .dropped id) ∉ rest) →
    finish.outcome? id = some outcome → Visit.Account ⟨id, key, now, before, start⟩ rest outcome
  /-- A flight ends once. -/
  once : ∀ {past past' rest rest' moment moment' cache cache' id id' key key' fallback fallback'}
    {flight : FlightId} {outcome outcome' : Outcome ν},
    events = past ++ moment :: rest → (ofConfig config).run past = some cache →
    cache.Ends moment.1 id key fallback flight moment.2 outcome →
    events = past' ++ moment' :: rest' → (ofConfig config).run past' = some cache' →
    cache'.Ends moment'.1 id' key' fallback' flight moment'.2 outcome' →
    past = past' ∧ id = id' ∧ outcome = outcome'
  /-- When a flight ends, its leader is told the outcome. The flight is not registered any more, and
  a failure leaves memory as it is, and so does a value that is not to be kept. -/
  ended : ∀ {past rest now event before after id key fallback flight outcome},
    events = past ++ (now, event) :: rest → (ofConfig config).run past = some before →
    before.step now event = some after →
    before.Ends now id key fallback flight event outcome →
    (∃ told, after.outcome? id = some told ∧ Told config true fallback outcome told) ∧
      after.registry.find? key = none ∧
      ((∃ failure, outcome = .error failure) ∨ (∃ value, event = .computed id (.ok value) ∧
        config.partialPolicy.keepsInMemory (Payload.isComplete value) = false) →
          after.tier1 = before.tier1)
  /-- Nothing comes into memory but the values of records and computed values that are to be kept
  there. -/
  memory : ∀ {past rest now event before after key} {entry : CacheEntry ν},
    events = past ++ (now, event) :: rest → (ofConfig config).run past = some before →
    before.step now event = some after → after.tier1.storage.find? key = some entry →
    before.tier1.storage.find? key = some entry ∨ before.Brings key event entry.value ∧
      ∀ {id}, event = .computed id (.ok entry.value) →
        config.partialPolicy.keepsInMemory (Payload.isComplete entry.value) = true

/-- In every run callers share the ends of flights. -/
theorem run_sharing {config : Config} {events : List (Instant × Event ν)} {finish : Cache ν}
    (hrun : (ofConfig config).run events = some finish) : Sharing config events finish := by
  have hregular : ∀ {past cache}, (ofConfig config).run past = some cache →
      Regular (cache : Cache ν) := fun hpast => (run_regular (regular_of_config config) hpast).1
  have hconfig : ∀ {past cache}, (ofConfig config).run past = some (cache : Cache ν) →
      cache.config = config := fun hpast => run_invariant (fun cache => cache.config = config)
    (fun heq hstep => (step_transition hstep).config_eq.trans heq) rfl hpast
  have hrest : ∀ {past rest cache}, events = past ++ rest →
      (ofConfig config).run past = some (cache : Cache ν) → cache.run rest = some finish := by
    rintro past rest cache rfl hpast
    obtain ⟨middle, hmiddle, hlast⟩ := fold_append.1 hrun
    cases hpast.symm.trans hmiddle
    exact hlast
  constructor
  case account =>
    intro past rest now id key before start outcome hevents hpast hcalled hkept houtcome
    obtain ⟨start', hcalled', hlast⟩ := fold_cons.1 (hrest hevents hpast)
    cases hcalled.symm.trans hcalled'
    have htracked := Visit.run_tracked (Visit.tracked_start (hregular hpast) hcalled) hlast hkept
    obtain ⟨point, hcall, hprogress⟩ := htracked.progress
    unfold outcome? at houtcome
    rw [hcall] at houtcome
    cases hprogress with
    | returned haccount =>
        cases houtcome
        exact haccount
    | _ => cases houtcome
  case once =>
    intro past past' rest rest' moment moment' cache cache' id id' key key' fallback fallback'
      flight outcome outcome' hevents hpast hends hevents' hpast' hends'
    -- A later end of the flight cannot be, whichever of the two is the later one.
    have hlater : ∀ {early late rest moment moment' cache cache' id id' key key' fallback fallback'}
        {outcome outcome' : Outcome ν} {between : List (Instant × Event ν)},
        late = early ++ moment :: between → events = late ++ moment' :: rest →
        (ofConfig config).run early = some cache → (ofConfig config).run late = some cache' →
        cache.Ends moment.1 id key fallback flight moment.2 outcome →
        ¬ cache'.Ends moment'.1 id' key' fallback' flight moment'.2 outcome' := by
      rintro early late rest moment moment' cache cache' id id' key key' fallback fallback' outcome
        outcome' between rfl hevents hearly hlate hends
      obtain ⟨middle, hmiddle, hbetween⟩ := fold_append.1 hlate
      cases hearly.symm.trans hmiddle
      exact run_ends_once (hregular hearly) hends hbetween (hrest hevents hlate)
    rcases moments_cases hevents hevents' with ⟨rfl, rfl⟩ | ⟨between, hlate⟩ | ⟨between, hlate⟩
    · cases hpast.symm.trans hpast'
      obtain ⟨next, hstep, -⟩ := fold_cons.1 (hrest hevents hpast)
      exact ⟨rfl, (step_transition hstep).end_unique (hregular hpast) hends hends'⟩
    · exact absurd hends' (hlater hlate hevents' hpast hpast' hends)
    · exact absurd hends (hlater hlate hevents hpast' hpast hends')
  case ended =>
    intro past rest now event before after id key fallback flight outcome hevents hpast hstep hends
    have htransition := step_transition hstep
    obtain ⟨-, -, hregistry, hcall⟩ := htransition.after_end (hregular hpast) hends
    refine ⟨⟨_, ?_, told_verdict config true fallback outcome⟩, hregistry, fun hnone => ?_⟩
    · unfold outcome?
      rw [hcall, hconfig hpast]
    · rw [← hconfig hpast] at hnone
      exact htransition.tier1_eq_of_end hends hnone
  case memory =>
    intro past rest now event before after key entry hevents hpast hstep hfound
    rw [← hconfig hpast]
    exact (step_transition hstep).memory_kept hfound

/-- Records are fresh for a second, and fallbacks for ten more. -/
def fallbackConfig : Config := { durable := ⟨.seconds 1, .seconds 10⟩ }

/-- Three callers share a computation that fails, and one of them has found an old record. A fourth
caller comes later and computes for itself. -/
def failedFlight : List (Instant × Event UInt32) :=
  let old := Durable.record fallbackConfig.durable ⟨0⟩ .zeros (7 : UInt32)
  [(⟨5000000000⟩, .called 0 .zeros), (⟨5000000000⟩, .called 1 .zeros),
    (⟨5000000000⟩, .called 2 .zeros), (⟨5000000001⟩, .served 0 (.ok none)),
    (⟨5000000001⟩, .served 1 (.ok none)), (⟨5000000001⟩, .served 2 (.ok (some old))),
    (⟨5000000002⟩, .answered 0), (⟨5000000002⟩, .answered 1), (⟨5000000002⟩, .answered 2),
    (⟨5000000003⟩, .computed 0 (.error (.query "down"))), (⟨5000000004⟩, .called 3 .zeros),
    (⟨5000000004⟩, .resumed 1), (⟨5000000004⟩, .resumed 2), (⟨5000000005⟩, .served 3 (.ok none)),
    (⟨5000000005⟩, .answered 3), (⟨5000000006⟩, .computed 3 (.ok 8)),
    (⟨5000000007⟩, .written 3 (.ok ()))]

/-- The first three are told of the failure, each in its own way, and the fourth is not. -/
theorem run_sharing_failed : ∃ finish, (ofConfig fallbackConfig).run failedFlight = some finish ∧
    finish.outcome? 0 = some (.error (.query "down")) ∧
    finish.outcome? 1 = some (.error (.coalesced (Failure.query "down").message)) ∧
    finish.outcome? 2 = some (.ok ⟨7, .stale⟩) ∧ finish.outcome? 3 = some (.ok ⟨8, .origin⟩) ∧
    Sharing fallbackConfig failedFlight finish := by
  have hruns : ∃ finish, (ofConfig fallbackConfig).run failedFlight = some finish ∧
      finish.outcome? 0 = some (.error (.query "down")) ∧
      finish.outcome? 1 = some (.error (.coalesced (Failure.query "down").message)) ∧
      finish.outcome? 2 = some (.ok ⟨7, .stale⟩) ∧ finish.outcome? 3 = some (.ok ⟨8, .origin⟩) :=
    ⟨_, rfl, rfl, rfl, rfl, rfl⟩
  obtain ⟨finish, hrun, hleader, hwaiting, hstale, hlater⟩ := hruns
  exact ⟨finish, hrun, hleader, hwaiting, hstale, hlater, run_sharing hrun⟩

end GameLibrary.Cache
