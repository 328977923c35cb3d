import GameLibrary.Proofs.Cache.Supply

/-!
# How flights end

A caller that misses its key joins the flight of the key (`Joins`); where the flight has no leader
it begins to lead (`Begins`), and the flight ends with what its leader comes to (`Ends`). These
three say at which event this happens, and `Transition.ended` that a flight gets its outcome in no
other way. An outcome stays (`Transition.outcome_kept`), so a flight ends once.
-/

namespace GameLibrary.Cache

open Traffic (Orderly)

variable {ν : Type}

section Definitions

variable [Payload ν]

/-- With this event a caller that has missed its key joins the flight of the key. What the caller
falls back on is the value that is not fresh any more, if that is what it has read. -/
inductive Joins (cache : Cache ν) (now : Instant) (id : CallId) (key : Key) :
    Option ν → Event ν → Prop where
  | stale {answer value} : cache.calls.find? id = some ⟨key, .answered answer⟩ →
      Durable.finding cache.config.durable now key answer = .usable (.stale value) →
      Joins cache now id key (some value) (.answered id)
  | missing {answer} : cache.calls.find? id = some ⟨key, .answered answer⟩ →
      (Durable.finding cache.config.durable now key answer : Durable.Finding ν) =
        .usable .missing →
      Joins cache now id key none (.answered id)
  | failed {answer failure} : cache.calls.find? id = some ⟨key, .answered answer⟩ →
      (Durable.finding cache.config.durable now key answer : Durable.Finding ν) =
        .failed failure →
      Joins cache now id key none (.answered id)
  | erased : cache.calls.find? id = some ⟨key, .erasing⟩ →
      Joins cache now id key none (.erased id)

/-- With this event a caller begins to lead a flight. -/
inductive Begins (cache : Cache ν) (now : Instant) (id : CallId) (key : Key)
    (fallback : Option ν) : FlightId → Event ν → Prop where
  | opened {event} : cache.Joins now id key fallback event → cache.registry.find? key = none →
      Begins cache now id key fallback cache.nextFlight event
  | vacant {flight event} : cache.Joins now id key fallback event →
      cache.registry.find? key = some flight → (cache.flight flight).leader = none →
      Begins cache now id key fallback flight event
  | promoted {flight} : cache.calls.find? id = some ⟨key, .waiting flight fallback⟩ →
      (cache.flight flight).outcome = none → (cache.flight flight).leader = some id →
      Begins cache now id key fallback flight (.resumed id)

/-- With this event the leader of a flight brings it to an outcome: with a value that is in memory
by the time it would compute, with the failure of its computation, or with the value that it has
computed, after having written it where it is to be written. -/
inductive Ends (cache : Cache ν) (now : Instant) (id : CallId) (key : Key) (fallback : Option ν) :
    FlightId → Event ν → Outcome ν → Prop where
  | found {flight event value} : cache.Begins now id key fallback flight event →
      cache.tier1.live? now key = some value →
      Ends cache now id key fallback flight event (.ok ⟨value, .tier1⟩)
  | failed {flight started failure} :
      cache.calls.find? id = some ⟨key, .computing flight fallback started⟩ →
      Ends cache now id key fallback flight (.computed id (.error failure)) (.error failure)
  | late {flight started} :
      cache.calls.find? id = some ⟨key, .computing flight fallback started⟩ →
      Ends cache now id key fallback flight (.timedOut id)
        (.error (.resolveTimeout key.text cache.config.resolveTimeout))
  | unwritten {flight started value} :
      cache.calls.find? id = some ⟨key, .computing flight fallback started⟩ →
      cache.config.partialPolicy.keepsDurably (Payload.isComplete value) = false →
      Ends cache now id key fallback flight (.computed id (.ok value)) (.ok ⟨value, .origin⟩)
  | written {flight value record answer} :
      cache.calls.find? id = some ⟨key, .storing flight fallback value record⟩ →
      Ends cache now id key fallback flight (.written id answer) (.ok ⟨value, .origin⟩)

end Definitions

variable {cache next : Cache ν} {now : Instant} {id : CallId} {key : Key} {flight : FlightId}
  {fallback : Option ν} {outcome : Outcome ν}

section Numbers

@[simp] theorem next_flight_settle (cache : Cache ν) (led : Bool) (outcome : Outcome ν) :
    (cache.settle id key led fallback outcome).nextFlight = cache.nextFlight :=
  congrArg Traffic.next (traffic_settle cache id key led fallback outcome)

@[simp] theorem next_flight_land (cache : Cache ν) (outcome : Outcome ν) :
    (cache.land id key flight fallback outcome).nextFlight = cache.nextFlight := by
  unfold land
  dsimp only
  split <;> rw [next_flight_settle] <;> rfl

@[simp] theorem next_flight_lead (cache : Cache ν) :
    (cache.lead now id key flight fallback).nextFlight = cache.nextFlight := by
  unfold lead
  cases cache.tier1.get now key with
  | mk held tier1 =>
      cases held with
      | some value =>
          dsimp only
          rw [next_flight_land]
      | none => rfl

@[simp] theorem next_flight_enter (cache : Cache ν) :
    (cache.enter now id key).nextFlight = cache.nextFlight := by
  unfold enter
  cases cache.tier1.get now key with
  | mk held tier1 => cases held <;> rfl

@[simp] theorem next_flight_leave (cache : Cache ν) :
    (cache.leave id flight).nextFlight = cache.nextFlight :=
  congrArg Traffic.next (traffic_leave cache id flight)

@[simp] theorem next_flight_conclude [Payload ν] (cache : Cache ν) (started : Instant)
    (result : Except Failure ν) :
    (cache.conclude now id key flight fallback started result).nextFlight = cache.nextFlight := by
  cases result with
  | error failure =>
      unfold conclude
      exact next_flight_land _ _
  | ok value =>
      obtain ⟨metrics, hconclude⟩ := cache.conclude_ok started value
      rw [hconclude]
      dsimp only
      split
      · rfl
      · exact next_flight_land _ _

/-- A caller that joins opens a flight if none is registered for its key. -/
theorem next_flight_join (cache : Cache ν) :
    (cache.join now id key fallback).nextFlight =
      if cache.registry.find? key = none then cache.nextFlight + 1 else cache.nextFlight := by
  unfold join
  cases hreg : cache.registry.find? key with
  | none =>
      rw [if_pos rfl]
      exact next_flight_lead _
  | some flight =>
      rw [if_neg (Option.some_ne_none flight)]
      dsimp only
      split
      · exact next_flight_settle ..
      · exact next_flight_lead _
      · rfl

end Numbers

section Landings

/-- Landing a flight gives an outcome to this flight only. -/
theorem outcome_of_land {other : FlightId} {result : Outcome ν}
    (hout : ((cache.land id key other fallback result).flight flight).outcome = some outcome)
    (hopen : (cache.flight flight).outcome = none) : flight = other ∧ outcome = result := by
  rw [flight_land] at hout
  split at hout
  · rename_i hflight
    exact ⟨hflight, (Option.some.inj hout).symm⟩
  · cases hopen.symm.trans hout

/-- A caller that joins a flight without outcome and brings it to one has begun to lead it, and has
found a value in memory. -/
theorem Joins.ended [Payload ν] {event : Event ν} {change : Metrics → Metrics}
    (h : cache.Joins now id key fallback event) (hopen : (cache.flight flight).outcome = none)
    (hout : (((cache.count change).join now id key fallback).flight flight).outcome =
      some outcome) : cache.Ends now id key fallback flight event outcome := by
  unfold join at hout
  cases hreg : cache.registry.find? key with
  | none =>
      rw [show (cache.count change).registry.find? key = none from hreg] at hout
      rcases outcome_of_lead hout with hbefore | ⟨rfl, value, hlive, rfl⟩
      · rw [flight_set_flight] at hbefore
        split at hbefore
        · cases hbefore
        · cases hopen.symm.trans hbefore
      · exact .found (.opened h hreg) hlive
  | some other =>
      rw [show (cache.count change).registry.find? key = some other from hreg] at hout
      dsimp only at hout
      split at hout
      · rw [flight_settle] at hout
        cases hopen.symm.trans hout
      · rename_i hfree hleader
        rcases outcome_of_lead hout with hbefore | ⟨rfl, value, hlive, rfl⟩
        · rw [flight_set_flight] at hbefore
          split at hbefore
          · cases hfree.symm.trans hbefore
          · cases hopen.symm.trans hbefore
        · exact .found (.vacant h hreg hleader) hlive
      · rename_i hfree _
        have hset : (((cache.count change).setFlight other { cache.flight other with
            queue := (cache.flight other).queue ++ [id] }).flight flight).outcome =
              some outcome := hout
        rw [flight_set_flight] at hset
        split at hset
        · cases hfree.symm.trans hset
        · cases hopen.symm.trans hset

variable [Payload ν] {event : Event ν}

/-- A caller with an answer in hand has its value, has a record removed, or joins a flight. -/
theorem receive_cases {answer : ReadAnswer}
    (hcall : cache.calls.find? id = some ⟨key, .answered answer⟩) :
    (∃ value, Durable.finding cache.config.durable now key answer = .usable (.fresh value) ∧
      cache.receive now id key answer =
        (((cache.count .tier2Hit).keep now key value).count .promotion).setPoint id key
          (.returned (.ok ⟨value, .tier2⟩))) ∨
    cache.receive now id key answer = cache.setPoint id key .erasing ∨
    ∃ fallback change, cache.Joins now id key fallback (.answered id) ∧
      cache.receive now id key answer = (cache.count change).join now id key fallback := by
  unfold receive
  split
  · rename_i value hfinding
    exact .inl ⟨value, hfinding, rfl⟩
  · rename_i value hfinding
    exact .inr (.inr ⟨_, _, .stale hcall hfinding, rfl⟩)
  · rename_i hfinding
    exact .inr (.inr ⟨_, _, .missing hcall hfinding, rfl⟩)
  · exact .inr (.inl rfl)
  · rename_i failure hfinding
    exact .inr (.inr ⟨_, _, .failed hcall hfinding, rfl⟩)

/-- A flight gets its outcome from its leader, and in no other way. -/
theorem Transition.ended (h : cache.Transition now event next)
    (hopen : (cache.flight flight).outcome = none)
    (hout : (next.flight flight).outcome = some outcome) :
    ∃ id key fallback, cache.Ends now id key fallback flight event outcome := by
  cases h with
  | called =>
      rw [flight_enter] at hout
      cases hopen.symm.trans hout
  | answered hcall =>
      rcases receive_cases hcall with ⟨value, -, hreceive⟩ | hreceive | ⟨_, _, hjoins, hreceive⟩ <;>
        rw [hreceive] at hout
      · cases hopen.symm.trans hout
      · cases hopen.symm.trans hout
      · exact ⟨_, _, _, hjoins.ended hopen hout⟩
  | erased hcall => exact ⟨_, _, _, (Joins.erased hcall).ended hopen hout⟩
  | @computed _ _ _ _ started result hcall =>
      cases result with
      | error failure =>
          unfold conclude at hout
          obtain ⟨rfl, rfl⟩ := outcome_of_land hout hopen
          exact ⟨_, _, _, .failed hcall⟩
      | ok value =>
          obtain ⟨metrics, hconclude⟩ := cache.conclude_ok started value
          rw [hconclude] at hout
          dsimp only at hout
          split at hout
          · cases hopen.symm.trans hout
          · rename_i hdurable
            obtain ⟨rfl, rfl⟩ := outcome_of_land hout hopen
            exact ⟨_, _, _, .unwritten hcall (Bool.eq_false_iff.2 hdurable)⟩
  | timedOut hcall =>
      unfold conclude at hout
      obtain ⟨rfl, rfl⟩ := outcome_of_land hout hopen
      exact ⟨_, _, _, .late hcall⟩
  | written hcall | unwritten hcall =>
      obtain ⟨rfl, rfl⟩ := outcome_of_land hout hopen
      exact ⟨_, _, _, .written hcall⟩
  | settled =>
      rw [flight_settle] at hout
      cases hopen.symm.trans hout
  | promoted hcall hfree hleader =>
      rcases outcome_of_lead hout with hbefore | ⟨rfl, value, hlive, rfl⟩
      · cases hopen.symm.trans hbefore
      · exact ⟨_, _, _, .found (.promoted hcall hfree hleader) hlive⟩
  | left =>
      rw [flight_leave] at hout
      cases hopen.symm.trans hout
  | served | dropped | forgotten | purged => cases hopen.symm.trans hout

/-- Flights are numbered in the order in which they are opened. -/
theorem Transition.next_le (h : cache.Transition now event next) :
    cache.nextFlight ≤ next.nextFlight := by
  have hjoin : ∀ {id key fallback} {change : Metrics → Metrics},
      cache.nextFlight ≤ ((cache.count change).join now id key fallback).nextFlight := by
    intro id key fallback change
    rw [next_flight_join]
    split
    · exact Nat.le_succ _
    · exact Nat.le_refl _
  cases h with
  | answered hcall =>
      rcases receive_cases hcall with ⟨value, -, hreceive⟩ | hreceive | ⟨_, _, -, hreceive⟩ <;>
        rw [hreceive]
      · exact Nat.le_refl _
      · exact Nat.le_refl _
      · exact hjoin
  | erased => exact hjoin
  | called | computed | timedOut | written | unwritten | settled | promoted | left =>
      simp only [next_flight_enter, next_flight_conclude, next_flight_land, next_flight_settle,
        next_flight_lead, next_flight_leave]
      exact Nat.le_refl _
  | served | dropped | forgotten | purged => exact Nat.le_refl _

end Landings

/-- The flights of the cache are as they should be: the traffic is orderly, and what has an outcome
has been opened. -/
structure Regular (cache : Cache ν) : Prop where
  orderly : Orderly cache.traffic
  numbered : ∀ {flight}, cache.nextFlight ≤ flight → (cache.flight flight).outcome = none

/-- Before any call the flights are as they should be. -/
theorem regular_of_config (config : Config) : Regular (ofConfig config : Cache ν) where
  orderly := Traffic.orderly_empty
  numbered _ := rfl

section Leads

/-- The caller sits in the lead of a flight of a cache that differs from another one in nothing but
who sits where. -/
structure InLead (cache start : Cache ν) (id : CallId) (key : Key) (flight : FlightId) : Prop where
  config_eq : start.config = cache.config
  calls_eq : start.calls = cache.calls
  outcome_eq : ∀ other, (start.flight other).outcome = (cache.flight other).outcome
  orderly : Orderly (start.traffic.sit id (some ⟨key, flight, true⟩))

/-- A flight with a leader has no outcome. -/
theorem InLead.open {start : Cache ν} (h : InLead cache start id key flight) :
    (cache.flight flight).outcome = none := by
  have hseat : (start.traffic.sit id (some ⟨key, flight, true⟩)).seats id =
      some ⟨key, flight, true⟩ := by simp
  rw [← h.outcome_eq]
  exact (h.orderly.leads hseat).2

/-- A flight that has a leader is registered for the key of the leader. -/
theorem InLead.registered {start : Cache ν} (h : InLead cache start id key flight) :
    start.registry.find? key = some flight ∧ flight < start.nextFlight := by
  have hseat : (start.traffic.sit id (some ⟨key, flight, true⟩)).seats id =
      some ⟨key, flight, true⟩ := by simp
  exact ⟨((h.orderly.seated hseat).2 (h.orderly.leads hseat).2).1, (h.orderly.seated hseat).1⟩

variable [Payload ν] {event : Event ν}

/-- Joining is what a step does with which a caller joins a flight. -/
theorem Transition.of_joins (h : cache.Transition now event next)
    (hjoins : cache.Joins now id key fallback event) :
    ∃ change, next = (cache.count change).join now id key fallback := by
  cases hjoins with
  | stale hcall hfinding | missing hcall hfinding | failed hcall hfinding =>
      cases h with
      | answered hcall' =>
          cases hcall.symm.trans hcall'
          unfold receive
          rw [hfinding]
          exact ⟨_, rfl⟩
  | erased hcall =>
      cases h with
      | erased hcall' =>
          cases hcall.symm.trans hcall'
          exact ⟨_, rfl⟩

/-- A flight is brought to its outcome by the caller of the event. -/
theorem Ends.caller (h : cache.Ends now id key fallback flight event outcome) :
    event.caller = some id := by
  have hjoins : cache.Joins now id key fallback event → event.caller = some id := by
    intro hjoins
    cases hjoins <;> rfl
  cases h with
  | found hbegins =>
      cases hbegins with
      | opened h | vacant h => exact hjoins h
      | promoted => rfl
  | failed | late | unwritten | written => rfl

/-- Leading is what a step does with which a caller begins to lead. -/
theorem Transition.of_begins (h : cache.Transition now event next) (hregular : Regular cache)
    (hbegins : cache.Begins now id key fallback flight event) :
    ∃ start, InLead cache start id key flight ∧ start.tier1 = cache.tier1 ∧
      next = start.lead now id key flight fallback := by
  have hfree : ∀ {event}, cache.Joins now id key fallback event →
      cache.traffic.seats id = none := by
    intro event hjoins
    cases hjoins <;> exact seat_of_call ‹_›
  cases hbegins with
  | opened hjoins hreg =>
      obtain ⟨change, rfl⟩ := h.of_joins hjoins
      unfold join
      rw [show (cache.count change).registry.find? key = none from hreg]
      refine ⟨_, ?_, ?_, rfl⟩
      rotate_left
      · rfl
      refine ⟨rfl, rfl, fun other => ?_, ?_⟩
      · rw [flight_set_flight]
        split
        · rename_i hother
          rw [hother]
          exact (hregular.numbered (Nat.le_refl _)).symm
        · rfl
      · rw [traffic_set_flight, traffic_register]
        exact hregular.orderly.open_lead (hfree hjoins) hreg
  | vacant hjoins hreg hleader =>
      have hopen : (cache.flight flight).outcome = none := (hregular.orderly.registered hreg).2
      obtain ⟨change, rfl⟩ := h.of_joins hjoins
      unfold join
      rw [show (cache.count change).registry.find? key = some flight from hreg]
      dsimp only
      rw [show ((cache.count change).flight flight).outcome = none from hopen,
        show ((cache.count change).flight flight).leader = none from hleader]
      refine ⟨_, ?_, ?_, rfl⟩
      rotate_left
      · rfl
      refine ⟨rfl, rfl, fun other => ?_, ?_⟩
      · rw [flight_set_flight]
        split
        · rename_i hother
          rw [hother]
          exact hopen.symm
        · rfl
      · rw [traffic_set_flight]
        have hlead := hregular.orderly.take_lead (hfree hjoins) hreg hleader
        dsimp only at hlead
        rw [show (cache.traffic.flights flight).outcome = none from hopen] at hlead
        exact hlead
  | promoted hcall hopen hleader =>
      cases h with
      | settled hcall' hout =>
          cases hcall.symm.trans hcall'
          cases hopen.symm.trans hout
      | promoted hcall' =>
          cases hcall.symm.trans hcall'
          exact ⟨cache, ⟨rfl, rfl, fun _ => rfl,
            hregular.orderly.promote (seat_of_call hcall) hleader⟩, rfl, rfl⟩

/-- Ending a flight is what a step does with which a flight ends. -/
theorem Transition.of_ends (h : cache.Transition now event next) (hregular : Regular cache)
    (hends : cache.Ends now id key fallback flight event outcome) :
    ∃ start, InLead cache start id key flight ∧
      next = start.land id key flight fallback outcome := by
  have hseated : ∀ {start : Cache ν} {point : Point ν},
      cache.calls.find? id = some ⟨key, point⟩ →
      Call.seat ⟨key, point⟩ = some ⟨key, flight, true⟩ → start.config = cache.config →
      start.calls = cache.calls → start.traffic = cache.traffic →
      InLead cache start id key flight := by
    intro start point hcall hseat hconfig hcalls htraffic
    refine ⟨hconfig, hcalls, fun other => ?_, ?_⟩
    · exact congrArg Flight.outcome (congrFun (congrArg Traffic.flights htraffic) other)
    · rw [htraffic]
      exact hregular.orderly.sit_same ((seat_of_call hcall).trans hseat)
  cases hends with
  | found hbegins hlive =>
      obtain ⟨start, hlead, htier1, rfl⟩ := h.of_begins hregular hbegins
      unfold lead
      rw [← Tier1.get_fst, ← htier1] at hlive
      cases hget : start.tier1.get now key with
      | mk held tier1 =>
          rw [hget] at hlive
          cases hlive
          refine ⟨_, ?_, rfl⟩
          exact ⟨hlead.config_eq, hlead.calls_eq, hlead.outcome_eq, hlead.orderly⟩
  | failed hcall =>
      cases h with
      | computed hcall' =>
          cases hcall.symm.trans hcall'
          refine ⟨_, ?_, rfl⟩
          exact hseated hcall rfl rfl rfl rfl
  | late hcall =>
      cases h with
      | timedOut hcall' =>
          cases hcall.symm.trans hcall'
          refine ⟨_, ?_, rfl⟩
          exact hseated hcall rfl rfl rfl rfl
  | @unwritten started value hcall hdurable =>
      cases h with
      | computed hcall' =>
          cases hcall.symm.trans hcall'
          obtain ⟨metrics, hconclude⟩ := cache.conclude_ok started value
          rw [hconclude]
          dsimp only
          rw [if_neg (Bool.eq_false_iff.1 hdurable)]
          refine ⟨_, ?_, rfl⟩
          exact hseated hcall rfl rfl rfl rfl
  | written hcall =>
      cases h with
      | written hcall' | unwritten hcall' =>
          cases hcall.symm.trans hcall'
          refine ⟨_, ?_, rfl⟩
          exact hseated hcall rfl rfl rfl rfl

end Leads

section Outcomes

/-- Landing a flight takes it out of the registry. -/
theorem registry_land (hreg : cache.registry.find? key = some flight) (outcome : Outcome ν) :
    (cache.land id key flight fallback outcome).registry.find? key = none := by
  unfold land
  dsimp only
  rw [if_pos (show (cache.setFlight flight _).registry.find? key = some flight from hreg)]
  obtain ⟨metrics, hsettle⟩ := settle_eq _ id key true fallback outcome
  rw [hsettle]
  exact (Table.find?_erase ..).trans (if_pos rfl)

/-- Landing a flight leaves the outcomes of all others. -/
theorem outcome_land_of_open {other : FlightId} {result : Outcome ν}
    (hout : (cache.flight flight).outcome = some outcome)
    (hopen : (cache.flight other).outcome = none) :
    ((cache.land id key other fallback result).flight flight).outcome = some outcome := by
  have hne : flight ≠ other := by
    rintro rfl
    cases hopen.symm.trans hout
  rw [flight_land, if_neg hne]
  exact hout

/-- Leading a flight leaves the outcomes of all others. -/
theorem outcome_lead_of_open {other : FlightId}
    (hout : (cache.flight flight).outcome = some outcome)
    (hopen : (cache.flight other).outcome = none) :
    ((cache.lead now id key other fallback).flight flight).outcome = some outcome := by
  unfold lead
  cases cache.tier1.get now key with
  | mk held tier1 =>
      cases held with
      | some value =>
          dsimp only
          exact outcome_land_of_open (by exact hout) (by exact hopen)
      | none => exact hout

/-- Joining a flight leaves all outcomes. -/
theorem Regular.outcome_join (h : Regular cache) (change : Metrics → Metrics)
    (hout : (cache.flight flight).outcome = some outcome) :
    (((cache.count change).join now id key fallback).flight flight).outcome = some outcome := by
  have hset : ∀ {other : FlightId} {joined : Flight ν}, (cache.flight other).outcome = none →
      ((if flight = other then joined else cache.flight flight) : Flight ν).outcome =
        some outcome := by
    intro other joined hopen
    rw [if_neg]
    · exact hout
    · rintro rfl
      cases hopen.symm.trans hout
  unfold join
  cases hreg : cache.registry.find? key with
  | none =>
      rw [show (cache.count change).registry.find? key = none from hreg]
      refine outcome_lead_of_open ?_ ?_
      · rw [flight_set_flight]
        exact hset (h.numbered (Nat.le_refl _))
      · rw [flight_set_flight, if_pos rfl]
  | some other =>
      have hopen : (cache.flight other).outcome = none := (h.orderly.registered hreg).2
      rw [show (cache.count change).registry.find? key = some other from hreg]
      dsimp only
      rw [show ((cache.count change).flight other).outcome = none from hopen]
      cases hleader : ((cache.count change).flight other).leader with
      | none =>
          refine outcome_lead_of_open ?_ ?_
          · rw [flight_set_flight]
            exact hset hopen
          · rw [flight_set_flight, if_pos rfl]
      | some leader =>
          show (((cache.count change).setFlight other _).flight flight).outcome = some outcome
          rw [flight_set_flight]
          exact hset hopen

variable [Payload ν] {event : Event ν}

/-- The outcome of a flight stays. -/
theorem Transition.outcome_kept (h : cache.Transition now event next) (hregular : Regular cache)
    (hout : (cache.flight flight).outcome = some outcome) :
    (next.flight flight).outcome = some outcome := by
  have hled : ∀ {id key other} {point : Point ν}, cache.calls.find? id = some ⟨key, point⟩ →
      Call.seat ⟨key, point⟩ = some ⟨key, other, true⟩ → (cache.flight other).outcome = none :=
    fun hcall hseat => (hregular.orderly.leads ((seat_of_call hcall).trans hseat)).2
  cases h with
  | called =>
      rw [flight_enter]
      exact hout
  | answered hcall =>
      rcases receive_cases hcall with ⟨value, -, hreceive⟩ | hreceive | ⟨_, _, -, hreceive⟩ <;>
        rw [hreceive]
      · exact hout
      · exact hout
      · exact hregular.outcome_join _ hout
  | erased => exact hregular.outcome_join _ hout
  | @computed _ _ _ _ started result hcall =>
      cases result with
      | error failure => exact outcome_land_of_open hout (hled hcall rfl)
      | ok value =>
          obtain ⟨metrics, hconclude⟩ := cache.conclude_ok started value
          rw [hconclude]
          dsimp only
          split
          · exact hout
          · exact outcome_land_of_open (by exact hout) (hled hcall rfl)
  | timedOut hcall => exact outcome_land_of_open hout (hled hcall rfl)
  | written hcall | unwritten hcall => exact outcome_land_of_open hout (hled hcall rfl)
  | settled =>
      rw [flight_settle]
      exact hout
  | promoted _ hopen => exact outcome_lead_of_open hout hopen
  | left =>
      rw [flight_leave]
      exact hout
  | served | dropped | forgotten | purged => exact hout

/-- Every step leaves the flights as they should be. -/
theorem Transition.regular (h : cache.Transition now event next) (hregular : Regular cache) :
    Regular next where
  orderly := h.orderly hregular.orderly
  numbered {flight} hlate := by
    by_contra hout
    obtain ⟨outcome, hout⟩ := Option.ne_none_iff_exists'.1 hout
    obtain ⟨id, key, fallback, hends⟩ :=
      h.ended (hregular.numbered (Nat.le_trans h.next_le hlate)) hout
    obtain ⟨start, hlead, rfl⟩ := h.of_ends hregular hends
    rw [next_flight_land] at hlate
    exact Nat.not_lt.2 hlate hlead.registered.2

/-- What the end of a flight leaves behind: the flight has its outcome and is not registered any
more, and the call of its leader is over. -/
theorem Transition.after_end (h : cache.Transition now event next) (hregular : Regular cache)
    (hends : cache.Ends now id key fallback flight event outcome) :
    (cache.flight flight).outcome = none ∧ (next.flight flight).outcome = some outcome ∧
      next.registry.find? key = none ∧
      next.calls.find? id =
        some ⟨key, .returned (verdict cache.config true fallback outcome)⟩ := by
  obtain ⟨start, hlead, rfl⟩ := h.of_ends hregular hends
  refine ⟨hlead.open, ?_, registry_land hlead.registered.1 _, ?_⟩
  · rw [flight_land, if_pos rfl]
  · rw [calls_land, Table.find?_insert, if_pos rfl, hlead.config_eq]

end Outcomes

end GameLibrary.Cache
