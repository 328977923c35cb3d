import GameLibrary.Proofs.Cache.Calls
import GameLibrary.Proofs.Cache.SingleFlight

/-!
# Where values come from

A value comes into memory by promotion or from a computation (`Transition.memory_from`). A flight
ends with a value that its leader has found in memory, has computed, or has written
(`Transition.outcome_from`). What is written to the store are records of computed values
(`System.run_recorded`).
-/

namespace GameLibrary.Cache

variable {ν : Type} {cache : Cache ν} {now : Instant} {id : CallId} {key : Key} {flight : FlightId}
  {fallback : Option ν}

section Memory

@[simp] theorem tier1_settle (cache : Cache ν) (led : Bool) (outcome : Outcome ν) :
    (cache.settle id key led fallback outcome).tier1 = cache.tier1 := by
  obtain ⟨metrics, hsettle⟩ := settle_eq cache id key led fallback outcome
  rw [hsettle]
  rfl

@[simp] theorem tier1_land (cache : Cache ν) (outcome : Outcome ν) :
    (cache.land id key flight fallback outcome).tier1 = cache.tier1 := by
  unfold land
  dsimp only
  split <;> rw [tier1_settle] <;> rfl

@[simp] theorem tier1_lead (cache : Cache ν) :
    (cache.lead now id key flight fallback).tier1 = (cache.tier1.get now key).2 := by
  unfold lead
  cases cache.tier1.get now key with
  | mk held tier1 =>
      cases held with
      | some value =>
          dsimp only
          rw [tier1_land]
      | none => rfl

@[simp] theorem tier1_leave (cache : Cache ν) :
    (cache.leave id flight).tier1 = cache.tier1 := by
  unfold leave handOver
  dsimp only
  split <;> rfl

@[simp] theorem tier1_enter (cache : Cache ν) :
    (cache.enter now id key).tier1 = (cache.tier1.get now key).2 := by
  unfold enter
  cases cache.tier1.get now key with
  | mk held tier1 => cases held <;> rfl

/-- Joining a flight brings nothing into memory. -/
theorem found_of_join {other : Key} {entry : CacheEntry ν}
    (h : (cache.join now id key fallback).tier1.storage.find? other = some entry) :
    cache.tier1.storage.find? other = some entry := by
  -- The look-up of a new leader is all that touches memory, and it can only drop an entry.
  unfold join at h
  cases hreg : cache.registry.find? key with
  | none =>
      rw [hreg] at h
      dsimp only at h
      rw [tier1_lead] at h
      exact Tier1.found_of_get h
  | some flight =>
      rw [hreg] at h
      dsimp only at h
      split at h
      · rw [tier1_settle] at h
        exact h
      · rw [tier1_lead] at h
        exact Tier1.found_of_get h
      · exact h

end Memory

section Outcomes

@[simp] theorem flight_set_flight (cache : Cache ν) (id other : FlightId) (flight : Flight ν) :
    (cache.setFlight id flight).flight other =
      if other = id then flight else cache.flight other := by
  unfold Cache.flight setFlight
  rw [Table.find?_insert]
  split <;> rfl

@[simp] theorem flight_settle (cache : Cache ν) (led : Bool) (outcome : Outcome ν) :
    (cache.settle id key led fallback outcome).flight = cache.flight :=
  congrArg Traffic.flights (traffic_settle cache id key led fallback outcome)

@[simp] theorem flight_enter (cache : Cache ν) :
    (cache.enter now id key).flight = cache.flight := by
  unfold enter
  cases cache.tier1.get now key with
  | mk held tier1 => cases held <;> rfl

@[simp] theorem flight_leave (cache : Cache ν) (other : FlightId) :
    ((cache.leave id flight).flight other).outcome = (cache.flight other).outcome := by
  have hflights := congrArg Traffic.flights (traffic_leave cache id flight)
  show ((cache.leave id flight).traffic.flights other).outcome = _
  rw [hflights, Traffic.flights_set_flight]
  split
  · rename_i hother
    rw [hother, Flight.outcome_without]
  · rfl

@[simp] theorem flight_land (cache : Cache ν) (outcome : Outcome ν) (other : FlightId) :
    (cache.land id key flight fallback outcome).flight other =
      if other = flight then { outcome := some outcome } else cache.flight other := by
  unfold land
  dsimp only
  split <;> rw [flight_settle] <;> exact flight_set_flight ..

/-- A caller that begins to lead may end its flight at once, with what it finds in memory. -/
theorem outcome_of_lead {other : FlightId} {outcome : Outcome ν}
    (h : ((cache.lead now id key flight fallback).flight other).outcome = some outcome) :
    (cache.flight other).outcome = some outcome ∨
      other = flight ∧ ∃ value, cache.tier1.live? now key = some value ∧
        outcome = .ok ⟨value, .tier1⟩ := by
  unfold lead at h
  rw [← Tier1.get_fst]
  cases hget : cache.tier1.get now key with
  | mk held tier1 =>
      rw [hget] at h
      cases held with
      | some value =>
          dsimp only at h
          rw [flight_land] at h
          split at h
          · rename_i hother
            exact .inr ⟨hother, value, rfl, (Option.some.inj h).symm⟩
          · exact .inl h
      | none => exact .inl h

/-- A caller that joins may end the flight of its key at once, or the flight that it opens. -/
theorem outcome_of_join {other : FlightId} {outcome : Outcome ν}
    (h : ((cache.join now id key fallback).flight other).outcome = some outcome) :
    (cache.flight other).outcome = some outcome ∨
      (cache.registry.find? key = some other ∨ other = cache.nextFlight) ∧
        ∃ value, cache.tier1.live? now key = some value ∧ outcome = .ok ⟨value, .tier1⟩ := by
  unfold join at h
  cases hreg : cache.registry.find? key with
  | none =>
      rw [hreg] at h
      rcases outcome_of_lead h with h | ⟨rfl, hvalue⟩
      · -- As it was opened, the new flight had no outcome.
        rw [flight_set_flight] at h
        split at h
        · cases h
        · exact .inl h
      · exact .inr ⟨.inr rfl, hvalue⟩
  | some flight =>
      rw [hreg] at h
      dsimp only at h
      split at h
      · rw [flight_settle] at h
        exact .inl h
      · rename_i hout hleader
        rcases outcome_of_lead h with h | ⟨rfl, hvalue⟩
        · rw [flight_set_flight] at h
          split at h
          · rw [hout] at h
            cases h
          · exact .inl h
        · exact .inr ⟨.inl rfl, hvalue⟩
      · rename_i hout hleader
        have hset : ((cache.setFlight flight { cache.flight flight with
            queue := (cache.flight flight).queue ++ [id] }).flight other).outcome =
              some outcome := h
        rw [flight_set_flight] at hset
        split at hset
        · rename_i hother
          subst hother
          exact .inl hset
        · exact .inl hset

end Outcomes

/-- What brings a value for a key into memory. -/
inductive Brings [Payload ν] (cache : Cache ν) (key : Key) : Event ν → ν → Prop where
  | promoted {id record value} :
      cache.calls.find? id = some ⟨key, .answered (.ok (some record))⟩ → record.key = key →
      Payload.decode record.payload = .ok value → Brings cache key (.answered id) value
  | computed {id flight fallback started value} :
      cache.calls.find? id = some ⟨key, .computing flight fallback started⟩ →
      Brings cache key (.computed id (.ok value)) value

variable [Payload ν] {event : Event ν} {next : Cache ν}

/-- Going on with an answer brings nothing into memory but a fresh value of the key. -/
theorem found_of_receive {answer : ReadAnswer} {other : Key} {entry : CacheEntry ν}
    (h : (cache.receive now id key answer).tier1.storage.find? other = some entry) :
    cache.tier1.storage.find? other = some entry ∨
      other = key ∧ ∃ record, answer = .ok (some record) ∧ record.key = key ∧
        Payload.decode record.payload = .ok entry.value := by
  unfold receive at h
  split at h
  · rename_i value hfresh
    have hinsert : (cache.tier1.insert now key value).storage.find? other = some entry := h
    rcases Tier1.found_of_insert hinsert with ⟨rfl, rfl⟩ | hfound
    · exact .inr ⟨rfl, Durable.usable_from hfresh (.inl rfl)⟩
    · exact .inl hfound
  · have hbefore := found_of_join h
    exact .inl hbefore
  · have hbefore := found_of_join h
    exact .inl hbefore
  · exact .inl h
  · have hbefore := found_of_join h
    exact .inl hbefore

/-- The end of a computation leaves memory with its value, if it is to be kept there. -/
theorem tier1_conclude_ok (cache : Cache ν) (started : Instant) (value : ν) :
    (cache.conclude now id key flight fallback started (.ok value)).tier1 =
      cache.keptTier1 now key value := by
  obtain ⟨metrics, hconclude⟩ := cache.conclude_ok started value
  rw [hconclude]
  dsimp only
  split
  · rfl
  · exact tier1_land _ _

/-- The end of a computation brings nothing into memory but its value. -/
theorem found_of_conclude {started : Instant} {result : Except Failure ν} {other : Key}
    {entry : CacheEntry ν}
    (h : (cache.conclude now id key flight fallback started result).tier1.storage.find? other =
      some entry) :
    cache.tier1.storage.find? other = some entry ∨ other = key ∧ result = .ok entry.value := by
  cases result with
  | error failure =>
      unfold conclude at h
      rw [tier1_land] at h
      exact .inl h
  | ok value =>
      rw [tier1_conclude_ok] at h
      unfold keptTier1 at h
      split at h
      · rcases Tier1.found_of_insert h with ⟨rfl, rfl⟩ | hfound
        · exact .inr ⟨rfl, rfl⟩
        · exact .inl hfound
      · exact .inl h

/-- Memory holds what it held before, or what the event brings. -/
theorem Transition.memory_from (h : cache.Transition now event next) {entry : CacheEntry ν}
    (hfound : next.tier1.storage.find? key = some entry) :
    cache.tier1.storage.find? key = some entry ∨ cache.Brings key event entry.value := by
  cases h with
  | called =>
      rw [tier1_enter] at hfound
      exact .inl (Tier1.found_of_get hfound)
  | answered hcall =>
      rcases found_of_receive hfound with hfound | ⟨rfl, record, rfl, hkey, hdecode⟩
      · exact .inl hfound
      · exact .inr (.promoted hcall hkey hdecode)
  | erased =>
      have hbefore := found_of_join hfound
      exact .inl hbefore
  | computed hcall =>
      rcases found_of_conclude hfound with hfound | ⟨rfl, rfl⟩
      · exact .inl hfound
      · exact .inr (.computed hcall)
  | timedOut =>
      rcases found_of_conclude hfound with hfound | ⟨-, hresult⟩
      · exact .inl hfound
      · cases hresult
  | written | unwritten =>
      rw [tier1_land] at hfound
      exact .inl hfound
  | settled =>
      rw [tier1_settle] at hfound
      exact .inl hfound
  | promoted =>
      rw [tier1_lead] at hfound
      exact .inl (Tier1.found_of_get hfound)
  | left =>
      rw [tier1_leave] at hfound
      exact .inl hfound
  | served | dropped => exact .inl hfound
  | forgotten => exact .inl (Tier1.found_of_remove hfound)
  | purged => exact .inl (Tier1.found_of_purge hfound)

/-- With what a leader for a key may end its flight. -/
inductive Supplies [Payload ν] (cache : Cache ν) (key : Key) : Event ν → ν → Prop where
  | memory {event entry} : cache.tier1.storage.find? key = some entry →
      Supplies cache key event entry.value
  | computed {id flight fallback started value} :
      cache.calls.find? id = some ⟨key, .computing flight fallback started⟩ →
      Supplies cache key (.computed id (.ok value)) value
  | written {id flight fallback value record answer} :
      cache.calls.find? id = some ⟨key, .storing flight fallback value record⟩ →
      Supplies cache key (.written id answer) value

/-- A value that has not expired can end a flight. -/
theorem Supplies.of_live {value : ν} (hlive : cache.tier1.live? now key = some value) :
    cache.Supplies key event value := by
  obtain ⟨entry, hentry, rfl⟩ := Tier1.entry_of_live hlive
  exact .memory hentry

/-- The end of a computation ends a flight with its value, or leaves the flights as they are. -/
theorem outcome_of_conclude {started : Instant} {result : Except Failure ν} {other : FlightId}
    {resolved : Resolved ν}
    (h : ((cache.conclude now id key flight fallback started result).flight other).outcome =
      some (.ok resolved)) :
    (cache.flight other).outcome = some (.ok resolved) ∨
      other = flight ∧ result = .ok resolved.value := by
  cases result with
  | error failure =>
      unfold conclude at h
      rw [flight_land] at h
      split at h
      · cases h
      · exact .inl h
  | ok value =>
      obtain ⟨metrics, hconclude⟩ := cache.conclude_ok started value
      rw [hconclude] at h
      dsimp only at h
      split at h
      · exact .inl h
      · rw [flight_land] at h
        split at h
        · rename_i hother
          cases h
          exact .inr ⟨hother, rfl⟩
        · exact .inl h

/-- A flight had its value already, or it gets it from its leader. -/
theorem Transition.outcome_from (h : cache.Transition now event next)
    (horderly : Traffic.Orderly cache.traffic) {resolved : Resolved ν}
    (hout : (next.flight flight).outcome = some (.ok resolved)) :
    (cache.flight flight).outcome = some (.ok resolved) ∨
      ∃ key, (cache.registry.find? key = some flight ∨ flight = cache.nextFlight) ∧
        cache.Supplies key event resolved.value := by
  -- A caller that sits on a flight without outcome sits on the flight of its key.
  have hseated : ∀ {id key flight leads point},
      cache.calls.find? id = some ⟨key, point⟩ →
      Call.seat ⟨key, point⟩ = some ⟨key, flight, leads⟩ →
      (cache.flight flight).outcome = none → cache.registry.find? key = some flight := by
    intro id key flight leads point hcall hseat hopen
    exact ((horderly.seated ((seat_of_call hcall).trans hseat)).2 hopen).1
  have hled : ∀ {id key flight point}, cache.calls.find? id = some ⟨key, point⟩ →
      Call.seat ⟨key, point⟩ = some ⟨key, flight, true⟩ →
      cache.registry.find? key = some flight := by
    intro id key flight point hcall hseat
    exact hseated hcall hseat (horderly.leads ((seat_of_call hcall).trans hseat)).2
  -- The counters that change before a caller joins a flight have no part in this.
  have hjoin : ∀ {start : Cache ν} {id key fallback},
      ((start.join now id key fallback).flight flight).outcome = some (.ok resolved) →
      start.flight = cache.flight → start.registry = cache.registry →
      start.nextFlight = cache.nextFlight → start.tier1 = cache.tier1 →
      (cache.flight flight).outcome = some (.ok resolved) ∨
        ∃ key, (cache.registry.find? key = some flight ∨ flight = cache.nextFlight) ∧
          cache.Supplies key event resolved.value := by
    intro start id key fallback hjoined hflight hregistry hnext htier1
    rcases outcome_of_join hjoined with hbefore | ⟨hplace, value, hlive, hvalue⟩
    · rw [hflight] at hbefore
      exact .inl hbefore
    · cases hvalue
      rw [hregistry, hnext] at hplace
      rw [htier1] at hlive
      exact .inr ⟨key, hplace, .of_live hlive⟩
  cases h with
  | called =>
      rw [flight_enter] at hout
      exact .inl hout
  | answered =>
      unfold receive at hout
      split at hout
      · exact .inl hout
      · exact hjoin hout rfl rfl rfl rfl
      · exact hjoin hout rfl rfl rfl rfl
      · exact .inl hout
      · exact hjoin hout rfl rfl rfl rfl
  | erased => exact hjoin hout rfl rfl rfl rfl
  | computed hcall =>
      rcases outcome_of_conclude hout with hbefore | ⟨rfl, rfl⟩
      · exact .inl hbefore
      · exact .inr ⟨_, .inl (hled hcall rfl), .computed hcall⟩
  | timedOut =>
      rcases outcome_of_conclude hout with hbefore | ⟨-, hresult⟩
      · exact .inl hbefore
      · cases hresult
  | written hcall =>
      rw [flight_land] at hout
      split at hout
      · rename_i hflight
        cases hout
        subst hflight
        exact .inr ⟨_, .inl (hled hcall rfl), .written hcall⟩
      · exact .inl hout
  | unwritten hcall =>
      rw [flight_land] at hout
      split at hout
      · rename_i hflight
        cases hout
        subst hflight
        exact .inr ⟨_, .inl (hled hcall rfl), .written hcall⟩
      · exact .inl hout
  | settled =>
      rw [flight_settle] at hout
      exact .inl hout
  | promoted hcall hopen =>
      rcases outcome_of_lead hout with hbefore | ⟨rfl, value, hlive, hvalue⟩
      · exact .inl hbefore
      · cases hvalue
        exact .inr ⟨_, .inl (hseated hcall rfl hopen), .of_live hlive⟩
  | left =>
      rw [flight_leave] at hout
      exact .inl hout
  | served | dropped | forgotten | purged => exact .inl hout

end GameLibrary.Cache

namespace GameLibrary.System

variable {σ ν : Type} [Payload ν]

/-- The callers that write to the store write records of their values for their keys. -/
structure Recorded (config : Cache.Config) (system : System σ ν) : Prop where
  config_eq : system.cache.config = config
  recorded : ∀ {id key flight fallback value record},
    system.cache.calls.find? id = some ⟨key, .storing flight fallback value record⟩ →
    ∃ time, record = Durable.record config.durable time key value

/-- Without calls nothing is written. -/
theorem recorded_start (config : Cache.Config) (store : σ) (now : Instant) :
    Recorded config (⟨.ofConfig config, store, now, .empty⟩ : System σ ν) where
  config_eq := rfl
  recorded hcall := by cases hcall

variable [Backend σ]

/-- Every step keeps to the records. -/
theorem step_recorded {config : Cache.Config} {system next : System σ ν} {event : Event ν}
    (h : Recorded config system) (hstep : system.step event = some next) :
    Recorded config next := by
  rcases (step_transition hstep).cache_transition with hcache | ⟨own, hcache⟩
  · exact ⟨by rw [hcache]; exact h.config_eq, by rw [hcache]; exact h.recorded⟩
  · refine ⟨hcache.config_eq.trans h.config_eq, fun hcall => ?_⟩
    rcases hcache.arrival hcall with hcall | harrival
    · exact h.recorded hcall
    · obtain ⟨-, -, hrecord⟩ := harrival.storing_from
      rw [h.config_eq] at hrecord
      exact ⟨system.now, hrecord⟩

/-- Every run keeps to the records. -/
theorem run_recorded {config : Cache.Config} {start finish : System σ ν} {events : List (Event ν)}
    (h : Recorded config start) (hrun : start.run events = some finish) :
    Recorded config finish :=
  run_invariant (Recorded config) step_recorded h hrun

end GameLibrary.System
