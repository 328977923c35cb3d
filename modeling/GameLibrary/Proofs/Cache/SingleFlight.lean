import GameLibrary.Proofs.Cache.Runs
import GameLibrary.Proofs.Cache.Traffic

/-!
# One computation for a key

Whatever callers do, and in whatever order, a key has at most one computation at a time: the traffic
of the cache is orderly after every step (`Transition.orderly`), so it is after every run.
`SingleFlight` says what this means for the callers, and `run_single_flight` that every run keeps to
it.
-/

namespace GameLibrary.Cache

open Traffic (Orderly)

variable {ν : Type}

/-- The flights of the cache and who sits on them. -/
def traffic (cache : Cache ν) : Traffic ν where
  registry := cache.registry.find?
  next := cache.nextFlight
  flights := cache.flight
  seats id := (cache.calls.find? id).bind Call.seat

@[simp] theorem traffic_count (cache : Cache ν) (change : Metrics → Metrics) :
    (cache.count change).traffic = cache.traffic := rfl

@[simp] theorem traffic_keep (cache : Cache ν) (now : Instant) (key : Key) (value : ν) :
    (cache.keep now key value).traffic = cache.traffic := rfl

@[simp] theorem traffic_set_point (cache : Cache ν) (id : CallId) (key : Key) (point : Point ν) :
    (cache.setPoint id key point).traffic = cache.traffic.sit id (Call.seat ⟨key, point⟩) := by
  unfold traffic setPoint Traffic.sit
  congr 1
  funext other
  rw [Table.find?_insert, Function.update_apply]
  split <;> rfl

@[simp] theorem traffic_set_flight (cache : Cache ν) (id : FlightId) (flight : Flight ν) :
    (cache.setFlight id flight).traffic = cache.traffic.setFlight id flight := by
  unfold traffic setFlight Traffic.setFlight
  congr 1
  funext other
  unfold Cache.flight
  rw [Table.find?_insert, Function.update_apply]
  split <;> rfl

/-- Taking a flight out of the registry. -/
theorem traffic_unregister (cache : Cache ν) (key : Key) :
    traffic { cache with registry := cache.registry.erase key } =
      cache.traffic.register key none := by
  unfold traffic Traffic.register
  congr 1
  funext other
  rw [Table.find?_erase, Function.update_apply]

/-- Entering a new flight in the registry. -/
theorem traffic_register (cache : Cache ν) (key : Key) :
    traffic { cache with
      registry := cache.registry.insert key cache.nextFlight
      nextFlight := cache.nextFlight + 1 } =
      { cache.traffic.register key (some cache.nextFlight) with next := cache.nextFlight + 1 } := by
  unfold traffic Traffic.register
  congr 1
  funext other
  rw [Table.find?_insert]
  exact (Function.update_apply ..).symm

/-- A call that is forgotten has no seat. -/
theorem traffic_erase_call (cache : Cache ν) (id : CallId) :
    traffic { cache with calls := cache.calls.erase id } = cache.traffic.sit id none := by
  unfold traffic Traffic.sit
  congr 1
  funext other
  rw [Table.find?_erase, Function.update_apply]
  split <;> rfl

/-- A caller that has its outcome gives up its seat. -/
@[simp] theorem traffic_settle (cache : Cache ν) (id : CallId) (key : Key) (led : Bool)
    (fallback : Option ν) (outcome : Outcome ν) :
    (cache.settle id key led fallback outcome).traffic = cache.traffic.sit id none := by
  have hled : (if led then cache else cache.count .coalescedWait).traffic = cache.traffic := by
    cases led <;> rfl
  unfold settle
  rw [traffic_set_point]
  split
  · rw [traffic_count, hled]
    rfl
  · rw [hled]
    rfl

variable {cache : Cache ν} {now : Instant} {id : CallId} {key : Key} {flight : FlightId}
  {fallback : Option ν}

/-- Landing a registered flight gives it its outcome, takes it out of the registry, and its leader
off its seat. -/
theorem traffic_land {outcome : Outcome ν} (hreg : cache.registry.find? key = some flight) :
    (cache.land id key flight fallback outcome).traffic =
      ((cache.traffic.setFlight flight { outcome := some outcome }).register key none).sit id
        none := by
  unfold land
  dsimp only
  rw [if_pos (show (cache.setFlight flight _).registry.find? key = some flight from hreg),
    traffic_settle, traffic_unregister, traffic_set_flight]

/-- Landing a flight keeps the traffic orderly, if its leader sat on it. -/
theorem land_orderly {outcome : Outcome ν}
    (h : Orderly (cache.traffic.sit id (some ⟨key, flight, true⟩))) :
    Orderly (cache.land id key flight fallback outcome).traffic := by
  have hseat : (cache.traffic.sit id (some ⟨key, flight, true⟩)).seats id =
      some ⟨key, flight, true⟩ := by simp
  have hland := h.land outcome hseat
  rw [traffic_land ((h.seated hseat).2 (h.leads hseat).2).1]
  -- The seat that is given up is given up whatever it was.
  have hsame : (((cache.traffic.sit id (some ⟨key, flight, true⟩)).setFlight flight
      { outcome := some outcome }).register key none).sit id none =
        ((cache.traffic.setFlight flight { outcome := some outcome }).register key none).sit id
          none :=
    Traffic.sit_sit ((cache.traffic.setFlight flight { outcome := some outcome }).register key none)
      id _ none
  rw [← hsame]
  exact hland

/-- Beginning to lead keeps the traffic orderly, if the caller sits at the head of the flight. -/
theorem lead_orderly (h : Orderly (cache.traffic.sit id (some ⟨key, flight, true⟩))) :
    Orderly (cache.lead now id key flight fallback).traffic := by
  unfold lead
  cases hheld : cache.tier1.get now key with
  | mk held tier1 =>
      cases held with
      | some value =>
          show Orderly (({ cache with tier1 } : Cache ν).land id key flight fallback _).traffic
          exact land_orderly h
      | none =>
          simp only [traffic_set_point]
          exact h

/-- Joining the flight of a key, or opening one, keeps the traffic orderly. -/
theorem join_orderly (h : Orderly cache.traffic) (hseat : cache.traffic.seats id = none) :
    Orderly (cache.join now id key fallback).traffic := by
  unfold join
  cases hreg : cache.registry.find? key with
  | none =>
      apply lead_orderly
      rw [traffic_set_flight, traffic_register]
      exact h.open_lead hseat hreg
  | some flight =>
      dsimp only
      split
      · rw [traffic_settle]
        exact h.sit_same hseat
      · rename_i hleader
        apply lead_orderly
        rw [traffic_set_flight]
        exact h.take_lead hseat hreg hleader
      · rename_i leader _ hleader
        rw [traffic_set_point, traffic_set_flight]
        refine h.enqueue hseat hreg ?_
        rw [show (cache.traffic.flights flight).leader = some leader from hleader]
        exact Option.some_ne_none leader

/-- Looking a key up in memory keeps the traffic orderly. -/
theorem enter_orderly (h : Orderly cache.traffic) (hseat : cache.traffic.seats id = none) :
    Orderly (cache.enter now id key).traffic := by
  unfold enter
  cases cache.tier1.get now key with
  | mk held tier1 =>
      cases held <;>
      · rw [traffic_set_point]
        exact h.sit_same hseat

/-- Going on without a computation in sight keeps the traffic orderly. -/
theorem receive_orderly [Payload ν] {answer : ReadAnswer} (h : Orderly cache.traffic)
    (hseat : cache.traffic.seats id = none) :
    Orderly (cache.receive now id key answer).traffic := by
  unfold receive
  split
  · rw [traffic_set_point]
    exact h.sit_same hseat
  · exact join_orderly h hseat
  · exact join_orderly h hseat
  · rw [traffic_set_point]
    exact h.sit_same hseat
  · exact join_orderly h hseat

/-- The end of a computation keeps the traffic orderly. -/
theorem conclude_orderly [Payload ν] {started : Instant} {result : Except Failure ν}
    (h : Orderly cache.traffic) (hseat : cache.traffic.seats id = some ⟨key, flight, true⟩) :
    Orderly (cache.conclude now id key flight fallback started result).traffic := by
  have hsit := h.sit_same hseat
  cases result with
  | error failure =>
      show Orderly ((cache.count .originFailure).land id key flight fallback _).traffic
      exact land_orderly hsit
  | ok value =>
      unfold conclude
      dsimp only
      -- Neither the counters nor memory belong to the traffic.
      generalize hkept : (if cache.config.partialPolicy.keepsInMemory (Payload.isComplete value)
        then _ else _ : Cache ν) = kept
      have htraffic : kept.traffic = cache.traffic := by
        subst hkept
        split <;> split <;> rfl
      split
      · rw [traffic_set_point, htraffic]
        exact hsit
      · exact land_orderly (by rw [htraffic]; exact hsit)

/-- Leaving a flight is the same for its leader as for everybody else. -/
theorem traffic_leave (cache : Cache ν) (id : CallId) (flight : FlightId) :
    (cache.leave id flight).traffic =
      cache.traffic.setFlight flight ((cache.flight flight).without id) := by
  unfold leave handOver Flight.without
  dsimp only
  split <;> rw [traffic_set_flight]

/-- The seat of a call in the traffic of its cache. -/
theorem seat_of_call {call : Call ν} (hcall : cache.calls.find? id = some call) :
    cache.traffic.seats id = call.seat := by
  show (cache.calls.find? id).bind Call.seat = call.seat
  rw [hcall, Option.bind_some]

/-- Every step keeps the traffic orderly. -/
theorem Transition.orderly [Payload ν] {event : Event ν} {next : Cache ν}
    (hstep : cache.Transition now event next) (h : Orderly cache.traffic) :
    Orderly next.traffic := by
  cases hstep with
  | called hcall =>
      refine enter_orderly h ?_
      show (cache.calls.find? _).bind Call.seat = none
      rw [hcall, Option.bind_none]
  | served hcall =>
      have hseat : cache.traffic.seats _ = none := seat_of_call hcall
      rw [traffic_set_point]
      exact h.sit_same hseat
  | answered hcall => exact receive_orderly h (seat_of_call hcall)
  | erased hcall => exact join_orderly h (seat_of_call hcall)
  | computed hcall => exact conclude_orderly h (seat_of_call hcall)
  | timedOut hcall _ => exact conclude_orderly h (seat_of_call hcall)
  | written hcall => exact land_orderly (h.sit_same (seat_of_call hcall))
  | unwritten hcall => exact land_orderly (h.sit_same (seat_of_call hcall))
  | settled hcall hout =>
      rw [traffic_settle]
      refine h.disembark (seat_of_call hcall) ?_
      show (cache.flight _).outcome ≠ none
      rw [hout]
      exact Option.some_ne_none _
  | promoted hcall _ hleader => exact lead_orderly (h.promote (seat_of_call hcall) hleader)
  | left hcall hseat =>
      rw [traffic_leave, traffic_erase_call]
      exact h.leave ((seat_of_call hcall).trans hseat)
  | dropped hcall hseat =>
      rw [traffic_erase_call]
      exact h.sit_same ((seat_of_call hcall).trans hseat)
  | forgotten => exact h
  | purged => exact h

/-- Every run from a cache without calls keeps the traffic orderly. -/
theorem run_orderly [Payload ν] {config : Config} {events : List (Instant × Event ν)}
    {finish : Cache ν} (hrun : (ofConfig config).run events = some finish) :
    Orderly finish.traffic :=
  run_invariant (fun cache => Orderly cache.traffic)
    (fun h hstep => (step_transition hstep).orderly h) Traffic.orderly_empty hrun

/-- A caller leads a flight, or waits for it and is the next to lead. -/
def MayLead (cache : Cache ν) (id : CallId) (flight : FlightId) : Prop :=
  ∃ call, cache.calls.find? id = some call ∧ (call.seat = some ⟨call.key, flight, true⟩ ∨
    call.seat = some ⟨call.key, flight, false⟩ ∧ (cache.flight flight).leader = some id)

/-- Callers share the computation for a key. -/
structure SingleFlight (cache : Cache ν) : Prop where
  /-- No two callers compute for one key. -/
  one_computation : ∀ {id other key flight flight' fallback fallback' started started'},
    cache.calls.find? id = some ⟨key, .computing flight fallback started⟩ →
    cache.calls.find? other = some ⟨key, .computing flight' fallback' started'⟩ → id = other
  /-- A caller in the lead, be it computing or writing, leads the registered flight of its key. -/
  leader_registered : ∀ {id call flight}, cache.calls.find? id = some call →
    call.seat = some ⟨call.key, flight, true⟩ → cache.registry.find? call.key = some flight
  /-- A flight with an outcome is not registered. -/
  registered_open : ∀ {key flight}, cache.registry.find? key = some flight →
    (cache.flight flight).outcome = none
  /-- A flight without outcome for which somebody waits has one caller that leads it or may. -/
  one_leader : ∀ {flight}, (cache.flight flight).outcome = none →
    (∃ id key fallback, cache.calls.find? id = some ⟨key, .waiting flight fallback⟩) →
    ∃! id, cache.MayLead id flight

/-- A seat is taken for the key of the call. -/
theorem Call.key_of_seat {call : Call ν} {seat : Seat} (hseat : call.seat = some seat) :
    seat.key = call.key := by
  obtain ⟨key, point⟩ := call
  cases point <;> cases hseat <;> rfl

/-- Whoever may lead a flight stands at the head of its line. -/
theorem MayLead.leader (h : Orderly cache.traffic) (hmay : cache.MayLead id flight) :
    (cache.flight flight).leader = some id := by
  obtain ⟨call, hcall, hleads | ⟨-, hleader⟩⟩ := hmay
  · exact (h.leads ((seat_of_call hcall).trans hleads)).1
  · exact hleader

/-- The head of a line may lead. -/
theorem may_lead_of_leader (h : Orderly cache.traffic)
    (hleader : (cache.flight flight).leader = some id) : cache.MayLead id flight := by
  have hline : id ∈ (cache.traffic.flights flight).line :=
    List.mem_append_left _ (by
      rw [show (cache.traffic.flights flight).leader = some id from hleader]
      exact List.mem_singleton_self id)
  obtain ⟨⟨key, flight', leads⟩, hseat, rfl⟩ := Option.map_eq_some_iff.1 (h.lined hline).2
  obtain ⟨call, hcall, hcallSeat⟩ := Option.bind_eq_some_iff.1 hseat
  refine ⟨call, hcall, ?_⟩
  cases Call.key_of_seat hcallSeat
  cases leads with
  | true => exact .inl hcallSeat
  | false => exact .inr ⟨hcallSeat, hleader⟩

/-- Whatever callers do, whenever they are dropped and however computations end, they share the
computation for a key. -/
theorem run_single_flight [Payload ν] {config : Config} {events : List (Instant × Event ν)}
    {finish : Cache ν} (hrun : (ofConfig config).run events = some finish) :
    SingleFlight finish := by
  have h := run_orderly hrun
  have hregistered : ∀ {id call flight}, finish.calls.find? id = some call →
      call.seat = some ⟨call.key, flight, true⟩ → finish.registry.find? call.key = some flight := by
    intro id call flight hcall hseat
    have hled := (seat_of_call hcall).trans hseat
    exact ((h.seated hled).2 (h.leads hled).2).1
  refine ⟨?_, hregistered, fun hreg => (h.registered hreg).2, ?_⟩
  · intro id other key flight flight' fallback fallback' started started' hid hother
    have hflight := hregistered hid rfl
    rw [show finish.registry.find? key = some flight' from hregistered hother rfl] at hflight
    cases hflight
    have hleader := (h.leads (seat_of_call hid)).1
    rw [(h.leads (seat_of_call hother)).1] at hleader
    exact (Option.some.inj hleader).symm
  · intro flight hopen hsomeone
    obtain ⟨id, key, fallback, hwaiting⟩ := hsomeone
    have hline := ((h.seated (seat_of_call hwaiting)).2 hopen).2
    cases hleader : (finish.flight flight).leader with
    | none =>
        -- Then the line would be empty.
        have hqueue := h.headed hleader
        rw [Flight.line, hqueue, show (finish.traffic.flights flight).leader = none from hleader]
          at hline
        cases hline
    | some leader =>
        refine ⟨leader, may_lead_of_leader h hleader, ?_⟩
        intro other hother
        have hsame := hother.leader h
        rw [hleader] at hsame
        exact (Option.some.inj hsame).symm

/-- Two callers miss a key, and the first is dropped while it computes. -/
def deposedLeader : List (Instant × Event UInt32) :=
  [(⟨0⟩, .called 0 .zeros), (⟨0⟩, .called 1 .zeros), (⟨1⟩, .served 0 (.ok none)),
    (⟨1⟩, .served 1 (.ok none)), (⟨2⟩, .answered 0), (⟨2⟩, .answered 1), (⟨3⟩, .dropped 0)]

/-- The second caller may lead then, and nobody else. -/
theorem run_single_flight_deposed :
    ∃ finish, (ofConfig {}).run deposedLeader = some finish ∧ finish.MayLead 1 0 ∧
      SingleFlight finish := by
  have hrun : ∃ finish, (ofConfig {}).run deposedLeader = some finish ∧ finish.MayLead 1 0 :=
    ⟨_, rfl, _, rfl, .inr ⟨rfl, rfl⟩⟩
  obtain ⟨finish, hrun, hmay⟩ := hrun
  exact ⟨finish, hrun, hmay, run_single_flight hrun⟩

end GameLibrary.Cache

namespace GameLibrary.System

open Cache.Traffic (Orderly)

/-- Every run of a system keeps its traffic orderly. -/
theorem run_orderly {σ ν : Type} [Backend σ] [Payload ν] {start finish : System σ ν}
    {events : List (Event ν)}
    (h : Orderly start.cache.traffic) (hrun : start.run events = some finish) :
    Orderly finish.cache.traffic := by
  refine run_invariant (fun system => Orderly system.cache.traffic) ?_ h hrun
  intro system event next h hstep
  rcases (step_transition hstep).cache_transition with hcache | ⟨own, hcache⟩
  · rw [hcache]
    exact h
  · exact hcache.orderly h

end GameLibrary.System
