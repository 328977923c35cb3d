import GameLibrary.Proofs.Cache.Memory

/-!
# A cache as seen from one key

Keys share the cache, but not what it does for them. The slice of a cache for a key is all that the
cache has to do with the key: the entry in memory, the flight that the key is registered with, and
where the callers for the key stand. Flights are numbered through all keys, so their numbers are
left out, and a caller that waits is seen with what its flight has come to.

Slices have steps of their own (`Slice.step`). An event for the key does to the slice what it does
to the cache (`slice_step`), as long as the tier in memory is not full when something is inserted.
-/

namespace GameLibrary.Cache

open Traffic (Orderly)
open Function (update)

variable {ν : Type}

/-- Where a caller stands, as far as its key is concerned. -/
inductive Place (ν : Type) where
  | reading
  | answered (answer : ReadAnswer)
  | erasing
  /-- The caller waits for a flight, which may have an outcome by now. -/
  | waiting (outcome : Option (Outcome ν)) (fallback : Option ν)
  | computing (fallback : Option ν) (started : Instant)
  | storing (fallback : Option ν) (value : ν) (record : Record)
  | returned (outcome : Outcome ν)

namespace Place

/-- Whether the caller is in the line of a flight that has no outcome. -/
def inLine : Place ν → Bool
  | waiting none _ | computing _ _ | storing _ _ _ => true
  | _ => false

/-- The place of a caller when the flight of its key has come to an outcome. -/
def told (outcome : Outcome ν) : Place ν → Place ν
  | waiting none fallback => waiting (some outcome) fallback
  | place => place

end Place

/-- The place of a caller, where it is known what flights have come to. -/
def Point.place (outcomes : FlightId → Option (Outcome ν)) : Point ν → Place ν
  | .reading => .reading
  | .answered answer => .answered answer
  | .erasing => .erasing
  | .waiting flight fallback => .waiting (outcomes flight) fallback
  | .computing _ fallback started => .computing fallback started
  | .storing _ fallback value record => .storing fallback value record
  | .returned outcome => .returned outcome

/-- What a cache has to do with one key. -/
@[ext]
structure Slice (ν : Type) where
  config : Config
  /-- How long entries stay in memory. -/
  ttl : Duration
  entry : Option (CacheEntry ν)
  /-- The flight that a new caller joins. -/
  flight : Option (Flight ν)
  calls : CallId → Option (Place ν)

namespace Slice

/-- The slice in which a caller stands at another place. -/
def set (s : Slice ν) (id : CallId) (place : Place ν) : Slice ν :=
  { s with calls := update s.calls id (some place) }

/-- The value in memory that has not expired. -/
def live? (s : Slice ν) (now : Instant) : Option ν :=
  (s.entry.filter (!·.isExpired now)).map CacheEntry.value

/-- The slice without an entry that has expired. -/
def look (s : Slice ν) (now : Instant) : Slice ν :=
  { s with entry := s.entry.filter (!·.isExpired now) }

/-- The slice with a value in memory. -/
def keep (s : Slice ν) (now : Instant) (value : ν) : Slice ν :=
  { s with entry := some ⟨value, now, s.ttl⟩ }

/-- Ends a call with the outcome of its flight. -/
def settle (s : Slice ν) (id : CallId) (led : Bool) (fallback : Option ν) (outcome : Outcome ν) :
    Slice ν :=
  s.set id (.returned (verdict s.config led fallback outcome))

/-- Ends the flight, and the call of its leader. Whoever waits for it is told. -/
def land (s : Slice ν) (id : CallId) (fallback : Option ν) (outcome : Outcome ν) : Slice ν :=
  ({ s with
    flight := none
    calls := fun other => (s.calls other).map (Place.told outcome) } : Slice ν).settle id true
      fallback outcome

/-- Begins to lead. -/
def lead (s : Slice ν) (now : Instant) (id : CallId) (fallback : Option ν) : Slice ν :=
  match s.live? now with
  | some value => (s.look now).land id fallback (.ok ⟨value, .tier1⟩)
  | none => (s.look now).set id (.computing fallback now)

/-- Joins the flight, or opens one. -/
def join (s : Slice ν) (now : Instant) (id : CallId) (fallback : Option ν) : Slice ν :=
  match s.flight with
  | none => ({ s with flight := some { leader := some id } } : Slice ν).lead now id fallback
  | some flight =>
      match flight.leader with
      | none =>
          ({ s with flight := some { flight with leader := some id } } : Slice ν).lead now id
            fallback
      | some _ =>
          ({ s with flight := some { flight with queue := flight.queue ++ [id] } } : Slice ν).set id
            (.waiting none fallback)

/-- Looks the key up in memory. -/
def enter (s : Slice ν) (now : Instant) (id : CallId) : Slice ν :=
  match s.live? now with
  | some value => (s.look now).set id (.returned (.ok ⟨value, .tier1⟩))
  | none => (s.look now).set id .reading

section Payloads

variable [Payload ν]

/-- Goes on with the answer of the durable store. -/
def receive (s : Slice ν) (now : Instant) (key : Key) (id : CallId) (answer : ReadAnswer) :
    Slice ν :=
  match Durable.finding s.config.durable now key answer with
  | .usable (.fresh value) => (s.keep now value).set id (.returned (.ok ⟨value, .tier2⟩))
  | .usable (.stale value) => s.join now id (some value)
  | .usable .missing => s.join now id none
  | .outdated => s.set id .erasing
  | .failed _ => s.join now id none

/-- Goes on with the result of the computation. -/
def conclude (s : Slice ν) (now : Instant) (key : Key) (id : CallId) (fallback : Option ν) :
    Except Failure ν → Slice ν
  | .error failure => s.land id fallback (.error failure)
  | .ok value =>
      let kept :=
        if s.config.partialPolicy.keepsInMemory (Payload.isComplete value) then s.keep now value
        else s
      if s.config.partialPolicy.keepsDurably (Payload.isComplete value) then
        kept.set id (.storing fallback value (Durable.record s.config.durable now key value))
      else kept.land id fallback (.ok ⟨value, .origin⟩)

/-- The slice without a caller. -/
def drop (s : Slice ν) (id : CallId) (place : Place ν) : Slice ν :=
  { s with
    calls := update s.calls id none
    flight := if place.inLine then s.flight.map (·.without id) else s.flight }

/-- What an event for the key does at a given time, if it can happen. -/
def step (s : Slice ν) (now : Instant) (key : Key) : Event ν → Option (Slice ν)
  | .called id _ =>
      match s.calls id with
      | none => some (s.enter now id)
      | some _ => none
  | .served id answer =>
      match s.calls id with
      | some .reading => some (s.set id (.answered answer))
      | _ => none
  | .answered id =>
      match s.calls id with
      | some (.answered answer) => some (s.receive now key id answer)
      | _ => none
  | .erased id =>
      match s.calls id with
      | some .erasing => some (s.join now id none)
      | _ => none
  | .computed id result =>
      match s.calls id with
      | some (.computing fallback _) => some (s.conclude now key id fallback result)
      | _ => none
  | .timedOut id =>
      match s.calls id with
      | some (.computing fallback started) =>
          let limit := s.config.resolveTimeout
          if limit ≤ now.since started then
            some (s.conclude now key id fallback (.error (.resolveTimeout key.text limit)))
          else none
      | _ => none
  | .written id _ =>
      match s.calls id with
      | some (.storing fallback value _) => some (s.land id fallback (.ok ⟨value, .origin⟩))
      | _ => none
  | .resumed id =>
      match s.calls id with
      | some (.waiting (some outcome) fallback) => some (s.settle id false fallback outcome)
      | some (.waiting none fallback) =>
          if s.flight.bind Flight.leader = some id then some (s.lead now id fallback) else none
      | _ => none
  | .dropped id => (s.calls id).map (s.drop id)
  | .forgotten _ => some { s with entry := none }
  | .purged => some (s.look now)

end Payloads

end Slice

/-- What the flights of a cache have come to. -/
def outcomes (cache : Cache ν) (flight : FlightId) : Option (Outcome ν) :=
  (cache.flight flight).outcome

/-- What the cache has to do with a key. -/
def slice (cache : Cache ν) (key : Key) : Slice ν where
  config := cache.config
  ttl := cache.tier1.config.ttl
  entry := cache.tier1.storage.find? key
  flight := (cache.registry.find? key).map cache.flight
  calls id := ((cache.calls.find? id).filter fun call => call.key = key).map fun call =>
    call.point.place cache.outcomes

variable {cache : Cache ν} {now : Instant} {id : CallId} {key other : Key} {flight : FlightId}
  {fallback : Option ν} {point : Point ν}

/-- A caller for the key has a place in the slice. -/
theorem place_of_call (hcall : cache.calls.find? id = some ⟨key, point⟩) :
    (cache.slice key).calls id = some (point.place cache.outcomes) := by
  unfold slice
  dsimp only
  rw [hcall]
  simp [Option.filter]

/-- A place in the slice is that of a caller for the key. -/
theorem call_of_place {place : Place ν} (hplace : (cache.slice key).calls id = some place) :
    ∃ point, cache.calls.find? id = some ⟨key, point⟩ ∧ point.place cache.outcomes = place := by
  unfold slice at hplace
  obtain ⟨call, hcall, hpoint⟩ := Option.map_eq_some_iff.1 hplace
  obtain ⟨hfound, hkey⟩ := Option.filter_eq_some_iff.1 hcall
  obtain ⟨k, point⟩ := call
  obtain rfl : k = key := of_decide_eq_true hkey
  exact ⟨point, hfound, hpoint⟩

/-- Who has no call has no place. -/
theorem place_of_free (hfree : cache.calls.find? id = none) :
    (cache.slice key).calls id = none := by
  unfold slice
  dsimp only
  rw [hfree]
  rfl

/-- The key is registered with the flight, which has no outcome, and whoever waits for the key and
for a flight without outcome waits for this one. -/
structure Joined (cache : Cache ν) (key : Key) (flight : FlightId) : Prop where
  registered : cache.registry.find? key = some flight
  opened : cache.outcomes flight = none
  waiting : ∀ {id other fallback}, cache.calls.find? id = some ⟨key, .waiting other fallback⟩ →
    cache.outcomes other = none → other = flight

/-- Where the traffic is orderly, a registered flight is that of its key. -/
theorem joined_of_orderly (h : Orderly cache.traffic)
    (hreg : cache.registry.find? key = some flight) : cache.Joined key flight where
  registered := hreg
  opened := (h.registered hreg).2
  waiting hcall hopen := by
    have hregistered := ((h.seated (seat_of_call hcall)).2 hopen).1
    exact Option.some.inj (hregistered.symm.trans hreg)

/-- The event is one for the key: somebody asks for it, a caller for it goes on or is dropped, or it
is removed from memory. -/
inductive Concerns (cache : Cache ν) (key : Key) : Event ν → Prop where
  | called {id : CallId} : cache.calls.find? id = none → Concerns cache key (.called id key)
  | caller {event : Event ν} {id point} : event.caller = some id →
      cache.calls.find? id = some ⟨key, point⟩ → Concerns cache key event
  | forgotten : Concerns cache key (.forgotten key)

section Own

/-! ## What is done for the key -/

theorem slice_set_point (cache : Cache ν) (id : CallId) (key : Key) (point : Point ν) :
    (cache.setPoint id key point).slice key =
      (cache.slice key).set id (point.place cache.outcomes) := by
  refine Slice.ext rfl rfl rfl rfl (funext fun caller => ?_)
  unfold slice setPoint Slice.set
  dsimp only
  rw [Table.find?_insert, Function.update_apply]
  split
  · simp [Option.filter]
    rfl
  · rfl

theorem slice_settle (cache : Cache ν) (id : CallId) (key : Key) (led : Bool) (fallback : Option ν)
    (outcome : Outcome ν) : (cache.settle id key led fallback outcome).slice key =
      (cache.slice key).settle id led fallback outcome := by
  obtain ⟨metrics, hsettle⟩ := settle_eq cache id key led fallback outcome
  rw [hsettle, slice_set_point]
  rfl

/-- A flight that changes may come to an outcome, and no other does. -/
theorem outcomes_set_flight (cache : Cache ν) (flight : FlightId) (changed : Flight ν) :
    (cache.setFlight flight changed).outcomes = update cache.outcomes flight changed.outcome := by
  funext g
  unfold outcomes
  rw [flight_set_flight, Function.update_apply]
  split <;> rfl

/-- The flight of the key changes, and stays open. -/
theorem slice_set_flight {changed : Flight ν} (hreg : cache.registry.find? key = some flight)
    (houtcome : changed.outcome = cache.outcomes flight) :
    (cache.setFlight flight changed).slice key =
      { cache.slice key with flight := some changed } := by
  refine Slice.ext rfl rfl rfl ?_ ?_
  · unfold slice
    show (cache.registry.find? key).map (cache.setFlight flight changed).flight = some changed
    rw [hreg, Option.map_some, flight_set_flight, if_pos rfl]
  · unfold slice
    rw [outcomes_set_flight, houtcome, Function.update_eq_self]
    rfl

/-- The flight of the key stays the flight of the key as long as it has no outcome. -/
theorem Joined.set_flight (h : cache.Joined key flight) {changed : Flight ν}
    (hopen : changed.outcome = none) : (cache.setFlight flight changed).Joined key flight := by
  have houtcomes : (cache.setFlight flight changed).outcomes = cache.outcomes := by
    rw [outcomes_set_flight, hopen, ← h.opened, Function.update_eq_self]
  constructor
  · exact h.registered
  · rw [houtcomes]
    exact h.opened
  · rw [houtcomes]
    exact h.waiting

/-- When the flight of a key comes to an outcome, its callers are told. -/
theorem place_told (h : cache.Joined key flight) (outcome : Outcome ν)
    (hcall : cache.calls.find? id = some ⟨key, point⟩) :
    point.place (update cache.outcomes flight (some outcome)) =
      (point.place cache.outcomes).told outcome := by
  cases point with
  | waiting other given =>
      show Place.waiting (update cache.outcomes flight (some outcome) other) given = _
      rw [Function.update_apply]
      split
      · rename_i hother
        rw [hother]
        show _ = Place.told outcome (.waiting (cache.outcomes flight) given)
        rw [h.opened]
        rfl
      · rename_i hother
        cases hout : cache.outcomes other with
        | none => exact absurd (h.waiting hcall hout) hother
        | some told =>
            show _ = Place.told outcome (.waiting (cache.outcomes other) given)
            rw [hout]
            rfl
  | reading | answered | erasing | computing | storing | returned => rfl

theorem slice_land (h : cache.Joined key flight) (outcome : Outcome ν) :
    (cache.land id key flight fallback outcome).slice key =
      (cache.slice key).land id fallback outcome := by
  have hlanded : slice { cache.setFlight flight { outcome := some outcome } with
        registry := cache.registry.erase key } key =
      { cache.slice key with
        flight := none
        calls := fun caller => ((cache.slice key).calls caller).map (Place.told outcome) } := by
    refine Slice.ext rfl rfl rfl ?_ (funext fun caller => ?_)
    · show ((cache.registry.erase key).find? key).map _ = none
      rw [Table.find?_erase, if_pos rfl]
      rfl
    · have houtcomes : outcomes { cache.setFlight flight { outcome := some outcome } with
          registry := cache.registry.erase key } =
            update cache.outcomes flight (some outcome) := outcomes_set_flight ..
      unfold slice
      rw [houtcomes]
      dsimp only
      rw [Option.map_map]
      refine Option.map_congr fun call hfound => ?_
      obtain ⟨hcall, hkey⟩ := Option.filter_eq_some_iff.1 hfound
      obtain ⟨k, point⟩ := call
      obtain rfl : k = key := of_decide_eq_true hkey
      exact place_told h outcome hcall
  unfold land Slice.land
  dsimp only
  rw [if_pos (show (cache.setFlight flight _).registry.find? key = some flight from h.registered),
    slice_settle]
  exact congrArg (Slice.settle · id true fallback outcome) hlanded

theorem slice_look (cache : Cache ν) (now : Instant) (key : Key) :
    slice { cache with tier1 := (cache.tier1.get now key).2 } key = (cache.slice key).look now := by
  refine Slice.ext rfl ?_ ?_ rfl rfl
  · show (cache.tier1.get now key).2.config.ttl = _
    rw [Tier1.config_get]
    rfl
  · exact (Tier1.find?_get ..).trans (if_pos rfl)

theorem slice_lead (h : cache.Joined key flight) :
    (cache.lead now id key flight fallback).slice key = (cache.slice key).lead now id fallback := by
  have hlook := cache.slice_look now key
  have hheld : (cache.tier1.get now key).1 = (cache.slice key).live? now := Tier1.get_fst ..
  unfold lead Slice.lead
  rw [← hheld, ← hlook]
  generalize cache.tier1.get now key = got
  obtain ⟨held, tier1⟩ := got
  have hjoined : ({ cache with tier1 } : Cache ν).Joined key flight :=
    ⟨h.registered, h.opened, h.waiting⟩
  cases held with
  | some value => exact slice_land hjoined _
  | none => exact slice_set_point { cache with tier1 } id key (.computing flight fallback now)

theorem slice_enter (cache : Cache ν) (now : Instant) (id : CallId) (key : Key) :
    (cache.enter now id key).slice key = (cache.slice key).enter now id := by
  have hlook := cache.slice_look now key
  have hheld : (cache.tier1.get now key).1 = (cache.slice key).live? now := Tier1.get_fst ..
  unfold enter Slice.enter
  rw [← hheld, ← hlook]
  generalize cache.tier1.get now key = got
  obtain ⟨held, tier1⟩ := got
  cases held with
  | some value => exact slice_set_point ({ cache with tier1 } : Cache ν) id key _
  | none => exact slice_set_point ({ cache with tier1 } : Cache ν) id key _

/-- The cache in which a caller has opened a flight for a key, to lead it. -/
def opening (cache : Cache ν) (id : CallId) (key : Key) : Cache ν :=
  ({ cache with
    registry := cache.registry.insert key cache.nextFlight
    nextFlight := cache.nextFlight + 1 } : Cache ν).setFlight cache.nextFlight { leader := some id }

/-- Nobody waits for a flight that has not been opened yet. -/
theorem ne_next_of_waiting (h : Orderly cache.traffic)
    (hcall : cache.calls.find? id = some ⟨key, .waiting flight fallback⟩) :
    flight ≠ cache.nextFlight :=
  Nat.ne_of_lt (h.seated (seat_of_call hcall)).1

/-- Where no flight is registered for the key, the one that is opened becomes its flight. -/
theorem joined_opening (h : Orderly cache.traffic) (hreg : cache.registry.find? key = none)
    (id : CallId) : (cache.opening id key).Joined key cache.nextFlight := by
  have houtcomes : (cache.opening id key).outcomes = update cache.outcomes cache.nextFlight none :=
    outcomes_set_flight ..
  refine ⟨(Table.find?_insert ..).trans (if_pos rfl), ?_, fun hcall hopen => ?_⟩
  · rw [houtcomes, Function.update_self]
  · -- Who waits already waits for a flight that is over.
    rw [houtcomes, Function.update_of_ne (ne_next_of_waiting h hcall)] at hopen
    have hregistered := ((h.seated (seat_of_call hcall)).2 hopen).1
    cases hregistered.symm.trans hreg

theorem slice_opening (h : Orderly cache.traffic) (id : CallId) (key : Key) :
    (cache.opening id key).slice key =
      { cache.slice key with flight := some { leader := some id } } := by
  have houtcomes : (cache.opening id key).outcomes = update cache.outcomes cache.nextFlight none :=
    outcomes_set_flight ..
  refine Slice.ext rfl rfl rfl ?_ (funext fun caller => ?_)
  · show ((cache.registry.insert key cache.nextFlight).find? key).map
      (cache.opening id key).flight = some { leader := some id }
    rw [Table.find?_insert, if_pos rfl, Option.map_some]
    exact congrArg some ((flight_set_flight ..).trans (if_pos rfl))
  · unfold slice
    rw [houtcomes]
    refine Option.map_congr fun call hfound => ?_
    obtain ⟨hcall, hkey⟩ := Option.filter_eq_some_iff.1 hfound
    obtain ⟨k, point⟩ := call
    cases point with
    | waiting flight fallback =>
        show Place.waiting (update cache.outcomes _ none flight) fallback = _
        rw [Function.update_of_ne (ne_next_of_waiting h hcall)]
        rfl
    | reading | answered | erasing | computing | storing | returned => rfl

theorem slice_join (h : Orderly cache.traffic) (now : Instant) (id : CallId) (key : Key)
    (fallback : Option ν) :
    (cache.join now id key fallback).slice key = (cache.slice key).join now id fallback := by
  have hflight : (cache.slice key).flight = (cache.registry.find? key).map cache.flight := rfl
  unfold join Slice.join
  rw [hflight]
  cases hreg : cache.registry.find? key with
  | none =>
      dsimp only [Option.map_none]
      rw [← slice_opening h]
      exact slice_lead (joined_opening h hreg id)
  | some flight =>
      have hjoined := joined_of_orderly h hreg
      have hopen : (cache.flight flight).outcome = none := hjoined.opened
      dsimp only [Option.map_some]
      rw [hopen]
      cases (cache.flight flight).leader with
      | none =>
          dsimp only
          rw [slice_lead (hjoined.set_flight rfl), slice_set_flight hreg hjoined.opened.symm]
      | some leader =>
          dsimp only
          rw [slice_set_point, slice_set_flight hreg hjoined.opened.symm]
          show Slice.set _ id (.waiting (outcomes (cache.setFlight flight _) flight) fallback) = _
          rw [outcomes_set_flight, Function.update_self]

theorem slice_erase_call (cache : Cache ν) (id : CallId) (key : Key) :
    slice { cache with calls := cache.calls.erase id } key =
      { cache.slice key with calls := update (cache.slice key).calls id none } := by
  refine Slice.ext rfl rfl rfl rfl (funext fun caller => ?_)
  unfold slice
  dsimp only
  rw [Table.find?_erase, Function.update_apply]
  split <;> rfl

/-- Leaving a flight takes the caller out of its line. -/
theorem leave_eq (cache : Cache ν) (id : CallId) (flight : FlightId) :
    cache.leave id flight = cache.setFlight flight ((cache.flight flight).without id) := by
  unfold leave handOver Flight.without
  dsimp only
  split <;> rfl

/-- A flight that is over stays as it is when somebody leaves it. -/
theorem leave_over (h : Orderly cache.traffic) (hover : cache.outcomes flight ≠ none)
    (id : CallId) : cache.leave id flight = cache.setFlight flight (cache.flight flight) := by
  obtain ⟨hleader, hqueue⟩ := h.vacant hover
  rw [leave_eq]
  exact congrArg (cache.setFlight flight) (Flight.without_of_vacant hleader hqueue id)

/-- A flight that is entered as it is changes nothing. -/
theorem slice_same_flight (cache : Cache ν) (flight : FlightId) (key : Key) :
    (cache.setFlight flight (cache.flight flight)).slice key = cache.slice key := by
  have hflights : (cache.setFlight flight (cache.flight flight)).flight = cache.flight := by
    funext other
    rw [flight_set_flight]
    split
    · rename_i hother
      rw [hother]
    · rfl
  unfold slice outcomes
  rw [hflights]
  rfl

/-- A caller with a seat is in the line of its flight if that has no outcome. -/
theorem in_line_iff (h : Orderly cache.traffic) (hcall : cache.calls.find? id = some ⟨key, point⟩)
    {seat : Seat} (hseat : Call.seat ⟨key, point⟩ = some seat) :
    (point.place cache.outcomes).inLine = true ↔ cache.outcomes seat.flight = none := by
  have htraffic := (seat_of_call hcall).trans hseat
  cases point with
  | waiting flight fallback =>
      cases hseat
      show (Place.waiting (cache.outcomes flight) fallback).inLine = true ↔
        cache.outcomes flight = none
      cases cache.outcomes flight with
      | none => exact iff_of_true rfl rfl
      | some outcome => exact iff_of_false nofun nofun
  | computing | storing =>
      cases hseat
      exact iff_of_true rfl (h.leads htraffic).2
  | reading | answered | erasing | returned => cases hseat

/-- Who is dropped leaves the line of the flight of the key, if it has no outcome. -/
theorem slice_leave (h : Orderly cache.traffic) (hcall : cache.calls.find? id = some ⟨key, point⟩)
    {seat : Seat} (hseat : Call.seat ⟨key, point⟩ = some seat) :
    (({ cache with calls := cache.calls.erase id } : Cache ν).leave id seat.flight).slice key =
      (cache.slice key).drop id (point.place cache.outcomes) := by
  have hline := in_line_iff h hcall hseat
  have htraffic := (seat_of_call hcall).trans hseat
  have herased := cache.slice_erase_call id key
  generalize hdropped : ({ cache with calls := cache.calls.erase id } : Cache ν) = dropped at *
  have hflights : dropped.flight = cache.flight := by
    rw [← hdropped]
    rfl
  have houtcomes : dropped.outcomes = cache.outcomes := by
    rw [← hdropped]
    rfl
  unfold Slice.drop
  by_cases hopen : cache.outcomes seat.flight = none
  · have hreg : cache.registry.find? key = some seat.flight := by
      rw [← show seat.key = key from Call.key_of_seat hseat]
      exact ((h.seated htraffic).2 hopen).1
    have hreg' : dropped.registry.find? key = some seat.flight := by
      rw [← hdropped]
      exact hreg
    have hflight : (cache.slice key).flight = some (cache.flight seat.flight) := by
      show (cache.registry.find? key).map cache.flight = _
      rw [hreg]
      rfl
    rw [if_pos (hline.2 hopen), hflight, leave_eq,
      slice_set_flight hreg' (Flight.outcome_without ..), herased, hflights]
    rfl
  · have horderly : Orderly dropped.traffic := by
      rw [← hdropped, traffic_erase_call]
      exact h.disembark htraffic hopen
    rw [if_neg (fun hlined => hopen (hline.1 hlined)),
      leave_over horderly (by rw [houtcomes]; exact hopen), slice_same_flight, herased]

/-- The flight that a caller leads is the flight of its key. -/
theorem joined_of_leader (h : Orderly cache.traffic)
    (hcall : cache.calls.find? id = some ⟨key, point⟩)
    (hseat : Call.seat ⟨key, point⟩ = some ⟨key, flight, true⟩) : cache.Joined key flight := by
  have htraffic := (seat_of_call hcall).trans hseat
  exact joined_of_orderly h ((h.seated htraffic).2 (h.leads htraffic).2).1

theorem slice_keep (hroom : cache.tier1.size < cache.tier1.config.maxEntries) (now : Instant)
    (key : Key) (value : ν) :
    (cache.keep now key value).slice key = (cache.slice key).keep now value := by
  refine Slice.ext rfl ?_ ?_ rfl rfl
  · show (cache.tier1.insert now key value).config.ttl = _
    rw [Tier1.config_insert]
    rfl
  · exact (Tier1.find?_insert_of_room hroom ..).trans (if_pos rfl)

section Payloads

variable [Payload ν]

theorem slice_receive (h : Orderly cache.traffic) {answer : ReadAnswer}
    (hroom : ∀ value, (Durable.finding cache.config.durable now key answer : Durable.Finding ν) =
      .usable (.fresh value) → cache.tier1.size < cache.tier1.config.maxEntries) :
    (cache.receive now id key answer).slice key = (cache.slice key).receive now key id answer := by
  have hconfig : (cache.slice key).config = cache.config := rfl
  have hjoin : ∀ (change : Metrics → Metrics) (fallback : Option ν),
      ((cache.count change).join now id key fallback).slice key =
        (cache.slice key).join now id fallback :=
    fun change fallback =>
      slice_join (show Orderly (cache.count change).traffic from h) now id key fallback
  unfold receive Slice.receive
  rw [hconfig]
  cases hfinding : (Durable.finding cache.config.durable now key answer : Durable.Finding ν) with
  | usable lookup =>
      cases lookup with
      | fresh value =>
          dsimp only
          rw [slice_set_point]
          exact congrArg (Slice.set · id _) (slice_keep (hroom value hfinding) now key value)
      | stale value => exact hjoin ..
      | missing => exact hjoin ..
  | outdated => exact slice_set_point ..
  | failed failure => exact hjoin ..

theorem slice_kept (now : Instant) (key : Key) {value : ν}
    (hroom : cache.config.partialPolicy.keepsInMemory (Payload.isComplete value) = true →
      cache.tier1.size < cache.tier1.config.maxEntries) :
    slice { cache with tier1 := cache.keptTier1 now key value } key =
      if cache.config.partialPolicy.keepsInMemory (Payload.isComplete value) then
        (cache.slice key).keep now value
      else cache.slice key := by
  unfold keptTier1
  split
  · rename_i hkeeps
    exact slice_keep (hroom hkeeps) now key value
  · rfl

theorem slice_conclude (h : cache.Joined key flight) {started : Instant} {result : Except Failure ν}
    (hroom : ∀ value, result = .ok value →
      cache.config.partialPolicy.keepsInMemory (Payload.isComplete value) = true →
        cache.tier1.size < cache.tier1.config.maxEntries) :
    (cache.conclude now id key flight fallback started result).slice key =
      (cache.slice key).conclude now key id fallback result := by
  cases result with
  | error failure =>
      have hjoined : (cache.count .originFailure).Joined key flight :=
        ⟨h.registered, h.opened, h.waiting⟩
      exact slice_land hjoined (.error failure)
  | ok value =>
      obtain ⟨metrics, hconclude⟩ := cache.conclude_ok started value
      have hkept := slice_kept now key (hroom value rfl)
      have hconfig : (cache.slice key).config = cache.config := rfl
      rw [hconclude]
      unfold Slice.conclude
      rw [hconfig]
      dsimp only
      rw [← hkept]
      split
      · exact slice_set_point ..
      · have hjoined : ({ cache with metrics, tier1 := cache.keptTier1 now key value } :
            Cache ν).Joined key flight := ⟨h.registered, h.opened, h.waiting⟩
        exact slice_land hjoined _

/-- A caller for the key that goes on does so in the slice. -/
theorem slice_step_caller {event : Event ν} (h : Orderly cache.traffic)
    (hroom : ∀ value, cache.Inserts now key event value →
      cache.tier1.size < cache.tier1.config.maxEntries)
    (hcaller : event.caller = some id) (hcall : cache.calls.find? id = some ⟨key, point⟩) :
    (cache.step now event).map (·.slice key) = (cache.slice key).step now key event := by
  have hplace := place_of_call hcall
  unfold step Slice.step
  cases event with
  | called =>
      cases hcaller
      dsimp only
      rw [hcall, hplace]
      rfl
  | served =>
      cases hcaller
      dsimp only
      rw [hcall, hplace]
      cases point with
      | reading => exact congrArg some (slice_set_point ..)
      | _ => rfl
  | answered =>
      cases hcaller
      dsimp only
      rw [hcall, hplace]
      cases point with
      | answered answer =>
          exact congrArg some
            (slice_receive h fun value hfresh => hroom value (.promoted hcall hfresh))
      | _ => rfl
  | erased =>
      cases hcaller
      dsimp only
      rw [hcall, hplace]
      cases point with
      | erasing =>
          have horderly : Orderly (cache.count .tier2Miss).traffic := h
          exact congrArg some (slice_join horderly ..)
      | _ => rfl
  | computed id result =>
      cases hcaller
      dsimp only
      rw [hcall, hplace]
      cases point with
      | computing =>
          refine congrArg some (slice_conclude (joined_of_leader h hcall rfl) ?_)
          rintro value rfl hkeeps
          exact hroom value (.computed hcall hkeeps)
      | _ => rfl
  | timedOut =>
      cases hcaller
      dsimp only
      rw [hcall, hplace]
      cases point with
      | computing flight fallback started =>
          show (if cache.config.resolveTimeout ≤ now.since started then _ else none).map _ =
            if cache.config.resolveTimeout ≤ now.since started then _ else none
          split
          · exact congrArg some (slice_conclude (joined_of_leader h hcall rfl) nofun)
          · rfl
      | _ => rfl
  | written _ answer =>
      cases hcaller
      dsimp only
      rw [hcall, hplace]
      cases point with
      | storing =>
          have hjoined := joined_of_leader h hcall rfl
          cases answer with
          | ok => exact congrArg some (slice_land hjoined _)
          | error =>
              have hcounted : (cache.count .tier2Error).Joined key _ :=
                ⟨hjoined.registered, hjoined.opened, hjoined.waiting⟩
              exact congrArg some (slice_land hcounted _)
      | _ => rfl
  | resumed =>
      cases hcaller
      dsimp only
      rw [hcall, hplace]
      cases point with
      | waiting flight fallback =>
          unfold Point.place outcomes
          dsimp only
          cases hout : (cache.flight flight).outcome with
          | some outcome => exact congrArg some (slice_settle ..)
          | none =>
              have hreg := ((h.seated (seat_of_call hcall)).2 hout).1
              have hflight : (cache.slice key).flight = some (cache.flight flight) := by
                show (cache.registry.find? key).map cache.flight = _
                rw [show cache.registry.find? key = some flight from hreg]
                rfl
              dsimp only
              rw [hflight]
              dsimp only [Option.bind_some]
              split
              · exact congrArg some (slice_lead (joined_of_orderly h hreg))
              · rfl
      | _ => rfl
  | dropped =>
      cases hcaller
      dsimp only
      rw [hcall, hplace]
      cases point with
      | waiting | computing | storing => exact congrArg some (slice_leave h hcall rfl)
      | reading | answered | erasing | returned => exact congrArg some (slice_erase_call ..)
  | forgotten | purged => cases hcaller

/-- An event for the key, and a sweep, do to the slice what they do to the cache. -/
theorem slice_step {event : Event ν} (h : Orderly cache.traffic)
    (hroom : ∀ value, cache.Inserts now key event value →
      cache.tier1.size < cache.tier1.config.maxEntries)
    (hevent : cache.Concerns key event ∨ event = .purged) :
    (cache.step now event).map (·.slice key) = (cache.slice key).step now key event := by
  rcases hevent with hconcerns | rfl
  · cases hconcerns with
    | called hfree =>
        unfold step Slice.step
        dsimp only
        rw [hfree, place_of_free hfree]
        exact congrArg some (slice_enter ..)
    | caller hcaller hcall => exact slice_step_caller h hroom hcaller hcall
    | forgotten =>
        refine congrArg some (Slice.ext rfl rfl ?_ rfl rfl)
        exact (Tier1.find?_remove ..).trans (if_pos rfl)
  · exact congrArg some (Slice.ext rfl rfl (Tier1.find?_purge ..) rfl rfl)

end Payloads

end Own

end GameLibrary.Cache
