import GameLibrary.Proofs.Cache.Slices

/-!
# What is done for other keys

An event for one key does nothing to the slice of another (`slice_step_elsewhere`), as long as the
tier in memory has room for what is inserted. A flight is foreign to a key if the key is not
registered with it and no caller for the key waits for it; it is then free to change.
-/

namespace GameLibrary.Cache

open Traffic (Orderly)
open Function (update)

variable {ν : Type} {cache : Cache ν} {now : Instant} {id : CallId} {key other : Key}
  {flight : FlightId} {fallback : Option ν} {point : Point ν}

/-- The flight has nothing to do with the key. -/
structure Foreign (cache : Cache ν) (key : Key) (flight : FlightId) : Prop where
  registered : cache.registry.find? key ≠ some flight
  waiting : ∀ {id given}, cache.calls.find? id ≠ some ⟨key, .waiting flight given⟩

/-- The flight of another key is foreign. -/
theorem foreign_of_registered (h : Orderly cache.traffic) (hne : other ≠ key)
    (hreg : cache.registry.find? other = some flight) : cache.Foreign key flight where
  registered hown := hne (h.keyed hreg hown)
  waiting hcall := by
    have hown := ((h.seated (seat_of_call hcall)).2 (h.registered hreg).2).1
    exact hne (h.keyed hreg hown)

/-- A flight that has not been opened yet is foreign. -/
theorem foreign_next (h : Orderly cache.traffic) (key : Key) :
    cache.Foreign key cache.nextFlight where
  registered hown := Nat.lt_irrefl _ (h.registered hown).1
  waiting hcall := ne_next_of_waiting h hcall rfl

/-- The flight that a caller leads for another key is foreign. -/
theorem foreign_of_leader (h : Orderly cache.traffic) (hne : other ≠ key)
    (hcall : cache.calls.find? id = some ⟨other, point⟩)
    (hseat : Call.seat ⟨other, point⟩ = some ⟨other, flight, true⟩) : cache.Foreign key flight :=
  foreign_of_registered h hne (joined_of_leader h hcall hseat).registered

/-- A caller for another key has no place in the slice. -/
theorem place_of_other (hne : other ≠ key) (hcall : cache.calls.find? id = some ⟨other, point⟩) :
    (cache.slice key).calls id = none := by
  unfold slice
  dsimp only
  rw [hcall]
  simp [Option.filter, hne]

section Primitives

/-- Someone without a place in the slice comes to a point for another key. -/
theorem slice_set_point_elsewhere {s : Slice ν} (hne : other ≠ key) (hplace : s.calls id = none)
    (hslice : cache.slice key = s) (point : Point ν) :
    (cache.setPoint id other point).slice key = s := by
  rw [← hslice] at hplace ⊢
  refine Slice.ext rfl rfl rfl rfl (funext fun caller => ?_)
  by_cases hcaller : caller = id
  · subst hcaller
    rw [hplace]
    exact place_of_other hne ((Table.find?_insert ..).trans (if_pos rfl))
  · unfold slice setPoint
    dsimp only
    rw [Table.find?_insert, if_neg hcaller]
    rfl

theorem slice_set_flight_elsewhere (h : cache.Foreign key flight) (changed : Flight ν) :
    (cache.setFlight flight changed).slice key = cache.slice key := by
  refine Slice.ext rfl rfl rfl ?_ (funext fun caller => ?_)
  · show (cache.registry.find? key).map (cache.setFlight flight changed).flight =
      (cache.registry.find? key).map cache.flight
    refine Option.map_congr fun own hown => ?_
    rw [flight_set_flight, if_neg]
    rintro rfl
    exact h.registered hown
  · unfold slice
    rw [outcomes_set_flight]
    refine Option.map_congr fun call hfound => ?_
    obtain ⟨hcall, hkey⟩ := Option.filter_eq_some_iff.1 hfound
    obtain ⟨k, point⟩ := call
    obtain rfl : k = key := of_decide_eq_true hkey
    cases point with
    | waiting own given =>
        have hown : own ≠ flight := by
          rintro rfl
          exact h.waiting hcall
        show Place.waiting (update cache.outcomes flight changed.outcome own) given = _
        rw [Function.update_of_ne hown]
        rfl
    | reading | answered | erasing | computing | storing | returned => rfl

/-- What happens in memory to other keys. -/
theorem slice_memory_elsewhere {tier1 : Tier1 Key ν} (hconfig : tier1.config = cache.tier1.config)
    (hfound : tier1.storage.find? key = cache.tier1.storage.find? key) :
    slice { cache with tier1 } key = cache.slice key :=
  Slice.ext rfl (congrArg Tier1.Config.ttl hconfig) hfound rfl rfl

theorem slice_register_elsewhere (hne : other ≠ key) {registry : Table Key FlightId}
    (hregistry : ∀ k, k ≠ other → registry.find? k = cache.registry.find? k) (next : FlightId) :
    slice { cache with registry, nextFlight := next } key = cache.slice key := by
  refine Slice.ext rfl rfl rfl ?_ rfl
  exact congrArg (Option.map cache.flight) (hregistry key hne.symm)

theorem slice_look_elsewhere (cache : Cache ν) (hne : other ≠ key) (now : Instant) :
    slice { cache with tier1 := (cache.tier1.get now other).2 } key = cache.slice key :=
  slice_memory_elsewhere (Tier1.config_get ..) ((Tier1.find?_get ..).trans (if_neg hne.symm))

end Primitives

section Steps

variable {s : Slice ν} (hne : other ≠ key) (hplace : s.calls id = none)
  (hslice : cache.slice key = s)
include hne hplace hslice

theorem slice_settle_elsewhere (led : Bool) (fallback : Option ν) (outcome : Outcome ν) :
    (cache.settle id other led fallback outcome).slice key = s := by
  obtain ⟨metrics, hsettle⟩ := settle_eq cache id other led fallback outcome
  rw [hsettle]
  exact slice_set_point_elsewhere hne hplace hslice _

theorem slice_land_elsewhere (h : cache.Foreign key flight) (outcome : Outcome ν) :
    (cache.land id other flight fallback outcome).slice key = s := by
  have hchanged : (cache.setFlight flight { outcome := some outcome }).slice key = s :=
    (slice_set_flight_elsewhere h _).trans hslice
  unfold land
  dsimp only
  split
  · refine slice_settle_elsewhere hne hplace (Eq.trans ?_ hchanged) ..
    exact slice_register_elsewhere hne
      (fun k hk => (Table.find?_erase ..).trans (if_neg hk)) cache.nextFlight
  · exact slice_settle_elsewhere hne hplace hchanged ..

theorem slice_lead_elsewhere (h : cache.Foreign key flight) :
    (cache.lead now id other flight fallback).slice key = s := by
  have hlooked := (cache.slice_look_elsewhere hne now).trans hslice
  unfold lead
  generalize cache.tier1.get now other = got at *
  obtain ⟨held, tier1⟩ := got
  have hforeign : ({ cache with tier1 } : Cache ν).Foreign key flight := ⟨h.registered, h.waiting⟩
  cases held with
  | some value => exact slice_land_elsewhere hne hplace hlooked hforeign _
  | none => exact slice_set_point_elsewhere hne hplace hlooked _

theorem slice_enter_elsewhere : (cache.enter now id other).slice key = s := by
  have hlooked := (cache.slice_look_elsewhere hne now).trans hslice
  unfold enter
  generalize cache.tier1.get now other = got at *
  obtain ⟨held, tier1⟩ := got
  cases held with
  | some value => exact slice_set_point_elsewhere hne hplace hlooked _
  | none => exact slice_set_point_elsewhere hne hplace hlooked _

theorem slice_join_elsewhere (h : Orderly cache.traffic) :
    (cache.join now id other fallback).slice key = s := by
  unfold join
  cases hreg : cache.registry.find? other with
  | none =>
      have hregistered : slice { cache with
          registry := cache.registry.insert other cache.nextFlight
          nextFlight := cache.nextFlight + 1 } key = s := by
        refine Eq.trans ?_ hslice
        exact slice_register_elsewhere hne
          (fun k hk => (Table.find?_insert ..).trans (if_neg hk)) (cache.nextFlight + 1)
      have hnext := foreign_next h key
      have hforeign : ({ cache with
          registry := cache.registry.insert other cache.nextFlight
          nextFlight := cache.nextFlight + 1 } : Cache ν).Foreign key cache.nextFlight := by
        refine ⟨?_, hnext.waiting⟩
        show (cache.registry.insert other cache.nextFlight).find? key ≠ _
        rw [Table.find?_insert, if_neg hne.symm]
        exact hnext.registered
      exact slice_lead_elsewhere hne hplace
        ((slice_set_flight_elsewhere hforeign _).trans hregistered)
        ⟨hforeign.registered, hforeign.waiting⟩
  | some flight =>
      have hforeign := foreign_of_registered h hne hreg
      dsimp only
      split
      · exact slice_settle_elsewhere hne hplace hslice ..
      · exact slice_lead_elsewhere hne hplace ((slice_set_flight_elsewhere hforeign _).trans hslice)
          ⟨hforeign.registered, hforeign.waiting⟩
      · exact slice_set_point_elsewhere hne hplace
          ((slice_set_flight_elsewhere hforeign _).trans hslice) _

end Steps

/-- A call that is dropped is not seen from another key. -/
theorem slice_erase_elsewhere (hne : other ≠ key)
    (hcall : cache.calls.find? id = some ⟨other, point⟩) :
    slice { cache with calls := cache.calls.erase id } key = cache.slice key := by
  have hplace : none = (cache.slice key).calls id := (place_of_other hne hcall).symm
  rw [slice_erase_call, hplace, Function.update_eq_self]

/-- Leaving a flight concerns the key of the caller. -/
theorem slice_leave_elsewhere (h : Orderly cache.traffic) (hne : other ≠ key)
    (hcall : cache.calls.find? id = some ⟨other, point⟩) {seat : Seat}
    (hseat : Call.seat ⟨other, point⟩ = some seat) :
    (({ cache with calls := cache.calls.erase id } : Cache ν).leave id seat.flight).slice key =
      cache.slice key := by
  have htraffic := (seat_of_call hcall).trans hseat
  have herased := slice_erase_elsewhere hne hcall
  by_cases hopen : cache.outcomes seat.flight = none
  · have hreg : cache.registry.find? other = some seat.flight := by
      rw [← show seat.key = other from Call.key_of_seat hseat]
      exact ((h.seated htraffic).2 hopen).1
    have hforeign : ({ cache with calls := cache.calls.erase id } : Cache ν).Foreign key
        seat.flight := by
      have hbefore := foreign_of_registered h hne hreg
      refine ⟨hbefore.registered, fun {caller given} hstill => ?_⟩
      rw [Table.find?_erase] at hstill
      split at hstill
      · cases hstill
      · exact hbefore.waiting hstill
    rw [leave_eq]
    exact (slice_set_flight_elsewhere hforeign _).trans herased
  · have horderly : Orderly ({ cache with calls := cache.calls.erase id } : Cache ν).traffic := by
      rw [traffic_erase_call]
      exact h.disembark htraffic hopen
    rw [leave_over horderly hopen]
    exact (slice_same_flight ..).trans herased

/-- What another key brings into memory leaves the slice as it is, if there is room. -/
theorem slice_keep_elsewhere (hne : other ≠ key)
    (hroom : cache.tier1.size < cache.tier1.config.maxEntries) (now : Instant) (value : ν) :
    (cache.keep now other value).slice key = cache.slice key :=
  slice_memory_elsewhere (Tier1.config_insert ..)
    ((Tier1.find?_insert_of_room hroom ..).trans (if_neg hne.symm))

section Payloads

variable [Payload ν] {s : Slice ν} (hne : other ≠ key) (hplace : s.calls id = none)
  (hslice : cache.slice key = s)
include hne hplace hslice

theorem slice_receive_elsewhere (h : Orderly cache.traffic) {answer : ReadAnswer}
    (hroom : ∀ value, (Durable.finding cache.config.durable now other answer : Durable.Finding ν) =
      .usable (.fresh value) → cache.tier1.size < cache.tier1.config.maxEntries) :
    (cache.receive now id other answer).slice key = s := by
  have hjoin : ∀ (change : Metrics → Metrics) (fallback : Option ν),
      ((cache.count change).join now id other fallback).slice key = s :=
    fun change fallback => slice_join_elsewhere hne hplace
      (show (cache.count change).slice key = s from hslice) h
  unfold receive
  cases hfinding : (Durable.finding cache.config.durable now other answer : Durable.Finding ν) with
  | usable lookup =>
      cases lookup with
      | fresh value =>
          exact slice_set_point_elsewhere hne hplace
            ((slice_keep_elsewhere hne (hroom value hfinding) now value).trans hslice) _
      | stale value => exact hjoin ..
      | missing => exact hjoin ..
  | outdated => exact slice_set_point_elsewhere hne hplace hslice _
  | failed failure => exact hjoin ..

theorem slice_conclude_elsewhere (h : cache.Foreign key flight) {started : Instant}
    {result : Except Failure ν} (hroom : ∀ value, result = .ok value →
      cache.config.partialPolicy.keepsInMemory (Payload.isComplete value) = true →
        cache.tier1.size < cache.tier1.config.maxEntries) :
    (cache.conclude now id other flight fallback started result).slice key = s := by
  cases result with
  | error failure =>
      exact slice_land_elsewhere hne hplace
        (show (cache.count .originFailure).slice key = s from hslice) ⟨h.registered, h.waiting⟩ _
  | ok value =>
      obtain ⟨metrics, hconclude⟩ := cache.conclude_ok started value
      have hkept :
          slice { cache with metrics, tier1 := cache.keptTier1 now other value } key = s := by
        refine Eq.trans ?_ hslice
        unfold keptTier1
        split
        · rename_i hkeeps
          exact slice_keep_elsewhere hne (hroom value rfl hkeeps) now value
        · rfl
      rw [hconclude]
      dsimp only
      split
      · exact slice_set_point_elsewhere hne hplace hkept _
      · exact slice_land_elsewhere hne hplace hkept ⟨h.registered, h.waiting⟩ _

end Payloads

/-- An event for one key does nothing to the slice of another. -/
theorem slice_step_elsewhere [Payload ν] {event : Event ν} {next : Cache ν}
    (h : Orderly cache.traffic) (hne : other ≠ key) (hevent : cache.Concerns other event)
    (hroom : ∀ value, cache.Inserts now other event value →
      cache.tier1.size < cache.tier1.config.maxEntries)
    (hstep : cache.Transition now event next) : next.slice key = cache.slice key := by
  -- Whoever the event is for, it is somebody for the other key.
  have hown : ∀ {id call}, event.caller = some id → cache.calls.find? id = some call →
      call.key = other := by
    intro id call hcaller hcall
    cases hevent with
    | called hfree =>
        cases hcaller
        cases hfree.symm.trans hcall
    | caller hcaller' hcall' =>
        cases hcaller.symm.trans hcaller'
        cases hcall.symm.trans hcall'
        rfl
    | forgotten => cases hcaller
  cases hstep with
  | called hfree =>
      cases hevent with
      | called => exact slice_enter_elsewhere hne (place_of_free hfree) rfl
      | caller hcaller hcall =>
          cases hcaller
          cases hfree.symm.trans hcall
  | served hcall =>
      cases hown rfl hcall
      exact slice_set_point_elsewhere hne (place_of_other hne hcall) rfl _
  | answered hcall =>
      cases hown rfl hcall
      exact slice_receive_elsewhere hne (place_of_other hne hcall) rfl h
        fun value hfresh => hroom value (.promoted hcall hfresh)
  | erased hcall =>
      cases hown rfl hcall
      have hplace := place_of_other hne hcall
      exact slice_join_elsewhere hne hplace
        (show (cache.count .tier2Miss).slice key = cache.slice key from rfl) h
  | computed hcall =>
      cases hown rfl hcall
      refine slice_conclude_elsewhere hne (place_of_other hne hcall) rfl
        (foreign_of_leader h hne hcall rfl) ?_
      rintro value rfl hkeeps
      exact hroom value (.computed hcall hkeeps)
  | timedOut hcall =>
      cases hown rfl hcall
      exact slice_conclude_elsewhere hne (place_of_other hne hcall) rfl
        (foreign_of_leader h hne hcall rfl) nofun
  | written hcall =>
      cases hown rfl hcall
      exact slice_land_elsewhere hne (place_of_other hne hcall) rfl
        (foreign_of_leader h hne hcall rfl) _
  | unwritten hcall =>
      cases hown rfl hcall
      have hforeign := foreign_of_leader h hne hcall rfl
      exact slice_land_elsewhere hne (place_of_other hne hcall)
        (show (cache.count .tier2Error).slice key = cache.slice key from rfl)
        ⟨hforeign.registered, hforeign.waiting⟩ _
  | settled hcall =>
      cases hown rfl hcall
      exact slice_settle_elsewhere hne (place_of_other hne hcall) rfl ..
  | promoted hcall hopen =>
      cases hown rfl hcall
      have hreg := ((h.seated (seat_of_call hcall)).2 hopen).1
      exact slice_lead_elsewhere hne (place_of_other hne hcall) rfl
        (foreign_of_registered h hne hreg)
  | @left id call seat hcall hseat =>
      obtain ⟨k, point⟩ := call
      cases hown rfl hcall
      exact slice_leave_elsewhere h hne hcall hseat
  | @dropped id call hcall =>
      obtain ⟨k, point⟩ := call
      cases hown rfl hcall
      exact slice_erase_elsewhere hne hcall
  | forgotten =>
      cases hevent with
      | forgotten =>
          exact slice_memory_elsewhere rfl ((Tier1.find?_remove ..).trans (if_neg hne.symm))
      | caller hcaller => cases hcaller
  | purged =>
      cases hevent with
      | caller hcaller => cases hcaller

end GameLibrary.Cache
