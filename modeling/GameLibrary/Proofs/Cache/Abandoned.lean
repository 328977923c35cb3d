import GameLibrary.Proofs.Cache.Sharing

/-!
# What an idle cache has registered

A flight leaves the registry when its leader brings it to an outcome, and in no other way. A leader
that is dropped hands the lead over to the next in line; if there is none, the flight stays
registered with nobody on it (`Traffic.Deserted`), until another caller for its key takes it up. So
when every call is over, what is left in the registry are the keys whose only caller was dropped, and
which nobody has missed since (`Abandoned`): this is `run_registry_at_rest`.
-/

namespace GameLibrary.Cache

open Traffic (Orderly)

variable {ν : Type}

namespace Traffic

/-- A flight without a leader is registered for the key. -/
def Deserted (t : Traffic ν) (key : Key) : Prop :=
  ∃ flight, t.registry key = some flight ∧ (t.flights flight).leader = none

variable {t : Traffic ν} {key other : Key} {flight : FlightId} {id : CallId}

/-- Who sits where does not matter to the flights. -/
@[simp] theorem deserted_sit {seat : Option Seat} :
    (t.sit id seat).Deserted key ↔ t.Deserted key := Iff.rfl

/-- A key of which the flight has a leader is not deserted. -/
theorem not_deserted {leader : CallId} (hreg : t.registry key = some flight)
    (hleader : (t.flights flight).leader = some leader) : ¬ t.Deserted key := by
  rintro ⟨flight', hreg', hnone⟩
  cases hreg.symm.trans hreg'
  cases hleader.symm.trans hnone

/-- A change of one flight and of its registration leaves the other keys as they are. -/
theorem deserted_elsewhere (changed : Flight ν) (entry : Option FlightId) (hne : other ≠ key)
    (hflight : t.registry other ≠ some flight) :
    ((t.register key entry).setFlight flight changed).Deserted other ↔ t.Deserted other := by
  unfold Deserted
  refine exists_congr fun flight' => ?_
  simp only [registry_set_flight, registry_register, if_neg hne, flights_set_flight,
    flights_register]
  refine and_congr_right fun hreg => ?_
  rw [if_neg]
  rintro rfl
  exact hflight hreg

/-- Whoever stands in the line of a flight has a seat on it. -/
theorem Orderly.seat_of_line (h : Orderly t) (hline : (t.flights flight).line = [id]) :
    ∃ seat, t.seats id = some seat ∧ seat.flight = flight :=
  Option.map_eq_some_iff.1 (h.lined (hline ▸ List.mem_singleton_self id)).2

/-- No other key has the flight of a key. -/
theorem Orderly.not_registered (h : Orderly t) (hreg : t.registry key = some flight)
    (hne : other ≠ key) : t.registry other ≠ some flight :=
  fun hother => hne (h.keyed hother hreg)

end Traffic

/-- A flight without its leader has none only if the line was just this one. -/
theorem Flight.leader_without_eq_none (flight : Flight ν) (id : CallId) :
    (flight.without id).leader = none ↔ flight.leader = none ∨ flight.line = [id] := by
  unfold Flight.without Flight.line
  cases hleader : flight.leader with
  | none => simp
  | some leader =>
      by_cases hself : leader = id
      · simp [hself, List.head?_eq_none_iff]
      · simp [hself]

section Steps

variable {cache next : Cache ν} {now : Instant} {event : Event ν} {id : CallId} {key other : Key}
  {flight : FlightId} {fallback : Option ν}

/-- Landing a flight changes nothing about the deserted keys. -/
theorem land_deserted {outcome : Outcome ν}
    (h : Orderly (cache.traffic.sit id (some ⟨key, flight, true⟩))) :
    (cache.land id key flight fallback outcome).traffic.Deserted other ↔
      cache.traffic.Deserted other := by
  have hseat : (cache.traffic.sit id (some ⟨key, flight, true⟩)).seats id =
      some ⟨key, flight, true⟩ := by simp
  obtain ⟨hleader, hopen⟩ := h.leads hseat
  have hreg : cache.traffic.registry key = some flight := ((h.seated hseat).2 hopen).1
  rw [traffic_land hreg, Traffic.deserted_sit]
  by_cases hother : other = key
  · subst hother
    refine iff_of_false ?_ (Traffic.not_deserted hreg hleader)
    rintro ⟨flight', hreg', -⟩
    simp at hreg'
  · exact Traffic.deserted_elsewhere _ none hother (h.not_registered hreg hother)

/-- Beginning to lead, with the seat taken, changes nothing about the deserted keys. -/
theorem lead_deserted (h : Orderly (cache.traffic.sit id (some ⟨key, flight, true⟩))) :
    (cache.lead now id key flight fallback).traffic.Deserted other ↔
      cache.traffic.Deserted other := by
  unfold lead
  cases cache.tier1.get now key with
  | mk held tier1 =>
      cases held with
      | some value => exact land_deserted h
      | none =>
          dsimp only
          rw [traffic_set_point, Traffic.deserted_sit]
          rfl

/-- A caller that joins the flight of its key takes it up, and leaves the other keys as they are. -/
theorem join_deserted (h : Orderly cache.traffic) (hseat : cache.traffic.seats id = none) :
    (cache.join now id key fallback).traffic.Deserted other ↔
      cache.traffic.Deserted other ∧ other ≠ key := by
  -- What is to be shown once the key has a flight with a leader and the rest is as it was.
  have htaken : ∀ {t : Traffic ν} {flight} leader, t.registry key = some flight →
      (t.flights flight).leader = some leader →
      (other ≠ key → (t.Deserted other ↔ cache.traffic.Deserted other)) →
      (t.Deserted other ↔ cache.traffic.Deserted other ∧ other ≠ key) := by
    intro t flight leader hreg hleader helsewhere
    by_cases hother : other = key
    · subst hother
      exact iff_of_false (Traffic.not_deserted hreg hleader) fun hnow => hnow.2 rfl
    · rw [helsewhere hother, and_iff_left hother]
  unfold join
  cases hreg : cache.registry.find? key with
  | none =>
      refine (lead_deserted ?_).trans ?_
      · rw [traffic_set_flight, traffic_register]
        exact h.open_lead hseat hreg
      rw [traffic_set_flight, traffic_register]
      have hopened := cache.traffic.registry_register key key (some cache.nextFlight)
      rw [if_pos rfl] at hopened
      refine htaken id hopened (by simp) fun hother => ?_
      refine Traffic.deserted_elsewhere _ (some cache.nextFlight) hother ?_
      exact fun hlate => Nat.lt_irrefl _ (h.registered hlate).1
  | some flight =>
      have hreg' : cache.traffic.registry key = some flight := hreg
      have helsewhere : ∀ changed, other ≠ key →
          ((cache.traffic.setFlight flight changed).Deserted other ↔
            cache.traffic.Deserted other) := by
        intro changed hother
        have hsame : cache.traffic.register key (some flight) = cache.traffic := by
          unfold Traffic.register
          rw [← hreg', Function.update_eq_self]
        have hchange := Traffic.deserted_elsewhere changed (some flight) hother
          (h.not_registered hreg' hother)
        rwa [hsame] at hchange
      dsimp only
      split
      · rename_i hout
        have hopen : (cache.flight flight).outcome = none := (h.registered hreg').2
        cases hopen.symm.trans hout
      · rename_i hleader
        refine (lead_deserted ?_).trans ?_
        · rw [traffic_set_flight]
          exact h.take_lead hseat hreg' hleader
        rw [traffic_set_flight]
        exact htaken id hreg' (by simp) (helsewhere _)
      · rename_i leader _ hleader
        rw [traffic_set_point, Traffic.deserted_sit, traffic_set_flight]
        refine htaken leader hreg' ?_ (helsewhere _)
        rw [Traffic.flights_set_flight, if_pos rfl]
        exact hleader

/-- The next in line takes the lead over, if there is one. -/
theorem leave_deserted (cache : Cache ν) (id : CallId) (flight : FlightId) :
    (cache.leave id flight).traffic.Deserted other ↔ cache.traffic.Deserted other ∨
      cache.registry.find? other = some flight ∧ (cache.flight flight).line = [id] := by
  rw [traffic_leave]
  unfold Traffic.Deserted
  simp only [Traffic.registry_set_flight, Traffic.flights_set_flight]
  constructor
  · rintro ⟨flight', hreg, hleader⟩
    split at hleader
    · rename_i hsame
      subst hsame
      rcases (Flight.leader_without_eq_none _ id).1 hleader with hvacant | hline
      · exact .inl ⟨_, hreg, hvacant⟩
      · exact .inr ⟨hreg, hline⟩
    · exact .inl ⟨_, hreg, hleader⟩
  · rintro (⟨flight', hreg, hleader⟩ | ⟨hreg, hline⟩)
    · refine ⟨flight', hreg, ?_⟩
      split
      · rename_i hsame
        subst hsame
        exact (Flight.leader_without_eq_none _ id).2 (.inl hleader)
      · exact hleader
    · refine ⟨flight, hreg, ?_⟩
      rw [if_pos rfl]
      exact (Flight.leader_without_eq_none _ id).2 (.inr hline)

/-- Looking a key up in memory changes nothing about the deserted keys. -/
theorem enter_deserted (cache : Cache ν) :
    (cache.enter now id key).traffic.Deserted other ↔ cache.traffic.Deserted other := by
  unfold enter
  cases cache.tier1.get now key with
  | mk held tier1 =>
      cases held <;>
      · dsimp only
        rw [traffic_set_point, Traffic.deserted_sit]
        rfl

variable [Payload ν]

/-- The end of a computation changes nothing about the deserted keys. -/
theorem conclude_deserted {started : Instant} {result : Except Failure ν}
    (h : Orderly cache.traffic) (hseat : cache.traffic.seats id = some ⟨key, flight, true⟩) :
    (cache.conclude now id key flight fallback started result).traffic.Deserted other ↔
      cache.traffic.Deserted other := by
  have hsit := h.sit_same hseat
  cases result with
  | error failure => exact land_deserted hsit
  | ok value =>
      obtain ⟨metrics, hconclude⟩ := cache.conclude_ok started value
      rw [hconclude]
      dsimp only
      split
      · rw [traffic_set_point, Traffic.deserted_sit]
        rfl
      · refine (land_deserted ?_).trans ?_
        · exact hsit
        · rfl

/-- With this event the only caller on the flight of the key is dropped. -/
def Deserts (cache : Cache ν) (key : Key) (event : Event ν) : Prop :=
  ∃ id flight, event = .dropped id ∧ cache.registry.find? key = some flight ∧
    (cache.flight flight).line = [id]

/-- With one event callers join the flight of one key. -/
theorem Joins.key_unique {id' : CallId} {fallback' : Option ν}
    (h : cache.Joins now id key fallback event) (h' : cache.Joins now id' other fallback' event) :
    key = other := by
  have hkey : ∀ {point point' : Point ν}, cache.calls.find? id = some ⟨key, point⟩ →
      cache.calls.find? id = some ⟨other, point'⟩ → key = other := by
    intro point point' hcall hcall'
    cases hcall.symm.trans hcall'
    rfl
  cases h with
  | stale hcall | missing hcall | failed hcall =>
      cases h' with
      | stale hcall' | missing hcall' | failed hcall' => exact hkey hcall hcall'
  | erased hcall =>
      cases h' with
      | erased hcall' => exact hkey hcall hcall'

/-- After a caller has joined the flight of its key, this key is not deserted, and the others are
as before. -/
theorem Transition.deserted_of_joins (h : cache.Transition now event next)
    (horderly : Orderly cache.traffic) (hjoins : cache.Joins now id key fallback event) :
    next.traffic.Deserted other ↔ cache.traffic.Deserted other ∧ other ≠ key := by
  have hseat : cache.traffic.seats id = none := by
    cases hjoins with
    | stale hcall | missing hcall | failed hcall | erased hcall => exact seat_of_call hcall
  obtain ⟨change, rfl⟩ := h.of_joins hjoins
  exact join_deserted horderly hseat

/-- Where nobody joins a flight, a key is deserted after a step if it was before, or if the only
caller on its flight is dropped. -/
theorem Transition.deserted_of_not_joins (h : cache.Transition now event next)
    (horderly : Orderly cache.traffic)
    (hnever : ∀ id key fallback, ¬ cache.Joins now id key fallback event) :
    next.traffic.Deserted key ↔ cache.Deserts key event ∨ cache.traffic.Deserted key := by
  have hkept : (∀ id, event ≠ .dropped id) →
      (next.traffic.Deserted key ↔ cache.traffic.Deserted key) →
      (next.traffic.Deserted key ↔ cache.Deserts key event ∨ cache.traffic.Deserted key) := by
    intro hkept hsame
    rw [hsame, or_iff_right]
    exact fun ⟨id, _, hevent, _⟩ => hkept id hevent
  cases h with
  | called => exact hkept (by rintro _ ⟨⟩) (enter_deserted cache)
  | served =>
      refine hkept (by rintro _ ⟨⟩) ?_
      rw [traffic_set_point, Traffic.deserted_sit]
  | answered hcall =>
      refine hkept (by rintro _ ⟨⟩) ?_
      rcases receive_cases hcall with ⟨value, -, hreceive⟩ | hreceive | ⟨_, _, hjoins, -⟩
      · rw [hreceive, traffic_set_point, Traffic.deserted_sit]
        rfl
      · rw [hreceive, traffic_set_point, Traffic.deserted_sit]
      · exact absurd hjoins (hnever _ _ _)
  | erased hcall => exact absurd (.erased hcall) (hnever _ _ _)
  | computed hcall => exact hkept (by rintro _ ⟨⟩) (conclude_deserted horderly (seat_of_call hcall))
  | timedOut hcall => exact hkept (by rintro _ ⟨⟩) (conclude_deserted horderly (seat_of_call hcall))
  | written hcall | unwritten hcall =>
      exact hkept (by rintro _ ⟨⟩) (land_deserted (horderly.sit_same (seat_of_call hcall)))
  | settled =>
      refine hkept (by rintro _ ⟨⟩) ?_
      rw [traffic_settle, Traffic.deserted_sit]
  | promoted hcall _ hleader =>
      exact hkept (by rintro _ ⟨⟩)
        (lead_deserted (horderly.promote (seat_of_call hcall) hleader))
  | @left id call seat hcall hseat =>
      rw [leave_deserted, or_comm, traffic_erase_call, Traffic.deserted_sit]
      refine or_congr ⟨fun ⟨hreg, hline⟩ => ⟨id, _, rfl, hreg, hline⟩, ?_⟩ Iff.rfl
      rintro ⟨_, flight, ⟨⟩, hreg, hline⟩
      obtain ⟨seat', hseat', rfl⟩ := horderly.seat_of_line hline
      cases ((seat_of_call hcall).trans hseat).symm.trans hseat'
      exact ⟨hreg, hline⟩
  | dropped hcall hseat =>
      rw [traffic_erase_call, Traffic.deserted_sit, or_iff_right]
      rintro ⟨_, flight, ⟨⟩, -, hline⟩
      obtain ⟨seat, hseat', -⟩ := horderly.seat_of_line hline
      cases ((seat_of_call hcall).trans hseat).symm.trans hseat'
  | forgotten | purged => exact hkept (by rintro _ ⟨⟩) Iff.rfl

/-- A key is deserted after a step if the only caller on its flight is dropped, or if it was before
and nobody joins its flight. -/
theorem Transition.deserted_iff (h : cache.Transition now event next)
    (horderly : Orderly cache.traffic) :
    next.traffic.Deserted key ↔ cache.Deserts key event ∨
      cache.traffic.Deserted key ∧ ¬ ∃ id fallback, cache.Joins now id key fallback event := by
  by_cases hjoins : ∃ id other fallback, cache.Joins now id other fallback event
  · obtain ⟨id, other, fallback, hjoins⟩ := hjoins
    rw [h.deserted_of_joins horderly hjoins, or_iff_right]
    · refine and_congr_right fun _ => not_congr ⟨?_, ?_⟩
      · rintro rfl
        exact ⟨id, fallback, hjoins⟩
      · rintro ⟨id', fallback', hjoins'⟩
        exact hjoins'.key_unique hjoins
    · rintro ⟨_, _, rfl, -⟩
      cases hjoins
  · rw [h.deserted_of_not_joins horderly, and_iff_left]
    · rintro ⟨id, fallback, hjoin⟩
      exact hjoins ⟨id, key, fallback, hjoin⟩
    · exact fun id other fallback hjoin => hjoins ⟨id, other, fallback, hjoin⟩

end Steps

section Runs

variable [Payload ν] {start cache next finish : Cache ν} {past events : List (Instant × Event ν)}
  {now : Instant} {event : Event ν} {key : Key}

/-- In the course of the events the only caller on the flight of the key was dropped, and nobody has
joined the flight since. -/
def Abandoned (start : Cache ν) (events : List (Instant × Event ν)) (key : Key) : Prop :=
  ∃ past now event rest cache next, events = past ++ (now, event) :: rest ∧
    start.run past = some cache ∧ cache.Deserts key event ∧ cache.step now event = some next ∧
    ¬ next.Meets rest fun cache now event => ∃ id fallback, cache.Joins now id key fallback event

/-- A key is abandoned with the last event of a run, or it was before and its flight is not joined
with this event. -/
theorem abandoned_concat (hpast : start.run past = some cache)
    (hstep : cache.step now event = some next) :
    Abandoned start (past ++ [(now, event)]) key ↔ cache.Deserts key event ∨
      Abandoned start past key ∧ ¬ ∃ id fallback, cache.Joins now id key fallback event := by
  constructor
  · rintro ⟨early, time, drop, rest, before, after, hevents, hearly, hdeserts, hdrop, hnever⟩
    rcases List.eq_nil_or_concat rest with rfl | ⟨late, last, rfl⟩
    · obtain ⟨rfl, hlast⟩ := List.append_inj' hevents rfl
      cases hlast
      cases hpast.symm.trans hearly
      exact .inl hdeserts
    · rw [List.concat_eq_append, ← List.cons_append, ← List.append_assoc] at hevents
      obtain ⟨rfl, hlast⟩ := List.append_inj' hevents rfl
      cases hlast
      obtain ⟨middle, hmiddle, hlate⟩ := fold_append.1 hpast
      cases hearly.symm.trans hmiddle
      obtain ⟨second, hsecond, hlate⟩ := fold_cons.1 hlate
      cases hdrop.symm.trans hsecond
      rw [List.concat_eq_append, meets_concat hlate hstep, not_or] at hnever
      exact .inr ⟨⟨early, time, drop, late, before, after, rfl, hearly, hdeserts, hdrop, hnever.1⟩,
        hnever.2⟩
  · rintro (hdeserts | ⟨⟨early, time, drop, late, before, after, rfl, hearly, hdeserts, hdrop,
      hnever⟩, hjoins⟩)
    · exact ⟨past, now, event, [], cache, next, rfl, hpast, hdeserts, hstep, not_happens_nil⟩
    · refine ⟨early, time, drop, late ++ [(now, event)], before, after, by simp, hearly, hdeserts,
        hdrop, ?_⟩
      obtain ⟨middle, hmiddle, hlate⟩ := fold_append.1 hpast
      cases hearly.symm.trans hmiddle
      obtain ⟨second, hsecond, hlate⟩ := fold_cons.1 hlate
      cases hdrop.symm.trans hsecond
      rw [meets_concat hlate hstep, not_or]
      exact ⟨hnever, hjoins⟩

/-- After a run the keys without a leader are the abandoned ones. -/
theorem run_deserted {config : Config} (hrun : (ofConfig config).run events = some finish) :
    finish.traffic.Deserted key ↔ Abandoned (ofConfig config) events key := by
  refine (fold_history (fun past cache => Orderly cache.traffic ∧
    (cache.traffic.Deserted key ↔ Abandoned (ofConfig config) past key))
    ⟨Traffic.orderly_empty, iff_of_false ?_ ?_⟩ ?_ hrun).2
  · rintro ⟨flight, hreg, -⟩
    cases hreg
  · rintro ⟨past, now, event, rest, cache, next, hevents, -⟩
    cases past <;> cases hevents
  · rintro past ⟨now, event⟩ cache next - hpast ⟨horderly, hdeserted⟩ hstep
    have htransition := step_transition hstep
    refine ⟨htransition.orderly horderly, ?_⟩
    rw [htransition.deserted_iff horderly, hdeserted, abandoned_concat hpast hstep]

/-- Every call that has begun is over. -/
def Idle (cache : Cache ν) : Prop :=
  ∀ id call, cache.calls.find? id = some call → ∃ outcome, call.point = .returned outcome

omit [Payload ν] in
/-- In an idle cache no registered flight has a leader. -/
theorem Idle.deserted (h : Idle cache) (horderly : Orderly cache.traffic) :
    cache.traffic.Deserted key ↔ (cache.registry.find? key).isSome := by
  rw [Option.isSome_iff_exists]
  refine exists_congr fun flight => and_iff_left_of_imp fun _ => ?_
  cases hleader : (cache.traffic.flights flight).leader with
  | none => rfl
  | some leader =>
      have hline : leader ∈ (cache.traffic.flights flight).line := by
        simp [Flight.line, hleader]
      obtain ⟨seat, hseat, -⟩ := Option.map_eq_some_iff.1 (horderly.lined hline).2
      obtain ⟨⟨_, point⟩, hcall, hpoint⟩ := Option.bind_eq_some_iff.1 hseat
      obtain ⟨outcome, rfl⟩ := h leader _ hcall
      cases hpoint

/-- When every call is over, the registry has the abandoned keys and no others; so it is empty only
if there are none. -/
theorem run_registry_at_rest {config : Config} (hrun : (ofConfig config).run events = some finish)
    (hidle : finish.Idle) :
    (∀ key, (finish.registry.find? key).isSome ↔ Abandoned (ofConfig config) events key) ∧
      (finish.inFlight = 0 ↔ ∀ key, ¬ Abandoned (ofConfig config) events key) := by
  have hregistered : ∀ key,
      (finish.registry.find? key).isSome ↔ Abandoned (ofConfig config) events key := fun key =>
    (hidle.deserted (run_orderly hrun)).symm.trans (run_deserted hrun)
  refine ⟨hregistered, ?_⟩
  show finish.registry.size = 0 ↔ _
  rw [Table.size_eq_zero_iff]
  refine forall_congr' fun key => ?_
  rw [← hregistered, Option.not_isSome_iff_eq_none]

/-- A caller is dropped while it computes, and nobody else asks for its key. -/
def loneLeader : List (Instant × Event UInt32) :=
  [(⟨0⟩, .called 0 .zeros), (⟨1⟩, .served 0 (.ok none)), (⟨2⟩, .answered 0), (⟨3⟩, .dropped 0)]

/-- No call is left, and one key is still registered. -/
theorem run_registry_at_rest_lone : ∃ finish, (ofConfig {}).run loneLeader = some finish ∧
    finish.Idle ∧ finish.inFlight = 1 ∧ Abandoned (ofConfig {}) loneLeader .zeros := by
  have hruns : ∃ finish, (ofConfig {}).run loneLeader = some finish ∧
      finish.calls.find? = (fun _ => none) ∧ finish.inFlight = 1 ∧
      (finish.registry.find? .zeros).isSome = true := ⟨_, rfl, rfl, rfl, rfl⟩
  obtain ⟨finish, hrun, hcalls, hsize, hregistered⟩ := hruns
  have hidle : finish.Idle := by
    intro id call hcall
    rw [hcalls] at hcall
    cases hcall
  exact ⟨finish, hrun, hidle, hsize, ((run_registry_at_rest hrun hidle).1 .zeros).1 hregistered⟩

end Runs

end GameLibrary.Cache
