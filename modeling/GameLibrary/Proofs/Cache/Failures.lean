import GameLibrary.Proofs.Cache.Sharing

/-!
# How calls can fail

A call fails with the failure of a computation, as it is or by its message. So if computations fail
in certain ways only, and never take too long, then calls fail in these ways only (`Excused`),
however they are interleaved and whatever the store answers.
-/

namespace GameLibrary

namespace Cache

variable {ν : Type}

/-- What a caller is told of a failure of some kind: the failure itself, or its message. -/
inductive Passed (cause : Failure → Prop) : Failure → Prop where
  | own {failure} : cause failure → Passed cause failure
  | shared {failure} : cause failure → Passed cause (.coalesced failure.message)

/-- Flights fail in certain ways only, and so do calls. -/
structure Excused (cause : Failure → Prop) (cache : Cache ν) : Prop where
  flights : ∀ {flight failure}, (cache.flight flight).outcome = some (.error failure) →
    cause failure
  calls : ∀ {id key failure}, cache.calls.find? id = some ⟨key, .returned (.error failure)⟩ →
    Passed cause failure

theorem excused_of_config (cause : Failure → Prop) (config : Config) :
    Excused cause (ofConfig config : Cache ν) where
  flights := nofun
  calls := nofun

variable {cause : Failure → Prop} {config : Config} {cache next : Cache ν} {now : Instant}
  {id : CallId} {key : Key} {fallback : Option ν} {outcome : Outcome ν} {failure : Failure}

/-- A call that fails with its flight tells why the flight has failed. -/
theorem passed_of_verdict {led : Bool} (h : verdict config led fallback outcome = .error failure)
    (houtcome : ∀ {own}, outcome = .error own → cause own) : Passed cause failure := by
  have htold := told_verdict config led fallback outcome
  rw [h] at htold
  cases htold with
  | failure => exact .own (houtcome rfl)
  | sharedFailure => exact .shared (houtcome rfl)

/-- Whoever begins to lead a flight does not fail. -/
theorem lead_point_ne_error {flight : FlightId} :
    cache.leadPoint now key fallback flight ≠ .returned (.error failure) := by
  unfold leadPoint
  split <;> nofun

/-- Whoever fails as it joins a flight is told of a flight that has failed. -/
theorem Excused.join_point (h : Excused cause cache)
    (hpoint : cache.joinPoint now key fallback = .returned (.error failure)) :
    Passed cause failure := by
  unfold joinPoint at hpoint
  split at hpoint
  · exact absurd hpoint lead_point_ne_error
  · split at hpoint
    · rename_i outcome _ hout
      injection hpoint with hverdict
      refine passed_of_verdict hverdict ?_
      rintro own rfl
      exact h.flights hout
    · exact absurd hpoint lead_point_ne_error
    · cases hpoint

variable [Payload ν] {event : Event ν}

/-- With this event computations fail in certain ways only, and none takes too long. -/
structure Event.Mild (cause : Failure → Prop) (event : Event ν) : Prop where
  failed : ∀ {id failure}, event = .computed id (.error failure) → cause failure
  in_time : ∀ {id}, event ≠ .timedOut id

/-- A call that has just failed tells of the failure of a computation. -/
theorem Excused.arrival (h : Excused cause cache) (hmild : event.Mild cause)
    (harrival : cache.Arrival now id key event (.returned (.error failure))) :
    Passed cause failure := by
  generalize hpoint : (.returned (.error failure) : Point ν) = point at harrival
  cases harrival with
  | called =>
      unfold enterPoint at hpoint
      split at hpoint <;> cases hpoint
  | served | written => cases hpoint
  | answered =>
      unfold receivePoint at hpoint
      split at hpoint
      · cases hpoint
      · exact h.join_point hpoint.symm
      · exact h.join_point hpoint.symm
      · cases hpoint
      · exact h.join_point hpoint.symm
  | erased => exact h.join_point hpoint.symm
  | @computed _ _ _ result =>
      cases result with
      | error own =>
          injection hpoint with hverdict
          refine passed_of_verdict hverdict.symm ?_
          rintro _ ⟨⟩
          exact hmild.failed rfl
      | ok value =>
          unfold concludePoint at hpoint
          dsimp only at hpoint
          split at hpoint <;> cases hpoint
  | timedOut => exact absurd rfl hmild.in_time
  | settled _ hout =>
      injection hpoint with hverdict
      refine passed_of_verdict hverdict.symm ?_
      rintro own rfl
      exact h.flights hout
  | promoted => exact absurd hpoint.symm lead_point_ne_error

/-- A step at which no computation fails otherwise leaves it at the known kinds of failures. -/
theorem Excused.step (h : Excused cause cache) (hregular : Regular cache)
    (hstep : cache.Transition now event next) (hmild : event.Mild cause) : Excused cause next where
  flights {flight failure} hout := by
    cases hbefore : (cache.flight flight).outcome with
    | some outcome =>
        cases (hstep.outcome_kept hregular hbefore).symm.trans hout
        exact h.flights hbefore
    | none =>
        obtain ⟨_, _, _, hends⟩ := hstep.ended hbefore hout
        cases hends with
        | failed => exact hmild.failed rfl
        | late => exact absurd rfl hmild.in_time
  calls hcall := by
    rcases hstep.arrival hcall with hbefore | harrival
    · exact h.calls hbefore
    · exact h.arrival hmild harrival

end Cache

namespace System

open Cache (Excused Regular)

variable {σ ν : Type} [Backend σ] [Payload ν] {system next : System σ ν} {event : Event ν}
  {cause : Failure → Prop}

/-- The same for a step of a cache over its store. -/
theorem Transition.excused (hstep : system.Transition event next) (h : Excused cause system.cache)
    (hregular : Regular system.cache)
    (hfailed : ∀ {id failure}, event = .computed id (.error failure) → cause failure)
    (hin_time : ∀ {id}, event ≠ .timedOut id) :
    Excused cause next.cache ∧ Regular next.cache := by
  rcases hstep.mirrored with hsame | ⟨own, hmirrors, hcache⟩
  · rw [hsame]
    exact ⟨h, hregular⟩
  · refine ⟨h.step hregular hcache ⟨?_, ?_⟩, hcache.regular hregular⟩
    · rintro id failure rfl
      exact hfailed hmirrors.of_computed
    · rintro id rfl
      cases hmirrors with
      | own hown =>
          cases event <;> cases hown
          exact hin_time rfl

end System

end GameLibrary
