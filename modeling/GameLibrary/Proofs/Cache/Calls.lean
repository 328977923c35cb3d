import GameLibrary.Proofs.Cache.Runs
import GameLibrary.Proofs.Store.Lifetime
import GameLibrary.Proofs.Store.Tier1

/-!
# Where callers stand

An event takes one caller to its next point and leaves all others where they are
(`Transition.find?_of_caller_ne`). The next point is stated here for each place at which a caller
goes on, as a function of what the caller finds in the cache.
-/

namespace GameLibrary.Cache

variable {ν : Type}

/-- The kinds of places where callers stand. -/
inductive Stage where
  | reading
  | answered
  | erasing
  | waiting
  | computing
  | storing
  | returned
deriving DecidableEq, Repr

/-- The kind of a point. -/
def Point.stage : Point ν → Stage
  | .reading => .reading
  | .answered _ => .answered
  | .erasing => .erasing
  | .waiting _ _ => .waiting
  | .computing _ _ _ => .computing
  | .storing _ _ _ _ => .storing
  | .returned _ => .returned

section Points

variable (cache : Cache ν) (now : Instant) (key : Key) (fallback : Option ν)

/-- Where a caller stands that has looked its key up in memory. -/
def enterPoint : Point ν :=
  match cache.tier1.live? now key with
  | some value => .returned (.ok ⟨value, .tier1⟩)
  | none => .reading

/-- Where a caller stands that has begun to lead a flight. -/
def leadPoint (flight : FlightId) : Point ν :=
  match cache.tier1.live? now key with
  | some value => .returned (.ok ⟨value, .tier1⟩)
  | none => .computing flight fallback now

/-- Where a caller stands that has joined the flight of its key, or has opened one. -/
def joinPoint : Point ν :=
  match cache.registry.find? key with
  | none => cache.leadPoint now key fallback cache.nextFlight
  | some flight =>
      match (cache.flight flight).outcome, (cache.flight flight).leader with
      | some outcome, _ => .returned (verdict cache.config false fallback outcome)
      | none, none => cache.leadPoint now key fallback flight
      | none, some _ => .waiting flight fallback

/-- Where a caller stands that has the answer of the durable store. -/
def receivePoint [Payload ν] (answer : ReadAnswer) : Point ν :=
  match Durable.finding cache.config.durable now key answer with
  | .usable (.fresh value) => .returned (.ok ⟨value, .tier2⟩)
  | .usable (.stale value) => cache.joinPoint now key (some value)
  | .usable .missing => cache.joinPoint now key none
  | .outdated => .erasing
  | .failed _ => cache.joinPoint now key none

/-- Where a caller stands that has the result of its computation. -/
def concludePoint [Payload ν] (flight : FlightId) : Except Failure ν → Point ν
  | .error failure => .returned (verdict cache.config true fallback (.error failure))
  | .ok value =>
      if cache.config.partialPolicy.keepsDurably (Payload.isComplete value) then
        .storing flight fallback value (Durable.record cache.config.durable now key value)
      else .returned (.ok ⟨value, .origin⟩)

theorem stage_enter_point : (cache.enterPoint now key).stage ∈ [.reading, .returned] := by
  unfold enterPoint
  split <;> simp [Point.stage]

theorem stage_lead_point (flight : FlightId) :
    (cache.leadPoint now key fallback flight).stage ∈ [.computing, .returned] := by
  unfold leadPoint
  split <;> simp [Point.stage]

theorem stage_join_point :
    (cache.joinPoint now key fallback).stage ∈ [.waiting, .computing, .returned] := by
  have hlead := stage_lead_point cache now key fallback
  unfold joinPoint
  split
  · exact List.mem_cons_of_mem _ (hlead _)
  · split
    · simp [Point.stage]
    · exact List.mem_cons_of_mem _ (hlead _)
    · simp [Point.stage]

theorem stage_conclude_point [Payload ν] (flight : FlightId) (result : Except Failure ν) :
    (cache.concludePoint now key fallback flight result).stage ∈ [.storing, .returned] := by
  unfold concludePoint
  split
  · simp [Point.stage]
  · split <;> simp [Point.stage]

end Points

/-- How a caller comes to a point: by which event, from where. -/
inductive Arrival [Payload ν] (cache : Cache ν) (now : Instant) (id : CallId) (key : Key) :
    Event ν → Point ν → Prop where
  | called : cache.calls.find? id = none →
      Arrival cache now id key (.called id key) (cache.enterPoint now key)
  | served {answer} : cache.calls.find? id = some ⟨key, .reading⟩ →
      Arrival cache now id key (.served id answer) (.answered answer)
  | answered {answer} : cache.calls.find? id = some ⟨key, .answered answer⟩ →
      Arrival cache now id key (.answered id) (cache.receivePoint now key answer)
  | erased : cache.calls.find? id = some ⟨key, .erasing⟩ →
      Arrival cache now id key (.erased id) (cache.joinPoint now key none)
  | computed {flight fallback started result} :
      cache.calls.find? id = some ⟨key, .computing flight fallback started⟩ →
      Arrival cache now id key (.computed id result)
        (cache.concludePoint now key fallback flight result)
  | timedOut {flight fallback started failure} :
      cache.calls.find? id = some ⟨key, .computing flight fallback started⟩ →
      Arrival cache now id key (.timedOut id)
        (cache.concludePoint now key fallback flight (.error failure))
  | written {flight fallback value record answer} :
      cache.calls.find? id = some ⟨key, .storing flight fallback value record⟩ →
      Arrival cache now id key (.written id answer) (.returned (.ok ⟨value, .origin⟩))
  | settled {flight fallback outcome} :
      cache.calls.find? id = some ⟨key, .waiting flight fallback⟩ →
      (cache.flight flight).outcome = some outcome →
      Arrival cache now id key (.resumed id)
        (.returned (verdict cache.config false fallback outcome))
  | promoted {flight fallback} :
      cache.calls.find? id = some ⟨key, .waiting flight fallback⟩ →
      (cache.flight flight).outcome = none →
      Arrival cache now id key (.resumed id) (cache.leadPoint now key fallback flight)

variable {cache : Cache ν} {now : Instant} {id : CallId} {key : Key} {flight : FlightId}
  {fallback : Option ν}

/-- A call that ends changes counters and where its caller stands, nothing else. -/
theorem settle_eq (cache : Cache ν) (id : CallId) (key : Key) (led : Bool) (fallback : Option ν)
    (outcome : Outcome ν) : ∃ metrics, cache.settle id key led fallback outcome =
      ({ cache with metrics } : Cache ν).setPoint id key
        (.returned (verdict cache.config led fallback outcome)) := by
  -- Up to two counters are changed before the caller is set down.
  unfold settle
  cases led with
  | true =>
      dsimp only
      split <;> exact ⟨_, rfl⟩
  | false =>
      dsimp only
      split <;> exact ⟨_, rfl⟩

@[simp] theorem calls_count (cache : Cache ν) (change : Metrics → Metrics) :
    (cache.count change).calls = cache.calls := rfl

@[simp] theorem config_count (cache : Cache ν) (change : Metrics → Metrics) :
    (cache.count change).config = cache.config := rfl

@[simp] theorem calls_leave (cache : Cache ν) : (cache.leave id flight).calls = cache.calls := by
  unfold leave handOver
  dsimp only
  split <;> rfl

@[simp] theorem config_leave (cache : Cache ν) :
    (cache.leave id flight).config = cache.config := by
  unfold leave handOver
  dsimp only
  split <;> rfl

@[simp] theorem calls_settle (cache : Cache ν) (led : Bool) (outcome : Outcome ν) :
    (cache.settle id key led fallback outcome).calls =
      cache.calls.insert id ⟨key, .returned (verdict cache.config led fallback outcome)⟩ := by
  obtain ⟨metrics, hsettle⟩ := settle_eq cache id key led fallback outcome
  rw [hsettle]
  rfl

@[simp] theorem config_settle (cache : Cache ν) (led : Bool) (outcome : Outcome ν) :
    (cache.settle id key led fallback outcome).config = cache.config := by
  obtain ⟨metrics, hsettle⟩ := settle_eq cache id key led fallback outcome
  rw [hsettle]
  rfl

@[simp] theorem calls_land (cache : Cache ν) (outcome : Outcome ν) :
    (cache.land id key flight fallback outcome).calls =
      cache.calls.insert id ⟨key, .returned (verdict cache.config true fallback outcome)⟩ := by
  unfold land
  dsimp only
  split <;> rw [calls_settle] <;> rfl

@[simp] theorem config_land (cache : Cache ν) (outcome : Outcome ν) :
    (cache.land id key flight fallback outcome).config = cache.config := by
  unfold land
  dsimp only
  split <;> rw [config_settle] <;> rfl

@[simp] theorem calls_lead (cache : Cache ν) :
    (cache.lead now id key flight fallback).calls =
      cache.calls.insert id ⟨key, cache.leadPoint now key fallback flight⟩ := by
  unfold lead leadPoint
  rw [← Tier1.get_fst]
  cases cache.tier1.get now key with
  | mk held tier1 =>
      cases held with
      | some value =>
          dsimp only
          rw [calls_land]
          rfl
      | none => rfl

@[simp] theorem config_lead (cache : Cache ν) :
    (cache.lead now id key flight fallback).config = cache.config := by
  unfold lead
  cases cache.tier1.get now key with
  | mk held tier1 =>
      cases held with
      | some value =>
          dsimp only
          rw [config_land]
      | none => rfl

@[simp] theorem calls_join (cache : Cache ν) :
    (cache.join now id key fallback).calls =
      cache.calls.insert id ⟨key, cache.joinPoint now key fallback⟩ := by
  unfold join joinPoint
  cases cache.registry.find? key with
  | none => exact calls_lead _
  | some flight =>
      dsimp only
      cases (cache.flight flight).outcome with
      | some outcome => exact calls_settle ..
      | none =>
          cases (cache.flight flight).leader with
          | none => exact calls_lead _
          | some leader => rfl

@[simp] theorem config_join (cache : Cache ν) :
    (cache.join now id key fallback).config = cache.config := by
  unfold join
  cases cache.registry.find? key with
  | none => exact config_lead _
  | some flight =>
      dsimp only
      split
      · exact config_settle ..
      · exact config_lead _
      · rfl

@[simp] theorem calls_enter (cache : Cache ν) :
    (cache.enter now id key).calls =
      cache.calls.insert id ⟨key, cache.enterPoint now key⟩ := by
  unfold enter enterPoint
  rw [← Tier1.get_fst]
  cases cache.tier1.get now key with
  | mk held tier1 => cases held <;> rfl

@[simp] theorem config_enter (cache : Cache ν) :
    (cache.enter now id key).config = cache.config := by
  unfold enter
  cases cache.tier1.get now key with
  | mk held tier1 => cases held <;> rfl

/-- A caller waits for a flight when it has just joined the flight of its key. -/
theorem joined_of_waiting {given : Option ν}
    (h : cache.joinPoint now key given = .waiting flight fallback) :
    cache.registry.find? key = some flight := by
  -- Whoever begins to lead does not wait.
  have hlead : ∀ other, cache.leadPoint now key given other ≠ .waiting flight fallback := by
    intro other heq
    have hmem := stage_lead_point cache now key given other
    simp [heq, Point.stage] at hmem
  unfold joinPoint at h
  split at h
  · exact absurd h (hlead _)
  · rename_i hreg
    split at h
    · cases h
    · exact absurd h (hlead _)
    · cases h
      exact hreg

section Payloads

variable [Payload ν]

@[simp] theorem calls_receive (cache : Cache ν) (answer : ReadAnswer) :
    (cache.receive now id key answer).calls =
      cache.calls.insert id ⟨key, cache.receivePoint now key answer⟩ := by
  unfold receive receivePoint
  cases (Durable.finding cache.config.durable now key answer : Durable.Finding ν) with
  | usable lookup =>
      cases lookup with
      | fresh value => rfl
      | stale value => exact calls_join _
      | missing => exact calls_join _
  | outdated => rfl
  | failed failure => exact calls_join _

@[simp] theorem config_receive (cache : Cache ν) (answer : ReadAnswer) :
    (cache.receive now id key answer).config = cache.config := by
  unfold receive
  split
  · rfl
  · exact config_join _
  · exact config_join _
  · rfl
  · exact config_join _

/-- A value that is not kept in memory lacks something, and complete ones alone are to be kept. -/
theorem PartialPolicy.of_not_keeps_in_memory {policy : PartialPolicy} {complete : Bool}
    (h : policy.keepsInMemory complete = false) : complete = false ∧ policy = .completeOnly := by
  obtain ⟨hcomplete, hpolicy⟩ := Bool.or_eq_false_iff.1 h
  exact ⟨hcomplete, of_not_not (of_decide_eq_false hpolicy)⟩

/-- What is not kept in memory is not written either. -/
theorem PartialPolicy.not_keeps_durably {policy : PartialPolicy} {complete : Bool}
    (h : policy.keepsInMemory complete = false) : policy.keepsDurably complete = false := by
  obtain ⟨rfl, rfl⟩ := of_not_keeps_in_memory h
  rfl

/-- The tier in memory with the value of a computation, if the policy is to keep it there. -/
def keptTier1 (cache : Cache ν) (now : Instant) (key : Key) (value : ν) : Tier1 Key ν :=
  if cache.config.partialPolicy.keepsInMemory (Payload.isComplete value) then
    cache.tier1.insert now key value
  else cache.tier1

/-- The value of a computation is counted, and kept in memory, before its caller goes on. -/
theorem conclude_ok (cache : Cache ν) (started : Instant) (value : ν) :
    ∃ metrics, cache.conclude now id key flight fallback started (.ok value) =
      let kept : Cache ν := { cache with metrics, tier1 := cache.keptTier1 now key value }
      if cache.config.partialPolicy.keepsDurably (Payload.isComplete value) then
        kept.setPoint id key
          (.storing flight fallback value (Durable.record cache.config.durable now key value))
      else kept.land id key flight fallback (.ok ⟨value, .origin⟩) := by
  -- Whether the value is complete shows in the counters only.
  have hcount : ∃ metrics, (if Payload.isComplete value then
      cache.count (·.originFetch (now.since started))
    else (cache.count (·.originFetch (now.since started))).count .partialResult) =
      ({ cache with metrics } : Cache ν) := by
    split <;> exact ⟨_, rfl⟩
  obtain ⟨metrics, hcount⟩ := hcount
  refine ⟨metrics, ?_⟩
  unfold conclude keptTier1
  dsimp only
  rw [hcount]
  split <;> split <;> rfl

@[simp] theorem calls_conclude (cache : Cache ν) (started : Instant)
    (result : Except Failure ν) :
    (cache.conclude now id key flight fallback started result).calls =
      cache.calls.insert id ⟨key, cache.concludePoint now key fallback flight result⟩ := by
  cases result with
  | error failure =>
      unfold conclude
      exact calls_land _ _
  | ok value =>
      obtain ⟨metrics, hconclude⟩ := cache.conclude_ok started value
      rw [hconclude]
      unfold concludePoint
      dsimp only
      split
      · rfl
      · exact calls_land _ _

@[simp] theorem config_conclude (cache : Cache ν) (started : Instant)
    (result : Except Failure ν) :
    (cache.conclude now id key flight fallback started result).config = cache.config := by
  cases result with
  | error failure =>
      unfold conclude
      exact config_land _ _
  | ok value =>
      obtain ⟨metrics, hconclude⟩ := cache.conclude_ok started value
      rw [hconclude]
      split
      · rfl
      · exact config_land _ _

/-- The caller that an event takes further. -/
def Event.caller : Event ν → Option CallId
  | .called id _ | .served id _ | .answered id | .erased id | .computed id _ | .timedOut id
  | .written id _ | .resumed id | .dropped id => some id
  | .forgotten _ | .purged => none

variable {event : Event ν} {next : Cache ν}

/-- The settings never change. -/
theorem Transition.config_eq (h : cache.Transition now event next) :
    next.config = cache.config := by
  cases h with
  | served | dropped | forgotten | purged => rfl
  | left => exact config_leave _
  | called | answered | erased | computed | timedOut | written | unwritten | settled | promoted =>
      simp

/-- An event leaves all callers but its own where they are. -/
theorem Transition.find?_of_caller_ne (h : cache.Transition now event next) {other : CallId}
    (hne : event.caller ≠ some other) : next.calls.find? other = cache.calls.find? other := by
  have hother : ∀ {id}, event.caller = some id → other ≠ id := by
    intro id hid heq
    subst heq
    exact hne hid
  cases h with
  | left => rw [calls_leave, Table.find?_erase, if_neg (hother rfl)]
  | dropped => rw [Table.find?_erase, if_neg (hother rfl)]
  | served => exact (Table.find?_insert ..).trans (if_neg (hother rfl))
  | forgotten | purged => rfl
  | called | answered | erased | computed | timedOut | written | unwritten | settled | promoted =>
      simp [hother rfl]

/-- The caller of an event has just come to the point at which it stands. -/
theorem Transition.arrival_of_caller (h : cache.Transition now event next) {point : Point ν}
    (hmove : event.caller = some id) (hcall : next.calls.find? id = some ⟨key, point⟩) :
    cache.Arrival now id key event point := by
  -- The caller of an event is set down at one point, so that is the point in question.
  have hnext : ∀ {other k p}, next.calls = cache.calls.insert other ⟨k, p⟩ →
      event.caller = some other → other = id ∧ k = key ∧ p = point := by
    intro other k p hcalls hcaller
    have hid : other = id := Option.some.inj (hcaller.symm.trans hmove)
    rw [hcalls, Table.find?_insert, if_pos hid.symm] at hcall
    cases hcall
    exact ⟨hid, rfl, rfl⟩
  cases h with
  | called hfree =>
      obtain ⟨rfl, rfl, rfl⟩ := hnext (calls_enter _) rfl
      exact .called hfree
  | served hpoint =>
      obtain ⟨rfl, rfl, rfl⟩ := hnext rfl rfl
      exact .served hpoint
  | answered hpoint =>
      obtain ⟨rfl, rfl, rfl⟩ := hnext (calls_receive _ _) rfl
      exact .answered hpoint
  | erased hpoint =>
      obtain ⟨rfl, rfl, rfl⟩ := hnext (calls_join _) rfl
      exact .erased hpoint
  | computed hpoint =>
      obtain ⟨rfl, rfl, rfl⟩ := hnext (calls_conclude _ _ _) rfl
      exact .computed hpoint
  | timedOut hpoint _ =>
      obtain ⟨rfl, rfl, rfl⟩ := hnext (calls_conclude _ _ _) rfl
      exact .timedOut hpoint
  | written hpoint =>
      obtain ⟨rfl, rfl, rfl⟩ := hnext (calls_land _ _) rfl
      exact .written hpoint
  | unwritten hpoint =>
      obtain ⟨rfl, rfl, rfl⟩ := hnext (calls_land _ _) rfl
      exact .written hpoint
  | settled hpoint hout =>
      obtain ⟨rfl, rfl, rfl⟩ := hnext (calls_settle _ _ _) rfl
      exact .settled hpoint hout
  | promoted hpoint hout _ =>
      obtain ⟨rfl, rfl, rfl⟩ := hnext (calls_lead _) rfl
      exact .promoted hpoint hout
  | left =>
      cases hmove
      simp at hcall
  | dropped =>
      cases hmove
      simp at hcall
  | forgotten => cases hmove
  | purged => cases hmove

/-- A caller stands at its point because it stood there already, or it has just come there. -/
theorem Transition.arrival (h : cache.Transition now event next) {point : Point ν}
    (hcall : next.calls.find? id = some ⟨key, point⟩) :
    cache.calls.find? id = some ⟨key, point⟩ ∨ cache.Arrival now id key event point := by
  by_cases hmove : event.caller = some id
  · exact .inr (h.arrival_of_caller hmove hcall)
  · exact .inl ((h.find?_of_caller_ne hmove).symm.trans hcall)

/-- A caller that comes to a point has just begun its call, or was under way. -/
theorem Arrival.source {point : Point ν} (h : cache.Arrival now id key event point) :
    event.caller = some id ∧ (event = .called id key ∨
      ∃ before, cache.calls.find? id = some ⟨key, before⟩ ∧ before.stage ≠ .returned) := by
  cases h with
  | called => exact ⟨rfl, .inl rfl⟩
  | served hcall | answered hcall | erased hcall | computed hcall | timedOut hcall
  | written hcall | settled hcall | promoted hcall => exact ⟨rfl, .inr ⟨_, hcall, by rintro ⟨⟩⟩⟩

/-- The places to which an event can take its caller. -/
def Event.stages : Event ν → List Stage
  | .called _ _ => [.reading, .returned]
  | .served _ _ => [.answered]
  | .answered _ => [.erasing, .waiting, .computing, .returned]
  | .erased _ => [.waiting, .computing, .returned]
  | .computed _ _ | .timedOut _ => [.storing, .returned]
  | .written _ _ => [.returned]
  | .resumed _ => [.computing, .returned]
  | .dropped _ | .forgotten _ | .purged => []

/-- A caller comes to no other places. -/
theorem Arrival.stage_mem {point : Point ν} (h : cache.Arrival now id key event point) :
    point.stage ∈ event.stages := by
  cases h with
  | called => exact stage_enter_point ..
  | served | written | settled => simp [Point.stage, Event.stages]
  | answered =>
      unfold receivePoint
      split
      · simp [Point.stage, Event.stages]
      · exact List.mem_cons_of_mem _ (stage_join_point ..)
      · exact List.mem_cons_of_mem _ (stage_join_point ..)
      · simp [Point.stage, Event.stages]
      · exact List.mem_cons_of_mem _ (stage_join_point ..)
  | erased => exact stage_join_point ..
  | computed | timedOut => exact stage_conclude_point ..
  | promoted => exact stage_lead_point ..

/-- A caller has an answer in hand when the store has just served it. -/
theorem Arrival.answered_from {answer : ReadAnswer}
    (h : cache.Arrival now id key event (.answered answer)) :
    event = .served id answer ∧ cache.calls.find? id = some ⟨key, .reading⟩ := by
  have hstage := h.stage_mem
  cases event with
  | served =>
      cases h with
      | served hreading => exact ⟨rfl, hreading⟩
  | _ => simp [Point.stage, Event.stages] at hstage

/-- A caller removes a record when the answer has just told it that the record is too old. -/
theorem Arrival.erasing_from (h : cache.Arrival now id key event .erasing) :
    event = .answered id ∧ ∃ record,
      cache.calls.find? id = some ⟨key, .answered (.ok (some record))⟩ ∧
      record.key = key ∧ record.isPastGrace now cache.config.durable.grace = true := by
  -- Nobody who has just joined a flight is removing a record.
  have hjoin : ∀ fallback, .erasing ≠ cache.joinPoint now key fallback := by
    intro fallback heq
    have hmem := stage_join_point cache now key fallback
    simp [← heq, Point.stage] at hmem
  have hstage := h.stage_mem
  generalize hpoint : (.erasing : Point ν) = point at h hstage
  cases event with
  | answered =>
      cases h with
      | answered hcall =>
          unfold receivePoint at hpoint
          split at hpoint
          · cases hpoint
          · exact absurd hpoint (hjoin _)
          · exact absurd hpoint (hjoin _)
          · rename_i houtdated
            obtain ⟨record, rfl, hrecord⟩ := Durable.outdated_iff.1 houtdated
            exact ⟨rfl, record, hcall, hrecord⟩
          · exact absurd hpoint (hjoin _)
  | _ => simp [← hpoint, Point.stage, Event.stages] at hstage

/-- A caller writes a value when its computation has just given it. -/
theorem Arrival.storing_from {value : ν} {record : Record}
    (h : cache.Arrival now id key event (.storing flight fallback value record)) :
    event = .computed id (.ok value) ∧
      (∃ started, cache.calls.find? id = some ⟨key, .computing flight fallback started⟩) ∧
      record = Durable.record cache.config.durable now key value := by
  have hstage := h.stage_mem
  generalize hpoint : (.storing flight fallback value record : Point ν) = point at h hstage
  cases event with
  | computed id result =>
      cases h with
      | computed hcall =>
          unfold concludePoint at hpoint
          split at hpoint
          · cases hpoint
          · split at hpoint <;> cases hpoint
            exact ⟨rfl, ⟨_, hcall⟩, rfl⟩
  | timedOut =>
      cases h with
      | timedOut hcall => cases hpoint
  | _ => simp [← hpoint, Point.stage, Event.stages] at hstage

/-- A caller writes a value only if the policy lets the value into the store. -/
theorem Arrival.keeps_durably {value : ν} {record : Record}
    (h : cache.Arrival now id key event (.storing flight fallback value record)) :
    cache.config.partialPolicy.keepsDurably (Payload.isComplete value) = true := by
  obtain ⟨rfl, -, -⟩ := h.storing_from
  generalize hpoint : (.storing flight fallback value record : Point ν) = point at h
  cases h with
  | computed =>
      unfold concludePoint at hpoint
      dsimp only at hpoint
      split at hpoint
      · assumption
      · cases hpoint

/-- A caller waits for the flight that is registered for its key. -/
theorem Arrival.waiting_from (h : cache.Arrival now id key event (.waiting flight fallback)) :
    cache.registry.find? key = some flight := by
  have hstage := h.stage_mem
  generalize hpoint : (.waiting flight fallback : Point ν) = point at h hstage
  cases event with
  | answered =>
      cases h with
      | answered hcall =>
          unfold receivePoint at hpoint
          split at hpoint
          · cases hpoint
          · exact joined_of_waiting hpoint.symm
          · exact joined_of_waiting hpoint.symm
          · cases hpoint
          · exact joined_of_waiting hpoint.symm
  | erased =>
      cases h with
      | erased hcall => exact joined_of_waiting hpoint.symm
  | _ => simp [← hpoint, Point.stage, Event.stages] at hstage

end Payloads

end GameLibrary.Cache
