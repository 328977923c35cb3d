import GameLibrary.Cache.State

/-!
# The steps of the cache

A step takes one caller from the place where it waits to the next such place. What the caller waited
for comes with the event: the answer of the durable store, the result of the computation. Every
interleaving of callers is a sequence of events, and `Cache.step` says what each event does; it gives
nothing where the event cannot happen.
-/

namespace GameLibrary.Cache

variable {ν : Type}

/-- What can happen to a cache. -/
inductive Event (ν : Type) where
  /-- A caller asks for a key. -/
  | called (id : CallId) (key : Key)
  /-- The durable store has served the read of a caller. -/
  | served (id : CallId) (answer : ReadAnswer)
  /-- The answer to the read reaches the caller. -/
  | answered (id : CallId)
  /-- The durable store has removed a record beyond the grace period, or refused to. -/
  | erased (id : CallId)
  /-- The computation of a caller is over. -/
  | computed (id : CallId) (result : Except Failure ν)
  /-- The computation of a caller has taken too long. -/
  | timedOut (id : CallId)
  /-- The durable store has answered the write of a caller. -/
  | written (id : CallId) (answer : Except Failure Unit)
  /-- A caller that waited for a flight goes on. -/
  | resumed (id : CallId)
  /-- A caller is dropped, and with it whatever it waits for. -/
  | dropped (id : CallId)
  /-- A key is removed from memory. -/
  | forgotten (key : Key)
  /-- The expired entries are removed from memory. -/
  | purged

/-- What a call returns for the outcome of its flight. A caller that did not lead gets the value as
a shared one and a failure by its message. A failure is replaced by the fallback, if there is one
and the settings allow it. -/
def verdict (config : Config) (led : Bool) (fallback : Option ν) : Outcome ν → Outcome ν
  | .ok resolved => .ok (if led then resolved else { resolved with source := .coalesced })
  | .error failure =>
      match fallback, config.servesStale with
      | some value, true => .ok ⟨value, .stale⟩
      | _, _ => .error (if led then failure else .coalesced failure.message)

/-- Ends a call with the outcome of its flight. -/
def settle (cache : Cache ν) (id : CallId) (key : Key) (led : Bool) (fallback : Option ν)
    (outcome : Outcome ν) : Cache ν :=
  let cache := if led then cache else cache.count .coalescedWait
  let cache :=
    match outcome, fallback, cache.config.servesStale with
    | .error _, some _, true => cache.count .stale
    | _, _, _ => cache
  cache.setPoint id key (.returned (verdict cache.config led fallback outcome))

/-- Ends a flight and the call of its leader, and takes the flight out of the registry. -/
def land (cache : Cache ν) (id : CallId) (key : Key) (flight : FlightId) (fallback : Option ν)
    (outcome : Outcome ν) : Cache ν :=
  let cache := cache.setFlight flight { outcome := some outcome }
  let cache :=
    if cache.registry.find? key = some flight then
      { cache with registry := cache.registry.erase key }
    else cache
  cache.settle id key true fallback outcome

/-- Begins to lead a flight. Another leader may have brought the value into memory meanwhile. -/
def lead (cache : Cache ν) (now : Instant) (id : CallId) (key : Key) (flight : FlightId)
    (fallback : Option ν) : Cache ν :=
  let (held, tier1) := cache.tier1.get now key
  let cache := { cache with tier1 }
  match held with
  | some value => cache.land id key flight fallback (.ok ⟨value, .tier1⟩)
  | none => cache.setPoint id key (.computing flight fallback now)

/-- Joins the flight of a key, or opens one. A caller leads a flight that has no leader. -/
def join (cache : Cache ν) (now : Instant) (id : CallId) (key : Key) (fallback : Option ν) :
    Cache ν :=
  match cache.registry.find? key with
  | none =>
      let flight := cache.nextFlight
      let cache := { cache with
        registry := cache.registry.insert key flight
        nextFlight := flight + 1 }
      (cache.setFlight flight { leader := some id }).lead now id key flight fallback
  | some flight =>
      let joined := cache.flight flight
      match joined.outcome, joined.leader with
      | some outcome, _ => cache.settle id key false fallback outcome
      | none, none =>
          (cache.setFlight flight { joined with leader := some id }).lead now id key flight fallback
      | none, some _ =>
          (cache.setFlight flight { joined with queue := joined.queue ++ [id] }).setPoint id key
            (.waiting flight fallback)

/-- Looks a key up in memory. -/
def enter (cache : Cache ν) (now : Instant) (id : CallId) (key : Key) : Cache ν :=
  let (held, tier1) := cache.tier1.get now key
  let cache := { cache with tier1 }
  match held with
  | some value =>
      (cache.count .tier1Hit).setPoint id key (.returned (.ok ⟨value, .tier1⟩))
  | none => (cache.count .tier1Miss).setPoint id key .reading

/-- Goes on with the answer of the durable store. A fresh value is brought into memory; a failure
counts as a miss. -/
def receive [Payload ν] (cache : Cache ν) (now : Instant) (id : CallId) (key : Key)
    (answer : ReadAnswer) : Cache ν :=
  match Durable.finding cache.config.durable now key answer with
  | .usable (.fresh value) =>
      (((cache.count .tier2Hit).keep now key value).count .promotion).setPoint id key
        (.returned (.ok ⟨value, .tier2⟩))
  | .usable (.stale value) => (cache.count .tier2Miss).join now id key (some value)
  | .usable .missing => (cache.count .tier2Miss).join now id key none
  | .outdated => cache.setPoint id key .erasing
  | .failed _ => (cache.count .tier2Error).join now id key none

/-- Goes on with the result of the computation. The policy says where a value is kept. -/
def conclude [Payload ν] (cache : Cache ν) (now : Instant) (id : CallId) (key : Key)
    (flight : FlightId) (fallback : Option ν) (started : Instant) :
    Except Failure ν → Cache ν
  | .error failure => (cache.count .originFailure).land id key flight fallback (.error failure)
  | .ok value =>
      let complete := Payload.isComplete value
      let policy := cache.config.partialPolicy
      let cache := cache.count (.originFetch · (now.since started))
      let cache := if complete then cache else cache.count .partialResult
      let cache := if policy.keepsInMemory complete then cache.keep now key value else cache
      if policy.keepsDurably complete then
        cache.setPoint id key
          (.storing flight fallback value (Durable.record cache.config.durable now key value))
      else cache.land id key flight fallback (.ok ⟨value, .origin⟩)

/-- Gives up the lead of a flight: the first caller of the queue is the next to lead. -/
def handOver (cache : Cache ν) (flight : FlightId) : Cache ν :=
  let left := cache.flight flight
  cache.setFlight flight { left with leader := left.queue.head?, queue := left.queue.tail }

/-- Leaves a flight as its leader or as one of its queue. -/
def leave (cache : Cache ν) (id : CallId) (flight : FlightId) : Cache ν :=
  let left := cache.flight flight
  if left.leader = some id then cache.handOver flight
  else cache.setFlight flight { left with queue := left.queue.filter (· ≠ id) }

/-- What an event does at a given time, if it can happen. With a dropped caller the request to the
durable store that it waits for is given up, whereas a file store still carries out an operation that
was handed to its pool of threads. -/
def step [Payload ν] (cache : Cache ν) (now : Instant) : Event ν → Option (Cache ν)
  | .called id key =>
      match cache.calls.find? id with
      | none => some (cache.enter now id key)
      | some _ => none
  | .served id answer =>
      match cache.calls.find? id with
      | some ⟨key, .reading⟩ => some (cache.setPoint id key (.answered answer))
      | _ => none
  | .answered id =>
      match cache.calls.find? id with
      | some ⟨key, .answered answer⟩ => some (cache.receive now id key answer)
      | _ => none
  | .erased id =>
      match cache.calls.find? id with
      | some ⟨key, .erasing⟩ => some ((cache.count .tier2Miss).join now id key none)
      | _ => none
  | .computed id result =>
      match cache.calls.find? id with
      | some ⟨key, .computing flight fallback started⟩ =>
          some (cache.conclude now id key flight fallback started result)
      | _ => none
  | .timedOut id =>
      match cache.calls.find? id with
      | some ⟨key, .computing flight fallback started⟩ =>
          let limit := cache.config.resolveTimeout
          if limit ≤ now.since started then
            some (cache.conclude now id key flight fallback started
              (.error (.resolveTimeout key.text limit)))
          else none
      | _ => none
  | .written id answer =>
      match cache.calls.find? id with
      | some ⟨key, .storing flight fallback value _⟩ =>
          let cache :=
            match answer with
            | .ok () => cache
            | .error _ => cache.count .tier2Error
          some (cache.land id key flight fallback (.ok ⟨value, .origin⟩))
      | _ => none
  | .resumed id =>
      match cache.calls.find? id with
      | some ⟨key, .waiting flight fallback⟩ =>
          let joined := cache.flight flight
          match joined.outcome with
          | some outcome => some (cache.settle id key false fallback outcome)
          | none =>
              if joined.leader = some id then some (cache.lead now id key flight fallback)
              else none
      | _ => none
  | .dropped id =>
      match cache.calls.find? id with
      | none => none
      | some call =>
          let cache := { cache with calls := cache.calls.erase id }
          match call.point with
          | .waiting flight _ | .computing flight _ _ | .storing flight _ _ _ =>
              some (cache.leave id flight)
          | _ => some cache
  | .forgotten key => some { cache with tier1 := (cache.tier1.remove key).2 }
  | .purged => some { cache with tier1 := (cache.tier1.purge now).2 }

end GameLibrary.Cache
