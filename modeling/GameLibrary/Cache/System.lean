import GameLibrary.Cache.Step

/-!
# A cache over a durable store

A system is a cache with the store under it and the time. The store serves each request at one
instant, and callers can be interleaved in any way between these instants. A key is invalidated in
two steps: it is removed from memory at once, and from the store when the store gets to it.
-/

namespace GameLibrary

/-- A request to remove a key from both tiers. -/
inductive Invalidation where
  /-- The store has not removed the key yet; memory may have held it. -/
  | deleting (key : Key) (held : Bool)
  /-- The request is over; the result tells whether one of the tiers held the key. -/
  | returned (result : Except Failure Bool)

/-- The result of an invalidation when the store has answered. -/
def Invalidation.result (held : Bool) (answer : Except Failure Bool) : Except Failure Bool :=
  answer.map (held || ·)

/-- A cache, the store under it, and the time. -/
structure System (σ ν : Type) where
  cache : Cache ν
  store : σ
  now : Instant
  invalidations : Table CallId Invalidation := .empty

namespace System

variable {σ ν : Type} [Backend σ] [Payload ν]

/-- What can happen to a system. -/
inductive Event (ν : Type) where
  | elapsed (time : Duration)
  | called (id : CallId) (key : Key)
  /-- The store serves the read of a caller. -/
  | served (id : CallId)
  /-- The answer to the read reaches the caller. -/
  | answered (id : CallId)
  /-- The store removes a record beyond the grace period for a caller. -/
  | erased (id : CallId)
  | computed (id : CallId) (result : Except Failure ν)
  | timedOut (id : CallId)
  /-- The store serves the write of a caller. -/
  | written (id : CallId)
  | resumed (id : CallId)
  /-- A caller is dropped. What it has asked of the store and not been served yet is given up. -/
  | dropped (id : CallId)
  /-- A key is to be invalidated, and is removed from memory. -/
  | invalidated (id : CallId) (key : Key)
  /-- The store removes a key that is invalidated. -/
  | deleted (id : CallId)
  | purged

/-- The system in which an event has happened to the cache. -/
def onCache (system : System σ ν) (event : Cache.Event ν) : Option (System σ ν) :=
  (system.cache.step system.now event).map fun cache => { system with cache }

/-- What an event does, if it can happen. The store serves a request at the instant of its event, and
never if the caller is dropped before; an operation on files that the pool of threads has taken over
would still be carried out then. -/
def step (system : System σ ν) : Event ν → Option (System σ ν)
  | .elapsed time => some { system with now := system.now.after time }
  | .called id key => system.onCache (.called id key)
  | .served id =>
      match system.cache.calls.find? id with
      | some ⟨key, .reading⟩ =>
          let (answer, store) := Backend.get system.store key
          { system with store }.onCache (.served id answer)
      | _ => none
  | .answered id => system.onCache (.answered id)
  | .erased id =>
      match system.cache.calls.find? id with
      | some ⟨key, .erasing⟩ =>
          { system with store := (Backend.delete system.store key).2 }.onCache (.erased id)
      | _ => none
  | .computed id result => system.onCache (.computed id result)
  | .timedOut id => system.onCache (.timedOut id)
  | .written id =>
      match system.cache.calls.find? id with
      | some ⟨_, .storing _ _ _ record⟩ =>
          let (answer, store) := Backend.put system.store record
          { system with store }.onCache (.written id answer)
      | _ => none
  | .resumed id => system.onCache (.resumed id)
  | .dropped id => system.onCache (.dropped id)
  | .invalidated id key =>
      match system.invalidations.find? id with
      | some _ => none
      | none =>
          let held := system.cache.tier1.contains key
          { system with
            invalidations := system.invalidations.insert id (.deleting key held) }.onCache
              (.forgotten key)
  | .deleted id =>
      match system.invalidations.find? id with
      | some (.deleting key held) =>
          let (answer, store) := Backend.delete system.store key
          some { system with
            store
            invalidations :=
              system.invalidations.insert id (.returned (Invalidation.result held answer)) }
      | _ => none
  | .purged => system.onCache .purged

/-- Invalidates a key without interruption. -/
def invalidate (system : System σ ν) (key : Key) : Except Failure Bool × System σ ν :=
  let held := system.cache.tier1.contains key
  let (answer, store) := Backend.delete system.store key
  (Invalidation.result held answer, { system with
    store
    cache := { system.cache with tier1 := (system.cache.tier1.remove key).2 } })

/-- Looks a key up in the durable tier only. -/
def lookup (system : System σ ν) (key : Key) : Except Failure (Durable.Lookup ν) × System σ ν :=
  let (answer, now, store) :=
    Durable.lookup system.cache.config.durable key system.now system.store
  (answer, { system with now, store })

end System

end GameLibrary
