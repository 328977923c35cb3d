import GameLibrary.Proofs.Cache.Shares

/-!
# Scenes

A scene is a system in surroundings that know keys and times only: how long a store takes, whether
it refuses to serve, how long a computation takes and what it comes to depend on the key and on when
it begins, and on nothing else. What happens in a scene is told by occurrences, each the turn of a
caller or of a request for one key, or the passing of time.

The view of a key is what can be seen of a scene from it. It tells which event it is time for
(`Surroundings.due?`), and that event is one for the key (`Scene.Sound.concerns`).
-/

namespace GameLibrary

open Function (update)

/-- What surrounds a system. Everything depends on the key and on the time at which it begins. -/
structure Surroundings (ν : Type) where
  /-- How long it takes until the store serves a read. -/
  readTime : Key → Instant → Duration
  /-- How long the answer to a read is under way. -/
  answerTime : Key → Instant → Duration
  /-- How long it takes until the store removes a record beyond the grace period. -/
  eraseTime : Key → Instant → Duration
  /-- How long it takes until the store serves a write. -/
  writeTime : Key → Instant → Duration
  /-- How long it takes until the store removes a key that is invalidated. -/
  deleteTime : Key → Instant → Duration
  /-- How long a computation takes and what it comes to. It may go on for ever. -/
  computation : Key → Instant → Option (Duration × Except Failure ν)
  refusesGet : Key → Instant → Bool
  refusesPut : Key → Instant → Bool
  refusesDelete : Key → Instant → Bool

/-- A turn of a caller or of a request for a key. -/
inductive Turn where
  /-- A caller asks for the key. -/
  | call
  /-- What the caller waited for is there, and it goes on. -/
  | proceed
  /-- The caller is dropped. -/
  | drop
  /-- The key is to be invalidated, and is removed from memory. -/
  | invalidate
  /-- The store removes the key. -/
  | delete
deriving DecidableEq, Repr

/-- Whether the turn is one of a request. -/
def Turn.isRequest : Turn → Bool
  | .invalidate | .delete => true
  | .call | .proceed | .drop => false

/-- What happens in a scene. -/
inductive Occurrence where
  | elapsed (time : Duration)
  /-- The expired entries are removed from memory. -/
  | purged
  | turn (key : Key) (id : CallId) (turn : Turn)

/-- Whether the occurrence is not about another key. -/
def Occurrence.isFor (key : Key) : Occurrence → Bool
  | .turn other _ _ => other = key
  | _ => true

/-- What can be seen of a scene from one key. -/
@[ext]
structure Scene.View (ν : Type) where
  share : Share ν
  /-- Since when each caller for the key stands where it does. -/
  since : CallId → Option Instant
  /-- The requests to invalidate the key, with the time when they got there. -/
  requests : CallId → Option (Invalidation × Instant)

namespace Surroundings

variable {ν : Type}

/-- How long the caller at a place has to wait, and for what. A caller that waits for a flight waits
for other callers, however long they take. -/
def course (around : Surroundings ν) (limit : Duration) (key : Key) (since : Instant)
    (id : CallId) : Cache.Place ν → Option (Duration × System.Event ν)
  | .reading => some (around.readTime key since, .served id)
  | .answered _ => some (around.answerTime key since, .answered id)
  | .erasing => some (around.eraseTime key since, .erased id)
  | .computing _ _ =>
      match around.computation key since with
      | some (time, result) =>
          if time ≤ limit then some (time, .computed id result) else some (limit, .timedOut id)
      | none => some (limit, .timedOut id)
  | .storing _ _ _ => some (around.writeTime key since, .written id)
  | .waiting _ _ | .returned _ => none

/-- The event that it is time for. -/
def due? (around : Surroundings ν) (key : Key) (view : Scene.View ν) (id : CallId) :
    Turn → Option (System.Event ν)
  | .call => some (.called id key)
  | .proceed =>
      match view.share.slice.calls id, view.since id with
      | some (.waiting _ _), _ => some (.resumed id)
      | some place, some since =>
          match around.course view.share.slice.config.resolveTimeout key since id place with
          | some (time, event) => if view.share.now = since.after time then some event else none
          | none => none
      | _, _ => none
  | .drop => (view.share.slice.calls id).map fun _ => .dropped id
  | .invalidate => some (.invalidated id key)
  | .delete =>
      match view.requests id with
      | some (.deleting _ _, since) =>
          if view.share.now = since.after (around.deleteTime key since) then some (.deleted id)
          else none
      | _ => none

end Surroundings

/-- A system in its surroundings. -/
structure Scene (σ ν : Type) where
  system : System (Gate σ) ν
  /-- Since when each caller stands where it does. -/
  since : CallId → Instant
  /-- What is to be invalidated by each request, and when it got there. -/
  asked : CallId → Option (Key × Instant)

namespace Scene

variable {σ ν : Type} [Backend σ] [Payload ν]

/-- A scene before any call. -/
def start (config : Cache.Config) (store : σ) (now : Instant) : Scene σ ν where
  system := ⟨.ofConfig config, { inner := store }, now, .empty⟩
  since _ := now
  asked _ := none

/-- Where a request to invalidate the key has got to, and when. -/
def request? (scene : Scene σ ν) (key : Key) (id : CallId) : Option (Invalidation × Instant) :=
  match scene.asked id with
  | some (other, time) =>
      if other = key then (scene.system.invalidations.find? id).map (·, time) else none
  | none => none

/-- What can be seen of the scene from a key. -/
def view (scene : Scene σ ν) (key : Key) : View ν where
  share := scene.system.share key
  since id := ((scene.system.cache.slice key).calls id).map fun _ => scene.since id
  requests := scene.request? key

/-- The system behind a gate that refuses what is refused for the key now. -/
def gated (around : Surroundings ν) (scene : Scene σ ν) (key : Key) : System (Gate σ) ν :=
  { scene.system with
    store := { scene.system.store with
      refusesGet := around.refusesGet key scene.system.now
      refusesPut := around.refusesPut key scene.system.now
      refusesDelete := around.refusesDelete key scene.system.now } }

/-- The scene after a turn that has left the system in some state. -/
def follow (scene : Scene σ ν) (key : Key) (id : CallId) (turn : Turn)
    (system : System (Gate σ) ν) : Scene σ ν :=
  if turn.isRequest then
    { scene with system, asked := update scene.asked id (some (key, system.now)) }
  else { scene with system, since := update scene.since id system.now }

/-- What an occurrence does, if it can happen. -/
def step (around : Surroundings ν) (scene : Scene σ ν) : Occurrence → Option (Scene σ ν)
  | .elapsed time =>
      (scene.system.step (.elapsed time)).map fun system => { scene with system }
  | .purged => (scene.system.step .purged).map fun system => { scene with system }
  | .turn key id turn =>
      (around.due? key (scene.view key) id turn).bind fun event =>
        ((scene.gated around key).step event).map (scene.follow key id turn)

/-- The scene after a sequence of occurrences, if each of them can happen when its turn comes. -/
def run (around : Surroundings ν) (scene : Scene σ ν) (occurrences : List Occurrence) :
    Option (Scene σ ν) :=
  occurrences.foldlM (step around) scene

/-- A value is brought into memory, and finds it full. -/
def Crowded (around : Surroundings ν) (scene : Scene σ ν) (occurrence : Occurrence) : Prop :=
  ∃ key id turn event own other value, occurrence = .turn key id turn ∧
    around.due? key (scene.view key) id turn = some event ∧
    (scene.gated around key).Mirrors event own ∧
    scene.system.cache.Inserts scene.system.now other own value ∧
    scene.system.cache.tier1.config.maxEntries ≤ scene.system.cache.tier1.size

variable {around : Surroundings ν} {scene next alone : Scene σ ν} {key other : Key} {id : CallId}
  {turn : Turn} {event : System.Event ν}

/-- What it is time for: the events that a turn can be. -/
inductive Due (view : View ν) (key : Key) (id : CallId) : Turn → System.Event ν → Prop where
  | call : Due view key id .call (.called id key)
  | proceed {event place} : event.caller = some id → view.share.slice.calls id = some place →
      Due view key id .proceed event
  | drop {place} : view.share.slice.calls id = some place → Due view key id .drop (.dropped id)
  | invalidate : Due view key id .invalidate (.invalidated id key)
  | delete {other held since} : view.requests id = some (.deleting other held, since) →
      Due view key id .delete (.deleted id)

omit [Payload ν] in
/-- A caller takes its own turns. -/
theorem caller_of_course {limit time : Duration} {since : Instant} {place : Cache.Place ν}
    (h : around.course limit key since id place = some (time, event)) : event.caller = some id := by
  unfold Surroundings.course at h
  cases place with
  | reading | answered | erasing | storing =>
      cases h
      rfl
  | waiting | returned => cases h
  | computing =>
      dsimp only at h
      split at h
      · split at h <;> cases h <;> rfl
      · cases h
        rfl

omit [Payload ν] in
theorem due_of_some {view : View ν} (h : around.due? key view id turn = some event) :
    Due view key id turn event := by
  unfold Surroundings.due? at h
  cases turn with
  | call =>
      cases h
      exact .call
  | proceed =>
      dsimp only at h
      split at h
      · rename_i hplace
        cases h
        exact .proceed rfl hplace
      · rename_i hplace _
        split at h
        · rename_i hcourse
          split at h
          · cases h
            exact .proceed (caller_of_course hcourse) hplace
          · cases h
        · cases h
      · cases h
  | drop =>
      obtain ⟨place, hplace, rfl⟩ := Option.map_eq_some_iff.1 h
      exact .drop hplace
  | invalidate =>
      cases h
      exact .invalidate
  | delete =>
      dsimp only at h
      split at h
      · rename_i hrequest
        split at h
        · cases h
          exact .delete hrequest
        · cases h
      · cases h

/-- What every occurrence keeps. -/
structure Sound [KeyedBackend σ] (scene : Scene σ ν) : Prop where
  system : scene.system.Sound
  asked : ∀ {id key held}, scene.system.invalidations.find? id = some (.deleting key held) →
    ∃ since, scene.asked id = some (key, since)

omit [Backend σ] [Payload ν] in
/-- A request has a key that it is known for. -/
theorem asked_of_request {found : Invalidation} {since : Instant}
    (h : scene.request? key id = some (found, since)) :
    scene.asked id = some (key, since) ∧ scene.system.invalidations.find? id = some found := by
  unfold request? at h
  split at h
  · rename_i hasked
    split at h
    · rename_i hkey
      obtain ⟨other, hother, hsome⟩ := Option.map_eq_some_iff.1 h
      cases hsome
      exact ⟨hkey ▸ hasked, hother⟩
    · cases h
  · cases h

omit [Payload ν] in
/-- An event that is the turn of a caller or of a request is about that. -/
theorem Due.request_eq {view : View ν} (h : Due view key id turn event) :
    event.request = if turn.isRequest then some id else none := by
  cases h with
  | proceed hcaller _ => cases event <;> first | rfl | cases hcaller
  | call | drop | invalidate | delete => rfl

omit [Payload ν] in
theorem Due.caller_eq {view : View ν} (h : Due view key id turn event) :
    event.caller = if turn.isRequest then none else some id := by
  cases h with
  | proceed hcaller _ => exact hcaller
  | call | drop | invalidate | delete => rfl

omit [Payload ν] in
theorem Due.request_ne {view : View ν} (h : Due view key id turn event) {request : CallId}
    (hother : ¬ (turn.isRequest = true ∧ request = id)) : event.request ≠ some request := by
  rw [h.request_eq]
  split
  · rename_i hrequest
    exact fun heq => hother ⟨hrequest, (Option.some.inj heq).symm⟩
  · nofun

omit [Payload ν] in
theorem Due.caller_ne {view : View ν} (h : Due view key id turn event) {caller : CallId}
    (hother : ¬ (turn.isRequest = false ∧ caller = id)) : event.caller ≠ some caller := by
  rw [h.caller_eq]
  split
  · nofun
  · rename_i hcaller
    exact fun heq => hother ⟨Bool.eq_false_iff.2 hcaller, (Option.some.inj heq).symm⟩

section Follow

variable {system : System (Gate σ) ν}

omit [Backend σ] [Payload ν] in
@[simp] theorem system_follow (scene : Scene σ ν) (key : Key) (id : CallId) (turn : Turn) :
    (scene.follow key id turn system).system = system := by
  unfold follow
  split <;> rfl

omit [Backend σ] [Payload ν] in
theorem since_follow (scene : Scene σ ν) (key : Key) (id caller : CallId) (turn : Turn) :
    (scene.follow key id turn system).since caller =
      if turn.isRequest = false ∧ caller = id then system.now else scene.since caller := by
  unfold follow
  cases turn.isRequest with
  | true => simp
  | false => simp [Function.update_apply]

omit [Backend σ] [Payload ν] in
theorem asked_follow (scene : Scene σ ν) (key : Key) (id request : CallId) (turn : Turn) :
    (scene.follow key id turn system).asked request =
      if turn.isRequest = true ∧ request = id then some (key, system.now)
      else scene.asked request := by
  unfold follow
  cases turn.isRequest with
  | true => simp [Function.update_apply]
  | false => simp

end Follow

variable [KeyedBackend σ]

omit [Payload ν] in
/-- The event that it is time for is one for the key. -/
theorem Sound.concerns (h : scene.Sound) (hdue : Due (scene.view key) key id turn event) :
    (scene.gated around key).Concerns key event := by
  cases hdue with
  | call => exact .called
  | proceed hcaller hplace =>
      obtain ⟨point, hcall, -⟩ := Cache.call_of_place hplace
      exact .caller hcaller hcall
  | drop hplace =>
      obtain ⟨point, hcall, -⟩ := Cache.call_of_place hplace
      exact .caller rfl hcall
  | invalidate => exact .invalidated
  | delete hrequest =>
      obtain ⟨hasked, hfound⟩ := asked_of_request hrequest
      obtain ⟨since, hasked'⟩ := h.asked hfound
      cases hasked.symm.trans hasked'
      exact .deleted hfound

omit [KeyedBackend σ] in
/-- An occurrence that is no turn does something to the system and nothing else. -/
theorem step_still {occurrence : Occurrence} (hstep : scene.step around occurrence = some next) :
    (∃ key id turn, occurrence = .turn key id turn) ∨
    ∃ event system, (event = .purged ∨ ∃ time, event = .elapsed time) ∧
      scene.system.step event = some system ∧ next = { scene with system } := by
  unfold step at hstep
  cases occurrence with
  | elapsed time =>
      obtain ⟨system, hsystem, rfl⟩ := Option.map_eq_some_iff.1 hstep
      exact .inr ⟨_, system, .inr ⟨time, rfl⟩, hsystem, rfl⟩
  | purged =>
      obtain ⟨system, hsystem, rfl⟩ := Option.map_eq_some_iff.1 hstep
      exact .inr ⟨_, system, .inl rfl, hsystem, rfl⟩
  | turn key id turn => exact .inl ⟨key, id, turn, rfl⟩

omit [KeyedBackend σ] in
/-- A turn does something to the system, and is noted. -/
theorem step_turn (hstep : scene.step around (.turn key id turn) = some next) :
    ∃ event system, around.due? key (scene.view key) id turn = some event ∧
      (scene.gated around key).step event = some system ∧
      next = scene.follow key id turn system := by
  obtain ⟨event, hdue, hmap⟩ := Option.bind_eq_some_iff.1 hstep
  obtain ⟨system, hsystem, rfl⟩ := Option.map_eq_some_iff.1 hmap
  exact ⟨event, system, hdue, hsystem, rfl⟩

omit [Payload ν] in
theorem sound_start {config : Cache.Config} {store : σ} (hstore : KeyedBackend.Sound store)
    (now : Instant) : (start config store now : Scene σ ν).Sound where
  system := ⟨Cache.sound_of_config config, hstore⟩
  asked hfound := by cases hfound

omit [KeyedBackend σ] in
/-- A request that waits for the store after a turn of its own has just been made for the key. -/
theorem key_of_deleting {system : System (Gate σ) ν} {asked : Key} {held : Bool}
    (hdue : Due (scene.view key) key id turn event) (hrequest : turn.isRequest = true)
    (hsystem : (scene.gated around key).step event = some system)
    (hfound : system.invalidations.find? id = some (.deleting asked held)) : asked = key := by
  have hself : ∀ {table : Table CallId Invalidation} {given},
      (table.insert id given).find? id = some given :=
    fun {_ _} => (Table.find?_insert ..).trans (if_pos rfl)
  cases hdue with
  | call | proceed | drop => cases hrequest
  | invalidate =>
      cases System.step_transition hsystem with
      | own hown => cases hown
      | invalidated =>
          cases hself.symm.trans hfound
          rfl
  | delete =>
      cases System.step_transition hsystem with
      | own hown => cases hown
      | deleted => cases hself.symm.trans hfound

/-- Every occurrence keeps the scene sound. -/
theorem step_sound (h : scene.Sound) {occurrence : Occurrence}
    (hstep : scene.step around occurrence = some next) : next.Sound := by
  rcases step_still hstep with ⟨key, id, turn, rfl⟩ | ⟨event, system, hevent, hsystem, rfl⟩
  · obtain ⟨event, system, hdue, hsystem, rfl⟩ := step_turn hstep
    have hdue := due_of_some hdue
    have hgated : (scene.gated around key).Sound := ⟨h.system.cache, h.system.store⟩
    constructor
    · rw [system_follow]
      exact System.step_sound hgated hsystem
    · intro request asked held hfound
      rw [system_follow] at hfound
      rw [asked_follow]
      by_cases hown : turn.isRequest = true ∧ request = id
      · obtain ⟨hrequest, rfl⟩ := hown
        rw [if_pos ⟨hrequest, rfl⟩, key_of_deleting hdue hrequest hsystem hfound]
        exact ⟨_, rfl⟩
      · rw [System.find?_of_request_ne hsystem (hdue.request_ne hown)] at hfound
        rw [if_neg hown]
        exact h.asked hfound
  · have hrequest : event.request = none := by
      rcases hevent with rfl | ⟨time, rfl⟩ <;> rfl
    refine ⟨System.step_sound h.system hsystem, fun {id key held} hfound => ?_⟩
    rw [System.find?_of_request_ne hsystem (by rw [hrequest]; nofun)] at hfound
    exact h.asked hfound

end Scene

end GameLibrary
