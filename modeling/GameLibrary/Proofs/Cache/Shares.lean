import GameLibrary.Proofs.Cache.Bystanders
import GameLibrary.Proofs.Cache.Window
import GameLibrary.Proofs.Store.Keyed

/-!
# A system as seen from one key

The share that a key has of a system is the time, the slice of the cache, and what the store has for
the key. An event for another key leaves the share as it is (`System.share_elsewhere`). An event for
the key does the same to two systems in which the key has the same share (`System.share_congr`),
one of which may have nothing but that key.

The store is behind a gate, as a store may refuse to serve; what it refuses is the same for both.
-/

namespace GameLibrary

namespace Cache

open Traffic (Orderly)

variable {ν : Type} [Payload ν] {cache cache' next : Cache ν} {now : Instant} {key other : Key}
  {event : Event ν} {value : ν}

/-- A transition is a step. -/
theorem Transition.step_eq (h : cache.Transition now event next) :
    cache.step now event = some next := by
  unfold step
  cases h with
  | called hcall | served hcall | answered hcall | erased hcall | computed hcall | written hcall
  | unwritten hcall =>
      dsimp only
      rw [hcall]
  | timedOut hcall hlimit =>
      dsimp only
      rw [hcall]
      exact if_pos hlimit
  | settled hcall hout =>
      dsimp only
      rw [hcall]
      dsimp only
      rw [hout]
  | promoted hcall hout hleader =>
      dsimp only
      rw [hcall]
      dsimp only
      rw [hout]
      exact if_pos hleader
  | @left id call seat hcall hseat =>
      dsimp only
      rw [hcall]
      obtain ⟨key, point⟩ := call
      cases point with
      | waiting | computing | storing =>
          cases hseat
          rfl
      | reading | answered | erasing | returned => cases hseat
  | @dropped id call hcall hseat =>
      dsimp only
      rw [hcall]
      obtain ⟨key, point⟩ := call
      cases point with
      | waiting | computing | storing => cases hseat
      | reading | answered | erasing | returned => rfl
  | forgotten | purged => rfl

/-- What every step of a cache keeps, so that it does not mix up keys. -/
structure Sound (cache : Cache ν) : Prop where
  orderly : Orderly cache.traffic
  config_eq : cache.tier1.config = cache.config.tier1
  placed : cache.tier1.storage.Placed
  /-- Whoever writes a record writes that of its key. -/
  recorded : ∀ {id key flight fallback value record},
    cache.calls.find? id = some ⟨key, .storing flight fallback value record⟩ → record.key = key

omit [Payload ν] in
theorem sound_of_config (config : Config) : (ofConfig config : Cache ν).Sound where
  orderly := Traffic.orderly_empty
  config_eq := rfl
  placed := Shards.placed_empty 6 Key.hash
  recorded hcall := by cases hcall

theorem Transition.sound (h : cache.Transition now event next) (hsound : cache.Sound) :
    next.Sound where
  orderly := h.orderly hsound.orderly
  config_eq := by
    rw [h.tier1_config_eq, h.config_eq]
    exact hsound.config_eq
  placed := h.placed hsound.placed
  recorded hcall := by
    rcases h.arrival hcall with hbefore | harrival
    · exact hsound.recorded hbefore
    · obtain ⟨-, -, rfl⟩ := harrival.storing_from
      rfl

omit [Payload ν] in
/-- Where a caller for the key stands in one of two caches with the same slice, it stands in the
other. -/
theorem call_congr {id : CallId} {point : Point ν} (hslice : cache.slice key = cache'.slice key)
    (hcall : cache.calls.find? id = some ⟨key, point⟩) :
    ∃ point', cache'.calls.find? id = some ⟨key, point'⟩ ∧
      point'.place cache'.outcomes = point.place cache.outcomes := by
  have hplace := place_of_call hcall
  rw [hslice] at hplace
  exact call_of_place hplace

/-- Two caches with the same slice bring the same into memory for the key. -/
theorem inserts_congr (hslice : cache.slice key = cache'.slice key)
    (h : cache.Inserts now key event value) : cache'.Inserts now key event value := by
  have hconfig : cache.config = cache'.config := congrArg Slice.config hslice
  cases h with
  | promoted hcall hfresh =>
      obtain ⟨point, hcall', hplace⟩ := call_congr hslice hcall
      cases point <;> cases hplace
      rw [hconfig] at hfresh
      exact .promoted hcall' hfresh
  | computed hcall hkeeps =>
      obtain ⟨point, hcall', hplace⟩ := call_congr hslice hcall
      cases point <;> cases hplace
      rw [hconfig] at hkeeps
      exact .computed hcall' hkeeps

/-- An event for the key, and a sweep, do the same to two caches with the same slice. -/
theorem step_congr (h : Orderly cache.traffic) (h' : Orderly cache'.traffic)
    (hslice : cache.slice key = cache'.slice key)
    (hroom : ∀ value, cache.Inserts now key event value →
      cache.tier1.size < cache.tier1.config.maxEntries)
    (hroom' : ∀ value, cache'.Inserts now key event value →
      cache'.tier1.size < cache'.tier1.config.maxEntries)
    (hevent : cache.Concerns key event ∨ event = .purged)
    (hevent' : cache'.Concerns key event ∨ event = .purged)
    (hstep : cache.Transition now event next) :
    ∃ next', cache'.step now event = some next' ∧ next'.slice key = next.slice key := by
  have hown := slice_step h hroom hevent
  rw [hstep.step_eq, hslice, ← slice_step h' hroom' hevent'] at hown
  exact Option.map_eq_some_iff.1 hown.symm

/-- The cache has to do with no other key. -/
structure Lone (cache : Cache ν) (key : Key) : Prop where
  calls : ∀ {id call}, cache.calls.find? id = some call → call.key = key
  memory : ∀ {other entry}, cache.tier1.storage.find? other = some entry → other = key

/-- Events for one key, and sweeps, leave the cache with that key. -/
theorem Transition.lone (h : cache.Transition now event next) (hlone : cache.Lone key)
    (hevent : cache.Concerns key event ∨ event = .purged) : next.Lone key where
  calls {id call} hcall := by
    rcases h.arrival hcall with hbefore | harrival
    · exact hlone.calls hbefore
    · rcases harrival.source.2 with rfl | ⟨before, hbefore, -⟩
      · rcases hevent with hconcerns | hpurged
        · cases hconcerns with
          | called => rfl
          | caller hcaller hbefore =>
              cases hcaller
              cases h with
              | called hfree => cases hfree.symm.trans hbefore
        · cases hpurged
      · exact (hlone.calls hbefore :)
  memory {other entry} hfound := by
    rcases h.found_from hfound with hbefore | ⟨hinserts, -, -⟩
    · exact hlone.memory hbefore
    · cases hinserts with
      | promoted hcall => exact hlone.calls hcall
      | computed hcall => exact hlone.calls hcall

omit [Payload ν] in
/-- What is for the key in one of two caches with the same slice is for it in the other, if that has
to do with no other key. -/
theorem Lone.concerns (h : cache'.Lone key) (hslice : cache.slice key = cache'.slice key)
    (hevent : cache.Concerns key event) : cache'.Concerns key event := by
  cases hevent with
  | @called id hfree =>
      refine .called ?_
      have hplace : (cache.slice key).calls id = none := place_of_free hfree
      cases hcall : cache'.calls.find? id with
      | none => rfl
      | some call =>
          obtain ⟨k, point⟩ := call
          obtain rfl := h.calls hcall
          rw [hslice, place_of_call hcall] at hplace
          cases hplace
  | caller hcaller hcall =>
      obtain ⟨point, hcall', -⟩ := call_congr hslice hcall
      exact .caller hcaller hcall'
  | forgotten => exact .forgotten

omit [Payload ν] in
/-- A cache with one key has no more in memory than one with the same entry for it. -/
theorem Lone.size_le (h : cache'.Lone key) (hplaced : cache'.tier1.storage.Placed)
    (hslice : cache.slice key = cache'.slice key) : cache'.tier1.size ≤ cache.tier1.size := by
  refine hplaced.size_le fun {other entry} hfound => ?_
  obtain rfl := h.memory hfound
  exact ⟨entry, (congrArg Slice.entry hslice).trans hfound⟩

end Cache

namespace System

variable {σ ν : Type} [Backend σ] [Payload ν]

/-- The event is one for the key. -/
inductive Concerns (system : System σ ν) (key : Key) : Event ν → Prop where
  | called {id} : Concerns system key (.called id key)
  | caller {event id point} : event.caller = some id →
      system.cache.calls.find? id = some ⟨key, point⟩ → Concerns system key event
  | invalidated {id} : Concerns system key (.invalidated id key)
  | deleted {id held} : system.invalidations.find? id = some (.deleting key held) →
      Concerns system key (.deleted id)

/-- The request that an event is about. -/
def Event.request : Event ν → Option CallId
  | .invalidated id _ | .deleted id => some id
  | _ => none

/-- If the event brings a value into memory, there is room for it. -/
def HasRoom (system : System σ ν) (event : Event ν) : Prop :=
  ∀ {own key value}, system.Mirrors event own → system.cache.Inserts system.now key own value →
    system.cache.tier1.size < system.cache.tier1.config.maxEntries

variable {system system' next : System σ ν} {event : Event ν} {own : Cache.Event ν}
  {key other : Key}

omit [Payload ν] in
/-- The cache takes the same caller further. -/
theorem Mirrors.caller_eq (h : system.Mirrors event own) : own.caller = event.caller := by
  cases h with
  | own hown => cases event <;> cases hown <;> rfl
  | served | erased | written | invalidated => rfl

/-- What is for the key in the system is for the key in the cache. -/
theorem Concerns.mirrored (h : system.Concerns key event) (hmirrors : system.Mirrors event own)
    {cache : Cache ν} (hcache : system.cache.Transition system.now own cache) :
    system.cache.Concerns key own := by
  cases h with
  | called =>
      cases hmirrors with
      | own hown =>
          cases hown
          cases hcache with
          | called hfree => exact .called hfree
  | caller hcaller hcall => exact .caller (hmirrors.caller_eq.trans hcaller) hcall
  | invalidated =>
      cases hmirrors with
      | own hown => cases hown
      | invalidated => exact .forgotten
  | deleted =>
      cases hmirrors with
      | own hown => cases hown

/-- An event leaves all requests but its own where they are. -/
theorem find?_of_request_ne {id : CallId} (hstep : system.step event = some next)
    (hne : event.request ≠ some id) :
    next.invalidations.find? id = system.invalidations.find? id := by
  have hother : ∀ {request}, event.request = some request → id ≠ request := by
    rintro request hrequest rfl
    exact hne hrequest
  cases step_transition hstep with
  | elapsed | own | served | erased | written => rfl
  | invalidated | deleted => exact (Table.find?_insert ..).trans (if_neg (hother rfl))

/-- A transition is a step. -/
theorem Transition.step_eq (h : system.Transition event next) : system.step event = some next := by
  have hon : ∀ {store : σ} {own cache}, system.cache.Transition system.now own cache →
      ({ system with store } : System σ ν).onCache own = some { system with cache, store } :=
    fun hcache => congrArg (Option.map _) hcache.step_eq
  cases h with
  | elapsed => rfl
  | @own event own cache hown hcache =>
      have hstep : system.step event = system.onCache own := by
        cases event <;> cases hown <;> rfl
      exact hstep.trans (hon hcache)
  | served hcall hcache | erased hcall hcache | written hcall hcache =>
      unfold step
      dsimp only
      rw [hcall]
      exact hon hcache
  | invalidated hfree =>
      unfold step
      dsimp only
      rw [hfree]
      rfl
  | deleted hdeleting =>
      unfold step
      dsimp only
      rw [hdeleting]

end System

/-- What a key has of a system. -/
@[ext]
structure Share (ν : Type) where
  now : Instant
  slice : Cache.Slice ν
  /-- What the store has for the key. -/
  read : ReadAnswer

namespace System

variable {σ ν : Type} [Backend σ]

/-- What the key has of a system with a gate before its store. -/
def share (system : System (Gate σ) ν) (key : Key) : Share ν where
  now := system.now
  slice := system.cache.slice key
  read := (Backend.get system.store.inner key).1

/-- What every step keeps, so that it does not mix up keys. -/
structure Sound [KeyedBackend σ] (system : System (Gate σ) ν) : Prop where
  cache : system.cache.Sound
  store : KeyedBackend.Sound system.store.inner

variable [KeyedBackend σ] [Payload ν] {system system' next : System (Gate σ) ν} {event : Event ν}
  {key other : Key}

theorem step_sound (h : system.Sound) (hstep : system.step event = some next) : next.Sound := by
  have htransition := step_transition hstep
  constructor
  · rcases htransition.cache_transition with hcache | ⟨own, hcache⟩
    · rw [hcache]
      exact h.cache
    · exact hcache.sound h.cache
  · cases htransition with
    | elapsed | own | invalidated => exact h.store
    | served => exact Gate.sound_get h.store _
    | erased | deleted => exact Gate.sound_delete h.store _
    | written => exact Gate.sound_put h.store _

/-- An event for one key leaves the share of another as it is. -/
theorem share_elsewhere (h : system.Sound) (hne : other ≠ key)
    (hconcerns : system.Concerns other event) (hroom : system.HasRoom event)
    (hstep : system.step event = some next) : next.share key = system.share key := by
  have hslice : ∀ {own cache}, system.Mirrors event own →
      system.cache.Transition system.now own cache → cache.slice key = system.cache.slice key :=
    fun hmirrors hcache => Cache.slice_step_elsewhere h.cache.orderly hne
      (hconcerns.mirrored hmirrors hcache) (fun _ => hroom hmirrors) hcache
  cases step_transition hstep with
  | elapsed =>
      cases hconcerns with
      | caller hcaller => cases hcaller
  | own hmirrors hcache => exact Share.ext rfl (hslice (.own hmirrors) hcache) rfl
  | served hcall hcache =>
      exact Share.ext rfl (hslice (.served hcall) hcache) (Gate.read_get h.store key _)
  | erased hcall hcache =>
      cases hconcerns with
      | caller hcaller hcall' =>
          cases hcaller
          cases hcall.symm.trans hcall'
          exact Share.ext rfl (hslice .erased hcache) (Gate.read_delete h.store hne.symm)
  | written hcall hcache =>
      cases hconcerns with
      | caller hcaller hcall' =>
          cases hcaller
          cases hcall.symm.trans hcall'
          have hrecord := h.cache.recorded hcall
          exact Share.ext rfl (hslice .written hcache)
            (Gate.read_put h.store fun hkey => hne (hrecord.symm.trans hkey.symm))
  | invalidated => exact Share.ext rfl (hslice .invalidated .forgotten) rfl
  | deleted hdeleting =>
      cases hconcerns with
      | caller hcaller => cases hcaller
      | deleted hdeleting' =>
          cases hdeleting.symm.trans hdeleting'
          exact Share.ext rfl rfl (Gate.read_delete h.store hne.symm)

/-- The gates refuse the same. -/
structure SameRefusals (system system' : System (Gate σ) ν) : Prop where
  get : system.store.refusesGet = system'.store.refusesGet
  put : system.store.refusesPut = system'.store.refusesPut
  delete : system.store.refusesDelete = system'.store.refusesDelete

/-- What the cache does with an event for the key, it does in both systems. -/
theorem cache_congr (h : system.Sound) (h' : system'.Sound) (hlone : system'.cache.Lone key)
    (hshare : system.share key = system'.share key) {own : Cache.Event ν}
    (hmirrors : system.Mirrors event own) (hroom : system.HasRoom event)
    (hevent : system.cache.Concerns key own ∨ own = .purged) {cache : Cache ν}
    (hcache : system.cache.Transition system.now own cache) :
    ∃ cache', system'.cache.Transition system'.now own cache' ∧
      cache'.slice key = cache.slice key ∧ cache'.Lone key := by
  have hnow : system.now = system'.now := congrArg Share.now hshare
  have hslice : system.cache.slice key = system'.cache.slice key := congrArg Share.slice hshare
  have hconfig : system'.cache.tier1.config = system.cache.tier1.config := by
    rw [h'.cache.config_eq, h.cache.config_eq]
    exact congrArg (fun s => s.config.tier1) hslice.symm
  have hevent' : system'.cache.Concerns key own ∨ own = .purged :=
    hevent.imp_left (hlone.concerns hslice)
  have hroom' : ∀ value, system'.cache.Inserts system.now key own value →
      system'.cache.tier1.size < system'.cache.tier1.config.maxEntries := by
    intro value hinserts
    rw [hconfig]
    exact Nat.lt_of_le_of_lt (hlone.size_le h'.cache.placed hslice)
      (hroom hmirrors (Cache.inserts_congr hslice.symm hinserts))
  obtain ⟨cache', hstep', hslice'⟩ := Cache.step_congr h.cache.orderly h'.cache.orderly hslice
    (fun _ => hroom hmirrors) hroom' hevent hevent' hcache
  have hcache' := Cache.step_transition hstep'
  exact ⟨cache', hnow ▸ hcache', hslice', hcache'.lone hlone hevent'⟩

/-- An event for a key does the same to two systems in which the key has the same share. -/
theorem share_congr (h : system.Sound) (h' : system'.Sound) (hlone : system'.cache.Lone key)
    (hshare : system.share key = system'.share key) (hrefuses : system.SameRefusals system')
    (hrequest : ∀ {id}, event.request = some id →
      system.invalidations.find? id = system'.invalidations.find? id)
    (hconcerns : system.Concerns key event) (hroom : system.HasRoom event)
    (hstep : system.step event = some next) :
    ∃ next', system'.step event = some next' ∧ next'.share key = next.share key ∧
      next'.cache.Lone key ∧ ∀ {id}, event.request = some id →
        next'.invalidations.find? id = next.invalidations.find? id := by
  have hnow : system'.now = system.now := congrArg Share.now hshare.symm
  have hslice : system.cache.slice key = system'.cache.slice key := congrArg Share.slice hshare
  have hread : (Backend.get system.store.inner key).1 = (Backend.get system'.store.inner key).1 :=
    congrArg Share.read hshare
  have hcache : ∀ {own cache}, system.Mirrors event own →
      system.cache.Transition system.now own cache →
      ∃ cache', system'.cache.Transition system'.now own cache' ∧
        cache'.slice key = cache.slice key ∧ cache'.Lone key :=
    fun hmirrors hcache => cache_congr h h' hlone hshare hmirrors hroom
      (.inl (hconcerns.mirrored hmirrors hcache)) hcache
  -- A caller that the store serves is one for the key.
  have hown : ∀ {id k point}, event = .served id ∨ event = .erased id ∨ event = .written id →
      system.cache.calls.find? id = some ⟨k, point⟩ → k = key := by
    rintro id k point (rfl | rfl | rfl) hcall <;> cases hconcerns with
    | caller hcaller hcall' =>
        cases hcaller
        cases hcall.symm.trans hcall'
        rfl
  cases step_transition hstep with
  | elapsed =>
      cases hconcerns with
      | caller hcaller => cases hcaller
  | own hmirrors hown =>
      obtain ⟨cache', hcache', hslice', hlone'⟩ := hcache (.own hmirrors) hown
      exact ⟨_, (Transition.own hmirrors hcache').step_eq, Share.ext hnow hslice' hread.symm,
        hlone', fun hid => (hrequest hid).symm⟩
  | served hcall hserved =>
      cases hown (.inl rfl) hcall
      obtain ⟨cache', hcache', hslice', hlone'⟩ := hcache (.served hcall) hserved
      obtain ⟨point, hcall', hplace⟩ := Cache.call_congr hslice hcall
      cases point <;> cases hplace
      have hread' := (Gate.read_get h'.store key key).trans (hread.symm.trans
        (Gate.read_get h.store key key).symm)
      rw [Gate.get_congr hrefuses.get hread] at hcache'
      exact ⟨_, (Transition.served hcall' hcache').step_eq, Share.ext hnow hslice' hread', hlone',
        fun hid => (hrequest hid).symm⟩
  | erased hcall herased =>
      cases hown (.inr (.inl rfl)) hcall
      obtain ⟨cache', hcache', hslice', hlone'⟩ := hcache .erased herased
      obtain ⟨point, hcall', hplace⟩ := Cache.call_congr hslice hcall
      cases point <;> cases hplace
      obtain ⟨-, hread'⟩ := Gate.delete_congr h.store h'.store hrefuses.delete hread
      exact ⟨_, (Transition.erased hcall' hcache').step_eq, Share.ext hnow hslice' hread'.symm,
        hlone', fun hid => (hrequest hid).symm⟩
  | written hcall hwritten =>
      cases hown (.inr (.inr rfl)) hcall
      obtain ⟨cache', hcache', hslice', hlone'⟩ := hcache .written hwritten
      obtain ⟨point, hcall', hplace⟩ := Cache.call_congr hslice hcall
      cases point <;> cases hplace
      obtain rfl := h.cache.recorded hcall
      obtain ⟨hanswer, hread'⟩ := Gate.put_congr h.store h'.store hrefuses.put hread
      rw [hanswer] at hcache'
      exact ⟨_, (Transition.written hcall' hcache').step_eq, Share.ext hnow hslice' hread'.symm,
        hlone', fun hid => (hrequest hid).symm⟩
  | invalidated hfree =>
      cases hconcerns with
      | caller hcaller => cases hcaller
      | invalidated =>
          obtain ⟨cache', hcache', hslice', hlone'⟩ := hcache .invalidated .forgotten
          cases hcache'
          have hfree' := (hrequest rfl).symm.trans hfree
          have hheld : system.cache.tier1.contains key = system'.cache.tier1.contains key :=
            congrArg (fun s => s.entry.isSome) hslice
          refine ⟨_, (Transition.invalidated hfree').step_eq, Share.ext hnow hslice' hread.symm,
            hlone', ?_⟩
          rintro _ ⟨⟩
          rw [hheld, Table.find?_insert, Table.find?_insert, if_pos rfl, if_pos rfl]
  | deleted hdeleting =>
      cases hconcerns with
      | caller hcaller => cases hcaller
      | deleted hdeleting' =>
          cases hdeleting.symm.trans hdeleting'
          have hdeleting'' := (hrequest rfl).symm.trans hdeleting
          obtain ⟨hanswer, hread'⟩ := Gate.delete_congr h.store h'.store hrefuses.delete hread
          refine ⟨_, (Transition.deleted hdeleting'').step_eq,
            Share.ext hnow hslice.symm hread'.symm, hlone, ?_⟩
          rintro _ ⟨⟩
          rw [hanswer, Table.find?_insert, Table.find?_insert, if_pos rfl, if_pos rfl]

end System

end GameLibrary
