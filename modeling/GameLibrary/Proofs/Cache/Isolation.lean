import GameLibrary.Proofs.Cache.Scenes

/-!
# Keys do not interfere

`Scene.run_isolated` compares two runs: one with any number of keys, in which memory is never full
when a value is brought into it, and the same run without the turns for all keys but one. At every
moment there is the same for that key in both: what its calls have come to and when, who computes,
what has become of its requests, its entry in memory and its record in the store.

A turn for one key is not seen from another (`Scene.view_elsewhere`), and a turn for the key does
the same in both runs (`Scene.view_congr`). Memory has no more in it in the run with one key.
-/

namespace GameLibrary.Scene

variable {σ ν : Type} [Backend σ] [KeyedBackend σ] [Payload ν] {around : Surroundings ν}
  {scene next alone : Scene σ ν} {key other : Key} {id : CallId} {turn : Turn}
  {event : System.Event ν}

omit [KeyedBackend σ] in
/-- Where memory is not full when a value comes into it, there is room. -/
theorem has_room (hroom : ¬ scene.Crowded around (.turn key id turn))
    (hdue : around.due? key (scene.view key) id turn = some event) :
    (scene.gated around key).HasRoom event := by
  intro own other value hmirrors hinserts
  refine Nat.lt_of_not_le fun hfull => hroom ?_
  exact ⟨key, id, turn, event, own, other, value, rfl, hdue, hmirrors, hinserts, hfull⟩

section Elsewhere

variable (hne : other ≠ key) (hdue : Due (scene.view other) other id turn event)
  {system : System (Gate σ) ν} (hsystem : (scene.gated around other).step event = some system)
include hne hdue hsystem

omit [KeyedBackend σ] in
/-- Who takes a turn for another key has no place in the view. -/
theorem no_place_elsewhere (hcaller : turn.isRequest = false) :
    (scene.system.cache.slice key).calls id = none := by
  cases hdue with
  | call =>
      cases System.step_transition hsystem with
      | own hown hcache =>
          cases hown
          cases hcache with
          | called hfree => exact Cache.place_of_free hfree
  | proceed _ hplace | drop hplace =>
      obtain ⟨point, hcall, -⟩ := Cache.call_of_place hplace
      exact Cache.place_of_other hne hcall
  | invalidate | delete => cases hcaller

omit [KeyedBackend σ] in
/-- A request that takes a turn for another key is not in the view. -/
theorem no_request_elsewhere (hrequest : turn.isRequest = true) : scene.request? key id = none := by
  unfold request?
  cases hdue with
  | call | proceed | drop => cases hrequest
  | invalidate =>
      cases System.step_transition hsystem with
      | own hown => cases hown
      | invalidated hfree =>
          have hfree : scene.system.invalidations.find? id = none := hfree
          rw [hfree]
          split
          · split <;> rfl
          · rfl
  | delete hmade =>
      rw [(asked_of_request hmade).1]
      exact if_neg hne

end Elsewhere

/-- A turn for one key is not seen from another. -/
theorem view_elsewhere (h : scene.Sound) (hne : other ≠ key)
    (hroom : ¬ scene.Crowded around (.turn other id turn))
    (hstep : scene.step around (.turn other id turn) = some next) :
    next.view key = scene.view key := by
  obtain ⟨event, system, hsome, hsystem, rfl⟩ := step_turn hstep
  have hdue := due_of_some hsome
  have hgated : (scene.gated around other).Sound := ⟨h.system.cache, h.system.store⟩
  have hshare : system.share key = (scene.gated around other).share key :=
    System.share_elsewhere hgated hne (h.concerns hdue) (has_room hroom hsome) hsystem
  have hslice : system.cache.slice key = scene.system.cache.slice key :=
    congrArg Share.slice hshare
  refine View.ext ?_ (funext fun caller => ?_) (funext fun request => ?_)
  · unfold view
    rw [system_follow]
    exact hshare
  · unfold view
    dsimp only
    rw [system_follow, hslice]
    refine Option.map_congr fun place hplace => ?_
    rw [since_follow, if_neg]
    rintro ⟨hcaller, rfl⟩
    cases (no_place_elsewhere hne hdue hsystem hcaller).symm.trans hplace
  · show (scene.follow other id turn system).request? key request = scene.request? key request
    by_cases hown : turn.isRequest = true ∧ request = id
    · obtain ⟨hrequest, rfl⟩ := hown
      rw [no_request_elsewhere hne hdue hsystem hrequest]
      unfold request?
      rw [asked_follow, if_pos ⟨hrequest, rfl⟩]
      exact if_neg hne
    · have hother : event.request ≠ some request := hdue.request_ne hown
      unfold request?
      rw [asked_follow, if_neg hown, system_follow, System.find?_of_request_ne hsystem hother]
      rfl

/-- The scene has to do with no other key. -/
structure Lone (scene : Scene σ ν) (key : Key) : Prop where
  cache : scene.system.cache.Lone key
  asked : ∀ {id found}, scene.system.invalidations.find? id = some found →
    ∃ since, scene.asked id = some (key, since)

section Congruence

variable (hview : scene.view key = alone.view key)
include hview

omit [Payload ν] [KeyedBackend σ] in
/-- A caller in the view stands where it does since the same time. -/
theorem since_congr {place : Cache.Place ν}
    (hplace : (scene.system.cache.slice key).calls id = some place) :
    scene.since id = alone.since id := by
  have hslice : scene.system.cache.slice key = alone.system.cache.slice key :=
    congrArg (fun view => view.share.slice) hview
  have hsince : ((scene.system.cache.slice key).calls id).map (fun _ => scene.since id) =
      ((alone.system.cache.slice key).calls id).map fun _ => alone.since id :=
    congrArg (fun view => view.since id) hview
  rw [← hslice, hplace] at hsince
  exact Option.some.inj hsince

omit [Payload ν] [KeyedBackend σ] in
/-- A request in the view has got to the same place. -/
theorem request_congr (request : CallId) :
    scene.request? key request = alone.request? key request :=
  congrArg (fun view => view.requests request) hview

omit [KeyedBackend σ] in
/-- The request that takes a turn has got to the same place. -/
theorem find?_congr (hlone : alone.Lone key) (hdue : Due (scene.view key) key id turn event)
    {system : System (Gate σ) ν} (hsystem : (scene.gated around key).step event = some system)
    (hrequest : turn.isRequest = true) :
    scene.system.invalidations.find? id = alone.system.invalidations.find? id := by
  have hcongr := request_congr hview id
  cases hdue with
  | call | proceed | drop => cases hrequest
  | invalidate =>
      cases System.step_transition hsystem with
      | own hown => cases hown
      | invalidated hfree =>
          have hfree : scene.system.invalidations.find? id = none := hfree
          cases hfound : alone.system.invalidations.find? id with
          | none => exact hfree
          | some found =>
              obtain ⟨since, hasked⟩ := hlone.asked hfound
              have hmade : alone.request? key id = some (found, since) := by
                unfold request?
                rw [hasked]
                dsimp only
                rw [if_pos rfl, hfound]
                rfl
              have hfree' := (asked_of_request (hcongr.trans hmade)).2
              cases hfree.symm.trans hfree'
  | delete hmade =>
      have hmade : scene.request? key id = some _ := hmade
      rw [(asked_of_request hmade).2, (asked_of_request (hcongr.symm.trans hmade)).2]

end Congruence

omit [KeyedBackend σ] in
/-- Who is in the view after an event of others was in it before. -/
theorem place_before {start system : System (Gate σ) ν} {place : Cache.Place ν}
    (hsystem : start.step event = some system) (hne : event.caller ≠ some id)
    (hplace : (system.cache.slice key).calls id = some place) :
    ∃ place, (start.cache.slice key).calls id = some place := by
  obtain ⟨point, hcall, -⟩ := Cache.call_of_place hplace
  rw [(System.step_transition hsystem).find?_of_caller_ne hne] at hcall
  exact ⟨_, Cache.place_of_call hcall⟩

section Turns

variable {system system' : System (Gate σ) ν}

/-- The event of a turn for a key does the same to the systems of two scenes in which the key has
the same view. -/
theorem system_congr (h : scene.Sound) (h' : alone.Sound) (hlone : alone.Lone key)
    (hview : scene.view key = alone.view key) (hdue : Due (scene.view key) key id turn event)
    (hroom : (scene.gated around key).HasRoom event)
    (hsystem : (scene.gated around key).step event = some system) :
    ∃ system', (alone.gated around key).step event = some system' ∧
      system'.share key = system.share key ∧ system'.cache.Lone key ∧
      ∀ {request}, event.request = some request →
        system'.invalidations.find? request = system.invalidations.find? request := by
  have hshare : scene.system.share key = alone.system.share key := congrArg View.share hview
  have hnow : scene.system.now = alone.system.now := congrArg Share.now hshare
  have hgated : (scene.gated around key).Sound := ⟨h.system.cache, h.system.store⟩
  have hgated' : (alone.gated around key).Sound := ⟨h'.system.cache, h'.system.store⟩
  have hrefuses : (scene.gated around key).SameRefusals (alone.gated around key) := by
    unfold gated
    rw [hnow]
    exact ⟨rfl, rfl, rfl⟩
  refine System.share_congr hgated hgated' hlone.cache hshare hrefuses ?_ (h.concerns hdue) hroom
    hsystem
  intro request hown
  rw [hdue.request_eq] at hown
  split at hown
  · rename_i hturn
    cases hown
    exact find?_congr hview hlone hdue hsystem hturn
  · cases hown

omit [KeyedBackend σ] in
/-- The view of the key is the same after the turn. -/
theorem view_follow (hview : scene.view key = alone.view key)
    (hdue : Due (scene.view key) key id turn event)
    (hsystem : (scene.gated around key).step event = some system)
    (hsystem' : (alone.gated around key).step event = some system')
    (hshare : system'.share key = system.share key)
    (hrequest : ∀ {request}, event.request = some request →
      system'.invalidations.find? request = system.invalidations.find? request) :
    (scene.follow key id turn system).view key = (alone.follow key id turn system').view key := by
  have hslice : system'.cache.slice key = system.cache.slice key := congrArg Share.slice hshare
  have hnow : system'.now = system.now := congrArg Share.now hshare
  refine View.ext ?_ (funext fun caller => ?_) (funext fun request => ?_)
  · unfold view
    rw [system_follow, system_follow]
    exact hshare.symm
  · unfold view
    dsimp only
    rw [system_follow, system_follow, hslice]
    refine Option.map_congr fun place hplace => ?_
    rw [since_follow, since_follow, hnow]
    by_cases hown : turn.isRequest = false ∧ caller = id
    · rw [if_pos hown, if_pos hown]
    · -- Everybody else stands where they stood before.
      rw [if_neg hown, if_neg hown]
      obtain ⟨place, hbefore⟩ := place_before hsystem (hdue.caller_ne hown) hplace
      exact since_congr hview hbefore
  · show (scene.follow key id turn system).request? key request =
      (alone.follow key id turn system').request? key request
    by_cases hown : turn.isRequest = true ∧ request = id
    · have hsome : event.request = some request := by
        rw [hdue.request_eq, if_pos hown.1, hown.2]
      unfold request?
      rw [asked_follow, asked_follow, if_pos hown, if_pos hown, system_follow, system_follow, hnow,
        hrequest hsome]
    · have hother := hdue.request_ne hown
      have hcongr := request_congr hview request
      unfold request? at hcongr ⊢
      rw [asked_follow, asked_follow, if_neg hown, if_neg hown, system_follow, system_follow,
        System.find?_of_request_ne hsystem hother, System.find?_of_request_ne hsystem' hother]
      exact hcongr

omit [KeyedBackend σ] in
/-- After a turn for the key the scene has to do with no other key. -/
theorem Lone.follow {view : View ν} (hlone : scene.Lone key) (hdue : Due view key id turn event)
    (hsystem : (scene.gated around key).step event = some system)
    (hcache : system.cache.Lone key) : (scene.follow key id turn system).Lone key := by
  constructor
  · rw [system_follow]
    exact hcache
  · intro request found hfound
    rw [system_follow] at hfound
    rw [asked_follow]
    by_cases hown : turn.isRequest = true ∧ request = id
    · rw [if_pos hown]
      exact ⟨_, rfl⟩
    · rw [System.find?_of_request_ne hsystem (hdue.request_ne hown)] at hfound
      rw [if_neg hown]
      exact hlone.asked hfound

/-- A turn for a key does the same to two scenes in which the key has the same view. -/
theorem view_congr (h : scene.Sound) (h' : alone.Sound) (hlone : alone.Lone key)
    (hview : scene.view key = alone.view key)
    (hroom : ¬ scene.Crowded around (.turn key id turn))
    (hstep : scene.step around (.turn key id turn) = some next) :
    ∃ next', alone.step around (.turn key id turn) = some next' ∧
      next.view key = next'.view key ∧ next'.Lone key := by
  obtain ⟨event, system, hsome, hsystem, rfl⟩ := step_turn hstep
  have hdue := due_of_some hsome
  obtain ⟨system', hsystem', hshare, hcache, hrequest⟩ :=
    system_congr h h' hlone hview hdue (has_room hroom hsome) hsystem
  refine ⟨alone.follow key id turn system', ?_,
    view_follow hview hdue hsystem hsystem' hshare hrequest, hlone.follow hdue hsystem' hcache⟩
  unfold step
  dsimp only
  rw [← hview, hsome, Option.bind_some, hsystem']
  rfl

end Turns

omit [KeyedBackend σ] in
/-- The passing of time is seen from every key, and is the same for all. -/
theorem view_elapsed {time : Duration} (hstep : scene.step around (.elapsed time) = some next)
    (key : Key) : next.view key = { scene.view key with
      share := { scene.system.share key with now := scene.system.now.after time } } := by
  cases Option.some.inj hstep
  rfl

omit [KeyedBackend σ] in
/-- A sweep takes the entry of the key if it has expired. -/
theorem view_purged (hstep : scene.step around .purged = some next) (key : Key) :
    next.view key = { scene.view key with
      share := { scene.system.share key with
        slice := (scene.system.cache.slice key).look scene.system.now } } := by
  cases Option.some.inj hstep
  refine View.ext (Share.ext rfl ?_ rfl) rfl rfl
  exact Cache.Slice.ext rfl rfl (Tier1.find?_purge ..) rfl rfl

omit [KeyedBackend σ] in
/-- What is no turn does the same to two scenes in which the key has the same view. -/
theorem still_congr (hlone : alone.Lone key) (hview : scene.view key = alone.view key)
    {occurrence : Occurrence} (hstill : ∀ key id turn, occurrence ≠ .turn key id turn)
    (hstep : scene.step around occurrence = some next) :
    ∃ next', alone.step around occurrence = some next' ∧ next.view key = next'.view key ∧
      next'.Lone key := by
  have hshare : scene.system.share key = alone.system.share key := congrArg View.share hview
  have hnow : scene.system.now = alone.system.now := congrArg Share.now hshare
  have hslice : scene.system.cache.slice key = alone.system.cache.slice key :=
    congrArg Share.slice hshare
  cases occurrence with
  | elapsed time =>
      obtain ⟨next', hstep'⟩ : ∃ next', alone.step around (.elapsed time) = some next' := ⟨_, rfl⟩
      refine ⟨next', hstep', ?_, ?_⟩
      · rw [view_elapsed hstep, view_elapsed hstep', hview, hshare, hnow]
      · cases Option.some.inj hstep'
        exact ⟨hlone.cache, hlone.asked⟩
  | purged =>
      obtain ⟨next', hstep'⟩ : ∃ next', alone.step around .purged = some next' := ⟨_, rfl⟩
      refine ⟨next', hstep', ?_, ?_⟩
      · rw [view_purged hstep, view_purged hstep', hview, hshare, hslice, hnow]
      · cases Option.some.inj hstep'
        exact ⟨Cache.Transition.purged.lone hlone.cache (.inr rfl), hlone.asked⟩
  | turn key id turn => exact absurd rfl (hstill key id turn)

/-- A step of the scene is seen from the key as a step of the scene that has to do with that key
only, or not at all. -/
theorem step_alike (h : scene.Sound) (h' : alone.Sound) (hlone : alone.Lone key)
    (hview : scene.view key = alone.view key) {occurrence : Occurrence}
    (hroom : ¬ scene.Crowded around occurrence)
    (hstep : scene.step around occurrence = some next) :
    ∃ next', alone.run around ([occurrence].filter (·.isFor key)) = some next' ∧
      next.view key = next'.view key ∧ next'.Lone key := by
  by_cases hfor : occurrence.isFor key = true
  · have hstep' : ∃ next', alone.step around occurrence = some next' ∧
        next.view key = next'.view key ∧ next'.Lone key := by
      cases occurrence with
      | turn other id turn =>
          obtain rfl : other = key := of_decide_eq_true hfor
          exact view_congr h h' hlone hview hroom hstep
      | elapsed => exact still_congr hlone hview nofun hstep
      | purged => exact still_congr hlone hview nofun hstep
    obtain ⟨next', hstep', hview', hlone'⟩ := hstep'
    rw [List.filter_cons_of_pos hfor]
    exact ⟨next', fold_cons.2 ⟨next', hstep', rfl⟩, hview', hlone'⟩
  · rw [List.filter_cons_of_neg hfor]
    refine ⟨alone, rfl, ?_, hlone⟩
    cases occurrence with
    | turn other id turn =>
        have hne : other ≠ key := of_decide_eq_false (Bool.eq_false_iff.2 hfor)
        exact (view_elsewhere h hne hroom hstep).trans hview
    | elapsed | purged => exact absurd rfl hfor

omit [Backend σ] [Payload ν] [KeyedBackend σ] in
/-- Before any call there is no key. -/
theorem lone_start (config : Cache.Config) (store : σ) (now : Instant) (key : Key) :
    (start config store now : Scene σ ν).Lone key where
  cache := by
    constructor
    · intro id call hcall
      cases hcall
    · intro other entry hfound
      cases (Cache.not_found_of_config config other).symm.trans hfound
  asked hfound := by cases hfound

/-- Every run keeps the scene sound. -/
theorem run_sound (h : scene.Sound) {occurrences : List Occurrence}
    (hrun : scene.run around occurrences = some next) : next.Sound :=
  fold_invariant Sound (fun hsound hstep => step_sound hsound hstep) h hrun

/-- A run in which memory is never full when a value comes into it looks the same from a key as the
run without the turns for all other keys. -/
theorem run_alike {config : Cache.Config} {store : σ} (hstore : KeyedBackend.Sound store)
    {now : Instant} {occurrences : List Occurrence}
    (hrun : (start config store now : Scene σ ν).run around occurrences = some scene)
    (hroom : ¬ Happens (step around) (start config store now : Scene σ ν) occurrences
      (Crowded around)) (key : Key) :
    ∃ alone : Scene σ ν, (start config store now).run around (occurrences.filter (·.isFor key)) =
      some alone ∧ scene.view key = alone.view key ∧ alone.Lone key := by
  have hstart : (start config store now : Scene σ ν).Sound := sound_start hstore now
  refine fold_history (fun past scene => ∃ alone : Scene σ ν,
    (start config store now).run around (past.filter (·.isFor key)) = some alone ∧
      scene.view key = alone.view key ∧ alone.Lone key)
    ⟨_, rfl, rfl, lone_start config store now key⟩ ?_ hrun
  rintro past occurrence scene next ⟨rest, rfl⟩ hpast ⟨alone, halone, hview, hlone⟩ hstep
  have hspace : ¬ scene.Crowded around occurrence := by
    intro hcrowded
    refine hroom ⟨past, occurrence, rest, scene, ?_, hpast, hcrowded⟩
    rw [List.append_assoc, List.singleton_append]
  obtain ⟨next', hnext, hview', hlone'⟩ := step_alike (run_sound hstart hpast)
    (run_sound hstart halone) hlone hview hspace hstep
  rw [List.filter_append]
  exact ⟨next', fold_append.2 ⟨alone, halone, hnext⟩, hview', hlone'⟩

/-- What there is for the key in a scene there is in another one. -/
structure Alike (key : Key) (scene other : Scene σ ν) : Prop where
  now : scene.system.now = other.system.now
  /-- The same calls for the key are over, with the same outcomes. -/
  returned : ∀ {id outcome},
    scene.system.cache.calls.find? id = some ⟨key, .returned outcome⟩ ↔
      other.system.cache.calls.find? id = some ⟨key, .returned outcome⟩
  /-- The same callers compute for the key. -/
  computing : ∀ {id fallback started},
    (∃ flight, scene.system.cache.calls.find? id =
      some ⟨key, .computing flight fallback started⟩) ↔
    ∃ flight, other.system.cache.calls.find? id = some ⟨key, .computing flight fallback started⟩
  /-- Every caller for the key stands where it does since the same time. -/
  since : ∀ {id point}, scene.system.cache.calls.find? id = some ⟨key, point⟩ →
    scene.since id = other.since id
  /-- Every request to invalidate the key has got to the same place at the same time. -/
  request : ∀ id, scene.request? key id = other.request? key id
  entry : scene.system.cache.tier1.storage.find? key = other.system.cache.tier1.storage.find? key
  record : (Backend.get scene.system.store.inner key).1 =
    (Backend.get other.system.store.inner key).1

omit [Payload ν] [KeyedBackend σ] in
/-- Callers for the key that return or compute in one of two scenes with the same view do so in the
other. -/
theorem point_congr (hview : scene.view key = alone.view key) :
    (∀ {outcome}, scene.system.cache.calls.find? id = some ⟨key, .returned outcome⟩ →
      alone.system.cache.calls.find? id = some ⟨key, .returned outcome⟩) ∧
    ∀ {flight fallback started},
      scene.system.cache.calls.find? id = some ⟨key, .computing flight fallback started⟩ →
      ∃ flight, alone.system.cache.calls.find? id =
        some ⟨key, .computing flight fallback started⟩ := by
  have hslice : scene.system.cache.slice key = alone.system.cache.slice key :=
    congrArg (fun view => view.share.slice) hview
  constructor
  · intro outcome hcall
    obtain ⟨point, hcall', hplace⟩ := Cache.call_congr hslice hcall
    cases point <;> cases hplace
    exact hcall'
  · intro flight fallback started hcall
    obtain ⟨point, hcall', hplace⟩ := Cache.call_congr hslice hcall
    cases point <;> cases hplace
    exact ⟨_, hcall'⟩

omit [Payload ν] [KeyedBackend σ] in
/-- Two scenes in which the key has the same view are alike. -/
theorem alike_of_view (hview : scene.view key = alone.view key) : Alike key scene alone where
  now := congrArg (fun view => view.share.now) hview
  returned := ⟨(point_congr hview).1, (point_congr hview.symm).1⟩
  computing := ⟨fun ⟨_, hcall⟩ => (point_congr hview).2 hcall,
    fun ⟨_, hcall⟩ => (point_congr hview.symm).2 hcall⟩
  since hcall := since_congr hview (Cache.place_of_call hcall)
  request := request_congr hview
  entry := congrArg (fun view => view.share.slice.entry) hview
  record := congrArg (fun view => view.share.read) hview

/-- Keys do not interfere. Where memory is never full when a value comes into it, a run may be rid
of the turns for all keys but one: it is a run all the same, and at every moment there is the same
for that key as in the whole run. -/
theorem run_isolated {config : Cache.Config} {store : σ} (hstore : KeyedBackend.Sound store)
    {now : Instant} {occurrences : List Occurrence} {finish : Scene σ ν}
    (hrun : (start config store now).run around occurrences = some finish)
    (hroom : ¬ Happens (step around) (start config store now : Scene σ ν) occurrences
      (Crowded around)) (key : Key) {early late : List Occurrence}
    (hmoment : occurrences = early ++ late) :
    ∃ scene alone : Scene σ ν, (start config store now).run around early = some scene ∧
      (start config store now).run around (early.filter (·.isFor key)) = some alone ∧
      Alike key scene alone ∧ alone.Lone key := by
  subst hmoment
  obtain ⟨scene, hearly, -⟩ := fold_append.1 hrun
  have hspace : ¬ Happens (step around) (start config store now : Scene σ ν) early
      (Crowded around) :=
    fun hcrowded => hroom ((happens_append hearly).2 (.inl hcrowded))
  obtain ⟨alone, halone, hview, hlone⟩ := run_alike hstore hearly hspace key
  exact ⟨scene, alone, hearly, halone, alike_of_view hview, hlone⟩

/-- Answers for one key are quicker than for all others, and the store refuses to read another
one. -/
def unevenly : Surroundings UInt32 where
  readTime _ _ := .zero
  answerTime key _ := if key = .zeros then ⟨1⟩ else ⟨2⟩
  eraseTime _ _ := .zero
  writeTime _ _ := ⟨1⟩
  deleteTime _ _ := ⟨1⟩
  computation key _ := some (⟨5⟩, .ok (if key = .zeros then 7 else 8))
  refusesGet key _ := key = .ones
  refusesPut _ _ := false
  refusesDelete _ _ := false

/-- Two callers for one key share a computation, while a caller and a request for another key take
their turns between those of the two. -/
def interleaved : List Occurrence := [
  .turn .zeros 0 .call, .turn .ones 1 .call, .turn .zeros 0 .proceed, .turn .ones 1 .proceed,
  .elapsed ⟨1⟩, .turn .zeros 0 .proceed, .turn .ones 2 .invalidate, .turn .zeros 3 .call,
  .turn .zeros 3 .proceed, .elapsed ⟨1⟩, .turn .ones 1 .proceed, .turn .zeros 3 .proceed,
  .turn .ones 2 .delete, .elapsed ⟨4⟩, .turn .zeros 0 .proceed, .elapsed ⟨1⟩,
  .turn .zeros 0 .proceed, .turn .ones 1 .proceed, .turn .zeros 3 .proceed]

/-- Memory is never full. -/
theorem not_crowded_interleaved : ¬ Happens (step unevenly)
    (start {} {} ⟨0⟩ : Scene MemoryStore UInt32) interleaved (Crowded unevenly) := by
  have hsize : ∀ n ≤ interleaved.length,
      ((start {} {} ⟨0⟩ : Scene MemoryStore UInt32).run unevenly (interleaved.take n)).all
        (fun scene => scene.system.cache.tier1.size < scene.system.cache.tier1.config.maxEntries) =
          true := by decide
  rintro ⟨past, occurrence, rest, scene, hoccurrences, hpast, hcrowded⟩
  obtain ⟨key, id, turn, event, own, other, value, -, -, -, -, hfull⟩ := hcrowded
  have hle : past.length ≤ interleaved.length := by
    rw [hoccurrences, List.length_append]
    exact Nat.le_add_right ..
  have hshort := hsize past.length hle
  rw [hoccurrences, List.take_left, show run _ _ _ = some scene from hpast] at hshort
  exact Nat.not_lt.2 hfull (of_decide_eq_true hshort)

/-- Without the other key, too, the second caller gets the value of the first one. -/
theorem run_isolated_interleaved : ∃ finish alone : Scene MemoryStore UInt32,
    (start {} {} ⟨0⟩).run unevenly interleaved = some finish ∧
    (¬ Happens (step unevenly) (start {} {} ⟨0⟩ : Scene MemoryStore UInt32) interleaved
      (Crowded unevenly)) ∧
    (start {} {} ⟨0⟩).run unevenly (interleaved.filter (·.isFor .zeros)) = some alone ∧
    Alike .zeros finish alone ∧
    alone.system.cache.calls.find? 3 = some ⟨.zeros, .returned (.ok ⟨7, .coalesced⟩)⟩ := by
  have hruns : ∃ finish : Scene MemoryStore UInt32,
      (start {} {} ⟨0⟩).run unevenly interleaved = some finish ∧
      finish.system.cache.calls.find? 3 = some ⟨.zeros, .returned (.ok ⟨7, .coalesced⟩)⟩ :=
    ⟨_, rfl, rfl⟩
  obtain ⟨finish, hrun, hreturned⟩ := hruns
  have hstore : KeyedBackend.Sound ({} : MemoryStore) := trivial
  obtain ⟨scene, alone, hscene, halone, halike, -⟩ := run_isolated hstore hrun
    not_crowded_interleaved .zeros (List.append_nil interleaved).symm
  cases hrun.symm.trans hscene
  exact ⟨finish, alone, hrun, not_crowded_interleaved, halone, halike, halike.returned.1 hreturned⟩

end GameLibrary.Scene
