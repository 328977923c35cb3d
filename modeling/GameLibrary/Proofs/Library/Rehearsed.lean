import GameLibrary.Library.Service
import GameLibrary.Proofs.Fetch.Errands
import GameLibrary.Proofs.Library.Queries
import GameLibrary.Proofs.Library.Views
import GameLibrary.Proofs.Time.Agenda

/-!
# A query of the service is a run of the library

The service answers one query at a time, and rehearses it in virtual time: first the call, and the
fetch of the call as soon as the call computes. Each appointment that is kept is a step of `Library`,
as are the errands of the fetch and the time that passes between them. So what the service shows, and
the cache and the store that it is left with, come from a run of the library, and what holds in every
run of the library holds of it (`LibraryService.query_runs`).
-/

namespace GameLibrary

namespace Fetcher.Stage

variable {ω : Type} {stage next : Stage ω} {fetcher : Fetcher}

/-- At the same time a rehearsal goes on with a fetcher. -/
structure GoesOn (stage next : Stage ω) (fetcher : Fetcher) : Prop where
  now_eq : next.now = stage.now
  fetcher_eq : next.fetcher = fetcher
  ordered : Appointment.Ordered stage.now next.agenda

/-- Tasks that are given permits are to go on at once. -/
theorem goes_on_proceed (h : Appointment.Ordered stage.now stage.agenda) (event : Event) :
    GoesOn stage (stage.proceed event)
      ((stage.fetcher.step stage.now event).getD stage.fetcher) := by
  unfold proceed
  split
  · rename_i hnone
    exact ⟨rfl, by rw [hnone]; rfl, h⟩
  · rename_i next hnext
    refine ⟨rfl, by rw [hnext]; rfl, ?_⟩
    exact List.foldlRecOn (motive := Appointment.Ordered stage.now) _ _ h
      fun _ hordered _ _ => hordered.enter (Nat.le_refl _)

/-- What comes of a call is arranged for later. -/
theorem GoesOn.follow (h : GoesOn stage next fetcher) (service : Service ω) (task : TaskId) :
    GoesOn stage (next.follow service task) fetcher := by
  unfold Stage.follow
  split
  · exact ⟨h.now_eq, h.fetcher_eq, h.now_eq ▸ (h.now_eq ▸ h.ordered).arrange ..⟩
  · exact h

/-- An errand lets its event happen, if it can. -/
theorem goes_on_perform (h : Appointment.Ordered stage.now stage.agenda) (service : Service ω)
    (errand : Errand) : GoesOn stage (stage.perform service errand)
      ((stage.fetcher.step stage.now errand.toEvent).getD stage.fetcher) := by
  have hproceed := goes_on_proceed h errand.toEvent
  cases errand with
  | begin task | resume task => exact hproceed.follow service task
  | reply task reply =>
      cases reply with
      | result => exact hproceed.follow service task
      | crash => exact hproceed
  | timeOut | expire | drop => exact hproceed

/-- What a fetch comes to is what its rehearsal comes to, which begins in order. -/
theorem play_run (service : Service ω) (config : Config) (ids : List String)
    (patience : Option Duration) (now : Instant) (world : ω) :
    ∃ (first : Stage ω) (fuel : Nat), first.fetcher = (ofConfig config).openFetch now 0 ids ∧
      first.now = now ∧ Appointment.Ordered first.now first.agenda ∧
      (play service config ids patience now world).result =
        (first.run service fuel).fetcher.result? 0 ∧
      (play service config ids patience now world).finish = (first.run service fuel).now := by
  refine ⟨⟨_, _, _, _, _⟩, _, rfl, rfl, ?_, rfl, rfl⟩
  refine Appointment.Ordered.arrange ⟨?_, ?_⟩ _ _ _
  · exact List.pairwise_map.2 (List.pairwise_of_forall fun _ _ => Nat.le_refl _)
  · intro appointment hmem
    obtain ⟨_, -, rfl⟩ := List.mem_map.1 hmem
    exact Nat.le_refl _

end Fetcher.Stage

namespace Library

variable {σ : Type} [Backend σ] {library start middle finish : Library σ}

section Leads

/-- A run leads from one library to the other. -/
def Leads (start finish : Library σ) : Prop :=
  ∃ events, start.run events = some finish

theorem Leads.refl (library : Library σ) : Leads library library :=
  ⟨[], rfl⟩

theorem Leads.trans (h : Leads start middle) (h' : Leads middle finish) : Leads start finish := by
  obtain ⟨first, hfirst⟩ := h
  obtain ⟨rest, hrest⟩ := h'
  exact ⟨first ++ rest, fold_append.2 ⟨middle, hfirst, hrest⟩⟩

theorem Leads.of_step (event : Event) (hstep : start.step event = some finish) :
    Leads start finish :=
  ⟨[event], fold_cons.2 ⟨finish, hstep, rfl⟩⟩

/-- The library at another time. -/
def setNow (library : Library σ) (now : Instant) : Library σ :=
  { library with system := { library.system with now } }

/-- Time may pass. -/
theorem leads_set_now {time : Instant} (htime : library.system.now ≤ time) :
    Leads library (library.setNow time) := by
  have hafter : library.system.now.after (time.since library.system.now) = time :=
    congrArg Instant.mk (Nat.add_sub_cancel' htime)
  refine .of_step (.cached (.elapsed (time.since library.system.now))) ?_
  show some (library.setNow (library.system.now.after (time.since library.system.now))) = _
  rw [hafter]

/-- The library with another fetcher. -/
def setFetcher (library : Library σ) (fetcher : Fetcher) : Library σ :=
  { library with fetcher }

/-- An errand of a fetch may be run in the library. -/
theorem leads_errand (errand : Fetcher.Errand) : Leads library (library.setFetcher
    ((library.fetcher.step library.system.now errand.toEvent).getD library.fetcher)) := by
  cases hnext : library.fetcher.step library.system.now errand.toEvent with
  | none => exact .refl library
  | some next =>
      refine .of_step (.fetching errand.toEvent) ?_
      have hstep : library.step (.fetching errand.toEvent) =
          (library.fetcher.step library.system.now errand.toEvent).map library.setFetcher := by
        cases errand with
        | reply task reply => cases reply <;> rfl
        | _ => rfl
      rw [hstep, hnext]
      rfl

/-- A fetch that is rehearsed may go on in the library just so. -/
theorem leads_fetch {ω : Type} (library : Library σ) (service : Fetcher.Service ω) (fuel : Nat)
    {stage : Fetcher.Stage ω} (hordered : Appointment.Ordered stage.now stage.agenda)
    (hnow : library.system.now = stage.now) (hfetcher : library.fetcher = stage.fetcher) :
    stage.now ≤ (stage.run service fuel).now ∧
      Leads library ((library.setFetcher (stage.run service fuel).fetcher).setNow
        (stage.run service fuel).now) := by
  have hstays : ∀ {library : Library σ} {stage : Fetcher.Stage ω},
      library.system.now = stage.now → library.fetcher = stage.fetcher →
      Leads library ((library.setFetcher stage.fetcher).setNow stage.now) := by
    intro library stage hnow hfetcher
    rw [← hnow, ← hfetcher]
    exact .refl library
  induction fuel generalizing library stage with
  | zero => exact ⟨Nat.le_refl _, hstays hnow hfetcher⟩
  | succ fuel ih =>
      unfold Fetcher.Stage.run
      split
      · exact ⟨Nat.le_refl _, hstays hnow hfetcher⟩
      · exact ⟨Nat.le_refl _, hstays hnow hfetcher⟩
      · split
        · exact ⟨Nat.le_refl _, hstays hnow hfetcher⟩
        · rename_i time errand last agenda hagenda
          rw [hagenda] at hordered
          have htime : stage.now ≤ time := hordered.ahead _ List.mem_cons_self
          set later : Fetcher.Stage ω := { stage with agenda, now := time }
          have hgoes : later.GoesOn (later.perform service errand)
              ((stage.fetcher.step time errand.toEvent).getD stage.fetcher) :=
            Fetcher.Stage.goes_on_perform hordered.tail service errand
          have hlater : Leads library
              ((library.setNow time).setFetcher (later.perform service errand).fetcher) := by
            refine (leads_set_now (hnow ▸ htime)).trans ?_
            rw [hgoes.fetcher_eq]
            show Leads _ ((library.setNow time).setFetcher
              ((stage.fetcher.step time errand.toEvent).getD stage.fetcher))
            rw [← hfetcher]
            exact leads_errand errand
          have hnow' : ((library.setNow time).setFetcher
              (later.perform service errand).fetcher).system.now =
                (later.perform service errand).now := hgoes.now_eq.symm
          obtain ⟨hafter, hleads⟩ := ih _ (hgoes.now_eq.symm ▸ hgoes.ordered) hnow' rfl
          rw [hgoes.now_eq] at hafter
          exact ⟨Nat.le_trans htime hafter, hlater.trans hleads⟩

end Leads

section Rehearsal

open Rehearsal (Action Errand Stage)

variable {ω : Type} {config : Fetcher.Config} {view : View} {stage : Stage σ Report ω}
  {system : System σ Report} {event : System.Event Report} {call : Cache.Call Report}

/-- The library has not begun any fetch. -/
structure Unasked (config : Fetcher.Config) (library : Library σ) : Prop where
  fetcher_eq : library.fetcher = .ofConfig config
  none_begun : library.fetches.find? 0 = none
  next_eq : library.nextFetch = 0

omit [Backend σ] in
theorem Unasked.set_system (h : Unasked config library) (system : System σ Report) :
    Unasked config { library with system } :=
  ⟨h.fetcher_eq, h.none_begun, h.next_eq⟩

/-- What is on the agenda of the only call can happen to the library: no fetch has begun before the
call computes, and by the time that it takes a result its fetch can come to this result. -/
inductive Arranged (config : Fetcher.Config) (library : Library σ) :
    List (Appointment (Errand Report)) → Prop where
  | nothing : Arranged config library []
  | answer {time last} : library.system.now ≤ time → Unasked config library →
      Arranged config library [⟨time, ⟨0, .answer⟩, last⟩]
  | erase {time last} : library.system.now ≤ time → Unasked config library →
      Arranged config library [⟨time, ⟨0, .erase⟩, last⟩]
  | finish {time last result fetch fetcher} : library.fetches.find? 0 = some fetch →
      fetcher.result? fetch = some result →
      Leads library ((library.setFetcher fetcher).setNow time) →
      Arranged config library [⟨time, ⟨0, .finish result⟩, last⟩]
  | timeOut {time last} : library.system.now ≤ time →
      Arranged config library [⟨time, ⟨0, .timeOut⟩, last⟩]
  | write {time last} : library.system.now ≤ time →
      Arranged config library [⟨time, ⟨0, .write⟩, last⟩]

/-- A library that keeps pace with the rehearsal of the only call, which is for a view. -/
structure Alongside (config : Fetcher.Config) (view : View) (stage : Stage σ Report ω)
    (library : Library σ) : Prop where
  system_eq : library.system = stage.system
  shows : library.views.find? 0 = some view
  sole : ∀ {id call}, stage.system.cache.calls.find? id = some call → id = 0
  arranged : Arranged config library stage.agenda
  /-- A call that waits for another one has begun no fetch, and has no appointment. -/
  resumable : stage.canResume 0 = true → stage.agenda = [] ∧ Unasked config library

omit [Backend σ] in
/-- Only a call that waits can be resumed. -/
theorem can_resume_eq_false (hcall : stage.system.cache.calls.find? 0 = some call)
    (hnot : call.point.stage ≠ .waiting) : stage.canResume 0 = false := by
  obtain ⟨key, point⟩ := call
  unfold Stage.canResume
  rw [hcall]
  cases point with
  | waiting => exact absurd rfl hnot
  | _ => rfl

omit [Backend σ] in
/-- No fetch is due for a call that does not compute. -/
theorem launch_of_not_computing {id : CallId}
    (hnot : ∀ {call}, library.system.cache.calls.find? id = some call →
      call.point.stage ≠ .computing) : library.launch id = library := by
  have hdue : library.due? id = none := by
    unfold due?
    split
    · rename_i hcall _
      exact absurd rfl (hnot hcall)
    · rfl
  unfold launch
  rw [hdue]

/-- Nothing is to be arranged for a library where the only call neither waits nor has an
appointment. -/
theorem Alongside.of_idle (hsystem : library.system = stage.system)
    (hshows : library.views.find? 0 = some view)
    (hsole : ∀ {id call}, stage.system.cache.calls.find? id = some call → id = 0)
    (hagenda : stage.agenda = []) (hidle : stage.canResume 0 = false) :
    Alongside config view stage library := by
  refine ⟨hsystem, hshows, hsole, hagenda ▸ .nothing, fun hresumes => ?_⟩
  rw [hidle] at hresumes
  cases hresumes

/-- The first appointment of all is kept alone. -/
theorem Alongside.arrange (h : Alongside config view stage library) (hagenda : stage.agenda = [])
    (hidle : stage.canResume 0 = false) (delay : Duration) {action : Action Report}
    (harranged : ∀ {last},
      Arranged config library [⟨library.system.now.after delay, ⟨0, action⟩, last⟩]) :
    Alongside config view (stage.arrange delay 0 action) library := by
  refine ⟨h.system_eq, h.shows, h.sole, ?_, fun hresumes => ?_⟩
  · unfold Stage.arrange Appointment.arrange
    dsimp only
    rw [hagenda, ← h.system_eq]
    split <;> exact harranged
  · rw [show (stage.arrange delay 0 action).canResume 0 = stage.canResume 0 from rfl, hidle]
      at hresumes
    cases hresumes

/-- With an event of its own the only call stays the only one. -/
theorem Alongside.sole_of_step (h : Alongside config view stage library)
    (hevent : event.caller = some 0) (hstep : stage.system.step event = some system) :
    ∀ {id call}, system.cache.calls.find? id = some call → id = 0 := by
  intro id call hcall
  by_contra hne
  rw [(System.step_transition hstep).find?_of_caller_ne
    (fun heq => hne (Option.some.inj (hevent.symm.trans heq)).symm)] at hcall
  exact hne (h.sole hcall)

/-- What a call has waited for comes to it, unless it waited for another call. -/
def Delivers (event : System.Event Report) : Prop :=
  event = .served 0 ∨ (∃ result, event = .computed 0 result) ∨ event = .timedOut 0 ∨
    event = .written 0

/-- The only call has an answer, writes its value, or is over. -/
def Attended (system : System σ Report) : Prop :=
  ∀ {call}, system.cache.calls.find? 0 = some call →
    call.point.stage ∈ [.answered, .storing, .returned]

theorem Delivers.caller (h : Delivers event) : event.caller = some 0 := by
  rcases h with rfl | ⟨_, rfl⟩ | rfl | rfl <;> rfl

theorem Delivers.attended (h : Delivers event) (hstep : library.system.step event = some system) :
    Attended system := by
  rintro ⟨key, point⟩ hcall
  obtain ⟨own, hmirrors, harrival⟩ :=
    (System.step_transition hstep).arrival_of_caller h.caller hcall
  suffices hstages : own.stages ⊆ [.answered, .storing, .returned] from
    hstages harrival.stage_mem
  rcases h with rfl | ⟨_, rfl⟩ | rfl | rfl
  · cases hmirrors with
    | own hown => cases hown
    | served => simp [Cache.Event.stages]
  · cases hmirrors with
    | own hown =>
        cases hown
        simp [Cache.Event.stages]
  · cases hmirrors with
    | own hown =>
        cases hown
        simp [Cache.Event.stages]
  · cases hmirrors with
    | own hown => cases hown
    | written => simp [Cache.Event.stages]

omit [Backend σ] in
theorem Attended.launch_eq (library : Library σ) (h : Attended library.system) :
    library.launch 0 = library :=
  launch_of_not_computing fun hcall hcomputes => by
    have hmem := h hcall
    rw [hcomputes] at hmem
    simp at hmem

omit [Backend σ] in
theorem Attended.can_resume (stage : Stage σ Report ω) (h : Attended stage.system) :
    stage.canResume 0 = false := by
  cases hcall : stage.system.cache.calls.find? 0 with
  | none =>
      unfold Stage.canResume
      rw [hcall]
  | some call =>
      refine can_resume_eq_false hcall fun hwaits => ?_
      have hmem := h hcall
      rw [hwaits] at hmem
      simp at hmem

/-- The library comes to what the call has waited for. -/
theorem leads_delivered (hevent : event = .served 0 ∨ event = .timedOut 0 ∨ event = .written 0)
    (hstep : library.system.step event = some system) (hattended : Attended system) :
    Leads library { library with system } := by
  refine .of_step (.cached event) ?_
  have hcached : library.step (.cached event) = (library.system.step event).map fun system =>
      ({ library with system } : Library σ).launch 0 := by
    rcases hevent with rfl | rfl | rfl <;> rfl
  rw [hcached, hstep, Option.map_some]
  exact congrArg some (hattended.launch_eq { library with system })

/-- The library takes the result of the fetch of the call. -/
theorem leads_fetched {fetch : Fetcher.FetchId} {result : Except Failure Report}
    (hfetch : library.fetches.find? 0 = some fetch)
    (hresult : library.fetcher.result? fetch = some result)
    (hstep : library.system.step (.computed 0 result) = some system) :
    Leads library { library with system } := by
  refine .of_step (.fetched 0) ?_
  unfold Library.step
  dsimp only
  rw [hfetch, Option.bind_some, hresult]
  dsimp only
  rw [hstep]
  rfl

/-- When the only call is attended, the library keeps pace. -/
theorem Alongside.deliver (h : Alongside config view stage library) (hagenda : stage.agenda = [])
    (hdelivers : Delivers event) (hstep : stage.system.step event = some system)
    (hattended : Attended system) :
    Alongside config view { stage with system } { library with system } :=
  .of_idle rfl h.shows (h.sole_of_step hdelivers.caller hstep) hagenda
    (hattended.can_resume { stage with system })

variable (service : Fetcher.Service ω) (limit : Duration)

/-- When a call begins to compute, the library begins a fetch that comes to the same. -/
theorem Alongside.compute (h : Alongside config view stage library) (hagenda : stage.agenda = [])
    (hunasked : Unasked config library) {key : Key} {flight : FlightId} {fallback : Option Report}
    {started : Instant}
    (hcall : stage.system.cache.calls.find? 0 = some ⟨key, .computing flight fallback started⟩) :
    Alongside config view
      (stage.follow (LibraryService.compute service config view.ids limit) 0)
      (library.launch 0) := by
  have hlaunch : library.launch 0 = { library with
      fetcher := (Fetcher.ofConfig config).openFetch library.system.now 0 view.ids
      fetches := library.fetches.insert 0 0
      nextFetch := 1 } := by
    have hdue : library.due? 0 = some view := by
      unfold due?
      rw [h.system_eq, hcall, hunasked.none_begun]
      exact h.shows
    unfold launch
    rw [hdue]
    dsimp only
    rw [hunasked.fetcher_eq, hunasked.next_eq]
  have hidle : stage.canResume 0 = false := can_resume_eq_false hcall nofun
  rw [hlaunch]
  set launched : Library σ := { library with
    fetcher := (Fetcher.ofConfig config).openFetch library.system.now 0 view.ids
    fetches := library.fetches.insert 0 0
    nextFetch := 1 }
  have hlaunched : ∀ world : ω, Alongside config view { stage with world } launched := fun world =>
    .of_idle h.system_eq h.shows h.sole hagenda hidle
  have htime : ∀ delay, launched.system.now ≤ launched.system.now.after delay := fun _ =>
    Nat.le_add_right ..
  obtain ⟨first, fuel, hopened, hnow, hordered, hresult, hfinish⟩ :=
    Fetcher.Stage.play_run service config view.ids (some limit) stage.system.now stage.world
  obtain ⟨hlater, hleads⟩ := leads_fetch launched service fuel hordered
    (by rw [hnow, ← h.system_eq]) (by rw [hopened, ← h.system_eq])
  unfold Stage.follow
  rw [hcall]
  dsimp only
  unfold LibraryService.compute
  dsimp only
  set played := Fetcher.play service config view.ids (some limit) stage.system.now stage.world
  cases hplayed : played.result with
  | none =>
      exact (hlaunched played.world).arrange hagenda hidle _ fun {last} => .timeOut (htime _)
  | some result =>
      dsimp only [Option.map_some]
      split
      · refine (hlaunched played.world).arrange hagenda hidle _ fun {last} => ?_
        have hfetch : launched.fetches.find? 0 = some 0 :=
          (Table.find?_insert ..).trans (if_pos rfl)
        refine .finish hfetch (hresult.symm.trans hplayed) ?_
        have hafter : launched.system.now.after (played.finish.since stage.system.now) =
            (first.run service fuel).now := by
          show library.system.now.after _ = _
          rw [hfinish, h.system_eq]
          exact congrArg Instant.mk (Nat.add_sub_cancel' (hnow ▸ hlater))
        rw [hafter]
        exact hleads
      · exact (hlaunched played.world).arrange hagenda hidle _ fun {last} => .timeOut (htime _)

/-- A call that is attended goes on without the library, but for its write. -/
theorem Alongside.follow_attended (h : Alongside config view stage library)
    (hagenda : stage.agenda = []) (hattended : Attended stage.system)
    (compute : Rehearsal.Computation Report ω) :
    Alongside config view (stage.follow compute 0) library := by
  cases hcall : stage.system.cache.calls.find? 0 with
  | none =>
      unfold Stage.follow
      rw [hcall]
      exact h
  | some call =>
      obtain ⟨key, point⟩ := call
      have hmem := hattended hcall
      unfold Stage.follow
      rw [hcall]
      cases point with
      | storing =>
          exact h.arrange hagenda (hattended.can_resume stage) _
            fun {last} => .write (Nat.le_add_right ..)
      | answered | returned => exact h
      | reading | erasing | waiting | computing => simp [Cache.Point.stage] at hmem

/-- When the only call goes on that has begun no fetch, the library does so, and begins its fetch if
it computes. -/
theorem Alongside.follow (h : Alongside config view stage library) (hagenda : stage.agenda = [])
    (hunasked : Unasked config library) : ∃ next, Leads (library.launch 0) next ∧
      Alongside config view
        (stage.follow (LibraryService.compute service config view.ids limit) 0) next := by
  have hlater : ∀ delay, library.system.now ≤ library.system.now.after delay := fun _ =>
    Nat.le_add_right ..
  have hstill : ∀ {call : Cache.Call Report}, stage.system.cache.calls.find? 0 = some call →
      call.point.stage ≠ .computing → library.launch 0 = library := fun hcall hnot =>
    launch_of_not_computing fun hfound => by
      rw [h.system_eq, hcall] at hfound
      cases hfound
      exact hnot
  cases hcall : stage.system.cache.calls.find? 0 with
  | none =>
      rw [launch_of_not_computing (by simp [h.system_eq, hcall])]
      unfold Stage.follow
      rw [hcall]
      exact ⟨library, .refl library, h⟩
  | some call =>
      obtain ⟨key, point⟩ := call
      cases point with
      | computing => exact ⟨_, .refl _, h.compute service limit hagenda hunasked hcall⟩
      | reading =>
          rw [hstill hcall (by simp [Cache.Point.stage])]
          have hidle := can_resume_eq_false hcall (by simp [Cache.Point.stage])
          unfold Stage.follow Stage.happen?
          rw [hcall]
          dsimp only
          cases hstep : stage.system.step (.served 0) with
          | none =>
              exact ⟨library, .refl library, h.arrange hagenda hidle _
                fun {last} => .answer (hlater _) hunasked⟩
          | some system =>
              have hstep' : library.system.step (.served 0) = some system := h.system_eq ▸ hstep
              have hattended : Attended system := Delivers.attended (.inl rfl) hstep'
              refine ⟨{ library with system }, leads_delivered (.inl rfl) hstep' hattended, ?_⟩
              refine (h.deliver hagenda (.inl rfl) hstep hattended).arrange hagenda
                (hattended.can_resume { stage with system }) _ ?_
              exact fun {last} => .answer (Nat.le_add_right ..) (hunasked.set_system system)
      | erasing =>
          rw [hstill hcall (by simp [Cache.Point.stage])]
          have hidle := can_resume_eq_false hcall (by simp [Cache.Point.stage])
          unfold Stage.follow
          rw [hcall]
          exact ⟨library, .refl library, h.arrange hagenda hidle _
            fun {last} => .erase (hlater _) hunasked⟩
      | waiting =>
          rw [hstill hcall (by simp [Cache.Point.stage])]
          unfold Stage.follow
          rw [hcall]
          exact ⟨library, .refl library, h⟩
      | answered | storing | returned =>
          rw [hstill hcall (by simp [Cache.Point.stage])]
          refine ⟨library, .refl library, h.follow_attended hagenda (fun hfound => ?_) _⟩
          cases hcall.symm.trans hfound
          simp [Cache.Point.stage]

/-- The only call goes on that has begun no fetch. -/
theorem Alongside.go_on (h : Alongside config view stage library) (hagenda : stage.agenda = [])
    (hunasked : Unasked config library)
    (hevent : event = .answered 0 ∨ event = .erased 0 ∨ event = .resumed 0) :
    ∃ next, Leads library next ∧ Alongside config view
      (stage.proceed (LibraryService.compute service config view.ids limit) 0 event) next := by
  unfold Stage.proceed Stage.happen?
  cases hstep : stage.system.step event with
  | none => exact ⟨library, .refl library, h⟩
  | some system =>
      set asked : Library σ := { library with system }
      have hcaller : event.caller = some 0 := by rcases hevent with rfl | rfl | rfl <;> rfl
      have hasked : library.step (.cached event) = some (asked.launch 0) := by
        have hcached : library.step (.cached event) =
            (library.system.step event).map fun system =>
              ({ library with system } : Library σ).launch 0 := by
          rcases hevent with rfl | rfl | rfl <;> rfl
        rw [hcached, h.system_eq, hstep]
        rfl
      have hunasked' : Unasked config asked := hunasked.set_system system
      have halongside : Alongside config view { stage with system } asked :=
        ⟨rfl, h.shows, h.sole_of_step hcaller hstep, by rw [hagenda]; exact .nothing,
          fun _ => ⟨hagenda, hunasked'⟩⟩
      obtain ⟨next, hleads, hnext⟩ := halongside.follow service limit hagenda hunasked'
      exact ⟨next, (Leads.of_step _ hasked).trans hleads, hnext⟩

/-- The only call goes on with what it has waited for. -/
theorem Alongside.go_on_attended (h : Alongside config view stage library)
    (hagenda : stage.agenda = []) (hdelivers : Delivers event)
    (hleads : ∀ {system}, library.system.step event = some system → Attended system →
      Leads library { library with system }) (compute : Rehearsal.Computation Report ω) :
    ∃ next, Leads library next ∧ Alongside config view (stage.proceed compute 0 event) next := by
  unfold Stage.proceed Stage.happen?
  cases hstep : stage.system.step event with
  | none => exact ⟨library, .refl library, h⟩
  | some system =>
      have hstep' : library.system.step event = some system := h.system_eq ▸ hstep
      have hattended : Attended system := hdelivers.attended hstep'
      exact ⟨{ library with system }, hleads hstep' hattended,
        (h.deliver hagenda hdelivers hstep hattended).follow_attended hagenda hattended compute⟩

/-- A call that has an appointment waits for no other call. -/
theorem Alongside.not_resumable (h : Alongside config view stage library)
    {appointment : Appointment (Errand Report)} {agenda : List (Appointment (Errand Report))}
    (hagenda : stage.agenda = appointment :: agenda) : stage.canResume 0 = false :=
  Bool.eq_false_iff.2 fun hresumes => by
    rw [(h.resumable hresumes).1] at hagenda
    cases hagenda

/-- When an appointment of the only call is kept, the library comes to its time and goes on. -/
theorem Alongside.keep (h : Alongside config view stage library)
    {appointment : Appointment (Errand Report)} {agenda : List (Appointment (Errand Report))}
    (hagenda : stage.agenda = appointment :: agenda) :
    ∃ next, Leads library next ∧ Alongside config view
      (Stage.keep (LibraryService.compute service config view.ids limit) { stage with agenda }
        appointment) next := by
  have hidle := h.not_resumable hagenda
  have hlater : ∀ time, Alongside config view
      { stage with agenda := [], system := { stage.system with now := time } }
      (library.setNow time) := fun time =>
    .of_idle (congrArg (fun system : System σ Report => { system with now := time }) h.system_eq)
      h.shows h.sole rfl hidle
  have harranged := h.arranged
  rw [hagenda] at harranged
  cases harranged with
  | @answer time _ htime hunasked =>
      obtain ⟨next, hleads, hnext⟩ := (hlater time).go_on service limit rfl
        (hunasked.set_system _) (.inl rfl)
      exact ⟨next, (leads_set_now htime).trans hleads, hnext⟩
  | @erase time _ htime hunasked =>
      obtain ⟨next, hleads, hnext⟩ := (hlater time).go_on service limit rfl
        (hunasked.set_system _) (.inr (.inl rfl))
      exact ⟨next, (leads_set_now htime).trans hleads, hnext⟩
  | @finish time _ result fetch fetcher hfetch hresult hfetched =>
      have hover : Alongside config view
          { stage with agenda := [], system := { stage.system with now := time } }
          ((library.setFetcher fetcher).setNow time) :=
        .of_idle (hlater time).system_eq h.shows h.sole rfl hidle
      obtain ⟨next, hleads, hnext⟩ :=
        hover.go_on_attended rfl (.inr (.inl ⟨result, rfl⟩))
          (fun hstep _ => leads_fetched hfetch hresult hstep) _
      exact ⟨next, hfetched.trans hleads, hnext⟩
  | @timeOut time _ htime =>
      obtain ⟨next, hleads, hnext⟩ := (hlater time).go_on_attended rfl (.inr (.inr (.inl rfl)))
        (leads_delivered (.inr (.inl rfl))) _
      exact ⟨next, (leads_set_now htime).trans hleads, hnext⟩
  | @write time _ htime =>
      obtain ⟨next, hleads, hnext⟩ := (hlater time).go_on_attended rfl (.inr (.inr (.inr rfl)))
        (leads_delivered (.inr (.inr rfl))) _
      exact ⟨next, (leads_set_now htime).trans hleads, hnext⟩

/-- The library keeps pace with the rehearsal of the only call to its end. -/
theorem Alongside.run (h : Alongside config view stage library) (fuel : Nat) :
    ∃ finish, Leads library finish ∧ Alongside config view
      (Stage.run (LibraryService.compute service config view.ids limit) fuel stage) finish := by
  induction fuel generalizing stage library with
  | zero => exact ⟨library, .refl library, h⟩
  | succ fuel ih =>
      unfold Stage.run
      split
      · rename_i id hid
        obtain ⟨⟨_, call⟩, hentry, rfl⟩ := List.mem_map.1 (List.mem_of_find?_eq_some hid)
        obtain rfl := h.sole ((Table.find?_eq_some _).2 hentry)
        obtain ⟨hagenda, hunasked⟩ := h.resumable (List.find?_some hid)
        obtain ⟨next, hleads, hnext⟩ := h.go_on service limit hagenda hunasked (.inr (.inr rfl))
        obtain ⟨finish, hrest, hfinish⟩ := ih hnext
        exact ⟨finish, hleads.trans hrest, hfinish⟩
      · split
        · exact ⟨library, .refl library, h⟩
        · rename_i appointment agenda hagenda
          dsimp only
          split
          · have harranged := h.arranged
            rw [hagenda] at harranged
            have hrest : agenda = [] := by cases harranged <;> rfl
            exact ih (.of_idle h.system_eq h.shows h.sole hrest (h.not_resumable hagenda))
          · obtain ⟨next, hleads, hnext⟩ := h.keep service limit hagenda
            obtain ⟨finish, hrest, hfinish⟩ := ih hnext
            exact ⟨finish, hleads.trans hrest, hfinish⟩

end Rehearsal

end Library

namespace LibraryService

open Library (Alongside Leads Unasked)

variable {σ ω : Type} [Backend σ] {library after : LibraryService σ} {config : Fetcher.Config}
  {items : List Item} {query : LibraryQuery} {view shown : View} {world later : ω}

/-- The library of a service, with a fetcher that has not begun any fetch. -/
def atRest (library : LibraryService σ) (config : Fetcher.Config) : Library σ where
  catalog := library.catalog
  system := library.system
  fetcher := .ofConfig config

omit [Backend σ] in
/-- When a service begins, this is the library before any query. -/
theorem at_rest_of_config (catalog : Catalog) (caching : Cache.Config) (config : Fetcher.Config)
    (store : σ) (now : Instant) :
    atRest ⟨catalog, some config, ⟨.ofConfig caching, store, now, .empty⟩⟩ config =
      Library.ofConfig catalog caching config store now := rfl

/-- The rehearsal of a call begins with the call. -/
theorem run_called (hidle : library.system.cache.calls = .empty)
    (compute : Rehearsal.Computation Report ω) (key : Key) (fuel : Nat) (world : ω) :
    Rehearsal.Stage.run compute (fuel + 1)
        ⟨library.system, world, Rehearsal.invitations library.system.now [{ key }]⟩ =
      Rehearsal.Stage.run compute fuel
        (Rehearsal.Stage.proceed compute ⟨library.system, world, []⟩ 0 (.called 0 key)) := by
  rw [Rehearsal.Stage.run]
  dsimp only
  rw [hidle]
  rfl

/-- The library begins as the rehearsal does, with the query. -/
theorem alongside_called (service : Fetcher.Service ω) (config : Fetcher.Config) (limit : Duration)
    (hidle : library.system.cache.calls = .empty)
    (hview : View.ofQuery library.catalog items query = .ok view) (world : ω) :
    ∃ next, Leads (library.atRest config) next ∧ Alongside config view
      (Rehearsal.Stage.proceed (compute service config view.ids limit)
        ⟨library.system, world, []⟩ 0 (.called 0 view.key)) next := by
  have hnone : ∀ id, library.system.cache.calls.find? id = none := fun _ => by rw [hidle]; rfl
  obtain ⟨system, hstep⟩ : ∃ system, library.system.step (.called 0 view.key) = some system := by
    unfold System.step System.onCache Cache.step
    dsimp only
    rw [hnone 0]
    exact ⟨_, rfl⟩
  obtain ⟨-, hentered⟩ := System.find?_of_called hstep
  set asked : Library σ := { library.atRest config with
    system
    views := (library.atRest config).views.insert 0 view
    fetches := (library.atRest config).fetches.erase 0 }
  have hasked : (library.atRest config).step (.queried 0 items query) = some asked := by
    unfold Library.step
    dsimp only
    rw [show View.ofQuery (library.atRest config).catalog items query = .ok view from hview]
    dsimp only
    rw [show (library.atRest config).system.step (.called 0 view.key) = some system from hstep]
    rfl
  have hunasked : Unasked config asked := ⟨rfl, rfl, rfl⟩
  have hstill : asked.launch 0 = asked := Library.launch_of_not_computing fun hcall => by
    cases hentered.symm.trans hcall
    have hstage := Cache.stage_enter_point library.system.cache library.system.now view.key
    rintro hcomputes
    rw [hcomputes] at hstage
    simp at hstage
  have halongside : Alongside config view (⟨system, world, []⟩ : Rehearsal.Stage σ Report ω)
      asked := by
    refine ⟨rfl, (Table.find?_insert ..).trans (if_pos rfl), ?_, .nothing,
      fun _ => ⟨rfl, hunasked⟩⟩
    intro id call hcall
    by_contra hne
    rw [(System.step_transition hstep).find?_of_caller_ne
      (fun heq => hne (Option.some.inj heq).symm)] at hcall
    cases (hnone id).symm.trans hcall
  obtain ⟨next, hleads, hnext⟩ := halongside.follow service limit rfl hunasked
  rw [hstill] at hleads
  unfold Rehearsal.Stage.proceed Rehearsal.Stage.happen?
  dsimp only
  rw [hstep]
  exact ⟨next, (Leads.of_step _ hasked).trans hleads, hnext⟩

/-- A query of a service is a run of its library: it shows what the library shows, and leaves the
cache, the store and the time as the run does, without its call. -/
theorem query_runs (service : Fetcher.Service ω) (hfetching : library.fetching = some config)
    (hidle : library.system.cache.calls = .empty)
    (hquery : library.query service items query world = .ok (shown, after, later)) :
    ∃ events finish, (library.atRest config).run events = some finish ∧
      finish.shown? 0 = some shown ∧
      after = { library with system := { finish.system with
        cache := { finish.system.cache with calls := .empty } } } := by
  obtain ⟨view, hview, hplay⟩ := Checked.bind_eq_ok.1 hquery
  rw [hfetching] at hplay
  dsimp only [Rehearsal.play] at hplay
  rw [run_called hidle] at hplay
  obtain ⟨first, hcalled, hfirst⟩ := alongside_called service config
    library.system.cache.config.resolveTimeout hidle hview world
  obtain ⟨finish, hrest, hfinish⟩ :=
    hfirst.run service library.system.cache.config.resolveTimeout 7
  obtain ⟨events, hrun⟩ := hcalled.trans hrest
  cases hplay
  refine ⟨events, finish, hrun, ?_, by rw [hfinish.system_eq, ← hfetching]; rfl⟩
  unfold Library.shown?
  rw [hfinish.shows, hfinish.system_eq]
  rfl

end LibraryService

end GameLibrary
