import GameLibrary.Library.Service
import GameLibrary.Proofs.Cache.Prompt
import GameLibrary.Proofs.Fetch.Deadline
import GameLibrary.Proofs.Library.Queries
import GameLibrary.Store.Memory

/-!
# Deadlines within the time limit

A fetch is over by its deadline. So if the deadline comes before the longest time that a computation
may take, no computation takes too long, and a report with what has succeeded by then is not lost
(`Shielded`). This holds of many queries side by side, as long as nothing but delays and timeouts
takes time (`Library.Timely`): time passes neither while the result of a fetch is there to be taken,
nor over the deadline of a fetch that is open. `Serves` says what a fetch is to the call that has
begun it.
-/

namespace GameLibrary

namespace System

variable {σ ν : Type} [Backend σ] [Payload ν] {system next : System σ ν} {event : Event ν}

/-- Time passes in its own steps only. -/
theorem Transition.now_eq (h : system.Transition event next)
    (hother : ∀ {time}, event ≠ .elapsed time) : next.now = system.now := by
  cases h with
  | elapsed => exact absurd rfl hother
  | own | served | erased | written | invalidated | deleted => rfl

end System

namespace Library

open Cache (Excused Passed Regular)
open Fetcher (Conducted FetchId Tells)

variable {σ : Type}

section Definitions

/-- With this event the task of a fetch for a facet has the answer to its last call. -/
def Succeeds (library : Library σ) (fetch : FetchId) (facet : Facet) : Event → Prop
  | .fetching event => library.fetcher.Succeeds ⟨fetch, facet⟩ event
  | _ => False

variable [Backend σ]

/-- In the course of the events the facet of the fetch has succeeded. -/
def HasSucceeded (start : Library σ) (events : List Event) (fetch : FetchId) (facet : Facet) :
    Prop :=
  Happens step start events fun library event => library.Succeeds fetch facet event

/-- Nothing but delays and timeouts takes time: time does not pass while a caller can take the result
of its fetch, and no timer of a fetch is overdue when it has passed. And no fetch is given up while
its caller computes. -/
def Timely (library : Library σ) : Event → Prop
  | .cached (.elapsed time) => (∀ id, library.step (.fetched id) = none) ∧
      ∀ id, ¬ library.fetcher.Overdue (.expired id) (library.system.now.after time)
  | .fetching (.dropped fetch) => ∀ {id key flight fallback started},
      library.fetches.find? id = some fetch →
      library.system.cache.calls.find? id ≠ some ⟨key, .computing flight fallback started⟩
  | _ => True

/-- All events of a run are timely. -/
def RunsTimely (start : Library σ) (events : List Event) : Prop :=
  ¬ Happens step start events fun library event => ¬ library.Timely event

/-- The deadline of the fetches keeps the computations within their time. -/
structure Shielded (fetching : Fetcher.Config) (start : Library σ) (events : List Event)
    (finish : Library σ) : Prop where
  /-- No fetch is open after its deadline. -/
  open_fetch : ∀ {fetch found}, finish.fetcher.fetches.find? fetch = some found →
    found.result = none → finish.system.now ≤ found.deadline
  /-- No computation takes longer than a fetch may, and none takes too long. -/
  computing : ∀ {id key flight fallback started},
    finish.system.cache.calls.find? id = some ⟨key, .computing flight fallback started⟩ →
    finish.system.now ≤ started.after fetching.deadline ∧
      finish.step (.cached (.timedOut id)) = none
  /-- A caller that computes can take the result of its fetch, if not before then at the deadline,
  when it can end the fetch. -/
  ends : ∀ {id key flight fallback started},
    finish.system.cache.calls.find? id = some ⟨key, .computing flight fallback started⟩ →
    (∃ next, finish.step (.fetched id) = some next) ∨
      (finish.system.now = started.after fetching.deadline → ∃ fetch next next',
        finish.fetches.find? id = some fetch ∧
        finish.step (.fetching (.expired fetch)) = some next ∧
        next.step (.fetched id) = some next')
  /-- A call does not fail but for a fetch of which all facets have failed. -/
  failure : ∀ {id failure}, finish.system.cache.outcome? id = some (.error failure) →
    Passed (· = .originUnavailable (Facet.distinct fetching.facets).length) failure
  /-- One facet that has succeeded is enough for a call with a fetch to return the report. -/
  report : ∀ {id fetch facet outcome}, finish.fetches.find? id = some fetch →
    finish.system.cache.outcome? id = some outcome → start.HasSucceeded events fetch facet →
    ∃ view report, finish.views.find? id = some view ∧ outcome = .ok ⟨report, .origin⟩ ∧
      report.Accounts fetching.facets (start.HasSucceeded events fetch) view.ids.length

end Definitions

section Service

variable {caching : Cache.Config} {fetching : Fetcher.Config} {succeeded : Facet → Prop}
  {requested : Nat} {fetch limit : FetchId} {now : Instant} {fetcher next : Fetcher}
  {point : Cache.Point Report} {others : FetchId → Facet → Prop} {event : Fetcher.Event}

/-- What a fetch is to the call that has begun it, where some of its facets have succeeded. While the
caller computes, the fetch has begun with the computation; later the caller has what the fetch
tells. -/
inductive Serves (caching : Cache.Config) (fetching : Fetcher.Config) (succeeded : Facet → Prop)
    (requested : Nat) (fetch : FetchId) (now : Instant) (fetcher : Fetcher) :
    Cache.Point Report → Prop where
  | computing {flight fallback started found} : fetcher.fetches.find? fetch = some found →
      found.ids.length = requested → found.deadline = started.after fetching.deadline →
      now ≤ found.deadline →
      Serves caching fetching succeeded requested fetch now fetcher
        (.computing flight fallback started)
  | storing {flight fallback report record} : (∀ facet, ¬ fetcher.Busy fetch facet) →
      Tells fetching requested succeeded (.ok report) →
      Serves caching fetching succeeded requested fetch now fetcher
        (.storing flight fallback report record)
  | returned {result} (fallback : Option Report) : (∀ facet, ¬ fetcher.Busy fetch facet) →
      Tells fetching requested succeeded result →
      Serves caching fetching succeeded requested fetch now fetcher
        (.returned (Cache.verdict caching true fallback (result.map fun report => ⟨report, .origin⟩)))

/-- A fetch stays what it is to its call, while this and other fetches go on. -/
theorem Serves.step
    (h : Serves caching fetching (others fetch) requested fetch now fetcher point)
    (hconducted : Conducted fetching now limit others fetcher)
    (hstep : fetcher.Transition now event next) (hopened : ∀ {ids}, event ≠ .opened fetch ids)
    (hkept : event = .dropped fetch → point.stage ≠ .computing) :
    Serves caching fetching
      (fun facet => others fetch facet ∨ fetcher.Succeeds ⟨fetch, facet⟩ event) requested fetch now
      next point := by
  -- A fetch without tasks has none any more, and no facet of it succeeds.
  have hover : (∀ facet, ¬ fetcher.Busy fetch facet) → (∀ facet, ¬ next.Busy fetch facet) ∧
      (fun facet => others fetch facet ∨ fetcher.Succeeds ⟨fetch, facet⟩ event) =
        others fetch := by
    intro hidle
    refine ⟨fun facet hfacet => ?_, funext fun facet => propext (or_iff_left fun hsucceeds => ?_)⟩
    · rcases hstep.contains_from hconducted.orderly hfacet with hbefore | ⟨ids, heq, -⟩
      · exact hidle facet hbefore
      · exact absurd heq hopened
    · exact hidle facet (Fetcher.busy_of_succeeds hsucceeds)
  cases h with
  | computing hfound hids hdeadline hnow =>
      obtain ⟨found', hfound', hcontinues, -⟩ :=
        hconducted.continues hstep hfound fun heq => hkept heq rfl
      rw [← hcontinues.ids_eq] at hids
      rw [← hcontinues.deadline_eq] at hdeadline hnow
      exact .computing hfound' hids hdeadline hnow
  | storing hidle htells =>
      obtain ⟨hidle', hsame⟩ := hover hidle
      rw [hsame]
      exact .storing hidle' htells
  | returned fallback hidle htells =>
      obtain ⟨hidle', hsame⟩ := hover hidle
      rw [hsame]
      exact .returned fallback hidle' htells

/-- A caller that returns has what its fetch tells. -/
theorem Serves.returned_from {outcome : Cache.Outcome Report}
    (h : Serves caching fetching succeeded requested fetch now fetcher (.returned outcome)) :
    ∃ fallback result, Tells fetching requested succeeded result ∧
      outcome = Cache.verdict caching true fallback
        (result.map fun report => ⟨report, .origin⟩) := by
  generalize hpoint : (.returned outcome : Cache.Point Report) = point at h
  cases h with
  | computing | storing => cases hpoint
  | returned _ _ htells =>
      injection hpoint with houtcome
      exact ⟨_, _, htells, houtcome⟩

end Service

variable {catalog : Catalog} {caching : Cache.Config} {fetching : Fetcher.Config}
  {library next start finish : Library σ} {event : Event} {past events : List Event}
  {id : CallId} {succeeded : FetchId → Facet → Prop}

/-- All fetches take their course, and each is of service to the call that has begun it. -/
structure Served (caching : Cache.Config) (fetching : Fetcher.Config)
    (succeeded : FetchId → Facet → Prop) (library : Library σ) : Prop where
  config_eq : library.system.cache.config = caching
  conducted :
    Conducted fetching library.system.now library.nextFetch succeeded library.fetcher
  linked : ∀ {id fetch call}, library.fetches.find? id = some fetch →
    library.system.cache.calls.find? id = some call →
    ∃ view, library.views.find? id = some view ∧
      Serves caching fetching (succeeded fetch) view.ids.length fetch library.system.now
        library.fetcher call.point

theorem served_of_config (store : σ) (now : Instant) :
    Served caching fetching (fun _ _ => False) (ofConfig catalog caching fetching store now) where
  config_eq := rfl
  conducted := Fetcher.conducted_of_config fetching now
  linked := nofun

/-- The fetch of a caller that computes. -/
theorem Served.fetch_of_computing (h : Served caching fetching succeeded library)
    (hconsistent : Consistent catalog past none library) {key : Key} {flight : FlightId}
    {fallback : Option Report} {started : Instant}
    (hcall : library.system.cache.calls.find? id =
      some ⟨key, .computing flight fallback started⟩) :
    ∃ fetch found, library.fetches.find? id = some fetch ∧
      library.fetcher.fetches.find? fetch = some found ∧
      found.deadline = started.after fetching.deadline ∧
      library.system.now ≤ found.deadline := by
  obtain ⟨fetch, hfetch⟩ := Option.isSome_iff_exists.1 (hconsistent.has_fetch hcall)
  obtain ⟨_, -, hserves⟩ := h.linked hfetch hcall
  cases hserves with
  | computing hfound _ hdeadline hnow => exact ⟨fetch, _, hfetch, hfound, hdeadline, hnow⟩

/-- A call that begins a fetch, if one is due, has its service from the beginning. -/
theorem Served.follow (h : Served caching fetching succeeded library)
    (hconsistent : Consistent catalog past (some id) library)
    (hbegins : ∀ {key flight fallback started}, library.fetches.find? id = none →
      library.system.cache.calls.find? id = some ⟨key, .computing flight fallback started⟩ →
      started = library.system.now) :
    Served caching fetching succeeded (library.launch id) := by
  unfold launch
  split
  · rename_i view hdue
    obtain ⟨hview, hnone, key, flight, fallback, started, hcall⟩ := due_eq_some hdue
    obtain ⟨hconducted, found, hfound, hids, hdeadline⟩ := h.conducted.open_fetch view.ids
    refine ⟨h.config_eq, hconducted, ?_⟩
    intro other fetch call hfetch hother
    dsimp only at hfetch hother ⊢
    rw [Table.find?_insert] at hfetch
    split at hfetch
    · rename_i heq
      subst heq
      cases hfetch
      cases hcall.symm.trans hother
      refine ⟨view, hview, .computing hfound (congrArg List.length hids) ?_ ?_⟩
      · rw [hdeadline, hbegins hnone hcall]
      · rw [hdeadline]
        exact Nat.le_add_right ..
    · obtain ⟨own, hown, hserves⟩ := h.linked hfetch hother
      have hlt := (hconsistent.fetching hfetch).1
      have hstep : library.fetcher.Transition library.system.now
          (.opened library.nextFetch view.ids) _ :=
        .opened <| Option.eq_none_iff_forall_ne_some.2 fun _ hfound =>
          Nat.lt_irrefl _ (h.conducted.numbered hfound)
      refine ⟨own, hown, ?_⟩
      have hserves' := hserves.step h.conducted hstep
        (fun heq => Nat.ne_of_lt hlt (Fetcher.Event.opened.inj heq).1.symm) nofun
      simpa [Fetcher.Succeeds] using hserves'
  · exact h

variable [Backend σ]

/-- No computation takes too long if its fetch may not. -/
theorem Served.not_timed_out (h : Served caching fetching succeeded library)
    (hconsistent : Consistent catalog past none library)
    (hdeadline : fetching.deadline < caching.resolveTimeout) (id : CallId) :
    library.system.step (.timedOut id) = none := by
  rw [Option.eq_none_iff_forall_ne_some]
  intro system hsystem
  cases System.step_transition hsystem with
  | own hown hcache =>
      cases hown
      cases hcache with
      | @timedOut _ _ _ _ started hcall hlimit =>
          obtain ⟨_, found, -, -, hfetch, hnow⟩ := h.fetch_of_computing hconsistent hcall
          rw [h.config_eq] at hlimit
          rw [hfetch] at hnow
          have hlate : caching.resolveTimeout.nanoseconds ≤
              library.system.now.nanoseconds - started.nanoseconds := hlimit
          have hearly : library.system.now.nanoseconds ≤
              started.nanoseconds + fetching.deadline.nanoseconds := hnow
          have hless : fetching.deadline.nanoseconds < caching.resolveTimeout.nanoseconds :=
            hdeadline
          omega

/-- A caller that computes can take the result of its fetch. -/
theorem step_fetched {key : Key} {flight : FlightId} {fallback : Option Report}
    {started : Instant} {fetch : FetchId} {result : Except Failure Report}
    (hcall : library.system.cache.calls.find? id =
      some ⟨key, .computing flight fallback started⟩)
    (hfetch : library.fetches.find? id = some fetch)
    (hresult : library.fetcher.result? fetch = some result) :
    ∃ next, library.step (.fetched id) = some next := by
  have hsystem : ∃ system, library.system.step (.computed id result) = some system := by
    refine ⟨{ library.system with
      cache := library.system.cache.conclude library.system.now id key flight fallback started
        result }, ?_⟩
    unfold System.step System.onCache Cache.step
    dsimp only
    rw [hcall]
    rfl
  obtain ⟨system, hsystem⟩ := hsystem
  refine ⟨{ library with system }, ?_⟩
  unfold step
  dsimp only
  rw [hfetch, Option.bind_some, hresult]
  dsimp only
  rw [hsystem]
  rfl

/-- Time may pass while the fetches are under way. -/
theorem Served.wait (h : Served caching fetching succeeded library) {time : Duration}
    (htimely : library.Timely (.cached (.elapsed time))) :
    Served caching fetching succeeded
      { library with system := { library.system with now := library.system.now.after time } } := by
  have hconducted := h.conducted.wait htimely.2
  refine ⟨h.config_eq, hconducted, ?_⟩
  intro id fetch call hfetch hcall
  dsimp only at hfetch hcall
  obtain ⟨key, point⟩ := call
  obtain ⟨view, hview, hserves⟩ := h.linked hfetch hcall
  refine ⟨view, hview, ?_⟩
  cases hserves with
  | @computing _ _ _ found hfound hids hdeadline hnow =>
      refine .computing hfound hids hdeadline (hconducted.in_time hfound ?_)
      cases hresult : found.result with
      | none => rfl
      | some result =>
          -- Then the result would be taken before any time passes.
          have hover : library.fetcher.result? fetch = some result :=
            (Fetcher.result_of_found hfound).trans hresult
          obtain ⟨next, hnext⟩ := step_fetched hcall hfetch hover
          have hnone : library.step (.fetched id) = none := htimely.1 id
          rw [hnext] at hnone
          cases hnone
  | storing hidle htells => exact .storing hidle htells
  | returned fallback hidle htells => exact .returned fallback hidle htells

/-- A caller that goes on without the result of its fetch has it already. -/
theorem Served.cached (h : Served caching fetching succeeded library)
    (hconsistent : Consistent catalog past none library)
    (hdeadline : fetching.deadline < caching.resolveTimeout) {event : System.Event Report}
    {system : System σ Report} (hcalled : ∀ {id key}, event ≠ .called id key)
    (hcomputed : ∀ {id result}, event ≠ .computed id result)
    (helapsed : ∀ {time}, event ≠ .elapsed time)
    (hsystem : library.system.step event = some system) :
    Served caching fetching succeeded { library with system } := by
  have htransition := System.step_transition hsystem
  have hnow := htransition.now_eq helapsed
  refine ⟨htransition.config_eq.1.trans h.config_eq, ?_, ?_⟩
  · show Conducted fetching system.now library.nextFetch succeeded library.fetcher
    rw [hnow]
    exact h.conducted
  intro id fetch call hfetch hcall
  obtain ⟨key, point⟩ := call
  show ∃ view, library.views.find? id = some view ∧ Serves caching fetching (succeeded fetch)
    view.ids.length fetch system.now library.fetcher point
  rw [hnow]
  obtain ⟨before, hbefore, hsame⟩ := htransition.call_before hcalled hcall
  obtain ⟨view, hview, hserves⟩ := h.linked hfetch hbefore
  refine ⟨view, hview, ?_⟩
  by_cases hcaller : event.caller = some id
  swap
  · have hstays := htransition.find?_of_caller_ne hcaller
    cases (hstays.symm.trans hcall).symm.trans hbefore
    exact hserves
  have hkept := htransition.ne_dropped hcall
  cases hserves with
  | computing =>
      rcases System.ending_of_computing hbefore hcaller hsystem with ⟨_, heq⟩ | heq | heq
      · exact absurd heq hcomputed
      · rw [heq] at hsystem
        cases (h.not_timed_out hconsistent hdeadline id).symm.trans hsystem
      · exact absurd heq hkept
  | storing hidle htells =>
      rcases System.ending_of_storing hbefore hcaller hsystem with heq | heq
      · subst heq
        rcases htransition.arrival hcall with hstays | ⟨own, hmirrors, harrival⟩
        · cases hbefore.symm.trans hstays
          exact .storing hidle htells
        · cases hmirrors with
          | own hown => cases hown
          | written =>
              cases harrival with
              | written hstoring =>
                  cases hbefore.symm.trans hstoring
                  exact .returned none hidle htells
      · exact absurd heq hkept
  | returned fallback hidle htells =>
      cases hsame.resolve_right fun hopen => hopen rfl
      exact .returned fallback hidle htells

/-- A new query has no fetch yet. -/
theorem Served.query (h : Served caching fetching succeeded library) (view : View)
    {system : System σ Report} (hsystem : library.system.step (.called id view.key) = some system) :
    Served caching fetching succeeded { library with
      system
      views := library.views.insert id view
      fetches := library.fetches.erase id } := by
  have htransition := System.step_transition hsystem
  have hnow := htransition.now_eq nofun
  refine ⟨htransition.config_eq.1.trans h.config_eq, ?_, ?_⟩
  · show Conducted fetching system.now library.nextFetch succeeded library.fetcher
    rw [hnow]
    exact h.conducted
  intro other fetch call hfetch hcall
  dsimp only at hfetch hcall ⊢
  rw [Table.find?_erase] at hfetch
  split at hfetch
  · cases hfetch
  · rename_i hne
    have hstays := htransition.find?_of_caller_ne fun heq => hne (Option.some.inj heq).symm
    rw [Table.find?_insert, if_neg hne, hnow]
    exact h.linked hfetch (hstays.symm.trans hcall)

/-- The fetches go on. -/
theorem Served.fetch (h : Served caching fetching succeeded library)
    {event : Fetcher.Event} {fetcher : Fetcher} (hopened : ∀ {id ids}, event ≠ .opened id ids)
    (htimely : library.Timely (.fetching event))
    (hfetcher : library.fetcher.step library.system.now event = some fetcher) :
    Served caching fetching
      (fun fetch facet => succeeded fetch facet ∨ library.fetcher.Succeeds ⟨fetch, facet⟩ event)
      { library with fetcher } := by
  have htransition := Fetcher.step_transition hfetcher
  refine ⟨h.config_eq, h.conducted.step htransition hopened, ?_⟩
  intro id fetch call hfetch hcall
  obtain ⟨view, hview, hserves⟩ := h.linked hfetch hcall
  refine ⟨view, hview, hserves.step h.conducted htransition hopened ?_⟩
  rintro rfl hstage
  obtain ⟨key, point⟩ := call
  cases point with
  | computing => exact htimely hfetch hcall
  | _ => cases hstage

/-- A caller takes what its fetch tells. -/
theorem Served.take (h : Served caching fetching succeeded library) {fetch : FetchId}
    {result : Except Failure Report} {system : System σ Report}
    (hfetch : library.fetches.find? id = some fetch)
    (hresult : library.fetcher.result? fetch = some result)
    (hsystem : library.system.step (.computed id result) = some system) :
    Served caching fetching succeeded { library with system } := by
  have htransition := System.step_transition hsystem
  have hnow := htransition.now_eq nofun
  refine ⟨htransition.config_eq.1.trans h.config_eq, ?_, ?_⟩
  · show Conducted fetching system.now library.nextFetch succeeded library.fetcher
    rw [hnow]
    exact h.conducted
  intro other fetch' call hfetch' hcall
  dsimp only at hfetch' hcall ⊢
  rw [hnow]
  obtain ⟨key, point⟩ := call
  rcases htransition.arrival hcall with hstays | ⟨own, hmirrors, harrival⟩
  · exact h.linked hfetch' hstays
  cases hmirrors with
  | own hown =>
      cases hown
      cases harrival with
      | @computed flight fallback started _ hcomputing =>
          cases hfetch.symm.trans hfetch'
          obtain ⟨view, hview, hserves⟩ := h.linked hfetch' hcomputing
          refine ⟨view, hview, ?_⟩
          cases hserves with
          | @computing _ _ _ found hfound hids _ _ =>
              have hover : found.result = some result :=
                (Fetcher.result_of_found hfound).symm.trans hresult
              obtain ⟨hidle, htells⟩ := (h.conducted.course hfound).closed hover
              rw [hids] at htells
              dsimp only
              unfold Cache.concludePoint
              cases result with
              | error failure =>
                  rw [h.config_eq]
                  exact .returned fallback hidle htells
              | ok report =>
                  dsimp only
                  split
                  · exact .storing hidle htells
                  · exact .returned none hidle htells

omit [Backend σ] in
/-- Only the events of a fetch let its facets succeed. -/
theorem succeeds_aside (event : Event) (hfetching : ∀ {own}, event ≠ .fetching own) :
    (fun fetch facet => succeeded fetch facet ∨ library.Succeeds fetch facet event) = succeeded := by
  funext fetch facet
  cases event with
  | fetching => exact absurd rfl hfetching
  | queried | fetched | cached => exact propext (or_iff_left not_false)

/-- Each fetch stays of service to its call. -/
theorem Served.step (h : Served caching fetching succeeded library)
    (hconsistent : Consistent catalog past none library)
    (hdeadline : fetching.deadline < caching.resolveTimeout)
    (hstep : library.Transition event next) (htimely : library.Timely event) :
    Served caching fetching
      (fun fetch facet => succeeded fetch facet ∨ library.Succeeds fetch facet event) next := by
  cases hstep with
  | queried _ hsystem =>
      rw [succeeds_aside (.queried _ _ _) nofun]
      exact h.query _ hsystem
  | fetching hopened hfetcher => exact h.fetch hopened htimely hfetcher
  | fetched hfetch hresult hsystem =>
      rw [succeeds_aside (.fetched _) nofun]
      exact h.take hfetch hresult hsystem
  | @cached event system hcalled hcomputed hsystem =>
      rw [succeeds_aside (.cached _) nofun]
      by_cases helapsed : ∃ time, event = .elapsed time
      · obtain ⟨time, rfl⟩ := helapsed
        cases hsystem
        exact h.wait htimely
      have helapsed : ∀ {time}, event ≠ .elapsed time := fun heq => helapsed ⟨_, heq⟩
      have hserved := h.cached hconsistent hdeadline hcalled hcomputed helapsed hsystem
      have hwhole := hconsistent.go_on (.cached event) hcalled hsystem
      cases hcaller : event.caller with
      | none => exact hserved
      | some id =>
          rw [hcaller] at hwhole
          refine hserved.follow hwhole ?_
          intro key flight fallback started hnone hcall
          have htransition := System.step_transition hsystem
          rcases htransition.computing_from hcall with hbefore | hnew
          · have hsome := hconsistent.has_fetch hbefore
            rw [show library.fetches.find? id = none from hnone] at hsome
            cases hsome
          · exact hnew.2.2.2.trans (htransition.now_eq helapsed).symm

/-- The failures of computations are those of fetches. -/
theorem Served.excused (h : Served caching fetching succeeded library)
    (hconsistent : Consistent catalog past none library)
    (hdeadline : fetching.deadline < caching.resolveTimeout)
    (hexcused : Excused (· = .originUnavailable (Facet.distinct fetching.facets).length)
      library.system.cache)
    (hregular : Regular library.system.cache) (hstep : library.Transition event next) :
    Excused (· = .originUnavailable (Facet.distinct fetching.facets).length) next.system.cache ∧
      Regular next.system.cache := by
  cases hstep with
  | fetching => exact ⟨hexcused, hregular⟩
  | queried _ hsystem =>
      exact (System.step_transition hsystem).excused hexcused hregular nofun nofun
  | fetched hfetch hresult hsystem =>
      refine (System.step_transition hsystem).excused hexcused hregular ?_ nofun
      intro id failure heq
      cases heq
      obtain ⟨found, hfound, hover⟩ := Option.bind_eq_some_iff.1 hresult
      exact (((h.conducted.course hfound).closed hover).2.failure rfl).2
  | @cached event system hcalled hcomputed hsystem =>
      rw [system_follow]
      refine (System.step_transition hsystem).excused hexcused hregular
        (fun heq => absurd heq hcomputed) ?_
      rintro id rfl
      cases (h.not_timed_out hconsistent hdeadline id).symm.trans hsystem

/-- In every state that a timely run comes to, each fetch is of service to its call, and calls fail
only as fetches do. -/
theorem run_served {store : σ} {now : Instant}
    (hdeadline : fetching.deadline < caching.resolveTimeout)
    (hrun : (ofConfig catalog caching fetching store now).run events = some finish)
    (htimely : (ofConfig catalog caching fetching store now).RunsTimely events) :
    Served caching fetching
        ((ofConfig catalog caching fetching store now).HasSucceeded events) finish ∧
      Excused (· = .originUnavailable (Facet.distinct fetching.facets).length)
        finish.system.cache := by
  set start := ofConfig catalog caching fetching store now
  suffices h : Served caching fetching (start.HasSucceeded events) finish ∧
      Excused (· = .originUnavailable (Facet.distinct fetching.facets).length)
        finish.system.cache ∧ Regular finish.system.cache from ⟨h.1, h.2.1⟩
  refine fold_history (fun past library => Served caching fetching (start.HasSucceeded past)
    library ∧ Excused (· = .originUnavailable (Facet.distinct fetching.facets).length)
      library.system.cache ∧ Regular library.system.cache) ?_ ?_ hrun
  · have hnone : start.HasSucceeded [] = fun _ _ => False :=
      funext fun _ => funext fun _ => propext (iff_of_false not_happens_nil not_false)
    rw [hnone]
    exact ⟨served_of_config store now, Cache.excused_of_config _ caching,
      Cache.regular_of_config caching⟩
  · rintro past event library next hwithin hpast ⟨h, hexcused, hregular⟩ hstep
    have hconsistent : Consistent catalog past none library := run_consistent hpast
    have hnow : library.Timely event := by
      by_contra hlate
      obtain ⟨rest, hevents⟩ := hwithin
      refine htimely ⟨past, event, rest, library, ?_, hpast, hlate⟩
      rw [← hevents, List.append_assoc, List.singleton_append]
    have hsucceeded : start.HasSucceeded (past ++ [event]) = fun fetch facet =>
        start.HasSucceeded past fetch facet ∨ library.Succeeds fetch facet event :=
      funext fun fetch => funext fun facet => propext (happens_concat hpast hstep)
    have htransition := step_transition hstep
    rw [hsucceeded]
    exact ⟨h.step hconsistent hdeadline htransition hnow,
      h.excused hconsistent hdeadline hexcused hregular htransition⟩

/-- What is known of a timely run is enough for its calls. -/
theorem Served.shielded (h : Served caching fetching (start.HasSucceeded events) finish)
    (hconsistent : Consistent catalog events none finish)
    (hdeadline : fetching.deadline < caching.resolveTimeout)
    (hexcused : Excused (· = .originUnavailable (Facet.distinct fetching.facets).length)
      finish.system.cache) : Shielded fetching start events finish := by
  have hreturned : ∀ {id outcome}, finish.system.cache.outcome? id = some outcome →
      ∃ key, finish.system.cache.calls.find? id = some ⟨key, .returned outcome⟩ := by
    intro id outcome houtcome
    unfold Cache.outcome? at houtcome
    split at houtcome
    · rename_i key _ hcall
      cases houtcome
      exact ⟨key, hcall⟩
    · cases houtcome
  constructor
  case open_fetch => exact h.conducted.in_time
  case computing =>
    intro id key flight fallback started hcall
    obtain ⟨_, found, -, -, hfetch, hnow⟩ := h.fetch_of_computing hconsistent hcall
    refine ⟨hfetch ▸ hnow, ?_⟩
    unfold Library.step
    dsimp only
    rw [h.not_timed_out hconsistent hdeadline id]
    rfl
  case ends =>
    intro id key flight fallback started hcall
    obtain ⟨fetch, found, hfetch, hfound, hend, -⟩ := h.fetch_of_computing hconsistent hcall
    cases hresult : found.result with
    | some result =>
        left
        exact step_fetched hcall hfetch ((Fetcher.result_of_found hfound).trans hresult)
    | none =>
        right
        intro hnow
        have hexpired : finish.fetcher.step finish.system.now (.expired fetch) =
            some ((finish.fetcher.abort fetch).closeIfDone fetch) := by
          unfold Fetcher.step
          dsimp only
          rw [hfound]
          exact if_pos ⟨by rw [hresult]; rfl, by rw [hend, hnow]; exact Nat.le_refl _⟩
        set next : Library σ :=
          { finish with fetcher := (finish.fetcher.abort fetch).closeIfDone fetch }
        have hover : next.fetcher.result? fetch = some found.conclusion :=
          Fetcher.result_of_found (Fetcher.find?_of_expiry h.conducted.orderly hfound)
        have hnext : finish.step (.fetching (.expired fetch)) = some next := by
          unfold Library.step
          dsimp only
          rw [hexpired]
          rfl
        have htaken : ∃ next', next.step (.fetched id) = some next' :=
          step_fetched hcall hfetch hover
        obtain ⟨next', hnext'⟩ := htaken
        exact ⟨fetch, next, next', hfetch, hnext, hnext'⟩
  case failure =>
    intro id failure houtcome
    obtain ⟨_, hcall⟩ := hreturned houtcome
    exact hexcused.calls hcall
  case report =>
    intro id fetch facet outcome hfetch houtcome hfacet
    obtain ⟨_, hcall⟩ := hreturned houtcome
    obtain ⟨view, hview, hserves⟩ := h.linked hfetch hcall
    obtain ⟨fallback, result, htells, rfl⟩ := hserves.returned_from
    obtain ⟨report, rfl, haccounts⟩ := htells.report hfacet
    exact ⟨view, report, hview, rfl, haccounts⟩

/-- The fetches that calls in a rehearsal compute with end in time. -/
theorem compute_prompt {ω : Type} (service : Fetcher.Service ω)
    (hdeadline : fetching.deadline < caching.resolveTimeout) (ids : CallId → List String) :
    Rehearsal.Prompt caching.resolveTimeout
      (· = .originUnavailable (Facet.distinct fetching.facets).length)
      fun id => LibraryService.compute service fetching (ids id) caching.resolveTimeout id := by
  intro id now world
  have hplays := Fetcher.play_ends service fetching (ids id) now world
  obtain ⟨_, _, outcome, -, -, -, hresult, htells⟩ := hplays.concluded
  unfold LibraryService.compute
  dsimp only
  rw [Fetcher.play_patient service (Nat.le_of_lt hdeadline), hresult]
  refine ⟨_, outcome, rfl, ?_, fun failure heq => (htells.failure heq).2⟩
  have hfinish : (Fetcher.play service fetching (ids id) none now world).finish.nanoseconds ≤
      now.nanoseconds + fetching.deadline.nanoseconds := hplays.in_time
  have hless : fetching.deadline.nanoseconds < caching.resolveTimeout.nanoseconds := hdeadline
  show _ - now.nanoseconds ≤ caching.resolveTimeout.nanoseconds
  omega

/-- The deadline of the fetches shields the longest time that a computation may take. In virtual
time every fetch is over by its deadline, with what has succeeded by then. So if the deadline comes
first, no call fails because its computation takes too long, in a rehearsal of any calls or with
queries side by side, and one facet that has succeeded is enough for the call with the fetch to
return its report. -/
theorem deadline_shields (caching : Cache.Config) (fetching : Fetcher.Config) :
    (∀ {ω : Type} (service : Fetcher.Service ω) (ids : List String) (now : Instant) (world : ω),
      Fetcher.PlaysOut fetching ids now
        (Fetcher.play service fetching ids none now world)) ∧
    (fetching.deadline < caching.resolveTimeout →
      (∀ {ω : Type} (service : Fetcher.Service ω) (ids : CallId → List String)
        (plans : List Rehearsal.Plan) (store : σ) (now : Instant) (world : ω) {failure : Failure},
        some (.error failure) ∈ (Rehearsal.play
          (fun id => LibraryService.compute service fetching (ids id) caching.resolveTimeout id)
          plans ⟨.ofConfig caching, store, now, .empty⟩ world).1 →
        Passed (· = .originUnavailable (Facet.distinct fetching.facets).length) failure) ∧
      ∀ {catalog : Catalog} {store : σ} {now : Instant} {events : List Event}
        {finish : Library σ},
        (ofConfig catalog caching fetching store now).run events = some finish →
        (ofConfig catalog caching fetching store now).RunsTimely events →
        Shielded fetching (ofConfig catalog caching fetching store now) events finish) := by
  refine ⟨fun service ids now world => Fetcher.play_ends service fetching ids now world,
    fun hdeadline => ⟨?_, ?_⟩⟩
  · intro ω service ids plans store now world failure hmem
    exact Rehearsal.play_prompt (compute_prompt service hdeadline ids) plans store now world hmem
  · intro catalog store now events finish hrun htimely
    obtain ⟨hserved, hexcused⟩ := run_served hdeadline hrun htimely
    exact hserved.shielded (run_consistent hrun) hdeadline hexcused

section Examples

/-- With the event no time passes, and no fetch is given up. -/
def Event.isCalm : Event → Bool
  | .cached (.elapsed _) | .fetching (.dropped _) => false
  | _ => true

theorem timely_of_calm (hcalm : event.isCalm = true) : library.Timely event := by
  unfold Timely
  split
  · cases hcalm
  · cases hcalm
  · trivial

theorem runs_timely_of_calm (hcalm : ∀ event ∈ events, event.isCalm = true) :
    start.RunsTimely events := by
  rintro ⟨past, event, rest, library, rfl, -, hlate⟩
  exact hlate (timely_of_calm (hcalm event (List.mem_append_right _ List.mem_cons_self)))

/-- Time may pass up to the deadlines if no result is there. -/
theorem timely_elapsed {time : Duration}
    (hresults : ∀ entry ∈ library.fetches.entries, (library.fetcher.result? entry.2).isNone = true)
    (hdeadlines : ∀ entry ∈ library.fetcher.fetches.entries,
      library.system.now.after time ≤ entry.2.deadline) :
    library.Timely (.cached (.elapsed time)) := by
  constructor
  · intro id
    rw [Option.eq_none_iff_forall_ne_some]
    intro next hstep
    cases step_transition hstep with
    | fetched hfetch hresult =>
        have hnone := hresults _ ((Table.find?_eq_some _).1 hfetch)
        rw [hresult] at hnone
        cases hnone
  · rintro fetch ⟨moment, hrings, hpassed⟩
    obtain ⟨found, hfound, -, rfl⟩ := Fetcher.rings_expired.1 hrings
    exact Nat.not_lt_of_le (hdeadlines _ ((Table.find?_eq_some _).1 hfound)) hpassed

/-- Two facets to ask for in five seconds. -/
def twoFacets : Fetcher.Config where
  deadline := .seconds 5
  facets := [.trending, .mostPlayed]

/-- One item is queried, and one of the two facets is answered. -/
def halfAnswered : List Event :=
  [.queried 0 [{ (default : Item) with id := "a" }] ⟨default, []⟩, .cached (.served 0),
    .cached (.answered 0), .fetching (.begun ⟨0, .trending⟩), .fetching (.begun ⟨0, .mostPlayed⟩),
    .fetching (.answered ⟨0, .trending⟩ (.ok [⟨"a", 1, default⟩]))]

/-- The fetch is ended at its deadline, and its result is taken. -/
def cutOff : List Event :=
  [.cached (.elapsed (.seconds 5)), .fetching (.expired 0), .fetched 0]

/-- The library before the query. -/
def unasked : Library MemoryStore := ofConfig ⟨[], List.nodup_nil⟩ {} twoFacets {} ⟨0⟩

/-- The facets that a call has no ranking for. -/
def missing? (library : Library MemoryStore) (id : CallId) : Option (List Facet) :=
  match library.system.cache.outcome? id with
  | some (.ok ⟨report, .origin⟩) => some report.failed
  | _ => none

/-- What one facet has come to by the deadline is not lost. -/
theorem deadline_shields_half : ∃ finish, unasked.run (halfAnswered ++ cutOff) = some finish ∧
    unasked.RunsTimely (halfAnswered ++ cutOff) ∧ finish.missing? 0 = some [.mostPlayed] ∧
    Shielded twoFacets unasked (halfAnswered ++ cutOff) finish := by
  have hwaits : (unasked.run halfAnswered).map (fun library => decide
      ((∀ entry ∈ library.fetches.entries, (library.fetcher.result? entry.2).isNone = true) ∧
        ∀ entry ∈ library.fetcher.fetches.entries,
          library.system.now.after (.seconds 5) ≤ entry.2.deadline)) = some true := by
    decide +kernel
  have hends : (unasked.run (halfAnswered ++ cutOff)).map (·.missing? 0) =
      some (some [.mostPlayed]) := by decide +kernel
  obtain ⟨middle, hmiddle, hopen⟩ := Option.map_eq_some_iff.1 hwaits
  obtain ⟨finish, hrun, hmissing⟩ := Option.map_eq_some_iff.1 hends
  obtain ⟨hresults, hdeadlines⟩ := of_decide_eq_true hopen
  have htimely : unasked.RunsTimely (halfAnswered ++ cutOff) := by
    intro hlate
    rcases (happens_append hmiddle).1 hlate with hbefore | hafter
    · exact runs_timely_of_calm (by decide) hbefore
    · obtain ⟨later, hlater⟩ : ∃ later, middle.step (.cached (.elapsed (.seconds 5))) = some later :=
        ⟨_, rfl⟩
      rcases (happens_cons hlater).1 hafter with hnow | hthen
      · exact hnow (timely_elapsed hresults hdeadlines)
      · exact runs_timely_of_calm (by decide) hthen
  exact ⟨finish, hrun, htimely, hmissing,
    ((deadline_shields {} twoFacets).2 (by decide)).2 hrun htimely⟩

end Examples

end Library

end GameLibrary
