import GameLibrary.Library.View
import GameLibrary.Proofs.Cache.Staleness
import GameLibrary.Proofs.Cache.Window
import GameLibrary.Proofs.Fetch.Tasks

/-!
# Queries side by side

Many queries are answered at the same time, over one cache and one fetcher. A query is a call for
the key of its view, unless a filter breaks down, and then there is none. A call that begins to
compute begins a fetch for the ids of its own view, and takes the result of this fetch when it is
over; all else that happens to the cache, to the store and to the fetches may come at any time.
`Library.Consistent` says how the calls, the views and the fetches belong together in every state
that a run comes to.
-/

namespace GameLibrary

open Fetcher (FetchId)

/-- A library with the queries that are under way. -/
structure Library (σ : Type) where
  catalog : Catalog
  system : System σ Report
  fetcher : Fetcher
  /-- The view of each query, without popularity. -/
  views : Table CallId View := .empty
  /-- The fetch that each call has begun. -/
  fetches : Table CallId FetchId := .empty
  /-- The number of the next fetch. -/
  nextFetch : FetchId := 0

namespace Library

variable {σ : Type}

/-- The library before any query. -/
def ofConfig (catalog : Catalog) (caching : Cache.Config) (fetching : Fetcher.Config) (store : σ)
    (now : Instant) : Library σ where
  catalog
  system := ⟨.ofConfig caching, store, now, .empty⟩
  fetcher := .ofConfig fetching

/-- What can happen to a library. -/
inductive Event where
  /-- A list of items is queried. -/
  | queried (id : CallId) (items : List Item) (query : LibraryQuery)
  /-- A fetch goes on. -/
  | fetching (event : Fetcher.Event)
  /-- A call takes the result of its fetch. -/
  | fetched (id : CallId)
  /-- Anything else happens to the cache or to its store. -/
  | cached (event : System.Event Report)

/-- The view for which a call is to begin a fetch: the call computes, and has no fetch yet. -/
def due? (library : Library σ) (id : CallId) : Option View :=
  match library.system.cache.calls.find? id, library.fetches.find? id with
  | some ⟨_, .computing _ _ _⟩, none => library.views.find? id
  | _, _ => none

/-- Begins the fetch of a call, if one is due. -/
def launch (library : Library σ) (id : CallId) : Library σ :=
  match library.due? id with
  | some view => { library with
      fetcher := library.fetcher.openFetch library.system.now library.nextFetch view.ids
      fetches := library.fetches.insert id library.nextFetch
      nextFetch := library.nextFetch + 1 }
  | none => library

/-- Begins the fetch of the caller that has just gone on, if there is one and its fetch is due. -/
def follow (library : Library σ) : Option CallId → Library σ
  | some id => library.launch id
  | none => library

/-- The view of a query with the outcome of its call. -/
def shown? (library : Library σ) (id : CallId) : Option View :=
  (library.views.find? id).map fun view =>
    { view with popularity := library.system.cache.outcome? id }

variable [Backend σ]

/-- What an event does, if it can happen. -/
def step (library : Library σ) : Event → Option (Library σ)
  | .queried id items query =>
      match View.ofQuery library.catalog items query with
      | .ok view => (library.system.step (.called id view.key)).map fun system => { library with
          system
          views := library.views.insert id view
          fetches := library.fetches.erase id }
      | .error _ => none
  | .fetching (.opened _ _) => none
  | .fetching event =>
      (library.fetcher.step library.system.now event).map fun fetcher => { library with fetcher }
  | .fetched id =>
      match (library.fetches.find? id).bind library.fetcher.result? with
      | some result =>
          (library.system.step (.computed id result)).map fun system => { library with system }
      | none => none
  | .cached (.called _ _) | .cached (.computed _ _) => none
  | .cached event =>
      (library.system.step event).map fun system =>
        ({ library with system } : Library σ).follow event.caller

/-- The library after some events, if each of them can happen when it comes. -/
def run (library : Library σ) (events : List Event) : Option (Library σ) :=
  events.foldlM step library

/-- The steps of a library. -/
inductive Transition (library : Library σ) : Event → Library σ → Prop where
  | queried {id items query view system} :
      View.ofQuery library.catalog items query = .ok view →
      library.system.step (.called id view.key) = some system →
      Transition library (.queried id items query) { library with
        system
        views := library.views.insert id view
        fetches := library.fetches.erase id }
  | fetching {event fetcher} : (∀ {id ids}, event ≠ .opened id ids) →
      library.fetcher.step library.system.now event = some fetcher →
      Transition library (.fetching event) { library with fetcher }
  | fetched {id fetch result system} : library.fetches.find? id = some fetch →
      library.fetcher.result? fetch = some result →
      library.system.step (.computed id result) = some system →
      Transition library (.fetched id) { library with system }
  | cached {event system} : (∀ {id key}, event ≠ .called id key) →
      (∀ {id result}, event ≠ .computed id result) →
      library.system.step event = some system →
      Transition library (.cached event)
        (({ library with system } : Library σ).follow event.caller)

/-- A library steps by its rules only. -/
theorem step_transition {library next : Library σ} {event : Event}
    (hstep : library.step event = some next) : library.Transition event next := by
  unfold step at hstep
  cases event with
  | queried id items query =>
      dsimp only at hstep
      split at hstep
      · rename_i view hview
        obtain ⟨system, hsystem, rfl⟩ := Option.map_eq_some_iff.1 hstep
        exact .queried hview hsystem
      · cases hstep
  | fetching event =>
      cases event with
      | opened => cases hstep
      | _ =>
          obtain ⟨fetcher, hfetcher, rfl⟩ := Option.map_eq_some_iff.1 hstep
          exact .fetching (by rintro _ _ ⟨⟩) hfetcher
  | fetched id =>
      dsimp only at hstep
      split at hstep
      · rename_i result hresult
        obtain ⟨fetch, hfetch, hresult⟩ := Option.bind_eq_some_iff.1 hresult
        obtain ⟨system, hsystem, rfl⟩ := Option.map_eq_some_iff.1 hstep
        exact .fetched hfetch hresult hsystem
      · cases hstep
  | cached event =>
      cases event with
      | called | computed => cases hstep
      | _ =>
          obtain ⟨system, hsystem, rfl⟩ := Option.map_eq_some_iff.1 hstep
          exact .cached (by rintro _ _ ⟨⟩) (by rintro _ _ ⟨⟩) hsystem

end Library

namespace System

variable {σ ν : Type} [Backend σ] [Payload ν] {system next : System σ ν} {event : Event ν}
  {id : CallId} {key : Key} {point : Cache.Point ν}

/-- Whoever has just asked for a key had no call, and has looked the key up in memory. -/
theorem find?_of_called (hstep : system.step (.called id key) = some next) :
    system.cache.calls.find? id = none ∧
      next.cache.calls.find? id = some ⟨key, system.cache.enterPoint system.now key⟩ := by
  cases step_transition hstep with
  | own hown hcache =>
      cases hown
      cases hcache with
      | called hfree =>
          refine ⟨hfree, ?_⟩
          rw [Cache.calls_enter, Table.find?_insert, if_pos rfl]

/-- The caller of an event has just come to the point at which it stands. -/
theorem Transition.arrival_of_caller (h : system.Transition event next)
    (hcaller : event.caller = some id) (hcall : next.cache.calls.find? id = some ⟨key, point⟩) :
    ∃ own, system.Mirrors event own ∧ system.cache.Arrival system.now id key own point := by
  cases h with
  | elapsed | invalidated | deleted => cases hcaller
  | own hown hcache =>
      refine ⟨_, .own hown, hcache.arrival_of_caller ?_ hcall⟩
      cases event <;> cases hown <;> exact hcaller
  | served hreading hcache =>
      exact ⟨_, .served hreading, hcache.arrival_of_caller hcaller hcall⟩
  | erased _ hcache => exact ⟨_, .erased, hcache.arrival_of_caller hcaller hcall⟩
  | written _ hcache => exact ⟨_, .written, hcache.arrival_of_caller hcaller hcall⟩

/-- A caller that has not just asked for its key had a call for it already, and if it has gone on, the
call was not over. -/
theorem Transition.call_before (h : system.Transition event next)
    (hcalled : ∀ {key}, event ≠ .called id key)
    (hcall : next.cache.calls.find? id = some ⟨key, point⟩) :
    ∃ before, system.cache.calls.find? id = some ⟨key, before⟩ ∧
      (before = point ∨ before.stage ≠ .returned) := by
  rcases h.arrival hcall with hbefore | ⟨own, hmirrors, harrival⟩
  · exact ⟨point, hbefore, .inl rfl⟩
  · rcases harrival.source.2 with rfl | ⟨before, hbefore, hopen⟩
    · cases hmirrors with
      | own hown =>
          cases event <;> cases hown
          exact absurd rfl hcalled
    · exact ⟨before, hbefore, .inr hopen⟩

/-- A caller computes because it did so already, or it has just found nothing in memory and begins
to; and it was not a computation that ended. -/
theorem Transition.computing_from {flight : FlightId} {fallback : Option ν} {started : Instant}
    (h : system.Transition event next)
    (hcall : next.cache.calls.find? id = some ⟨key, .computing flight fallback started⟩) :
    system.cache.calls.find? id = some ⟨key, .computing flight fallback started⟩ ∨
      event.caller = some id ∧ (∀ {result}, event ≠ .computed id result) ∧
        system.cache.tier1.live? system.now key = none ∧ started = system.now := by
  by_cases hcaller : event.caller = some id
  · refine (h.arrival hcall).imp_right ?_
    intro harrived
    obtain ⟨_, hmirrors, harrival⟩ := harrived
    refine ⟨hcaller, ?_, harrival.computing_from⟩
    rintro result rfl
    have hstage := harrival.stage_mem
    cases hmirrors with
    | own hown =>
        cases hown
        simp [Cache.Point.stage, Cache.Event.stages] at hstage
  · exact .inl ((h.find?_of_caller_ne hcaller).symm.trans hcall)

end System

namespace Library

variable {σ : Type} {catalog : Catalog} {library next : Library σ} {event : Event}
  {past : List Event} {caller : Option CallId} {id : CallId} {view : View}

/-- The calls, the views and the fetches belong together. A caller that has just gone on may have to
begin its fetch. -/
structure Consistent (catalog : Catalog) (past : List Event) (caller : Option CallId)
    (library : Library σ) : Prop where
  catalog_eq : library.catalog = catalog
  /-- A call is for the key of its view. -/
  called : ∀ {id call}, library.system.cache.calls.find? id = some call →
    ∃ view, library.views.find? id = some view ∧ view.key = call.key
  /-- A view is that of a query. -/
  queried : ∀ {id view}, library.views.find? id = some view →
    ∃ items query, .queried id items query ∈ past ∧
      View.ofQuery catalog items query = .ok view
  /-- A call has begun a fetch for the ids of its view. -/
  fetching : ∀ {id fetch}, library.fetches.find? id = some fetch → fetch < library.nextFetch ∧
    ∃ view, library.views.find? id = some view ∧
      ∀ {ids}, library.fetcher.idsOf? fetch = some ids → ids = view.ids
  /-- A call that computes has begun a fetch. -/
  launched : ∀ {id key flight fallback started},
    library.system.cache.calls.find? id = some ⟨key, .computing flight fallback started⟩ →
    (library.fetches.find? id).isSome = true ∨ caller = some id

/-- Before any query there is nothing that has to belong together. -/
theorem consistent_of_config (caching : Cache.Config) (fetching : Fetcher.Config) (store : σ)
    (now : Instant) :
    Consistent catalog [] none (ofConfig catalog caching fetching store now) where
  catalog_eq := rfl
  called hcall := by cases hcall
  queried hview := by cases hview
  fetching hfetch := by cases hfetch
  launched hcall := by cases hcall

/-- A fetch is due for a call that computes and has none. -/
theorem due_eq_some (h : library.due? id = some view) :
    library.views.find? id = some view ∧ library.fetches.find? id = none ∧
      ∃ key flight fallback started,
        library.system.cache.calls.find? id = some ⟨key, .computing flight fallback started⟩ := by
  unfold due? at h
  split at h
  · rename_i hcall hfetch
    exact ⟨h, hfetch, _, _, _, _, hcall⟩
  · cases h

/-- A call that computes and has a view has begun a fetch, unless one is due. -/
theorem due_eq_none (h : library.due? id = none) (hview : library.views.find? id = some view)
    {call : Cache.Call Report} (hcall : library.system.cache.calls.find? id = some call)
    (hcomputing : call.point.stage = .computing) : (library.fetches.find? id).isSome = true := by
  obtain ⟨key, point⟩ := call
  cases point with
  | computing =>
      unfold due? at h
      rw [hcall] at h
      cases hfetch : library.fetches.find? id with
      | some fetch => rfl
      | none =>
          rw [hfetch] at h
          cases hview.symm.trans h
  | _ => cases hcomputing

@[simp] theorem system_follow (library : Library σ) (caller : Option CallId) :
    (library.follow caller).system = library.system := by
  unfold follow launch
  split
  · split <;> rfl
  · rfl

@[simp] theorem views_follow (library : Library σ) (caller : Option CallId) :
    (library.follow caller).views = library.views := by
  unfold follow launch
  split
  · split <;> rfl
  · rfl

/-- When the caller that has just gone on has begun its fetch, if it is due, all belongs together. -/
theorem Consistent.follow (h : Consistent catalog past caller library) :
    Consistent catalog past none (library.follow caller) := by
  cases caller with
  | none => exact h
  | some caller =>
      unfold Library.follow launch
      dsimp only
      split
      · rename_i view hdue
        obtain ⟨hview, hnone, -⟩ := due_eq_some hdue
        refine ⟨h.catalog_eq, h.called, h.queried, ?_, ?_⟩
        · intro id fetch hfetch
          dsimp only at hfetch ⊢
          rw [Table.find?_insert] at hfetch
          split at hfetch
          · rename_i hid
            cases hfetch
            refine ⟨Nat.lt_succ_self _, view, hid ▸ hview, ?_⟩
            intro ids hids
            rw [Fetcher.ids_open_fetch, if_pos rfl] at hids
            exact (Option.some.inj hids).symm
          · obtain ⟨hlt, own, hown, hids⟩ := h.fetching hfetch
            refine ⟨Nat.lt_succ_of_lt hlt, own, hown, ?_⟩
            intro ids hopened
            rw [Fetcher.ids_open_fetch, if_neg (Nat.ne_of_lt hlt)] at hopened
            exact hids hopened
        · intro id key flight fallback started hcall
          left
          dsimp only
          rw [Table.find?_insert]
          split
          · rfl
          · rename_i hne
            exact (h.launched hcall).resolve_right fun heq => hne (Option.some.inj heq).symm
      · rename_i hdue
        refine ⟨h.catalog_eq, h.called, h.queried, h.fetching, ?_⟩
        intro id key flight fallback started hcall
        rcases h.launched hcall with hfetch | heq
        · exact .inl hfetch
        · cases heq
          obtain ⟨view, hview, -⟩ := h.called hcall
          exact .inl (due_eq_none hdue hview hcall rfl)

/-- When no caller has just gone on, every call that computes has begun its fetch. -/
theorem Consistent.has_fetch (h : Consistent catalog past none library) {key : Key}
    {flight : FlightId} {fallback : Option Report} {started : Instant}
    (hcall : library.system.cache.calls.find? id =
      some ⟨key, .computing flight fallback started⟩) : (library.fetches.find? id).isSome = true :=
  (h.launched hcall).resolve_right nofun

/-- What was queried before was queried by then. -/
theorem Consistent.queried_by (h : Consistent catalog past caller library) (event : Event)
    (hview : library.views.find? id = some view) : ∃ items query,
    .queried id items query ∈ past ++ [event] ∧ View.ofQuery catalog items query = .ok view := by
  obtain ⟨items, query, hmem, heq⟩ := h.queried hview
  exact ⟨items, query, List.mem_append_left _ hmem, heq⟩

variable [Backend σ]

/-- Calls that have not begun just now are for the keys of the same views as before. -/
theorem Consistent.called_before (h : Consistent catalog past caller library)
    {event : System.Event Report} {system : System σ Report}
    (hsystem : library.system.step event = some system)
    (hnew : ∀ {id key}, event ≠ .called id key) {call : Cache.Call Report}
    (hcall : system.cache.calls.find? id = some call) :
    ∃ view, library.views.find? id = some view ∧ view.key = call.key := by
  obtain ⟨key, point⟩ := call
  obtain ⟨before, hbefore, -⟩ := (System.step_transition hsystem).call_before hnew hcall
  obtain ⟨view, hview, hkey⟩ := h.called hbefore
  exact ⟨view, hview, hkey⟩

/-- A call does not compute before it has looked its key up. -/
theorem enter_point_ne_computing {cache : Cache Report} {now : Instant} {key : Key}
    {flight : FlightId} {fallback : Option Report} {started : Instant} :
    cache.enterPoint now key ≠ .computing flight fallback started := by
  intro hpoint
  have hstage := Cache.stage_enter_point cache now key
  rw [hpoint] at hstage
  simp [Cache.Point.stage] at hstage

/-- A new query has its own view, and no fetch yet. -/
theorem Consistent.query (h : Consistent catalog past none library) {items : List Item}
    {query : LibraryQuery} (hview : View.ofQuery library.catalog items query = .ok view)
    {system : System σ Report}
    (hsystem : library.system.step (.called id view.key) = some system) :
    Consistent catalog (past ++ [.queried id items query]) none { library with
      system
      views := library.views.insert id view
      fetches := library.fetches.erase id } := by
  obtain ⟨-, hentered⟩ := System.find?_of_called hsystem
  have hother : ∀ {other}, other ≠ id →
      system.cache.calls.find? other = library.system.cache.calls.find? other := fun hne =>
    (System.step_transition hsystem).find?_of_caller_ne fun heq => hne (Option.some.inj heq).symm
  constructor
  case catalog_eq => exact h.catalog_eq
  case called =>
    intro other call hcall
    dsimp only at hcall ⊢
    rw [Table.find?_insert]
    split
    · rename_i hid
      rw [hid, hentered] at hcall
      cases hcall
      exact ⟨_, rfl, rfl⟩
    · rename_i hne
      exact h.called ((hother hne).symm.trans hcall)
  case queried =>
    intro other shown hshown
    dsimp only at hshown
    rw [Table.find?_insert] at hshown
    split at hshown
    · rename_i hid
      cases hshown
      refine ⟨items, query, ?_, h.catalog_eq ▸ hview⟩
      rw [hid]
      exact List.mem_append_right _ List.mem_cons_self
    · exact h.queried_by _ hshown
  case fetching =>
    intro other fetch hfetch
    dsimp only at hfetch ⊢
    rw [Table.find?_erase] at hfetch
    split at hfetch
    · cases hfetch
    · rename_i hne
      rw [Table.find?_insert, if_neg hne]
      exact h.fetching hfetch
  case launched =>
    intro other key flight fallback started hcall
    left
    dsimp only at hcall ⊢
    by_cases hid : other = id
    · rw [hid, hentered] at hcall
      exact absurd (congrArg Cache.Call.point (Option.some.inj hcall)) enter_point_ne_computing
    · rw [Table.find?_erase, if_neg hid]
      exact h.has_fetch ((hother hid).symm.trans hcall)

/-- When a caller has just gone on, its fetch is all that may be due. -/
theorem Consistent.go_on (h : Consistent catalog past none library) (last : Event)
    {event : System.Event Report} {system : System σ Report}
    (hasked : ∀ {id key}, event ≠ .called id key)
    (hsystem : library.system.step event = some system) :
    Consistent catalog (past ++ [last]) event.caller { library with system } := by
  refine ⟨h.catalog_eq, h.called_before hsystem hasked, h.queried_by _, h.fetching, ?_⟩
  intro id key flight fallback started hcall
  rcases (System.step_transition hsystem).computing_from hcall with hbefore | hnew
  · exact .inl (h.has_fetch hbefore)
  · exact .inr hnew.1

/-- A step keeps together what belongs together. -/
theorem Consistent.step (h : Consistent catalog past none library)
    (hstep : library.Transition event next) :
    Consistent catalog (past ++ [event]) none next := by
  cases hstep with
  | queried hview hsystem => exact h.query hview hsystem
  | @fetching event fetcher hopened hfetcher =>
      refine ⟨h.catalog_eq, h.called, h.queried_by _, ?_, h.launched⟩
      intro id fetch hfetch
      obtain ⟨hlt, view, hview, hids⟩ := h.fetching hfetch
      refine ⟨hlt, view, hview, ?_⟩
      intro ids hnow
      have hbefore := (Fetcher.step_transition hfetcher).ids_from hnow
      exact hids (hbefore.resolve_right hopened)
  | fetched hfetch hresult hsystem =>
      refine ⟨h.catalog_eq, h.called_before hsystem nofun, h.queried_by _, h.fetching, ?_⟩
      intro id key flight fallback started hcall
      left
      rcases (System.step_transition hsystem).computing_from hcall with hbefore | hnew
      · exact h.has_fetch hbefore
      · obtain ⟨hcaller, hcomputed, -⟩ := hnew
        cases hcaller
        exact absurd rfl hcomputed
  | cached hasked _ hsystem => exact (h.go_on _ hasked hsystem).follow

/-- In every state that a run comes to, all belongs together. -/
theorem run_consistent {caching : Cache.Config} {fetching : Fetcher.Config} {store : σ}
    {now : Instant} {events : List Event} {finish : Library σ}
    (hrun : (ofConfig catalog caching fetching store now).run events = some finish) :
    Consistent catalog events none finish := by
  refine fold_history (fun past library => Consistent catalog past none library)
    (consistent_of_config ..) ?_ hrun
  intro past event library next _ _ h hstep
  exact h.step (step_transition hstep)

end Library

end GameLibrary
