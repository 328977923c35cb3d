import GameLibrary.Proofs.Library.Queries
import GameLibrary.Proofs.Library.Views

/-!
# Popularity belongs to the members of a view

A view is given the report that memory, the store, or another caller has for its key. The key tells
the set of the ids in the view, and whatever there is for a key has been fetched for a list of ids
with this key (`Library.Supplied`). So a view shows no report but one that was fetched for the very
items it shows, possibly in another order and with repetitions; and two queries for the same items
share what is in memory (`Library.run_membership`).
-/

namespace GameLibrary

namespace System

variable {σ ν : Type} [Backend σ] [Payload ν] {system : System σ ν} {id : CallId} {key : Key}

/-- Whoever has no call can ask for a key. -/
theorem step_called (hfree : system.cache.calls.find? id = none) :
    ∃ next, system.step (.called id key) = some next := by
  refine ⟨{ system with cache := system.cache.enter system.now id key }, ?_⟩
  unfold step onCache Cache.step
  dsimp only
  rw [hfree]
  rfl

/-- Before any call, and over a store that holds nothing, whatever there is for a key is recent. -/
theorem renewed_of_config [LawfulBackend σ] {fresh : ν → Prop} (config : Cache.Config) {store : σ}
    (now : Instant) (hempty : ∀ key, LawfulBackend.held store key = none) (key : Key) :
    Renewed config fresh key [] (⟨.ofConfig config, store, now, .empty⟩ : System σ ν) where
  orderly := Cache.Traffic.orderly_empty
  recorded := recorded_start config store now
  store hheld := by cases (hempty key).symm.trans hheld
  cache := by
    constructor
    case memory =>
      intro entry hfound
      cases (Cache.not_found_of_config config key).symm.trans hfound
    case brings => exact nofun
    case holds => exact nofun
    case outcomes => exact nofun

end System

namespace Library

open Cache (Recent)
open LawfulBackend (held)

variable {σ : Type} [Backend σ]

/-- The ids that are asked for with an event. -/
def Event.asks? (catalog : Catalog) : Event → Option (List String)
  | .queried _ items query => (View.ofQuery catalog items query).toOption.map View.ids
  | _ => none

/-- The lists of ids that are asked for with the events. -/
def asked (catalog : Catalog) (events : List Event) : List (List String) :=
  events.filterMap (Event.asks? catalog)

/-- In the course of the events there is a fetch for the ids that has given the report. -/
def Fetched (start : Library σ) (events : List Event) (ids : List String) (report : Report) :
    Prop :=
  ∃ past rest library id fetch, events = past ++ rest ∧ start.run past = some library ∧
    library.fetcher.fetches.find? id = some fetch ∧ fetch.ids = ids ∧
    fetch.result = some (.ok report)

/-- A report that was fetched for ids with the key which a query has asked for. -/
def FetchedFor (catalog : Catalog) (start : Library σ) (events : List Event) (key : Key)
    (report : Report) : Prop :=
  ∃ ids ∈ asked catalog events, Key.ofIds ids = key ∧ start.Fetched events ids report

/-- Popularity belongs to the members of a view, whatever has happened since the start. -/
structure KeepsMembership (catalog : Catalog) (start : Library σ) (events : List Event)
    (finish : Library σ) : Prop where
  /-- A report that is shown was fetched for the items of the view, or read back from the record of
  such a report. -/
  fetched : ∀ {id view resolved}, finish.shown? id = some view →
    view.popularity = some (.ok resolved) →
    ∃ ids, (∀ item, item ∈ ids ↔ item ∈ view.ids) ∧
      Recent (start.Fetched events ids) resolved.value
  /-- A fetch begins only if there is nothing live in memory for the items of its view. -/
  spared : ∀ {event next id view fetch}, finish.step event = some next →
    finish.fetches.find? id = none → next.fetches.find? id = some fetch →
    next.views.find? id = some view →
    finish.system.cache.tier1.live? finish.system.now view.key = none
  /-- A query for the same as another one, of which the report is live in memory, is answered from
  memory at once, and never begins a fetch. -/
  answered : ∀ {id items items' query query' other report},
    Rephrases catalog items' query' items query → View.ofQuery catalog items query = .ok other →
    finish.system.cache.tier1.live? finish.system.now other.key = some report →
    finish.system.cache.calls.find? id = none →
    ∃ next view, finish.step (.queried id items' query') = some next ∧
      next.shown? id = some view ∧ view.ids.Perm other.ids ∧
      view.popularity = some (.ok ⟨report, .tier1⟩) ∧ next.fetcher = finish.fetcher ∧
      ∀ {rest last}, next.run rest = some last →
        (∀ items query, .queried id items query ∉ rest) → last.fetches.find? id = none

variable {catalog : Catalog} {library next finish : Library σ} {event : Event}
  {past events : List Event} {id : CallId} {key : Key} {fresh : Report → Prop}
  {caching : Cache.Config}

omit [Backend σ] in
theorem mem_asked {items : List Item} {query : LibraryQuery} {view : View}
    (h : .queried id items query ∈ events) (hview : View.ofQuery catalog items query = .ok view) :
    view.ids ∈ asked catalog events := by
  refine List.mem_filterMap.2 ⟨_, h, ?_⟩
  show (View.ofQuery catalog items query).toOption.map View.ids = some view.ids
  rw [hview]
  rfl

omit [Backend σ] in
/-- A call has a fetch because it had it already, or the fetch was due. -/
theorem due_of_follow {caller : Option CallId} {fetch : Fetcher.FetchId}
    (h : (library.follow caller).fetches.find? id = some fetch) :
    library.fetches.find? id = some fetch ∨ ∃ view, library.due? id = some view := by
  cases caller with
  | none => exact .inl h
  | some caller =>
      unfold follow launch at h
      dsimp only at h
      split at h
      · rename_i view hdue
        dsimp only at h
        rw [Table.find?_insert] at h
        split at h
        · rename_i hid
          exact .inr ⟨view, hid ▸ hdue⟩
        · exact .inl h
      · exact .inl h

section Spared

/-- A fetch begins only if nothing is live in memory for its key. -/
theorem not_live_of_launched (h : Consistent catalog past none library)
    (hstep : library.step event = some next) (hnone : library.fetches.find? id = none)
    {fetch : Fetcher.FetchId} (hfetch : next.fetches.find? id = some fetch) {view : View}
    (hview : next.views.find? id = some view) :
    library.system.cache.tier1.live? library.system.now view.key = none := by
  cases step_transition hstep with
  | queried =>
      dsimp only at hfetch
      rw [Table.find?_erase, hnone, ite_self] at hfetch
      cases hfetch
  | fetching | fetched => cases hnone.symm.trans hfetch
  | @cached event system hcalled _ hsystem =>
      rcases due_of_follow hfetch with hbefore | ⟨due, hdue⟩
      · cases hnone.symm.trans hbefore
      · obtain ⟨-, -, key, flight, fallback, started, hcall⟩ := due_eq_some hdue
        have htransition := System.step_transition hsystem
        -- The call is for the key of its view, and has not computed before.
        obtain ⟨before, hbefore, -⟩ := htransition.call_before hcalled hcall
        obtain ⟨own, hown, hkey⟩ := h.called hbefore
        rw [views_follow] at hview
        cases hown.symm.trans hview
        rw [hkey]
        rcases htransition.computing_from hcall with hcomputing | ⟨-, -, hlive, -⟩
        · have hsome := h.has_fetch hcomputing
          rw [hnone] at hsome
          cases hsome
        · exact hlive

/-- The call is over, if there is one, and has begun no fetch. -/
structure Unfetched (library : Library σ) (id : CallId) : Prop where
  none_fetched : library.fetches.find? id = none
  closed : ∀ {call}, library.system.cache.calls.find? id = some call → call.point.stage = .returned

/-- A call that is over begins no fetch. -/
theorem Unfetched.step (h : library.Unfetched id) (hstep : library.Transition event next)
    (hother : ∀ {items query}, event ≠ .queried id items query) : next.Unfetched id := by
  have hover : ∀ {event system}, library.system.step event = some system →
      (∀ {key}, event ≠ .called id key) →
      ∀ {call}, system.cache.calls.find? id = some call → call.point.stage = .returned := by
    intro event system hsystem hcalled call hcall
    obtain ⟨key, point⟩ := call
    obtain ⟨before, hbefore, hsame⟩ :=
      (System.step_transition hsystem).call_before hcalled hcall
    have hreturned := h.closed hbefore
    rcases hsame with rfl | hopen
    · exact hreturned
    · exact absurd hreturned hopen
  cases hstep with
  | @queried asker _ _ _ _ _ hsystem =>
      have hne : asker ≠ id := by
        rintro rfl
        exact hother rfl
      refine ⟨?_, hover hsystem ?_⟩
      · dsimp only
        rw [Table.find?_erase, h.none_fetched, ite_self]
      · intro key heq
        cases heq
        exact hne rfl
  | fetching => exact ⟨h.none_fetched, h.closed⟩
  | fetched _ _ hsystem => exact ⟨h.none_fetched, hover hsystem nofun⟩
  | cached hcalled _ hsystem =>
      refine ⟨?_, ?_⟩
      · rw [Option.eq_none_iff_forall_ne_some]
        intro fetch hfetch
        rcases due_of_follow hfetch with hbefore | ⟨view, hdue⟩
        · cases h.none_fetched.symm.trans hbefore
        · obtain ⟨-, -, key, flight, fallback, started, hcall⟩ := due_eq_some hdue
          cases hover hsystem hcalled hcall
      · intro call hcall
        rw [system_follow] at hcall
        exact hover hsystem hcalled hcall

/-- A call that is over never begins a fetch. -/
theorem run_unfetched {start : Library σ} (hstart : start.Unfetched id)
    (hrun : start.run events = some finish)
    (hother : ∀ items query, .queried id items query ∉ events) : finish.Unfetched id := by
  refine fold_history (fun _ library => Unfetched library id) hstart ?_ hrun
  intro past event library next hwithin _ h hstep
  refine h.step (step_transition hstep) ?_
  intro items query heq
  have hmem := hwithin.subset (List.mem_append_right past List.mem_cons_self)
  exact hother items query (heq ▸ hmem)

/-- A query for the same as another one, of which the report is live in memory, is answered from
memory. -/
theorem step_queried_live {items items' : List Item} {query query' : LibraryQuery} {other : View}
    {report : Report} (hcatalog : library.catalog = catalog)
    (hsame : Rephrases catalog items' query' items query)
    (hother : View.ofQuery catalog items query = .ok other)
    (hlive : library.system.cache.tier1.live? library.system.now other.key = some report)
    (hfree : library.system.cache.calls.find? id = none) :
    ∃ next view, library.step (.queried id items' query') = some next ∧
      next.shown? id = some view ∧ view.ids.Perm other.ids ∧
      view.popularity = some (.ok ⟨report, .tier1⟩) ∧ next.fetcher = library.fetcher ∧
      next.Unfetched id := by
  subst hcatalog
  obtain ⟨view, hview, hids, hkey⟩ := View.of_query_rephrased hsame hother
  rw [← hkey] at hlive
  have hcalled : ∃ system, library.system.step (.called id view.key) = some system :=
    System.step_called hfree
  obtain ⟨system, hsystem⟩ := hcalled
  obtain ⟨-, hcall⟩ := System.find?_of_called hsystem
  unfold Cache.enterPoint at hcall
  rw [hlive] at hcall
  refine ⟨{ library with
      system
      views := library.views.insert id view
      fetches := library.fetches.erase id },
    { view with popularity := system.cache.outcome? id }, ?_, ?_, hids, ?_, rfl, ?_, ?_⟩
  · unfold step
    dsimp only
    rw [hview]
    dsimp only
    rw [hsystem]
    rfl
  · unfold shown?
    rw [Table.find?_insert, if_pos rfl]
    rfl
  · unfold Cache.outcome?
    dsimp only
    rw [hcall]
  · dsimp only
    rw [Table.find?_erase, if_pos rfl]
  · intro call hfound
    cases hcall.symm.trans hfound
    rfl

end Spared

section Supply

/-- What is recent because it was fetched for ids with the key of a list was fetched for the members
of the list. -/
theorem recent_of_key {start : Library σ} {ids : List String} {report : Report}
    (hfree : Key.CollisionFree (asked catalog events)) (hids : ids ∈ asked catalog events)
    (hrecent : Recent (FetchedFor catalog start events (Key.ofIds ids)) report) :
    ∃ others, (∀ item, item ∈ others ↔ item ∈ ids) ∧ Recent (start.Fetched events others) report := by
  rcases hrecent with ⟨others, hothers, hkey, hfetched⟩ | ⟨source, hsource, hread⟩
  · exact ⟨others, hfree.mem_iff hothers hids hkey, .inl hfetched⟩
  · obtain ⟨others, hothers, hkey, hfetched⟩ := hsource
    exact ⟨others, hfree.mem_iff hothers hids hkey, .inr ⟨source, hfetched, hread⟩⟩

variable [LawfulBackend σ]

/-- All that there is for the key is recent, and so is what those are given whose views have the
key. -/
def Supplied (caching : Cache.Config) (catalog : Catalog) (fresh : Report → Prop) (key : Key)
    (past : List Event) (library : Library σ) : Prop :=
  ∃ own, System.Renewed caching fresh key own library.system ∧
    ∀ {id items query view}, .queried id items query ∈ past →
      View.ofQuery catalog items query = .ok view → view.key = key → .called id key ∈ own

/-- If the fetches for the key give recent reports, there are no others for it. -/
theorem Supplied.step (h : Supplied caching catalog fresh key past library)
    (hconsistent : Consistent catalog past none library) (hstep : library.Transition event next)
    (hfetched : ∀ {id fetch view report}, event = .fetched id →
      library.fetches.find? id = some fetch →
      library.fetcher.result? fetch = some (.ok report) →
      library.views.find? id = some view → view.key = key → fresh report) :
    Supplied caching catalog fresh key (past ++ [event]) next := by
  obtain ⟨own, hrenewed, hasked⟩ := h
  -- Where no query comes in, those who have asked are the same.
  have hsame : (∀ {id items query}, event ≠ .queried id items query) → ∀ last,
      ∀ {id items query view}, .queried id items query ∈ past ++ [event] →
        View.ofQuery catalog items query = .ok view → view.key = key →
          .called id key ∈ own ++ last := by
    intro hother last id items query view hmem hview hkey
    rcases List.mem_append.1 hmem with hpast | hlast
    · exact List.mem_append_left last (hasked hpast hview hkey)
    · exact absurd (List.mem_singleton.1 hlast).symm hother
  cases hstep with
  | @queried asker items query own' system hown hsystem =>
      refine ⟨_, System.step_renewed hrenewed hsystem (by rintro _ _ _ _ _ ⟨⟩), ?_⟩
      intro id items' query' view hmem hview hkey
      rcases List.mem_append.1 hmem with hpast | hlast
      · exact List.mem_append_left _ (hasked hpast hview hkey)
      · cases List.mem_singleton.1 hlast
        rw [hconsistent.catalog_eq] at hown
        cases hown.symm.trans hview
        rw [hkey]
        exact List.mem_append_right own List.mem_cons_self
  | fetching =>
      refine ⟨own, hrenewed, ?_⟩
      intro id items query view hmem hview hkey
      simpa using hsame nofun [] hmem hview hkey
  | @fetched caller fetch result system hfetch hresult hsystem =>
      refine ⟨_, System.step_renewed hrenewed hsystem ?_, hsame nofun _⟩
      intro id flight fallback started report heq hcall
      cases heq
      obtain ⟨view, hview, hkey⟩ := hconsistent.called hcall
      exact hfetched rfl hfetch hresult hview hkey
  | @cached event system _ hcomputed hsystem =>
      refine ⟨own ++ [event], ?_, hsame nofun _⟩
      rw [system_follow]
      exact System.step_renewed hrenewed hsystem fun heq => absurd heq hcomputed

variable {store : σ} {now : Instant} {fetching : Fetcher.Config}

/-- All that there is for a key was fetched for ids with this key. -/
theorem run_supplied (hempty : ∀ key, held store key = none)
    (hrun : (ofConfig catalog caching fetching store now).run events = some finish) (key : Key) :
    Supplied caching catalog
      (FetchedFor catalog (ofConfig catalog caching fetching store now) events key) key events
      finish := by
  set start := ofConfig catalog caching fetching store now
  refine fold_history (fun past library =>
    Supplied caching catalog (FetchedFor catalog start events key) key past library) ?_ ?_ hrun
  · exact ⟨[], System.renewed_of_config caching now hempty key, nofun⟩
  · intro past event library next hwithin hpast h hstep
    have hconsistent : Consistent catalog past none library := run_consistent hpast
    refine h.step hconsistent (step_transition hstep) ?_
    intro id fetch view report _ hfetch hresult hview hkey
    obtain ⟨rest, hevents⟩ := hwithin
    obtain ⟨items, query, hqueried, hofQuery⟩ := hconsistent.queried hview
    obtain ⟨-, own, hown, hids⟩ := hconsistent.fetching hfetch
    cases hown.symm.trans hview
    obtain ⟨found, hfound, hreport⟩ := Option.bind_eq_some_iff.1 hresult
    have hfor : found.ids = view.ids := by
      apply hids
      unfold Fetcher.idsOf?
      rw [hfound, Option.map_some]
    have hmem : .queried id items query ∈ events := by
      rw [← hevents]
      exact List.mem_append_left rest (List.mem_append_left [event] hqueried)
    refine ⟨_, mem_asked hmem hofQuery, (View.key_of_query hofQuery).symm.trans hkey, past,
      [event] ++ rest, library, fetch, found, ?_, hpast, hfound, hfor, hreport⟩
    rw [← hevents, List.append_assoc]

/-- Over a store that holds nothing at first, and where the digest does not collide on what is asked
for, popularity belongs to the members of a view, in whatever way queries are interleaved and fetches
turn out. -/
theorem run_membership (hempty : ∀ key, held store key = none)
    (hfree : Key.CollisionFree (asked catalog events))
    (hrun : (ofConfig catalog caching fetching store now).run events = some finish) :
    KeepsMembership catalog (ofConfig catalog caching fetching store now) events finish := by
  have hconsistent := run_consistent hrun
  constructor
  case fetched =>
    intro id view resolved hshown hpopularity
    obtain ⟨plain, hplain, rfl⟩ := Option.map_eq_some_iff.1 hshown
    obtain ⟨items, query, hqueried, hofQuery⟩ := hconsistent.queried hplain
    have hcall : finish.system.cache.calls.find? id =
        some ⟨plain.key, .returned (.ok resolved)⟩ := by
      dsimp only at hpopularity
      unfold Cache.outcome? at hpopularity
      split at hpopularity
      · rename_i key outcome hcall
        cases hpopularity
        obtain ⟨own, hown, hkey⟩ := hconsistent.called hcall
        cases hown.symm.trans hplain
        rw [hcall, hkey]
      · cases hpopularity
    obtain ⟨own, hrenewed, hasked⟩ := run_supplied hempty hrun plain.key
    have hrecent := hrenewed.cache.holds (hasked hqueried hofQuery rfl) hcall resolved rfl
    rw [View.key_of_query hofQuery] at hrecent
    have hids : plain.ids ∈ asked catalog events := mem_asked hqueried hofQuery
    exact recent_of_key hfree hids hrecent
  case spared =>
    intro event next id view fetch hstep hnone hfetch hview
    exact not_live_of_launched hconsistent hstep hnone hfetch hview
  case answered =>
    intro id items items' query query' other report hsame hother hlive hcall
    obtain ⟨next, view, hstep, hshown, hids, hpopularity, hfetcher, hunfetched⟩ :=
      step_queried_live hconsistent.catalog_eq hsame hother hlive hcall
    refine ⟨next, view, hstep, hshown, hids, hpopularity, hfetcher, ?_⟩
    intro rest last hrest hasked
    exact (run_unfetched hunfetched hrest hasked).none_fetched

end Supply

section Examples

/-- Where the report that is shown for a call comes from. -/
def source? (library : Library σ) (id : CallId) : Option Cache.Source :=
  (library.shown? id).bind fun view =>
    match view.popularity with
    | some (.ok resolved) => some resolved.source
    | _ => none

/-- A catalog with one filter, for the items that are installed. -/
def installedOnly : Catalog where
  filters := [⟨"installed", "status", "Installed", fun item => .ok (.ok item.installed)⟩]
  distinct := by decide

/-- Two items, of which one is installed. -/
def twoItems : List Item :=
  [{ (default : Item) with id := "a", installed := true }, { (default : Item) with id := "b" }]

/-- What is installed is queried, with its popularity under one facet, and then queried again on the
list in another order. -/
def queriedTwice : List Event :=
  [.queried 0 twoItems ⟨default, ["installed"]⟩, .cached (.served 0), .cached (.answered 0),
    .fetching (.begun ⟨0, .trending⟩),
    .fetching (.answered ⟨0, .trending⟩ (.ok [⟨"a", 1, default⟩])), .fetched 0,
    .cached (.written 0), .queried 1 twoItems.reverse ⟨default, ["installed"]⟩]

/-- The first query is answered by a fetch, and the second one from memory. -/
theorem run_membership_reordered : ∃ finish,
    (ofConfig installedOnly {} { facets := [.trending] } ({} : MemoryStore) ⟨0⟩).run queriedTwice =
      some finish ∧
    finish.source? 0 = some .origin ∧ finish.source? 1 = some .tier1 ∧
    KeepsMembership installedOnly
      (ofConfig installedOnly {} { facets := [.trending] } ({} : MemoryStore) ⟨0⟩) queriedTwice
      finish := by
  have hsources : ((ofConfig installedOnly {} { facets := [.trending] } ({} : MemoryStore) ⟨0⟩).run
      queriedTwice).map (fun finish => (finish.source? 0, finish.source? 1)) =
        some (some .origin, some .tier1) := by decide +kernel
  obtain ⟨finish, hrun, hboth⟩ := Option.map_eq_some_iff.1 hsources
  obtain ⟨hfirst, hsecond⟩ := Prod.mk.inj hboth
  have hasked : asked installedOnly queriedTwice = [["a"], ["a"]] := by decide +kernel
  have hfree : Key.CollisionFree (asked installedOnly queriedTwice) := by
    rw [hasked]
    exact .of_mem_iff ["a"] (by unfold Key.Addressable; decide) (by simp)
  exact ⟨finish, hrun, hfirst, hsecond, run_membership (fun _ => rfl) hfree hrun⟩

end Examples

end Library

end GameLibrary
