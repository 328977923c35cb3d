import GameLibrary.Proofs.Fetch.Outcome
import GameLibrary.Proofs.Fetch.Points

/-!
# The courses of many fetches

As long as a fetch is open, its `Standing` says what is known of its facets; when it is over, it has
told them (`Tells`), and stays as it is. `Conducted` says so of all fetches of a fetcher side by side,
at a time that has not passed the deadline of any open fetch.
-/

namespace GameLibrary.Fetcher

variable {fetcher next : Fetcher} {now : Instant} {event : Event} {id other : FetchId}
  {fetch : Fetch} {config : Config} {ids : List String}

section Courses

/-- What a fetch tells of which some facets have succeeded. -/
structure Tells (config : Config) (requested : Nat) (succeeded : Facet → Prop)
    (outcome : Except Failure Report) : Prop where
  /-- One facet is enough for a report, in which nothing is missing that has succeeded. -/
  report : ∀ {facet}, succeeded facet → ∃ report, outcome = .ok report ∧
    report.Accounts config.facets succeeded requested
  /-- There is no other failure than that of all facets. -/
  failure : ∀ {failure}, outcome = .error failure → (∀ facet, ¬ succeeded facet) ∧
    failure = .originUnavailable (Facet.distinct config.facets).length

/-- The conclusion from what a fetch knows. -/
theorem Standing.tells {deadline : Instant} {succeeded busy : Facet → Prop} {fetch : Fetch}
    (h : Standing config.facets ids deadline succeeded busy fetch) :
    Tells config ids.length succeeded fetch.conclusion where
  report {facet} hsucceeded := by
    cases hconclusion : fetch.conclusion with
    | ok report => exact ⟨report, rfl, h.conclusion_ok hconclusion⟩
    | error failure => exact absurd hsucceeded ((h.conclusion_error.1 hconclusion).1 facet)
  failure hconclusion := h.conclusion_error.1 hconclusion

/-- A fetch that is in another state is still the same, and has not changed if it was over. -/
structure Fetch.Continues (fetch fetch' : Fetch) : Prop where
  ids_eq : fetch'.ids = fetch.ids
  deadline_eq : fetch'.deadline = fetch.deadline
  kept : ∀ {outcome}, fetch.result = some outcome → fetch' = fetch

/-- What is known of a fetch of which some facets have succeeded. -/
structure Course (config : Config) (fetcher : Fetcher) (id : FetchId) (succeeded : Facet → Prop)
    (fetch : Fetch) : Prop where
  standing : fetch.result = none →
    Standing config.facets fetch.ids fetch.deadline succeeded (fetcher.Busy id) fetch
  closed : ∀ {outcome}, fetch.result = some outcome →
    (∀ facet, ¬ fetcher.Busy id facet) ∧ Tells config fetch.ids.length succeeded outcome

variable {succeeded : Facet → Prop}

/-- A turn takes a fetch further in its course. -/
theorem Course.turn (h : Course config fetcher id succeeded fetch)
    (hturn : Turn fetcher next id fetch now event)
    (hfound : fetcher.fetches.find? id = some fetch) :
    ∃ fetch', next.fetches.find? id = some fetch' ∧ fetch.Continues fetch' ∧
      Course config next id (fun facet => succeeded facet ∨ fetcher.Succeeds ⟨id, facet⟩ event)
        fetch' := by
  cases hresult : fetch.result with
  | some outcome =>
      obtain ⟨hidle, htells⟩ := h.closed hresult
      obtain ⟨hfound', hidle', hnone⟩ := hturn.of_closed hfound hresult hidle
      have hsame : (fun facet => succeeded facet ∨ fetcher.Succeeds ⟨id, facet⟩ event) =
          succeeded := funext fun facet => propext (or_iff_left (hnone facet))
      rw [hsame]
      refine ⟨fetch, hfound', ⟨rfl, rfl, fun _ => rfl⟩, ?_, ?_⟩
      · intro hopen
        cases hresult.symm.trans hopen
      · intro outcome' hresult'
        cases hresult.symm.trans hresult'
        exact ⟨hidle', htells⟩
  | none =>
      obtain ⟨fetch', hfound', hstanding⟩ := (h.standing hresult).turn hturn hfound
      have hids := hstanding.ids_eq
      have hdeadline := hstanding.deadline_eq
      refine ⟨fetch', hfound', ⟨hids, hdeadline, fun heq => ?_⟩, ?_, ?_⟩
      · cases hresult.symm.trans heq
      · intro _
        rw [hids, hdeadline]
        exact hstanding
      · intro outcome hover
        obtain ⟨hidle, rfl⟩ := hstanding.closed hover
        rw [hids]
        exact ⟨hidle, hstanding.tells⟩

/-- A fetch begins its course with nothing told, unless there is nothing to ask for. -/
theorem course_opened (h : Orderly fetcher) (hnew : fetcher.fetches.find? id = none)
    (now : Instant) (ids : List String) :
    ∃ fetch, (fetcher.openFetch now id ids).fetches.find? id = some fetch ∧ fetch.ids = ids ∧
      fetch.deadline = now.after fetcher.config.deadline ∧
      Course fetcher.config (fetcher.openFetch now id ids) id (fun _ => False) fetch := by
  by_cases hsome : ids ≠ [] ∧ fetcher.config.facets ≠ []
  · have hopened : fetcher.step now (.opened id ids) = some (fetcher.openFetch now id ids) := by
      unfold step
      dsimp only
      rw [hnew]
    have hunderway := underway_opened h hsome.2 hsome.1 hopened
    exact ⟨_, hunderway.found, rfl, rfl, fun _ => hunderway.standing, nofun⟩
  · rw [open_fetch_of_nothing fetcher now id hsome]
    refine ⟨_, (Table.find?_insert ..).trans (if_pos rfl), rfl, rfl, nofun, ?_⟩
    intro outcome hresult
    cases hresult
    exact ⟨fun facet => Bool.eq_false_iff.1 (h.not_contains hnew facet),
      fun hfacet => hfacet.elim, nofun⟩

end Courses

section Conduct

variable {limit : FetchId} {succeeded : FetchId → Facet → Prop}

/-- All fetches take their course. They are numbered below a limit, and at the time none of them that
is open has passed its deadline. -/
structure Conducted (config : Config) (now : Instant) (limit : FetchId)
    (succeeded : FetchId → Facet → Prop) (fetcher : Fetcher) : Prop where
  config_eq : fetcher.config = config
  orderly : Orderly fetcher
  provided : Provided fetcher
  numbered : ∀ {id fetch}, fetcher.fetches.find? id = some fetch → id < limit
  course : ∀ {id fetch}, fetcher.fetches.find? id = some fetch →
    Course config fetcher id (succeeded id) fetch
  in_time : ∀ {id fetch}, fetcher.fetches.find? id = some fetch → fetch.result = none →
    now ≤ fetch.deadline
  /-- No facet succeeds of a fetch that has not begun. -/
  unheard : ∀ {id facet}, limit ≤ id → ¬ succeeded id facet

theorem conducted_of_config (config : Config) (now : Instant) :
    Conducted config now 0 (fun _ _ => False) (ofConfig config) where
  config_eq := rfl
  orderly := orderly_of_config config
  provided := nofun
  numbered := nofun
  course := nofun
  in_time := nofun
  unheard _ := not_false

/-- What has happened to a fetch since it began. -/
theorem Conducted.continues (h : Conducted config now limit succeeded fetcher)
    (hstep : fetcher.Transition now event next)
    (hfound : fetcher.fetches.find? id = some fetch) (hkept : event ≠ .dropped id) :
    ∃ fetch', next.fetches.find? id = some fetch' ∧ fetch.Continues fetch' ∧
      Course config next id
        (fun facet => succeeded id facet ∨ fetcher.Succeeds ⟨id, facet⟩ event) fetch' := by
  have hids := Provided.ids_ne_nil h.provided hfound
  exact (h.course hfound).turn (hstep.turn h.orderly hfound hids hkept) hfound

/-- A facet succeeds of a fetch that has begun. -/
theorem Conducted.lt_of_succeeds (h : Conducted config now limit succeeded fetcher)
    {facet : Facet} (hsucceeds : fetcher.Succeeds ⟨id, facet⟩ event) : id < limit := by
  obtain ⟨fetch, hfound⟩ :=
    Option.isSome_iff_exists.1 (h.orderly.housed (busy_of_succeeds hsucceeds))
  exact h.numbered hfound

/-- The fetches take their course with every step. -/
theorem Conducted.step (h : Conducted config now limit succeeded fetcher)
    (hstep : fetcher.Transition now event next) (hopened : ∀ {id ids}, event ≠ .opened id ids) :
    Conducted config now limit
      (fun id facet => succeeded id facet ∨ fetcher.Succeeds ⟨id, facet⟩ event) next := by
  have hbefore : ∀ {id fetch'}, next.fetches.find? id = some fetch' →
      ∃ fetch, fetcher.fetches.find? id = some fetch ∧ fetch.Continues fetch' ∧ Course config next
        id (fun facet => succeeded id facet ∨ fetcher.Succeeds ⟨id, facet⟩ event) fetch' := by
    intro id fetch' hfound'
    rcases hstep.fetch_from hfound' with ⟨fetch, hfound⟩ | ⟨_, heq⟩
    · obtain ⟨after, hafter, hcontinues⟩ := h.continues hstep hfound (hstep.fetch_kept hfound')
      cases hafter.symm.trans hfound'
      exact ⟨fetch, hfound, hcontinues⟩
    · exact absurd heq hopened
  refine ⟨hstep.config_eq.trans h.config_eq, hstep.orderly h.orderly,
    hstep.provided h.orderly h.provided, ?_, ?_, ?_, ?_⟩
  · intro id fetch' hfound'
    obtain ⟨fetch, hfound, -⟩ := hbefore hfound'
    exact h.numbered hfound
  · intro id fetch' hfound'
    obtain ⟨-, -, -, hcourse⟩ := hbefore hfound'
    exact hcourse
  · intro id fetch' hfound' hopen
    obtain ⟨fetch, hfound, hcontinues, -⟩ := hbefore hfound'
    have hopen' : fetch.result = none := by
      cases hresult : fetch.result with
      | none => rfl
      | some outcome =>
          rw [hcontinues.kept hresult, hresult] at hopen
          cases hopen
    rw [hcontinues.deadline_eq]
    exact h.in_time hfound hopen'
  · intro id facet hid hsucceeded
    rcases hsucceeded with hyet | hnow
    · exact h.unheard hid hyet
    · exact Nat.not_le_of_lt (h.lt_of_succeeds hnow) hid

/-- A fetch begins its course beside the others. -/
theorem Conducted.open_fetch (h : Conducted config now limit succeeded fetcher)
    (ids : List String) :
    Conducted config now (limit + 1) succeeded (fetcher.openFetch now limit ids) ∧
      ∃ fetch, (fetcher.openFetch now limit ids).fetches.find? limit = some fetch ∧
        fetch.ids = ids ∧ fetch.deadline = now.after config.deadline := by
  have hnew : fetcher.fetches.find? limit = none := by
    rw [Option.eq_none_iff_forall_ne_some]
    exact fun fetch hfound => Nat.lt_irrefl limit (h.numbered hfound)
  have hstep : fetcher.Transition now (.opened limit ids) (fetcher.openFetch now limit ids) :=
    .opened hnew
  obtain ⟨opened, hopened, hids, hdeadline, hcourse⟩ := course_opened h.orderly hnew now ids
  rw [h.config_eq] at hdeadline hcourse
  -- The other fetches are as before.
  have hspares : ∀ other, other ≠ limit →
      Spares fetcher (fetcher.openFetch now limit ids) other := (h.orderly.open_fetch hnew ids).2
  have hothers : ∀ {id fetch}, (fetcher.openFetch now limit ids).fetches.find? id = some fetch →
      id ≠ limit → fetcher.fetches.find? id = some fetch := by
    intro id fetch hfound hne
    exact (hspares id hne).fetch_eq.symm.trans hfound
  refine ⟨⟨hstep.config_eq.trans h.config_eq, hstep.orderly h.orderly,
    hstep.provided h.orderly h.provided, ?_, ?_, ?_, ?_⟩, opened, hopened, hids, hdeadline⟩
  · intro id fetch hfound
    by_cases hid : id = limit
    · exact hid ▸ Nat.lt_succ_self limit
    · exact Nat.lt_succ_of_lt (h.numbered (hothers hfound hid))
  · intro id fetch hfound
    by_cases hid : id = limit
    · subst hid
      cases hopened.symm.trans hfound
      have hnone : succeeded id = fun _ => False :=
        funext fun facet => propext (iff_of_false (h.unheard (Nat.le_refl id)) not_false)
      rw [hnone]
      exact hcourse
    · have hbefore := h.course (hothers hfound hid)
      have hsame : (fetcher.openFetch now limit ids).Busy id = fetcher.Busy id :=
        funext fun facet => propext ((hspares id hid).busy_iff facet)
      refine ⟨?_, ?_⟩
      · rw [hsame]
        exact hbefore.standing
      · rw [hsame]
        exact hbefore.closed
  · intro id fetch hfound hopen
    by_cases hid : id = limit
    · subst hid
      cases hopened.symm.trans hfound
      rw [hdeadline]
      exact Nat.le_add_right ..
    · exact h.in_time (hothers hfound hid) hopen
  · intro id facet hid
    exact h.unheard (Nat.le_of_succ_le hid)

/-- Time may pass up to the deadlines of the open fetches. -/
theorem Conducted.wait (h : Conducted config now limit succeeded fetcher) {later : Instant}
    (hlater : ∀ id, ¬ fetcher.Overdue (.expired id) later) :
    Conducted config later limit succeeded fetcher :=
  { h with
    in_time := by
      intro id fetch hfound hopen
      by_contra hlate
      exact hlater id ⟨fetch.deadline, rings_expired.2 ⟨fetch, hfound, hopen, rfl⟩,
        Nat.lt_of_not_le hlate⟩ }

end Conduct

end GameLibrary.Fetcher
