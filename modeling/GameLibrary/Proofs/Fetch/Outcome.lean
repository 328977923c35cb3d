import GameLibrary.Proofs.Fetch.Turns

/-!
# What a fetch comes to

A facet that is asked for is pending until its task has told a result; then it has a ranking, or has
failed. A task that breaks down leaves its facet pending, and what is pending at the end has failed
as well. `Standing` says what is known about the facets of a fetch at any time, and `run_fetch` what
its result tells: which facets have succeeded, which have not, and that no facet is lost or told
twice, in whatever order the tasks come to their ends, and wherever the deadline falls between them.
-/

namespace GameLibrary.Fetcher

variable {fetcher next : Fetcher} {now : Instant} {event : Event} {id : FetchId} {fetch : Fetch}

/-- What is known of the facets of a fetch, of which some have succeeded and some are busy. -/
structure Standing (facets : List Facet) (ids : List String) (deadline : Instant)
    (succeeded busy : Facet → Prop) (fetch : Fetch) : Prop where
  attempted_eq : fetch.attempted = Facet.distinct facets
  ids_eq : fetch.ids = ids
  requested_eq : fetch.report.requested = ids.length
  deadline_eq : fetch.deadline = deadline
  /-- A facet that is asked for is pending, has failed, or has succeeded. -/
  known : ∀ facet, facet ∈ facets ↔
    facet ∈ fetch.pending ∨ facet ∈ fetch.report.failed ∨ succeeded facet
  ranked : ∀ facet, (fetch.report.rankings facet).isSome = true ↔ succeeded facet
  pending : ∀ {facet}, facet ∈ fetch.pending → facet ∉ fetch.report.failed ∧ ¬ succeeded facet
  failed : ∀ {facet}, facet ∈ fetch.report.failed → ¬ succeeded facet
  distinct : fetch.pending.Nodup
  /-- What is not over for a facet is pending. -/
  asked : ∀ {facet}, busy facet → facet ∈ fetch.pending
  /-- A fetch with a result has no tasks, and the result is the conclusion from what it knows. -/
  closed : ∀ {result}, fetch.result = some result →
    (∀ facet, ¬ busy facet) ∧ result = fetch.conclusion

namespace Standing

variable {facets : List Facet} {ids : List String} {deadline : Instant}
  {succeeded succeeded' busy busy' : Facet → Prop}

/-- A fetch that begins. -/
theorem new (fetcher : Fetcher) (now : Instant) (ids : List String)
    (hbusy : ∀ facet, busy facet → facet ∈ fetcher.config.facets) :
    Standing fetcher.config.facets ids (now.after fetcher.config.deadline) (fun _ => False) busy
      (fetcher.newFetch now ids) where
  attempted_eq := rfl
  ids_eq := rfl
  requested_eq := rfl
  deadline_eq := rfl
  known facet := by simp [newFetch, Report.empty, Facet.mem_distinct]
  ranked facet := by simp [newFetch, Report.empty]
  pending hmem := by simp [newFetch, Report.empty]
  failed hmem := by cases hmem
  distinct := Facet.nodup_distinct _
  asked hfacet := (Facet.mem_distinct _).2 (hbusy _ hfacet)
  closed hresult := by cases hresult

/-- It does not matter how the facets that are busy or have succeeded are described. -/
theorem congr (h : Standing facets ids deadline succeeded busy fetch)
    (hsucceeded : ∀ facet, succeeded' facet ↔ succeeded facet)
    (hbusy : ∀ facet, busy' facet ↔ busy facet) :
    Standing facets ids deadline succeeded' busy' fetch := by
  have hsame : succeeded' = succeeded := funext fun facet => propext (hsucceeded facet)
  have hsame' : busy' = busy := funext fun facet => propext (hbusy facet)
  rw [hsame, hsame']
  exact h

/-- A facet that is busy has a fetch without result. -/
theorem result_eq_none (h : Standing facets ids deadline succeeded busy fetch) {facet : Facet}
    (hbusy : busy facet) : fetch.result = none := by
  cases hresult : fetch.result with
  | none => rfl
  | some result => exact absurd hbusy ((h.closed hresult).1 facet)

/-- With fewer tasks a fetch stands as before. -/
theorem fewer (h : Standing facets ids deadline succeeded busy fetch)
    (hbusy : ∀ facet, busy' facet → busy facet) :
    Standing facets ids deadline succeeded busy' fetch :=
  { h with
    asked := fun hfacet => h.asked (hbusy _ hfacet)
    closed := fun hresult =>
      ⟨fun facet hfacet => (h.closed hresult).1 facet (hbusy facet hfacet), (h.closed hresult).2⟩ }

/-- A result closes a fetch that has no tasks. -/
theorem close (h : Standing facets ids deadline succeeded busy fetch)
    (hidle : ∀ facet, ¬ busy facet) :
    Standing facets ids deadline succeeded busy { fetch with result := some fetch.conclusion } :=
  { h with closed := fun hresult => ⟨hidle, (Option.some.inj hresult).symm⟩ }

theorem settled (h : Standing facets ids deadline succeeded (fetcher.Busy id) fetch) :
    Standing facets ids deadline succeeded (fetcher.Busy id) (fetcher.settled id fetch) := by
  unfold Fetcher.settled
  split
  · rename_i hdone
    exact h.close (tasks_of_is_empty.1 hdone)
  · exact h

section Told

variable {facet : Facet} (h : Standing facets ids deadline succeeded busy fetch)
  (hfacet : busy facet) (hbusy : ∀ other, busy' other ↔ other ≠ facet ∧ busy other)
include h hfacet hbusy

/-- A facet that has a ranking is not pending any more. -/
theorem told_ok (ranking : Ranking)
    (hsucceeded : ∀ other, succeeded' other ↔ succeeded other ∨ other = facet) :
    Standing facets ids deadline succeeded' busy' (fetch.record facet (.ok ranking)) where
  attempted_eq := h.attempted_eq
  ids_eq := h.ids_eq
  requested_eq := h.requested_eq
  deadline_eq := h.deadline_eq
  known other := by
    show _ ↔ other ∈ fetch.pending.erase facet ∨ other ∈ fetch.report.failed ∨ _
    rw [h.known, h.distinct.mem_erase_iff, hsucceeded]
    by_cases hother : other = facet
    · simp [hother, h.asked hfacet]
    · simp [hother]
  ranked other := by
    show (if other = facet then some ranking else fetch.report.rankings other).isSome = true ↔ _
    rw [hsucceeded, ← h.ranked]
    by_cases hother : other = facet <;> simp [hother]
  pending {other} hother := by
    obtain ⟨hne, hother⟩ := h.distinct.mem_erase_iff.1 hother
    rw [hsucceeded, not_or]
    exact ⟨(h.pending hother).1, (h.pending hother).2, hne⟩
  failed {other} hother := by
    rw [hsucceeded, not_or]
    refine ⟨h.failed hother, ?_⟩
    rintro rfl
    exact (h.pending (h.asked hfacet)).1 hother
  distinct := h.distinct.erase facet
  asked {other} hother := by
    obtain ⟨hne, hother⟩ := (hbusy other).1 hother
    exact h.distinct.mem_erase_iff.2 ⟨hne, h.asked hother⟩
  closed hresult := by cases (h.result_eq_none hfacet).symm.trans hresult

/-- A facet that has failed is not pending any more. -/
theorem told_error (failure : Failure)
    (hsucceeded : ∀ other, succeeded' other ↔ succeeded other) :
    Standing facets ids deadline succeeded' busy' (fetch.record facet (.error failure)) where
  attempted_eq := h.attempted_eq
  ids_eq := h.ids_eq
  requested_eq := h.requested_eq
  deadline_eq := h.deadline_eq
  known other := by
    show _ ↔ other ∈ fetch.pending.erase facet ∨ other ∈ fetch.report.failed ++ [facet] ∨ _
    rw [h.known, h.distinct.mem_erase_iff, hsucceeded, List.mem_append, List.mem_singleton]
    by_cases hother : other = facet
    · simp [hother, h.asked hfacet]
    · simp [hother]
  ranked other := by
    rw [hsucceeded]
    exact h.ranked other
  pending {other} hother := by
    obtain ⟨hne, hother⟩ := h.distinct.mem_erase_iff.1 hother
    obtain ⟨hnot, hyet⟩ := h.pending hother
    rw [hsucceeded]
    refine ⟨fun hmem => ?_, hyet⟩
    rcases List.mem_append.1 hmem with hmem | hmem
    · exact hnot hmem
    · exact hne (List.mem_singleton.1 hmem)
  failed {other} hother := by
    rw [hsucceeded]
    rcases List.mem_append.1 hother with hother | hother
    · exact h.failed hother
    · rw [List.mem_singleton.1 hother]
      exact (h.pending (h.asked hfacet)).2
  distinct := h.distinct.erase facet
  asked {other} hother := by
    obtain ⟨hne, hother⟩ := (hbusy other).1 hother
    exact h.distinct.mem_erase_iff.2 ⟨hne, h.asked hother⟩
  closed hresult := by cases (h.result_eq_none hfacet).symm.trans hresult

end Told

/-- What a fetch knows holds after its turn. -/
theorem turn (h : Standing facets ids deadline succeeded (fetcher.Busy id) fetch)
    (hturn : Turn fetcher next id fetch now event)
    (hfound : fetcher.fetches.find? id = some fetch) :
    ∃ fetch', next.fetches.find? id = some fetch' ∧ Standing facets ids deadline
      (fun facet => succeeded facet ∨ fetcher.Succeeds ⟨id, facet⟩ event) (next.Busy id)
      fetch' := by
  cases hturn with
  | aside hspares hnone =>
      refine ⟨fetch, hspares.fetch_eq.trans hfound, h.congr (fun facet => ?_) hspares.busy_iff⟩
      exact or_iff_left (hnone facet)
  | @told facet result hfacet hbusy hfetch hsucceeds =>
      refine ⟨_, hfetch, settled ?_⟩
      cases result with
      | ok ranking =>
          refine h.told_ok hfacet hbusy ranking fun other => or_congr_right ?_
          simp [hsucceeds]
      | error failure =>
          refine h.told_error hfacet hbusy failure fun other => or_iff_left ?_
          simp [hsucceeds]
  | broken hfacet hbusy hfetch hnone =>
      have hfewer := h.fewer fun other hother => ((hbusy other).1 hother).2
      refine ⟨_, hfetch, settled (hfewer.congr (fun facet => ?_) fun other => Iff.rfl)⟩
      exact or_iff_left (hnone facet)
  | cut hopen hover hidle hfetch hnone =>
      have hfewer := h.fewer fun facet hfacet => absurd hfacet (hidle facet)
      refine ⟨_, hfetch, (hfewer.close hidle).congr (fun facet => ?_) fun other => Iff.rfl⟩
      exact or_iff_left (hnone facet)

/-- Facets that are pending at the end have failed as well. -/
theorem mem_failed (h : Standing facets ids deadline succeeded busy fetch) (facet : Facet) :
    facet ∈ Facet.distinct (fetch.report.failed ++ fetch.pending) ↔
      facet ∈ facets ∧ ¬ succeeded facet := by
  rw [Facet.mem_distinct, List.mem_append, h.known]
  constructor
  · rintro (hfailed | hpending)
    · exact ⟨.inr (.inl hfailed), h.failed hfailed⟩
    · exact ⟨.inl hpending, (h.pending hpending).2⟩
  · rintro ⟨hpending | hfailed | hsucceeded, hnot⟩
    · exact .inr hpending
    · exact .inl hfailed
    · exact absurd hsucceeded hnot

/-- A fetch fails if no facet has succeeded. -/
theorem conclusion_error (h : Standing facets ids deadline succeeded busy fetch)
    {failure : Failure} :
    fetch.conclusion = .error failure ↔
      (∀ facet, ¬ succeeded facet) ∧
        failure = .originUnavailable (Facet.distinct facets).length := by
  have hnone : (Report.succeeded { fetch.report with
      failed := Facet.distinct (fetch.report.failed ++ fetch.pending) }).isEmpty = true ↔
      ∀ facet, ¬ succeeded facet := by
    rw [List.isEmpty_iff, List.eq_nil_iff_forall_not_mem]
    refine forall_congr' fun facet => not_congr ?_
    exact Report.mem_succeeded.trans (h.ranked facet)
  unfold Fetch.conclusion
  dsimp only
  split
  · rename_i hempty
    rw [h.attempted_eq, Except.error.injEq, eq_comm]
    exact (and_iff_right (hnone.1 hempty)).symm
  · rename_i hempty
    refine ⟨?_, fun hfail => absurd (hnone.2 hfail.1) hempty⟩
    rintro ⟨⟩

/-- The report of a fetch accounts for its facets. -/
theorem conclusion_ok (h : Standing facets ids deadline succeeded busy fetch) {report : Report}
    (hreport : fetch.conclusion = .ok report) : report.Accounts facets succeeded ids.length := by
  unfold Fetch.conclusion at hreport
  dsimp only at hreport
  split at hreport
  · cases hreport
  · cases hreport
    constructor
    case covered =>
      intro facet
      show _ ↔ (fetch.report.rankings facet).isSome = true ∨
        facet ∈ Facet.distinct (fetch.report.failed ++ fetch.pending)
      rw [h.mem_failed, h.ranked]
      have hasked : succeeded facet → facet ∈ facets :=
        fun hsucceeded => (h.known facet).2 (.inr (.inr hsucceeded))
      tauto
    case disjoint =>
      intro facet hranked hfailed
      exact ((h.mem_failed facet).1 hfailed).2 ((h.ranked facet).1 hranked)
    case ascending => exact Facet.pairwise_distinct _
    case ranked => exact h.ranked
    case requested_eq => exact h.requested_eq
    case complete =>
      show (Facet.distinct (fetch.report.failed ++ fetch.pending)).isEmpty = true ↔ _
      rw [List.isEmpty_iff, List.eq_nil_iff_forall_not_mem]
      refine forall_congr' fun facet => ?_
      rw [h.mem_failed]
      tauto

end Standing

section Runs

/-- In the course of a run the task has the answer to its last call at a moment. -/
def SucceedsIn (fetcher : Fetcher) (events : List (Instant × Event)) (task : TaskId)
    (moment : Instant) : Prop :=
  Happens stepAt fetcher events fun state event => event.1 = moment ∧ state.Succeeds task event.2

/-- In the course of a run the task of the fetch for a facet has the answer to its last call. -/
def HasSucceeded (fetcher : Fetcher) (events : List (Instant × Event)) (id : FetchId)
    (facet : Facet) : Prop :=
  ∃ moment, fetcher.SucceedsIn events ⟨id, facet⟩ moment

/-- A task that has the answer to its last call is there. -/
theorem busy_of_succeeds {facet : Facet} (hsucceeds : fetcher.Succeeds ⟨id, facet⟩ event) :
    fetcher.Busy id facet := by
  cases event with
  | answered task result =>
      cases result with
      | ok items =>
          obtain ⟨-, answers, batch, since, hcalling⟩ := hsucceeds
          exact Table.contains_of_find? hcalling
      | error failure => cases hsucceeds
  | opened | begun | resumed | timedOut | crashed | expired | dropped => cases hsucceeds

/-- At any time of a fetch that is not given up the tasks are in order, and it is known which of its
facets have succeeded. -/
structure Underway (fetcher : Fetcher) (id : FetchId) (facets : List Facet) (ids : List String)
    (deadline : Instant) (succeeded : Facet → Prop) (fetch : Fetch) : Prop where
  orderly : Orderly fetcher
  found : fetcher.fetches.find? id = some fetch
  standing : Standing facets ids deadline succeeded (fetcher.Busy id) fetch

variable {start finish : Fetcher} {events : List (Instant × Event)} {facets : List Facet}
  {ids : List String} {deadline : Instant}

/-- A step of the fetcher leaves a fetch under way. -/
theorem Underway.step {succeeded : Facet → Prop}
    (h : fetcher.Underway id facets ids deadline succeeded fetch) (hids : ids ≠ [])
    (hevent : event ≠ .dropped id) (hstep : fetcher.step now event = some next) :
    ∃ fetch, next.Underway id facets ids deadline
      (fun facet => succeeded facet ∨ fetcher.Succeeds ⟨id, facet⟩ event) fetch := by
  have htransition := step_transition hstep
  obtain ⟨fetch', hfound, hstanding⟩ := h.standing.turn
    (htransition.turn h.orderly h.found (fun _ _ => h.standing.ids_eq ▸ hids) hevent) h.found
  exact ⟨fetch', htransition.orderly h.orderly, hfound, hstanding⟩

/-- What is known of a fetch is known after every run. -/
theorem run_underway (hids : ids ≠ []) (hkept : ∀ now, (now, .dropped id) ∉ events)
    (hstart : start.Underway id facets ids deadline (fun _ => False) fetch)
    (hrun : start.run events = some finish) :
    ∃ fetch, finish.Underway id facets ids deadline (start.HasSucceeded events id) fetch := by
  refine fold_history (fun past state => ∃ fetch, state.Underway id facets ids deadline
    (start.HasSucceeded past id) fetch) ?_ ?_ hrun
  · refine ⟨fetch, hstart.orderly, hstart.found, hstart.standing.congr (fun facet => ?_)
      fun _ => Iff.rfl⟩
    exact iff_of_false (fun ⟨_, hnone⟩ => not_happens_nil hnone) not_false
  · rintro past ⟨now, event⟩ state next hwithin hpast ⟨fetch, h⟩ hstep
    have hevent : event ≠ .dropped id := by
      rintro rfl
      exact hkept now (hwithin.subset (List.mem_append_right _ List.mem_cons_self))
    obtain ⟨fetch', h'⟩ := h.step hids hevent hstep
    refine ⟨fetch', h'.orderly, h'.found, h'.standing.congr (fun facet => ?_) fun _ => Iff.rfl⟩
    unfold HasSucceeded SucceedsIn
    simp only [happens_concat hpast hstep, exists_or, exists_and_right, exists_eq', true_and]

/-- Nothing happens to a fetch any more once it has its result. -/
theorem run_closed {succeeded : Facet → Prop} {outcome : Except Failure Report} (hids : ids ≠ [])
    (hkept : ∀ now, (now, .dropped id) ∉ events)
    (hstart : start.Underway id facets ids deadline succeeded fetch)
    (hresult : fetch.result = some outcome) (hrun : start.run events = some finish)
    (facet : Facet) (moment : Instant) : ¬ start.SucceedsIn events ⟨id, facet⟩ moment := by
  have hids : fetch.ids ≠ [] := hstart.standing.ids_eq ▸ hids
  refine (fold_history (fun past state => Orderly state ∧ state.fetches.find? id = some fetch ∧
    (∀ facet, ¬ state.Busy id facet) ∧ ¬ start.SucceedsIn past ⟨id, facet⟩ moment) ?_ ?_ hrun).2.2.2
  · exact ⟨hstart.orderly, hstart.found, (hstart.standing.closed hresult).1, not_happens_nil⟩
  · rintro past ⟨now, event⟩ state next hwithin hpast ⟨horderly, hfound, hidle, hnone⟩ hstep
    have htransition := step_transition hstep
    have hevent : event ≠ .dropped id := by
      rintro rfl
      exact hkept now (hwithin.subset (List.mem_append_right _ List.mem_cons_self))
    obtain ⟨hfound', hidle', hnot⟩ :=
      (htransition.turn horderly hfound (fun _ _ => hids) hevent).of_closed hfound hresult hidle
    refine ⟨htransition.orderly horderly, hfound', hidle', ?_⟩
    intro hsucceeds
    rcases (happens_concat hpast hstep).1 hsucceeds with hbefore | ⟨-, hnow⟩
    · exact hnone hbefore
    · exact hnot facet hnow

/-- No facet succeeds from the end of its time on. -/
theorem run_expired {succeeded : Facet → Prop} (hids : ids ≠ [])
    (hkept : ∀ moment, (moment, .dropped id) ∉ (now, .expired id) :: events)
    (hstart : start.Underway id facets ids deadline succeeded fetch)
    (hrun : start.run ((now, .expired id) :: events) = some finish)
    (facet : Facet) (moment : Instant) :
    ¬ start.SucceedsIn ((now, .expired id) :: events) ⟨id, facet⟩ moment := by
  obtain ⟨middle, hexpired, hrest⟩ := fold_cons.1 hrun
  obtain ⟨fetch', hmiddle⟩ := hstart.step hids (by rintro ⟨⟩) hexpired
  have hover : fetch'.result.isSome = true := by
    have hfound := hmiddle.found
    cases step_transition hexpired with
    | expired hlate =>
        rw [find?_of_expiry hstart.orderly hlate, Option.some.injEq] at hfound
        rw [← hfound]
        rfl
  obtain ⟨outcome, houtcome⟩ := Option.isSome_iff_exists.1 hover
  have hnone := run_closed hids (fun moment hmem => hkept moment (List.mem_cons_of_mem _ hmem))
    hmiddle houtcome hrest facet moment
  intro hsucceeds
  rcases (happens_cons hexpired).1 hsucceeds with ⟨-, hnow⟩ | hlater
  · cases hnow
  · exact hnone hlater

/-- A fetch with facets and ids that begins is under way. -/
theorem underway_opened (h : Orderly start) {now : Instant} (hfacets : start.config.facets ≠ [])
    (hids : ids ≠ []) (hopened : start.step now (.opened id ids) = some finish) :
    finish.Underway id start.config.facets ids (now.after start.config.deadline) (fun _ => False)
      (start.newFetch now ids) := by
  cases step_transition hopened with
  | opened hnew =>
      obtain ⟨horderly, hfetches, hcontains⟩ := h.open_tasks now hnew hids hfacets
      refine ⟨horderly, (hfetches id).trans (if_pos rfl), .new start now ids fun facet hfacet => ?_⟩
      rcases (hcontains ⟨id, facet⟩).1 hfacet with ⟨-, hasked⟩ | hthere
      · exact hasked
      · exact absurd hthere (Bool.eq_false_iff.1 (h.not_contains hnew facet))

/-- What a fetch comes to that began before a run and is not given up in its course. -/
structure Concludes (config : Config) (opened : Fetcher) (events : List (Instant × Event))
    (finish : Fetcher) (id : FetchId) (requested : Nat) (deadline : Instant) : Prop where
  /-- Once its deadline has passed, the fetch is over or can be ended. -/
  ends : finish.result? id = none → ∀ {now}, deadline ≤ now → ∃ next,
    finish.step now (.expired id) = some next ∧ (next.result? id).isSome = true
  /-- A report accounts for the facets that have succeeded. -/
  report : ∀ {report}, finish.result? id = some (.ok report) →
    report.Accounts config.facets (opened.HasSucceeded events id) requested
  /-- There is no other failure than that of all facets, and the fetch fails if and only if no facet
  has succeeded. -/
  failure : ∀ {outcome}, finish.result? id = some outcome → ∀ failure, outcome = .error failure ↔
    (∀ facet, ¬ opened.HasSucceeded events id facet) ∧
      failure = .originUnavailable (Facet.distinct config.facets).length
  /-- What happens after the end of its time does not count. -/
  expired : ∀ {past now rest}, events = past ++ (now, .expired id) :: rest → ∀ {facet moment},
    opened.SucceedsIn events ⟨id, facet⟩ moment → opened.SucceedsIn past ⟨id, facet⟩ moment
  /-- If its timer does not go off late, no facet succeeds after the deadline. -/
  punctual : opened.Punctual events (.expired id) → ∀ {facet moment},
    opened.SucceedsIn events ⟨id, facet⟩ moment → moment ≤ deadline

/-- A fetch for some ids and facets comes to its conclusion, whatever the fetcher has done before
and whatever happens in its course, unless it is given up. -/
theorem run_fetch {config : Config} {before between : List (Instant × Event)}
    {first second finish : Fetcher} {time : Instant} {id : FetchId} {ids : List String}
    (hfacets : config.facets ≠ []) (hids : ids ≠ [])
    (hbefore : (ofConfig config).run before = some first)
    (hopened : first.step time (.opened id ids) = some second)
    (hbetween : second.run between = some finish)
    (hkept : ∀ now, (now, .dropped id) ∉ between) :
    Concludes config second between finish id ids.length (time.after config.deadline) := by
  have horderly : Orderly first := fold_invariant _
    (fun horderly hstep => (step_transition hstep).orderly horderly) (orderly_of_config config)
    hbefore
  have hconfig : first.config = config := fold_invariant (fun state => state.config = config)
    (fun hconfig hstep => (step_transition hstep).config_eq.trans hconfig) rfl hbefore
  have hstart := underway_opened horderly (hconfig ▸ hfacets) hids hopened
  rw [hconfig] at hstart
  obtain ⟨fetch, hlast⟩ := run_underway hids hkept hstart hbetween
  have hresult : finish.result? id = fetch.result := by
    unfold result?
    rw [hlast.found]
    rfl
  constructor
  case ends =>
    intro hopen now hnow
    rw [hresult] at hopen
    obtain ⟨next, hstep⟩ := step_of_rings
      (rings_expired.2 ⟨fetch, hlast.found, hopen, hlast.standing.deadline_eq⟩) hnow
    refine ⟨next, hstep, ?_⟩
    cases step_transition hstep with
    | expired =>
        unfold result?
        rw [find?_of_expiry hlast.orderly hlast.found]
        rfl
  case report =>
    intro report hreport
    rw [hresult] at hreport
    have hconclusion := (hlast.standing.closed hreport).2
    exact hlast.standing.conclusion_ok hconclusion.symm
  case failure =>
    intro outcome houtcome failure
    rw [hresult] at houtcome
    rw [(hlast.standing.closed houtcome).2]
    exact hlast.standing.conclusion_error
  case expired =>
    rintro past now rest rfl facet moment hsucceeds
    obtain ⟨middle, hpast, hrest⟩ := fold_append.1 hbetween
    obtain ⟨fetch', hmiddle⟩ := run_underway hids
      (fun now hmem => hkept now (List.mem_append_left _ hmem)) hstart hpast
    rcases (happens_append hpast).1 hsucceeds with hbefore | hlater
    · exact hbefore
    · exact absurd hlater (run_expired hids
        (fun now hmem => hkept now (List.mem_append_right _ hmem)) hmiddle hrest facet moment)
  case punctual =>
    intro hpunctual facet moment hsucceeds
    obtain ⟨past, ⟨now, event⟩, rest, state, rfl, hpast, hmoment, hnow⟩ := hsucceeds
    obtain ⟨fetch', hstate⟩ := run_underway hids
      (fun now hmem => hkept now (List.mem_append_left _ hmem)) hstart hpast
    by_contra hlate
    have hopen : fetch'.result = none := hstate.standing.result_eq_none (busy_of_succeeds hnow)
    refine hpunctual ⟨past, (now, event), rest, state, rfl, hpast, ⟨time.after config.deadline,
      rings_expired.2 ⟨fetch', hstate.found, hopen, hstate.standing.deadline_eq⟩, ?_⟩, ?_⟩
    · exact hmoment ▸ Nat.lt_of_not_le hlate
    · rintro rfl
      cases hnow

/-- Three facets, of which one is listed twice, and calls for one id each by two tasks at a time. -/
def narrowConfig : Config where
  workers := 2
  deadline := .seconds 5
  batchSize := 1
  facets := [.trending, .mostPlayed, .trending, .topRated]

/-- One facet gets both answers, one fails, and one is cut off in its first call. -/
def interruptedFetch : List (Instant × Event) :=
  [(⟨1⟩, .begun ⟨7, .mostPlayed⟩), (⟨1⟩, .begun ⟨7, .trending⟩), (⟨1⟩, .begun ⟨7, .topRated⟩),
    (⟨2⟩, .answered ⟨7, .mostPlayed⟩ (.ok [])),
    (⟨3⟩, .answered ⟨7, .trending⟩ (.error (.query "down"))), (⟨4⟩, .resumed ⟨7, .topRated⟩),
    (⟨5⟩, .answered ⟨7, .mostPlayed⟩ (.ok [])), (⟨5000000000⟩, .expired 7)]

/-- Such a fetch comes to its conclusion, with a report of one ranking and two failures. -/
theorem run_fetch_interrupted : ∃ second finish report,
    (ofConfig narrowConfig).step ⟨0⟩ (.opened 7 ["a", "b"]) = some second ∧
      second.run interruptedFetch = some finish ∧ finish.result? 7 = some (.ok report) ∧
      report.failed = [.trending, .topRated] ∧
      Concludes narrowConfig second interruptedFetch finish 7 2 ⟨5000000000⟩ := by
  have hruns : ∃ second finish report,
      (ofConfig narrowConfig).step ⟨0⟩ (.opened 7 ["a", "b"]) = some second ∧
        second.run interruptedFetch = some finish ∧ finish.result? 7 = some (.ok report) ∧
        report.failed = [.trending, .topRated] := ⟨_, _, _, rfl, rfl, rfl, rfl⟩
  obtain ⟨second, finish, report, hopened, hbetween, hresult, hfailed⟩ := hruns
  have hkept : ∀ now, (now, .dropped 7) ∉ interruptedFetch := by
    intro now
    simp [interruptedFetch]
  exact ⟨second, finish, report, hopened, hbetween, hresult, hfailed,
    run_fetch (List.cons_ne_nil _ _) (List.cons_ne_nil _ _) (rfl : run _ [] = _) hopened hbetween
      hkept⟩

end Runs

end GameLibrary.Fetcher
