import GameLibrary.Proofs.Fetch.Reports
import GameLibrary.Proofs.Fetch.Tasks

/-!
# What a step means for a fetch

Tasks of many fetches share the permits of a fetcher, but a step is of concern to one fetch at most.
`Turn` lists what can happen to a fetch: one of its tasks goes on, tells its result or breaks down,
or its time is over. `Transition.turn` says that every step is a turn for every fetch.
-/

namespace GameLibrary

namespace Fetcher

/-- The fetch has a task for the facet. -/
def Busy (fetcher : Fetcher) (id : FetchId) (facet : Facet) : Prop :=
  fetcher.tasks.contains ⟨id, facet⟩ = true

/-- The task has the answer to its last call with this event. -/
def Succeeds (fetcher : Fetcher) (task : TaskId) : Event → Prop
  | .answered other (.ok _) => other = task ∧ ∃ answers batch since,
      fetcher.tasks.find? task = some (.calling answers batch [] since)
  | _ => False

/-- The fetch, which is over if it has no task left. -/
def settled (fetcher : Fetcher) (id : FetchId) (fetch : Fetch) : Fetch :=
  if (fetcher.tasksOf id).isEmpty then { fetch with result := some fetch.conclusion } else fetch

variable {fetcher next : Fetcher} {now : Instant} {event : Event} {task : TaskId}
  {id other : FetchId} {fetch : Fetch}

section Steps

theorem busy_iff_mem_tasks_of {facet : Facet} :
    fetcher.Busy id facet ↔ ⟨id, facet⟩ ∈ fetcher.tasksOf id := by
  rw [mem_tasks_of]
  exact ⟨fun hbusy => ⟨hbusy, rfl⟩, And.left⟩

theorem tasks_of_is_empty :
    (fetcher.tasksOf id).isEmpty = true ↔ ∀ facet, ¬ fetcher.Busy id facet := by
  rw [List.isEmpty_iff, List.eq_nil_iff_forall_not_mem]
  refine ⟨fun hnone facet hbusy => hnone _ (busy_iff_mem_tasks_of.1 hbusy), ?_⟩
  rintro hidle ⟨fetch, facet⟩ hmem
  obtain ⟨hcontains, rfl⟩ := (mem_tasks_of ..).1 hmem
  exact hidle facet hcontains

/-- A fetch without tasks is closed. -/
theorem find?_close_if_done (hfound : fetcher.fetches.find? id = some fetch) :
    (fetcher.closeIfDone id).fetches.find? other =
      if other = id then some (fetcher.settled id fetch) else fetcher.fetches.find? other := by
  unfold closeIfDone settled
  rw [hfound]
  dsimp only
  split
  · exact Table.find?_insert ..
  · split
    · rename_i hid
      rw [hid, hfound]
    · rfl

/-- A task that ends tells its result to its fetch. -/
theorem find?_finish {result : Except Failure Ranking}
    (hfound : fetcher.fetches.find? task.fetch = some fetch) :
    (fetcher.finish task result).fetches.find? other =
      if other = task.fetch then
        some ((fetcher.removeTask task).settled task.fetch (fetch.record task.facet result))
      else fetcher.fetches.find? other := by
  have hset : ((fetcher.removeTask task).setFetch task.fetch
      (fetch.record task.facet result)).fetches.find? task.fetch =
        some (fetch.record task.facet result) := by
    exact (Table.find?_insert ..).trans (if_pos rfl)
  unfold finish
  dsimp only
  rw [fetches_remove_task, hfound]
  dsimp only
  rw [find?_close_if_done hset]
  split
  · rfl
  · rename_i hne
    exact (Table.find?_insert ..).trans ((if_neg hne).trans (by rw [fetches_remove_task]))

/-- A step leaves a fetch and its tasks as they are, as far as their number goes. -/
structure Spares (fetcher next : Fetcher) (id : FetchId) : Prop where
  fetch_eq : next.fetches.find? id = fetcher.fetches.find? id
  busy_iff : ∀ facet, next.Busy id facet ↔ fetcher.Busy id facet

/-- A task that goes on elsewhere is still there. -/
theorem spares_set_task {point : Task} (hthere : fetcher.tasks.contains task = true) :
    Spares fetcher (fetcher.setTask task point) id where
  fetch_eq := rfl
  busy_iff facet := by
    unfold Busy setTask
    rw [Table.contains_insert]
    refine ⟨?_, .inr⟩
    rintro (rfl | hbusy)
    · exact hthere
    · exact hbusy

/-- The end of a task is of no concern to other fetches. -/
theorem spares_finish {result : Except Failure Ranking} (h : Orderly fetcher)
    (hhoused : (fetcher.fetches.find? task.fetch).isSome = true) (hne : id ≠ task.fetch) :
    Spares fetcher (fetcher.finish task result) id where
  fetch_eq := by
    obtain ⟨fetch, hfound⟩ := Option.isSome_iff_exists.1 hhoused
    rw [find?_finish hfound, if_neg hne]
  busy_iff facet := by
    have hother : (⟨id, facet⟩ : TaskId) ≠ task := by
      rintro rfl
      exact hne rfl
    unfold Busy
    rw [tasks_finish, contains_remove_task h]
    exact ⟨And.right, fun hbusy => ⟨hother, hbusy⟩⟩

/-- A task that goes on to its next call, or ends, is of no concern to other fetches; and as long as
it has something to call for, it is of none to its own. -/
theorem spares_call {answers : List (List RankedItem)} {later : List (List String)}
    (h : Orderly fetcher) (hthere : fetcher.tasks.contains task = true) (now : Instant)
    (hlater : id = task.fetch → later ≠ []) :
    Spares fetcher (fetcher.call now task answers later) id := by
  unfold call
  split
  · exact spares_finish h (h.housed hthere) fun hid => hlater hid rfl
  · exact spares_set_task hthere

/-- A fetch with ids has something to call for. -/
theorem batches_of_ne_nil (hfound : fetcher.fetches.find? task.fetch = some fetch)
    (hids : fetch.ids ≠ []) : fetcher.batchesOf task ≠ [] := by
  unfold batchesOf
  rw [hfound]
  exact batches_ne_nil _ hids

/-- A fetch that begins: every facet is pending. -/
def newFetch (fetcher : Fetcher) (now : Instant) (ids : List String) : Fetch where
  ids
  deadline := now.after fetcher.config.deadline
  attempted := Facet.distinct fetcher.config.facets
  pending := Facet.distinct fetcher.config.facets
  report := Report.empty ids.length now

/-- A fetch with ids and facets begins with a task for each facet. -/
theorem Orderly.open_tasks (h : Orderly fetcher) (now : Instant)
    (hnew : fetcher.fetches.find? id = none) {ids : List String} (hids : ids ≠ [])
    (hfacets : fetcher.config.facets ≠ []) :
    Orderly (fetcher.openFetch now id ids) ∧
      (∀ other, (fetcher.openFetch now id ids).fetches.find? other =
        if other = id then some (fetcher.newFetch now ids) else fetcher.fetches.find? other) ∧
      ∀ task, (fetcher.openFetch now id ids).tasks.contains task = true ↔
        task.fetch = id ∧ task.facet ∈ fetcher.config.facets ∨
          fetcher.tasks.contains task = true := by
  have hsome : ¬ (ids.isEmpty || (Facet.distinct fetcher.config.facets).isEmpty) = true := by
    obtain ⟨facet, hfacet⟩ := List.exists_mem_of_ne_nil _ hfacets
    have hdistinct := List.ne_nil_of_mem ((Facet.mem_distinct _).2 hfacet)
    simp [hids, hdistinct]
  have hset : ∀ other, (fetcher.setFetch id (fetcher.newFetch now ids)).fetches.find? other =
      if other = id then some (fetcher.newFetch now ids) else fetcher.fetches.find? other :=
    fun other => Table.find?_insert ..
  have hhoused : ((fetcher.setFetch id (fetcher.newFetch now ids)).fetches.find? id).isSome =
      true := by
    rw [hset, if_pos rfl, Option.isSome_some]
  obtain ⟨horderly, hfetches, -, hcontains⟩ :=
    (h.set_fetch id (fetcher.newFetch now ids)).begin_tasks hhoused (h.not_contains hnew)
      (Facet.distinct fetcher.config.facets)
  unfold openFetch
  dsimp only
  rw [if_neg hsome]
  refine ⟨horderly, fun other => ?_, fun task => ?_⟩
  · exact (congrArg (·.find? other) hfetches).trans (hset other)
  · exact (hcontains task).trans (by rw [Facet.mem_distinct]; rfl)

/-- A fetch without ids or without facets is over at once. -/
theorem open_fetch_of_nothing (fetcher : Fetcher) (now : Instant) (id : FetchId) {ids : List String}
    (hnothing : ¬ (ids ≠ [] ∧ fetcher.config.facets ≠ [])) :
    fetcher.openFetch now id ids = fetcher.setFetch id
      { fetcher.newFetch now ids with result := some (.ok (.empty ids.length now)) } := by
  have hnone : (ids.isEmpty || (Facet.distinct fetcher.config.facets).isEmpty) = true := by
    rw [Bool.or_eq_true, List.isEmpty_iff, List.isEmpty_iff, Facet.distinct_eq_nil]
    by_contra hsome
    exact hnothing (not_or.1 hsome)
  exact if_pos hnone

/-- A fetch that begins is of no concern to others. -/
theorem Orderly.open_fetch (h : Orderly fetcher) (hnew : fetcher.fetches.find? id = none)
    (ids : List String) :
    Orderly (fetcher.openFetch now id ids) ∧
      ∀ other, other ≠ id → Spares fetcher (fetcher.openFetch now id ids) other := by
  by_cases hsome : ids ≠ [] ∧ fetcher.config.facets ≠ []
  · obtain ⟨horderly, hfetches, hcontains⟩ := h.open_tasks now hnew hsome.1 hsome.2
    refine ⟨horderly, fun other hne => ⟨(hfetches other).trans (if_neg hne), fun facet => ?_⟩⟩
    unfold Busy
    rw [hcontains]
    exact ⟨fun hbusy => hbusy.resolve_left fun hnot => hne hnot.1, .inr⟩
  · rw [open_fetch_of_nothing fetcher now id hsome]
    refine ⟨h.set_fetch id _, fun other hne => ⟨?_, fun facet => Iff.rfl⟩⟩
    exact (Table.find?_insert ..).trans (if_neg hne)

/-- Every step leaves the queue and the tasks in order. -/
theorem Transition.orderly (hstep : fetcher.Transition now event next) (h : Orderly fetcher) :
    Orderly next := by
  cases hstep with
  | opened hnew => exact (h.open_fetch hnew _).1
  | admitted hfresh hfree =>
      have hspent : Orderly { fetcher with free := fetcher.free - 1 } :=
        ⟨h.queued, h.distinct, h.housed⟩
      exact hspent.call (h.not_queued hfresh (by rintro ⟨⟩))
        (h.housed (Table.contains_of_find? hfresh)) _ _
  | @queued task hfresh hfull =>
      have hnot := h.not_queued hfresh (by rintro ⟨⟩)
      constructor
      case queued =>
        intro other hmem
        show (fetcher.tasks.insert task .queued).find? other = some .queued
        rw [Table.find?_insert]
        split
        · rfl
        · rename_i hne
          rcases List.mem_append.1 hmem with hmem | hmem
          · exact h.queued hmem
          · exact absurd (List.mem_singleton.1 hmem) hne
      case distinct =>
        exact List.nodup_append.2 ⟨h.distinct, List.nodup_singleton task, by
          rintro a ha b hb rfl
          rw [List.mem_singleton] at hb
          exact hnot (hb ▸ ha)⟩
      case housed =>
        intro other hmem
        rcases (Table.contains_insert ..).1 hmem with rfl | hmem
        · exact h.housed (Table.contains_of_find? hfresh)
        · exact h.housed hmem
  | resumed hgranted =>
      exact h.call (h.not_queued hgranted (by rintro ⟨⟩))
        (h.housed (Table.contains_of_find? hgranted)) _ _
  | answered hcalling =>
      exact h.call (h.not_queued hcalling (by rintro ⟨⟩))
        (h.housed (Table.contains_of_find? hcalling)) _ _
  | refused | timedOut => exact h.finish _ _
  | crashed => exact (h.remove_task _).close_if_done _
  | expired => exact (h.abort _).close_if_done _
  | @dropped id _ _ =>
      have habort := h.abort id
      refine ⟨habort.queued, habort.distinct, fun {task} hmem => ?_⟩
      obtain ⟨hne, hthere⟩ := (contains_abort h id task).1 hmem
      show (((fetcher.abort id).fetches.erase id).find? task.fetch).isSome = true
      rw [Table.find?_erase, if_neg hne, fetches_abort h]
      exact h.housed hthere

end Steps

/-- What a step means for one fetch. -/
inductive Turn (fetcher next : Fetcher) (id : FetchId) (fetch : Fetch) (now : Instant)
    (event : Event) : Prop where
  /-- Nothing, or one of its tasks goes on. -/
  | aside : Spares fetcher next id → (∀ facet, ¬ fetcher.Succeeds ⟨id, facet⟩ event) →
      Turn fetcher next id fetch now event
  /-- One of its tasks ends with a result. -/
  | told {facet result} : fetcher.Busy id facet →
      (∀ other, next.Busy id other ↔ other ≠ facet ∧ fetcher.Busy id other) →
      next.fetches.find? id = some (next.settled id (fetch.record facet result)) →
      (∀ other, fetcher.Succeeds ⟨id, other⟩ event ↔
        other = facet ∧ ∃ ranking, result = .ok ranking) →
      Turn fetcher next id fetch now event
  /-- One of its tasks breaks down. -/
  | broken {facet} : fetcher.Busy id facet →
      (∀ other, next.Busy id other ↔ other ≠ facet ∧ fetcher.Busy id other) →
      next.fetches.find? id = some (next.settled id fetch) →
      (∀ other, ¬ fetcher.Succeeds ⟨id, other⟩ event) → Turn fetcher next id fetch now event
  /-- Its time is over. -/
  | cut : fetch.result = none → fetch.deadline ≤ now → (∀ facet, ¬ next.Busy id facet) →
      next.fetches.find? id = some { fetch with result := some fetch.conclusion } →
      (∀ facet, ¬ fetcher.Succeeds ⟨id, facet⟩ event) → Turn fetcher next id fetch now event

/-- The end of a task means that its fetch is told the result. -/
theorem turn_of_finish {result : Except Failure Ranking} (h : Orderly fetcher)
    (hthere : fetcher.tasks.contains task = true)
    (hfound : fetcher.fetches.find? id = some fetch)
    (hsucceeds : ∀ other, fetcher.Succeeds ⟨id, other⟩ event ↔
      (⟨id, other⟩ : TaskId) = task ∧ ∃ ranking, result = .ok ranking) :
    Turn fetcher (fetcher.finish task result) id fetch now event := by
  obtain ⟨owner, facet⟩ := task
  by_cases hid : id = owner
  · subst hid
    refine .told hthere (fun other => ?_) ?_ (by simpa using hsucceeds)
    · unfold Busy
      rw [tasks_finish, contains_remove_task h]
      simp
    · rw [find?_finish hfound, if_pos rfl]
      unfold settled tasksOf
      rw [tasks_finish]
  · refine .aside (spares_finish h (h.housed hthere) hid) fun other hother => ?_
    exact hid (congrArg TaskId.fetch ((hsucceeds other).1 hother).1)

/-- The breakdown of a task leaves its facet pending. -/
theorem turn_of_crash (h : Orderly fetcher) (hthere : fetcher.tasks.contains task = true)
    (hfound : fetcher.fetches.find? id = some fetch) :
    Turn fetcher ((fetcher.removeTask task).closeIfDone task.fetch) id fetch now
      (.crashed task) := by
  obtain ⟨owner, facet⟩ := task
  have hbusy : ∀ other, ((fetcher.removeTask ⟨owner, facet⟩).closeIfDone owner).Busy id other ↔
      (⟨id, other⟩ : TaskId) ≠ ⟨owner, facet⟩ ∧ fetcher.Busy id other := by
    intro other
    unfold Busy
    rw [tasks_close_if_done, contains_remove_task h]
  obtain ⟨housed, hhoused⟩ := Option.isSome_iff_exists.1 (h.housed hthere)
  have hremoved : (fetcher.removeTask ⟨owner, facet⟩).fetches.find? owner = some housed := by
    rw [fetches_remove_task, hhoused]
  by_cases hid : id = owner
  · subst hid
    rw [show fetcher.fetches.find? id = some housed from hhoused] at hfound
    cases hfound
    refine .broken hthere (fun other => (hbusy other).trans (by simp)) ?_ fun _ hnone => hnone
    rw [find?_close_if_done hremoved, if_pos rfl]
    unfold settled tasksOf
    rw [tasks_close_if_done]
  · refine .aside ⟨?_, fun other => (hbusy other).trans (by simp [hid])⟩ fun _ hnone => hnone
    rw [find?_close_if_done hremoved, if_neg hid, fetches_remove_task]

/-- A fetch that is cut off is over. -/
theorem find?_of_expiry (h : Orderly fetcher) (hfound : fetcher.fetches.find? id = some fetch) :
    ((fetcher.abort id).closeIfDone id).fetches.find? id =
      some { fetch with result := some fetch.conclusion } := by
  have haborted : (fetcher.abort id).fetches.find? id = some fetch := by
    rw [fetches_abort h, hfound]
  have hdone : ((fetcher.abort id).tasksOf id).isEmpty = true :=
    tasks_of_is_empty.2 fun facet hfacet => ((contains_abort h id ⟨id, facet⟩).1 hfacet).1 rfl
  rw [find?_close_if_done haborted, if_pos rfl]
  unfold settled
  rw [if_pos hdone]

/-- The end of its time means the end of a fetch, with what it has by then. -/
theorem turn_of_expiry (h : Orderly fetcher) {late : Fetch}
    (hlate : fetcher.fetches.find? other = some late) (hopen : late.result = none)
    (hover : late.deadline ≤ now) (hfound : fetcher.fetches.find? id = some fetch) :
    Turn fetcher ((fetcher.abort other).closeIfDone other) id fetch now (.expired other) := by
  have haborted : (fetcher.abort other).fetches.find? other = some late := by
    rw [fetches_abort h, hlate]
  have hbusy : ∀ facet, ((fetcher.abort other).closeIfDone other).Busy id facet ↔
      id ≠ other ∧ fetcher.Busy id facet := by
    intro facet
    unfold Busy
    rw [tasks_close_if_done, contains_abort h]
  by_cases hid : id = other
  · subst hid
    rw [hfound] at hlate
    cases hlate
    exact .cut hopen hover (fun facet hfacet => ((hbusy facet).1 hfacet).1 rfl)
      (find?_of_expiry h hfound) fun _ hnone => hnone
  · refine .aside ⟨?_, fun facet => (hbusy facet).trans (and_iff_right hid)⟩ fun _ hnone => hnone
    rw [find?_close_if_done haborted, if_neg hid, fetches_abort h]

/-- Every step is a turn for every fetch that is not given up and of which no task is without
something to call for. -/
theorem Transition.turn (hstep : fetcher.Transition now event next) (h : Orderly fetcher)
    (hfound : fetcher.fetches.find? id = some fetch)
    (hids : ∀ facet, fetcher.Busy id facet → fetch.ids ≠ []) (hkept : event ≠ .dropped id) :
    Turn fetcher next id fetch now event := by
  have hbatches : ∀ {task : TaskId}, fetcher.tasks.contains task = true → id = task.fetch →
      fetcher.batchesOf task ≠ [] := by
    rintro task hthere rfl
    exact batches_of_ne_nil hfound (hids _ hthere)
  cases hstep with
  | @opened other _ hnew =>
      have hne : id ≠ other := by
        rintro rfl
        rw [hnew] at hfound
        cases hfound
      exact .aside ((h.open_fetch hnew _).2 id hne) fun _ hnone => hnone
  | @admitted task hfresh hfree =>
      have hspent : Orderly { fetcher with free := fetcher.free - 1 } :=
        ⟨h.queued, h.distinct, h.housed⟩
      have hspares : Spares _ (Fetcher.call _ now task [] (fetcher.batchesOf task)) id :=
        spares_call hspent (Table.contains_of_find? hfresh) now
          (hbatches (Table.contains_of_find? hfresh))
      exact .aside ⟨hspares.fetch_eq, hspares.busy_iff⟩ fun _ hnone => hnone
  | queued hfresh hfull =>
      have hspares : Spares fetcher (fetcher.setTask _ .queued) id :=
        spares_set_task (Table.contains_of_find? hfresh)
      exact .aside ⟨hspares.fetch_eq, hspares.busy_iff⟩ fun _ hnone => hnone
  | resumed hgranted =>
      have hspares : Spares fetcher (fetcher.call now _ [] (fetcher.batchesOf _)) id :=
        spares_call h (Table.contains_of_find? hgranted) now
          (hbatches (Table.contains_of_find? hgranted))
      exact .aside hspares fun _ hnone => hnone
  | @answered task answers batch later since items hcalling =>
      have hthere := Table.contains_of_find? hcalling
      cases later with
      | nil =>
          refine turn_of_finish h hthere hfound fun facet => ?_
          constructor
          · rintro ⟨rfl, -⟩
            exact ⟨rfl, _, rfl⟩
          · rintro ⟨rfl, -⟩
            exact ⟨rfl, _, _, _, hcalling⟩
      | cons batch' later =>
          refine .aside (spares_set_task hthere) ?_
          rintro facet ⟨rfl, answers', batch', since', hlast⟩
          rw [hcalling] at hlast
          cases hlast
  | refused hcalling | timedOut hcalling =>
      refine turn_of_finish h (Table.contains_of_find? hcalling) hfound fun facet => ?_
      exact ⟨False.elim, by rintro ⟨-, ranking, ⟨⟩⟩⟩
  | crashed hcalling => exact turn_of_crash h (Table.contains_of_find? hcalling) hfound
  | expired hlate hopen hover => exact turn_of_expiry h hlate hopen hover hfound
  | @dropped other _ _ =>
      have hid : id ≠ other := by
        rintro rfl
        exact hkept rfl
      refine .aside ⟨?_, fun facet => ?_⟩ fun _ hnone => hnone
      · show ((fetcher.abort other).fetches.erase other).find? id = _
        rw [Table.find?_erase, if_neg hid, fetches_abort h]
      · exact (contains_abort h other ⟨id, facet⟩).trans (and_iff_right hid)

/-- A turn is of no concern to a fetch that has no tasks and its result. -/
theorem Turn.of_closed {outcome : Except Failure Report} (h : Turn fetcher next id fetch now event)
    (hfound : fetcher.fetches.find? id = some fetch) (hresult : fetch.result = some outcome)
    (hidle : ∀ facet, ¬ fetcher.Busy id facet) :
    next.fetches.find? id = some fetch ∧ (∀ facet, ¬ next.Busy id facet) ∧
      ∀ facet, ¬ fetcher.Succeeds ⟨id, facet⟩ event := by
  cases h with
  | aside hspares hnone =>
      refine ⟨hspares.fetch_eq.trans hfound, fun facet hfacet => ?_, hnone⟩
      exact hidle facet ((hspares.busy_iff facet).1 hfacet)
  | told hfacet | broken hfacet => exact absurd hfacet (hidle _)
  | cut hopen => cases hresult.symm.trans hopen

end Fetcher

end GameLibrary
