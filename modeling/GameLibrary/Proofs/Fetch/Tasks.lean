import GameLibrary.Proofs.Fetch.Runs
import GameLibrary.Proofs.Store.Shards

/-!
# Which tasks are there

Permits wander between tasks, but whether a task is there depends on its own fetch only: a task
comes with its fetch, and goes when it ends or its fetch does. `Fetcher.Orderly` is the invariant
behind this: in the queue stand tasks that are there, so a permit that is handed on goes to one of
them. Read `contains_release` first. A lemma for each change of a fetcher follows, and
`Transition.orderly` puts them together.
-/

namespace GameLibrary.Fetcher

/-- The queue and the tasks are as they should be. -/
structure Orderly (fetcher : Fetcher) : Prop where
  /-- The tasks in the queue wait for a permit. -/
  queued : ∀ {task}, task ∈ fetcher.queue → fetcher.tasks.find? task = some .queued
  /-- No task stands in the queue twice. -/
  distinct : fetcher.queue.Nodup
  /-- A task belongs to a fetch. -/
  housed : ∀ {task}, fetcher.tasks.contains task = true →
    (fetcher.fetches.find? task.fetch).isSome = true

/-- Before any fetch there are no tasks. -/
theorem orderly_of_config (config : Config) : Orderly (ofConfig config) where
  queued hmem := by cases hmem
  distinct := List.nodup_nil
  housed hmem := by cases hmem

variable {fetcher : Fetcher} {now : Instant} {task other : TaskId} {id : FetchId}

section Primitives

@[simp] theorem fetches_release (fetcher : Fetcher) :
    fetcher.release.fetches = fetcher.fetches := by
  unfold release
  split <;> rfl

@[simp] theorem fetches_remove_task (fetcher : Fetcher) (task : TaskId) :
    (fetcher.removeTask task).fetches = fetcher.fetches := by
  unfold removeTask
  split
  · rfl
  · dsimp only
    split
    · rw [fetches_release]
    · rfl

/-- Whoever gets the permit that is given back, the tasks stay. -/
theorem contains_release (hqueued : ∀ task ∈ fetcher.queue, fetcher.tasks.contains task = true) :
    fetcher.release.tasks.contains other = true ↔ fetcher.tasks.contains other = true := by
  unfold release
  split
  · rfl
  · rename_i next queue hqueue
    show (fetcher.tasks.insert next .granted).contains other = true ↔ _
    rw [Table.contains_insert]
    refine ⟨?_, .inr⟩
    rintro (rfl | hother)
    · exact hqueued other (by rw [hqueue]; exact List.mem_cons_self)
    · exact hother

/-- A permit that is given back leaves the queue in order. -/
theorem Orderly.release (h : Orderly fetcher) : Orderly fetcher.release := by
  have hcontains : ∀ task ∈ fetcher.queue, fetcher.tasks.contains task = true :=
    fun task hmem => Table.contains_of_find? (h.queued hmem)
  have hhoused : ∀ {task}, fetcher.release.tasks.contains task = true →
      (fetcher.release.fetches.find? task.fetch).isSome = true := by
    intro task htask
    rw [fetches_release]
    exact h.housed ((contains_release hcontains).1 htask)
  refine ⟨?_, ?_, hhoused⟩
  · unfold Fetcher.release
    split
    · exact h.queued
    · rename_i next queue hqueue
      intro task htask
      have hne : task ≠ next := by
        -- The next task stood in the queue once.
        rintro rfl
        have hdistinct := h.distinct
        rw [hqueue, List.nodup_cons] at hdistinct
        exact hdistinct.1 htask
      show (fetcher.tasks.insert next .granted).find? task = some .queued
      rw [Table.find?_insert, if_neg hne]
      exact h.queued (by rw [hqueue]; exact List.mem_cons_of_mem next htask)
  · unfold Fetcher.release
    split
    · exact h.distinct
    · rename_i next queue hqueue
      have hdistinct := h.distinct
      rw [hqueue, List.nodup_cons] at hdistinct
      exact hdistinct.2

/-- A task that leaves is out of the queue as well. -/
theorem Orderly.without (h : Orderly fetcher) (task : TaskId) :
    Orderly { fetcher with
      tasks := fetcher.tasks.erase task
      queue := fetcher.queue.filter (· ≠ task) } where
  queued {other} hmem := by
    obtain ⟨hother, hne⟩ := List.mem_filter.1 hmem
    have hne : other ≠ task := of_decide_eq_true hne
    rw [Table.find?_erase, if_neg hne]
    exact h.queued hother
  distinct := h.distinct.filter _
  housed hmem := h.housed ((Table.contains_erase ..).1 hmem).2

/-- A task that is taken away leaves the queue in order. -/
theorem Orderly.remove_task (h : Orderly fetcher) (task : TaskId) :
    Orderly (fetcher.removeTask task) := by
  unfold removeTask
  split
  · exact h
  · dsimp only
    split
    · exact (h.without task).release
    · exact h.without task

/-- A task that is taken away is not there any more, and all others are. -/
theorem contains_remove_task (h : Orderly fetcher) :
    (fetcher.removeTask task).tasks.contains other = true ↔
      other ≠ task ∧ fetcher.tasks.contains other = true := by
  unfold removeTask
  split
  · rename_i hnone
    refine ⟨fun hother => ⟨?_, hother⟩, And.right⟩
    rintro rfl
    rw [Table.contains, hnone] at hother
    cases hother
  · dsimp only
    split
    · have hwithout := h.without task
      rw [contains_release fun t ht => Table.contains_of_find? (hwithout.queued ht)]
      exact Table.contains_erase ..
    · exact Table.contains_erase ..

/-- A task that is not in the queue may go anywhere. -/
theorem Orderly.set_task (h : Orderly fetcher) {point : Task} (hnot : task ∉ fetcher.queue)
    (hhoused : (fetcher.fetches.find? task.fetch).isSome = true) :
    Orderly (fetcher.setTask task point) where
  queued {other} hother := by
    have hne : other ≠ task := by
      rintro rfl
      exact hnot hother
    show (fetcher.tasks.insert task point).find? other = some .queued
    rw [Table.find?_insert, if_neg hne]
    exact h.queued hother
  distinct := h.distinct
  housed {other} hmem := by
    rcases (Table.contains_insert ..).1 hmem with rfl | hother
    · exact hhoused
    · exact h.housed hother

/-- A task that is anywhere else is not in the queue. -/
theorem Orderly.not_queued (h : Orderly fetcher) {point : Task}
    (hfound : fetcher.tasks.find? task = some point) (hpoint : point ≠ .queued) :
    task ∉ fetcher.queue := by
  intro hmem
  rw [h.queued hmem] at hfound
  cases hfound
  exact hpoint rfl

/-- A fetch that changes leaves the tasks as they are. -/
theorem Orderly.set_fetch (h : Orderly fetcher) (id : FetchId) (fetch : Fetch) :
    Orderly (fetcher.setFetch id fetch) where
  queued := h.queued
  distinct := h.distinct
  housed {task} hmem := by
    show ((fetcher.fetches.insert id fetch).find? task.fetch).isSome = true
    rw [Table.find?_insert]
    split
    · rfl
    · exact h.housed hmem

/-- The end of a fetch touches the fetch only. -/
theorem close_if_done_eq (fetcher : Fetcher) (id : FetchId) :
    fetcher.closeIfDone id = { fetcher with fetches := (fetcher.closeIfDone id).fetches } := by
  unfold closeIfDone
  split
  · split <;> rfl
  · rfl

@[simp] theorem tasks_close_if_done (fetcher : Fetcher) (id : FetchId) :
    (fetcher.closeIfDone id).tasks = fetcher.tasks := by
  unfold closeIfDone
  split
  · split <;> rfl
  · rfl

theorem Orderly.close_if_done (h : Orderly fetcher) (id : FetchId) :
    Orderly (fetcher.closeIfDone id) := by
  unfold closeIfDone
  split
  · split
    · exact h.set_fetch id _
    · exact h
  · exact h

@[simp] theorem tasks_finish (fetcher : Fetcher) (task : TaskId)
    (result : Except Failure Ranking) :
    (fetcher.finish task result).tasks = (fetcher.removeTask task).tasks := by
  unfold finish
  dsimp only
  split
  · rw [tasks_close_if_done]
    rfl
  · rfl

theorem Orderly.finish (h : Orderly fetcher) (task : TaskId) (result : Except Failure Ranking) :
    Orderly (fetcher.finish task result) := by
  unfold Fetcher.finish
  dsimp only
  split
  · exact ((h.remove_task task).set_fetch _ _).close_if_done _
  · exact h.remove_task task

/-- A task with a permit goes on to its next call, or ends. -/
theorem Orderly.call (h : Orderly fetcher) (hnot : task ∉ fetcher.queue)
    (hhoused : (fetcher.fetches.find? task.fetch).isSome = true)
    (answers : List (List RankedItem)) (later : List (List String)) :
    Orderly (fetcher.call now task answers later) := by
  unfold Fetcher.call
  split
  · exact h.finish task _
  · exact h.set_task hnot hhoused

end Primitives

section Fetches

theorem mem_tasks_of (fetcher : Fetcher) (id : FetchId) :
    task ∈ fetcher.tasksOf id ↔ fetcher.tasks.contains task = true ∧ task.fetch = id := by
  unfold tasksOf
  rw [List.mem_filter, Table.contains_iff, decide_eq_true_eq]

/-- Tasks that are taken away one after the other. -/
theorem Orderly.remove_tasks (h : Orderly fetcher) (tasks : List TaskId) :
    Orderly (tasks.foldl removeTask fetcher) ∧
      (tasks.foldl removeTask fetcher).fetches = fetcher.fetches ∧
      ∀ other, (tasks.foldl removeTask fetcher).tasks.contains other = true ↔
        other ∉ tasks ∧ fetcher.tasks.contains other = true := by
  induction tasks generalizing fetcher with
  | nil => exact ⟨h, rfl, fun other => by simp⟩
  | cons task tasks ih =>
      obtain ⟨horderly, hfetches, hcontains⟩ := ih (h.remove_task task)
      refine ⟨horderly, ?_, fun other => ?_⟩
      · rw [List.foldl_cons, hfetches, fetches_remove_task]
      · rw [List.foldl_cons, hcontains, contains_remove_task h, List.mem_cons, not_or]
        tauto

theorem Orderly.abort (h : Orderly fetcher) (id : FetchId) : Orderly (fetcher.abort id) :=
  (h.remove_tasks (fetcher.tasksOf id)).1

theorem fetches_abort (h : Orderly fetcher) (id : FetchId) :
    (fetcher.abort id).fetches = fetcher.fetches :=
  (h.remove_tasks (fetcher.tasksOf id)).2.1

/-- A fetch that is cut off keeps no task, and the others keep theirs. -/
theorem contains_abort (h : Orderly fetcher) (id : FetchId) (other : TaskId) :
    (fetcher.abort id).tasks.contains other = true ↔
      other.fetch ≠ id ∧ fetcher.tasks.contains other = true := by
  have hcontains := (h.remove_tasks (fetcher.tasksOf id)).2.2 other
  rw [mem_tasks_of] at hcontains
  unfold Fetcher.abort
  rw [hcontains]
  tauto

/-- The tasks of a fetch begin together. -/
theorem Orderly.begin_tasks (h : Orderly fetcher)
    (hhoused : (fetcher.fetches.find? id).isSome = true)
    (hnone : ∀ facet, fetcher.tasks.contains ⟨id, facet⟩ = false) (facets : List Facet) :
    let begun := facets.foldl (fun fetcher facet => fetcher.setTask ⟨id, facet⟩ .fresh) fetcher
    Orderly begun ∧ begun.fetches = fetcher.fetches ∧ begun.queue = fetcher.queue ∧
      ∀ other, begun.tasks.contains other = true ↔
        other.fetch = id ∧ other.facet ∈ facets ∨ fetcher.tasks.contains other = true := by
  induction facets using List.reverseRecOn with
  | nil => exact ⟨h, rfl, rfl, fun other => by simp⟩
  | append_singleton facets facet ih =>
      obtain ⟨horderly, hfetches, hqueue, hcontains⟩ := ih
      simp only [List.foldl_append, List.foldl_cons, List.foldl_nil]
      refine ⟨horderly.set_task ?_ (by rw [hfetches]; exact hhoused), hfetches, hqueue,
        fun other => ?_⟩
      · rw [hqueue]
        intro hmem
        have htask := Table.contains_of_find? (h.queued hmem)
        rw [hnone facet] at htask
        cases htask
      · show (Table.insert _ _ _).contains other = true ↔ _
        rw [Table.contains_insert, hcontains, List.mem_append, List.mem_singleton]
        obtain ⟨fetch, facet'⟩ := other
        simp only [TaskId.mk.injEq]
        tauto

/-- A new fetch has no tasks yet. -/
theorem Orderly.not_contains (h : Orderly fetcher) (hnew : fetcher.fetches.find? id = none)
    (facet : Facet) : fetcher.tasks.contains ⟨id, facet⟩ = false := by
  cases hcontains : fetcher.tasks.contains ⟨id, facet⟩ with
  | false => rfl
  | true =>
      have hhoused := h.housed hcontains
      rw [hnew] at hhoused
      cases hhoused

/-- The result of a fetch that is there. -/
theorem result_of_found {fetch : Fetch} (hfound : fetcher.fetches.find? id = some fetch) :
    fetcher.result? id = fetch.result := by
  unfold result?
  rw [hfound]
  rfl

end Fetches

section Ids

/-- The ids that a fetch asks for. -/
def idsOf? (fetcher : Fetcher) (id : FetchId) : Option (List String) :=
  (fetcher.fetches.find? id).map Fetch.ids

/-- A fetch that is there asks for what it says. -/
theorem ids_of_found {fetch : Fetch} (hfound : fetcher.fetches.find? id = some fetch) :
    fetcher.idsOf? id = some fetch.ids := by
  unfold idsOf?
  rw [hfound, Option.map_some]

/-- A fetch that is in another state asks for what it says. -/
theorem ids_set_fetch (fetch : Fetch) (other : FetchId) :
    (fetcher.setFetch id fetch).idsOf? other =
      if other = id then some fetch.ids else fetcher.idsOf? other := by
  unfold idsOf? setFetch
  rw [Table.find?_insert]
  split <;> rfl

/-- A fetch that changes otherwise asks for the same ids. -/
theorem ids_set_fetch_of_eq {fetch changed : Fetch} (hfound : fetcher.fetches.find? id = some fetch)
    (hids : changed.ids = fetch.ids) (other : FetchId) :
    (fetcher.setFetch id changed).idsOf? other = fetcher.idsOf? other := by
  rw [ids_set_fetch]
  split
  · rename_i hid
    rw [hid, hids, ids_of_found hfound]
  · rfl

@[simp] theorem ids_remove_task (fetcher : Fetcher) (task : TaskId) (id : FetchId) :
    (fetcher.removeTask task).idsOf? id = fetcher.idsOf? id := by
  unfold idsOf?
  rw [fetches_remove_task]

@[simp] theorem ids_close_if_done (fetcher : Fetcher) (id other : FetchId) :
    (fetcher.closeIfDone id).idsOf? other = fetcher.idsOf? other := by
  unfold closeIfDone
  split
  · rename_i fetch hfound
    split
    · refine ids_set_fetch_of_eq hfound ?_ other
      rfl
    · rfl
  · rfl

@[simp] theorem ids_finish (fetcher : Fetcher) (task : TaskId) (result : Except Failure Ranking)
    (id : FetchId) : (fetcher.finish task result).idsOf? id = fetcher.idsOf? id := by
  unfold finish
  dsimp only
  split
  · rename_i fetch hfound
    have hids : (fetch.record task.facet result).ids = fetch.ids := rfl
    rw [ids_close_if_done, ids_set_fetch_of_eq hfound hids, ids_remove_task]
  · exact ids_remove_task ..

@[simp] theorem ids_call (fetcher : Fetcher) (now : Instant) (task : TaskId)
    (answers : List (List RankedItem)) (later : List (List String)) (id : FetchId) :
    (fetcher.call now task answers later).idsOf? id = fetcher.idsOf? id := by
  unfold call
  split
  · exact ids_finish ..
  · rfl

@[simp] theorem ids_abort (fetcher : Fetcher) (id other : FetchId) :
    (fetcher.abort id).idsOf? other = fetcher.idsOf? other :=
  List.foldlRecOn (motive := fun next : Fetcher => next.idsOf? other = fetcher.idsOf? other) _ _ rfl
    fun _ hids _ _ => (ids_remove_task ..).trans hids

/-- A fetch that begins asks for the ids that it is given. -/
theorem ids_open_fetch (fetcher : Fetcher) (now : Instant) (id : FetchId) (ids : List String)
    (other : FetchId) : (fetcher.openFetch now id ids).idsOf? other =
      if other = id then some ids else fetcher.idsOf? other := by
  unfold openFetch
  dsimp only
  split
  · exact ids_set_fetch ..
  · refine List.foldlRecOn (motive := fun next : Fetcher => next.idsOf? other =
      if other = id then some ids else fetcher.idsOf? other) _ _ (ids_set_fetch ..) ?_
    intro next hids facet _
    exact hids

/-- What a fetch asks for it has asked for from its beginning. -/
theorem Transition.ids_from {next : Fetcher} {event : Event} {ids : List String}
    (hstep : fetcher.Transition now event next) (hids : next.idsOf? id = some ids) :
    fetcher.idsOf? id = some ids ∨ event = .opened id ids := by
  cases hstep with
  | opened =>
      rw [ids_open_fetch] at hids
      split at hids
      · rename_i hid
        cases hids
        exact .inr (hid ▸ rfl)
      · exact .inl hids
  | queued => exact .inl hids
  | admitted | resumed | answered =>
      rw [ids_call] at hids
      exact .inl hids
  | refused | timedOut =>
      rw [ids_finish] at hids
      exact .inl hids
  | crashed =>
      rw [ids_close_if_done, ids_remove_task] at hids
      exact .inl hids
  | expired =>
      rw [ids_close_if_done, ids_abort] at hids
      exact .inl hids
  | @dropped other _ _ =>
      left
      rw [← ids_abort fetcher other id]
      unfold idsOf? at hids ⊢
      dsimp only at hids
      rw [Table.find?_erase] at hids
      split at hids
      · cases hids
      · exact hids

/-- A fetch that is there was there already, or has just begun. -/
theorem Transition.fetch_from {next : Fetcher} {event : Event} {fetch : Fetch}
    (hstep : fetcher.Transition now event next)
    (hfound : next.fetches.find? id = some fetch) :
    (∃ before, fetcher.fetches.find? id = some before) ∨ ∃ ids, event = .opened id ids := by
  rcases hstep.ids_from (ids_of_found hfound) with hbefore | hopened
  · obtain ⟨before, hbefore, -⟩ := Option.map_eq_some_iff.1 hbefore
    exact .inl ⟨before, hbefore⟩
  · exact .inr ⟨_, hopened⟩

/-- A fetch that is there was not given up just now. -/
theorem Transition.fetch_kept {next : Fetcher} {event : Event} {fetch : Fetch}
    (hstep : fetcher.Transition now event next)
    (hfound : next.fetches.find? id = some fetch) : event ≠ .dropped id := by
  rintro rfl
  cases hstep with
  | dropped =>
      rw [Table.find?_erase, if_pos rfl] at hfound
      cases hfound

end Ids

end GameLibrary.Fetcher
