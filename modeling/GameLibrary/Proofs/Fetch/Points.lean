import GameLibrary.Proofs.Fetch.Turns

/-!
# Where tasks stand

A task stands where its own events put it. The events of others leave it there, with one exception:
whoever returns a permit may hand it to a task that waits for one (`Stays`, `Transition.stays`). A
task that is there has something to call for, since a fetch without ids has no tasks (`Provided`).
-/

namespace GameLibrary.Fetcher

variable {fetcher next : Fetcher} {now : Instant} {event : Event} {task other : TaskId}
  {id : FetchId}

section Points

/-- A task stays where it is, or it is given the permit that it has waited for. -/
inductive Stays : Option Task → Option Task → Prop where
  | same {point} : Stays point point
  | given : Stays (some .queued) (some .granted)

theorem Stays.of_eq {before after : Option Task} (h : after = before) : Stays before after := by
  subst h
  exact .same

theorem Stays.trans {before between after : Option Task} (h : Stays before between)
    (h' : Stays between after) : Stays before after := by
  cases h with
  | same => exact h'
  | given =>
      cases h'
      exact .given

/-- A permit that is given back goes to a task that waits for it, if there is one. -/
theorem stays_release (h : Orderly fetcher) (task : TaskId) :
    Stays (fetcher.tasks.find? task) (fetcher.release.tasks.find? task) := by
  unfold release
  split
  · exact .same
  · rename_i next queue hqueue
    show Stays _ ((fetcher.tasks.insert next .granted).find? task)
    rw [Table.find?_insert]
    split
    · rename_i htask
      rw [h.queued (hqueue ▸ htask ▸ List.mem_cons_self)]
      exact .given
    · exact .same

/-- Another task stays when one is taken away. -/
theorem stays_remove_task (h : Orderly fetcher) (hne : other ≠ task) :
    Stays (fetcher.tasks.find? other) ((fetcher.removeTask task).tasks.find? other) := by
  have hkept : (fetcher.tasks.erase task).find? other = fetcher.tasks.find? other := by
    rw [Table.find?_erase, if_neg hne]
  unfold removeTask
  split
  · exact .same
  · dsimp only
    rw [← hkept]
    split
    · exact stays_release (h.without task) other
    · exact .same

/-- A task that is taken away stands nowhere. -/
theorem find?_remove_task (h : Orderly fetcher) (task : TaskId) :
    (fetcher.removeTask task).tasks.find? task = none := by
  have hgone : ¬ (fetcher.removeTask task).tasks.contains task = true :=
    fun hthere => ((contains_remove_task h).1 hthere).1 rfl
  unfold Table.contains at hgone
  exact Option.not_isSome_iff_eq_none.1 hgone

/-- The tasks of other fetches stay when one is cut off. -/
theorem stays_abort (h : Orderly fetcher) (hne : task.fetch ≠ id) :
    Stays (fetcher.tasks.find? task) ((fetcher.abort id).tasks.find? task) := by
  refine (List.foldlRecOn (motive := fun next : Fetcher => Orderly next ∧
    Stays (fetcher.tasks.find? task) (next.tasks.find? task)) _ _ ⟨h, .same⟩ ?_).2
  rintro next ⟨horderly, hstays⟩ other hother
  refine ⟨horderly.remove_task other, hstays.trans (stays_remove_task horderly ?_)⟩
  rintro rfl
  exact hne ((mem_tasks_of ..).1 hother).2

/-- The tasks of a fetch that is cut off stand nowhere. -/
theorem find?_abort (h : Orderly fetcher) (task : TaskId) :
    (fetcher.abort task.fetch).tasks.find? task = none := by
  have hgone : ¬ (fetcher.abort task.fetch).tasks.contains task = true :=
    fun hthere => ((contains_abort h _ task).1 hthere).1 rfl
  unfold Table.contains at hgone
  exact Option.not_isSome_iff_eq_none.1 hgone

/-- Where a task stands that has just had some answers, and still has to ask for some batches. -/
def pointOfCall (now : Instant) (answers : List (List RankedItem)) :
    List (List String) → Option Task
  | [] => none
  | batch :: later => some (.calling answers batch later now)

/-- A task calls for its next batch, or it has ended. -/
theorem find?_call (h : Orderly fetcher) (now : Instant) (task : TaskId)
    (answers : List (List RankedItem)) (later : List (List String)) :
    (fetcher.call now task answers later).tasks.find? task = pointOfCall now answers later := by
  unfold call pointOfCall
  split
  · rw [tasks_finish]
    exact find?_remove_task h task
  · exact (Table.find?_insert ..).trans (if_pos rfl)

/-- Another task stays when one goes on. -/
theorem stays_call (h : Orderly fetcher) (hne : other ≠ task) (now : Instant)
    (answers : List (List RankedItem)) (later : List (List String)) :
    Stays (fetcher.tasks.find? other)
      ((fetcher.call now task answers later).tasks.find? other) := by
  unfold call
  split
  · rw [tasks_finish]
    exact stays_remove_task h hne
  · exact .of_eq ((Table.find?_insert ..).trans (if_neg hne))

/-- A fetch begins with a task for each of its facets, unless it has no ids. -/
theorem find?_open_fetch (fetcher : Fetcher) (now : Instant) (id : FetchId) (ids : List String)
    (task : TaskId) : (fetcher.openFetch now id ids).tasks.find? task =
      if task.fetch = id ∧ task.facet ∈ fetcher.config.facets ∧ ids ≠ [] then some .fresh
      else fetcher.tasks.find? task := by
  by_cases hsome : ids ≠ [] ∧ fetcher.config.facets ≠ []
  · have hbegun : ∀ facets : List Facet,
        (facets.foldl (fun fetcher facet => fetcher.setTask ⟨id, facet⟩ .fresh)
          (fetcher.setFetch id (fetcher.newFetch now ids))).tasks.find? task =
        if task.fetch = id ∧ task.facet ∈ facets then some .fresh
        else fetcher.tasks.find? task := by
      intro facets
      induction facets using List.reverseRecOn with
      | nil => simp [setFetch]
      | append_singleton facets facet ih =>
          rw [List.foldl_append, List.foldl_cons, List.foldl_nil]
          refine (Table.find?_insert ..).trans ?_
          rw [ih]
          obtain ⟨owner, facet'⟩ := task
          by_cases howner : owner = id <;> by_cases hfacet : facet' = facet <;>
            simp [howner, hfacet]
    have hnone : ¬ (ids.isEmpty || (Facet.distinct fetcher.config.facets).isEmpty) = true := by
      simp [hsome.1, Facet.distinct_eq_nil, hsome.2]
    unfold openFetch
    dsimp only
    rw [if_neg hnone]
    refine (hbegun _).trans ?_
    simp only [Facet.mem_distinct, ne_eq, hsome.1, not_false_eq_true, and_true]
  · rw [open_fetch_of_nothing fetcher now id hsome, if_neg]
    · rfl
    · rintro ⟨-, hfacet, hids⟩
      exact hsome ⟨hids, List.ne_nil_of_mem hfacet⟩

/-- The event is one of the task, or the beginning or the end of its fetch. -/
def Event.Concerns (task : TaskId) : Event → Prop
  | .begun other | .resumed other | .answered other _ | .timedOut other | .crashed other =>
      other = task
  | .opened id _ | .expired id | .dropped id => id = task.fetch

/-- Everything else is of no concern to a task, but that it may be given a permit. -/
theorem Transition.stays (hstep : fetcher.Transition now event next) (h : Orderly fetcher)
    (hnot : ¬ event.Concerns task) :
    Stays (fetcher.tasks.find? task) (next.tasks.find? task) := by
  have hne : ∀ {other : TaskId}, ¬ other = task → task ≠ other := fun hother => Ne.symm hother
  cases hstep with
  | @opened id ids _ =>
      rw [find?_open_fetch, if_neg fun hown => hnot hown.1.symm]
      exact .same
  | @admitted other hfresh hfree =>
      have hspent : Orderly { fetcher with free := fetcher.free - 1 } :=
        ⟨h.queued, h.distinct, h.housed⟩
      exact stays_call hspent (hne hnot) now [] (fetcher.batchesOf other)
  | queued => exact .of_eq ((Table.find?_insert ..).trans (if_neg (hne hnot)))
  | resumed | answered => exact stays_call h (hne hnot) _ _ _
  | refused | timedOut =>
      rw [tasks_finish]
      exact stays_remove_task h (hne hnot)
  | crashed =>
      rw [tasks_close_if_done]
      exact stays_remove_task h (hne hnot)
  | expired =>
      rw [tasks_close_if_done]
      exact stays_abort h fun heq => hnot heq.symm
  | dropped => exact stays_abort h fun heq => hnot heq.symm

/-- The task that an event takes further. -/
def Event.task? : Event → Option TaskId
  | .begun task | .resumed task | .answered task _ | .timedOut task | .crashed task => some task
  | .opened _ _ | .expired _ | .dropped _ => none

/-- An event that takes a task further is of no concern to any other one. -/
theorem Event.not_concerns (hevent : event.task? = some task) (hne : other ≠ task) :
    ¬ event.Concerns other := by
  cases event <;> cases hevent <;> exact fun heq => hne heq.symm

/-- A task that is taken further waits for a permit, makes a call, or ends. -/
theorem Transition.find?_own (hstep : fetcher.Transition now event next) (h : Orderly fetcher)
    (hevent : event.task? = some task) :
    next.tasks.find? task = none ∨ next.tasks.find? task = some .queued ∨
      ∃ answers batch later, next.tasks.find? task = some (.calling answers batch later now) := by
  have hcall : ∀ {answers later} {after : Fetcher},
      after.tasks.find? task = pointOfCall now answers later →
      after.tasks.find? task = none ∨ after.tasks.find? task = some .queued ∨
        ∃ answers batch later,
          after.tasks.find? task = some (.calling answers batch later now) := by
    intro answers later after hpoint
    cases later with
    | nil => exact .inl hpoint
    | cons batch later => exact .inr (.inr ⟨_, _, _, hpoint⟩)
  cases hstep with
  | opened | expired | dropped => cases hevent
  | admitted hfresh hfree =>
      cases hevent
      have hspent : Orderly { fetcher with free := fetcher.free - 1 } :=
        ⟨h.queued, h.distinct, h.housed⟩
      exact hcall (find?_call hspent ..)
  | queued =>
      cases hevent
      exact .inr (.inl ((Table.find?_insert ..).trans (if_pos rfl)))
  | resumed | answered =>
      cases hevent
      exact hcall (find?_call h ..)
  | refused | timedOut =>
      cases hevent
      rw [tasks_finish]
      exact .inl (find?_remove_task h task)
  | crashed =>
      cases hevent
      rw [tasks_close_if_done]
      exact .inl (find?_remove_task h task)

end Points

section Provisions

/-- Every task has something to call for. -/
def Provided (fetcher : Fetcher) : Prop :=
  ∀ {task}, fetcher.tasks.contains task = true → fetcher.idsOf? task.fetch ≠ some []

/-- The tasks that are there after a call were there before it. -/
theorem contains_of_call {other : TaskId} (h : Orderly fetcher) {point : Task}
    (hfound : fetcher.tasks.find? task = some point) {answers : List (List RankedItem)}
    {later : List (List String)}
    (hother : (fetcher.call now task answers later).tasks.contains other = true) :
    fetcher.tasks.contains other = true := by
  unfold call at hother
  split at hother
  · rw [tasks_finish, contains_remove_task h] at hother
    exact hother.2
  · rcases (Table.contains_insert ..).1 hother with rfl | hother
    · exact Table.contains_of_find? hfound
    · exact hother

/-- A task is there because it was there already, or its fetch has just begun, for some ids. -/
theorem Transition.contains_from (hstep : fetcher.Transition now event next) (h : Orderly fetcher)
    (hthere : next.tasks.contains task = true) :
    fetcher.tasks.contains task = true ∨ ∃ ids, event = .opened task.fetch ids ∧ ids ≠ [] := by
  cases hstep with
  | @opened id ids hnew =>
      by_cases hsome : ids ≠ [] ∧ fetcher.config.facets ≠ []
      · obtain ⟨-, -, hcontains⟩ := h.open_tasks now hnew hsome.1 hsome.2
        rcases (hcontains task).1 hthere with ⟨rfl, -⟩ | hbefore
        · exact .inr ⟨ids, rfl, hsome.1⟩
        · exact .inl hbefore
      · rw [open_fetch_of_nothing fetcher now id hsome] at hthere
        exact .inl hthere
  | admitted hfresh _ =>
      -- The permit that the task takes is of no concern to the tasks.
      set spent : Fetcher := { fetcher with free := fetcher.free - 1 }
      have hspent : Orderly spent := ⟨h.queued, h.distinct, h.housed⟩
      have hbefore : spent.tasks.contains task = true := contains_of_call hspent hfresh hthere
      exact .inl hbefore
  | queued hfresh _ =>
      rcases (Table.contains_insert ..).1 hthere with rfl | hbefore
      · exact .inl (Table.contains_of_find? hfresh)
      · exact .inl hbefore
  | resumed hfound | answered hfound => exact .inl (contains_of_call h hfound hthere)
  | refused | timedOut =>
      rw [tasks_finish, contains_remove_task h] at hthere
      exact .inl hthere.2
  | crashed =>
      rw [tasks_close_if_done, contains_remove_task h] at hthere
      exact .inl hthere.2
  | expired =>
      rw [tasks_close_if_done, contains_abort h] at hthere
      exact .inl hthere.2
  | dropped => exact .inl ((contains_abort h _ task).1 hthere).2

/-- Every step leaves the tasks with something to call for. -/
theorem Transition.provided (hstep : fetcher.Transition now event next) (horderly : Orderly fetcher)
    (h : Provided fetcher) : Provided next := by
  intro task hthere hnone
  rcases hstep.contains_from horderly hthere with hbefore | ⟨ids, rfl, hids⟩
  · rcases hstep.ids_from hnone with hnone | rfl
    · exact h hbefore hnone
    · -- A fetch that begins had no tasks.
      cases hstep with
      | opened hnew =>
          rw [horderly.not_contains hnew] at hbefore
          cases hbefore
  · cases hstep with
    | opened =>
        rw [ids_open_fetch, if_pos rfl, Option.some.injEq] at hnone
        exact hids hnone

/-- A task that is there has a batch to call for. -/
theorem Provided.batches_ne_nil (h : Provided fetcher) (horderly : Orderly fetcher)
    (hthere : fetcher.tasks.contains task = true) : fetcher.batchesOf task ≠ [] := by
  obtain ⟨fetch, hfetch⟩ := Option.isSome_iff_exists.1 (horderly.housed hthere)
  refine batches_of_ne_nil hfetch fun hnone => h hthere ?_
  rw [ids_of_found hfetch, hnone]

/-- A fetch with a task has ids to ask for. -/
theorem Provided.ids_ne_nil (h : Provided fetcher) {fetch : Fetch}
    (hfound : fetcher.fetches.find? id = some fetch) (facet : Facet)
    (hbusy : fetcher.Busy id facet) : fetch.ids ≠ [] := by
  intro hnone
  refine h hbusy ?_
  rw [ids_of_found hfound, hnone]

end Provisions

end GameLibrary.Fetcher
