import GameLibrary.Proofs.Fetch.Points
import GameLibrary.Proofs.Store.Tables

/-!
# Permits are neither lost nor made

All the fetches of a fetcher share its permits. A task that ends, is cut off or is given up returns
its permit, at whatever point it stands, and the permit goes to the next task in the queue before it
is free again. `Allotted` is the invariant: held and free permits are together a fixed number, and no
permit is free while a task waits. The one change of a fetcher that would lose a permit is a task that
ends without a call; no task does, since a fetch without ids has no tasks (`Provided`). `run_permits`
draws the conclusion for every state that a run comes to.
-/

namespace GameLibrary.Fetcher

variable {config : Config} {fetcher next : Fetcher} {now : Instant} {event : Event}
  {events : List (Instant × Event)} {task : TaskId} {id : FetchId} {permits : Nat}

/-- The number of permits that tasks hold. -/
def held (fetcher : Fetcher) : Nat := fetcher.tasks.number Task.holdsPermit

/-- Held and free permits are together so many, and none is free while a task waits. -/
structure Allotted (permits : Nat) (fetcher : Fetcher) : Prop where
  orderly : Orderly fetcher
  conserved : fetcher.held + fetcher.free = permits
  awaited : 0 < fetcher.free → fetcher.queue = []

section Tasks

/-- A task that goes to another point holds there what the point says. -/
theorem held_set_task (fetcher : Fetcher) (task : TaskId) (point : Task) :
    (fetcher.setTask task point).held +
        (if (fetcher.tasks.find? task).any Task.holdsPermit then 1 else 0) =
      fetcher.held + if point.holdsPermit then 1 else 0 := by
  have hfound : (fetcher.tasks.insert task point).find? task = some point := by
    rw [Table.find?_insert, if_pos rfl]
  have hafter := Table.number_eq (fetcher.tasks.insert task point) task Task.holdsPermit
  have hbefore := Table.number_eq fetcher.tasks task Task.holdsPermit
  rw [Table.number_erase_insert, hfound, Option.any_some] at hafter
  show (fetcher.tasks.insert task point).number _ + _ = fetcher.tasks.number _ + _
  omega

/-- A task that keeps what it holds. -/
theorem held_set_task_of_eq {point point' : Task} (hfound : fetcher.tasks.find? task = some point)
    (hholds : point'.holdsPermit = point.holdsPermit) :
    (fetcher.setTask task point').held = fetcher.held := by
  have hset := held_set_task fetcher task point'
  rw [hfound, Option.any_some, hholds] at hset
  exact Nat.add_right_cancel hset

/-- A task that is given a permit. -/
theorem held_set_task_of_given {point point' : Task}
    (hfound : fetcher.tasks.find? task = some point) (hnone : point.holdsPermit = false)
    (hholds : point'.holdsPermit = true) :
    (fetcher.setTask task point').held = fetcher.held + 1 := by
  have hset := held_set_task fetcher task point'
  rw [hfound, Option.any_some, hnone, hholds] at hset
  exact hset

/-- A permit that is given back is held by the next task, or free. -/
theorem Allotted.release (h : Allotted permits fetcher) :
    Allotted (permits + 1) fetcher.release := by
  have hsum := h.conserved
  refine ⟨h.orderly.release, ?_, ?_⟩
  · unfold Fetcher.release
    split
    · show fetcher.held + (fetcher.free + 1) = permits + 1
      omega
    · rename_i next queue hqueue
      have hwaits : fetcher.tasks.find? next = some .queued :=
        h.orderly.queued (hqueue ▸ List.mem_cons_self)
      have hgiven : (fetcher.setTask next .granted).held = fetcher.held + 1 :=
        held_set_task_of_given hwaits rfl rfl
      show (fetcher.setTask next .granted).held + fetcher.free = permits + 1
      omega
  · unfold Fetcher.release
    split
    · rename_i hnone
      exact fun _ => hnone
    · rename_i next queue hqueue
      intro hfree
      have hnone := h.awaited hfree
      rw [hqueue] at hnone
      cases hnone

/-- A task that is taken away takes no permit with it. -/
theorem Allotted.remove_task (h : Allotted permits fetcher) (task : TaskId) :
    Allotted permits (fetcher.removeTask task) := by
  unfold removeTask
  split
  · exact h
  · rename_i point hfound
    have hshare : fetcher.held = (fetcher.tasks.erase task).number Task.holdsPermit +
        if point.holdsPermit then 1 else 0 := by
      have hnumber := Table.number_eq fetcher.tasks task Task.holdsPermit
      rwa [hfound, Option.any_some] at hnumber
    have hsum := h.conserved
    have hwithout : ∀ {left}, (fetcher.tasks.erase task).number Task.holdsPermit +
        fetcher.free = left →
        Allotted left { fetcher with
          tasks := fetcher.tasks.erase task
          queue := fetcher.queue.filter (· ≠ task) } := by
      intro left hleft
      refine ⟨h.orderly.without task, hleft, fun hfree => ?_⟩
      show fetcher.queue.filter _ = []
      rw [h.awaited hfree, List.filter_nil]
    dsimp only
    by_cases hholds : point.holdsPermit = true
    · rw [if_pos hholds] at hshare ⊢
      have hleft : (fetcher.tasks.erase task).number Task.holdsPermit + fetcher.free =
          permits - 1 := by omega
      have hreleased := (hwithout hleft).release
      rwa [Nat.sub_add_cancel (by omega)] at hreleased
    · rw [if_neg hholds] at hshare ⊢
      exact hwithout (by omega)

/-- A fetch that changes is of no concern to the permits. -/
theorem Allotted.set_fetch (h : Allotted permits fetcher) (id : FetchId) (fetch : Fetch) :
    Allotted permits (fetcher.setFetch id fetch) :=
  ⟨h.orderly.set_fetch id fetch, h.conserved, h.awaited⟩

theorem Allotted.close_if_done (h : Allotted permits fetcher) (id : FetchId) :
    Allotted permits (fetcher.closeIfDone id) := by
  have horderly := h.orderly.close_if_done id
  rw [close_if_done_eq] at horderly ⊢
  exact ⟨horderly, h.conserved, h.awaited⟩

theorem Allotted.finish (h : Allotted permits fetcher) (task : TaskId)
    (result : Except Failure Ranking) : Allotted permits (fetcher.finish task result) := by
  unfold Fetcher.finish
  dsimp only
  split
  · exact ((h.remove_task task).set_fetch _ _).close_if_done _
  · exact h.remove_task task

/-- A fetch that is cut off returns the permits of all its tasks. -/
theorem Allotted.abort (h : Allotted permits fetcher) (id : FetchId) :
    Allotted permits (fetcher.abort id) :=
  List.foldlRecOn (motive := Allotted permits) _ _ h fun _ hnext task _ => hnext.remove_task task

/-- A task with a permit keeps it for its next call, or returns it at its end. -/
theorem Allotted.call (h : Allotted permits fetcher) {point : Task}
    (hfound : fetcher.tasks.find? task = some point) (hholds : point.holdsPermit = true)
    (now : Instant) (answers : List (List RankedItem)) (later : List (List String)) :
    Allotted permits (fetcher.call now task answers later) := by
  have hnot : task ∉ fetcher.queue := h.orderly.not_queued hfound (by rintro rfl; cases hholds)
  have horderly : Orderly (fetcher.call now task answers later) :=
    h.orderly.call hnot (h.orderly.housed (Table.contains_of_find? hfound)) answers later
  unfold Fetcher.call at horderly ⊢
  split at horderly
  · exact h.finish task _
  · refine ⟨horderly, ?_, h.awaited⟩
    rename_i batch later
    have hkept : (fetcher.setTask task (.calling answers batch later now)).held = fetcher.held :=
      held_set_task_of_eq hfound hholds.symm
    exact (congrArg (· + fetcher.free) hkept).trans h.conserved

/-- The tasks of a fetch that begins hold no permit. -/
theorem Allotted.open_fetch (h : Allotted permits fetcher) (now : Instant)
    (hnew : fetcher.fetches.find? id = none) (ids : List String) :
    Allotted permits (fetcher.openFetch now id ids) := by
  have horderly : Orderly (fetcher.openFetch now id ids) := (h.orderly.open_fetch hnew ids).1
  by_cases hsome : ids ≠ [] ∧ fetcher.config.facets ≠ []
  · have hnone : ¬ (ids.isEmpty || (Facet.distinct fetcher.config.facets).isEmpty) = true := by
      simp [hsome.1, Facet.distinct_eq_nil, hsome.2]
    -- Task after task begins, and none of the fetch has a permit yet.
    have hbegun : ∀ facets : List Facet,
        let begun := facets.foldl (fun fetcher facet => fetcher.setTask ⟨id, facet⟩ .fresh)
          (fetcher.setFetch id (fetcher.newFetch now ids))
        begun.held = fetcher.held ∧ begun.free = fetcher.free ∧ begun.queue = fetcher.queue ∧
          ∀ facet, (begun.tasks.find? ⟨id, facet⟩).any Task.holdsPermit = false := by
      intro facets
      refine List.foldlRecOn (motive := fun begun : Fetcher => begun.held = fetcher.held ∧
        begun.free = fetcher.free ∧ begun.queue = fetcher.queue ∧
          ∀ facet, (begun.tasks.find? ⟨id, facet⟩).any Task.holdsPermit = false) _ _ ?_ ?_
      · refine ⟨rfl, rfl, rfl, fun facet => ?_⟩
        have hnot := h.orderly.not_contains hnew facet
        rw [Table.contains, Option.isSome_eq_false_iff, Option.isNone_iff_eq_none] at hnot
        exact (congrArg (Option.any Task.holdsPermit) hnot).trans rfl
      · rintro begun ⟨hheld, hfree, hqueue, hidle⟩ facet -
        have hset := held_set_task begun ⟨id, facet⟩ .fresh
        rw [hidle facet] at hset
        refine ⟨hset.trans hheld, hfree, hqueue, fun other => ?_⟩
        show ((begun.tasks.insert ⟨id, facet⟩ .fresh).find? ⟨id, other⟩).any _ = false
        rw [Table.find?_insert]
        split
        · rfl
        · exact hidle other
    obtain ⟨hheld, hfree, hqueue, -⟩ := hbegun (Facet.distinct fetcher.config.facets)
    unfold openFetch at horderly ⊢
    dsimp only at horderly ⊢
    rw [if_neg hnone] at horderly ⊢
    refine ⟨horderly, ?_, fun hsome => ?_⟩
    · exact (congrArg₂ (· + ·) hheld hfree).trans h.conserved
    · exact hqueue.trans (h.awaited (hfree ▸ hsome))
  · rw [open_fetch_of_nothing fetcher now id hsome]
    exact h.set_fetch id _

end Tasks

section Calls

/-- Every step leaves the number of permits as it is. -/
theorem Transition.allotted (hstep : fetcher.Transition now event next) (hprovided : Provided fetcher)
    (h : Allotted permits fetcher) : Allotted permits next := by
  have horderly := hstep.orderly h.orderly
  cases hstep with
  | opened hnew => exact h.open_fetch now hnew _
  | @admitted task hfresh hfree =>
      -- The task takes a permit with it into its first call.
      obtain ⟨batch, later, hbatches⟩ := List.exists_cons_of_ne_nil
        (hprovided.batches_ne_nil h.orderly (Table.contains_of_find? hfresh))
      have htaken : (fetcher.setTask task (.calling [] batch later now)).held =
          fetcher.held + 1 := held_set_task_of_given hfresh rfl rfl
      have hsum := h.conserved
      rw [hbatches] at horderly ⊢
      refine ⟨horderly, ?_, fun hmore => h.awaited hfree⟩
      show (fetcher.setTask task (.calling [] batch later now)).held + (fetcher.free - 1) = permits
      omega
  | @queued task hfresh hfull =>
      refine ⟨horderly, ?_, fun hfree => absurd hfull (Nat.ne_of_gt hfree)⟩
      have hkept : (fetcher.setTask task .queued).held = fetcher.held :=
        held_set_task_of_eq hfresh rfl
      exact (congrArg (· + fetcher.free) hkept).trans h.conserved
  | resumed hgranted => exact h.call hgranted rfl now _ _
  | answered hcalling => exact h.call hcalling rfl now _ _
  | refused | timedOut => exact h.finish _ _
  | crashed => exact (h.remove_task _).close_if_done _
  | expired => exact (h.abort _).close_if_done _
  | dropped => exact ⟨horderly, (h.abort _).conserved, (h.abort _).awaited⟩

end Calls

section Runs

/-- Before any fetch all permits are free. -/
theorem allotted_of_config (config : Config) : Allotted config.permits (ofConfig config) where
  orderly := orderly_of_config config
  conserved := Nat.zero_add _
  awaited _ := rfl

/-- The permits are allotted in every state that a run comes to. -/
theorem run_allotted {finish : Fetcher} (hrun : (ofConfig config).run events = some finish) :
    Allotted config.permits finish := by
  refine (fold_invariant (fun fetcher => Provided fetcher ∧ Allotted config.permits fetcher) ?_ ?_
    hrun).2
  · rintro fetcher ⟨now, event⟩ next ⟨hprovided, h⟩ hstep
    have htransition := step_transition hstep
    exact ⟨htransition.provided h.orderly hprovided, htransition.allotted hprovided h⟩
  · refine ⟨fun hthere => ?_, allotted_of_config config⟩
    cases hthere

/-- What the permits mean for the calls that are under way. -/
structure WithinPermits (config : Config) (fetcher : Fetcher) : Prop where
  /-- No more calls are under way at the same time than there are workers. -/
  bounded : fetcher.running ≤ max config.workers 1
  /-- Held and free permits are together as many as there are workers. -/
  conserved : fetcher.held + fetcher.free = max config.workers 1
  /-- Without tasks all permits are free. -/
  restored : fetcher.tasks.size = 0 → fetcher.free = max config.workers 1
  /-- No task waits for a permit while one is free. -/
  awaited : 0 < fetcher.free → fetcher.queue = []

/-- The permits bound the calls in every state that a run comes to, and none is lost, in whatever way
fetches are interleaved, fail, are cut off or are given up. -/
theorem run_permits {finish : Fetcher} (hrun : (ofConfig config).run events = some finish) :
    finish.WithinPermits config := by
  have hallotted := run_allotted hrun
  have hconserved : finish.held + finish.free = max config.workers 1 := hallotted.conserved
  have hrunning : finish.running ≤ finish.held := by
    refine List.countP_mono_left fun entry _ hcalling => ?_
    cases hpoint : entry.2 with
    | calling => rfl
    | fresh | queued | granted =>
        rw [hpoint] at hcalling
        cases hcalling
  constructor
  case bounded => omega
  case conserved => exact hconserved
  case restored =>
    intro hnone
    have hheld : finish.held = 0 := by
      have hle : finish.held ≤ finish.tasks.size := List.countP_le_length
      omega
    omega
  case awaited => exact hallotted.awaited

/-- One worker, and one facet to ask for. -/
def soleWorker : Config where
  workers := 0
  facets := [.trending]

/-- Of two fetches one has called, and the task of the other one waits for the permit. -/
def contended : List (Instant × Event) :=
  [(⟨0⟩, .opened 0 ["a"]), (⟨0⟩, .opened 1 ["b"]), (⟨0⟩, .begun ⟨0, .trending⟩),
    (⟨0⟩, .begun ⟨1, .trending⟩)]

/-- The first fetch is given up. The task of the second one gets the permit, and is cut off with its
fetch before it goes on. -/
def abandoned : List (Instant × Event) := [(⟨1⟩, .dropped 0), (⟨25000000000⟩, .expired 1)]

/-- The only permit is held while a task waits for it, and it is back when both fetches are gone. -/
theorem run_permits_shared : ∃ middle finish,
    (ofConfig soleWorker).run contended = some middle ∧
      middle.running = 1 ∧ middle.free = 0 ∧ middle.queue = [⟨1, .trending⟩] ∧
      middle.WithinPermits soleWorker ∧
      (ofConfig soleWorker).run (contended ++ abandoned) = some finish ∧
      finish.tasks.size = 0 ∧ finish.free = 1 ∧ finish.WithinPermits soleWorker := by
  have hruns : ∃ middle finish, (ofConfig soleWorker).run contended = some middle ∧
      middle.running = 1 ∧ middle.free = 0 ∧ middle.queue = [⟨1, .trending⟩] ∧
      (ofConfig soleWorker).run (contended ++ abandoned) = some finish ∧
      finish.tasks.size = 0 := ⟨_, _, rfl, rfl, rfl, rfl, rfl, rfl⟩
  obtain ⟨middle, finish, hmiddle, hrunning, hfree, hqueue, hfinish, hnone⟩ := hruns
  have hwithin := run_permits hfinish
  exact ⟨middle, finish, hmiddle, hrunning, hfree, hqueue, run_permits hmiddle, hfinish, hnone,
    hwithin.restored hnone, hwithin⟩

end Runs

end GameLibrary.Fetcher
