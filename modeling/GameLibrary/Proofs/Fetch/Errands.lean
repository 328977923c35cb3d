import GameLibrary.Fetch.Rehearsal
import GameLibrary.Proofs.Fetch.Courses
import GameLibrary.Proofs.Store.Tables

/-!
# The errands of a fetch

A rehearsal takes the tasks of one fetch further by errands. An errand that finds its task where it
takes the task up can be run (`Errand.Ready.step`), and stays ready while other tasks go on
(`Errand.Ready.stays`). Whatever it comes to, the tasks have fewer errands left
(`Transition.outstanding_lt`).
-/

namespace GameLibrary.Fetcher

variable {fetcher next : Fetcher} {now : Instant} {event : Event} {task other : TaskId}
  {pieces : Nat}

section Outstanding

/-- How many errands a task has left at most, if its fetch asks for so many batches. -/
def Task.outstanding (pieces : Nat) : Task → Nat
  | .fresh => pieces + 2
  | .queued | .granted => pieces + 1
  | .calling _ _ later _ => later.length + 1

/-- How many errands the tasks have left at most. -/
def outstanding (fetcher : Fetcher) (pieces : Nat) : Nat :=
  fetcher.tasks.total (Task.outstanding pieces)

variable {point : Task}

theorem outstanding_set_task (pieces : Nat) (hfound : fetcher.tasks.find? task = some point)
    (point' : Task) :
    (fetcher.setTask task point').outstanding pieces + point.outstanding pieces =
      fetcher.outstanding pieces + point'.outstanding pieces := by
  have hset : (fetcher.tasks.insert task point').find? task = some point' :=
    (Table.find?_insert ..).trans (if_pos rfl)
  have hafter :=
    Table.total_eq (fetcher.tasks.insert task point') task (Task.outstanding pieces)
  have hbefore := Table.total_eq fetcher.tasks task (Task.outstanding pieces)
  rw [Table.total_erase_insert, hset, Option.map_some, Option.getD_some] at hafter
  rw [hfound, Option.map_some, Option.getD_some] at hbefore
  show (fetcher.tasks.insert task point').total _ + _ = fetcher.tasks.total _ + _
  omega

/-- A task that is given a permit has as much to do as before. -/
theorem outstanding_release (h : Orderly fetcher) :
    fetcher.release.outstanding pieces = fetcher.outstanding pieces := by
  unfold release
  split
  · rfl
  · rename_i next queue hqueue
    have hwaits : fetcher.tasks.find? next = some .queued :=
      h.queued (hqueue ▸ List.mem_cons_self)
    exact Nat.add_right_cancel (outstanding_set_task pieces hwaits .granted)

/-- A task that is taken away has nothing to do any more. -/
theorem outstanding_remove_task (pieces : Nat) (h : Orderly fetcher)
    (hfound : fetcher.tasks.find? task = some point) :
    (fetcher.removeTask task).outstanding pieces + point.outstanding pieces =
      fetcher.outstanding pieces := by
  have hbefore := Table.total_eq fetcher.tasks task (Task.outstanding pieces)
  rw [hfound, Option.map_some, Option.getD_some] at hbefore
  have hremoved : (fetcher.removeTask task).outstanding pieces =
      (fetcher.tasks.erase task).total (Task.outstanding pieces) := by
    unfold removeTask
    rw [hfound]
    dsimp only
    split
    · exact outstanding_release (h.without task)
    · rfl
  rw [hremoved]
  exact hbefore.symm

/-- A task that calls has an errand left for this call and for each that comes after it. -/
theorem outstanding_call (pieces : Nat) (h : Orderly fetcher)
    (hfound : fetcher.tasks.find? task = some point) (now : Instant)
    (answers : List (List RankedItem)) (later : List (List String)) :
    (fetcher.call now task answers later).outstanding pieces + point.outstanding pieces =
      fetcher.outstanding pieces + later.length := by
  unfold call
  split
  · show (fetcher.finish task _).tasks.total _ + _ = _
    rw [tasks_finish]
    exact outstanding_remove_task pieces h hfound
  · exact outstanding_set_task pieces hfound _

/-- Whenever a task is taken further, there is less to do. -/
theorem Transition.outstanding_lt (hstep : fetcher.Transition now event next) (h : Orderly fetcher)
    (hevent : event.task? = some task) (hpieces : (fetcher.batchesOf task).length = pieces) :
    next.outstanding pieces < fetcher.outstanding pieces := by
  cases hstep with
  | opened | expired | dropped => cases hevent
  | @admitted other hfresh hfree =>
      cases hevent
      set spent : Fetcher := { fetcher with free := fetcher.free - 1 }
      have hspent : Orderly spent := ⟨h.queued, h.distinct, h.housed⟩
      have hfound : spent.tasks.find? task = some .fresh := hfresh
      have hcall := outstanding_call pieces hspent hfound now [] (fetcher.batchesOf task)
      have hsame : spent.outstanding pieces = fetcher.outstanding pieces := rfl
      rw [hsame, hpieces] at hcall
      simp only [Task.outstanding] at hcall
      omega
  | queued hfresh hfull =>
      cases hevent
      have hset := outstanding_set_task pieces hfresh .queued
      simp only [Task.outstanding] at hset
      show (fetcher.setTask task .queued).outstanding pieces < _
      omega
  | resumed hgranted =>
      cases hevent
      have hcall := outstanding_call pieces h hgranted now [] (fetcher.batchesOf task)
      rw [hpieces] at hcall
      simp only [Task.outstanding] at hcall
      omega
  | @answered other answers batch later since items hcalling =>
      cases hevent
      have hcall := outstanding_call pieces h hcalling now (answers ++ [items]) later
      simp only [Task.outstanding] at hcall
      omega
  | refused hcalling | timedOut hcalling =>
      cases hevent
      have hremoved := outstanding_remove_task pieces h hcalling
      show (fetcher.finish task _).tasks.total _ < _
      rw [tasks_finish]
      simp only [Task.outstanding] at hremoved
      unfold outstanding at hremoved ⊢
      omega
  | crashed hcalling =>
      cases hevent
      have hremoved := outstanding_remove_task pieces h hcalling
      show ((fetcher.removeTask task).closeIfDone task.fetch).tasks.total _ < _
      rw [tasks_close_if_done]
      simp only [Task.outstanding] at hremoved
      unfold outstanding at hremoved ⊢
      omega

end Outstanding

section Errands

/-- The task that an errand takes further. -/
def Errand.task? : Errand → Option TaskId
  | .begin task | .resume task | .reply task _ | .timeOut task => some task
  | .expire | .drop => none

/-- The event that an errand lets happen. -/
def Errand.toEvent : Errand → Event
  | .begin task => .begun task
  | .resume task => .resumed task
  | .reply task (.result result) => .answered task result
  | .reply task .crash => .crashed task
  | .timeOut task => .timedOut task
  | .expire => .expired 0
  | .drop => .dropped 0

/-- An errand is to be run at a time, and its task stands where the errand takes it up. -/
inductive Errand.Ready (fetcher : Fetcher) (deadline time : Instant) : Errand → Prop where
  | begin {task : TaskId} : fetcher.tasks.find? task = some .fresh →
      Ready fetcher deadline time (.begin task)
  | resume {task : TaskId} : fetcher.tasks.find? task = some .granted →
      Ready fetcher deadline time (.resume task)
  | reply {task : TaskId} {reply answers batch later since} :
      fetcher.tasks.find? task = some (.calling answers batch later since) →
      Ready fetcher deadline time (.reply task reply)
  | timeOut {task : TaskId} {answers batch later since} :
      fetcher.tasks.find? task = some (.calling answers batch later since) →
      fetcher.config.callTimeout ≤ time.since since →
      Ready fetcher deadline time (.timeOut task)
  | expire : time = deadline → Ready fetcher deadline time .expire

variable {errand : Errand} {deadline time : Instant}

/-- An errand stays ready while its task stays where it is. -/
theorem Errand.Ready.stays (h : errand.Ready fetcher deadline time)
    (hconfig : next.config = fetcher.config)
    (hstays : ∀ {task}, errand.task? = some task →
      Stays (fetcher.tasks.find? task) (next.tasks.find? task)) :
    errand.Ready next deadline time := by
  have hfound : ∀ {task : TaskId} {point : Task}, errand.task? = some task →
      fetcher.tasks.find? task = some point → point ≠ .queued →
      next.tasks.find? task = some point := by
    intro task point htask hfound hpoint
    generalize hafter : next.tasks.find? task = after
    have hstays := hstays htask
    rw [hfound, hafter] at hstays
    cases hstays with
    | same => rfl
    | given => exact absurd rfl hpoint
  cases h with
  | begin hfresh => exact .begin (hfound rfl hfresh nofun)
  | resume hgranted => exact .resume (hfound rfl hgranted nofun)
  | reply hcalling => exact .reply (hfound rfl hcalling nofun)
  | timeOut hcalling hlimit =>
      exact .timeOut (hfound rfl hcalling nofun) (by rw [hconfig]; exact hlimit)
  | expire htime => exact .expire htime

/-- An errand of a task that is ready can be run. -/
theorem Errand.Ready.step (h : errand.Ready fetcher deadline time)
    (htask : errand.task? = some task) :
    errand.toEvent.task? = some task ∧ ∃ next, fetcher.step time errand.toEvent = some next := by
  cases h with
  | begin hfresh =>
      cases htask
      refine ⟨rfl, ?_⟩
      show ∃ next, fetcher.step time (.begun task) = some next
      unfold Fetcher.step
      dsimp only
      rw [hfresh]
      dsimp only
      split <;> exact ⟨_, rfl⟩
  | resume hgranted =>
      cases htask
      refine ⟨rfl, ?_⟩
      show ∃ next, fetcher.step time (.resumed task) = some next
      unfold Fetcher.step
      dsimp only
      rw [hgranted]
      exact ⟨_, rfl⟩
  | @reply _ reply _ _ _ _ hcalling =>
      cases htask
      cases reply with
      | result result =>
          refine ⟨rfl, ?_⟩
          show ∃ next, fetcher.step time (.answered task result) = some next
          unfold Fetcher.step
          dsimp only
          rw [hcalling]
          cases result <;> exact ⟨_, rfl⟩
      | crash =>
          refine ⟨rfl, ?_⟩
          show ∃ next, fetcher.step time (.crashed task) = some next
          unfold Fetcher.step
          dsimp only
          rw [hcalling]
          exact ⟨_, rfl⟩
  | timeOut hcalling hlimit =>
      cases htask
      refine ⟨rfl, ?_⟩
      show ∃ next, fetcher.step time (.timedOut task) = some next
      unfold Fetcher.step
      dsimp only
      rw [hcalling]
      dsimp only
      rw [if_pos hlimit]
      exact ⟨_, rfl⟩
  | expire => cases htask

/-- A task that an errand takes up is there, and does not wait for a permit. -/
theorem Errand.Ready.found (h : errand.Ready fetcher deadline time)
    (htask : errand.task? = some task) :
    ∃ point, fetcher.tasks.find? task = some point ∧ point ≠ .queued := by
  cases h with
  | begin hfound | resume hfound | reply hfound | timeOut hfound =>
      cases htask
      exact ⟨_, hfound, nofun⟩
  | expire => cases htask

end Errands

section Fetches

/-- The only fetch is under way, for some ids, and has its tasks. -/
structure Sole (config : Config) (ids : List String) (deadline : Instant) (fetcher : Fetcher) :
    Prop where
  config_eq : fetcher.config = config
  provided : Provided fetcher
  /-- No other fetch has a task. -/
  alone : ∀ {task}, fetcher.tasks.contains task = true → task.fetch = 0
  underway : ∃ succeeded fetch, fetcher.Underway 0 config.facets ids deadline succeeded fetch

variable {config : Config} {ids : List String} {deadline : Instant}

theorem Sole.orderly (h : Sole config ids deadline fetcher) : Orderly fetcher := by
  obtain ⟨_, _, hunderway⟩ := h.underway
  exact hunderway.orderly

/-- Every task has all batches to ask for. -/
theorem Sole.batches_of (h : Sole config ids deadline fetcher)
    (hthere : fetcher.tasks.contains task = true) :
    fetcher.batchesOf task = batches config.batchSize ids := by
  obtain ⟨_, fetch, hunderway⟩ := h.underway
  have hfetch : fetcher.fetches.find? task.fetch = some fetch := h.alone hthere ▸ hunderway.found
  unfold batchesOf
  rw [hfetch]
  dsimp only
  rw [h.config_eq, hunderway.standing.ids_eq]

/-- Nothing but a new fetch or its own end leaves a fetch otherwise. -/
theorem Sole.step (h : Sole config ids deadline fetcher) (hids : ids ≠ [])
    (hstep : fetcher.step now event = some next) (hopened : ∀ {id ids}, event ≠ .opened id ids)
    (hkept : event ≠ .dropped 0) : Sole config ids deadline next := by
  have htransition := step_transition hstep
  obtain ⟨succeeded, fetch, hunderway⟩ := h.underway
  obtain ⟨fetch', hunderway'⟩ := hunderway.step hids hkept hstep
  refine ⟨htransition.config_eq.trans h.config_eq, htransition.provided h.orderly h.provided,
    fun {task} hthere => ?_, _, fetch', hunderway'⟩
  rcases htransition.contains_from h.orderly hthere with hbefore | ⟨_, rfl, _⟩
  · exact h.alone hbefore
  · exact absurd rfl hopened

/-- The fetch that is opened first. -/
theorem sole_opened (hids : ids ≠ []) (hfacets : config.facets ≠ []) :
    Sole config ids (now.after config.deadline) ((ofConfig config).openFetch now 0 ids) := by
  have hopened : (ofConfig config).step now (.opened 0 ids) =
      some ((ofConfig config).openFetch now 0 ids) := rfl
  have htransition := step_transition hopened
  have horderly := orderly_of_config config
  have hunderway := underway_opened horderly hfacets hids hopened
  refine ⟨htransition.config_eq, htransition.provided horderly nofun, fun {task} hthere => ?_,
    _, _, hunderway⟩
  rcases htransition.contains_from horderly hthere with hbefore | ⟨_, heq, _⟩
  · cases hbefore
  · exact (Event.opened.inj heq).1.symm

/-- A run after the beginning of a fetch comes to the fetcher, with nothing later than the deadline,
and the fetch is not given up. -/
def Reached (opened : Fetcher) (deadline : Instant) (fetcher : Fetcher) : Prop :=
  ∃ events, opened.run events = some fetcher ∧
    ∀ {time event}, (time, event) ∈ events → time ≤ deadline ∧ event ≠ .dropped 0

theorem Reached.step {opened : Fetcher} (h : Reached opened deadline fetcher)
    (hstep : fetcher.step now event = some next) (hnow : now ≤ deadline)
    (hkept : event ≠ .dropped 0) : Reached opened deadline next := by
  obtain ⟨events, hrun, hevents⟩ := h
  refine ⟨events ++ [(now, event)], fold_concat.2 ⟨fetcher, hrun, hstep⟩, ?_⟩
  intro time other hmem
  rcases List.mem_append.1 hmem with hmem | hmem
  · exact hevents hmem
  · cases List.mem_singleton.1 hmem
    exact ⟨hnow, hkept⟩

end Fetches

end GameLibrary.Fetcher
