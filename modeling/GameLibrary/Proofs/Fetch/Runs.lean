import GameLibrary.Fetch.Step
import GameLibrary.Proofs.Histories

/-!
# Steps and runs of the fetcher

`Fetcher.Transition` states the steps of a fetcher as rules, and `Fetcher.step_transition` says that
the fetcher steps by these rules only. A run is a sequence of events, each at its own time. Nothing
compels a timer to go off when its time has come; where a result depends on it, `Fetcher.Punctual`
says so.
-/

namespace GameLibrary.Fetcher

/-- The steps of a fetcher: for each event the tasks and fetches that it can happen to, and what it
does. -/
inductive Transition (fetcher : Fetcher) (now : Instant) : Event → Fetcher → Prop where
  | opened {id ids} : fetcher.fetches.find? id = none →
      Transition fetcher now (.opened id ids) (fetcher.openFetch now id ids)
  | admitted {task} : fetcher.tasks.find? task = some .fresh → 0 < fetcher.free →
      Transition fetcher now (.begun task)
        (({ fetcher with free := fetcher.free - 1 } : Fetcher).call now task []
          (fetcher.batchesOf task))
  | queued {task} : fetcher.tasks.find? task = some .fresh → fetcher.free = 0 →
      Transition fetcher now (.begun task)
        (({ fetcher with queue := fetcher.queue ++ [task] } : Fetcher).setTask task .queued)
  | resumed {task} : fetcher.tasks.find? task = some .granted →
      Transition fetcher now (.resumed task) (fetcher.call now task [] (fetcher.batchesOf task))
  | answered {task answers batch later since items} :
      fetcher.tasks.find? task = some (.calling answers batch later since) →
      Transition fetcher now (.answered task (.ok items))
        (fetcher.call now task (answers ++ [items]) later)
  | refused {task answers batch later since failure} :
      fetcher.tasks.find? task = some (.calling answers batch later since) →
      Transition fetcher now (.answered task (.error failure))
        (fetcher.finish task (.error failure))
  | timedOut {task answers batch later since} :
      fetcher.tasks.find? task = some (.calling answers batch later since) →
      fetcher.config.callTimeout ≤ now.since since →
      Transition fetcher now (.timedOut task)
        (fetcher.finish task (.error (.callTimeout task.facet.name fetcher.config.callTimeout)))
  | crashed {task answers batch later since} :
      fetcher.tasks.find? task = some (.calling answers batch later since) →
      Transition fetcher now (.crashed task) ((fetcher.removeTask task).closeIfDone task.fetch)
  | expired {id fetch} : fetcher.fetches.find? id = some fetch → fetch.result = none →
      fetch.deadline ≤ now →
      Transition fetcher now (.expired id) ((fetcher.abort id).closeIfDone id)
  | dropped {id fetch} : fetcher.fetches.find? id = some fetch →
      Transition fetcher now (.dropped id)
        { fetcher.abort id with fetches := (fetcher.abort id).fetches.erase id }

/-- A fetcher steps by its rules only. -/
theorem step_transition {fetcher next : Fetcher} {now : Instant} {event : Event}
    (hstep : fetcher.step now event = some next) : fetcher.Transition now event next := by
  unfold step at hstep
  cases event with
  | opened id ids | resumed task | crashed task | dropped id =>
      dsimp only at hstep
      split at hstep
      · rename_i hfound
        cases hstep
        constructor
        exact hfound
      · cases hstep
  | begun task =>
      dsimp only at hstep
      split at hstep
      · rename_i hfresh
        split at hstep
        · rename_i hfree
          cases hstep
          exact .admitted hfresh hfree
        · rename_i hfull
          cases hstep
          exact .queued hfresh (Nat.eq_zero_of_not_pos hfull)
      · cases hstep
  | answered task result =>
      dsimp only at hstep
      split at hstep
      · rename_i hcalling
        cases result with
        | ok items =>
            cases hstep
            exact .answered hcalling
        | error failure =>
            cases hstep
            exact .refused hcalling
      · cases hstep
  | timedOut task =>
      dsimp only at hstep
      split at hstep
      · rename_i hcalling
        split at hstep
        · rename_i hlimit
          cases hstep
          exact .timedOut hcalling hlimit
        · cases hstep
      · cases hstep
  | expired id =>
      dsimp only at hstep
      split at hstep
      · rename_i fetch hfetch
        split at hstep
        · rename_i hover
          cases hstep
          exact .expired hfetch (Option.isNone_iff_eq_none.1 hover.1) hover.2
        · cases hstep
      · cases hstep

section Config

@[simp] theorem config_release (fetcher : Fetcher) : fetcher.release.config = fetcher.config := by
  unfold release
  split <;> rfl

@[simp] theorem config_remove_task (fetcher : Fetcher) (task : TaskId) :
    (fetcher.removeTask task).config = fetcher.config := by
  unfold removeTask
  split
  · rfl
  · dsimp only
    split
    · rw [config_release]
    · rfl

@[simp] theorem config_close_if_done (fetcher : Fetcher) (id : FetchId) :
    (fetcher.closeIfDone id).config = fetcher.config := by
  unfold closeIfDone
  split
  · split <;> rfl
  · rfl

@[simp] theorem config_finish (fetcher : Fetcher) (task : TaskId)
    (result : Except Failure Ranking) : (fetcher.finish task result).config = fetcher.config := by
  unfold finish
  dsimp only
  split
  · rw [config_close_if_done]
    exact config_remove_task ..
  · exact config_remove_task ..

@[simp] theorem config_call (fetcher : Fetcher) (now : Instant) (task : TaskId)
    (answers : List (List RankedItem)) (later : List (List String)) :
    (fetcher.call now task answers later).config = fetcher.config := by
  unfold call
  split
  · exact config_finish ..
  · rfl

@[simp] theorem config_abort (fetcher : Fetcher) (id : FetchId) :
    (fetcher.abort id).config = fetcher.config :=
  List.foldlRecOn (motive := fun next : Fetcher => next.config = fetcher.config) _ _ rfl
    fun _ hconfig _ _ => (config_remove_task ..).trans hconfig

@[simp] theorem config_open_fetch (fetcher : Fetcher) (now : Instant) (id : FetchId)
    (ids : List String) : (fetcher.openFetch now id ids).config = fetcher.config := by
  unfold openFetch
  dsimp only
  split
  · rfl
  · exact List.foldlRecOn (motive := fun next : Fetcher => next.config = fetcher.config) _ _ rfl
      fun _ hconfig _ _ => hconfig

/-- Every step leaves the settings as they are. -/
theorem Transition.config_eq {fetcher next : Fetcher} {now : Instant} {event : Event}
    (hstep : fetcher.Transition now event next) : next.config = fetcher.config := by
  cases hstep with
  | opened => exact config_open_fetch ..
  | queued => rfl
  | admitted | resumed | answered => exact config_call ..
  | refused | timedOut => exact config_finish ..
  | crashed => exact (config_close_if_done ..).trans (config_remove_task ..)
  | expired => exact (config_close_if_done ..).trans (config_abort ..)
  | dropped => exact config_abort ..

end Config

/-- What an event does at its time. -/
def stepAt (fetcher : Fetcher) (event : Instant × Event) : Option Fetcher :=
  fetcher.step event.1 event.2

/-- The fetcher after a sequence of events, if each of them can happen when its turn comes. -/
def run (fetcher : Fetcher) (events : List (Instant × Event)) : Option Fetcher :=
  events.foldlM stepAt fetcher

section Timers

/-- When a timer that has been set goes off: that of a fetch without result at its deadline, and that
of a call when it has taken its time. -/
def rings? (fetcher : Fetcher) : Event → Option Instant
  | .expired id =>
      match fetcher.fetches.find? id with
      | some fetch => if fetch.result.isNone then some fetch.deadline else none
      | none => none
  | .timedOut task =>
      match fetcher.tasks.find? task with
      | some (.calling _ _ _ since) => some (since.after fetcher.config.callTimeout)
      | _ => none
  | _ => none

/-- The moment has passed at which a timer was to go off. -/
def Overdue (fetcher : Fetcher) (timer : Event) (now : Instant) : Prop :=
  ∃ moment, fetcher.rings? timer = some moment ∧ moment < now

/-- A timer does not go off late in a run: nothing else happens once it is overdue. -/
def Punctual (fetcher : Fetcher) (events : List (Instant × Event)) (timer : Event) : Prop :=
  ¬ Happens stepAt fetcher events fun state event =>
    state.Overdue timer event.1 ∧ event.2 ≠ timer

variable {fetcher : Fetcher} {id : FetchId} {task : TaskId} {now moment : Instant}

theorem rings_expired : fetcher.rings? (.expired id) = some moment ↔ ∃ fetch,
    fetcher.fetches.find? id = some fetch ∧ fetch.result = none ∧ fetch.deadline = moment := by
  unfold rings?
  dsimp only
  split
  · rename_i fetch hfetch
    simp [hfetch]
  · rename_i hnone
    simp [hnone]

theorem rings_timed_out : fetcher.rings? (.timedOut task) = some moment ↔
    ∃ answers batch later since,
      fetcher.tasks.find? task = some (.calling answers batch later since) ∧
      since.after fetcher.config.callTimeout = moment := by
  unfold rings?
  dsimp only
  split
  · rename_i hcalling
    simp [hcalling]
  · rename_i hnot
    refine iff_of_false nofun ?_
    rintro ⟨answers, batch, later, since, hcalling, -⟩
    exact hnot _ _ _ _ hcalling

/-- A timer can go off as soon as its moment has come, so there is nothing that it would have to wait
for. -/
theorem step_of_rings {timer : Event} (hrings : fetcher.rings? timer = some moment)
    (hnow : moment ≤ now) : ∃ next, fetcher.step now timer = some next := by
  cases timer with
  | expired id =>
      obtain ⟨fetch, hfetch, hopen, rfl⟩ := rings_expired.1 hrings
      refine ⟨(fetcher.abort id).closeIfDone id, ?_⟩
      unfold step
      dsimp only
      rw [hfetch]
      exact if_pos ⟨by rw [hopen]; rfl, hnow⟩
  | timedOut task =>
      obtain ⟨answers, batch, later, since, hcalling, rfl⟩ := rings_timed_out.1 hrings
      refine ⟨fetcher.finish task
        (.error (.callTimeout task.facet.name fetcher.config.callTimeout)), ?_⟩
      unfold step
      dsimp only
      rw [hcalling]
      exact if_pos (Nat.le_sub_of_add_le' hnow)
  | _ => cases hrings

end Timers

end GameLibrary.Fetcher
