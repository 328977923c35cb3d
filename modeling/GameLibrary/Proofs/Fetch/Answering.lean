import GameLibrary.Fetch.Rehearsal
import GameLibrary.Proofs.Fetch.Turns
import GameLibrary.Proofs.Key.Identity
import GameLibrary.Proofs.Popularity.Merging
import GameLibrary.Proofs.Time.Agenda

/-!
# What a fetch is asked for

Where the service answers at once, and for each id always in the same way, a fetch runs its tasks one
after the other, each from its first batch to its last one (`Stage.AtRest.run_tasks`), and the facets
and the ids tell its outcome (`play_answering`). The report depends on how often an id is asked for,
and the key of the ids does not. So of the lists with one key those give the same report which are
the same but for their order (`play_same_key`).
-/

namespace GameLibrary

/-- What a report says, but for the time at which it was fetched. -/
def Report.content (report : Report) : (Facet → Option Ranking) × List Facet × Nat :=
  (report.rankings, report.failed, report.requested)

/-- Which facets have succeeded and which have failed. -/
def Report.coverage (report : Report) : List Facet × List Facet := (report.succeeded, report.failed)

namespace Fetcher

variable {ω : Type} {service : Service ω} {answer : Facet → String → List RankedItem}
  {config : Config} {ids others : List String} {now : Instant} {facet : Facet} {left : List Facet}
  {report : Report} {answers : List (List RankedItem)} {batch : List String}
  {later : List (List String)} {fetcher : Fetcher}

/-- The service answers every call at once with what it has for each of the ids. -/
def Answers (service : Service ω) (answer : Facet → String → List RankedItem) : Prop :=
  ∀ facet ids now world,
    (service facet ids now world).1 = (.zero, .result (.ok (ids.flatMap (answer facet))))

/-- The report with the rankings of the ids for some more facets, as they are answered. -/
def withRankings (answer : Facet → String → List RankedItem) (ids : List String)
    (report : Report) (facets : List Facet) : Report :=
  { report with rankings := fun facet =>
      if facet ∈ facets then some (Ranking.merge [ids.flatMap (answer facet)])
      else report.rankings facet }

/-- What comes of a fetch if the service answers every call at once. A fetch without any time fails
before the first call. -/
def answered (config : Config) (answer : Facet → String → List RankedItem) (ids : List String)
    (now : Instant) : Except Failure Report :=
  if ids = [] ∨ config.facets = [] then .ok (.empty ids.length now)
  else if config.deadline = .zero then
    .error (.originUnavailable (Facet.distinct config.facets).length)
  else .ok (withRankings answer ids (.empty ids.length now) (Facet.distinct config.facets))

/-- The fetch when the tasks for the facets that are left have not told their results. -/
def fetchWith (config : Config) (ids : List String) (now : Instant) (left : List Facet)
    (report : Report) : Fetch where
  ids
  deadline := now.after config.deadline
  attempted := Facet.distinct config.facets
  pending := left
  report

/-- The fetch, which is over if no task is left. -/
def fetchAfter (config : Config) (ids : List String) (now : Instant) (left : List Facet)
    (report : Report) : Fetch :=
  let fetch := fetchWith config ids now left report
  if left = [] then { fetch with result := some fetch.conclusion } else fetch

/-- No task is under way, and those for the facets that are left have not begun. -/
structure Resting (config : Config) (ids : List String) (now : Instant) (left : List Facet)
    (report : Report) (fetcher : Fetcher) : Prop where
  config_eq : fetcher.config = config
  free_eq : fetcher.free = config.permits
  queue_eq : fetcher.queue = []
  tasks_eq : fetcher.tasks.entries = left.map fun facet => (⟨0, facet⟩, .fresh)
  fetch_eq : fetcher.fetches.find? 0 = some (fetchAfter config ids now left report)

/-- The task for a facet calls for a batch, and those for the facets that are left have not begun. -/
structure Working (config : Config) (ids : List String) (now : Instant) (facet : Facet)
    (left : List Facet) (report : Report) (answers : List (List RankedItem)) (batch : List String)
    (later : List (List String)) (fetcher : Fetcher) : Prop where
  config_eq : fetcher.config = config
  free_eq : fetcher.free + 1 = config.permits
  queue_eq : fetcher.queue = []
  tasks_eq : fetcher.tasks.entries =
    (⟨0, facet⟩, .calling answers batch later now) :: left.map fun facet => (⟨0, facet⟩, .fresh)
  fetch_eq : fetcher.fetches.find? 0 = some (fetchWith config ids now (facet :: left) report)

section Tasks

/-- The first of the tasks that have not begun. -/
theorem Resting.fresh (h : Resting config ids now (facet :: left) report fetcher) :
    fetcher.tasks.find? ⟨0, facet⟩ = some .fresh := by
  unfold Table.find?
  rw [h.tasks_eq]
  simp

/-- The task that is under way. -/
theorem Working.calling
    (h : Working config ids now facet left report answers batch later fetcher) :
    fetcher.tasks.find? ⟨0, facet⟩ = some (.calling answers batch later now) := by
  unfold Table.find?
  rw [h.tasks_eq]
  simp

/-- A task that is over is not there. -/
theorem Resting.gone (h : Resting config ids now left report fetcher) (hgone : facet ∉ left) :
    fetcher.tasks.find? ⟨0, facet⟩ = none := by
  unfold Table.find?
  rw [h.tasks_eq, Option.map_eq_none_iff, List.find?_eq_none]
  intro entry hentry
  obtain ⟨other, hother, rfl⟩ := List.mem_map.1 hentry
  simp only [decide_eq_true_eq, TaskId.mk.injEq, true_and]
  rintro rfl
  exact hgone hother

theorem Resting.granted (h : Resting config ids now left report fetcher) :
    Stage.granted fetcher = [] := by
  unfold Stage.granted
  rw [h.tasks_eq, List.filterMap_map, List.filterMap_eq_nil_iff]
  intro facet _
  rfl

theorem Working.granted
    (h : Working config ids now facet left report answers batch later fetcher) :
    Stage.granted fetcher = [] := by
  unfold Stage.granted
  rw [h.tasks_eq, List.filterMap_cons, List.filterMap_map, List.filterMap_eq_nil_iff]
  intro facet _
  rfl

/-- A task begins, since all permits are free. -/
theorem Resting.step_begun (h : Resting config ids now (facet :: left) report fetcher)
    (hbatches : batches config.batchSize ids = batch :: later) :
    ∃ next, fetcher.step now (.begun ⟨0, facet⟩) = some next ∧
      Working config ids now facet left report [] batch later next := by
  have hfree : 0 < fetcher.free := by
    rw [h.free_eq]
    exact Nat.lt_of_lt_of_le Nat.zero_lt_one (Nat.le_max_right config.workers 1)
  have hcalls : fetcher.batchesOf ⟨0, facet⟩ = batch :: later := by
    unfold batchesOf
    rw [h.fetch_eq]
    exact h.config_eq ▸ hbatches
  refine ⟨({ fetcher with free := fetcher.free - 1 } : Fetcher).setTask ⟨0, facet⟩
    (.calling [] batch later now), ?_, ?_⟩
  · unfold step
    dsimp only
    rw [h.fresh]
    dsimp only
    rw [if_pos hfree, hcalls]
    rfl
  · refine ⟨h.config_eq, ?_, h.queue_eq, ?_, h.fetch_eq⟩
    · show fetcher.free - 1 + 1 = config.permits
      rw [Nat.sub_add_cancel hfree, h.free_eq]
    · show Table.put _ _ fetcher.tasks.entries = _
      rw [h.tasks_eq, List.map_cons]
      exact if_pos rfl

/-- A task goes on to the next batch. -/
theorem Working.step_answered {next : List String}
    (h : Working config ids now facet left report answers batch (next :: later) fetcher)
    (items : List RankedItem) :
    ∃ after, fetcher.step now (.answered ⟨0, facet⟩ (.ok items)) = some after ∧
      Working config ids now facet left report (answers ++ [items]) next later after := by
  refine ⟨fetcher.setTask ⟨0, facet⟩ (.calling (answers ++ [items]) next later now), ?_, ?_⟩
  · unfold step
    dsimp only
    rw [h.calling]
    rfl
  · refine ⟨h.config_eq, h.free_eq, h.queue_eq, ?_, h.fetch_eq⟩
    show Table.put _ _ fetcher.tasks.entries = _
    rw [h.tasks_eq]
    exact if_pos rfl

/-- A task that is under way is taken away, and nobody waits for its permit. -/
theorem Working.remove_task
    (h : Working config ids now facet left report answers batch later fetcher) :
    fetcher.removeTask ⟨0, facet⟩ =
      { fetcher with free := config.permits, tasks := fetcher.tasks.erase ⟨0, facet⟩ } := by
  have hholds : (Task.calling answers batch later now).holdsPermit = true := rfl
  unfold removeTask
  rw [h.calling]
  dsimp only
  rw [if_pos hholds, h.queue_eq]
  show ({ fetcher with
    free := fetcher.free + 1
    queue := []
    tasks := fetcher.tasks.erase ⟨0, facet⟩ } : Fetcher) = _
  rw [h.free_eq]

/-- Without the task that is over, the tasks that have not begun are left. -/
theorem Working.entries_erase
    (h : Working config ids now facet left report answers batch later fetcher)
    (hdistinct : facet ∉ left) : (fetcher.tasks.erase ⟨0, facet⟩).entries =
      left.map fun facet => (⟨0, facet⟩, .fresh) := by
  show fetcher.tasks.entries.filter _ = _
  rw [h.tasks_eq, List.filter_cons_of_neg (by simp), List.filter_eq_self]
  intro entry hentry
  obtain ⟨other, hother, rfl⟩ := List.mem_map.1 hentry
  simp only [decide_eq_true_eq, ne_eq, TaskId.mk.injEq, true_and]
  rintro rfl
  exact hdistinct hother

/-- The tasks of a fetch that is the only one. -/
theorem tasks_of_entries
    (hentries : fetcher.tasks.entries = left.map fun facet => (⟨0, facet⟩, .fresh)) :
    fetcher.tasksOf 0 = left.map fun facet => ⟨0, facet⟩ := by
  unfold tasksOf
  rw [hentries, List.map_map]
  refine List.filter_eq_self.2 ?_
  intro task htask
  obtain ⟨facet, -, rfl⟩ := List.mem_map.1 htask
  rfl

/-- A facet that is told has its ranking in the report. -/
theorem record_fetch_with (ranking : Ranking) :
    (fetchWith config ids now (facet :: left) report).record facet (.ok ranking) =
      fetchWith config ids now left (report.insert facet ranking) := by
  show fetchWith config ids now ((facet :: left).erase facet) (report.insert facet ranking) = _
  rw [List.erase_cons_head]

/-- A task ends after its last batch. -/
theorem Working.step_last
    (h : Working config ids now facet left report answers batch [] fetcher)
    (hdistinct : facet ∉ left) (items : List RankedItem) :
    ∃ after, fetcher.step now (.answered ⟨0, facet⟩ (.ok items)) = some after ∧
      Resting config ids now left (report.insert facet (Ranking.merge (answers ++ [items])))
        after := by
  set ranking := Ranking.merge (answers ++ [items])
  have hstep : fetcher.step now (.answered ⟨0, facet⟩ (.ok items)) =
      some (fetcher.finish ⟨0, facet⟩ (.ok ranking)) := by
    unfold step
    dsimp only
    rw [h.calling]
    rfl
  have hfinish : fetcher.finish ⟨0, facet⟩ (.ok ranking) =
      ((fetcher.removeTask ⟨0, facet⟩).setFetch 0
        (fetchWith config ids now left (report.insert facet ranking))).closeIfDone 0 := by
    unfold finish
    dsimp only
    rw [fetches_remove_task, h.fetch_eq]
    dsimp only
    rw [record_fetch_with]
  have hentries : (fetcher.removeTask ⟨0, facet⟩).tasks.entries =
      left.map fun facet => (⟨0, facet⟩, .fresh) := by
    rw [h.remove_task]
    exact h.entries_erase hdistinct
  refine ⟨_, hstep, ?_⟩
  constructor
  case config_eq => exact (config_finish ..).trans h.config_eq
  case free_eq =>
    rw [hfinish, close_if_done_eq, h.remove_task]
    rfl
  case queue_eq =>
    rw [hfinish, close_if_done_eq, h.remove_task]
    exact h.queue_eq
  case tasks_eq =>
    rw [tasks_finish]
    exact hentries
  case fetch_eq =>
    have hfound : fetcher.fetches.find? (TaskId.mk 0 facet).fetch =
        some (fetchWith config ids now (facet :: left) report) := h.fetch_eq
    rw [find?_finish hfound, if_pos rfl, record_fetch_with]
    unfold settled fetchAfter
    rw [tasks_of_entries hentries]
    cases left <;> rfl

end Tasks

namespace Stage

variable {stage after last : Stage ω} {next : Fetcher} {event : Event}
  {rest : List (Appointment Errand)}

/-- A rehearsal comes from one stage to another one in some steps. -/
def Reaches (service : Service ω) (steps : Nat) (stage after : Stage ω) : Prop :=
  ∀ fuel, run service (fuel + steps) stage = run service fuel after

/-- The first errand is run while the fetch is under way. -/
theorem reaches_perform {fetch : Fetch} {time : Instant} {errand : Errand} {late : Bool}
    (hfetch : stage.fetcher.fetches.find? 0 = some fetch) (hopen : fetch.result = none)
    (hagenda : stage.agenda = ⟨time, errand, late⟩ :: rest) :
    Reaches service 1 stage ({ stage with agenda := rest, now := time }.perform service errand) := by
  intro fuel
  obtain ⟨ids, deadline, attempted, pending, report, result⟩ := fetch
  cases hopen
  rw [run, hfetch, hagenda]

theorem Reaches.trans {steps more : Nat} (hfirst : Reaches service steps stage after)
    (hsecond : Reaches service more after last) : Reaches service (more + steps) stage last := by
  intro fuel
  rw [← Nat.add_assoc, hfirst, hsecond]

/-- Nothing is done when the fetch is over. -/
theorem run_over {fetch : Fetch} {outcome : Except Failure Report}
    (hfetch : stage.fetcher.fetches.find? 0 = some fetch) (hover : fetch.result = some outcome)
    (fuel : Nat) : run service fuel stage = stage := by
  obtain ⟨ids, deadline, attempted, pending, report, result⟩ := fetch
  cases hover
  cases fuel with
  | zero => rfl
  | succ fuel => rw [run, hfetch]

/-- An event that gives no task a permit leaves the agenda as it is. -/
theorem proceed_eq (hstep : stage.fetcher.step stage.now event = some next)
    (hnone : granted next = []) :
    stage.proceed event =
      { stage with fetcher := next, peak := max stage.peak next.running } := by
  unfold proceed
  rw [hstep]
  dsimp only
  rw [hnone]
  rfl

theorem fetcher_proceed (hstep : stage.fetcher.step stage.now event = some next) :
    (stage.proceed event).fetcher = next := by
  unfold proceed
  rw [hstep]

/-- The tasks for the facets that are left are about to begin. -/
structure AtRest (config : Config) (ids : List String) (now : Instant) (left : List Facet)
    (report : Report) (rest : List (Appointment Errand)) (stage : Stage ω) : Prop where
  resting : Resting config ids now left report stage.fetcher
  now_eq : stage.now = now
  agenda_eq : stage.agenda = (left.map fun facet => ⟨now, .begin ⟨0, facet⟩, false⟩) ++ rest

/-- The answer to the call of the task for a facet is about to come. -/
structure AtCall (answer : Facet → String → List RankedItem) (config : Config) (ids : List String)
    (now : Instant) (facet : Facet) (left : List Facet) (report : Report)
    (answers : List (List RankedItem)) (batch : List String) (later : List (List String))
    (rest : List (Appointment Errand)) (stage : Stage ω) : Prop where
  working : Working config ids now facet left report answers batch later stage.fetcher
  now_eq : stage.now = now
  agenda_eq : stage.agenda =
    ⟨now, .reply ⟨0, facet⟩ (.result (.ok (batch.flatMap (answer facet)))), false⟩ ::
      (left.map fun facet => ⟨now, .begin ⟨0, facet⟩, false⟩) ++ rest

/-- The answer to a call comes next. -/
theorem follow_working (hanswers : Answers service answer)
    (hworking : Working config ids now facet left report answers batch later stage.fetcher)
    (hnow : stage.now = now)
    (hagenda : stage.agenda = (left.map fun facet => ⟨now, .begin ⟨0, facet⟩, false⟩) ++ rest) :
    AtCall answer config ids now facet left report answers batch later rest
      (stage.follow service ⟨0, facet⟩) := by
  rcases hcall : service facet batch stage.now stage.world with ⟨⟨delay, reply⟩, world⟩
  have hreply : (delay, reply) = (.zero, .result (.ok (batch.flatMap (answer facet)))) := by
    rw [← hanswers facet batch stage.now stage.world, hcall]
  cases hreply
  have hlimit : Duration.zero ≤ stage.fetcher.config.callTimeout := Nat.zero_le _
  have hfollow : stage.follow service ⟨0, facet⟩ = { stage with
      world
      agenda := ⟨stage.now, .reply ⟨0, facet⟩ (.result (.ok (batch.flatMap (answer facet)))), false⟩
        :: stage.agenda } := by
    unfold follow
    rw [hworking.calling]
    dsimp only
    rw [hcall]
    dsimp only
    rw [if_pos hlimit]
    rfl
  rw [hfollow]
  refine ⟨hworking, hnow, ?_⟩
  dsimp only
  rw [hnow, hagenda]
  rfl

/-- A task that is over does not call any more. -/
theorem follow_resting (h : Resting config ids now left report stage.fetcher)
    (hgone : facet ∉ left) : stage.follow service ⟨0, facet⟩ = stage := by
  unfold follow
  rw [h.gone hgone]

/-- The next task begins. -/
theorem AtRest.begin (hanswers : Answers service answer)
    (h : AtRest config ids now (facet :: left) report rest stage)
    (hbatches : batches config.batchSize ids = batch :: later) :
    ∃ after, Reaches service 1 stage after ∧
      AtCall answer config ids now facet left report [] batch later rest after := by
  obtain ⟨next, hstep, hworking⟩ := h.resting.step_begun hbatches
  refine ⟨_, reaches_perform h.resting.fetch_eq rfl h.agenda_eq, ?_⟩
  refine follow_working hanswers ?_ ?_ ?_
  all_goals rw [proceed_eq hstep hworking.granted]
  · exact hworking
  · rfl

/-- The task goes on to its next call. -/
theorem AtCall.go_on {batch' : List String} (hanswers : Answers service answer)
    (h : AtCall answer config ids now facet left report answers batch (batch' :: later) rest stage) :
    ∃ after, Reaches service 1 stage after ∧
      AtCall answer config ids now facet left report (answers ++ [batch.flatMap (answer facet)])
        batch' later rest after := by
  obtain ⟨next, hstep, hworking⟩ := h.working.step_answered (batch.flatMap (answer facet))
  refine ⟨_, reaches_perform h.working.fetch_eq rfl h.agenda_eq, ?_⟩
  refine follow_working hanswers ?_ ?_ ?_
  all_goals rw [proceed_eq hstep hworking.granted]
  · exact hworking
  · rfl

/-- The task ends with its last call. -/
theorem AtCall.end_task
    (h : AtCall answer config ids now facet left report answers batch [] rest stage)
    (hdistinct : facet ∉ left) :
    ∃ after, Reaches service 1 stage after ∧
      AtRest config ids now left
        (report.insert facet (Ranking.merge (answers ++ [batch.flatMap (answer facet)]))) rest
        after := by
  obtain ⟨next, hstep, hresting⟩ := h.working.step_last hdistinct (batch.flatMap (answer facet))
  refine ⟨_, reaches_perform h.working.fetch_eq rfl h.agenda_eq, ?_⟩
  show AtRest _ _ _ _ _ _ ((proceed _ _).follow service ⟨0, facet⟩)
  rw [proceed_eq hstep hresting.granted, follow_resting hresting hdistinct]
  exact ⟨hresting, rfl, rfl⟩

/-- A task that calls has its remaining calls answered. -/
theorem AtCall.run_calls (hanswers : Answers service answer)
    (h : AtCall answer config ids now facet left report answers batch later rest stage)
    (hdistinct : facet ∉ left) :
    ∃ after, Reaches service (later.length + 1) stage after ∧
      AtRest config ids now left
        (report.insert facet (Ranking.merge
          (answers ++ (batch :: later).map fun batch => batch.flatMap (answer facet)))) rest
        after := by
  -- Over the batches that come after the one asked for; what is answered goes over to `answers`.
  induction later generalizing stage answers batch with
  | nil => exact h.end_task hdistinct
  | cons batch' later ih =>
      obtain ⟨between, hcall, hnext⟩ := h.go_on hanswers
      obtain ⟨after, hcalls, hrest⟩ := ih hnext
      refine ⟨after, hcall.trans hcalls, ?_⟩
      rw [List.append_assoc, List.singleton_append] at hrest
      exact hrest

/-- The answers for the batches are together the answer for all ids. -/
theorem merge_batches (size : Nat) (ids : List String) (items : String → List RankedItem) :
    Ranking.merge ((batches size ids).map fun batch => batch.flatMap items) =
      Ranking.merge [ids.flatMap items] := by
  have hflatten : ((batches size ids).map fun batch => batch.flatMap items).flatten =
      ids.flatMap items := by
    calc ((batches size ids).map fun batch => batch.flatMap items).flatten
      _ = (batches size ids).flatMap fun batch => (id batch).flatMap items := rfl
      _ = ((batches size ids).flatMap id).flatMap items := List.flatMap_assoc.symm
      _ = ids.flatMap items := by rw [List.flatMap_id, batches_flatten]
  unfold Ranking.merge
  rw [hflatten, List.flatten_singleton]

/-- The rankings for the facets that are left come after that for the first one. -/
theorem with_rankings_insert (facet : Facet) (left : List Facet) :
    withRankings answer ids
        (report.insert facet (Ranking.merge [ids.flatMap (answer facet)])) left =
      withRankings answer ids report (facet :: left) := by
  unfold withRankings Report.insert
  congr
  funext other
  by_cases hother : other = facet
  · subst hother
    rw [if_pos List.mem_cons_self]
    split
    · rfl
    · exact if_pos rfl
  · have hmem : other ∈ facet :: left ↔ other ∈ left := by
      rw [List.mem_cons, or_iff_right hother]
    simp only [hmem, if_neg hother]

/-- The tasks that are left run one after the other. -/
theorem AtRest.run_tasks (hanswers : Answers service answer) (hids : ids ≠ [])
    (hdistinct : left.Nodup) (h : AtRest config ids now left report rest stage) :
    ∃ after,
      Reaches service (left.length * ((batches config.batchSize ids).length + 1)) stage after ∧
      AtRest config ids now [] (withRankings answer ids report left) rest after := by
  induction left generalizing stage report with
  | nil => exact ⟨stage, fun fuel => by rw [List.length_nil, Nat.zero_mul]; rfl, h⟩
  | cons facet left ih =>
      obtain ⟨hfacet, hleft⟩ := List.nodup_cons.1 hdistinct
      obtain ⟨batch, later, hbatches⟩ :=
        List.exists_cons_of_ne_nil (batches_ne_nil config.batchSize hids)
      obtain ⟨calling, hbegin, hcall⟩ := h.begin hanswers hbatches
      obtain ⟨ended, hcalls, hended⟩ := hcall.run_calls hanswers hfacet
      rw [List.nil_append, ← hbatches, merge_batches] at hended
      obtain ⟨after, htasks, hafter⟩ := ih hleft hended
      rw [with_rankings_insert] at hafter
      -- A task takes one step to begin and one for each of its batches.
      have hsteps : (facet :: left).length * ((batches config.batchSize ids).length + 1) =
          left.length * ((batches config.batchSize ids).length + 1) + (later.length + 1 + 1) := by
        rw [List.length_cons, Nat.succ_mul, hbatches, List.length_cons]
      refine ⟨after, ?_, hafter⟩
      rw [hsteps]
      exact (hbegin.trans hcalls).trans htasks

end Stage

section Beginnings

/-- The tasks for distinct facets begin in their order. -/
theorem begin_tasks_eq (fetcher : Fetcher) (hnone : fetcher.tasks.entries = [])
    {facets : List Facet} (hdistinct : facets.Nodup) :
    let begun := facets.foldl (fun fetcher facet => fetcher.setTask ⟨0, facet⟩ .fresh) fetcher
    begun = { fetcher with tasks := begun.tasks } ∧
      begun.tasks.entries = facets.map fun facet => (⟨0, facet⟩, .fresh) := by
  induction facets using List.reverseRecOn with
  | nil => exact ⟨rfl, hnone⟩
  | append_singleton facets facet ih =>
      obtain ⟨hfacets, -, hdisjoint⟩ := List.nodup_append.1 hdistinct
      obtain ⟨heq, hentries⟩ := ih hfacets
      simp only [List.foldl_append, List.foldl_cons, List.foldl_nil]
      set begun := facets.foldl (fun fetcher facet => fetcher.setTask ⟨0, facet⟩ .fresh) fetcher
      have hnew : begun.tasks.contains ⟨0, facet⟩ = false := by
        rw [Bool.eq_false_iff, ne_eq, Table.contains_iff, hentries, List.map_map]
        intro hmem
        obtain ⟨other, hother, heq⟩ := List.mem_map.1 hmem
        cases heq
        exact hdisjoint facet hother facet (List.mem_singleton.2 rfl) rfl
      refine ⟨?_, ?_⟩
      · rw [heq]
        rfl
      · rw [List.map_append, ← hentries]
        exact Table.entries_insert _ _ hnew

/-- A fetch with ids and facets begins with a task for each facet. -/
theorem resting_open_fetch (hids : ids ≠ []) (hfacets : Facet.distinct config.facets ≠ [])
    (now : Instant) :
    Resting config ids now (Facet.distinct config.facets) (.empty ids.length now)
      ((ofConfig config).openFetch now 0 ids) := by
  have hsome : ¬ (ids.isEmpty || (Facet.distinct config.facets).isEmpty) = true := by
    simp [hids, hfacets]
  have hopen : (ofConfig config).openFetch now 0 ids =
      (Facet.distinct config.facets).foldl
        (fun fetcher facet => fetcher.setTask ⟨0, facet⟩ .fresh)
        ((ofConfig config).setFetch 0
          (fetchWith config ids now (Facet.distinct config.facets) (.empty ids.length now))) := by
    unfold openFetch
    dsimp only
    exact if_neg hsome
  obtain ⟨heq, hentries⟩ := begin_tasks_eq ((ofConfig config).setFetch 0
    (fetchWith config ids now (Facet.distinct config.facets) (.empty ids.length now))) rfl
    (Facet.nodup_distinct config.facets)
  rw [hopen]
  refine ⟨by rw [heq]; rfl, by rw [heq]; rfl, by rw [heq]; rfl, hentries, ?_⟩
  rw [heq]
  unfold fetchAfter
  rw [if_neg hfacets]
  rfl

/-- A rehearsal of a fetch at its beginning. -/
def Stage.opening (config : Config) (ids : List String) (now : Instant) (world : ω) : Stage ω :=
  let fetcher := (ofConfig config).openFetch now 0 ids
  { fetcher
    now
    world
    agenda := Appointment.arrange now config.deadline .expire true
      ((fetcher.tasksOf 0).map fun id => ⟨now, .begin id, false⟩) }

/-- The errands that are run at most. -/
def fuel (config : Config) (ids : List String) (now : Instant) : Nat :=
  (((ofConfig config).openFetch now 0 ids).tasksOf 0).length *
    ((batches config.batchSize ids).length + 2) + 2

/-- What a fetch comes to that is not given up. -/
theorem result_play (world : ω) : (play service config ids none now world).result =
    (Stage.run service (fuel config ids now) (.opening config ids now world)).fetcher.result? 0 :=
  rfl

/-- A fetch with some time begins with its tasks, and its deadline comes last. -/
theorem at_rest_opening (hids : ids ≠ []) (hfacets : Facet.distinct config.facets ≠ [])
    (hdeadline : config.deadline ≠ .zero) (now : Instant) (world : ω) :
    Stage.AtRest config ids now (Facet.distinct config.facets) (.empty ids.length now)
      [⟨now.after config.deadline, .expire, true⟩] (.opening config ids now world) := by
  have hresting := resting_open_fetch hids hfacets now
  refine ⟨hresting, rfl, ?_⟩
  have hlate : now.nanoseconds < (now.after config.deadline).nanoseconds := by
    refine Nat.lt_add_of_pos_right (Nat.pos_of_ne_zero fun hzero => hdeadline ?_)
    exact congrArg Duration.mk hzero
  show Appointment.arrange now config.deadline Errand.expire true _ = _
  rw [tasks_of_entries hresting.tasks_eq, List.map_map, Appointment.arrange, if_neg hdeadline]
  refine Appointment.enter_last fun first hfirst => ?_
  obtain ⟨facet, -, rfl⟩ := List.mem_map.1 hfirst
  have hlt : ¬ now.after config.deadline < now := Nat.not_lt.2 (Nat.le_of_lt hlate)
  have hne : now.after config.deadline ≠ now := by
    intro heq
    rw [heq] at hlate
    exact Nat.lt_irrefl _ hlate
  simp [Appointment.precedes, hlt, hne]

/-- A fetch of which every facet is answered succeeds. -/
theorem conclusion_with_rankings {facets : List Facet} (hfacets : facets ≠ []) :
    (fetchWith config ids now []
      (withRankings answer ids (.empty ids.length now) facets)).conclusion =
      .ok (withRankings answer ids (.empty ids.length now) facets) := by
  obtain ⟨facet, hfacet⟩ := List.exists_mem_of_ne_nil _ hfacets
  set report := withRankings answer ids (.empty ids.length now) facets
  have hranked : (report.rankings facet).isSome = true := by
    show (if facet ∈ facets then _ else _ : Option Ranking).isSome = true
    rw [if_pos hfacet]
    rfl
  have hsome : ¬ report.succeeded.isEmpty = true := by
    rw [List.isEmpty_iff]
    exact List.ne_nil_of_mem (Report.mem_succeeded.2 hranked)
  exact if_neg hsome

/-- A fetch whose tasks run to their ends. -/
theorem play_in_time (hanswers : Answers service answer) (hids : ids ≠ [])
    (hfacets : Facet.distinct config.facets ≠ []) (hdeadline : config.deadline ≠ .zero)
    (world : ω) : (play service config ids none now world).result =
      some (.ok (withRankings answer ids (.empty ids.length now)
        (Facet.distinct config.facets))) := by
  have hopening := at_rest_opening hids hfacets hdeadline now world
  obtain ⟨after, hreaches, hafter⟩ :=
    hopening.run_tasks hanswers hids (Facet.nodup_distinct config.facets)
  set facets := Facet.distinct config.facets
  have hfuel : fuel config ids now =
      facets.length + 2 + facets.length * ((batches config.batchSize ids).length + 1) := by
    have htasks : ((ofConfig config).openFetch now 0 ids).tasksOf 0 =
        facets.map fun facet => ⟨0, facet⟩ := tasks_of_entries hopening.resting.tasks_eq
    rw [fuel, htasks, List.length_map, Nat.mul_succ]
    omega
  have hover := hafter.resting.fetch_eq
  rw [result_play, hfuel, hreaches, Stage.run_over hover rfl, result_of_found hover]
  exact congrArg some (conclusion_with_rankings hfacets)

/-- Without any time the deadline comes first. -/
theorem opening_expires (service : Service ω) (hids : ids ≠ [])
    (hfacets : Facet.distinct config.facets ≠ []) (hdeadline : config.deadline = .zero)
    (now : Instant) (world : ω) :
    ∃ after, Stage.Reaches service 1 (.opening config ids now world) after ∧
      after.fetcher.fetches.find? 0 = some
        { fetchWith config ids now (Facet.distinct config.facets) (.empty ids.length now) with
          result := some (.error (.originUnavailable (Facet.distinct config.facets).length)) } := by
  set opened := (ofConfig config).openFetch now 0 ids
  have horderly : Orderly opened := ((orderly_of_config config).open_fetch rfl ids).1
  have hfetch : opened.fetches.find? 0 =
      some (fetchWith config ids now (Facet.distinct config.facets) (.empty ids.length now)) :=
    (resting_open_fetch hids hfacets now).fetch_eq.trans (congrArg some (if_neg hfacets))
  have hagenda : (Stage.opening config ids now world).agenda =
      ⟨now.after config.deadline, .expire, true⟩ ::
        (opened.tasksOf 0).map fun id => ⟨now, .begin id, false⟩ := if_pos hdeadline
  have hstep : opened.step (now.after config.deadline) (.expired 0) =
      some ((opened.abort 0).closeIfDone 0) := by
    unfold step
    dsimp only
    rw [hfetch]
    exact if_pos ⟨rfl, Nat.le_refl _⟩
  refine ⟨_, Stage.reaches_perform hfetch rfl hagenda, ?_⟩
  show (Stage.proceed _ (.expired 0)).fetcher.fetches.find? 0 = _
  rw [Stage.fetcher_proceed hstep, find?_of_expiry horderly hfetch]
  rfl

/-- A fetch without any time is over before its first call. -/
theorem play_without_time (hids : ids ≠ []) (hfacets : Facet.distinct config.facets ≠ [])
    (hdeadline : config.deadline = .zero) (world : ω) :
    (play service config ids none now world).result =
      some (.error (.originUnavailable (Facet.distinct config.facets).length)) := by
  obtain ⟨after, hreaches, hover⟩ := opening_expires service hids hfacets hdeadline now world
  rw [result_play, fuel, hreaches, Stage.run_over hover rfl, result_of_found hover]

/-- A fetch without ids or facets is over at once. -/
theorem play_nothing (hnothing : ¬ (ids ≠ [] ∧ config.facets ≠ [])) (world : ω) :
    (play service config ids none now world).result = some (.ok (.empty ids.length now)) := by
  have hopen := open_fetch_of_nothing (ofConfig config) now 0 hnothing
  have hover := congrArg (fun fetcher : Fetcher => fetcher.fetches.find? 0) hopen
  rw [result_play, Stage.run_over hover rfl]
  exact congrArg (fun fetch => fetch.bind Fetch.result) hover

end Beginnings

/-- A fetch has an outcome, and the ids tell which one. -/
theorem play_answering (hanswers : Answers service answer) (config : Config) (ids : List String)
    (now : Instant) (world : ω) :
    (play service config ids none now world).result = some (answered config answer ids now) := by
  unfold answered
  by_cases hnone : ids = [] ∨ config.facets = []
  · rw [if_pos hnone, play_nothing fun hsome => hnone.elim hsome.1 hsome.2]
  · obtain ⟨hids, hfacets⟩ := not_or.1 hnone
    have hdistinct := mt Facet.distinct_eq_nil.1 hfacets
    rw [if_neg hnone]
    by_cases hdeadline : config.deadline = .zero
    · rw [if_pos hdeadline, play_without_time hids hdistinct hdeadline]
    · rw [if_neg hdeadline, play_in_time hanswers hids hdistinct hdeadline]

section Keys

variable {β : Type} {view : Report → β}

/-- Fetches for two lists come to reports that look the same, whatever the service answers and
whenever they begin. -/
def Interchangeable (view : Report → β) (config : Config) (ids others : List String) : Prop :=
  ∀ {ω : Type} (service : Service ω) (answer : Facet → String → List RankedItem),
    Answers service answer → ∀ now now' world world', ∃ outcome,
      (play service config ids none now world).result.map (Except.map view) = some outcome ∧
      (play service config others none now' world').result.map (Except.map view) = some outcome

/-- Lists can be told apart by what is answered for them. -/
theorem interchangeable_iff : Interchangeable view config ids others ↔
    ∀ answer now now', (answered config answer ids now).map view =
      (answered config answer others now').map view := by
  constructor
  · intro h answer now now'
    have hanswers : Answers (fun facet ids _ (world : Unit) =>
        ((.zero, .result (.ok (ids.flatMap (answer facet)))), world)) answer :=
      fun _ _ _ _ => rfl
    obtain ⟨outcome, hids, hothers⟩ := h _ answer hanswers now now' () ()
    rw [play_answering hanswers] at hids hothers
    exact Option.some.inj (hids.trans hothers.symm)
  · intro h ω service answer hanswers now now' world world'
    rw [play_answering hanswers, play_answering hanswers]
    exact ⟨_, rfl, congrArg some (h answer now now').symm⟩

/-- The order of the ids does not matter. -/
theorem interchangeable_of_perm (hperm : ids.Perm others) (config : Config) :
    Interchangeable Report.content config ids others := by
  rw [interchangeable_iff]
  intro answer now now'
  have hids : ids = [] ↔ others = [] := by
    rw [← List.length_eq_zero_iff, hperm.length_eq, List.length_eq_zero_iff]
  have hmerge : ∀ facet, Ranking.merge [ids.flatMap (answer facet)] =
      Ranking.merge [others.flatMap (answer facet)] := by
    intro facet
    apply Ranking.merge_congr
    rw [List.flatten_singleton, List.flatten_singleton]
    exact hperm.flatMap_right _
  unfold answered
  simp only [hids]
  split
  · show Except.ok (Report.content _) = Except.ok (Report.content _)
    rw [hperm.length_eq]
    rfl
  · split
    · rfl
    · show Except.ok (Report.content _) = Except.ok (Report.content _)
      unfold withRankings Report.content
      simp only [hmerge, hperm.length_eq]
      rfl

/-- Which facets succeed is a matter of whether there are ids at all. -/
theorem interchangeable_coverage (hmem : ∀ id, id ∈ ids ↔ id ∈ others) (config : Config) :
    Interchangeable Report.coverage config ids others := by
  rw [interchangeable_iff]
  intro answer now now'
  have hids : ids = [] ↔ others = [] := by
    simp only [List.eq_nil_iff_forall_not_mem, hmem]
  unfold answered
  simp only [hids]
  split
  · rfl
  · split
    · rfl
    · show Except.ok (Report.coverage _) = Except.ok (Report.coverage _)
      have hranked : ∀ (list : List String) (requested : Nat) (time : Instant) (facet : Facet),
          ((withRankings answer list (.empty requested time)
            (Facet.distinct config.facets)).rankings facet).isSome =
              decide (facet ∈ Facet.distinct config.facets) := by
        intro list requested time facet
        show (if _ then _ else _ : Option Ranking).isSome = _
        split <;> simp_all [Report.empty]
      unfold Report.coverage Report.succeeded
      simp only [hranked]
      rfl

/-- How often an id is asked for can be seen from the ranking of any facet. -/
theorem perm_of_interchangeable (hmem : ∀ id, id ∈ ids ↔ id ∈ others)
    (hfacets : config.facets ≠ []) (hdeadline : config.deadline ≠ .zero)
    (h : Interchangeable Report.content config ids others) : ids.Perm others := by
  by_cases hids : ids = []
  · have hothers : others = [] := by
      subst hids
      exact List.eq_nil_iff_forall_not_mem.2 fun id hid => List.not_mem_nil ((hmem id).2 hid)
    rw [hids, hothers]
  · have hothers : others ≠ [] := by
      obtain ⟨id, hid⟩ := List.exists_mem_of_ne_nil _ hids
      exact List.ne_nil_of_mem ((hmem id).1 hid)
    obtain ⟨facet, hfacet⟩ := List.exists_mem_of_ne_nil _ hfacets
    -- The service has one item for each id, so a ranking lists what was asked for.
    let answer : Facet → String → List RankedItem := fun _ id => [⟨id, 1, ⟨0⟩⟩]
    have hlisted : ∀ list : List String,
        ((Ranking.merge [list.flatMap (answer facet)]).map RankedItem.id).Perm list := by
      intro list
      have hlist : [list.flatMap (answer facet)].flatten.map RankedItem.id = list := by
        rw [List.flatten_singleton, List.map_flatMap]
        exact List.flatMap_singleton' list
      have hperm := Ranking.ids_merge [list.flatMap (answer facet)]
      rwa [hlist] at hperm
    have hsame := interchangeable_iff.1 h answer ⟨0⟩ ⟨0⟩
    unfold answered at hsame
    simp only [hids, hothers, hfacets, hdeadline, or_self, if_false] at hsame
    have hranking := congrFun (congrArg Prod.fst (Except.ok.inj hsame)) facet
    have hmerge : Ranking.merge [ids.flatMap (answer facet)] =
        Ranking.merge [others.flatMap (answer facet)] := by
      simpa [Report.content, withRankings, Facet.mem_distinct, hfacet] using hranking
    have hids := hlisted ids
    rw [hmerge] at hids
    exact hids.symm.trans (hlisted others)

/-- Lists of ids with one key have reports with the same facets, and these are the same reports
exactly if the lists are the same but for their order, as they are if no id is repeated. -/
theorem play_same_key (hfree : Key.CollisionFree [ids, others])
    (hkey : Key.ofIds ids = Key.ofIds others) :
    (∀ config, Interchangeable Report.coverage config ids others) ∧
      (∀ config : Config, config.facets ≠ [] → config.deadline ≠ .zero →
        (Interchangeable Report.content config ids others ↔ ids.Perm others)) ∧
      (ids.Nodup → others.Nodup →
        ∀ config, Interchangeable Report.content config ids others) := by
  have hmem := hfree.mem_iff List.mem_cons_self (List.mem_cons_of_mem _ List.mem_cons_self) hkey
  refine ⟨interchangeable_coverage hmem, ?_, ?_⟩
  · intro config hfacets hdeadline
    exact ⟨perm_of_interchangeable hmem hfacets hdeadline,
      fun hperm => interchangeable_of_perm hperm config⟩
  · intro hids hothers
    exact interchangeable_of_perm ((List.perm_ext_iff_of_nodup hids hothers).2 hmem)

/-- Two ids the other way round give the same reports, and an id that is repeated gives another
one under the same key. -/
theorem play_same_key_repeated :
    (∀ config, Interchangeable Report.content config ["a", "b"] ["b", "a"]) ∧
      Key.ofIds ["a"] = Key.ofIds ["a", "a"] ∧
      ¬ Interchangeable Report.content {} ["a"] ["a", "a"] := by
  have hpair : Key.CollisionFree [["a", "b"], ["b", "a"]] :=
    .of_mem_iff ["a", "b"] (by unfold Key.Addressable; decide) (by simp [or_comm])
  have hsingle : Key.CollisionFree [["a"], ["a", "a"]] :=
    .of_mem_iff ["a"] (by unfold Key.Addressable; decide) (by simp)
  have hkey : Key.ofIds ["a"] = Key.ofIds ["a", "a"] := Key.of_ids_congr (by simp)
  obtain ⟨-, -, hnodup⟩ := play_same_key hpair (Key.of_ids_congr (by simp [or_comm]))
  obtain ⟨-, hcontent, -⟩ := play_same_key hsingle hkey
  refine ⟨hnodup (by decide) (by decide), hkey, ?_⟩
  rw [hcontent {} (by decide) (by decide)]
  intro hperm
  exact absurd hperm.length_eq (by decide)

end Keys

end Fetcher

end GameLibrary
