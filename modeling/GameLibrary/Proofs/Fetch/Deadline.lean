import GameLibrary.Proofs.Fetch.Answering
import GameLibrary.Proofs.Fetch.Errands
import GameLibrary.Proofs.Time.Agenda

/-!
# A fetch is over by its deadline

In virtual time a fetch that is left to itself is over by its deadline, whatever the service answers
and however long it takes (`play_ends`). The deadline is on the agenda from the beginning, and nothing
that comes before it is later (`Stage.OnCourse`). The rehearsal comes to its end because every errand
leaves fewer of them.
-/

namespace GameLibrary.Fetcher

variable {fetcher next : Fetcher} {now : Instant} {event : Event} {task other : TaskId}

namespace Stage

variable {ω : Type} {service : Service ω} {stage : Stage ω} {config : Config} {ids : List String}
  {opened : Fetcher} {deadline : Instant} {appointment first : Appointment Errand}
  {agenda rest : List (Appointment Errand)}

theorem mem_granted : task ∈ granted fetcher ↔ fetcher.tasks.find? task = some .granted := by
  unfold granted
  rw [List.mem_filterMap, Table.find?_eq_some]
  constructor
  · rintro ⟨⟨other, point⟩, hmem, hpoint⟩
    cases point <;> cases hpoint
    exact hmem
  · intro hmem
    exact ⟨_, hmem, rfl⟩

theorem nodup_granted (fetcher : Fetcher) : (granted fetcher).Nodup := by
  have hdistinct : fetcher.tasks.entries.Pairwise fun a b => a.1 ≠ b.1 :=
    List.pairwise_map.1 fetcher.tasks.distinct
  refine hdistinct.filterMap _ ?_
  rintro ⟨task, point⟩ ⟨task', point'⟩ hne a ha b hb
  cases point <;> cases ha
  cases point' <;> cases hb
  exact hne

/-- A rehearsal in the course of a fetch that is left to itself. -/
structure OnCourse (config : Config) (ids : List String) (opened : Fetcher) (deadline : Instant)
    (stage : Stage ω) : Prop where
  sole : Sole config ids deadline stage.fetcher
  reached : Reached opened deadline stage.fetcher
  ordered : Appointment.Ordered stage.now stage.agenda
  /-- What is to happen can happen. -/
  ready : ∀ appointment ∈ stage.agenda,
    appointment.errand.Ready stage.fetcher deadline appointment.time
  /-- No task has two errands. -/
  distinct : (stage.agenda.filterMap fun appointment => appointment.errand.task?).Nodup
  expires : ∃ appointment ∈ stage.agenda, appointment.errand = .expire

/-- The task has no errand. -/
def Idle (stage : Stage ω) (task : TaskId) : Prop :=
  ∀ appointment ∈ stage.agenda, appointment.errand.task? ≠ some task

/-- The deadline has not passed. -/
theorem OnCourse.now_le (h : OnCourse config ids opened deadline stage) : stage.now ≤ deadline := by
  obtain ⟨⟨time, errand, last⟩, hmem, rfl⟩ := h.expires
  have hready := h.ready _ hmem
  cases hready with
  | expire htime => exact htime ▸ h.ordered.ahead _ hmem

/-- What comes first is not after the deadline. -/
theorem OnCourse.first_le (h : OnCourse config ids opened deadline stage)
    (hagenda : stage.agenda = first :: rest) : first.time ≤ deadline := by
  obtain ⟨⟨time, errand, last⟩, hmem, rfl⟩ := h.expires
  have hready := h.ready _ hmem
  have hordered := h.ordered
  rw [hagenda] at hmem hordered
  cases hready with
  | expire htime => exact htime ▸ hordered.first_le _ hmem

/-- An errand is added for a task that has none. -/
theorem OnCourse.add (h : OnCourse config ids opened deadline stage) (world : ω)
    (hperm : agenda.Perm (appointment :: stage.agenda))
    (hordered : Appointment.Ordered stage.now agenda)
    (hready : appointment.errand.Ready stage.fetcher deadline appointment.time)
    (hidle : ∀ {task}, appointment.errand.task? = some task → stage.Idle task) :
    OnCourse config ids opened deadline { stage with agenda, world } where
  sole := h.sole
  reached := h.reached
  ordered := hordered
  ready other hother := by
    rcases List.mem_cons.1 (hperm.mem_iff.1 hother) with rfl | hother
    · exact hready
    · exact h.ready other hother
  distinct := by
    rw [(hperm.filterMap _).nodup_iff]
    cases htask : appointment.errand.task? with
    | none =>
        simp only [List.filterMap_cons, htask]
        exact h.distinct
    | some task =>
        simp only [List.filterMap_cons, htask]
        refine List.nodup_cons.2 ⟨fun hmem => ?_, h.distinct⟩
        obtain ⟨other, hother, hsame⟩ := List.mem_filterMap.1 hmem
        exact hidle htask other hother hsame
  expires := by
    obtain ⟨expiry, hmem, hexpire⟩ := h.expires
    exact ⟨expiry, hperm.mem_iff.2 (List.mem_cons_of_mem _ hmem), hexpire⟩

/-- Tasks that have been given permits are to go on. -/
theorem OnCourse.resume (h : OnCourse config ids opened deadline stage) {tasks : List TaskId}
    (hdistinct : tasks.Nodup)
    (hgranted : ∀ task ∈ tasks, stage.fetcher.tasks.find? task = some .granted ∧ stage.Idle task) :
    let agenda := tasks.foldl
      (fun agenda task => Appointment.enter ⟨stage.now, .resume task, false⟩ agenda) stage.agenda
    OnCourse config ids opened deadline { stage with agenda } ∧
      ∀ appointment ∈ agenda, appointment ∈ stage.agenda ∨
        ∃ task ∈ tasks, appointment.errand = .resume task := by
  induction tasks generalizing stage with
  | nil => exact ⟨h, fun _ hmem => .inl hmem⟩
  | cons task tasks ih =>
      obtain ⟨hnot, hdistinct⟩ := List.nodup_cons.1 hdistinct
      obtain ⟨hpoint, hidle⟩ := hgranted task List.mem_cons_self
      set entered := Appointment.enter ⟨stage.now, .resume task, false⟩ stage.agenda
      have hperm := Appointment.enter_perm ⟨stage.now, Errand.resume task, false⟩ stage.agenda
      have hentered : OnCourse config ids opened deadline { stage with agenda := entered } := by
        refine h.add stage.world hperm (h.ordered.enter (Nat.le_refl _)) (.resume hpoint) ?_
        rintro _ ⟨⟩
        exact hidle
      obtain ⟨hcourse, hmem⟩ := ih hentered hdistinct fun other hother => by
        obtain ⟨hpoint', hidle'⟩ := hgranted other (List.mem_cons_of_mem _ hother)
        refine ⟨hpoint', fun appointment happointment hsame => ?_⟩
        rcases List.mem_cons.1 (hperm.mem_iff.1 happointment) with rfl | happointment
        · cases hsame
          exact hnot hother
        · exact hidle' appointment happointment hsame
      refine ⟨hcourse, fun appointment happointment => ?_⟩
      rcases hmem appointment happointment with happointment | ⟨other, hother, heq⟩
      · rcases List.mem_cons.1 (hperm.mem_iff.1 happointment) with rfl | happointment
        · exact .inr ⟨task, List.mem_cons_self, rfl⟩
        · exact .inl happointment
      · exact .inr ⟨other, List.mem_cons_of_mem _ hother, heq⟩

/-- When the first errand is taken up, the others are still to come, and its task has none left. -/
theorem OnCourse.pop (h : OnCourse config ids opened deadline stage)
    (hagenda : stage.agenda = first :: rest) (htask : first.errand.task? = some task) :
    let popped := { stage with agenda := rest, now := first.time }
    OnCourse config ids opened deadline popped ∧ popped.Idle task := by
  have hdistinct := h.distinct
  simp only [hagenda, List.filterMap_cons, htask] at hdistinct
  obtain ⟨hnot, hdistinct⟩ := List.nodup_cons.1 hdistinct
  have hordered := h.ordered
  rw [hagenda] at hordered
  refine ⟨⟨h.sole, h.reached, hordered.tail, fun appointment hmem => ?_, hdistinct, ?_⟩, ?_⟩
  · exact h.ready appointment (hagenda ▸ List.mem_cons_of_mem _ hmem)
  · obtain ⟨expiry, hmem, hexpire⟩ := h.expires
    rw [hagenda] at hmem
    rcases List.mem_cons.1 hmem with rfl | hmem
    · rw [hexpire] at htask
      cases htask
    · exact ⟨expiry, hmem, hexpire⟩
  · intro appointment hmem hsame
    exact hnot (List.mem_filterMap.2 ⟨appointment, hmem, hsame⟩)

/-- A task is taken further, and the tasks that are given a permit are to go on. -/
theorem OnCourse.proceed (h : OnCourse config ids opened deadline stage) (hids : ids ≠ [])
    (hevent : event.task? = some task) (hidle : stage.Idle task)
    (hstep : stage.fetcher.step stage.now event = some next) :
    OnCourse config ids opened deadline (stage.proceed event) ∧
      (stage.proceed event).fetcher = next ∧ (stage.proceed event).now = stage.now ∧
      (stage.proceed event).Idle task := by
  have htransition := step_transition hstep
  have hopened : ∀ {id ids}, event ≠ .opened id ids := by
    rintro id ids rfl
    cases hevent
  have hkept : event ≠ .dropped 0 := by
    rintro rfl
    cases hevent
  have hstays : ∀ {other}, other ≠ task →
      Stays (stage.fetcher.tasks.find? other) (next.tasks.find? other) := fun hne =>
    htransition.stays h.sole.orderly (Event.not_concerns hevent hne)
  have hstepped : OnCourse config ids opened deadline
      { stage with fetcher := next, peak := max stage.peak next.running } := by
    refine ⟨h.sole.step hids hstep hopened hkept, h.reached.step hstep h.now_le hkept, h.ordered,
      fun appointment hmem => ?_, h.distinct, h.expires⟩
    refine (h.ready appointment hmem).stays htransition.config_eq fun {other} hother => ?_
    refine hstays ?_
    rintro rfl
    exact hidle appointment hmem hother
  -- Whoever has been given a permit has waited for it, and had no errand.
  have hfresh : ∀ other ∈ (granted next).filter fun id => !(granted stage.fetcher).contains id,
      next.tasks.find? other = some .granted ∧ other ≠ task ∧ stage.Idle other := by
    intro other hother
    obtain ⟨hgranted, hnew⟩ := List.mem_filter.1 hother
    have hgranted := mem_granted.1 hgranted
    have hne : other ≠ task := by
      rintro rfl
      rcases htransition.find?_own h.sole.orderly hevent with hown | hown | ⟨_, _, _, hown⟩ <;>
        cases hown.symm.trans hgranted
    refine ⟨hgranted, hne, fun appointment hmem hsame => ?_⟩
    have hbefore := hstays hne
    rw [hgranted] at hbefore
    generalize hpoint : stage.fetcher.tasks.find? other = point at hbefore
    cases hbefore with
    | same =>
        rw [List.contains_iff_mem.2 (mem_granted.2 hpoint)] at hnew
        cases hnew
    | given =>
        obtain ⟨_, hfound, hnot⟩ := (h.ready appointment hmem).found hsame
        cases hpoint.symm.trans hfound
        exact hnot rfl
  obtain ⟨hcourse, hmem⟩ := hstepped.resume ((nodup_granted next).filter _) fun other hother => by
    obtain ⟨hgranted, -, hother⟩ := hfresh other hother
    exact ⟨hgranted, hother⟩
  unfold Stage.proceed
  rw [hstep]
  refine ⟨hcourse, rfl, rfl, fun appointment happointment hsame => ?_⟩
  rcases hmem appointment happointment with hbefore | ⟨other, hother, heq⟩
  · exact hidle appointment hbefore hsame
  · rw [heq] at hsame
    cases hsame
    exact (hfresh task hother).2.1 rfl

/-- The reply to a call that has just been made is to come, or its timeout. -/
theorem OnCourse.follow (h : OnCourse config ids opened deadline stage) (service : Service ω)
    (hidle : stage.Idle task)
    (hsince : ∀ {answers batch later since},
      stage.fetcher.tasks.find? task = some (.calling answers batch later since) →
      since = stage.now) :
    OnCourse config ids opened deadline (stage.follow service task) ∧
      (stage.follow service task).fetcher = stage.fetcher := by
  unfold Stage.follow
  split
  · rename_i answers batch later since hcalling
    obtain rfl := hsince hcalling
    refine ⟨?_, rfl⟩
    rcases service task.facet batch stage.now stage.world with ⟨⟨time, reply⟩, world⟩
    dsimp only
    split
    · refine h.add world (Appointment.arrange_perm ..) (h.ordered.arrange ..) (.reply hcalling) ?_
      rintro _ ⟨⟩
      exact hidle
    · refine h.add world (Appointment.arrange_perm ..) (h.ordered.arrange ..)
        (.timeOut hcalling ?_) ?_
      · exact (Nat.add_sub_cancel_left ..).ge
      · rintro _ ⟨⟩
        exact hidle
  · exact ⟨h, rfl⟩

/-- An errand of a task takes it further, and leaves less to do. -/
theorem OnCourse.perform (h : OnCourse config ids opened deadline stage) (hids : ids ≠ [])
    (service : Service ω) (hagenda : stage.agenda = first :: rest)
    (htask : first.errand.task? = some task) :
    let after := { stage with agenda := rest, now := first.time }.perform service first.errand
    OnCourse config ids opened deadline after ∧
      after.fetcher.outstanding (batches config.batchSize ids).length <
        stage.fetcher.outstanding (batches config.batchSize ids).length := by
  obtain ⟨hpopped, hidle⟩ := h.pop hagenda htask
  have hready := h.ready first (hagenda ▸ List.mem_cons_self)
  obtain ⟨hevent, next, hstep⟩ := hready.step htask
  set popped : Stage ω := { stage with agenda := rest, now := first.time }
  obtain ⟨hcourse, hfetcher, hnow, hidle⟩ := hpopped.proceed hids hevent hidle hstep
  have htransition := step_transition hstep
  obtain ⟨_, hfound, -⟩ := hready.found htask
  have hless : next.outstanding (batches config.batchSize ids).length <
      stage.fetcher.outstanding (batches config.batchSize ids).length :=
    htransition.outstanding_lt h.sole.orderly hevent
      (congrArg List.length (h.sole.batches_of (Table.contains_of_find? hfound)))
  -- After a call the reply to it is to come.
  have hfollow : OnCourse config ids opened deadline
      ((popped.proceed first.errand.toEvent).follow service task) ∧
      ((popped.proceed first.errand.toEvent).follow service task).fetcher = next := by
    obtain ⟨hcourse, hsame⟩ := hcourse.follow service hidle fun {answers batch later since} hcalling =>
      by
        rw [hfetcher] at hcalling
        rcases htransition.find?_own h.sole.orderly hevent with hown | hown | ⟨_, _, _, hown⟩ <;>
          cases hown.symm.trans hcalling
        exact hnow.symm
    exact ⟨hcourse, hsame.trans hfetcher⟩
  have hperform : popped.perform service first.errand =
        (popped.proceed first.errand.toEvent).follow service task ∨
      popped.perform service first.errand = popped.proceed first.errand.toEvent := by
    cases herrand : first.errand with
    | begin | resume =>
        rw [herrand] at htask
        cases htask
        exact .inl rfl
    | reply other reply =>
        rw [herrand] at htask
        cases htask
        cases reply with
        | result => exact .inl rfl
        | crash => exact .inr rfl
    | timeOut => exact .inr rfl
    | expire | drop =>
        rw [herrand] at htask
        cases htask
  rcases hperform with heq | heq
  · dsimp only
    rw [heq, hfollow.2]
    exact ⟨hfollow.1, hless⟩
  · dsimp only
    rw [heq, hfetcher]
    exact ⟨hcourse, hless⟩

/-- A rehearsal has come to the end of its fetch, not after the deadline. -/
structure Arrived (opened : Fetcher) (deadline : Instant) (stage : Stage ω) : Prop where
  ended : (stage.fetcher.result? 0).isSome = true
  now_le : stage.now ≤ deadline
  reached : Reached opened deadline stage.fetcher

/-- A fetch that is over has arrived. -/
theorem OnCourse.arrived {fetch : Fetch} {outcome : Except Failure Report}
    (h : OnCourse config ids opened deadline stage)
    (hfetch : stage.fetcher.fetches.find? 0 = some fetch) (hover : fetch.result = some outcome) :
    Arrived opened deadline stage := by
  refine ⟨?_, h.now_le, h.reached⟩
  rw [result_of_found hfetch, hover]
  rfl

/-- With the deadline the fetch is over. -/
theorem OnCourse.expire {fetch : Fetch} (h : OnCourse config ids opened deadline stage)
    (service : Service ω) (hagenda : stage.agenda = first :: rest)
    (herrand : first.errand = .expire) (hfetch : stage.fetcher.fetches.find? 0 = some fetch)
    (hopen : fetch.result = none) :
    let after := { stage with agenda := rest, now := first.time }.perform service first.errand
    after.fetcher.fetches.find? 0 = some { fetch with result := some fetch.conclusion } ∧
      Arrived opened deadline after := by
  have htime : first.time = deadline := by
    have hready := h.ready first (hagenda ▸ List.mem_cons_self)
    rw [herrand] at hready
    cases hready with
    | expire htime => exact htime
  have hdeadline : fetch.deadline = deadline := by
    obtain ⟨_, fetch', hunderway⟩ := h.sole.underway
    cases hunderway.found.symm.trans hfetch
    exact hunderway.standing.deadline_eq
  have hstep : stage.fetcher.step first.time (.expired 0) =
      some ((stage.fetcher.abort 0).closeIfDone 0) := by
    unfold Fetcher.step
    dsimp only
    rw [hfetch]
    exact if_pos ⟨by rw [hopen]; rfl, by rw [hdeadline, htime]; exact Nat.le_refl _⟩
  set popped : Stage ω := { stage with agenda := rest, now := first.time }
  have hfetcher : (popped.proceed (.expired 0)).fetcher = (stage.fetcher.abort 0).closeIfDone 0 :=
    fetcher_proceed hstep
  have hnow : (popped.proceed (.expired 0)).now = first.time := by
    unfold Stage.proceed
    rw [show popped.fetcher.step popped.now (.expired 0) = _ from hstep]
  have hperform : popped.perform service first.errand = popped.proceed (.expired 0) := by
    rw [herrand]
    rfl
  have hfound := find?_of_expiry h.sole.orderly hfetch
  dsimp only
  rw [hperform]
  refine ⟨by rw [hfetcher, hfound], ?_, ?_, ?_⟩
  · rw [hfetcher]
    rw [result_of_found hfound]
    rfl
  · rw [hnow]
    exact h.first_le hagenda
  · rw [hfetcher]
    exact h.reached.step hstep (h.first_le hagenda) nofun

/-- A rehearsal with an errand to spare comes to the end of its fetch. -/
theorem OnCourse.run_ends (h : OnCourse config ids opened deadline stage) (hids : ids ≠ [])
    (service : Service ω) {fuel : Nat}
    (hfuel : stage.fetcher.outstanding (batches config.batchSize ids).length < fuel) :
    Arrived opened deadline (run service fuel stage) := by
  induction fuel generalizing stage with
  | zero => exact absurd hfuel (Nat.not_lt_zero _)
  | succ fuel ih =>
      obtain ⟨_, fetch, hunderway⟩ := h.sole.underway
      have hfetch := hunderway.found
      cases hresult : fetch.result with
      | some outcome =>
          rw [run_over hfetch hresult]
          exact h.arrived hfetch hresult
      | none =>
          obtain ⟨first, rest, hagenda⟩ := List.exists_cons_of_ne_nil
            (List.ne_nil_of_mem h.expires.choose_spec.1)
          rw [reaches_perform hfetch hresult hagenda]
          cases htask : first.errand.task? with
          | some task =>
              obtain ⟨hcourse, hless⟩ := h.perform hids service hagenda htask
              exact ih hcourse (by omega)
          | none =>
              have herrand : first.errand = .expire := by
                have hready := h.ready first (hagenda ▸ List.mem_cons_self)
                cases herrand : first.errand with
                | expire => rfl
                | drop =>
                    rw [herrand] at hready
                    cases hready
                | _ =>
                    rw [herrand] at htask
                    cases htask
              obtain ⟨hover, harrived⟩ := h.expire service hagenda herrand hfetch hresult
              rw [run_over hover rfl]
              exact harrived

/-- The errands of a rehearsal at its beginning. -/
theorem agenda_opening (hids : ids ≠ []) (hfacets : config.facets ≠ []) (now : Instant) (world : ω) :
    (opening config ids now world).agenda.Perm
      (⟨now.after config.deadline, .expire, true⟩ ::
        (Facet.distinct config.facets).map fun facet => ⟨now, .begin ⟨0, facet⟩, false⟩) := by
  have hresting := resting_open_fetch hids (mt Facet.distinct_eq_nil.1 hfacets) now
  have hperm := Appointment.arrange_perm now config.deadline Errand.expire true
    ((((ofConfig config).openFetch now 0 ids).tasksOf 0).map fun id =>
      (⟨now, .begin id, false⟩ : Appointment Errand))
  rw [tasks_of_entries hresting.tasks_eq, List.map_map] at hperm
  unfold opening
  dsimp only
  rw [tasks_of_entries hresting.tasks_eq, List.map_map]
  exact hperm

/-- A rehearsal begins with its tasks and its deadline to come. -/
theorem on_course_opening (hids : ids ≠ []) (hfacets : config.facets ≠ []) (now : Instant)
    (world : ω) :
    OnCourse config ids ((ofConfig config).openFetch now 0 ids) (now.after config.deadline)
      (opening config ids now world) := by
  have hresting := resting_open_fetch hids (mt Facet.distinct_eq_nil.1 hfacets) now
  have hperm := agenda_opening hids hfacets now world
  constructor
  case sole => exact sole_opened hids hfacets
  case reached => exact ⟨[], rfl, nofun⟩
  case ordered =>
    refine Appointment.Ordered.arrange ⟨?_, ?_⟩ _ _ _
    · exact List.pairwise_map.2 (List.pairwise_of_forall fun _ _ => Nat.le_refl _)
    · intro appointment hmem
      obtain ⟨_, -, rfl⟩ := List.mem_map.1 hmem
      exact Nat.le_refl _
  case ready =>
    intro appointment hmem
    rcases List.mem_cons.1 (hperm.mem_iff.1 hmem) with rfl | hmem
    · exact .expire rfl
    · obtain ⟨facet, hfacet, rfl⟩ := List.mem_map.1 hmem
      refine .begin ?_
      rw [Table.find?_eq_some]
      show _ ∈ ((ofConfig config).openFetch now 0 ids).tasks.entries
      rw [hresting.tasks_eq]
      exact List.mem_map_of_mem hfacet
  case distinct =>
    rw [(hperm.filterMap _).nodup_iff]
    have htasks : ((Facet.distinct config.facets).map fun facet =>
          (⟨now, .begin ⟨0, facet⟩, false⟩ : Appointment Errand)).filterMap
        (fun appointment => appointment.errand.task?) =
        (Facet.distinct config.facets).map fun facet => (⟨0, facet⟩ : TaskId) := by
      rw [List.filterMap_map, ← List.filterMap_eq_map]
      rfl
    show (List.filterMap _ (List.map _ _)).Nodup
    rw [htasks]
    exact (Facet.nodup_distinct _).map fun _ _ heq => (TaskId.mk.inj heq).2
  case expires => exact ⟨_, hperm.mem_iff.2 List.mem_cons_self, rfl⟩

end Stage

section Plays

variable {ω : Type} {config : Config} {ids : List String}

/-- A fetch has been played to its end in time. -/
structure PlaysOut (config : Config) (ids : List String) (now : Instant)
    (performance : Performance ω) : Prop where
  /-- It is over by its deadline. -/
  in_time : performance.finish ≤ now.after config.deadline
  /-- What has happened is a run of the fetcher, none of it after the deadline, and the fetch tells
  which facets have succeeded in it. -/
  concluded : ∃ events finish outcome,
    ((ofConfig config).openFetch now 0 ids).run events = some finish ∧
    (∀ {time event}, (time, event) ∈ events →
      time ≤ now.after config.deadline ∧ event ≠ .dropped 0) ∧
    finish.result? 0 = some outcome ∧ performance.result = some outcome ∧
    Tells config ids.length (((ofConfig config).openFetch now 0 ids).HasSucceeded events 0) outcome

/-- In virtual time a fetch that is left to itself is over by its deadline, whatever the service
answers, and however long it takes to do so. -/
theorem play_ends (service : Service ω) (config : Config) (ids : List String) (now : Instant)
    (world : ω) : PlaysOut config ids now (play service config ids none now world) := by
  set opened := (ofConfig config).openFetch now 0 ids
  by_cases hsome : ids ≠ [] ∧ config.facets ≠ []
  · obtain ⟨hids, hfacets⟩ := hsome
    have hresting := resting_open_fetch hids (mt Facet.distinct_eq_nil.1 hfacets) now
    have hcourse := Stage.on_course_opening hids hfacets now world
    have hfuel : opened.outstanding (batches config.batchSize ids).length < fuel config ids now := by
      have htasks : opened.tasksOf 0 = (Facet.distinct config.facets).map fun facet => ⟨0, facet⟩ :=
        tasks_of_entries hresting.tasks_eq
      have htotal : opened.outstanding (batches config.batchSize ids).length =
          (Facet.distinct config.facets).length * ((batches config.batchSize ids).length + 2) := by
        unfold outstanding Table.total
        rw [hresting.tasks_eq, List.map_map]
        show ((Facet.distinct config.facets).map fun _ =>
          (batches config.batchSize ids).length + 2).sum = _
        rw [List.map_const', List.sum_replicate_nat]
      unfold fuel
      rw [htotal, htasks, List.length_map]
      omega
    have harrived := hcourse.run_ends hids service hfuel
    obtain ⟨events, hrun, hevents⟩ := harrived.reached
    obtain ⟨outcome, houtcome⟩ := Option.isSome_iff_exists.1 harrived.ended
    obtain ⟨fetch, hunderway⟩ := run_underway hids (fun _ hmem => (hevents hmem).2 rfl)
      (underway_opened (orderly_of_config config) hfacets hids rfl) hrun
    refine ⟨harrived.now_le, events, _, outcome, hrun, hevents, houtcome, houtcome, ?_⟩
    have hresult : fetch.result = some outcome :=
      (result_of_found hunderway.found).symm.trans houtcome
    rw [(hunderway.standing.closed hresult).2]
    exact hunderway.standing.tells
  · have hopened := open_fetch_of_nothing (ofConfig config) now 0 hsome
    have hover := congrArg (fun fetcher : Fetcher => fetcher.fetches.find? 0) hopened
    have hlast : Stage.run service (fuel config ids now) (.opening config ids now world) =
        .opening config ids now world := Stage.run_over hover rfl _
    have hfinish : (play service config ids none now world).finish = now := congrArg Stage.now hlast
    have hresult : opened.result? 0 = some (.ok (.empty ids.length now)) :=
      congrArg (fun fetch => fetch.bind Fetch.result) hover
    have hnone : ∀ facet, ¬ opened.HasSucceeded [] 0 facet :=
      fun facet ⟨_, hnone⟩ => not_happens_nil hnone
    refine ⟨?_, [], opened, _, rfl, nofun, hresult, play_nothing hsome world,
      fun {facet} hfacet => absurd hfacet (hnone facet), nofun⟩
    rw [hfinish]
    exact Nat.le_add_right ..

/-- It makes no difference that a fetch may be given up after its deadline. -/
theorem play_patient (service : Service ω) {patience : Duration}
    (hpatience : config.deadline ≤ patience) (ids : List String) (now : Instant) (world : ω) :
    play service config ids (some patience) now world = play service config ids none now world := by
  have hnot : ¬ patience < config.deadline := Nat.not_lt_of_le hpatience
  unfold play
  dsimp only
  rw [if_neg hnot]

end Plays

end GameLibrary.Fetcher
