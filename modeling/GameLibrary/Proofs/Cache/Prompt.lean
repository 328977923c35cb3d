import GameLibrary.Cache.Rehearsal
import GameLibrary.Proofs.Cache.Failures
import GameLibrary.Proofs.Cache.Window
import GameLibrary.Proofs.Time.Agenda

/-!
# Computations that end in time

If no computation takes longer than it may, none is cut off in a rehearsal: the end of a computation
that takes too long is never on the agenda (`Stage.Mild`). So the calls fail as the computations do,
and in no other way.
-/

namespace GameLibrary.Rehearsal

open Cache (Excused Passed Regular)

variable {σ ν ω : Type} {cause : Failure → Prop} {limit : Duration} {compute : Computation ν ω}

/-- The computations end within the limit, and fail in certain ways only. -/
def Prompt (limit : Duration) (cause : Failure → Prop) (compute : Computation ν ω) : Prop :=
  ∀ id now world, ∃ time result, (compute id now world).1 = some (time, result) ∧ time ≤ limit ∧
    ∀ failure, result = .error failure → cause failure

/-- The action is not the end of a computation that takes too long or fails otherwise. -/
def Action.Mild (cause : Failure → Prop) : Action ν → Prop
  | .timeOut => False
  | .finish result => ∀ failure, result = .error failure → cause failure
  | .call _ | .answer | .erase | .write | .drop => True

namespace Stage

/-- Nothing on the agenda lets calls fail otherwise than computations do. -/
structure Mild (limit : Duration) (cause : Failure → Prop) (stage : Stage σ ν ω) : Prop where
  limit_eq : stage.system.cache.config.resolveTimeout = limit
  excused : Excused cause stage.system.cache
  regular : Regular stage.system.cache
  agenda : ∀ {appointment}, appointment ∈ stage.agenda → appointment.errand.action.Mild cause

variable {stage next : Stage σ ν ω} {id : CallId}

theorem Mild.arrange (h : stage.Mild limit cause) (delay : Duration) (id : CallId)
    {action : Action ν} (haction : action.Mild cause) :
    (stage.arrange delay id action).Mild limit cause := by
  refine ⟨h.limit_eq, h.excused, h.regular, fun {appointment} hmem => ?_⟩
  rcases List.mem_cons.1 ((Appointment.arrange_perm ..).mem_iff.1 hmem) with rfl | hmem
  · exact haction
  · exact h.agenda hmem

variable [Backend σ] [Payload ν] {event : System.Event ν}

theorem Mild.happen (h : stage.Mild limit cause) (hnext : stage.happen? event = some next)
    (hfailed : ∀ {id failure}, event = .computed id (.error failure) → cause failure)
    (hin_time : ∀ {id}, event ≠ .timedOut id) : next.Mild limit cause := by
  obtain ⟨system, hsystem, rfl⟩ := Option.map_eq_some_iff.1 hnext
  have htransition := System.step_transition hsystem
  obtain ⟨hexcused, hregular⟩ := htransition.excused h.excused h.regular hfailed hin_time
  exact ⟨(congrArg _ htransition.config_eq.1).trans h.limit_eq, hexcused, hregular, h.agenda⟩

/-- What comes next for a caller is no computation that takes too long. -/
theorem Mild.follow (h : stage.Mild limit cause) (hprompt : Prompt limit cause compute)
    (id : CallId) : (stage.follow compute id).Mild limit cause := by
  unfold Stage.follow
  split
  · refine arrange ?_ _ id trivial
    cases hnext : stage.happen? (.served id) with
    | none => exact h
    | some next => exact h.happen hnext nofun nofun
  · exact h.arrange _ id trivial
  · dsimp only
    obtain ⟨time, result, hresult, hlimit, hcause⟩ := hprompt id stage.system.now stage.world
    rw [hresult]
    dsimp only
    rw [h.limit_eq, if_pos hlimit]
    have hworld : Mild limit cause
        { stage with world := (compute id stage.system.now stage.world).2 } :=
      ⟨h.limit_eq, h.excused, h.regular, h.agenda⟩
    have hfinish : (Action.finish result : Action ν).Mild cause := hcause
    exact hworld.arrange time id hfinish
  · exact h.arrange _ id trivial
  · exact h

theorem Mild.proceed (h : stage.Mild limit cause) (hprompt : Prompt limit cause compute)
    (id : CallId)
    (hfailed : ∀ {id failure}, event = .computed id (.error failure) → cause failure)
    (hin_time : ∀ {id}, event ≠ .timedOut id) :
    (stage.proceed compute id event).Mild limit cause := by
  unfold Stage.proceed
  split
  · rename_i next hnext
    exact (h.happen hnext hfailed hin_time).follow hprompt id
  · exact h

/-- An appointment that is kept leaves nothing worse on the agenda. -/
theorem Mild.keep (h : stage.Mild limit cause) (hprompt : Prompt limit cause compute)
    {appointment : Appointment (Errand ν)} (hmild : appointment.errand.action.Mild cause) :
    (stage.keep compute appointment).Mild limit cause := by
  have hlater : Mild limit cause
      { stage with system := { stage.system with now := appointment.time } } :=
    ⟨h.limit_eq, h.excused, h.regular, h.agenda⟩
  unfold Stage.keep
  dsimp only
  cases haction : appointment.errand.action with
  | call plan =>
      dsimp only
      refine proceed ?_ hprompt _ nofun nofun
      split
      · exact hlater.arrange _ _ trivial
      · exact hlater
  | answer | erase | write | drop => exact hlater.proceed hprompt _ nofun nofun
  | finish result =>
      rw [haction] at hmild
      refine hlater.proceed hprompt _ (fun heq => ?_) nofun
      cases heq
      exact hmild _ rfl
  | timeOut =>
      rw [haction] at hmild
      exact hmild.elim

/-- A rehearsal never comes to a computation that takes too long. -/
theorem Mild.run (h : stage.Mild limit cause) (hprompt : Prompt limit cause compute) (fuel : Nat) :
    (Stage.run compute fuel stage).Mild limit cause := by
  induction fuel generalizing stage with
  | zero => exact h
  | succ fuel ih =>
      unfold Stage.run
      split
      · exact ih (h.proceed hprompt _ nofun nofun)
      · split
        · exact h
        · rename_i appointment agenda hagenda
          have hrest : Mild limit cause { stage with agenda } :=
            ⟨h.limit_eq, h.excused, h.regular, fun hmem =>
              h.agenda (hagenda ▸ List.mem_cons_of_mem _ hmem)⟩
          dsimp only
          split
          · exact ih hrest
          · exact ih (hrest.keep hprompt (h.agenda (hagenda ▸ List.mem_cons_self)))

end Stage

/-- The first appointments are those of the calls. -/
theorem call_of_invitation (beginning : Instant) (plans : List Plan)
    {appointment : Appointment (Errand ν)} (hmem : appointment ∈ invitations beginning plans) :
    ∃ plan, appointment.errand.action = .call plan := by
  unfold invitations at hmem
  refine List.foldlRecOn (motive := fun agenda : List (Appointment (Errand ν)) =>
    ∀ appointment ∈ agenda, ∃ plan, appointment.errand.action = .call plan) _ _
    (fun _ hnone => absurd hnone List.not_mem_nil) ?_ _ hmem
  rintro agenda h ⟨plan, id⟩ - appointment hmem
  rcases List.mem_cons.1 ((Appointment.enter_perm ..).mem_iff.1 hmem) with rfl | hmem
  · exact ⟨plan, rfl⟩
  · exact h _ hmem

/-- Calls for computations that end in time fail only as these do. -/
theorem play_prompt [Backend σ] [Payload ν] {caching : Cache.Config}
    (hprompt : Prompt caching.resolveTimeout cause compute) (plans : List Plan) (store : σ)
    (now : Instant) (world : ω) {failure : Failure}
    (hmem : some (.error failure) ∈
      (play compute plans ⟨.ofConfig caching, store, now, .empty⟩ world).1) :
    Passed cause failure := by
  have hfirst : Stage.Mild caching.resolveTimeout cause
      (⟨⟨.ofConfig caching, store, now, .empty⟩, world, invitations now plans⟩ : Stage σ ν ω) := by
    refine ⟨rfl, Cache.excused_of_config cause caching, Cache.regular_of_config caching,
      fun hmem => ?_⟩
    obtain ⟨plan, hplan⟩ := call_of_invitation now plans hmem
    rw [hplan]
    trivial
  have hlast := hfirst.run hprompt (7 * plans.length + 1)
  obtain ⟨id, -, houtcome⟩ := List.mem_map.1 hmem
  unfold Cache.outcome? at houtcome
  split at houtcome
  · rename_i hcall
    cases houtcome
    exact hlast.excused.calls hcall
  · cases houtcome

end GameLibrary.Rehearsal
