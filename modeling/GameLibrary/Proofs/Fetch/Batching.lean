import GameLibrary.Proofs.Fetch.Answering
import GameLibrary.Proofs.Fetch.Points

/-!
# The calls of a task

A task asks for the batches of its fetch one after the other, and the first call that is not answered
with items is its last one. To say this of a run, the calls of the task are noted down as they are
made and as they end (`callsOf`). `Account` tells them from where the task stands and from what it has
told its fetch: the calls that were answered, in their order, and then the one that is under way or
has failed. `run_batches` draws the conclusion for every run. A facet has its ranking as soon as every
call is answered, and this ranking is merged from the answers; so it is the same for all sizes of the
batches if each id is answered for itself.
-/

namespace GameLibrary.Fetcher

/-- How a call ends. -/
inductive Ending where
  | answered (result : CallResult)
  | timedOut
  | crashed

/-- A call that a task has made. -/
structure SentCall where
  batch : List String
  start : Instant
  /-- When and how it has ended. A call that is cut off never does. -/
  ending : Option (Instant × Ending) := none

namespace SentCall

/-- The items with which the call was answered. -/
def items? (call : SentCall) : Option (List RankedItem) :=
  match call.ending with
  | some (_, .answered (.ok items)) => some items
  | _ => none

/-- The call was answered with items after so long at most. -/
def AnsweredWithin (limit : Duration) (call : SentCall) : Prop :=
  ∃ moment items, call.ending = some (moment, .answered (.ok items)) ∧
    moment.since call.start ≤ limit

/-- No answer was taken after so long. -/
def Prompt (limit : Duration) (call : SentCall) : Prop :=
  ∀ {moment result}, call.ending = some (moment, .answered result) →
    moment.since call.start ≤ limit

/-- The call was not given up before so long. -/
def Patient (limit : Duration) (call : SentCall) : Prop :=
  ∀ {moment}, call.ending = some (moment, .timedOut) → limit ≤ moment.since call.start

/-- Where no answer is taken too late, the calls that are answered are answered in time. -/
theorem Prompt.answered_within {limit : Duration} {call : SentCall} (h : call.Prompt limit) :
    call.items?.isSome = true ↔ call.AnsweredWithin limit := by
  unfold items?
  constructor
  · intro hsome
    split at hsome
    · rename_i moment items hending
      exact ⟨moment, items, hending, h hending⟩
    · cases hsome
  · rintro ⟨moment, items, hending, -⟩
    rw [hending]
    rfl

end SentCall

section Notes

/-- The calls when the last one has ended. -/
def endLast (moment : Instant) (ending : Ending) : List SentCall → List SentCall
  | [] => []
  | [call] => [{ call with ending := some (moment, ending) }]
  | call :: second :: calls => call :: endLast moment ending (second :: calls)

/-- How an event ends the call of a task. -/
def Event.ending? (task : TaskId) : Event → Option Ending
  | .answered other result => if other = task then some (.answered result) else none
  | .timedOut other => if other = task then some .timedOut else none
  | .crashed other => if other = task then some .crashed else none
  | _ => none

/-- Whether a task goes on with an event, and may call again. -/
def Event.goesOn (task : TaskId) : Event → Bool
  | .begun other | .resumed other | .answered other _ => other = task
  | _ => false

/-- The call that a task has under way. -/
def sent (fetcher : Fetcher) (task : TaskId) : List SentCall :=
  match fetcher.tasks.find? task with
  | some (.calling _ batch _ since) => [{ batch, start := since }]
  | _ => []

/-- The calls of a task after an event, which may have ended the last one and begun another one. -/
def noted (task : TaskId) (next : Fetcher) (event : Instant × Event) (calls : List SentCall) :
    List SentCall :=
  let ended :=
    match event.2.ending? task with
    | some ending => endLast event.1 ending calls
    | none => calls
  if event.2.goesOn task then ended ++ next.sent task else ended

/-- What an event does at its time, with the calls of a task noted down. -/
def stepNoting (task : TaskId) (state : Fetcher × List SentCall) (event : Instant × Event) :
    Option (Fetcher × List SentCall) :=
  (state.1.stepAt event).map fun next => (next, noted task next event state.2)

/-- The calls that a task makes in the course of a run, the first one first. -/
def callsOf (fetcher : Fetcher) (task : TaskId) (events : List (Instant × Event)) :
    List SentCall :=
  match events.foldlM (stepNoting task) (fetcher, []) with
  | some (_, calls) => calls
  | none => []

/-- Every run can be noted down. -/
theorem run_noting {start finish : Fetcher} {events : List (Instant × Event)} (task : TaskId)
    (hrun : start.run events = some finish) :
    events.foldlM (stepNoting task) (start, []) = some (finish, start.callsOf task events) := by
  have hnoted : ∀ (events : List (Instant × Event)) (state : Fetcher) (calls : List SentCall),
      state.run events = some finish →
      ∃ noted, events.foldlM (stepNoting task) (state, calls) = some (finish, noted) := by
    intro events
    induction events with
    | nil =>
        intro state calls hstate
        cases hstate
        exact ⟨calls, rfl⟩
    | cons event rest ih =>
        intro state calls hstate
        obtain ⟨middle, hstep, hrest⟩ := fold_cons.1 hstate
        obtain ⟨noted, hnoted⟩ := ih middle (noted task middle event calls) hrest
        refine ⟨noted, fold_cons.2 ⟨_, ?_, hnoted⟩⟩
        unfold stepNoting
        rw [hstep, Option.map_some]
  obtain ⟨noted, hnoted⟩ := hnoted events start [] hrun
  unfold callsOf
  rw [hnoted]

theorem end_last_append (moment : Instant) (ending : Ending) (calls : List SentCall)
    (call : SentCall) : endLast moment ending (calls ++ [call]) =
      calls ++ [{ call with ending := some (moment, ending) }] := by
  induction calls with
  | nil => rfl
  | cons first calls ih =>
      cases calls with
      | nil => rfl
      | cons second calls => exact congrArg (first :: ·) ih

/-- When the last call has ended, the calls are those from before but for this one. -/
theorem mem_end_last {moment : Instant} {ending : Ending} {calls : List SentCall} {call : SentCall}
    (hcall : call ∈ endLast moment ending calls) : call ∈ calls ∨ ∃ last,
      calls.getLast? = some last ∧ call = { last with ending := some (moment, ending) } := by
  rcases List.eq_nil_or_concat calls with rfl | ⟨past, last, rfl⟩
  · cases hcall
  · rw [List.concat_eq_append, end_last_append] at hcall
    rcases List.mem_append.1 hcall with hpast | hlast
    · exact .inl (by simp [hpast])
    · exact .inr ⟨last, by simp, List.mem_singleton.1 hlast⟩

/-- What is of no concern to a task is not noted down. -/
theorem noted_of_not_concerns {task : TaskId} {next : Fetcher} {now : Instant} {event : Event}
    {calls : List SentCall} (hnot : ¬ event.Concerns task) :
    noted task next (now, event) calls = calls := by
  unfold noted
  cases event <;> simp_all [Event.Concerns, Event.ending?, Event.goesOn]

/-- Nothing is noted down where no call of the task ends or begins. -/
theorem noted_of_sent_eq_nil {task : TaskId} {next : Fetcher} {now : Instant} {event : Event}
    {calls : List SentCall} (hending : event.ending? task = none) (hsent : next.sent task = []) :
    noted task next (now, event) calls = calls := by
  unfold noted
  dsimp only
  rw [hending, hsent]
  simp

end Notes

variable {config : Config} {fetcher next : Fetcher} {now : Instant} {event : Event}
  {task : TaskId} {id : FetchId} {facet : Facet} {ids : List String} {limit : Duration}
  {pieces : List (List String)} {calls : List SentCall} {told : Option Ranking}

section Accounts

/-- The calls were answered with these items. -/
def Answered (calls : List SentCall) (answers : List (List RankedItem)) : Prop :=
  calls.map SentCall.items? = answers.map some

/-- Calls that were answered with items were answered. -/
theorem Answered.items?_is_some {answers : List (List RankedItem)} (h : Answered calls answers) :
    ∀ call ∈ calls, call.items?.isSome = true := by
  intro call hcall
  have hitems : call.items? ∈ answers.map some := h ▸ List.mem_map_of_mem hcall
  obtain ⟨items, -, hitems⟩ := List.mem_map.1 hitems
  rw [← hitems]
  rfl

/-- The answers can be read off the calls. -/
theorem Answered.filter_map_items? {answers : List (List RankedItem)} (h : Answered calls answers) :
    calls.filterMap SentCall.items? = answers := by
  calc calls.filterMap SentCall.items?
    _ = (calls.map SentCall.items?).filterMap id := by rw [List.filterMap_map]; rfl
    _ = (answers.map some).filterMap id := by rw [h]
    _ = answers := by rw [List.filterMap_map]; exact List.filterMap_some

/-- The calls of a task that is to ask for some pieces, by where it stands and what it has told. -/
inductive Account (limit : Duration) (pieces : List (List String)) :
    Option Task → Option Ranking → List SentCall → Prop where
  /-- It has not called yet, or it never will. -/
  | idle {point} : (∀ {answers batch later since},
      point ≠ some (.calling answers batch later since)) → Account limit pieces point none []
  /-- The calls before the one under way are answered. -/
  | calling {answers batch later since past} : Answered past answers →
      past.map SentCall.batch ++ batch :: later = pieces →
      Account limit pieces (some (.calling answers batch later since)) none
        (past ++ [{ batch, start := since }])
  /-- The last call has failed, or was cut off. -/
  | stopped {answers later past call} : Answered past answers →
      past.map SentCall.batch ++ call.batch :: later = pieces → call.items? = none →
      call.Patient limit → Account limit pieces none none (past ++ [call])
  /-- Every call is answered. -/
  | ended {answers past} : past ≠ [] → Answered past answers →
      past.map SentCall.batch = pieces →
      Account limit pieces none (some (Ranking.merge answers)) past

namespace Account

/-- That others go on is of no concern. -/
theorem aside {point point' : Option Task} (h : Account limit pieces point told calls)
    (hstays : Stays point point') : Account limit pieces point' told calls := by
  cases hstays with
  | same => exact h
  | given =>
      cases h with
      | idle => exact .idle nofun

/-- A task that is cut off has had its last call. -/
theorem cut {point : Option Task} (h : Account limit pieces point told calls) :
    Account limit pieces none told calls := by
  cases h with
  | idle => exact .idle nofun
  | calling hanswered hpieces => exact .stopped hanswered hpieces rfl nofun
  | stopped hanswered hpieces hnone hpatient => exact .stopped hanswered hpieces hnone hpatient
  | ended hsome hanswered hpieces => exact .ended hsome hanswered hpieces

section Calls

variable {answers : List (List RankedItem)} {batch : List String} {later : List (List String)}
  {since : Instant}
  (h : Account limit pieces (some (.calling answers batch later since)) told calls)
include h

/-- A call that fails is the last one. -/
theorem stop {ending : Ending} (hnone : SentCall.items? ⟨batch, since, some (now, ending)⟩ = none)
    (hpatient : SentCall.Patient limit ⟨batch, since, some (now, ending)⟩) :
    Account limit pieces none told (endLast now ending calls) := by
  cases h with
  | idle hidle => exact absurd rfl hidle
  | calling hanswered hpieces =>
      rw [end_last_append]
      exact .stopped hanswered hpieces hnone hpatient

/-- A call that is answered comes to those that were answered before. -/
theorem answered (now : Instant) (items : List RankedItem) :
    endLast now (.answered (.ok items)) calls ≠ [] ∧
      Answered (endLast now (.answered (.ok items)) calls) (answers ++ [items]) ∧
      (endLast now (.answered (.ok items)) calls).map SentCall.batch ++ later = pieces := by
  cases h with
  | idle hidle => exact absurd rfl hidle
  | calling hanswered hpieces =>
      rw [end_last_append]
      refine ⟨List.append_ne_nil_of_right_ne_nil _ (List.cons_ne_nil _ _), ?_, ?_⟩
      · unfold Answered at hanswered ⊢
        rw [List.map_append, List.map_append, hanswered]
        rfl
      · rw [List.map_append, List.append_assoc]
        exact hpieces

/-- The call under way is the last one. -/
theorem last : calls.getLast? = some { batch, start := since } := by
  cases h with
  | idle hidle => exact absurd rfl hidle
  | calling => simp

/-- A task tells its result at its end. -/
theorem told_eq_none : told = none := by
  cases h <;> rfl

end Calls

/-- No call follows one that is not answered. -/
theorem stops {point : Option Task} (h : Account limit pieces point told calls)
    {earlier later : List SentCall} {call : SentCall} (hcalls : calls = earlier ++ call :: later)
    (hlater : later ≠ []) : call.items?.isSome = true := by
  have hmem : ∀ {past last}, past ++ [last] = earlier ++ call :: later → call ∈ past := by
    intro past last heq
    obtain ⟨last', init, rfl⟩ : ∃ last' init, later = init ++ [last'] :=
      ⟨later.getLast hlater, later.dropLast, (List.dropLast_append_getLast hlater).symm⟩
    rw [← List.cons_append, ← List.append_assoc] at heq
    obtain ⟨rfl, -⟩ := List.append_inj' heq rfl
    exact List.mem_append_right _ List.mem_cons_self
  cases h with
  | idle =>
      cases earlier <;> cases hcalls
  | calling hanswered | stopped hanswered =>
      exact hanswered.items?_is_some call (hmem hcalls)
  | ended _ hanswered =>
      refine hanswered.items?_is_some call ?_
      rw [hcalls]
      exact List.mem_append_right _ List.mem_cons_self

/-- The calls ask for the first pieces. -/
theorem pieces_prefix {point : Option Task} (h : Account limit pieces point told calls) :
    calls.map SentCall.batch <+: pieces := by
  cases h with
  | idle => exact List.nil_prefix
  | calling _ hpieces | stopped _ hpieces =>
      rw [List.map_append, ← hpieces]
      exact ⟨_, List.append_assoc ..⟩
  | ended _ _ hpieces => rw [hpieces]

/-- No call was given up too early. -/
theorem patient {point : Option Task} (h : Account limit pieces point told calls) :
    ∀ call ∈ calls, call.Patient limit := by
  have hanswered : ∀ {past answers}, Answered past answers → ∀ call ∈ past,
      call.Patient limit := by
    intro past answers hanswered call hcall moment hending
    have hitems := hanswered.items?_is_some call hcall
    unfold SentCall.items? at hitems
    rw [hending] at hitems
    cases hitems
  intro call hcall
  cases h with
  | idle => cases hcall
  | calling hpast =>
      rcases List.mem_append.1 hcall with hcall | hcall
      · exact hanswered hpast call hcall
      · rw [List.mem_singleton.1 hcall]
        exact nofun
  | stopped hpast _ _ hpatient =>
      rcases List.mem_append.1 hcall with hcall | hcall
      · exact hanswered hpast call hcall
      · rw [List.mem_singleton.1 hcall]
        exact hpatient
  | ended _ hpast => exact hanswered hpast call hcall

/-- A task has told a ranking when every call of it is answered, and it has called for all
pieces. -/
theorem told_iff {point : Option Task} (h : Account limit pieces point told calls) :
    (told.isSome = true ↔ calls ≠ [] ∧ ∀ call ∈ calls, call.items?.isSome = true) ∧
      ∀ {ranking}, told = some ranking → calls.map SentCall.batch = pieces ∧
        ranking = Ranking.merge (calls.filterMap SentCall.items?) := by
  have hlast : ∀ {past : List SentCall} {call : SentCall}, call.items? = none →
      ¬ ∀ other ∈ past ++ [call], other.items?.isSome = true := by
    intro past call hnone hall
    have hsome := hall call (List.mem_append_right _ List.mem_cons_self)
    rw [hnone] at hsome
    cases hsome
  cases h with
  | idle => exact ⟨iff_of_false nofun fun hall => hall.1 rfl, nofun⟩
  | calling => exact ⟨iff_of_false nofun fun hall => hlast rfl hall.2, nofun⟩
  | stopped _ _ hnone => exact ⟨iff_of_false nofun fun hall => hlast hnone hall.2, nofun⟩
  | ended hsome hanswered hpieces =>
      refine ⟨iff_of_true rfl ⟨hsome, hanswered.items?_is_some⟩, ?_⟩
      rintro ranking ⟨rfl⟩
      exact ⟨hpieces, by rw [hanswered.filter_map_items?]⟩

end Account

end Accounts

section Steps

/-- A fetch that begins has no rankings. -/
theorem report_open_fetch (h : Orderly fetcher) (hnew : fetcher.fetches.find? id = none)
    {fetch : Fetch} (hfound : (fetcher.openFetch now id ids).fetches.find? id = some fetch) :
    fetch.report = .empty ids.length now := by
  by_cases hsome : ids ≠ [] ∧ fetcher.config.facets ≠ []
  · obtain ⟨-, hfetches, -⟩ := h.open_tasks now hnew hsome.1 hsome.2
    rw [hfetches, if_pos rfl] at hfound
    cases hfound
    rfl
  · rw [open_fetch_of_nothing fetcher now id hsome, setFetch, Table.find?_insert, if_pos rfl]
      at hfound
    cases hfound
    rfl

/-- The ranking of a facet stays as it is in every turn but that with which the facet succeeds. -/
theorem Turn.rankings_eq {fetch fetch' : Fetch} (h : Turn fetcher next id fetch now event)
    (hfound : fetcher.fetches.find? id = some fetch)
    (hfound' : next.fetches.find? id = some fetch')
    (hnot : ¬ fetcher.Succeeds ⟨id, facet⟩ event) :
    fetch'.report.rankings facet = fetch.report.rankings facet := by
  have hsettled : ∀ fetch : Fetch, (next.settled id fetch).report = fetch.report := by
    intro fetch
    unfold settled
    split <;> rfl
  cases h with
  | aside hspares =>
      rw [hspares.fetch_eq, hfound] at hfound'
      cases hfound'
      rfl
  | @told facet' result _ _ hfetch hsucceeds =>
      rw [hfetch] at hfound'
      cases hfound'
      rw [hsettled]
      cases result with
      | error failure => rfl
      | ok ranking =>
          have hne : facet ≠ facet' := fun heq => hnot ((hsucceeds facet).2 ⟨heq, ranking, rfl⟩)
          exact if_neg hne
  | broken _ _ hfetch =>
      rw [hfetch] at hfound'
      cases hfound'
      rw [hsettled]
  | cut _ _ _ hfetch =>
      rw [hfetch] at hfound'
      cases hfound'
      rfl

/-- The ranking of a facet stays as it is in every step but that with which the facet succeeds. -/
theorem Transition.rankings_eq {fetch' : Fetch} (hstep : fetcher.Transition now event next)
    (h : Orderly fetcher) (hprovided : Provided fetcher)
    (hfound' : next.fetches.find? id = some fetch') (honce : ∀ {ids}, event ≠ .opened id ids)
    (hnot : ¬ fetcher.Succeeds ⟨id, facet⟩ event) :
    ∃ fetch, fetcher.fetches.find? id = some fetch ∧
      fetch'.report.rankings facet = fetch.report.rankings facet := by
  obtain ⟨fetch, hfound⟩ := (hstep.fetch_from hfound').resolve_right fun hopened =>
    hopened.elim fun _ => honce
  have hturn : Turn fetcher next id fetch now event :=
    hstep.turn h hfound (hprovided.ids_ne_nil hfound) (hstep.fetch_kept hfound')
  exact ⟨fetch, hfound, hturn.rankings_eq hfound hfound' hnot⟩

/-- The calls of a task of a fetch for some ids have been noted down. -/
structure Recounts (config : Config) (ids : List String) (task : TaskId) (fetcher : Fetcher)
    (calls : List SentCall) : Prop where
  orderly : Orderly fetcher
  provided : Provided fetcher
  config_eq : fetcher.config = config
  ids_eq : ∀ {asked}, fetcher.idsOf? task.fetch = some asked → asked = ids
  account : ∃ told,
    Account config.callTimeout (batches config.batchSize ids) (fetcher.tasks.find? task) told
      calls ∧
    ∀ {fetch}, fetcher.fetches.find? task.fetch = some fetch →
      fetch.report.rankings task.facet = told

/-- A task that is there is to ask for the batches of the ids. -/
theorem Recounts.batches_of (h : Recounts config ids task fetcher calls) {point : Task}
    (hfound : fetcher.tasks.find? task = some point) :
    fetcher.batchesOf task = batches config.batchSize ids ∧
      batches config.batchSize ids ≠ [] := by
  have hthere := Table.contains_of_find? hfound
  obtain ⟨fetch, hfetch⟩ := Option.isSome_iff_exists.1 (h.orderly.housed hthere)
  have hids : fetch.ids = ids := h.ids_eq (ids_of_found hfetch)
  have hbatches : fetcher.batchesOf task = batches config.batchSize ids := by
    unfold batchesOf
    rw [hfetch]
    dsimp only
    rw [h.config_eq, hids]
  refine ⟨hbatches, ?_⟩
  rw [← hbatches]
  exact Provided.batches_ne_nil h.provided h.orderly hthere

/-- Where a step leaves its rankings to a facet, the calls of its task may be recounted from where
the task stands. -/
theorem Recounts.of_account (h : Recounts config ids task fetcher calls)
    (hstep : fetcher.Transition now event next) (honce : ∀ {ids}, event ≠ .opened task.fetch ids)
    (hnot : ¬ fetcher.Succeeds task event) {noted : List SentCall}
    (haccount : ∀ {told},
      Account config.callTimeout (batches config.batchSize ids) (fetcher.tasks.find? task) told
        calls →
      Account config.callTimeout (batches config.batchSize ids) (next.tasks.find? task) told
        noted) :
    Recounts config ids task next noted where
  orderly := hstep.orderly h.orderly
  provided := hstep.provided h.orderly h.provided
  config_eq := hstep.config_eq.trans h.config_eq
  ids_eq hasked := h.ids_eq ((hstep.ids_from hasked).resolve_right honce)
  account := by
    obtain ⟨told, hcalls, htold⟩ := h.account
    refine ⟨told, haccount hcalls, fun hfound' => ?_⟩
    obtain ⟨fetch, hfound, heq⟩ :=
      hstep.rankings_eq h.orderly h.provided hfound' honce hnot
    exact heq.trans (htold hfound)

/-- Nothing but the answer to its call lets a task succeed. -/
theorem not_succeeds_of_not_concerns (hnot : ¬ event.Concerns task) :
    ¬ fetcher.Succeeds task event := by
  intro hsucceeds
  cases event with
  | answered other result =>
      cases result with
      | ok => exact hnot hsucceeds.1
      | error => cases hsucceeds
  | _ => cases hsucceeds

/-- A task has no call under way unless it calls. -/
theorem sent_eq_nil (hfound : fetcher.tasks.find? task = none) : fetcher.sent task = [] := by
  unfold sent
  rw [hfound]

/-- A task that has a permit makes its first call. -/
theorem Recounts.begin {point : Task} (h : Recounts config ids task fetcher calls)
    (hstep : fetcher.Transition now event next)
    (hevent : event = .begun task ∨ event = .resumed task)
    (hfound : fetcher.tasks.find? task = some point) (hpoint : point.isCalling = false)
    (hnext : next.tasks.find? task = pointOfCall now [] (fetcher.batchesOf task)) :
    Recounts config ids task next (noted task next (now, event) calls) := by
  obtain ⟨hbatches, hsome⟩ := h.batches_of hfound
  obtain ⟨batch, later, hpieces⟩ := List.exists_cons_of_ne_nil hsome
  rw [hbatches, hpieces] at hnext
  have hnoted : noted task next (now, event) calls = calls ++ [{ batch, start := now }] := by
    have hsent : next.sent task = [{ batch, start := now }] := by
      unfold sent
      rw [hnext]
      rfl
    rw [← hsent]
    rcases hevent with rfl | rfl <;> exact if_pos (decide_eq_true rfl)
  rw [hnoted]
  refine h.of_account hstep ?_ ?_ fun {told} hcalls => ?_
  · rcases hevent with rfl | rfl <;> exact nofun
  · rcases hevent with rfl | rfl <;> exact id
  · rw [hnext, hpieces]
    rw [hfound, hpieces] at hcalls
    cases hcalls with
    | idle => exact .calling rfl rfl
    | calling => cases hpoint

/-- A call of the task ends otherwise than with items. -/
theorem Recounts.stop {answers : List (List RankedItem)} {batch : List String}
    {later : List (List String)} {since : Instant} {ending : Ending}
    (h : Recounts config ids task fetcher calls) (hstep : fetcher.Transition now event next)
    (hfound : fetcher.tasks.find? task = some (.calling answers batch later since))
    (hending : event.ending? task = some ending) (hnot : ¬ fetcher.Succeeds task event)
    (hgone : next.tasks.find? task = none)
    (hnone : SentCall.items? ⟨batch, since, some (now, ending)⟩ = none)
    (hpatient : SentCall.Patient config.callTimeout ⟨batch, since, some (now, ending)⟩) :
    Recounts config ids task next (noted task next (now, event) calls) := by
  have hnoted : noted task next (now, event) calls = endLast now ending calls := by
    unfold noted
    dsimp only
    rw [hending, sent_eq_nil hgone]
    simp
  rw [hnoted]
  refine h.of_account hstep ?_ hnot fun hcalls => ?_
  · rintro others rfl
    cases hending
  · rw [hgone]
    exact (hfound ▸ hcalls).stop hnone hpatient

/-- A call of the task is answered with items, and the task goes on to the next batch or succeeds. -/
theorem Recounts.answer {answers : List (List RankedItem)} {batch : List String}
    {later : List (List String)} {since : Instant} {items : List RankedItem}
    (h : Recounts config ids task fetcher calls)
    (hfound : fetcher.tasks.find? task = some (.calling answers batch later since))
    (hstep : fetcher.Transition now (.answered task (.ok items))
      (fetcher.call now task (answers ++ [items]) later)) :
    Recounts config ids task (fetcher.call now task (answers ++ [items]) later)
      (noted task (fetcher.call now task (answers ++ [items]) later)
        (now, .answered task (.ok items)) calls) := by
  have hpoint := find?_call h.orderly now task (answers ++ [items]) later
  set next := fetcher.call now task (answers ++ [items]) later
  set ended := endLast now (.answered (.ok items)) calls
  have hnoted : noted task next (now, .answered task (.ok items)) calls =
      ended ++ next.sent task := by
    unfold noted Event.ending? Event.goesOn
    simp [ended]
  rw [hnoted]
  have honce : ∀ {ids}, Event.answered task (.ok items) ≠ .opened task.fetch ids := nofun
  cases later with
  | cons batch' later =>
      have hsent : next.sent task = [{ batch := batch', start := now }] := by
        unfold sent
        rw [hpoint]
        rfl
      rw [hsent]
      refine h.of_account hstep honce ?_ fun hcalls => ?_
      · rintro ⟨-, answers', batch'', since', hlast⟩
        cases hfound.symm.trans hlast
      · rw [hfound] at hcalls
        obtain ⟨-, hanswered, hpieces⟩ := hcalls.answered now items
        rw [hpoint, hcalls.told_eq_none]
        exact .calling hanswered hpieces
  | nil =>
      rw [sent_eq_nil hpoint, List.append_nil]
      obtain ⟨told, hcalls, -⟩ := h.account
      rw [hfound] at hcalls
      obtain ⟨hsome, hanswered, hpieces⟩ := hcalls.answered now items
      rw [List.append_nil] at hpieces
      refine ⟨hstep.orderly h.orderly, hstep.provided h.orderly h.provided,
        hstep.config_eq.trans h.config_eq,
        fun hasked => h.ids_eq ((hstep.ids_from hasked).resolve_right honce),
        some (Ranking.merge (answers ++ [items])), ?_, fun {fetch'} hfetch' => ?_⟩
      · rw [hpoint]
        exact .ended hsome hanswered hpieces
      obtain ⟨fetch, hfetch⟩ := Option.isSome_iff_exists.1
        (h.orderly.housed (Table.contains_of_find? hfound))
      -- The task tells the ranking that is merged from the answers.
      have hfinish : next.fetches.find? task.fetch = some ((fetcher.removeTask task).settled
          task.fetch (fetch.record task.facet (.ok (Ranking.merge (answers ++ [items]))))) :=
        (find?_finish hfetch).trans (if_pos rfl)
      cases hfinish.symm.trans hfetch'
      unfold settled
      split <;> exact if_pos rfl

/-- The calls are recounted from where the task stands after every step. -/
theorem Recounts.step (h : Recounts config ids task fetcher calls)
    (hstep : fetcher.step now event = some next)
    (honce : ∀ {ids}, event ≠ .opened task.fetch ids) :
    Recounts config ids task next (noted task next (now, event) calls) := by
  by_cases hconcerns : event.Concerns task
  · cases step_transition hstep with
    | opened =>
        cases hconcerns
        exact absurd rfl honce
    | admitted hfresh hfree =>
        cases hconcerns
        have hspent : Orderly { fetcher with free := fetcher.free - 1 } :=
          ⟨h.orderly.queued, h.orderly.distinct, h.orderly.housed⟩
        exact h.begin (step_transition hstep) (.inl rfl) hfresh rfl (find?_call hspent ..)
    | queued hfresh hfull =>
        cases hconcerns
        set waiting := ({ fetcher with queue := fetcher.queue ++ [task] } : Fetcher).setTask task
          .queued
        have hpoint : waiting.tasks.find? task = some .queued :=
          (Table.find?_insert ..).trans (if_pos rfl)
        have hsent : waiting.sent task = [] := by
          unfold sent
          rw [hpoint]
        rw [noted_of_sent_eq_nil rfl hsent]
        refine h.of_account (step_transition hstep) honce id fun hcalls => ?_
        rw [hpoint]
        rw [hfresh] at hcalls
        cases hcalls
        exact .idle nofun
    | resumed hgranted =>
        cases hconcerns
        exact h.begin (step_transition hstep) (.inr rfl) hgranted rfl (find?_call h.orderly ..)
    | answered hcalling =>
        cases hconcerns
        exact h.answer hcalling (step_transition hstep)
    | refused hcalling =>
        cases hconcerns
        refine h.stop (step_transition hstep) hcalling (if_pos rfl) id ?_ rfl nofun
        rw [tasks_finish]
        exact find?_remove_task h.orderly task
    | timedOut hcalling hlimit =>
        cases hconcerns
        refine h.stop (step_transition hstep) hcalling (if_pos rfl) id ?_ rfl ?_
        · rw [tasks_finish]
          exact find?_remove_task h.orderly task
        · intro moment hending
          cases hending
          exact h.config_eq ▸ hlimit
    | crashed hcalling =>
        cases hconcerns
        refine h.stop (step_transition hstep) hcalling (if_pos rfl) id ?_ rfl nofun
        rw [tasks_close_if_done]
        exact find?_remove_task h.orderly task
    | expired =>
        cases hconcerns
        refine h.of_account (step_transition hstep) honce id fun hcalls => ?_
        rw [tasks_close_if_done, find?_abort h.orderly task]
        exact hcalls.cut
    | dropped =>
        cases hconcerns
        refine h.of_account (step_transition hstep) honce id fun hcalls => ?_
        have hgone := find?_abort h.orderly task
        show Account _ _ ((fetcher.abort task.fetch).tasks.find? task) _ _
        rw [hgone]
        exact hcalls.cut
  · rw [noted_of_not_concerns hconcerns]
    exact h.of_account (step_transition hstep) honce (not_succeeds_of_not_concerns hconcerns)
      fun hcalls => hcalls.aside ((step_transition hstep).stays h.orderly hconcerns)

/-- If the timer of a call does not go off late, no answer is taken when its time is over. -/
theorem Recounts.prompt (h : Recounts config ids task fetcher calls)
    (hstep : fetcher.step now event = some next)
    (htimer : fetcher.Overdue (.timedOut task) now → event = .timedOut task)
    (hcalls : ∀ call ∈ calls, call.Prompt config.callTimeout) :
    ∀ call ∈ noted task next (now, event) calls, call.Prompt config.callTimeout := by
  have hended : ∀ {ending}, event.ending? task = some ending →
      ∀ call ∈ endLast now ending calls, call.Prompt config.callTimeout := by
    intro ending hending call hcall
    rcases mem_end_last hcall with hbefore | ⟨last, hlast, rfl⟩
    · exact hcalls call hbefore
    · intro moment result hanswered
      cases hanswered
      cases event with
      | answered other =>
          simp only [Event.ending?, Option.ite_none_right_eq_some, Option.some.injEq] at hending
          obtain ⟨rfl, -⟩ := hending
          obtain ⟨answers, batch, later, since, hcalling⟩ : ∃ answers batch later since,
              fetcher.tasks.find? other = some (.calling answers batch later since) := by
            cases step_transition hstep with
            | answered hcalling | refused hcalling => exact ⟨_, _, _, _, hcalling⟩
          obtain ⟨told, haccount, -⟩ := h.account
          rw [hcalling] at haccount
          cases haccount.last.symm.trans hlast
          by_contra hlate
          have hpassed : since.after config.callTimeout < now :=
            Nat.add_lt_of_lt_sub' (Nat.lt_of_not_le hlate)
          cases htimer ⟨_, rings_timed_out.2 ⟨_, _, _, _, hcalling, h.config_eq ▸ rfl⟩, hpassed⟩
      | timedOut | crashed => simp [Event.ending?] at hending
      | _ => cases hending
  have hsent : ∀ call ∈ next.sent task, call.Prompt config.callTimeout := by
    intro call hcall
    unfold sent at hcall
    split at hcall
    · rw [List.mem_singleton.1 hcall]
      exact nofun
    · cases hcall
  have hnoted : ∀ call ∈ (match event.ending? task with
      | some ending => endLast now ending calls
      | none => calls), call.Prompt config.callTimeout := by
    split
    · rename_i hending
      exact hended hending
    · exact hcalls
  intro call hcall
  unfold noted at hcall
  dsimp only at hcall
  split at hcall
  · rcases List.mem_append.1 hcall with hcall | hcall
    · exact hnoted call hcall
    · exact hsent call hcall
  · exact hnoted call hcall

end Steps

section Runs

/-- What the calls of the task for a facet are in the course of a fetch, and what they mean for the
facet. -/
structure Batched (config : Config) (ids : List String) (facet : Facet) (fetch? : Option Fetch)
    (calls : List SentCall) : Prop where
  /-- The calls ask for a beginning of the list of ids. -/
  consecutive : (calls.map SentCall.batch).flatten <+: ids
  /-- Each of them asks for some ids, and not for too many. -/
  bounded : ∀ call ∈ calls, call.batch ≠ [] ∧ call.batch.length ≤ max config.batchSize 1
  /-- No call follows one that is not answered with items. -/
  stops : ∀ {earlier call later}, calls = earlier ++ call :: later → later ≠ [] →
    call.items?.isSome = true
  /-- No call is given up before its time is over. -/
  patient : ∀ call ∈ calls, call.Patient config.callTimeout
  /-- The facet has succeeded if every call is answered with items, and in no other case. -/
  succeeds : ∀ {fetch}, fetch? = some fetch → ((fetch.report.rankings facet).isSome = true ↔
    calls ≠ [] ∧ ∀ call ∈ calls, call.items?.isSome = true)
  /-- Where no answer is taken when the time of its call is over, this means that every call is
  answered in time. -/
  within : (∀ call ∈ calls, call.Prompt config.callTimeout) → ∀ {fetch}, fetch? = some fetch →
    ((fetch.report.rankings facet).isSome = true ↔
      calls ≠ [] ∧ ∀ call ∈ calls, call.AnsweredWithin config.callTimeout)
  /-- When the facet has succeeded, the calls have asked for all ids, and the ranking is merged from
  their answers. -/
  whole : ∀ {fetch ranking}, fetch? = some fetch → fetch.report.rankings facet = some ranking →
    (calls.map SentCall.batch).flatten = ids ∧
      ranking = Ranking.merge (calls.filterMap SentCall.items?)
  /-- If a batch is answered with what there is for each of its ids, this is the ranking for any
  other size of the batches, too. -/
  uniform : ∀ {answer : String → List RankedItem},
    (∀ call ∈ calls, ∀ {items}, call.items? = some items → items = call.batch.flatMap answer) →
    ∀ {fetch ranking}, fetch? = some fetch → fetch.report.rankings facet = some ranking →
    ∀ size, ranking = Ranking.merge ((batches size ids).map fun batch => batch.flatMap answer)

/-- What has been noted down of a task tells what its calls are. -/
theorem Recounts.batched (h : Recounts config ids ⟨id, facet⟩ fetcher calls) :
    Batched config ids facet (fetcher.fetches.find? id) calls := by
  obtain ⟨told, hcalls, htold⟩ := h.account
  obtain ⟨hsucceeds, hwhole⟩ := hcalls.told_iff
  have hprefix := hcalls.pieces_prefix
  constructor
  case consecutive =>
    obtain ⟨rest, hrest⟩ := hprefix
    refine ⟨rest.flatten, ?_⟩
    rw [← List.flatten_append, hrest, batches_flatten]
  case bounded =>
    intro call hcall
    have hpiece := hprefix.subset (List.mem_map_of_mem hcall)
    exact ⟨ne_nil_of_mem_batches _ _ _ hpiece, length_le_of_mem_batches _ _ _ hpiece⟩
  case stops => exact hcalls.stops
  case patient => exact hcalls.patient
  case succeeds =>
    intro fetch hfetch
    rw [htold hfetch]
    exact hsucceeds
  case within =>
    intro hprompt fetch hfetch
    rw [htold hfetch, hsucceeds]
    refine and_congr_right fun _ => forall₂_congr fun call hcall => ?_
    exact SentCall.Prompt.answered_within (hprompt call hcall)
  case whole =>
    intro fetch ranking hfetch hranking
    obtain ⟨hpieces, hmerged⟩ := hwhole ((htold hfetch).symm.trans hranking)
    exact ⟨by rw [hpieces, batches_flatten], hmerged⟩
  case uniform =>
    intro answer hanswer fetch ranking hfetch hranking size
    obtain ⟨hpieces, rfl⟩ := hwhole ((htold hfetch).symm.trans hranking)
    obtain ⟨-, hall⟩ := hsucceeds.1 (by rw [← htold hfetch, hranking]; rfl)
    have hanswers : calls.filterMap SentCall.items? =
        (calls.map SentCall.batch).map fun batch => batch.flatMap answer := by
      rw [List.map_map, ← List.filterMap_eq_map]
      refine List.filterMap_congr fun call hcall => ?_
      obtain ⟨items, hitems⟩ := Option.isSome_iff_exists.1 (hall call hcall)
      rw [hitems, hanswer call hcall hitems]
      rfl
    rw [hanswers, hpieces, Stage.merge_batches, Stage.merge_batches]

/-- When a fetch has begun, its tasks have not called yet. -/
theorem recounts_opened (h : Orderly fetcher) (hprovided : Provided fetcher)
    (hconfig : fetcher.config = config) (facet : Facet)
    (hopened : fetcher.step now (.opened id ids) = some next) :
    Recounts config ids ⟨id, facet⟩ next [] := by
  have hstep := step_transition hopened
  cases step_transition hopened with
  | opened hnew =>
      refine ⟨hstep.orderly h, hstep.provided h hprovided, hstep.config_eq.trans hconfig, ?_,
        none, ?_, ?_⟩
      · intro asked hasked
        rw [ids_open_fetch, if_pos rfl] at hasked
        exact (Option.some.inj hasked).symm
      · refine .idle fun {answers batch later since} hpoint => ?_
        rw [find?_open_fetch] at hpoint
        split at hpoint
        · cases hpoint
        · have hthere := Table.contains_of_find? hpoint
          rw [h.not_contains hnew] at hthere
          cases hthere
      · intro fetch hfound
        rw [report_open_fetch h hnew hfound]
        rfl

/-- In every run after the beginning of a fetch, the task for a facet asks for the ids batch after
batch, whatever the calls come to, whatever the other tasks and fetches do, and whether the fetch is
cut off or given up. If the timer of its calls does not go off late, no answer is taken when the time
of a call is over. -/
theorem run_batches {before between : List (Instant × Event)} {first second finish : Fetcher}
    {time : Instant} (hbefore : (ofConfig config).run before = some first)
    (hopened : first.step time (.opened id ids) = some second)
    (hbetween : second.run between = some finish)
    (honce : ∀ now others, (now, .opened id others) ∉ between) (facet : Facet) :
    Batched config ids facet (finish.fetches.find? id) (second.callsOf ⟨id, facet⟩ between) ∧
      (second.Punctual between (.timedOut ⟨id, facet⟩) →
        ∀ call ∈ second.callsOf ⟨id, facet⟩ between, call.Prompt config.callTimeout) := by
  have hfirst : Orderly first ∧ Provided first ∧ first.config = config := by
    refine fold_invariant
      (fun state => Orderly state ∧ Provided state ∧ state.config = config) ?_ ?_ hbefore
    · rintro state ⟨now, event⟩ next ⟨horderly, hprovided, hconfig⟩ hstep
      have htransition := step_transition hstep
      exact ⟨htransition.orderly horderly, htransition.provided horderly hprovided,
        htransition.config_eq.trans hconfig⟩
    · exact ⟨orderly_of_config config, nofun, rfl⟩
  obtain ⟨horderly, hprovided, hconfig⟩ := hfirst
  have hstart := recounts_opened horderly hprovided hconfig facet hopened
  suffices hnoted : second.run between = some finish ∧
      Recounts config ids ⟨id, facet⟩ finish (second.callsOf ⟨id, facet⟩ between) ∧
      (second.Punctual between (.timedOut ⟨id, facet⟩) →
        ∀ call ∈ second.callsOf ⟨id, facet⟩ between, call.Prompt config.callTimeout) from
    ⟨hnoted.2.1.batched, hnoted.2.2⟩
  refine fold_history (fun past state =>
    second.run past = some state.1 ∧ Recounts config ids ⟨id, facet⟩ state.1 state.2 ∧
      (second.Punctual between (.timedOut ⟨id, facet⟩) →
        ∀ call ∈ state.2, call.Prompt config.callTimeout))
    ⟨rfl, hstart, fun _ => nofun⟩ ?_ (run_noting ⟨id, facet⟩ hbetween)
  rintro past ⟨now, event⟩ ⟨state, calls⟩ next ⟨rest, hwithin⟩ - ⟨hpast, h, hprompt⟩ hstep
  obtain ⟨fetcher, hfetcher, rfl⟩ := Option.map_eq_some_iff.1 hstep
  refine ⟨fold_concat.2 ⟨state, hpast, hfetcher⟩, h.step hfetcher ?_, fun hpunctual => ?_⟩
  · rintro others rfl
    refine honce now others (hwithin ▸ ?_)
    simp
  · refine h.prompt hfetcher (fun hoverdue => ?_) (hprompt hpunctual)
    by_contra hother
    exact hpunctual ⟨past, (now, event), rest, state, by simp [← hwithin], hpast, hoverdue, hother⟩

/-- Two facets, and calls for two ids each. -/
def pairedConfig : Config where
  batchSize := 2
  facets := [.trending, .mostPlayed]

/-- One facet gets both answers, and the first call for the other one fails. -/
def pairedFetch : List (Instant × Event) :=
  [(⟨1⟩, .begun ⟨7, .trending⟩), (⟨1⟩, .begun ⟨7, .mostPlayed⟩),
    (⟨2⟩, .answered ⟨7, .trending⟩ (.ok [])),
    (⟨3⟩, .answered ⟨7, .mostPlayed⟩ (.error (.query "down"))),
    (⟨4⟩, .answered ⟨7, .trending⟩ (.ok []))]

/-- No call times out before all of this has happened. -/
theorem punctual_paired {start : Fetcher} (hconfig : start.config = pairedConfig) (task : TaskId) :
    start.Punctual pairedFetch (.timedOut task) := by
  have hearly : ∀ event ∈ pairedFetch, event.1 ≤ (Instant.mk 0).after pairedConfig.callTimeout := by
    decide
  rintro ⟨past, event, rest, state, hevents, hpast, ⟨moment, hrings, hpassed⟩, -⟩
  have hsame : state.config = pairedConfig := fold_invariant
    (fun state : Fetcher => state.config = pairedConfig)
    (fun hconfig hstep => (step_transition hstep).config_eq.trans hconfig) hconfig hpast
  obtain ⟨_, _, _, since, -, rfl⟩ := rings_timed_out.1 hrings
  have hevent := hearly event (hevents ▸ List.mem_append_right _ List.mem_cons_self)
  rw [hsame] at hpassed
  exact Nat.not_lt_of_le (Nat.le_trans hevent (Nat.add_le_add_right (Nat.zero_le _) _)) hpassed

/-- Three ids make two calls, and one call where the first one fails; and the answers are taken in
time. -/
theorem run_batches_paired : ∃ second finish,
    (ofConfig pairedConfig).step ⟨0⟩ (.opened 7 ["a", "b", "c"]) = some second ∧
      second.run pairedFetch = some finish ∧
      (second.callsOf ⟨7, .trending⟩ pairedFetch).map SentCall.batch = [["a", "b"], ["c"]] ∧
      (second.callsOf ⟨7, .mostPlayed⟩ pairedFetch).map SentCall.batch = [["a", "b"]] ∧
      ∀ facet, Batched pairedConfig ["a", "b", "c"] facet (finish.fetches.find? 7)
          (second.callsOf ⟨7, facet⟩ pairedFetch) ∧
        ∀ call ∈ second.callsOf ⟨7, facet⟩ pairedFetch, call.Prompt pairedConfig.callTimeout := by
  have hruns : ∃ second finish,
      (ofConfig pairedConfig).step ⟨0⟩ (.opened 7 ["a", "b", "c"]) = some second ∧
        second.run pairedFetch = some finish ∧
        (second.callsOf ⟨7, .trending⟩ pairedFetch).map SentCall.batch = [["a", "b"], ["c"]] ∧
        (second.callsOf ⟨7, .mostPlayed⟩ pairedFetch).map SentCall.batch = [["a", "b"]] :=
    ⟨_, _, rfl, rfl, rfl, rfl⟩
  obtain ⟨second, finish, hopened, hbetween, htrending, hplayed⟩ := hruns
  have honce : ∀ now others, (now, .opened 7 others) ∉ pairedFetch := by
    intro now others
    simp [pairedFetch]
  refine ⟨second, finish, hopened, hbetween, htrending, hplayed, fun facet => ?_⟩
  obtain ⟨hbatched, hprompt⟩ :=
    run_batches (rfl : run _ [] = _) hopened hbetween honce facet
  exact ⟨hbatched, hprompt (punctual_paired (step_transition hopened).config_eq _)⟩

/-- Where the service answers at once, the size of the batches is of no concern. -/
theorem play_batch_size {ω : Type} {service : Service ω}
    {answer : Facet → String → List RankedItem} (hanswers : Answers service answer)
    (config : Config) (size : Nat) (ids : List String) (now : Instant) (world : ω) :
    (play service { config with batchSize := size } ids none now world).result =
      (play service config ids none now world).result := by
  rw [play_answering hanswers, play_answering hanswers]
  rfl

end Runs

end GameLibrary.Fetcher
