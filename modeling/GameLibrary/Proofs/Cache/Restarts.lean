import GameLibrary.Proofs.Cache.Partial
import GameLibrary.Proofs.Store.Available

/-!
# What survives a restart

Memory is lost when a cache is replaced by a new one, and an entry may leave it at any time. The
store stays. So where calls come one after another over a store that is always there, a value that
has been computed is not computed again for as long as its record is fresh: whoever asks for the key
meanwhile gets the value from memory or from the record.

A turn is an event of a system, a loss of memory, or a restart (`System.turn`). The invariant has two
parts: at most one call is under way (`System.Sequential`), and for the key in question there is
nothing but the value in memory and with callers, while the store has the record, or is just about to
get it (`System.Holding`).
-/

namespace GameLibrary

namespace Cache

variable {ν : Type} {cache next : Cache ν} {now : Instant} {id : CallId} {key : Key}
  {point : Point ν} {value : ν} {record : Record}

/-- Whether every call that has begun is over. -/
def isIdle (cache : Cache ν) : Bool :=
  cache.calls.entries.all fun entry => decide (entry.2.point.stage = .returned)

/-- In an idle cache every caller has returned. -/
theorem over_of_idle (hidle : cache.isIdle = true)
    (hcall : cache.calls.find? id = some ⟨key, point⟩) : point.stage = .returned := by
  have hover := List.all_eq_true.1 hidle _ ((cache.calls.find?_eq_some).1 hcall)
  exact of_decide_eq_true hover

/-- At most one call is under way. -/
def Solo (cache : Cache ν) : Prop :=
  ∀ {id id' call call'}, cache.calls.find? id = some call → cache.calls.find? id' = some call' →
    call.point.stage ≠ .returned → call'.point.stage ≠ .returned → id = id'

/-- Where a caller for a key stands as long as the record of the value is good. -/
inductive Point.Served (value : ν) (record : Record) : Point ν → Prop where
  | reading : Served value record .reading
  | answered : Served value record (.answered (.ok (some record)))
  | storing {flight fallback} : Served value record (.storing flight fallback value record)
  | returned {source} : Served value record (.returned (.ok ⟨value, source⟩))

/-- For the key there is nothing but the value in memory and with callers, except that old calls may
have returned something else. -/
structure Covered (cache : Cache ν) (key : Key) (value : ν) (record : Record)
    (old : CallId → Prop) : Prop where
  memory : ∀ {entry}, cache.tier1.storage.find? key = some entry → entry.value = value
  calls : ∀ {id point}, cache.calls.find? id = some ⟨key, point⟩ →
    point.Served value record ∨ old id ∧ point.stage = .returned

variable {old old' : CallId → Prop}

/-- A call for the key that is not over is served. -/
theorem Covered.served (h : cache.Covered key value record old)
    (hcall : cache.calls.find? id = some ⟨key, point⟩) (hopen : point.stage ≠ .returned) :
    point.Served value record :=
  (h.calls hcall).resolve_right fun hover => hopen hover.2

variable [Payload ν] {event : Event ν}

/-- Where calls begin only in an idle cache, at most one is under way. -/
theorem Transition.solo (h : cache.Transition now event next) (hsolo : cache.Solo)
    (hidle : ∀ {id key}, event = .called id key → cache.isIdle = true) : next.Solo := by
  have hstarted : ∀ {id key point id' key' point'}, cache.Arrival now id key event point →
      cache.calls.find? id' = some ⟨key', point'⟩ → point'.stage ≠ .returned → id = id' := by
    intro id key point id' key' point' harrival hcall' hopen'
    obtain ⟨-, hevent | ⟨before, hcall, hopen⟩⟩ := harrival.source
    · exact absurd (over_of_idle (hidle hevent) hcall') hopen'
    · exact hsolo hcall hcall' hopen hopen'
  intro id id' call call' hcall hcall' hopen hopen'
  rcases h.arrival hcall with hbefore | harrival
  · rcases h.arrival hcall' with hbefore' | harrival'
    · exact hsolo hbefore hbefore' hopen hopen'
    · exact (hstarted harrival' hbefore hopen).symm
  · rcases h.arrival hcall' with hbefore' | harrival'
    · exact hstarted harrival hbefore' hopen'
    · exact Option.some.inj (harrival.source.1.symm.trans harrival'.source.1)

/-- As long as the record of the value is good, and the store answers with it, a step brings nothing
but the value to those who ask for the key. -/
theorem Transition.covered (h : cache.Transition now event next)
    (hcovered : cache.Covered key value record old)
    (hold : ∀ {id call}, cache.calls.find? id = some call → old id → old' id)
    (hserved : ∀ {id answer}, event = .served id answer →
      cache.calls.find? id = some ⟨key, .reading⟩ → answer = .ok (some record))
    (hfresh : Durable.finding cache.config.durable now key (.ok (some record)) =
      .usable (.fresh value)) : next.Covered key value record old' := by
  have hanswer : ∀ {id answer}, cache.calls.find? id = some ⟨key, .answered answer⟩ →
      answer = .ok (some record) := by
    intro id answer hcall
    cases hcovered.served hcall nofun
    rfl
  constructor
  case memory =>
    intro entry hfound
    rcases h.found_from hfound with hbefore | ⟨hinserts, -, -⟩
    · exact hcovered.memory hbefore
    · generalize entry.value = found at hinserts
      cases hinserts with
      | promoted hcall hfinding =>
          rw [hanswer hcall, hfresh] at hfinding
          cases hfinding
          rfl
      | computed hcall => cases hcovered.served hcall nofun
  case calls =>
    intro id point hcall
    rcases h.arrival hcall with hbefore | harrival
    · exact (hcovered.calls hbefore).imp_right (And.imp_left (hold hbefore))
    · left
      cases harrival with
      | called =>
          unfold enterPoint
          split
          · rename_i found hlive
            obtain ⟨entry, hentry, rfl⟩ := Tier1.entry_of_live hlive
            rw [hcovered.memory hentry]
            exact .returned
          · exact .reading
      | served hreading =>
          rw [hserved rfl hreading]
          exact .answered
      | answered hanswered =>
          rw [hanswer hanswered]
          unfold receivePoint
          rw [hfresh]
          exact .returned
      | written hstoring =>
          cases hcovered.served hstoring nofun
          exact .returned
      | erased hother | computed hother | timedOut hother | settled hother | promoted hother =>
          cases hcovered.served hother nofun

end Cache

namespace System

variable {σ ν : Type} [Backend σ] [Payload ν]

/-- What can happen where calls come one after another. -/
inductive Turn (ν : Type) where
  | event (event : Event ν)
  /-- An entry leaves memory. -/
  | evicted (key : Key)
  /-- The cache is replaced by a new one with the same settings. -/
  | restarted

/-- The system without an entry in memory. -/
def evict (system : System σ ν) (key : Key) : System σ ν :=
  { system with cache := { system.cache with tier1 := (system.cache.tier1.remove key).2 } }

/-- The system with a new cache. -/
def restart (system : System σ ν) : System σ ν :=
  { system with cache := .ofConfig system.cache.config }

/-- What a turn does, if it can happen. A call begins when the calls before it are over, and is not
given up. -/
def turn (system : System σ ν) : Turn ν → Option (System σ ν)
  | .event (.called id key) => if system.cache.isIdle then system.step (.called id key) else none
  | .event (.dropped _) => none
  | .event event => system.step event
  | .evicted key => some (system.evict key)
  | .restarted => if system.cache.isIdle then some system.restart else none

/-- The system after some turns, if each of them can happen when it comes. -/
def turns (system : System σ ν) (turns : List (Turn ν)) : Option (System σ ν) :=
  turns.foldlM turn system

/-- The turns that can happen. -/
inductive Proceeds (system : System σ ν) : Turn ν → System σ ν → Prop where
  | event {event next} : (∀ id, event ≠ .dropped id) →
      (∀ {id key}, event = .called id key → system.cache.isIdle = true) →
      system.step event = some next → Proceeds system (.event event) next
  | evicted {key} : Proceeds system (.evicted key) (system.evict key)
  | restarted : system.cache.isIdle = true → Proceeds system .restarted system.restart

/-- The key is invalidated with the turn, or the store removes it for an invalidation that began
before. -/
inductive Invalidates (system : System σ ν) (key : Key) : Turn ν → Prop where
  | begun {id} : Invalidates system key (.event (.invalidated id key))
  | deleted {id held} : system.invalidations.find? id = some (.deleting key held) →
      Invalidates system key (.event (.deleted id))

variable {config : Cache.Config} {system next : System σ ν} {now : Instant} {id : CallId} {key : Key}
  {value : ν} {record : Record} {old old' : CallId → Prop}

/-- Nothing else can happen. -/
theorem turn_proceeds {happening : Turn ν} (h : system.turn happening = some next) :
    system.Proceeds happening next := by
  unfold turn at h
  cases happening with
  | event event =>
      cases event with
      | called id key =>
          dsimp only at h
          split at h
          · exact .event (by rintro _ ⟨⟩) (fun _ => ‹_›) h
          · cases h
      | dropped => cases h
      | _ => exact .event (by rintro _ ⟨⟩) (by rintro _ _ ⟨⟩) h
  | evicted =>
      cases h
      exact .evicted
  | restarted =>
      dsimp only at h
      split at h
      · cases h
        exact .restarted ‹_›
      · cases h

/-- Time does not run backwards. -/
theorem Proceeds.now_le {happening : Turn ν} (h : system.Proceeds happening next) :
    system.now ≤ next.now := by
  cases h with
  | event _ _ hstep => exact (step_transition hstep).now_le
  | evicted | restarted => exact Nat.le_refl _

/-- Who begins a call had none. -/
theorem free_of_called (hstep : system.step (.called id key) = some next) :
    system.cache.calls.find? id = none := by
  cases step_transition hstep with
  | own hown hcache =>
      cases hown
      cases hcache with
      | called hfree => exact hfree

/-- Left to itself, the call returns the value: the store serves it, and nothing is computed. -/
def Completes (system : System σ ν) (id : CallId) (value : ν) : Prop :=
  ∃ events done source, (∀ event ∈ events, event ∈ [.served id, .answered id, .written id]) ∧
    system.run events = some done ∧ done.cache.outcome? id = some (.ok ⟨value, source⟩)

section Completion

variable {flight : FlightId} {fallback : Option ν}

/-- A caller that is answered with a fresh record returns its value. -/
theorem answered_completes (hfresh : Durable.finding system.cache.config.durable system.now key
      (.ok (some record)) = .usable (.fresh value))
    (hcall : system.cache.calls.find? id = some ⟨key, .answered (.ok (some record))⟩) :
    system.Completes id value := by
  refine ⟨[.answered id], { system with
    cache := system.cache.receive system.now id key (.ok (some record)) }, .tier2, by simp, ?_, ?_⟩
  · refine run_cons.2 ⟨_, ?_, rfl⟩
    unfold step onCache Cache.step
    dsimp only
    rw [hcall]
    rfl
  · unfold Cache.outcome?
    dsimp only
    rw [Cache.calls_receive, Table.find?_insert, if_pos rfl]
    unfold Cache.receivePoint
    rw [hfresh]

/-- A caller that reads is served the record and returns its value. -/
theorem reading_completes (hfresh : Durable.finding system.cache.config.durable system.now key
      (.ok (some record)) = .usable (.fresh value))
    (hcall : system.cache.calls.find? id = some ⟨key, .reading⟩)
    (hstored : (Backend.get system.store key).1 = .ok (some record)) :
    system.Completes id value := by
  let served : System σ ν := { system with
    cache := system.cache.setPoint id key (.answered (.ok (some record)))
    store := (Backend.get system.store key).2 }
  have hserved : system.step (.served id) = some served := by
    unfold step onCache Cache.step
    dsimp only
    rw [hcall]
    dsimp only
    rw [hstored]
    rfl
  have hanswered : served.cache.calls.find? id = some ⟨key, .answered (.ok (some record))⟩ :=
    (Table.find?_insert ..).trans (if_pos rfl)
  have hstill : Durable.finding served.cache.config.durable served.now key (.ok (some record)) =
    .usable (.fresh value) := hfresh
  obtain ⟨events, done, source, hown, hrun, houtcome⟩ := answered_completes hstill hanswered
  refine ⟨.served id :: events, done, source, ?_, run_cons.2 ⟨_, hserved, hrun⟩, houtcome⟩
  intro event hmem
  rcases List.mem_cons.1 hmem with rfl | hlater
  · exact List.mem_cons_self
  · exact hown event hlater

/-- A caller that writes returns its value. -/
theorem storing_completes (hput : (Backend.put system.store record).1 = .ok ())
    (hcall : system.cache.calls.find? id = some ⟨key, .storing flight fallback value record⟩) :
    system.Completes id value := by
  refine ⟨[.written id], { system with
    cache := system.cache.land id key flight fallback (.ok ⟨value, .origin⟩)
    store := (Backend.put system.store record).2 }, .origin, by simp, ?_, ?_⟩
  · refine run_cons.2 ⟨_, ?_, rfl⟩
    unfold step onCache Cache.step
    dsimp only
    rw [hcall]
    dsimp only
    rw [hput]
    rfl
  · unfold Cache.outcome?
    dsimp only
    rw [Cache.calls_land, Table.find?_insert, if_pos rfl]
    rfl

end Completion

/-- Nobody computes the value of the key, and those who have asked for it have got the value, or get
it if they are left to themselves. -/
structure Spared (system : System σ ν) (key : Key) (value : ν) (asked : CallId → Prop) : Prop where
  not_computing : ∀ {id flight fallback started},
    system.cache.calls.find? id ≠ some ⟨key, .computing flight fallback started⟩
  answered : ∀ {id point}, asked id → system.cache.calls.find? id = some ⟨key, point⟩ →
    (∃ source, point = .returned (.ok ⟨value, source⟩)) ∨
      point.stage ≠ .returned ∧ system.Completes id value

variable [AvailableBackend σ]

/-- The store is there, at most one call is under way, and whoever writes to the store writes the
record of a value. -/
structure Sequential (config : Cache.Config) (system : System σ ν) : Prop where
  config_eq : system.cache.config = config
  available : AvailableBackend.Available system.store
  solo : system.cache.Solo
  recorded : ∀ {id key flight fallback value record},
    system.cache.calls.find? id = some ⟨key, .storing flight fallback value record⟩ →
    ∃ time, time ≤ system.now ∧ record = Durable.record config.durable time key value

/-- What is written at a time of the calendar can be written. -/
theorem Sequential.writable (h : Sequential config system) (hcalendar : system.now.InCalendar)
    {flight : FlightId} {fallback : Option ν}
    (hcall : system.cache.calls.find? id = some ⟨key, .storing flight fallback value record⟩) :
    record.Writable ∧ record.key = key := by
  obtain ⟨time, htime, rfl⟩ := h.recorded hcall
  exact ⟨Record.writable_record (hcalendar.mono htime) .., rfl⟩

/-- The store stays available. -/
theorem Sequential.available_after (h : Sequential config system)
    (hcalendar : system.now.InCalendar) {event : Event ν} (hstep : system.Transition event next) :
    AvailableBackend.Available next.store := by
  cases hstep with
  | elapsed | own | invalidated => exact h.available
  | served => exact AvailableBackend.available_get h.available _
  | erased | deleted => exact AvailableBackend.available_delete h.available _
  | written hcall => exact AvailableBackend.available_put h.available (h.writable hcalendar hcall).1

/-- Every turn at a time of the calendar keeps the calls in sequence. -/
theorem Sequential.turn (h : Sequential config system) (hcalendar : system.now.InCalendar)
    {happening : Turn ν} (hturn : system.Proceeds happening next) : Sequential config next := by
  cases hturn with
  | @event event _ hdropped hidle hstep =>
      have htransition := step_transition hstep
      constructor
      case config_eq => exact htransition.config_eq.1.trans h.config_eq
      case available => exact h.available_after hcalendar htransition
      case solo =>
        rcases htransition.mirrored with hsame | ⟨own, hmirrors, hcache⟩
        · rw [hsame]
          exact h.solo
        · refine hcache.solo h.solo fun {id key} hown => ?_
          subst hown
          cases hmirrors with
          | own hown =>
              cases event <;> cases hown
              exact hidle rfl
      case recorded =>
        intro id key flight fallback value record hcall
        rcases htransition.storing_from hcall with hbefore | ⟨-, -, hrecord, -⟩
        · obtain ⟨time, htime, hrecord⟩ := h.recorded hbefore
          exact ⟨time, Nat.le_trans htime htransition.now_le, hrecord⟩
        · rw [h.config_eq] at hrecord
          exact ⟨system.now, htransition.now_le, hrecord⟩
  | evicted => exact ⟨h.config_eq, h.available, h.solo, h.recorded⟩
  | restarted =>
      refine ⟨h.config_eq, h.available, ?_, ?_⟩
      · rintro _ _ _ _ ⟨⟩
      · rintro _ _ _ _ _ _ ⟨⟩

/-- For the key there is nothing but the value in memory and with callers, and the store answers
with the record, or a caller is writing it. -/
structure Holding (key : Key) (value : ν) (record : Record) (old : CallId → Prop)
    (system : System σ ν) : Prop where
  covered : system.cache.Covered key value record old
  store : (∃ id flight fallback,
      system.cache.calls.find? id = some ⟨key, .storing flight fallback value record⟩) ∨
    (Backend.get system.store key).1 = .ok (some record)

section Steps

variable {event : Event ν}

/-- A caller that reads is served the record. -/
theorem Holding.answer_eq (h : Holding key value record old system)
    (hsequential : Sequential config system)
    (hreading : system.cache.calls.find? id = some ⟨key, .reading⟩) :
    (Backend.get system.store key).1 = .ok (some record) := by
  rcases h.store with ⟨writer, flight, fallback, hstoring⟩ | hstored
  · -- The reader would be the writer.
    have hsame := hsequential.solo hreading hstoring nofun nofun
    subst hsame
    cases hreading.symm.trans hstoring
  · exact hstored

/-- The store answers with the record, or a caller is writing it, as long as the key is not removed
from the store. -/
theorem Holding.store_after (h : Holding key value record old system)
    (hsequential : Sequential config system) (hcalendar : system.now.InCalendar)
    (hkey : record.key = key) (hdropped : ∀ id, event ≠ .dropped id)
    (hkept : ¬ system.Invalidates key (.event event)) (hstep : system.step event = some next) :
    (∃ id flight fallback,
        next.cache.calls.find? id = some ⟨key, .storing flight fallback value record⟩) ∨
      (Backend.get next.store key).1 = .ok (some record) := by
  have htransition := step_transition hstep
  rcases h.store with ⟨writer, flight, fallback, hstoring⟩ | hstored
  · by_cases hcaller : event.caller = some writer
    · rcases ending_of_storing hstoring hcaller hstep with rfl | rfl
      · right
        cases htransition with
        | own hown => cases hown
        | written hcall =>
            cases hcall.symm.trans hstoring
            have hwritable := (hsequential.writable hcalendar hcall).1
            rw [AvailableBackend.get_put hsequential.available hwritable, if_pos hkey.symm]
      · exact absurd rfl (hdropped writer)
    · exact .inl ⟨writer, flight, fallback, (htransition.find?_of_caller_ne hcaller).trans hstoring⟩
  · right
    cases htransition with
    | elapsed | own | invalidated => exact hstored
    | served => exact (AvailableBackend.get_get hsequential.available ..).trans hstored
    | erased hcall =>
        refine (AvailableBackend.get_delete hsequential.available ?_).trans hstored
        rintro rfl
        cases h.covered.served hcall nofun
    | @written _ other _ _ _ written _ hcall =>
        obtain ⟨hwritable, hother⟩ := hsequential.writable hcalendar hcall
        rw [AvailableBackend.get_put hsequential.available hwritable]
        split
        · rename_i hsame
          rw [hother] at hsame
          subst hsame
          cases h.covered.served hcall nofun
          rfl
        · exact hstored
    | deleted hpending =>
        refine (AvailableBackend.get_delete hsequential.available ?_).trans hstored
        rintro rfl
        exact hkept (.deleted hpending)

/-- A step brings nothing but the value to those who ask for the key. -/
theorem Holding.covered_after (h : Holding key value record old system)
    (hsequential : Sequential config system)
    (hfresh : Durable.finding config.durable system.now key (.ok (some record)) =
      .usable (.fresh value))
    (hold : ∀ {id call}, system.cache.calls.find? id = some call → old id → old' id)
    (hstep : system.Transition event next) : next.cache.Covered key value record old' := by
  rw [← hsequential.config_eq] at hfresh
  rcases hstep.mirrored with hsame | ⟨own, hmirrors, hcache⟩
  · rw [hsame]
    exact ⟨h.covered.memory, fun hcall =>
      (h.covered.calls hcall).imp_right (And.imp_left (hold hcall))⟩
  · refine hcache.covered h.covered hold ?_ hfresh
    intro id answer hown hreading
    subst hown
    rw [hmirrors.of_served hreading]
    exact h.answer_eq hsequential hreading

/-- As long as the record is fresh and the key is not invalidated, every turn leaves nothing but the
value for the key. -/
theorem Holding.turn (h : Holding key value record old system)
    (hsequential : Sequential config system) (hcalendar : system.now.InCalendar)
    (hkey : record.key = key)
    (hfresh : Durable.finding config.durable system.now key (.ok (some record)) =
      .usable (.fresh value))
    {happening : Turn ν} (hkept : ¬ system.Invalidates key happening)
    (hold : ∀ {id call}, system.cache.calls.find? id = some call → old id → old' id)
    (hturn : system.Proceeds happening next) : Holding key value record old' next := by
  cases hturn with
  | event hdropped _ hstep =>
      exact ⟨h.covered_after hsequential hfresh hold (step_transition hstep),
        h.store_after hsequential hcalendar hkey hdropped hkept hstep⟩
  | evicted =>
      refine ⟨⟨fun hfound => h.covered.memory (Tier1.found_of_remove hfound), fun hcall => ?_⟩, h.store⟩
      exact (h.covered.calls hcall).imp_right (And.imp_left (hold hcall))
  | restarted hidle =>
      refine ⟨⟨fun {entry} hfound => ?_, nofun⟩, .inr ?_⟩
      · cases (Cache.not_found_of_config system.cache.config key).symm.trans hfound
      · -- A cache is not replaced while a call is writing.
        refine h.store.resolve_left fun ⟨writer, flight, fallback, hstoring⟩ => ?_
        cases Cache.over_of_idle hidle hstoring

end Steps

section Runs

variable {store : σ} {beginning : Instant} {before finish : System σ ν} {past rest : List (Turn ν)}
  {flight : FlightId} {fallback : Option ν} {started : Instant}

/-- Calls are in sequence in the course of every run, at any time of the calendar. -/
theorem turns_sequential (havailable : AvailableBackend.Available store)
    (hrun : (⟨.ofConfig config, store, beginning, .empty⟩ : System σ ν).turns past = some before)
    (hcalendar : before.now.InCalendar) : Sequential config before := by
  refine fold_invariant (fun system : System σ ν => system.now.InCalendar → Sequential config system)
    ?_ ?_ hrun hcalendar
  · intro system happening next h hturn hcalendar
    have hproceeds := turn_proceeds hturn
    have hbefore := hcalendar.mono hproceeds.now_le
    exact (h hbefore).turn hbefore hproceeds
  · intro _
    exact ⟨rfl, havailable, by rintro _ _ _ _ ⟨⟩, by rintro _ _ _ _ _ _ ⟨⟩⟩

/-- When a complete value has been computed it is in memory, and its record is about to be written;
all other calls are over. -/
theorem holding_computed (h : Sequential config before)
    (hcall : before.cache.calls.find? id = some ⟨key, .computing flight fallback started⟩)
    (hcomplete : Payload.isComplete value = true)
    (hstep : before.step (.computed id (.ok value)) = some next)
    (hold : ∀ other, other ≠ id → old other) :
    Holding key value (Durable.record config.durable before.now key value) old next := by
  obtain ⟨hmemory, hdurable⟩ := before.cache.config.partialPolicy.keeps_complete
  have hstoring : next.cache.calls.find? id = some ⟨key, .storing flight fallback value
      (Durable.record config.durable before.now key value)⟩ := by
    rw [step_computed hcall] at hstep
    cases hstep
    rw [Cache.calls_conclude, Table.find?_insert, if_pos rfl]
    unfold Cache.concludePoint
    dsimp only
    rw [hcomplete, if_pos hdurable, h.config_eq]
  constructor
  case store => exact .inl ⟨id, flight, fallback, hstoring⟩
  case covered =>
    constructor
    case memory =>
      intro entry hfound
      rw [step_computed hcall] at hstep
      cases hstep
      cases (found_of_conclude (hcomplete ▸ hmemory) flight fallback started).symm.trans hfound
      rfl
    case calls =>
      intro other point hother
      by_cases hid : other = id
      · subst hid
        cases hstoring.symm.trans hother
        exact .inl .storing
      · have hcaller : (Event.computed id (.ok value)).caller ≠ some other :=
          fun heq => hid (Option.some.inj heq).symm
        rw [(step_transition hstep).find?_of_caller_ne hcaller] at hother
        refine .inr ⟨hold other hid, ?_⟩
        by_contra hopen
        exact hid (h.solo hother hcall hopen nofun)

/-- As long as the record of the value is fresh and the key is not invalidated, there is nothing but
the value for the key, except for those who had returned before. -/
theorem turns_holding (hsequential : Sequential config before)
    (hcall : before.cache.calls.find? id = some ⟨key, .computing flight fallback started⟩)
    (hcomplete : Payload.isComplete value = true)
    (hback : Payload.decode (Payload.encode value) = .ok value)
    (hstep : before.step (.computed id (.ok value)) = some next)
    (hrest : next.turns rest = some finish)
    (hkept : ¬ Happens turn next rest fun system happening => system.Invalidates key happening)
    (hwindow : finish.now ≤ before.now.after config.durable.floor)
    (hcalendar : finish.now.InCalendar) :
    Sequential config finish ∧
      Holding key value (Durable.record config.durable before.now key value)
        (fun other => other ≠ id ∧ .event (.called other key) ∉ rest) finish := by
  have hcomputed : before.Proceeds (.event (.computed id (.ok value))) next :=
    .event (by rintro _ ⟨⟩) (by rintro _ _ ⟨⟩) hstep
  refine fold_history (fun past system => system.now ≤ before.now.after config.durable.floor →
    system.now.InCalendar → Sequential config system ∧
      Holding key value (Durable.record config.durable before.now key value)
        (fun other => other ≠ id ∧ .event (.called other key) ∉ past) system)
    ?_ ?_ hrest hwindow hcalendar
  · intro _ hcalendar
    exact ⟨hsequential.turn (hcalendar.mono hcomputed.now_le) hcomputed,
      holding_computed hsequential hcall hcomplete hstep fun other hne => ⟨hne, nofun⟩⟩
  · intro past happening system after hwithin hpast h hturn hwindow hcalendar
    have hproceeds := turn_proceeds hturn
    have hwindow' := Nat.le_trans hproceeds.now_le hwindow
    have hcalendar' := hcalendar.mono hproceeds.now_le
    obtain ⟨hsequential, hholding⟩ := h hwindow' hcalendar'
    refine ⟨hsequential.turn hcalendar' hproceeds, ?_⟩
    refine hholding.turn hsequential hcalendar' rfl
      (Durable.finding_record hback hwindow' hcalendar' key) ?_ ?_ hproceeds
    · intro hinvalidates
      obtain ⟨later, rfl⟩ := hwithin
      exact hkept ⟨past, happening, later, system, by simp, hpast, hinvalidates⟩
    · intro other call hother ⟨hne, hnew⟩
      refine ⟨hne, fun hmem => ?_⟩
      rcases List.mem_append.1 hmem with hbefore | hlast
      · exact hnew hbefore
      · cases List.mem_singleton.1 hlast
        cases hproceeds with
        | event _ _ hcalled => cases (free_of_called hcalled).symm.trans hother

/-- Where there is nothing but the value for the key, nobody computes it, and those who ask for the
key get it. -/
theorem Holding.spared (h : Holding key value record old system)
    (hsequential : Sequential config system) (hcalendar : system.now.InCalendar)
    (hfresh : Durable.finding config.durable system.now key (.ok (some record)) =
      .usable (.fresh value)) {asked : CallId → Prop} (hasked : ∀ {id}, asked id → ¬ old id) :
    system.Spared key value asked := by
  constructor
  case not_computing =>
    intro id flight fallback started hcall
    cases h.covered.served hcall nofun
  case answered =>
    intro id point hid hcall
    rw [← hsequential.config_eq] at hfresh
    have hserved := (h.covered.calls hcall).resolve_right fun hover => hasked hid hover.1
    cases hserved with
    | returned => exact .inl ⟨_, rfl⟩
    | reading =>
        have hstored := h.answer_eq hsequential hcall
        exact .inr ⟨nofun, reading_completes hfresh hcall hstored⟩
    | answered => exact .inr ⟨nofun, answered_completes hfresh hcall⟩
    | storing =>
        have hwritable := (hsequential.writable hcalendar hcall).1
        have hput := AvailableBackend.put_ok hsequential.available hwritable
        exact .inr ⟨nofun, storing_completes hput hcall⟩

/-- Once a complete value has been computed that is read back as itself, and as long as its record is
fresh and the key is not invalidated, nobody computes the value of the key again, and all who ask
for it get this value, whatever becomes of memory. -/
theorem turns_spared (havailable : AvailableBackend.Available store)
    (hpast : (⟨.ofConfig config, store, beginning, .empty⟩ : System σ ν).turns past = some before)
    (hcall : before.cache.calls.find? id = some ⟨key, .computing flight fallback started⟩)
    (hcomplete : Payload.isComplete value = true)
    (hback : Payload.decode (Payload.encode value) = .ok value)
    (hturn : before.turn (.event (.computed id (.ok value))) = some next)
    (hrest : next.turns rest = some finish)
    (hkept : ¬ Happens turn next rest fun system happening => system.Invalidates key happening)
    (hwindow : finish.now ≤ before.now.after config.durable.floor)
    (hcalendar : finish.now.InCalendar) :
    finish.Spared key value fun other => other = id ∨ .event (.called other key) ∈ rest := by
  have hproceeds := turn_proceeds hturn
  have hlater : before.now ≤ finish.now :=
    fold_invariant (fun system : System σ ν => before.now ≤ system.now)
      (fun hle hturn => Nat.le_trans hle (turn_proceeds hturn).now_le) hproceeds.now_le hrest
  have hbefore := turns_sequential havailable hpast (hcalendar.mono hlater)
  obtain ⟨hsequential, hholding⟩ :=
    turns_holding hbefore hcall hcomplete hback hturn hrest hkept hwindow hcalendar
  have hfresh := Durable.finding_record hback hwindow hcalendar key
  refine hholding.spared hsequential hcalendar hfresh ?_
  intro other hasked hold
  exact hasked.elim hold.1 hold.2

/-- A value is computed and written. Memory loses it, the cache is replaced, and later two callers ask
for the key, of whom the second one has not been served yet. -/
def restartedOnce : List (Turn UInt32) :=
  [.event (.written 0), .evicted .zeros, .event (.elapsed (.seconds 3)), .restarted,
    .event (.called 0 .zeros), .event (.served 0), .event (.answered 0), .evicted .zeros,
    .event (.elapsed (.seconds 4)), .event (.called 1 .zeros)]

/-- The first caller has got the value from its record, and the second one is about to. -/
theorem turns_spared_restarted : ∃ before next finish : System MemoryStore UInt32,
    before.turn (.event (.computed 0 (.ok 7))) = some next ∧
    next.turns restartedOnce = some finish ∧
    finish.cache.outcome? 0 = some (.ok ⟨7, .tier2⟩) ∧
    finish.cache.calls.find? 1 = some ⟨.zeros, .reading⟩ ∧
    finish.Spared .zeros 7 fun other => other = 0 ∨ .event (.called other .zeros) ∈ restartedOnce := by
  have hruns : ∃ before next finish : System MemoryStore UInt32,
      (⟨.ofConfig { durable := ⟨.seconds 10, .zero⟩ }, {}, ⟨0⟩, .empty⟩ :
          System MemoryStore UInt32).turns
        [.event (.called 0 .zeros), .event (.served 0), .event (.answered 0)] = some before ∧
      before.turn (.event (.computed 0 (.ok 7))) = some next ∧
      next.turns restartedOnce = some finish ∧
      before.cache.calls.find? 0 = some ⟨.zeros, .computing 0 none ⟨0⟩⟩ ∧
      before.now = ⟨0⟩ ∧ finish.now = ⟨7000000000⟩ ∧
      finish.cache.outcome? 0 = some (.ok ⟨7, .tier2⟩) ∧
      finish.cache.calls.find? 1 = some ⟨.zeros, .reading⟩ :=
    ⟨_, _, _, rfl, rfl, rfl, rfl, rfl, rfl, rfl, rfl⟩
  obtain ⟨before, next, finish, hpast, hturn, hrest, hcall, hstart, hend, hfirst, hsecond⟩ := hruns
  have hback : Payload.decode (Payload.encode (7 : UInt32)) = .ok (7 : UInt32) := rfl
  have hkept : ¬ Happens turn next restartedOnce fun system happening =>
      system.Invalidates .zeros happening := by
    rintro ⟨early, happening, late, system, hevents, -, hinvalidates⟩
    have hmem : happening ∈ restartedOnce := hevents ▸ List.mem_append_right early List.mem_cons_self
    cases hinvalidates <;> simp [restartedOnce] at hmem
  have hwindow : finish.now ≤ before.now.after (Durable.Config.floor ⟨.seconds 10, .zero⟩) := by
    rw [hstart, hend]
    decide
  have hcalendar : finish.now.InCalendar := by
    rw [hend]
    exact ⟨by decide, by decide, by decide⟩
  have havailable : AvailableBackend.Available ({} : MemoryStore) := rfl
  exact ⟨before, next, finish, hturn, hrest, hfirst, hsecond,
    turns_spared havailable hpast hcall rfl hback hturn hrest hkept hwindow hcalendar⟩

end Runs

end System

end GameLibrary
