import GameLibrary.Proofs.Cache.Staleness
import GameLibrary.Proofs.Cache.Window
import GameLibrary.Proofs.Popularity.Written

/-!
# What is kept of incomplete values

The policy says at the end of a computation whether the value goes into memory and into the store.
But a value also comes into memory from a record, and there the policy is not asked. It need not be:
what goes into the store may be in memory, and what is read from the record of a value is as complete
as the value was (`Payload.Faithful`). So memory and the store hold nothing that the policy would
keep out of them (`Selective`), whichever way it has come there. For popularity reports this is
`run_partial_policy`, which also says that a complete report is always kept.
-/

namespace GameLibrary

namespace Cache.PartialPolicy

variable {policy : PartialPolicy} {complete : Bool}

/-- What goes into the store is kept in memory. -/
theorem keeps_in_memory_of_durably (h : policy.keepsDurably complete = true) :
    policy.keepsInMemory complete = true := by
  cases hkeeps : policy.keepsInMemory complete with
  | true => rfl
  | false => exact (not_keeps_durably hkeeps).symm.trans h

/-- Unless everything is kept, only what is complete goes into the store. -/
theorem complete_of_keeps_durably (hpolicy : policy ≠ .cacheAll)
    (h : policy.keepsDurably complete = true) : complete = true :=
  (Bool.or_eq_true_iff.1 h).resolve_right fun hall => hpolicy (of_decide_eq_true hall)

/-- Where only what is complete is kept, only that is in memory. -/
theorem complete_of_keeps_in_memory (h : completeOnly.keepsInMemory complete = true) :
    complete = true :=
  (Bool.or_eq_true_iff.1 h).resolve_right fun hother => of_decide_eq_true hother rfl

/-- What is complete is always kept. -/
theorem keeps_complete (policy : PartialPolicy) :
    policy.keepsInMemory true = true ∧ policy.keepsDurably true = true := ⟨rfl, rfl⟩

end Cache.PartialPolicy

namespace Payload

variable {ν : Type} [Payload ν] {value back : ν}

/-- The bytes of a value are read, and as a value that is complete if it is. -/
def Faithful (value : ν) : Prop :=
  ∃ back : ν, decode (encode value) = .ok back ∧ isComplete back = isComplete value

theorem Faithful.complete_eq (h : Faithful value) (hdecode : decode (encode value) = .ok back) :
    isComplete back = isComplete value := by
  obtain ⟨found, hfound, hcomplete⟩ := h
  cases hfound.symm.trans hdecode
  exact hcomplete

end Payload

/-- A report that can be written is read from its bytes, with the same failed facets. -/
theorem Report.Writable.faithful {report : Report} (h : report.Writable) :
    Payload.Faithful report :=
  ⟨report.asRead, h.decode_encode, rfl⟩

namespace System

open LawfulBackend (held)

variable {σ ν : Type} [Backend σ] [Payload ν]

section Definitions

/-- The record was made of a computed value that the policy lets into the store. -/
def Admitted (config : Cache.Config) (start : System σ ν) (events : List (Event ν))
    (record : Record) : Prop :=
  ∃ time value, record = Durable.record config.durable time record.key value ∧
    ComputedAt start events record.key time value ∧
    config.partialPolicy.keepsDurably (Payload.isComplete value) = true

/-- Memory, the store and the callers have nothing that the policy would keep out of them. -/
structure Selective [LawfulBackend σ] (config : Cache.Config) (start : System σ ν)
    (events : List (Event ν)) (system : System σ ν) : Prop where
  config_eq : system.cache.config = config ∧ system.cache.tier1.config = config.tier1
  memory : ∀ {key entry}, system.cache.tier1.storage.find? key = some entry →
    config.partialPolicy.keepsInMemory (Payload.isComplete entry.value) = true
  store : ∀ {key record}, held system.store key = some record →
    Admitted config start events record
  answered : ∀ {id key record},
    system.cache.calls.find? id = some ⟨key, .answered (.ok (some record))⟩ →
    Admitted config start events record
  storing : ∀ {id key flight fallback value record},
    system.cache.calls.find? id = some ⟨key, .storing flight fallback value record⟩ →
    Admitted config start events record

/-- The store serves the write of a record for a caller. -/
structure Writes (system : System σ ν) (id : CallId) (record : Record) (event : Event ν) :
    Prop where
  event_eq : event = .written id
  pending : ∃ key flight fallback value,
    system.cache.calls.find? id = some ⟨key, .storing flight fallback value record⟩
  served : ∃ next, system.step event = some next ∧
    next.store = (Backend.put system.store record).2

/-- The computation of a caller can end with the value; then the value is in memory, and the caller
writes its record: as long as it is not dropped, it still writes or the store has served the
write. -/
def KeepsComputed (config : Cache.Config) (system : System σ ν) (id : CallId) (key : Key)
    (value : ν) : Prop :=
  let record := Durable.record config.durable system.now key value
  ∃ next, system.step (.computed id (.ok value)) = some next ∧
    next.cache.tier1.storage.find? key = some ⟨value, system.now, config.tier1.ttl⟩ ∧
    ∀ {rest finish}, next.run rest = some finish → .dropped id ∉ rest →
      (∃ flight fallback,
        finish.cache.calls.find? id = some ⟨key, .storing flight fallback value record⟩) ∨
      Happens step next rest fun system event => system.Writes id record event

end Definitions

variable {config : Cache.Config} {start system next finish : System σ ν} {past : List (Event ν)}
  {events : List (Event ν)} {event : Event ν} {id : CallId} {key : Key} {value : ν}
  {record : Record}

section Records

variable (hfaithful : ∀ {id value}, .computed id (.ok value) ∈ past → Payload.Faithful value)
include hfaithful

/-- What is computed in the course of the events can be read back. -/
theorem ComputedAt.faithful {time : Instant} (h : ComputedAt start past key time value) :
    Payload.Faithful value := by
  obtain ⟨early, _, late, system, rfl, -, id, _, _, _, rfl, -, -⟩ := h
  exact hfaithful (List.mem_append_right early List.mem_cons_self)

/-- What is read from an admitted record may be in memory. -/
theorem Admitted.keeps_in_memory (h : Admitted config start past record)
    (hdecode : Payload.decode record.payload = .ok value) :
    config.partialPolicy.keepsInMemory (Payload.isComplete value) = true := by
  obtain ⟨time, source, hrecord, hcomputed, hkeeps⟩ := h
  rw [hrecord] at hdecode
  rw [(hcomputed.faithful hfaithful).complete_eq hdecode]
  exact Cache.PartialPolicy.keeps_in_memory_of_durably hkeeps

end Records

/-- A record that was admitted in the course of some events stays so. -/
theorem Admitted.append (h : Admitted config start past record)
    (hpast : start.run past = some system) (rest : List (Event ν)) :
    Admitted config start (past ++ rest) record := by
  obtain ⟨time, value, hrecord, hcomputed, hkeeps⟩ := h
  exact ⟨time, value, hrecord, (happens_append hpast).2 (.inl hcomputed), hkeeps⟩

section Steps

variable [LawfulBackend σ]

/-- Every step brings only what the policy lets in. -/
theorem Selective.step (h : Selective config start past system)
    (hpast : start.run past = some system) (hstep : system.step event = some next)
    (hfaithful : ∀ {id value}, .computed id (.ok value) ∈ past → Payload.Faithful value) :
    Selective config start (past ++ [event]) next := by
  have htransition := step_transition hstep
  constructor
  case config_eq =>
    obtain ⟨hcache, htier1⟩ := htransition.config_eq
    exact ⟨hcache.trans h.config_eq.1, htier1.trans h.config_eq.2⟩
  case memory =>
    intro key entry hfound
    rcases htransition.found_from hfound with hbefore | ⟨own, -, hinserts, -, -⟩
    · exact h.memory hbefore
    · generalize entry.value = value at hinserts
      cases hinserts with
      | promoted hcall hfinding =>
          obtain ⟨record, rfl, -, hdecode⟩ := Durable.usable_from hfinding (.inl rfl)
          exact (h.answered hcall).keeps_in_memory hfaithful hdecode
      | computed _ hkeeps =>
          rw [h.config_eq.1] at hkeeps
          exact hkeeps
  case store =>
    intro key record hheld
    rcases htransition.held_from hheld with hbefore | ⟨-, _, _, _, _, _, hcall⟩
    · exact (h.store hbefore).append hpast _
    · exact (h.storing hcall).append hpast _
  case answered =>
    intro id key record hcall
    rcases htransition.answered_from hcall with hbefore | hheld
    · exact (h.answered hbefore).append hpast _
    · exact (h.store hheld).append hpast _
  case storing =>
    intro id key flight fallback value record hcall
    rcases htransition.storing_from hcall with hbefore | ⟨hevent, ⟨_, hcomputing⟩, rfl, hkeeps⟩
    · exact (h.storing hbefore).append hpast _
    · rw [h.config_eq.1] at hkeeps ⊢
      exact ⟨_, value, rfl, computed_last hpast hstep hevent hcomputing, hkeeps⟩

end Steps

section Writing

variable {flight : FlightId} {fallback : Option ν}

/-- A caller that has a record to write can be served. -/
theorem writes_of_storing
    (hcall : system.cache.calls.find? id = some ⟨key, .storing flight fallback value record⟩)
    (hstep : system.step (.written id) = some next) :
    system.Writes id record (.written id) := by
  refine ⟨rfl, ⟨key, flight, fallback, value, hcall⟩, next, hstep, ?_⟩
  cases step_transition hstep with
  | own hown => cases hown
  | written hcall' =>
      cases hcall.symm.trans hcall'
      rfl

/-- A caller writes its record until the store has served the write, if it is not dropped. -/
theorem run_storing
    (hcall : start.cache.calls.find? id = some ⟨key, .storing flight fallback value record⟩)
    (hkept : .dropped id ∉ events) (hrun : start.run events = some finish) :
    finish.cache.calls.find? id = some ⟨key, .storing flight fallback value record⟩ ∨
      Happens step start events fun system event => system.Writes id record event := by
  refine run_history (fun past system =>
    system.cache.calls.find? id = some ⟨key, .storing flight fallback value record⟩ ∨
      Happens step start past fun system event => system.Writes id record event) (.inl hcall) ?_ hrun
  intro past event system next hwithin hpast h hstep
  rw [happens_concat hpast hstep]
  rcases h with hstays | hwritten
  · by_cases hcaller : event.caller = some id
    · rcases ending_of_storing hstays hcaller hstep with rfl | rfl
      · exact .inr (.inr (writes_of_storing hstays hstep))
      · exact absurd (hwithin.subset (List.mem_append_right past List.mem_cons_self)) hkept
    · exact .inl (((step_transition hstep).find?_of_caller_ne hcaller).trans hstays)
  · exact .inr (.inl hwritten)

/-- A complete value is kept under every policy. -/
theorem keeps_computed {started : Instant}
    (hconfig : system.cache.config = config ∧ system.cache.tier1.config = config.tier1)
    (hcall : system.cache.calls.find? id = some ⟨key, .computing flight fallback started⟩)
    (hcomplete : Payload.isComplete value = true) : KeepsComputed config system id key value := by
  obtain ⟨hmemory, hdurable⟩ := system.cache.config.partialPolicy.keeps_complete
  refine ⟨_, step_computed hcall _, ?_, ?_⟩
  · rw [← hconfig.2]
    exact found_of_conclude (hcomplete ▸ hmemory) flight fallback started
  · intro rest finish hrun hkept
    have hstoring : (system.cache.conclude system.now id key flight fallback started
        (.ok value)).calls.find? id = some ⟨key, .storing flight fallback value
          (Durable.record config.durable system.now key value)⟩ := by
      rw [Cache.calls_conclude, Table.find?_insert, if_pos rfl]
      unfold Cache.concludePoint
      dsimp only
      rw [hcomplete, if_pos hdurable, hconfig.1]
    exact (run_storing hstoring hkept hrun).imp_left fun hstays => ⟨flight, fallback, hstays⟩

end Writing

section Runs

variable [LawfulBackend σ] {store : σ} {now : Instant}

/-- After a run from an empty store nothing is kept that the policy would keep out. -/
theorem run_selective (hempty : ∀ key, held store key = none)
    (hfaithful : ∀ {id value}, .computed id (.ok value) ∈ events → Payload.Faithful value)
    (hrun : (⟨.ofConfig config, store, now, .empty⟩ : System σ ν).run events = some system) :
    Selective config ⟨.ofConfig config, store, now, .empty⟩ events system := by
  refine run_history (Selective config ⟨.ofConfig config, store, now, .empty⟩) ?_ ?_ hrun
  · constructor
    case config_eq => exact ⟨rfl, rfl⟩
    case memory =>
      intro key entry hfound
      cases (Cache.not_found_of_config config key).symm.trans hfound
    case store =>
      intro key record hheld
      cases (hempty key).symm.trans hheld
    case answered =>
      rintro _ _ _ ⟨⟩
    case storing =>
      rintro _ _ _ _ _ _ ⟨⟩
  · intro past event system next hwithin hpast h hstep
    exact h.step hpast hstep fun hmem => hfaithful (hwithin.subset (List.mem_append_left _ hmem))

/-- Every record that is written in the course of a run is admitted. -/
theorem run_written (hempty : ∀ key, held store key = none)
    (hfaithful : ∀ {id value}, .computed id (.ok value) ∈ events → Payload.Faithful value)
    (hwrites : Happens step ⟨.ofConfig config, store, now, .empty⟩ events
      fun system event => system.Writes id record event) :
    Admitted config ⟨.ofConfig config, store, now, .empty⟩ events record := by
  obtain ⟨past, event, rest, system, rfl, hpast, hwrites⟩ := hwrites
  obtain ⟨key, flight, fallback, value, hcall⟩ := hwrites.pending
  have hselective := run_selective hempty
    (fun hmem => hfaithful (List.mem_append_left _ hmem)) hpast
  exact (hselective.storing hcall).append hpast _

end Runs

section Reports

variable {store : σ} {now : Instant} {events : List (Event Report)} {system : System σ Report}

/-- The record was made of a complete report that was computed in the course of the events, and a
complete report is read from it. -/
structure OfComplete (config : Cache.Config) (start : System σ Report) (events : List (Event Report))
    (record : Record) : Prop where
  made : ∃ time report, record = Durable.record config.durable time record.key report ∧
    ComputedAt start events record.key time report ∧ report.isComplete = true
  read : ∃ report : Report, Payload.decode record.payload = .ok report ∧ report.isComplete = true

/-- Unless everything is kept, admitted records are those of complete reports. -/
theorem Admitted.of_complete {start : System σ Report} (h : Admitted config start events record)
    (hwritable : ∀ {id report}, .computed id (.ok report) ∈ events → report.Writable)
    (hpolicy : config.partialPolicy ≠ .cacheAll) : OfComplete config start events record := by
  obtain ⟨time, report, hrecord, hcomputed, hkeeps⟩ := h
  have hcomplete := Cache.PartialPolicy.complete_of_keeps_durably hpolicy hkeeps
  obtain ⟨back, hdecode, hback⟩ := hcomputed.faithful fun hmem => (hwritable hmem).faithful
  refine ⟨⟨time, report, hrecord, hcomputed, hcomplete⟩, back, ?_, hback.trans hcomplete⟩
  rw [hrecord]
  exact hdecode

/-- Unless everything is kept, the records that are written, and those that the store holds, are of
complete reports. Where only complete reports are kept, memory has no others. And whatever the
policy, a complete report that is computed is in memory, and its record is written. -/
theorem run_partial_policy [LawfulBackend σ] (hempty : ∀ key, held store key = none)
    (hwritable : ∀ {id report}, .computed id (.ok report) ∈ events → report.Writable)
    (hrun : (⟨.ofConfig config, store, now, .empty⟩ : System σ Report).run events = some system) :
    (config.partialPolicy ≠ .cacheAll →
      (∀ {id record}, Happens step ⟨.ofConfig config, store, now, .empty⟩ events
          (fun system event => system.Writes id record event) →
        OfComplete config ⟨.ofConfig config, store, now, .empty⟩ events record) ∧
      ∀ {key record}, held system.store key = some record →
        OfComplete config ⟨.ofConfig config, store, now, .empty⟩ events record) ∧
    (config.partialPolicy = .completeOnly →
      ∀ {key entry}, system.cache.tier1.storage.find? key = some entry →
        entry.value.isComplete = true) ∧
    ∀ {id key flight fallback started report},
      system.cache.calls.find? id = some ⟨key, .computing flight fallback started⟩ →
      report.isComplete = true → KeepsComputed config system id key report := by
  have hfaithful : ∀ {id : CallId} {report : Report}, .computed id (.ok report) ∈ events →
      Payload.Faithful report := fun hmem => (hwritable hmem).faithful
  have h := run_selective hempty hfaithful hrun
  refine ⟨fun hpolicy => ⟨?_, ?_⟩, ?_, ?_⟩
  · intro id record hwrites
    exact (run_written hempty hfaithful hwrites).of_complete hwritable hpolicy
  · intro key record hheld
    exact (h.store hheld).of_complete hwritable hpolicy
  · intro hpolicy key entry hfound
    have hkeeps := h.memory hfound
    rw [hpolicy] at hkeeps
    exact Cache.PartialPolicy.complete_of_keeps_in_memory hkeeps
  · intro id key flight fallback started report hcall hcomplete
    exact keeps_computed h.config_eq hcall hcomplete

/-- The settings under which only complete values are kept. -/
def completeOnly : Cache.Config := { partialPolicy := .completeOnly }

/-- A report with one ranking, of one item with the score one half. -/
def oneRanking : Report :=
  (Report.empty 1 ⟨0⟩).insert .topRated [⟨"440", 1, ⟨0x3fe0000000000000⟩⟩]

/-- One report lacks a facet, the next one does not; a third is under way. -/
def mixedReports : List (Event Report) :=
  [.called 0 .zeros, .served 0, .answered 0,
    .computed 0 (.ok { oneRanking with failed := [.trending] }),
    .called 1 .ones, .served 1, .answered 1, .computed 1 (.ok oneRanking), .written 1,
    .called 2 .zeros, .served 2, .answered 2]

/-- Only the complete report is kept, and the one under way will be if it is complete. -/
theorem run_partial_policy_mixed : ∃ system record entry,
    (⟨.ofConfig completeOnly, {}, ⟨0⟩, .empty⟩ : System MemoryStore Report).run mixedReports =
      some system ∧
    system.store.records.find? .zeros = none ∧ system.store.records.find? .ones = some record ∧
    OfComplete completeOnly ⟨.ofConfig completeOnly, ({} : MemoryStore), ⟨0⟩, .empty⟩ mixedReports
      record ∧
    system.cache.tier1.storage.find? .zeros = none ∧
    system.cache.tier1.storage.find? .ones = some entry ∧ entry.value.isComplete = true ∧
    KeepsComputed completeOnly system 2 .zeros oneRanking := by
  have hruns : ∃ system record entry,
      (⟨.ofConfig completeOnly, {}, ⟨0⟩, .empty⟩ : System MemoryStore Report).run mixedReports =
        some system ∧
      system.store.records.find? .zeros = none ∧ system.store.records.find? .ones = some record ∧
      system.cache.tier1.storage.find? .zeros = none ∧
      system.cache.tier1.storage.find? .ones = some entry ∧
      system.cache.calls.find? 2 = some ⟨.zeros, .computing 2 none ⟨0⟩⟩ :=
    ⟨_, _, _, rfl, rfl, rfl, rfl, rfl, rfl⟩
  obtain ⟨system, record, entry, hrun, hforgone, hheld, hmissing, hfound, hcomputing⟩ := hruns
  have hempty : ∀ key, held ({} : MemoryStore) key = none := fun _ => rfl
  have hwritable : ∀ {id report}, .computed id (.ok report) ∈ mixedReports → report.Writable := by
    have hscores : ∀ {failed facet ranking},
        ({ oneRanking with failed } : Report).rankings facet = some ranking →
        ∀ item ∈ ranking, item.score.isFinite := by
      intro failed facet ranking hfound item hitem
      change (if facet = .topRated then _ else _) = _ at hfound
      split at hfound <;> cases hfound
      cases List.mem_singleton.1 hitem
      decide
    have htime : (Timestamp.ofInstant ⟨0⟩).InCalendar := ⟨by decide, by decide, by decide⟩
    intro id report hmem
    simp only [mixedReports, List.mem_cons, List.not_mem_nil, Event.computed.injEq, Except.ok.injEq,
      reduceCtorEq, false_or, or_false] at hmem
    rcases hmem with ⟨-, rfl⟩ | ⟨-, rfl⟩
    · exact ⟨hscores, by decide, htime⟩
    · exact ⟨hscores, by decide, htime⟩
  obtain ⟨hrecords, hentries, hkeeps⟩ := run_partial_policy hempty hwritable hrun
  exact ⟨system, record, entry, hrun, hforgone, hheld, (hrecords (by decide)).2 hheld, hmissing,
    hfound, hentries rfl hfound, hkeeps hcomputing rfl⟩

end Reports

end System

end GameLibrary
