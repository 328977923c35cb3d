import GameLibrary.Proofs.Cache.Supply
import GameLibrary.Proofs.Store.Lawful

/-!
# What a look-up removes

A look-up that reads a record beyond the grace period removes the key a moment later, whatever the
store holds for it by then. `step_informed` is the reason why this is harmless for a record that was
there when the look-up read the key; `look_up_destroys_iff` says which records are lost before their
time.
-/

namespace GameLibrary.System

open LawfulBackend (held)

variable {σ ν : Type} [Backend σ] [Payload ν]

/-- If a caller was served in the past, what it has in hand is the given record, and it removes the
key only because that record is too old. -/
def Informed (reader : CallId) (key : Key) (record : Record) (past : List (Event ν))
    (system : System σ ν) : Prop :=
  .served reader ∈ past →
    (∀ found, system.cache.calls.find? reader = some ⟨key, .answered (.ok (some found))⟩ →
      found = record) ∧
    (system.cache.calls.find? reader = some ⟨key, .erasing⟩ →
      record.isPastGrace system.now system.cache.config.durable.grace = true)

/-- As long as the store holds the record, those served stay informed. -/
theorem step_informed [LawfulBackend σ] {reader : CallId} {key : Key} {record : Record}
    {written : Instant} {past : List (Event ν)} {system next : System σ ν} {event : Event ν}
    (hstamp : record.insertedAt = .ofInstant written)
    (hheld : held system.store key = some record) (h : Informed reader key record past system)
    (hstep : system.step event = some next) :
    Informed reader key record (past ++ [event]) next := by
  intro hserved
  have hpast : event ≠ .served reader → .served reader ∈ past := by
    intro hne
    rcases List.mem_append.1 hserved with hpast | hlast
    · exact hpast
    · exact absurd (List.mem_singleton.1 hlast).symm hne
  -- Whatever else a caller does, an answer does not fall from the sky.
  have hcalls : ∀ {own cache}, event ≠ .served reader →
      system.cache.Transition system.now own cache → (∀ answer, own ≠ .served reader answer) →
      (∀ found, cache.calls.find? reader = some ⟨key, .answered (.ok (some found))⟩ →
        found = record) ∧
      (cache.calls.find? reader = some ⟨key, .erasing⟩ →
        record.isPastGrace system.now cache.config.durable.grace = true) := by
    intro own cache hne hcache hown
    obtain ⟨hfound, herasing⟩ := h (hpast hne)
    refine ⟨fun found hcall => ?_, fun hcall => ?_⟩
    · rcases hcache.arrival hcall with hcall | harrival
      · exact hfound found hcall
      · exact absurd harrival.answered_from.1 (hown _)
    · rw [hcache.config_eq]
      rcases hcache.arrival hcall with hcall | harrival
      · exact herasing hcall
      · obtain ⟨-, found, hcall, -, hold⟩ := harrival.erasing_from
        rw [← hfound found hcall]
        exact hold
  cases step_transition hstep with
  | @elapsed time =>
      obtain ⟨hfound, herasing⟩ := h (hpast (by rintro ⟨⟩))
      refine ⟨hfound, fun hcall => ?_⟩
      have hle : system.now ≤ system.now.after time := Nat.le_add_right _ _
      exact Record.past_grace_mono hstamp hle (herasing hcall)
  | own hown hcache =>
      refine hcalls ?_ hcache ?_
      · intro heq
        subst heq
        cases hown
      · intro answer heq
        subst heq
        cases event <;> cases hown
  | @served id key' cache hreading hcache =>
      by_cases hid : id = reader
      · subst hid
        -- The caller has just been told what the store holds.
        refine ⟨fun found hcall => ?_, fun hcall => ?_⟩
        · rcases hcache.arrival hcall with hcall | harrival
          · rw [hreading] at hcall
            cases hcall
          · obtain ⟨hserving, hcall⟩ := harrival.answered_from
            rw [hreading] at hcall
            cases hcall
            injection hserving with _ hanswer
            have hfound := LawfulBackend.found_held hanswer
            rw [hheld] at hfound
            exact Option.some.inj hfound
        · rcases hcache.arrival hcall with hcall | harrival
          · rw [hreading] at hcall
            cases hcall
          · cases harrival.erasing_from.1
      · refine hcalls ?_ hcache ?_
        · intro heq
          cases heq
          exact hid rfl
        · intro answer heq
          cases heq
          exact hid rfl
  | erased _ hcache => exact hcalls (by rintro ⟨⟩) hcache (by rintro _ ⟨⟩)
  | written _ hcache => exact hcalls (by rintro ⟨⟩) hcache (by rintro _ ⟨⟩)
  | invalidated => exact hcalls (by rintro ⟨⟩) .forgotten (by rintro _ ⟨⟩)
  | deleted => exact h (hpast (by rintro ⟨⟩))

/-- Those served after a record was written are informed of it, if the store holds it all the time.
-/
theorem run_informed [LawfulBackend σ] {reader : CallId} {key : Key} {record : Record}
    {written : Instant} {start finish : System σ ν} {events : List (Event ν)}
    (hstamp : record.insertedAt = .ofInstant written)
    (hheld : ∀ past system, past <+: events → start.run past = some system →
      held system.store key = some record)
    (hrun : start.run events = some finish) : Informed reader key record events finish := by
  refine run_history (Informed reader key record) ?_ ?_ hrun
  · intro hserved
    cases hserved
  · intro past event system next hprefix hsystem h hstep
    have hpast := (List.prefix_append past [event]).trans hprefix
    exact step_informed hstamp (hheld past system hpast hsystem) h hstep

/-- A record is written to the store, and stays there until a look-up is about to remove the record
of its key. Exactly if the look-up was served before the record was written, and the store carries
out the removal, the record is lost though it is not too old. -/
theorem look_up_destroys_iff [LawfulBackend σ] {config : Cache.Config} {store : σ} {now : Instant}
    {before between : List (Event ν)} {first second last next : System σ ν}
    {writer reader : CallId} {key : Key} {flight : FlightId} {fallback : Option ν} {value : ν}
    {record : Record}
    (hfirst : (⟨.ofConfig config, store, now, .empty⟩ : System σ ν).run before = some first)
    (hwriter : first.cache.calls.find? writer =
      some ⟨key, .storing flight fallback value record⟩)
    (hsecond : first.step (.written writer) = some second)
    (hlast : second.run between = some last)
    (hheld : ∀ past system, past <+: between → second.run past = some system →
      held system.store key = some record)
    (hreader : last.cache.calls.find? reader = some ⟨key, .erasing⟩)
    (hnext : last.step (.erased reader) = some next) :
    held next.store key = none ∧ record.isPastGrace last.now config.durable.grace = false ↔
      (∃ found, (Backend.delete last.store key).1 = .ok found) ∧
        record.isPastGrace last.now config.durable.grace = false ∧ .served reader ∉ between := by
  have hrecorded := run_recorded (recorded_start config store now) hfirst
  obtain ⟨written, hrecord⟩ := hrecorded.recorded hwriter
  have hstamp : record.insertedAt = .ofInstant written := by
    rw [hrecord]
    exact Durable.inserted_at_record ..
  have hconfig := (run_recorded (step_recorded hrecorded hsecond) hlast).config_eq
  have hstore : next.store = (Backend.delete last.store key).2 := by
    cases step_transition hnext with
    | own hown => cases hown
    | erased herasing =>
        rw [hreader] at herasing
        cases herasing
        rfl
  constructor
  · intro hlost
    obtain ⟨hgone, hyoung⟩ := hlost
    refine ⟨?_, hyoung, ?_⟩
    · cases hdelete : (Backend.delete last.store key).1 with
      | ok found => exact ⟨found, rfl⟩
      | error failure =>
          rw [hstore, LawfulBackend.held_delete_refused hdelete,
            hheld between last (List.prefix_refl between) hlast] at hgone
          cases hgone
    · -- A look-up served since the writing removes the key only if the record is too old.
      intro hserved
      have hold := (run_informed hstamp hheld hlast hserved).2 hreader
      rw [hconfig, hyoung] at hold
      cases hold
  · intro hlost
    obtain ⟨⟨found, hdelete⟩, hyoung, -⟩ := hlost
    refine ⟨?_, hyoung⟩
    rw [hstore, LawfulBackend.held_delete hdelete, Function.update_self]

/-- Records are fresh for ten milliseconds, and fallbacks for ten more. -/
def briefConfig : Cache.Config := { durable := ⟨.milliseconds 10, .milliseconds 10⟩ }

/-- A record from the beginning of time. -/
def agedRecord : Record := Durable.record briefConfig.durable ⟨0⟩ .zeros (7 : UInt32)

/-- A second later, when the record is far too old, the store still holds it. -/
def agedSystem : System MemoryStore UInt32 :=
  ⟨.ofConfig briefConfig, { records := Table.empty.insert .zeros agedRecord }, ⟨1000000000⟩, .empty⟩

/-- Two callers read the record. The first has removed it, and is about to write a new one, when the
answer reaches the second. -/
def crossedLookUps : List (Event UInt32) :=
  [.called 0 .zeros, .called 1 .zeros, .served 0, .served 1, .answered 0, .erased 0,
    .computed 0 (.ok 8)]

/-- The second caller then removes the record that the first has just written. -/
theorem look_up_destroys_crossed :
    ∃ first second last next : System MemoryStore UInt32, ∃ record,
      agedSystem.run crossedLookUps = some first ∧ first.step (.written 0) = some second ∧
      second.run [.answered 1] = some last ∧ last.step (.erased 1) = some next ∧
      held second.store .zeros = some record ∧ held next.store .zeros = none ∧
      record.isPastGrace last.now briefConfig.durable.grace = false := by
  have hruns : ∃ first second last next, ∃ record : Record,
      agedSystem.run crossedLookUps = some first ∧ first.step (.written 0) = some second ∧
      second.run [.answered 1] = some last ∧ last.step (.erased 1) = some next ∧
      first.cache.calls.find? 0 = some ⟨.zeros, .storing 0 none 8 record⟩ ∧
      held second.store .zeros = some record ∧ held last.store .zeros = some record ∧
      last.cache.calls.find? 1 = some ⟨.zeros, .erasing⟩ ∧
      (Backend.delete last.store .zeros).1 = .ok true ∧
      record.isPastGrace last.now briefConfig.durable.grace = false :=
    ⟨_, _, _, _, _, rfl, rfl, rfl, rfl, rfl, rfl, rfl, rfl, rfl, rfl⟩
  obtain ⟨first, second, last, next, record, hfirst, hsecond, hlast, hnext, hwriter, hheld, hheld',
    hreader, hdelete, hyoung⟩ := hruns
  refine ⟨first, second, last, next, record, hfirst, hsecond, hlast, hnext, hheld, ?_⟩
  refine (look_up_destroys_iff hfirst hwriter hsecond hlast ?_ hreader hnext).2
    ⟨⟨true, hdelete⟩, hyoung, by simp⟩
  intro past system hprefix hsystem
  rcases List.prefix_cons_iff.1 hprefix with rfl | ⟨rest, rfl, hrest⟩
  · cases hsystem
    exact hheld
  · rw [List.prefix_nil.1 hrest, hlast] at hsystem
    cases hsystem
    exact hheld'

end GameLibrary.System
