import GameLibrary.Proofs.Cache.Recent
import GameLibrary.Proofs.Store.Lawful

/-!
# What an invalidation forgets

An invalidation removes a key from memory, and a moment later from the store. It does not touch the
callers that are under way: one that has read the record before the store removed it, or has still
to write its value, brings the value back (`invalidated_value_returns`). If there are no such
callers, whoever asks for the key afterwards gets a value that was computed since the invalidation
began (`run_invalidated`).
-/

namespace GameLibrary.System

open Cache (Recent RecentRecord)
open LawfulBackend (held)
open Cache.Traffic (Orderly)

variable {σ ν : Type} [Backend σ] [Payload ν]

/-- The value of a computation for the key that ended in the course of the events. -/
def ComputedIn (start : System σ ν) (events : List (Event ν)) (key : Key) (value : ν) : Prop :=
  ∃ past rest id system flight fallback started,
    events = past ++ .computed id (.ok value) :: rest ∧ start.run past = some system ∧
      system.cache.calls.find? id = some ⟨key, .computing flight fallback started⟩

/-- Neither memory nor a caller with an answer in hand, or with a value to write, has any but recent
values for the key. -/
structure Forgotten (fresh : ν → Prop) (key : Key) (system : System σ ν) : Prop where
  memory : ∀ {entry}, system.cache.tier1.storage.find? key = some entry → Recent fresh entry.value
  brings : ∀ {id point}, system.cache.calls.find? id = some ⟨key, point⟩ →
    point.BringsRecent fresh key

/-- For the key there is nothing but recent values in the store, in memory, and with those who have
asked in the course of the events. -/
structure Renewed [LawfulBackend σ] (config : Cache.Config) (fresh : ν → Prop) (key : Key)
    (past : List (Event ν)) (system : System σ ν) : Prop where
  orderly : Orderly system.cache.traffic
  recorded : Recorded config system
  store : ∀ {record}, held system.store key = some record → RecentRecord fresh key record
  cache : system.cache.OnlyRecent fresh key fun id => .called id key ∈ past

variable [LawfulBackend σ] {config : Cache.Config} {fresh : ν → Prop} {key : Key}

/-- What the store holds after a step is what it held before, or the record of a caller that had it
to write. -/
theorem Transition.held_from {system next : System σ ν} {event : Event ν} {record : Record}
    (h : system.Transition event next) (hheld : held next.store key = some record) :
    held system.store key = some record ∨ record.key = key ∧ ∃ id other flight fallback value,
      system.cache.calls.find? id = some ⟨other, .storing flight fallback value record⟩ := by
  cases h with
  | elapsed | own | invalidated => exact .inl hheld
  | served =>
      rw [LawfulBackend.held_get] at hheld
      exact .inl hheld
  | erased | deleted => exact .inl (LawfulBackend.held_of_delete hheld)
  | written hcall =>
      rcases LawfulBackend.held_of_put hheld with hheld | ⟨rfl, hkey⟩
      · exact .inl hheld
      · exact .inr ⟨hkey, _, _, _, _, _, hcall⟩

/-- As long as the computations give recent values for the key, there are no others. -/
theorem step_renewed {past : List (Event ν)} {system next : System σ ν} {event : Event ν}
    (h : Renewed config fresh key past system) (hstep : system.step event = some next)
    (hcomputed : ∀ {id flight fallback started value}, event = .computed id (.ok value) →
      system.cache.calls.find? id = some ⟨key, .computing flight fallback started⟩ →
      fresh value) :
    Renewed config fresh key (past ++ [event]) next := by
  have htransition := step_transition hstep
  -- Where the cache takes a step, those who ask in it are newcomers from now on.
  have hcache : ∀ {own cache}, system.cache.Transition system.now own cache →
      (∀ {id answer}, own = .served id answer →
        system.cache.calls.find? id = some ⟨key, .reading⟩ →
        ∀ record, answer = .ok (some record) → RecentRecord fresh key record) →
      (∀ {id value}, own = .computed id (.ok value) → event = .computed id (.ok value)) →
      (∀ {id}, event = .called id key → own = .called id key) →
      cache.OnlyRecent fresh key fun id => .called id key ∈ past ++ [event] := by
    intro own cache hcache hserved hown hcalled
    have hrecent := hcache.only_recent hserved
      (fun hevent hcall => hcomputed (hown hevent) hcall) h.orderly h.cache
    refine hrecent.mono fun id hid => ?_
    rcases List.mem_append.1 hid with hpast | hlast
    · exact .inl hpast
    · exact .inr (hcalled (List.mem_singleton.1 hlast).symm)
  -- Where it takes none, there are no more newcomers than before.
  have hsame : (∀ {id}, event ≠ .called id key) →
      system.cache.OnlyRecent fresh key fun id => .called id key ∈ past ++ [event] := by
    intro hne
    refine h.cache.mono fun id hid => ?_
    rcases List.mem_append.1 hid with hpast | hlast
    · exact hpast
    · exact absurd (List.mem_singleton.1 hlast).symm hne
  constructor
  case orderly =>
    rcases htransition.cache_transition with hsame | ⟨own, hcache⟩
    · rw [hsame]
      exact h.orderly
    · exact hcache.orderly h.orderly
  case recorded => exact step_recorded h.recorded hstep
  case store =>
    intro record hheld
    rcases htransition.held_from hheld with hheld |
      ⟨hkey, id, other, flight, fallback, value, hcall⟩
    · exact h.store hheld
    · -- The record has just been written, and it is the record of a computed value.
      obtain ⟨time, rfl⟩ := h.recorded.recorded hcall
      cases hkey
      intro _ found hdecode
      exact .inr ⟨value, h.cache.brings hcall, hdecode⟩
  case cache =>
    cases htransition with
    | elapsed | deleted => exact hsame (by rintro _ ⟨⟩)
    | own hown hstepped =>
        refine hcache hstepped ?_ ?_ ?_
        · intro id answer heq
          subst heq
          cases event <;> cases hown
        · intro id value heq
          subst heq
          cases event <;> cases hown
          rfl
        · intro id heq
          subst heq
          exact (Option.some.inj hown).symm
    | served hreading hstepped =>
        refine hcache hstepped ?_ (by rintro id value ⟨⟩) (by rintro id ⟨⟩)
        intro id answer hserved hcall record hanswer
        cases hserved
        rw [hreading] at hcall
        cases hcall
        exact h.store (LawfulBackend.found_held hanswer).symm
    | erased _ hstepped | written _ hstepped =>
        exact hcache hstepped (by rintro id answer ⟨⟩) (by rintro id value ⟨⟩) (by rintro id ⟨⟩)
    | invalidated =>
        exact hcache .forgotten (by rintro id answer ⟨⟩) (by rintro id value ⟨⟩)
          (by rintro id ⟨⟩)

omit [LawfulBackend σ] in
/-- An invalidation that has begun is about its key until it is over. -/
theorem run_deleting {start finish : System σ ν} {events : List (Event ν)} {id : CallId}
    {present : Bool} (hstart : start.invalidations.find? id = some (.deleting key present))
    (hrun : start.run events = some finish) {other : Key} {present' : Bool}
    (hfinish : finish.invalidations.find? id = some (.deleting other present')) : other = key := by
  -- The number of an invalidation is not given again, so its entry changes when it is over only.
  have hkept : ∃ invalidation, finish.invalidations.find? id = some invalidation ∧
      ∀ other present, invalidation = .deleting other present → other = key := by
    refine run_invariant (fun system => ∃ invalidation,
      system.invalidations.find? id = some invalidation ∧
        ∀ other present, invalidation = .deleting other present → other = key) ?_ ?_ hrun
    · intro system event next hbefore hstep
      obtain ⟨invalidation, hfound, hkey⟩ := hbefore
      cases step_transition hstep with
      | elapsed | own | served | erased | written => exact ⟨invalidation, hfound, hkey⟩
      | @invalidated id' _ hfree =>
          have hne : id ≠ id' := by
            intro heq
            subst heq
            rw [hfound] at hfree
            cases hfree
          refine ⟨invalidation, ?_, hkey⟩
          rw [Table.find?_insert, if_neg hne]
          exact hfound
      | @deleted id' _ _ _ =>
          rw [Table.find?_insert]
          split
          · exact ⟨_, rfl, by rintro other present ⟨⟩⟩
          · exact ⟨invalidation, hfound, hkey⟩
    · exact ⟨_, hstart, by rintro other present ⟨⟩; rfl⟩
  obtain ⟨invalidation, hfound, hkey⟩ := hkept
  rw [hfinish] at hfound
  exact hkey other present' (Option.some.inj hfound).symm

/-- When an invalidation has returned, the store has removed the key. -/
theorem held_invalidated {second third fourth : System σ ν} {between : List (Event ν)}
    {remover : CallId} {present result : Bool}
    (hbegun : second.invalidations.find? remover = some (.deleting key present))
    (hthird : second.run between = some third)
    (hfourth : third.step (.deleted remover) = some fourth)
    (hreturned : fourth.invalidations.find? remover = some (.returned (.ok result))) :
    held fourth.store key = none := by
  cases step_transition hfourth with
  | own hown => cases hown
  | deleted hdeleting =>
      cases run_deleting hbegun hthird hdeleting
      rw [Table.find?_insert, if_pos rfl, Option.some.injEq, Invalidation.returned.injEq]
        at hreturned
      cases hdelete : (Backend.delete third.store key).1 with
      | ok found => rw [LawfulBackend.held_delete hdelete, Function.update_self]
      | error failure =>
          rw [hdelete] at hreturned
          cases hreturned

omit [LawfulBackend σ] in
/-- Where no caller for the key is under way, an invalidation leaves nothing behind but what the
store holds until it gets to the removal. -/
theorem forgotten_of_rest {first second : System σ ν} {remover : CallId}
    (hrest : ∀ {id point}, first.cache.calls.find? id = some ⟨key, point⟩ →
      ∃ outcome, point = .returned outcome)
    (hsecond : first.step (.invalidated remover key) = some second) :
    second.Forgotten fresh key := by
  cases step_transition hsecond with
  | own hown => cases hown
  | invalidated =>
      constructor
      case memory =>
        intro entry hfound
        rw [Tier1.not_found_removed] at hfound
        cases hfound
      case brings =>
        intro id point hcall
        obtain ⟨outcome, rfl⟩ := hrest hcall
        trivial

/-- A key is invalidated, and the store removes it. If at that moment neither memory nor a caller
with an answer in hand, or with a value to write, has any value for the key but those computed since
the invalidation began, then whoever asks for the key afterwards gets such a value. -/
theorem run_invalidated {store : σ} {now : Instant} {before between after : List (Event ν)}
    {first second third fourth last : System σ ν} {remover id : CallId} {result : Bool}
    {resolved : Cache.Resolved ν}
    (hfirst : (⟨.ofConfig config, store, now, .empty⟩ : System σ ν).run before = some first)
    (hsecond : first.step (.invalidated remover key) = some second)
    (hthird : second.run between = some third)
    (hfourth : third.step (.deleted remover) = some fourth)
    (hreturned : fourth.invalidations.find? remover = some (.returned (.ok result)))
    (hforgotten :
      third.Forgotten (second.ComputedIn (between ++ .deleted remover :: after) key) key)
    (hlast : fourth.run after = some last)
    (hcalled : .called id key ∈ after)
    (hcall : last.cache.calls.find? id = some ⟨key, .returned (.ok resolved)⟩) :
    Recent (second.ComputedIn (between ++ .deleted remover :: after) key) resolved.value := by
  set fresh := second.ComputedIn (between ++ .deleted remover :: after) key
  have hbegun : second.invalidations.find? remover =
      some (.deleting key (first.cache.tier1.contains key)) := by
    cases step_transition hsecond with
    | own hown => cases hown
    | invalidated => rw [Table.find?_insert, if_pos rfl]
  have hrun : (⟨.ofConfig config, store, now, .empty⟩ : System σ ν).run
      (before ++ .invalidated remover key :: (between ++ [.deleted remover])) = some fourth := by
    rw [run_append, hfirst, Option.bind_some, run_cons]
    exact ⟨second, hsecond, run_concat.2 ⟨third, hthird, hfourth⟩⟩
  -- From the removal on there is nothing but recent values, and the rest of the run keeps it so.
  have hstart : Renewed config fresh key [] fourth := by
    have hcache : fourth.cache = third.cache := by
      cases step_transition hfourth with
      | own hown => cases hown
      | deleted => rfl
    constructor
    case orderly => exact run_orderly Cache.Traffic.orderly_empty hrun
    case recorded => exact run_recorded (recorded_start config store now) hrun
    case store =>
      intro record hheld
      rw [held_invalidated hbegun hthird hfourth hreturned] at hheld
      cases hheld
    case cache =>
      rw [hcache]
      exact ⟨hforgotten.memory, hforgotten.brings, by rintro id point ⟨⟩,
        by rintro id flight fallback resolved ⟨⟩⟩
  have hfinish : Renewed config fresh key after last := by
    refine run_history (Renewed config fresh key) hstart ?_ hlast
    intro past event system next hprefix hpast h hstep
    obtain ⟨rest, hafter⟩ := hprefix
    refine step_renewed h hstep ?_
    intro other flight fallback started value heq hcomputing
    subst heq
    refine ⟨between ++ .deleted remover :: past, rest, other, system, flight, fallback, started, ?_,
      ?_, hcomputing⟩
    · rw [← hafter]
      simp
    · rw [run_append, hthird, Option.bind_some, run_cons]
      exact ⟨fourth, hfourth, hpast⟩
  exact hfinish.cache.holds hcalled hcall resolved rfl

/-- A cache with the standard settings over an empty store. -/
def emptySystem : System MemoryStore UInt32 := ⟨.ofConfig {}, {}, ⟨0⟩, .empty⟩

/-- A key is computed, invalidated, and computed again: the second caller gets the second value. -/
theorem run_invalidated_twice :
    ∃ first second third last : System MemoryStore UInt32,
      emptySystem.run [.called 0 .zeros, .served 0, .answered 0, .computed 0 (.ok 8), .written 0,
        .dropped 0] = some first ∧
      first.step (.invalidated 7 .zeros) = some second ∧
      second.step (.deleted 7) = some third ∧
      third.run [.called 1 .zeros, .served 1, .answered 1, .computed 1 (.ok 9), .written 1] =
        some last ∧
      Recent (second.ComputedIn [.deleted 7, .called 1 .zeros, .served 1, .answered 1,
        .computed 1 (.ok 9), .written 1] .zeros) 9 := by
  have hruns : ∃ first second third last : System MemoryStore UInt32,
      emptySystem.run [.called 0 .zeros, .served 0, .answered 0, .computed 0 (.ok 8), .written 0,
        .dropped 0] = some first ∧
      first.step (.invalidated 7 .zeros) = some second ∧
      second.step (.deleted 7) = some third ∧
      third.run [.called 1 .zeros, .served 1, .answered 1, .computed 1 (.ok 9), .written 1] =
        some last ∧
      third.invalidations.find? 7 = some (.returned (.ok true)) ∧ first.cache.calls = .empty ∧
      last.cache.calls.find? 1 = some ⟨.zeros, .returned (.ok ⟨9, .origin⟩)⟩ :=
    ⟨_, _, _, _, rfl, rfl, rfl, rfl, rfl, rfl, rfl⟩
  obtain ⟨first, second, third, last, hfirst, hsecond, hthird, hlast, hreturned, hcalls, hcall⟩ :=
    hruns
  refine ⟨first, second, third, last, hfirst, hsecond, hthird, hlast, ?_⟩
  have hforgotten : ∀ fresh, second.Forgotten fresh .zeros := by
    intro fresh
    refine forgotten_of_rest ?_ hsecond
    intro id point hpoint
    rw [hcalls] at hpoint
    cases hpoint
  have hstart : (⟨.ofConfig {}, {}, ⟨0⟩, .empty⟩ : System MemoryStore UInt32).run
      [.called 0 .zeros, .served 0, .answered 0, .computed 0 (.ok 8), .written 0, .dropped 0] =
        some first := hfirst
  exact run_invalidated hstart hsecond (show second.run [] = some second from rfl) hthird hreturned
    (hforgotten _) hlast (by simp) hcall

/-- The first caller has computed its value, and has yet to write it, when the key is invalidated.
The write comes after the removal, so the second caller finds in the store the value from before the
invalidation. -/
theorem invalidated_value_returns :
    ∃ first second third last : System MemoryStore UInt32,
      emptySystem.run [.called 0 .zeros, .served 0, .answered 0, .computed 0 (.ok 8)] =
        some first ∧
      first.step (.invalidated 7 .zeros) = some second ∧
      second.step (.deleted 7) = some third ∧
      third.invalidations.find? 7 = some (.returned (.ok true)) ∧
      third.run [.written 0, .called 1 .zeros, .served 1, .answered 1] = some last ∧
      last.cache.calls.find? 1 = some ⟨.zeros, .returned (.ok ⟨8, .tier2⟩)⟩ ∧
      ¬ Recent (second.ComputedIn [.deleted 7, .written 0, .called 1 .zeros, .served 1, .answered 1]
        .zeros) 8 := by
  refine ⟨_, _, _, _, rfl, rfl, rfl, rfl, rfl, rfl, ?_⟩
  -- After the invalidation began no computation has ended at all.
  have hnone : ∀ start : System MemoryStore UInt32, ∀ value, ¬ start.ComputedIn [.deleted 7,
      .written 0, .called 1 .zeros, .served 1, .answered 1] .zeros value := by
    intro start value hcomputed
    obtain ⟨past, rest, id, -, -, -, -, hevents, -⟩ := hcomputed
    have hmem : Event.computed id (.ok value) ∈ ([.deleted 7, .written 0, .called 1 .zeros,
        .served 1, .answered 1] : List (Event UInt32)) := by
      rw [hevents]
      simp
    simp at hmem
  intro hrecent
  rcases hrecent with hfresh | ⟨source, hfresh, -⟩
  · exact hnone _ _ hfresh
  · exact hnone _ _ hfresh

end GameLibrary.System
