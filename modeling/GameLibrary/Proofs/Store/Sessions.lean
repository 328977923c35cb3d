import GameLibrary.Proofs.Store.Eviction
import Mathlib.Data.List.Induction

/-!
# Sessions with the tier in memory

What is done to the tier in memory is a list of calls, each with its time. Every entry that is found
after the calls comes from one of them that inserts it, or was there before (`found_of_run`).
-/

namespace GameLibrary.Tier1

variable {κ ν : Type}

/-- What can be asked of the tier. -/
inductive Call (κ ν : Type) where
  | insert (key : κ) (value : ν)
  | get (key : κ)
  | remove (key : κ)
  | contains (key : κ)
  | purge
  | clear
  | size

/-- A call of a session, with its time. -/
abbrev TimedCall (κ ν : Type) := Instant × Call κ ν

variable [DecidableEq κ]

/-- The tier after a call. -/
def perform (tier : Tier1 κ ν) (now : Instant) : Call κ ν → Tier1 κ ν
  | .insert key value => tier.insert now key value
  | .get key => (tier.get now key).2
  | .remove key => (tier.remove key).2
  | .purge => (tier.purge now).2
  | .clear => tier.clear
  | .contains _ | .size => tier

/-- The tier after a list of calls. -/
def run (tier : Tier1 κ ν) (calls : List (TimedCall κ ν)) : Tier1 κ ν :=
  calls.foldl (fun tier call => tier.perform call.1 call.2) tier

variable {tier : Tier1 κ ν} {now : Instant} {key : κ} {entry : CacheEntry ν} {call : Call κ ν}

@[simp] theorem run_nil (tier : Tier1 κ ν) : tier.run [] = tier := rfl

theorem run_append (tier : Tier1 κ ν) (first rest : List (TimedCall κ ν)) :
    tier.run (first ++ rest) = (tier.run first).run rest :=
  List.foldl_append

theorem run_concat (tier : Tier1 κ ν) (calls : List (TimedCall κ ν)) (now : Instant)
    (call : Call κ ν) : tier.run (calls ++ [(now, call)]) = (tier.run calls).perform now call :=
  tier.run_append calls [(now, call)]

section Steps

@[simp] theorem config_perform (tier : Tier1 κ ν) (now : Instant) (call : Call κ ν) :
    (tier.perform now call).config = tier.config := by
  cases call with
  | insert key value => exact config_insert ..
  | get key => exact config_get ..
  | remove | contains | purge | clear | size => rfl

/-- Every call leaves the keys in their parts. -/
theorem placed_perform (h : tier.storage.Placed) (now : Instant) (call : Call κ ν) :
    (tier.perform now call).storage.Placed := by
  cases call with
  | insert key value => exact placed_insert h now key value
  | get key => exact placed_get h now key
  | remove key => exact placed_remove h key
  | purge => exact placed_purge h now
  | clear => exact tier.storage.placed_clear
  | contains | size => exact h

/-- What is found after a call was there before, unless the call inserts it. -/
theorem found_of_perform (h : (tier.perform now call).storage.find? key = some entry) :
    (∃ value, call = .insert key value ∧ entry = ⟨value, now, tier.config.ttl⟩) ∨
      (∀ value, call ≠ .insert key value) ∧ tier.storage.find? key = some entry := by
  cases call with
  | insert other value =>
      by_cases hkey : key = other
      · subst hkey
        have hinserted := found_inserted tier now key value
        exact .inl ⟨value, rfl, Option.some.inj (h.symm.trans hinserted)⟩
      · refine .inr ⟨fun _ heq => ?_, ?_⟩
        · cases heq
          exact hkey rfl
        · exact (found_of_insert h).resolve_left fun hother => hkey hother.1
  | get other => exact .inr ⟨nofun, found_of_get h⟩
  | remove other => exact .inr ⟨nofun, found_of_remove h⟩
  | purge => exact .inr ⟨nofun, found_of_purge h⟩
  | clear =>
      cases h.symm.trans (Shards.find?_clear ..)
  | contains | size => exact .inr ⟨nofun, h⟩

end Steps

section Runs

@[simp] theorem config_run (tier : Tier1 κ ν) (calls : List (TimedCall κ ν)) :
    (tier.run calls).config = tier.config :=
  List.foldlRecOn (motive := fun next : Tier1 κ ν => next.config = tier.config) _ _ rfl
    fun _ hconfig _ _ => (config_perform ..).trans hconfig

theorem placed_run (h : tier.storage.Placed) (calls : List (TimedCall κ ν)) :
    (tier.run calls).storage.Placed :=
  List.foldlRecOn (motive := fun next : Tier1 κ ν => next.storage.Placed) _ _ h
    fun _ hplaced _ _ => placed_perform hplaced _ _

/-- What is found after some calls was inserted by one of them or was there before. -/
theorem found_of_run {calls : List (TimedCall κ ν)}
    (h : (tier.run calls).storage.find? key = some entry) :
    (∃ time value, (time, .insert key value) ∈ calls ∧ entry = ⟨value, time, tier.config.ttl⟩) ∨
      tier.storage.find? key = some entry := by
  induction calls using List.reverseRecOn with
  | nil => exact .inr h
  | append_singleton calls call ih =>
      obtain ⟨time, call⟩ := call
      rw [run_concat] at h
      rcases found_of_perform h with ⟨value, rfl, rfl⟩ | ⟨-, hbefore⟩
      · rw [config_run]
        exact .inl ⟨time, value, by simp, rfl⟩
      · rcases ih hbefore with ⟨time, value, hmem, hentry⟩ | hstart
        · exact .inl ⟨time, value, List.mem_append_left _ hmem, hentry⟩
        · exact .inr hstart

end Runs

section Start

variable (config : Config) (hash : κ → Nat)

/-- The empty tier has nothing in the wrong part. -/
theorem placed_of_config : (ofConfig config hash : Tier1 κ ν).storage.Placed :=
  Shards.placed_empty 6 hash

/-- In every session the keys stay in their parts. -/
theorem placed_session (calls : List (TimedCall κ ν)) :
    ((ofConfig config hash).run calls).storage.Placed :=
  placed_run (placed_of_config config hash) calls

theorem find?_of_config (key : κ) :
    (ofConfig config hash : Tier1 κ ν).storage.find? key = none :=
  Shards.find?_empty 6 hash key

variable {config hash} in
/-- What is found in a tier that was empty was inserted. -/
theorem inserted_of_found {calls : List (TimedCall κ ν)}
    (h : ((ofConfig config hash).run calls).storage.find? key = some entry) :
    ∃ time value, (time, .insert key value) ∈ calls ∧ entry = ⟨value, time, config.ttl⟩ := by
  refine (found_of_run h).resolve_right fun hstart => ?_
  cases hstart.symm.trans (find?_of_config config hash key)

theorem size_of_config : (ofConfig config hash : Tier1 κ ν).size = 0 :=
  (placed_of_config config hash).size_eq_zero (find?_of_config config hash)

end Start

end GameLibrary.Tier1
