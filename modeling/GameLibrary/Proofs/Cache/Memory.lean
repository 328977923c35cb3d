import GameLibrary.Proofs.Cache.Supply

/-!
# What happens to memory

A step of the cache looks a key up in memory, inserts a value, removes a key, sweeps, or leaves
memory alone (`Transition.tier1_change`). So an entry stays in memory until it has expired, its key
is removed, or it has to make room for another one (`Transition.found_after`).
-/

namespace GameLibrary.Cache

variable {ν : Type} {cache next : Cache ν} {now : Instant} {id : CallId} {key : Key}
  {fallback : Option ν}

/-- At the beginning memory is empty. -/
theorem not_found_of_config (config : Config) (key : Key) :
    (ofConfig config : Cache ν).tier1.storage.find? key = none :=
  Shards.find?_empty _ _ key

/-- A caller that joins a flight looks its key up if it begins to lead. -/
theorem tier1_join (cache : Cache ν) :
    (cache.join now id key fallback).tier1 = cache.tier1 ∨
      (cache.join now id key fallback).tier1 = (cache.tier1.get now key).2 := by
  unfold join
  cases cache.registry.find? key with
  | none => exact .inr (tier1_lead _)
  | some flight =>
      dsimp only
      split
      · exact .inl (tier1_settle ..)
      · exact .inr (tier1_lead _)
      · exact .inl rfl

variable [Payload ν] {event : Event ν}

/-- The event brings a value into memory: that of a fresh record, or one that was computed and is to
be kept there. -/
inductive Inserts (cache : Cache ν) (now : Instant) (key : Key) : Event ν → ν → Prop where
  | promoted {id answer value} : cache.calls.find? id = some ⟨key, .answered answer⟩ →
      Durable.finding cache.config.durable now key answer = .usable (.fresh value) →
      Inserts cache now key (.answered id) value
  | computed {id flight fallback started value} :
      cache.calls.find? id = some ⟨key, .computing flight fallback started⟩ →
      cache.config.partialPolicy.keepsInMemory (Payload.isComplete value) = true →
      Inserts cache now key (.computed id (.ok value)) value

/-- What an event does to memory. -/
inductive MemoryChange (cache : Cache ν) (now : Instant) : Event ν → Tier1 Key ν → Prop where
  | none {event : Event ν} : MemoryChange cache now event cache.tier1
  | lookUp {event : Event ν} (key : Key) :
      MemoryChange cache now event (cache.tier1.get now key).2
  | insertion {event : Event ν} {key : Key} {value : ν} : cache.Inserts now key event value →
      MemoryChange cache now event (cache.tier1.insert now key value)
  | removal {key : Key} : MemoryChange cache now (.forgotten key) (cache.tier1.remove key).2
  | sweep : MemoryChange cache now .purged (cache.tier1.purge now).2

/-- Every step does one of a few things to memory. -/
theorem Transition.tier1_change (h : cache.Transition now event next) :
    cache.MemoryChange now event next.tier1 := by
  have hjoin : ∀ {event id key fallback} {change : Metrics → Metrics},
      cache.MemoryChange now event ((cache.count change).join now id key fallback).tier1 := by
    intro event id key fallback change
    rcases tier1_join (cache.count change) with hsame | hget
    · rw [hsame]
      exact .none
    · rw [hget]
      exact .lookUp key
  cases h with
  | called =>
      rw [tier1_enter]
      exact .lookUp _
  | answered hcall =>
      unfold receive
      split
      · rename_i value hfresh
        exact .insertion (.promoted hcall hfresh)
      · exact hjoin
      · exact hjoin
      · exact .none
      · exact hjoin
  | erased => exact hjoin
  | @computed _ _ _ _ _ result hcall =>
      cases result with
      | error failure =>
          unfold conclude
          rw [tier1_land]
          exact .none
      | ok value =>
          rw [tier1_conclude_ok]
          unfold keptTier1
          split
          · rename_i hkeeps
            exact .insertion (.computed hcall hkeeps)
          · exact .none
  | timedOut =>
      unfold conclude
      rw [tier1_land]
      exact .none
  | written | unwritten =>
      rw [tier1_land]
      exact .none
  | settled =>
      rw [tier1_settle]
      exact .none
  | promoted =>
      rw [tier1_lead]
      exact .lookUp _
  | left =>
      rw [tier1_leave]
      exact .none
  | served | dropped => exact .none
  | forgotten => exact .removal
  | purged => exact .sweep

/-- What memory holds after a step it held before, or the event has brought it. -/
theorem Transition.found_from (h : cache.Transition now event next) {entry : CacheEntry ν}
    (hfound : next.tier1.storage.find? key = some entry) :
    cache.tier1.storage.find? key = some entry ∨
      cache.Inserts now key event entry.value ∧ entry.insertedAt = now ∧
        entry.ttl = cache.tier1.config.ttl := by
  have hchange := h.tier1_change
  generalize next.tier1 = tier1 at hchange hfound
  cases hchange with
  | none => exact .inl hfound
  | lookUp => exact .inl (Tier1.found_of_get hfound)
  | insertion hinserts =>
      rcases Tier1.found_of_insert hfound with ⟨rfl, rfl⟩ | hbefore
      · exact .inr ⟨hinserts, rfl, rfl⟩
      · exact .inl hbefore
  | removal => exact .inl (Tier1.found_of_remove hfound)
  | sweep => exact .inl (Tier1.found_of_purge hfound)

/-- The settings of the tier in memory never change. -/
theorem Transition.tier1_config_eq (h : cache.Transition now event next) :
    next.tier1.config = cache.tier1.config := by
  have hchange := h.tier1_change
  generalize next.tier1 = tier1 at hchange
  cases hchange with
  | none | removal | sweep => rfl
  | lookUp => exact Tier1.config_get ..
  | insertion => exact Tier1.config_insert ..

/-- Every key in memory stays in its part. -/
theorem Transition.placed (h : cache.Transition now event next)
    (hplaced : cache.tier1.storage.Placed) : next.tier1.storage.Placed := by
  have hchange := h.tier1_change
  generalize next.tier1 = tier1 at hchange
  cases hchange with
  | none => exact hplaced
  | lookUp => exact Tier1.placed_get hplaced _ _
  | insertion => exact Tier1.placed_insert hplaced _ _ _
  | removal => exact Tier1.placed_remove hplaced _
  | sweep => exact Tier1.placed_purge hplaced _

/-- The entry of a key has to make room for that of another one. -/
def Crowds (cache : Cache ν) (now : Instant) (key : Key) (event : Event ν) : Prop :=
  ∃ other value, other ≠ key ∧ cache.Inserts now other event value ∧
    cache.tier1.config.maxEntries ≤ cache.tier1.size ∧ key ∈ cache.tier1.oldest now

/-- An entry that has not expired stays in memory or is renewed, unless its key is removed or has to
make room. -/
theorem Transition.found_after (h : cache.Transition now event next) {entry : CacheEntry ν}
    (hfound : cache.tier1.storage.find? key = some entry) (hlive : entry.isExpired now = false)
    (hkept : event ≠ .forgotten key) (hroom : ¬ cache.Crowds now key event) :
    next.tier1.storage.find? key = some entry ∨
      ∃ value, next.tier1.storage.find? key = some ⟨value, now, cache.tier1.config.ttl⟩ := by
  have hchange := h.tier1_change
  generalize next.tier1 = tier1 at hchange
  cases hchange with
  | none => exact .inl hfound
  | lookUp => exact .inl (Tier1.found_after_get hfound hlive)
  | @insertion _ other value hinserts =>
      by_cases hkey : key = other
      · subst hkey
        exact .inr ⟨value, Tier1.found_inserted ..⟩
      · refine .inl (Tier1.found_after_insert hfound hlive hkey fun hfull hold => ?_)
        exact hroom ⟨other, value, Ne.symm hkey, hinserts, hfull, hold⟩
  | removal =>
      refine .inl (Tier1.found_after_remove hfound ?_)
      rintro rfl
      exact hkept rfl
  | sweep => exact .inl (Tier1.found_after_purge hfound hlive)

end GameLibrary.Cache
