import GameLibrary.Proofs.Cache.Supply

/-!
# Recent values

Of some values of a key it is known that they are recent. If all that memory holds for the key, and
all that callers may bring into the tiers, comes from such values, it stays so, and whoever asks
from now on gets nothing else: `Transition.only_recent` is the step.
-/

namespace GameLibrary.Cache

open Traffic (Orderly)

variable {ν : Type} [Payload ν]

/-- The given values, and what is read back where one of them has been written. -/
def Recent (fresh : ν → Prop) (value : ν) : Prop :=
  fresh value ∨ ∃ source, fresh source ∧ Payload.decode (Payload.encode source) = .ok value

/-- What a look-up of the key finds in the record is recent. -/
def RecentRecord (fresh : ν → Prop) (key : Key) (record : Record) : Prop :=
  record.key = key → ∀ value, Payload.decode record.payload = .ok value → Recent fresh value

/-- What a caller for the key may bring into one of the tiers is recent. -/
def Point.BringsRecent (fresh : ν → Prop) (key : Key) : Point ν → Prop
  | .answered answer => ∀ record, answer = .ok (some record) → RecentRecord fresh key record
  | .storing _ _ value _ => fresh value
  | _ => True

/-- What a caller may return without asking any further is recent. -/
def Point.HoldsRecent (fresh : ν → Prop) : Point ν → Prop
  | .waiting _ fallback | .computing _ fallback _ | .storing _ fallback _ _ =>
      ∀ value, fallback = some value → Recent fresh value
  | .returned outcome => ∀ resolved, outcome = .ok resolved → Recent fresh resolved.value
  | _ => True

/-- For the key there is nothing but recent values, as far as the newcomers can tell. -/
structure OnlyRecent (fresh : ν → Prop) (key : Key) (newcomer : CallId → Prop) (cache : Cache ν) :
    Prop where
  memory : ∀ {entry}, cache.tier1.storage.find? key = some entry → Recent fresh entry.value
  brings : ∀ {id point}, cache.calls.find? id = some ⟨key, point⟩ → point.BringsRecent fresh key
  holds : ∀ {id point}, newcomer id → cache.calls.find? id = some ⟨key, point⟩ →
    point.HoldsRecent fresh
  outcomes : ∀ {id flight fallback resolved}, newcomer id →
    cache.calls.find? id = some ⟨key, .waiting flight fallback⟩ →
    (cache.flight flight).outcome = some (.ok resolved) → Recent fresh resolved.value

/-- Fewer newcomers can tell less. -/
theorem OnlyRecent.mono {fresh : ν → Prop} {key : Key} {newcomer other : CallId → Prop}
    {cache : Cache ν} (h : cache.OnlyRecent fresh key newcomer)
    (hother : ∀ id, other id → newcomer id) : cache.OnlyRecent fresh key other where
  memory := h.memory
  brings := h.brings
  holds hnew := h.holds (hother _ hnew)
  outcomes hnew := h.outcomes (hother _ hnew)

variable {fresh : ν → Prop} {cache next : Cache ν} {now : Instant} {id : CallId} {key : Key}
  {flight : FlightId} {fallback : Option ν} {event : Event ν}

section Points

variable (hmemory : ∀ {entry}, cache.tier1.storage.find? key = some entry →
    Recent fresh entry.value)
  (hfallback : ∀ value, fallback = some value → Recent fresh value)

include hmemory

/-- What is live in memory is recent. -/
theorem recent_of_live {value : ν} (hlive : cache.tier1.live? now key = some value) :
    Recent fresh value := by
  obtain ⟨entry, hentry, rfl⟩ := Tier1.entry_of_live hlive
  exact hmemory hentry

theorem enter_point_recent : (cache.enterPoint now key).HoldsRecent fresh := by
  unfold enterPoint
  split
  · rename_i hlive
    intro resolved heq
    cases heq
    exact recent_of_live hmemory hlive
  · trivial

include hfallback

theorem lead_point_recent : (cache.leadPoint now key fallback flight).HoldsRecent fresh := by
  unfold leadPoint
  split
  · rename_i hlive
    intro resolved heq
    cases heq
    exact recent_of_live hmemory hlive
  · exact hfallback

theorem join_point_recent (horderly : Orderly cache.traffic) :
    (cache.joinPoint now key fallback).HoldsRecent fresh := by
  unfold joinPoint
  split
  · exact lead_point_recent hmemory hfallback
  · rename_i flight hreg
    split
    · -- A registered flight has no outcome.
      rename_i hout
      have hopen := (horderly.registered hreg).2
      rw [show (cache.traffic.flights flight).outcome = some _ from hout] at hopen
      cases hopen
    · exact lead_point_recent hmemory hfallback
    · exact hfallback

end Points

/-- A verdict gives what the flight gives or the fallback. -/
theorem verdict_recent {config : Config} {led : Bool} {outcome : Outcome ν}
    (houtcome : ∀ resolved, outcome = .ok resolved → Recent fresh resolved.value)
    (hfallback : ∀ value, fallback = some value → Recent fresh value) :
    (Point.returned (verdict config led fallback outcome)).HoldsRecent fresh := by
  intro resolved hverdict
  cases outcome with
  | ok given =>
      have hgiven := houtcome given rfl
      cases led <;> cases hverdict <;> exact hgiven
  | error failure =>
      unfold verdict at hverdict
      dsimp only at hverdict
      split at hverdict
      · cases hverdict
        exact hfallback _ rfl
      · cases hverdict

/-- The answer of the store leads a caller to recent values. -/
theorem receive_point_recent {answer : ReadAnswer}
    (hmemory : ∀ {entry}, cache.tier1.storage.find? key = some entry → Recent fresh entry.value)
    (horderly : Orderly cache.traffic)
    (hanswer : ∀ record, answer = .ok (some record) → RecentRecord fresh key record) :
    (cache.receivePoint now key answer).HoldsRecent fresh := by
  have hnone : ∀ value : ν, none = some value → Recent fresh value := by
    intro value heq
    cases heq
  unfold receivePoint
  split
  · rename_i hfresh
    obtain ⟨record, hrecord, hkey, hdecode⟩ := Durable.usable_from hfresh (.inl rfl)
    intro resolved heq
    cases heq
    exact hanswer record hrecord hkey _ hdecode
  · rename_i hstale
    obtain ⟨record, hrecord, hkey, hdecode⟩ := Durable.usable_from hstale (.inr rfl)
    refine join_point_recent hmemory ?_ horderly
    intro value heq
    cases heq
    exact hanswer record hrecord hkey _ hdecode
  · exact join_point_recent hmemory hnone horderly
  · trivial
  · exact join_point_recent hmemory hnone horderly

/-- The end of a computation leaves its caller with recent values. -/
theorem conclude_point_recent {result : Except Failure ν}
    (hfallback : ∀ value, fallback = some value → Recent fresh value)
    (hresult : ∀ value, result = .ok value → fresh value) :
    (cache.concludePoint now key fallback flight result).HoldsRecent fresh := by
  unfold concludePoint
  split
  · exact verdict_recent (by rintro resolved ⟨⟩) hfallback
  · rename_i value
    split
    · exact hfallback
    · intro resolved heq
      cases heq
      exact .inl (hresult value rfl)

section Steps

variable {newcomer : CallId → Prop} {point : Point ν}
  (hserved : ∀ {id answer}, event = .served id answer →
    cache.calls.find? id = some ⟨key, .reading⟩ →
    ∀ record, answer = .ok (some record) → RecentRecord fresh key record)
  (hcomputed : ∀ {id flight fallback started value}, event = .computed id (.ok value) →
    cache.calls.find? id = some ⟨key, .computing flight fallback started⟩ → fresh value)

include hserved hcomputed in
/-- A caller for the key has nothing but recent values to bring. -/
theorem Arrival.brings_recent (h : cache.Arrival now id key event point) :
    point.BringsRecent fresh key := by
  cases point with
  | answered answer =>
      obtain ⟨hevent, hreading⟩ := h.answered_from
      exact hserved hevent hreading
  | storing flight fallback value record =>
      obtain ⟨hevent, ⟨started, hcall⟩, -⟩ := h.storing_from
      exact hcomputed hevent hcall
  | reading | erasing | waiting | computing | returned => trivial

include hcomputed in
/-- A newcomer holds nothing but recent values. -/
theorem Arrival.holds_recent (h : cache.Arrival now id key event point)
    (horderly : Orderly cache.traffic) (hrecent : cache.OnlyRecent fresh key newcomer)
    (hnew : newcomer id ∨ event = .called id key) : point.HoldsRecent fresh := by
  have hmemory : ∀ {entry}, cache.tier1.storage.find? key = some entry →
      Recent fresh entry.value := hrecent.memory
  have hholds : ∀ {other}, event ≠ .called id key →
      cache.calls.find? id = some ⟨key, other⟩ → other.HoldsRecent fresh :=
    fun hne hcall => hrecent.holds (hnew.resolve_right hne) hcall
  cases h with
  | called => exact enter_point_recent hmemory
  | served => trivial
  | answered hcall => exact receive_point_recent hmemory horderly (hrecent.brings hcall)
  | erased => exact join_point_recent hmemory (by rintro value ⟨⟩) horderly
  | computed hcall =>
      refine conclude_point_recent (hholds (by rintro ⟨⟩) hcall) ?_
      intro value heq
      subst heq
      exact hcomputed rfl hcall
  | timedOut hcall =>
      exact conclude_point_recent (hholds (by rintro ⟨⟩) hcall) (by rintro value ⟨⟩)
  | written hcall =>
      intro resolved heq
      cases heq
      exact .inl (hrecent.brings hcall)
  | settled hcall hout =>
      refine verdict_recent ?_ (hholds (by rintro ⟨⟩) hcall)
      intro resolved heq
      subst heq
      exact hrecent.outcomes (hnew.resolve_right (by rintro ⟨⟩)) hcall hout
  | promoted hcall => exact lead_point_recent hmemory (hholds (by rintro ⟨⟩) hcall)

include hserved hcomputed in
/-- As long as the store and the computations give recent values for the key, there are no others,
and this is so for those who ask now as well. -/
theorem Transition.only_recent (h : cache.Transition now event next)
    (horderly : Orderly cache.traffic) (hrecent : cache.OnlyRecent fresh key newcomer) :
    next.OnlyRecent fresh key fun id => newcomer id ∨ event = .called id key := by
  -- Who stands where it stood was not called just now.
  have hbefore : ∀ {id point}, newcomer id ∨ event = .called id key →
      cache.calls.find? id = some ⟨key, point⟩ → newcomer id := by
    intro id point hnew hcall
    rcases hnew with hnew | rfl
    · exact hnew
    · cases h with
      | called hfree =>
          rw [hfree] at hcall
          cases hcall
  constructor
  case memory =>
    intro entry hfound
    rcases h.memory_from hfound with hfound | hbrings
    · exact hrecent.memory hfound
    · generalize entry.value = value at hbrings
      cases hbrings with
      | promoted hcall hkey hdecode => exact hrecent.brings hcall _ rfl hkey _ hdecode
      | computed hcall => exact .inl (hcomputed rfl hcall)
  case brings =>
    intro id point hcall
    rcases h.arrival hcall with hcall | harrival
    · exact hrecent.brings hcall
    · exact harrival.brings_recent hserved hcomputed
  case holds =>
    intro id point hnew hcall
    rcases h.arrival hcall with hcall | harrival
    · exact hrecent.holds (hbefore hnew hcall) hcall
    · exact harrival.holds_recent hcomputed horderly hrecent hnew
  case outcomes =>
    intro id flight fallback resolved hnew hcall hout
    -- The caller waits for a flight that is open already, and unless it is over it is the one of
    -- the key.
    have hplace : flight < cache.nextFlight ∧ ((cache.flight flight).outcome = none →
        cache.registry.find? key = some flight) := by
      rcases h.arrival hcall with hcall | harrival
      · have hseated := horderly.seated (seat_of_call hcall)
        exact ⟨hseated.1, fun hopen => (hseated.2 hopen).1⟩
      · have hreg := harrival.waiting_from
        exact ⟨(horderly.registered hreg).1, fun _ => hreg⟩
    rcases h.outcome_from horderly hout with hout | ⟨other, hother, hsupplies⟩
    · rcases h.arrival hcall with hcall | harrival
      · exact hrecent.outcomes (hbefore hnew hcall) hcall hout
      · have hopen := (horderly.registered harrival.waiting_from).2
        rw [show (cache.traffic.flights flight).outcome = _ from hout] at hopen
        cases hopen
    · rcases hother with hreg | rfl
      · -- The flight is registered under one key, and that is the key of those who wait for it.
        have hkey : other = key :=
          horderly.keyed hreg (hplace.2 (horderly.registered hreg).2)
        subst hkey
        generalize resolved.value = value at hsupplies
        cases hsupplies with
        | memory hentry => exact hrecent.memory hentry
        | computed hcall => exact .inl (hcomputed rfl hcall)
        | written hcall => exact .inl (hrecent.brings hcall)
      · exact absurd hplace.1 (Nat.lt_irrefl _)

end Steps

end GameLibrary.Cache
