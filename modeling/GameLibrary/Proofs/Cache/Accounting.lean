import GameLibrary.Proofs.Cache.Abandoned
import GameLibrary.Proofs.Cache.Memory

/-!
# What the counters account for

Every call is entered in one column of a book: it is looking its key up, waits, computes, writes, or
is over, with a value from some source or with a failure (`Column`). A step moves one call from
column to column and changes some counters. `Balanced` states what the counters have to do with the
number of calls in each column; it holds after every step of a run in which nobody is dropped, in
particular in the middle of calls, and when all of them are over it amounts to `Accounted`.

A step may pass through several columns, as when a caller that has looked its key up joins a flight,
leads it, and finds its value in memory. So the invariant is stated for a book in which one call is
taken out of its column and stands in another one (`BalancedAt`), and there is one lemma for each
entry.
-/

namespace GameLibrary

namespace Cache

variable {ν : Type}

/-- The columns of the book in which calls are entered. -/
inductive Column where
  /-- The call looks its key up. -/
  | looking
  | waiting
  | computing
  | storing
  /-- The call is over and has given a value. -/
  | given (source : Source)
  /-- The call is over and has failed. -/
  | refused
deriving DecidableEq, Repr

/-- Whether the calls of a column are over. -/
def Column.isOver : Column → Bool
  | .given _ | .refused => true
  | .looking | .waiting | .computing | .storing => false

/-- The column of a call at a point. -/
def Point.column : Point ν → Column
  | .reading | .answered _ | .erasing => .looking
  | .waiting _ _ => .waiting
  | .computing _ _ _ => .computing
  | .storing _ _ _ _ => .storing
  | .returned (.ok resolved) => .given resolved.source
  | .returned (.error _) => .refused

/-- The number of calls in a column. -/
def number (cache : Cache ν) (column : Column) : Nat :=
  cache.calls.number fun call => decide (call.point.column = column)

/-- The number of calls in a column, if one of them is entered there besides the others. -/
def entered (others : Column → Nat) (own : Option Column) (column : Column) : Nat :=
  others column + if own = some column then 1 else 0

/-- The counters, the hits and misses of the tier in memory, and the number of calls that have
begun. -/
structure Counts where
  metrics : Metrics
  hits : Nat
  misses : Nat
  begun : Nat

/-- What the counts have to do with the number of calls in each column. -/
structure Balanced (c : Counts) (number : Column → Nat) : Prop where
  begun : c.metrics.tier1Hits + c.metrics.tier1Misses = c.begun
  promotions : c.metrics.promotions = c.metrics.tier2Hits
  given_tier1 : c.hits = number (.given .tier1)
  given_tier2 : c.metrics.tier2Hits = number (.given .tier2)
  /-- A value that was computed is being written or has been given. -/
  given_origin : c.metrics.originFetches = number .storing + number (.given .origin)
  given_stale : c.metrics.staleServed = number (.given .stale)
  first_hits : c.metrics.tier1Hits ≤ c.hits
  /-- A caller misses its key once, and once more before it computes. -/
  misses_eq : c.misses = c.metrics.tier1Misses + number .computing + c.metrics.originFetches +
    c.metrics.originFailures
  /-- A call that was not answered from memory looks its key up, waits or computes, or one counter
  tells how it went on. -/
  missed : c.begun = c.hits + number .looking + number .waiting + number .computing +
    c.metrics.tier2Hits + c.metrics.originFetches + c.metrics.originFailures +
    c.metrics.coalescedWaits
  /-- A call that has ended its look-up has found its key in the durable tier, or has not. -/
  looked_up : number .looking + c.metrics.tier2Hits + c.metrics.tier2Misses ≤
    c.metrics.tier1Misses
  /-- The look-ups that failed are among the errors. -/
  errors : c.metrics.tier1Misses ≤
    number .looking + c.metrics.tier2Hits + c.metrics.tier2Misses + c.metrics.tier2Errors
  partial_results : c.metrics.partialResults ≤ c.metrics.originFetches
  /-- A call that has led a flight to its failure, or has waited for one, is over. -/
  settled : c.metrics.originFailures + c.metrics.coalescedWaits =
    number .refused + number (.given .stale) + number (.given .coalesced)

/-- The entries that are made in the book: which counts change when a call comes from a column, or
begins, and stands in another one. -/
inductive Entry (c : Counts) : Option Column → Counts → Column → Prop where
  /-- A call finds its value in memory at once. -/
  | hit : Entry c none
      { c with metrics := c.metrics.tier1Hit, hits := c.hits + 1, begun := c.begun + 1 }
      (.given .tier1)
  /-- A call misses its key in memory. -/
  | miss : Entry c none
      { c with metrics := c.metrics.tier1Miss, misses := c.misses + 1, begun := c.begun + 1 }
      .looking
  /-- A call finds a fresh record, whose value is brought into memory. -/
  | promoted : Entry c (some .looking) { c with metrics := c.metrics.tier2Hit.promotion }
      (.given .tier2)
  /-- A call finds no fresh record. -/
  | missing : Entry c (some .looking) { c with metrics := c.metrics.tier2Miss } .waiting
  /-- The look-up of a call in the durable tier fails. -/
  | unreadable : Entry c (some .looking) { c with metrics := c.metrics.tier2Error } .waiting
  /-- A call that would compute finds its value in memory. -/
  | found : Entry c (some .waiting) { c with hits := c.hits + 1 } (.given .tier1)
  /-- A call computes, having missed its key in memory once more. -/
  | begins : Entry c (some .waiting) { c with misses := c.misses + 1 } .computing
  /-- A call that has waited gets the value of its flight. -/
  | shared : Entry c (some .waiting) { c with metrics := c.metrics.coalescedWait }
      (.given .coalesced)
  /-- A call that has waited is told that its flight has failed. -/
  | sharedFailure : Entry c (some .waiting) { c with metrics := c.metrics.coalescedWait } .refused
  /-- The computation of a call fails. -/
  | failed : Entry c (some .computing) { c with metrics := c.metrics.originFailure } .refused
  /-- A value that is not fresh any more takes the place of a failure. -/
  | fallback : Entry c (some .refused) { c with metrics := c.metrics.stale } (.given .stale)
  /-- The computation of a call gives a value. -/
  | fetched (elapsed : Duration) : Entry c (some .computing)
      { c with metrics := c.metrics.originFetch elapsed } .storing
  /-- The computation of a call gives a value in which something is missing. -/
  | fetchedPart (elapsed : Duration) : Entry c (some .computing)
      { c with metrics := (c.metrics.originFetch elapsed).partialResult } .storing
  /-- The write of a call fails. -/
  | unwritten : Entry c (some .storing) { c with metrics := c.metrics.tier2Error } .storing
  /-- A call gives the value that it has computed. -/
  | stored : Entry c (some .storing) c (.given .origin)

/-- Every entry keeps the book balanced. -/
theorem Balanced.entry {c c' : Counts} {others : Column → Nat} {own : Option Column}
    {column : Column} (h : Balanced c (entered others own)) (hentry : Entry c own c' column) :
    Balanced c' (entered others (some column)) := by
  cases h
  cases hentry
  all_goals
    -- What the columns held is read off the numbers in them and the call itself,
    simp only [entered, Option.some.injEq, reduceCtorEq, if_false, if_true, Nat.add_zero] at *
    constructor
  all_goals
    -- and so is what they hold now; the counters that the entry changes are read off its rule.
    try simp only [entered, Option.some.injEq, reduceCtorEq, if_false, if_true, Nat.add_zero,
      Column.given.injEq, Metrics.tier1Hit, Metrics.tier1Miss, Metrics.tier2Hit,
      Metrics.promotion, Metrics.tier2Miss, Metrics.tier2Error, Metrics.coalescedWait,
      Metrics.originFailure, Metrics.stale, Metrics.originFetch, Metrics.partialResult]
    omega

/-- Before any call the book is empty. -/
theorem balanced_zero : Balanced ⟨{}, 0, 0, 0⟩ fun _ => 0 := by
  constructor <;> decide

/-- The counts of a cache. -/
def counts (cache : Cache ν) (begun : Nat) : Counts :=
  ⟨cache.metrics, cache.tier1.hits, cache.tier1.misses, begun⟩

/-- The counts agree with the calls, of which so many have begun. -/
def Balances (cache : Cache ν) (begun : Nat) : Prop :=
  Balanced (cache.counts begun) cache.number

/-- The counts agree with the calls as soon as one of them stands in the given column, or is there
at all. -/
def BalancedAt (cache : Cache ν) (id : CallId) (own : Option Column) (begun : Nat) : Prop :=
  Balanced (cache.counts begun) (entered (fun column => (cache.calls.erase id).number fun call =>
    decide (call.point.column = column)) own)

variable {cache : Cache ν} {now : Instant} {id : CallId} {key : Key} {flight : FlightId}
  {fallback : Option ν} {point : Point ν} {begun : Nat}

section Functions

/-- Every call stands in the column of its point. -/
theorem balances_iff (id : CallId) : cache.Balances begun ↔
    cache.BalancedAt id ((cache.calls.find? id).map fun call => call.point.column) begun := by
  have hnumber : cache.number = entered (fun column => (cache.calls.erase id).number fun call =>
      decide (call.point.column = column))
        ((cache.calls.find? id).map fun call => call.point.column) := by
    funext column
    unfold number entered
    rw [Table.number_eq _ id]
    cases cache.calls.find? id <;> simp
  unfold Balances BalancedAt
  rw [hnumber]

/-- A call that comes to a point comes into its column. -/
theorem set_point_balances (h : cache.BalancedAt id (some point.column) begun) :
    (cache.setPoint id key point).Balances begun := by
  refine (balances_iff id).2 ?_
  unfold BalancedAt setPoint
  dsimp only
  rw [Table.find?_insert, if_pos rfl]
  simp only [Table.number_erase_insert]
  exact h

/-- The column of a call that is told the outcome of its flight, if it has nothing to fall back
on. -/
def outcomeColumn (led : Bool) : Outcome ν → Column
  | .ok resolved => .given (if led then resolved.source else .coalesced)
  | .error _ => .refused

/-- The end of a call that has been told of its flight. -/
theorem settle_balances {led : Bool} {outcome : Outcome ν}
    (h : (if led then cache else cache.count .coalescedWait).BalancedAt id
      (some (outcomeColumn led outcome)) begun) :
    (cache.settle id key led fallback outcome).Balances begun := by
  unfold settle
  dsimp only
  have hconfig : (if led then cache else cache.count .coalescedWait).config = cache.config := by
    cases led <;> rfl
  generalize (if led then cache else cache.count .coalescedWait) = counted at *
  apply set_point_balances
  cases outcome with
  | ok resolved => cases led <;> exact h
  | error failure =>
      cases fallback with
      | none => exact h
      | some value =>
          unfold verdict
          cases hstale : counted.config.servesStale with
          | true =>
              dsimp only
              rw [show (counted.count .stale).config.servesStale = true from hstale]
              exact Balanced.entry h .fallback
          | false =>
              dsimp only
              rw [hstale]
              exact h

/-- The end of a flight is the end of the call of its leader. -/
theorem land_balances {outcome : Outcome ν}
    (h : cache.BalancedAt id (some (outcomeColumn true outcome)) begun) :
    (cache.land id key flight fallback outcome).Balances begun := by
  unfold land
  dsimp only
  split <;> exact settle_balances h

/-- A caller that begins to lead a flight finds its value in memory, or computes. -/
theorem lead_balances (h : cache.BalancedAt id (some .waiting) begun) :
    (cache.lead now id key flight fallback).Balances begun := by
  unfold lead
  cases hlive : cache.tier1.live? now key with
  | some value =>
      obtain ⟨after, hget, hhits, hmisses⟩ := cache.tier1.get_of_live now key hlive
      rw [hget]
      apply land_balances
      show Balanced ⟨cache.metrics, after.hits, after.misses, begun⟩ _
      rw [hhits, hmisses]
      exact Balanced.entry h .found
  | none =>
      obtain ⟨after, hget, hhits, hmisses⟩ := cache.tier1.get_of_not_live now key hlive
      rw [hget]
      apply set_point_balances
      show Balanced ⟨cache.metrics, after.hits, after.misses, begun⟩ _
      rw [hhits, hmisses]
      exact Balanced.entry h .begins

/-- A caller that has waited is told the outcome of its flight. -/
theorem settle_waiting_balances {outcome : Outcome ν}
    (h : cache.BalancedAt id (some .waiting) begun) :
    (cache.settle id key false fallback outcome).Balances begun := by
  apply settle_balances
  cases outcome with
  | ok => exact Balanced.entry h .shared
  | error => exact Balanced.entry h .sharedFailure

/-- A caller that joins a flight waits for it, or leads it. -/
theorem join_balances (h : cache.BalancedAt id (some .waiting) begun) :
    (cache.join now id key fallback).Balances begun := by
  unfold join
  cases cache.registry.find? key with
  | none => exact lead_balances h
  | some flight =>
      dsimp only
      split
      · exact settle_waiting_balances h
      · exact lead_balances h
      · exact set_point_balances h

/-- A call begins: its key is looked up in memory. -/
theorem enter_balances (h : cache.BalancedAt id none begun) :
    (cache.enter now id key).Balances (begun + 1) := by
  unfold enter
  cases hlive : cache.tier1.live? now key with
  | some value =>
      obtain ⟨after, hget, hhits, hmisses⟩ := cache.tier1.get_of_live now key hlive
      rw [hget]
      apply set_point_balances
      show Balanced ⟨cache.metrics.tier1Hit, after.hits, after.misses, begun + 1⟩ _
      rw [hhits, hmisses]
      exact Balanced.entry h .hit
  | none =>
      obtain ⟨after, hget, hhits, hmisses⟩ := cache.tier1.get_of_not_live now key hlive
      rw [hget]
      apply set_point_balances
      show Balanced ⟨cache.metrics.tier1Miss, after.hits, after.misses, begun + 1⟩ _
      rw [hhits, hmisses]
      exact Balanced.entry h .miss

/-- Bringing a value into memory is not counted. -/
theorem keep_balances (now : Instant) (key : Key) (value : ν) {own : Option Column} :
    (cache.keep now key value).BalancedAt id own begun ↔ cache.BalancedAt id own begun := by
  obtain ⟨hhits, hmisses⟩ := cache.tier1.counts_insert now key value
  unfold BalancedAt counts keep
  dsimp only
  rw [hhits, hmisses]

variable [Payload ν]

/-- A caller goes on with the answer of the durable store. -/
theorem receive_balances {answer : ReadAnswer} (h : cache.BalancedAt id (some .looking) begun) :
    (cache.receive now id key answer).Balances begun := by
  unfold receive
  split
  · rename_i value _
    have hpromoted : ((cache.count .tier2Hit).count .promotion).BalancedAt id
        (some (.given .tier2)) begun := Balanced.entry h .promoted
    exact set_point_balances ((keep_balances now key value).2 hpromoted)
  · exact join_balances (Balanced.entry h .missing)
  · exact join_balances (Balanced.entry h .missing)
  · exact set_point_balances h
  · exact join_balances (Balanced.entry h .unreadable)

/-- A caller goes on with the result of its computation. -/
theorem conclude_balances {started : Instant} {result : Except Failure ν}
    (h : cache.BalancedAt id (some .computing) begun) :
    (cache.conclude now id key flight fallback started result).Balances begun := by
  unfold conclude
  cases result with
  | error failure => exact land_balances (Balanced.entry h .failed)
  | ok value =>
      -- Whether the value is complete, and whether it is kept in memory, are two questions.
      dsimp only
      have hfetched : ((if Payload.isComplete value then
            cache.count (·.originFetch (now.since started))
          else (cache.count (·.originFetch (now.since started))).count .partialResult).BalancedAt
            id (some .storing) begun) := by
        split
        · exact Balanced.entry h (.fetched _)
        · exact Balanced.entry h (.fetchedPart _)
      generalize (if Payload.isComplete value then
          cache.count (·.originFetch (now.since started))
        else (cache.count (·.originFetch (now.since started))).count .partialResult) = counted at *
      have hkept : (if cache.config.partialPolicy.keepsInMemory (Payload.isComplete value) then
          counted.keep now key value else counted).BalancedAt id (some .storing) begun := by
        split
        · exact (keep_balances now key value).2 hfetched
        · exact hfetched
      split
      · exact set_point_balances hkept
      · exact land_balances (Balanced.entry hkept .stored)

end Functions

section Runs

variable [Payload ν] {next finish : Cache ν} {event : Event ν}
  {events : List (Instant × Event ν)} {config : Config}

/-- Whether a call begins with the event. -/
def Event.isCall : Event ν → Bool
  | .called _ _ => true
  | _ => false

/-- The number of calls that begin with the events. -/
def callsIn (events : List (Instant × Event ν)) : Nat :=
  events.countP fun event => event.2.isCall

/-- Every step but that of a caller who is dropped keeps the counts in agreement with the calls. -/
theorem Transition.balances (h : cache.Transition now event next)
    (hkept : ∀ id, event ≠ .dropped id) (hbalances : cache.Balances begun) :
    next.Balances (begun + if event.isCall then 1 else 0) := by
  -- Taken out of the book, a call stands in the column of its point.
  have hat : ∀ {id key point}, cache.calls.find? id = some ⟨key, point⟩ →
      cache.BalancedAt id (some point.column) begun := by
    intro id key point hcall
    have hbalanced := (balances_iff id).1 hbalances
    rw [hcall] at hbalanced
    exact hbalanced
  cases h with
  | @called id key hcall =>
      have hbalanced := (balances_iff id).1 hbalances
      rw [hcall] at hbalanced
      exact enter_balances hbalanced
  | served hcall =>
      have hlooking := hat hcall
      exact set_point_balances hlooking
  | answered hcall => exact receive_balances (hat hcall)
  | erased hcall => exact join_balances (Balanced.entry (hat hcall) .missing)
  | computed hcall => exact conclude_balances (hat hcall)
  | timedOut hcall => exact conclude_balances (hat hcall)
  | written hcall => exact land_balances (Balanced.entry (hat hcall) .stored)
  | unwritten hcall =>
      exact land_balances (Balanced.entry (Balanced.entry (hat hcall) .unwritten) .stored)
  | settled hcall => exact settle_waiting_balances (hat hcall)
  | promoted hcall => exact lead_balances (hat hcall)
  | left | dropped => exact absurd rfl (hkept _)
  | forgotten | purged => exact hbalances

/-- After a run in which nobody is dropped the counts agree with the calls. -/
theorem run_balances (hrun : (ofConfig config).run events = some finish)
    (hkept : ∀ now id, (now, .dropped id) ∉ events) : finish.Balances (callsIn events) := by
  refine fold_history (fun past cache => cache.Balances (callsIn past)) ?_ ?_ hrun
  · exact balanced_zero
  · rintro past ⟨now, event⟩ cache next hwithin - hbalances hstep
    have hevent : ∀ id, event ≠ .dropped id := by
      rintro id rfl
      exact hkept now id (hwithin.subset (by simp))
    have hnext := (step_transition hstep).balances hevent hbalances
    unfold callsIn at hnext ⊢
    rw [List.countP_append, List.countP_singleton]
    exact hnext

omit [Payload ν] in
/-- When every call is over, no call stands in a column of those that are under way. -/
theorem idle_iff : cache.Idle ↔ ∀ column : Column, column.isOver = false →
    cache.number column = 0 := by
  constructor
  · intro hidle column hopen
    refine List.countP_eq_zero.2 fun entry hmem hcolumn => ?_
    obtain ⟨outcome, hpoint⟩ := hidle entry.1 entry.2 ((cache.calls.find?_eq_some).2 hmem)
    have hreturned := of_decide_eq_true hcolumn
    rw [hpoint] at hreturned
    subst hreturned
    cases outcome <;> cases hopen
  · intro hnone id ⟨key, point⟩ hcall
    have hover : point.column.isOver = true := by
      by_contra hopen
      have hempty := List.countP_eq_zero.1 (hnone point.column (by simpa using hopen))
      exact hempty _ ((cache.calls.find?_eq_some).1 hcall) (decide_eq_true rfl)
    cases point with
    | returned outcome => exact ⟨outcome, rfl⟩
    | reading | answered | erasing | waiting | computing | storing => cases hover

/-- What the counters of a cache say of so many calls that are all over. -/
structure Accounted (cache : Cache ν) (calls : Nat) : Prop where
  calls_eq : cache.metrics.tier1Hits + cache.metrics.tier1Misses = calls
  promotions_eq : cache.metrics.promotions = cache.metrics.tier2Hits
  /-- Some callers find their value in memory only when they would compute it. -/
  first_hits : cache.metrics.tier1Hits ≤ cache.tier1.hits
  /-- Every call that memory has not answered at once has ended in one of five ways. -/
  missed : cache.metrics.tier1Misses = cache.metrics.tier2Hits + cache.metrics.coalescedWaits +
    cache.metrics.originFetches + cache.metrics.originFailures +
      (cache.tier1.hits - cache.metrics.tier1Hits)
  misses_eq : cache.tier1.misses = cache.metrics.tier1Misses + cache.metrics.originFetches +
    cache.metrics.originFailures
  looked_up : cache.metrics.tier2Hits + cache.metrics.tier2Misses ≤ cache.metrics.tier1Misses
  /-- Every look-up in the durable tier is counted, be it as an error. -/
  errors : cache.metrics.tier1Misses ≤ cache.metrics.tier2Hits + cache.metrics.tier2Misses +
    cache.metrics.tier2Errors
  partial_results : cache.metrics.partialResults ≤ cache.metrics.originFetches
  stale_served : cache.metrics.staleServed ≤
    cache.metrics.originFailures + cache.metrics.coalescedWaits
  from_origin : cache.number (.given .origin) = cache.metrics.originFetches
  from_tier2 : cache.number (.given .tier2) = cache.metrics.tier2Hits
  from_stale : cache.number (.given .stale) = cache.metrics.staleServed
  from_tier1 : cache.number (.given .tier1) = cache.tier1.hits

/-- When all calls are over and nobody has been dropped, the counters account for every call. -/
theorem run_accounted (hrun : (ofConfig config).run events = some finish)
    (hkept : ∀ now id, (now, .dropped id) ∉ events) (hidle : finish.Idle) :
    finish.Accounted (callsIn events) := by
  have hbalances := run_balances hrun hkept
  have hlooking : finish.number .looking = 0 := idle_iff.1 hidle .looking rfl
  have hwaiting : finish.number .waiting = 0 := idle_iff.1 hidle .waiting rfl
  have hcomputing : finish.number .computing = 0 := idle_iff.1 hidle .computing rfl
  have hstoring : finish.number .storing = 0 := idle_iff.1 hidle .storing rfl
  obtain ⟨hbegun, hpromotions, htier1, htier2, horigin, hstale, hfirst, hmisses, hmissed, hlooked,
    herrors, hpartial, hsettled⟩ := hbalances
  simp only [counts] at *
  constructor <;> omega

/-- Two callers miss the same key, and the second one finds it in memory when it would compute,
because the first one has brought it there. A third caller finds it at once. -/
def lateReader : List (Instant × Event UInt32) :=
  [(⟨0⟩, .called 0 .zeros), (⟨0⟩, .called 1 .zeros), (⟨1⟩, .served 0 (.ok none)),
    (⟨1⟩, .served 1 (.ok none)), (⟨2⟩, .answered 0), (⟨3⟩, .computed 0 (.ok 8)),
    (⟨4⟩, .written 0 (.ok ())), (⟨5⟩, .answered 1), (⟨6⟩, .called 2 .zeros)]

/-- Memory has answered two of the three calls, one of them at once. -/
theorem run_accounted_late : ∃ finish, (ofConfig {}).run lateReader = some finish ∧
    finish.Idle ∧ finish.tier1.hits = 2 ∧ finish.metrics.tier1Hits = 1 ∧ finish.Accounted 3 := by
  have hruns : ∃ finish, (ofConfig {}).run lateReader = some finish ∧
      finish.calls.entries.map (·.2.point.column) =
        [.given .origin, .given .tier1, .given .tier1] ∧
      finish.tier1.hits = 2 ∧ finish.metrics.tier1Hits = 1 := ⟨_, rfl, rfl, rfl, rfl⟩
  obtain ⟨finish, hrun, hcolumns, hhits, hfirst⟩ := hruns
  have hidle : finish.Idle := by
    refine idle_iff.2 fun column hopen => List.countP_eq_zero.2 fun entry hmem hcolumn => ?_
    have hover := List.mem_map_of_mem (f := (·.2.point.column)) hmem
    rw [hcolumns, of_decide_eq_true hcolumn] at hover
    revert hopen hover
    cases column <;> simp [Column.isOver]
  have hkept : ∀ now id, (now, .dropped id) ∉ lateReader := by
    intro now id
    simp [lateReader]
  exact ⟨finish, hrun, hidle, hhits, hfirst, run_accounted hrun hkept hidle⟩

end Runs

end Cache

end GameLibrary
