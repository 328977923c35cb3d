import GameLibrary.Cache.State
import Mathlib.Logic.Function.Basic
import Mathlib.Data.List.Nodup

/-!
# Who sits on which flight

Of the state of a cache only four things decide who computes for whom: the registry, the number of
the next flight, the flights, and the seats that callers have on them. `Traffic` is this view.
`Traffic.Orderly` is the invariant of shared computations: it ties the registry to the flights, and
the line of each flight, its leader with the queue behind, to the seats. Read `Orderly.reseat`
first: it says which changes of one flight and one seat keep the traffic orderly. The changes that
the cache makes follow, one lemma for each.
-/

namespace GameLibrary.Cache

variable {ν : Type}

/-- The place of a caller on a flight: the caller leads it, or waits. -/
structure Seat where
  key : Key
  flight : FlightId
  leads : Bool

/-- The seat of a call, if it has one. -/
def Call.seat (call : Call ν) : Option Seat :=
  match call.point with
  | .waiting flight _ => some ⟨call.key, flight, false⟩
  | .computing flight _ _ | .storing flight _ _ _ => some ⟨call.key, flight, true⟩
  | _ => none

/-- Those who lead the flight or would, in this order. -/
def Flight.line (flight : Flight ν) : List CallId := flight.leader.toList ++ flight.queue

/-- The flight without one of its line; the next in line leads if that was the leader. -/
def Flight.without (flight : Flight ν) (id : CallId) : Flight ν :=
  if flight.leader = some id then
    { flight with leader := flight.queue.head?, queue := flight.queue.tail }
  else { flight with queue := flight.queue.filter (· ≠ id) }

@[simp] theorem Flight.outcome_without (flight : Flight ν) (id : CallId) :
    (flight.without id).outcome = flight.outcome := by
  unfold Flight.without
  split <;> rfl

/-- Leaving a line takes the caller out of it and nobody else. -/
theorem Flight.line_without {flight : Flight ν} (hdistinct : flight.line.Nodup) (id : CallId) :
    (flight.without id).line = flight.line.erase id := by
  unfold Flight.without
  split
  · rename_i hleader
    cases hqueue : flight.queue <;> simp [Flight.line, hleader, hqueue]
  · rename_i hleader
    have hnot : id ∉ flight.leader.toList := by simpa using hleader
    have hqueue : flight.queue.Nodup := (List.nodup_append.1 hdistinct).2.1
    unfold Flight.line
    rw [List.erase_append_right _ hnot, hqueue.erase_eq_filter]
    refine congrArg (flight.leader.toList ++ ·) (List.filter_congr fun other _ => ?_)
    by_cases ho : other = id <;> simp [ho]

/-- Leaving a line with a head leaves a line with a head. -/
theorem Flight.headed_without {flight : Flight ν}
    (hheaded : flight.leader = none → flight.queue = []) (id : CallId) :
    (flight.without id).leader = none → (flight.without id).queue = [] := by
  unfold Flight.without
  split
  · intro hnone
    rw [List.head?_eq_none_iff] at hnone
    simp [hnone]
  · intro hnone
    simp [hheaded hnone]

/-- Only the leader can take the lead away. -/
theorem Flight.leader_without {flight : Flight ν} {id other : CallId} (hne : other ≠ id)
    (hleader : flight.leader = some other) : (flight.without id).leader = some other := by
  unfold Flight.without
  rw [if_neg (by rw [hleader]; exact fun h => hne (Option.some.inj h))]
  exact hleader

/-- Nobody leaves a flight without a line. -/
theorem Flight.without_of_vacant {flight : Flight ν} (hleader : flight.leader = none)
    (hqueue : flight.queue = []) (id : CallId) : flight.without id = flight := by
  unfold Flight.without
  rw [if_neg (by rw [hleader]; rintro ⟨⟩), hqueue, List.filter_nil, ← hqueue]

/-- The flights of a cache with those who sit on them. -/
structure Traffic (ν : Type) where
  registry : Key → Option FlightId
  next : FlightId
  flights : FlightId → Flight ν
  seats : CallId → Option Seat

namespace Traffic

/-- The traffic in which a caller has another seat. -/
def sit (t : Traffic ν) (id : CallId) (seat : Option Seat) : Traffic ν :=
  { t with seats := Function.update t.seats id seat }

/-- The traffic in which a flight is in another state. -/
def setFlight (t : Traffic ν) (id : FlightId) (flight : Flight ν) : Traffic ν :=
  { t with flights := Function.update t.flights id flight }

/-- The traffic with another entry in the registry. -/
def register (t : Traffic ν) (key : Key) (flight : Option FlightId) : Traffic ν :=
  { t with registry := Function.update t.registry key flight }

@[simp] theorem seats_sit (t : Traffic ν) (id other : CallId) (seat : Option Seat) :
    (t.sit id seat).seats other = if other = id then seat else t.seats other :=
  Function.update_apply ..

@[simp] theorem registry_sit (t : Traffic ν) (id : CallId) (seat : Option Seat) :
    (t.sit id seat).registry = t.registry := rfl

@[simp] theorem next_sit (t : Traffic ν) (id : CallId) (seat : Option Seat) :
    (t.sit id seat).next = t.next := rfl

@[simp] theorem flights_sit (t : Traffic ν) (id : CallId) (seat : Option Seat) :
    (t.sit id seat).flights = t.flights := rfl

@[simp] theorem flights_set_flight (t : Traffic ν) (id other : FlightId) (flight : Flight ν) :
    (t.setFlight id flight).flights other = if other = id then flight else t.flights other :=
  Function.update_apply ..

@[simp] theorem registry_set_flight (t : Traffic ν) (id : FlightId) (flight : Flight ν) :
    (t.setFlight id flight).registry = t.registry := rfl

@[simp] theorem next_set_flight (t : Traffic ν) (id : FlightId) (flight : Flight ν) :
    (t.setFlight id flight).next = t.next := rfl

@[simp] theorem seats_set_flight (t : Traffic ν) (id : FlightId) (flight : Flight ν) :
    (t.setFlight id flight).seats = t.seats := rfl

@[simp] theorem registry_register (t : Traffic ν) (key other : Key) (flight : Option FlightId) :
    (t.register key flight).registry other = if other = key then flight else t.registry other :=
  Function.update_apply ..

@[simp] theorem next_register (t : Traffic ν) (key : Key) (flight : Option FlightId) :
    (t.register key flight).next = t.next := rfl

@[simp] theorem flights_register (t : Traffic ν) (key : Key) (flight : Option FlightId) :
    (t.register key flight).flights = t.flights := rfl

@[simp] theorem seats_register (t : Traffic ν) (key : Key) (flight : Option FlightId) :
    (t.register key flight).seats = t.seats := rfl

/-- Callers share computations as they should. -/
structure Orderly (t : Traffic ν) : Prop where
  /-- A registered flight has been opened and has no outcome. -/
  registered : ∀ {key flight}, t.registry key = some flight →
    flight < t.next ∧ (t.flights flight).outcome = none
  /-- A flight is registered under one key. -/
  keyed : ∀ {key other flight}, t.registry key = some flight → t.registry other = some flight →
    key = other
  /-- A caller that leads stands at the head of the line. -/
  leads : ∀ {id key flight}, t.seats id = some ⟨key, flight, true⟩ →
    (t.flights flight).leader = some id ∧ (t.flights flight).outcome = none
  /-- Whoever sits on a flight without outcome sits there for the key it is registered under, and
  stands in its line. -/
  seated : ∀ {id seat}, t.seats id = some seat → seat.flight < t.next ∧
    ((t.flights seat.flight).outcome = none →
      t.registry seat.key = some seat.flight ∧ id ∈ (t.flights seat.flight).line)
  /-- Whoever stands in the line of a flight sits on it, and the flight has no outcome. -/
  lined : ∀ {id flight}, id ∈ (t.flights flight).line →
    (t.flights flight).outcome = none ∧ (t.seats id).map Seat.flight = some flight
  /-- Nobody stands in a line twice. -/
  distinct : ∀ flight, (t.flights flight).line.Nodup
  /-- A line has a head. -/
  headed : ∀ {flight}, (t.flights flight).leader = none → (t.flights flight).queue = []

variable {t : Traffic ν} {id : CallId} {key : Key} {flight : FlightId}

/-- Without flights and callers the traffic is orderly. -/
theorem orderly_empty : Orderly (⟨fun _ => none, 0, fun _ => {}, fun _ => none⟩ : Traffic ν) := by
  constructor <;> simp [Flight.line]

/-- A flight that is over has neither leader nor queue. -/
theorem Orderly.vacant (h : Orderly t) (hover : (t.flights flight).outcome ≠ none) :
    (t.flights flight).leader = none ∧ (t.flights flight).queue = [] := by
  have hleader : (t.flights flight).leader = none := by
    cases hl : (t.flights flight).leader with
    | none => rfl
    | some leader =>
        have hline : leader ∈ (t.flights flight).line := by simp [Flight.line, hl]
        exact absurd (h.lined hline).1 hover
  exact ⟨hleader, h.headed hleader⟩

/-- A key has one leader. -/
theorem Orderly.leader_unique (h : Orderly t) {other : CallId} {flight' : FlightId}
    (hseat : t.seats id = some ⟨key, flight, true⟩)
    (hother : t.seats other = some ⟨key, flight', true⟩) : id = other := by
  obtain ⟨hleader, hopen⟩ := h.leads hseat
  obtain ⟨hleader', hopen'⟩ := h.leads hother
  have hflight := ((h.seated hseat).2 hopen).1.symm.trans ((h.seated hother).2 hopen').1
  cases hflight
  exact Option.some.inj (hleader.symm.trans hleader')

/-- A caller that sits on one flight stands in no other line. -/
theorem Orderly.not_lined (h : Orderly t) {other : FlightId}
    (hseat : ∀ seat, t.seats id = some seat → seat.flight = flight) (hne : other ≠ flight) :
    id ∉ (t.flights other).line := by
  intro hline
  have hmap := (h.lined hline).2
  cases hs : t.seats id with
  | none => simp [hs] at hmap
  | some seat =>
      rw [hs, Option.map_some, Option.some.injEq] at hmap
      exact hne (hmap.symm.trans (hseat seat hs))

/-- The line of a flight and the seat of one of its callers may change together, as long as the
line keeps everybody else, in particular a caller that leads, and has the caller in it exactly if
the caller has a seat. -/
theorem Orderly.reseat (h : Orderly t) {changed : Flight ν} {seat : Option Seat}
    (hold : ∀ s, t.seats id = some s → s.flight = flight)
    (hopen : (t.flights flight).outcome = none) (hstill : changed.outcome = none)
    (hseat : ∀ s, seat = some s → s.flight = flight ∧ t.registry s.key = some flight ∧
      (s.leads = true → changed.leader = some id))
    (hself : id ∈ changed.line ↔ seat.isSome = true)
    (hothers : ∀ other, other ≠ id → (other ∈ changed.line ↔ other ∈ (t.flights flight).line))
    (hleads : ∀ other key, other ≠ id → t.seats other = some ⟨key, flight, true⟩ →
      changed.leader = some other)
    (hdistinct : changed.line.Nodup) (hheaded : changed.leader = none → changed.queue = []) :
    Orderly ((t.setFlight flight changed).sit id seat) where
  registered hreg := by
    obtain ⟨hlt, hout⟩ := h.registered hreg
    refine ⟨hlt, ?_⟩
    simp only [flights_sit, flights_set_flight]
    split
    · exact hstill
    · exact hout
  keyed := h.keyed
  leads {other key g} hother := by
    simp only [flights_sit, flights_set_flight]
    by_cases ho : other = id
    · subst ho
      simp only [seats_sit, if_true] at hother
      obtain ⟨hg, -, hlead⟩ := hseat _ hother
      rw [if_pos hg]
      exact ⟨hlead rfl, hstill⟩
    · simp only [seats_sit, if_neg ho, seats_set_flight] at hother
      split
      · rename_i hg
        subst hg
        exact ⟨hleads other key ho hother, hstill⟩
      · exact h.leads hother
  seated {other s} hother := by
    simp only [flights_sit, flights_set_flight, registry_sit, registry_set_flight, next_sit,
      next_set_flight]
    by_cases ho : other = id
    · subst ho
      simp only [seats_sit, if_true] at hother
      obtain ⟨hg, hreg, -⟩ := hseat _ hother
      rw [hg]
      refine ⟨(h.registered hreg).1, fun _ => ⟨hreg, ?_⟩⟩
      rw [if_pos rfl, hself, hother]
      rfl
    · simp only [seats_sit, if_neg ho, seats_set_flight] at hother
      obtain ⟨hlt, hon⟩ := h.seated hother
      refine ⟨hlt, ?_⟩
      split
      · rename_i hg
        intro _
        rw [hg] at hon ⊢
        exact ⟨(hon hopen).1, (hothers other ho).2 (hon hopen).2⟩
      · exact hon
  lined {other g} hother := by
    simp only [flights_sit, flights_set_flight, seats_sit, seats_set_flight] at hother ⊢
    by_cases hg : g = flight
    · subst hg
      simp only [if_true] at hother ⊢
      refine ⟨hstill, ?_⟩
      by_cases ho : other = id
      · subst ho
        obtain ⟨s, rfl⟩ := Option.isSome_iff_exists.1 (hself.1 hother)
        rw [if_pos rfl, Option.map_some, (hseat s rfl).1]
      · rw [if_neg ho]
        exact (h.lined ((hothers other ho).1 hother)).2
    · simp only [if_neg hg] at hother ⊢
      have ho : other ≠ id := by
        intro heq
        subst heq
        exact h.not_lined hold hg hother
      simpa only [if_neg ho] using h.lined hother
  distinct g := by
    simp only [flights_sit, flights_set_flight]
    split
    · exact hdistinct
    · exact h.distinct g
  headed {g} := by
    simp only [flights_sit, flights_set_flight]
    split
    · exact hheaded
    · exact h.headed

/-- Where a flight stays as it is, only the seat changes. -/
theorem set_flight_self (t : Traffic ν) (flight : FlightId) :
    t.setFlight flight (t.flights flight) = t := by
  unfold setFlight
  rw [Function.update_eq_self]

/-- The last seat that a caller is given counts. -/
@[simp] theorem sit_sit (t : Traffic ν) (id : CallId) (first last : Option Seat) :
    (t.sit id first).sit id last = t.sit id last := by
  unfold sit
  rw [Function.update_idem]

/-- A seat that a caller has already may be given again. -/
theorem sit_self (t : Traffic ν) {id : CallId} {seat : Option Seat} (hseat : t.seats id = seat) :
    t.sit id seat = t := by
  unfold sit
  rw [← hseat, Function.update_eq_self]

/-- A caller may keep its seat. -/
theorem Orderly.sit_same (h : Orderly t) {seat : Option Seat} (hseat : t.seats id = seat) :
    Orderly (t.sit id seat) := by
  rw [sit_self t hseat]
  exact h

/-- A new caller takes the lead of a flight that nobody leads. -/
theorem Orderly.take_lead (h : Orderly t) (hseat : t.seats id = none)
    (hreg : t.registry key = some flight) (hidle : (t.flights flight).leader = none) :
    Orderly ((t.setFlight flight { t.flights flight with leader := some id }).sit id
      (some ⟨key, flight, true⟩)) := by
  have hqueue := h.headed hidle
  have hopen := (h.registered hreg).2
  refine h.reseat (by simp [hseat]) hopen hopen ?_ ?_ ?_ ?_ ?_ ?_
  · intro s heq
    cases heq
    exact ⟨rfl, hreg, fun _ => rfl⟩
  · simp [Flight.line]
  · intro other ho
    simp [Flight.line, hidle, hqueue, ho]
  · intro other key' _ hother
    rw [(h.leads hother).1] at hidle
    cases hidle
  · simp [Flight.line, hqueue]
  · intro heq
    cases heq

/-- A new caller queues behind the leader of a flight. -/
theorem Orderly.enqueue (h : Orderly t) (hseat : t.seats id = none)
    (hreg : t.registry key = some flight) (hled : (t.flights flight).leader ≠ none) :
    Orderly ((t.setFlight flight
      { t.flights flight with queue := (t.flights flight).queue ++ [id] }).sit id
        (some ⟨key, flight, false⟩)) := by
  have hopen := (h.registered hreg).2
  have hnot : id ∉ (t.flights flight).line := by
    intro hline
    simpa [hseat] using (h.lined hline).2
  have hend : ({ t.flights flight with
      queue := (t.flights flight).queue ++ [id] } : Flight ν).line =
        (t.flights flight).line ++ [id] := by
    simp [Flight.line]
  refine h.reseat (by simp [hseat]) hopen hopen ?_ ?_ ?_ ?_ ?_ ?_
  · intro s heq
    cases heq
    exact ⟨rfl, hreg, by rintro ⟨⟩⟩
  · simp [hend]
  · intro other ho
    simp [hend, ho]
  · intro other key' _ hother
    exact (h.leads hother).1
  · rw [hend, List.nodup_append]
    refine ⟨h.distinct flight, List.nodup_singleton id, ?_⟩
    intro a ha b hb hab
    rw [List.mem_singleton] at hb
    exact hnot (hb ▸ hab ▸ ha)
  · exact fun hnone => absurd hnone hled

/-- A caller that waits at the head of the line takes the lead. -/
theorem Orderly.promote (h : Orderly t) (hseat : t.seats id = some ⟨key, flight, false⟩)
    (hhead : (t.flights flight).leader = some id) :
    Orderly (t.sit id (some ⟨key, flight, true⟩)) := by
  have hself : id ∈ (t.flights flight).line := by simp [Flight.line, hhead]
  have hopen := (h.lined hself).1
  have hreg := ((h.seated hseat).2 hopen).1
  rw [← t.set_flight_self flight]
  refine h.reseat ?_ hopen hopen ?_ ?_ (fun _ _ => Iff.rfl) ?_ (h.distinct flight) h.headed
  · intro s hs
    rw [hseat] at hs
    cases hs
    rfl
  · intro s heq
    cases heq
    exact ⟨rfl, hreg, fun _ => hhead⟩
  · simp [hself]
  · intro other key' _ hother
    exact (h.leads hother).1

/-- A caller gives up its seat on a flight that is over. -/
theorem Orderly.disembark (h : Orderly t) {leads : Bool}
    (hseat : t.seats id = some ⟨key, flight, leads⟩)
    (hover : (t.flights flight).outcome ≠ none) : Orderly (t.sit id none) where
  registered := h.registered
  keyed := h.keyed
  leads {other key g} hother := by
    by_cases ho : other = id
    · simp [ho] at hother
    · exact h.leads (by simpa [ho] using hother)
  seated {other s} hother := by
    by_cases ho : other = id
    · simp [ho] at hother
    · exact h.seated (by simpa [ho] using hother)
  lined {other g} hline := by
    obtain ⟨hopen, hmap⟩ := h.lined hline
    have ho : other ≠ id := by
      -- Its only seat is on a flight that is over, and such a flight has no line.
      intro heq
      subst heq
      rw [hseat, Option.map_some, Option.some.injEq] at hmap
      exact hover (by rw [← hopen, ← hmap])
    refine ⟨hopen, ?_⟩
    rw [seats_sit, if_neg ho]
    exact hmap
  distinct := h.distinct
  headed := h.headed

/-- A caller leaves a flight, be it as the leader, and the next in line leads. -/
theorem Orderly.leave (h : Orderly t) {leads : Bool}
    (hseat : t.seats id = some ⟨key, flight, leads⟩) :
    Orderly ((t.setFlight flight ((t.flights flight).without id)).sit id none) := by
  have hdistinct := h.distinct flight
  by_cases hopen : (t.flights flight).outcome = none
  · refine h.reseat ?_ hopen (by simpa using hopen) ?_ ?_ ?_ ?_ ?_
      (Flight.headed_without h.headed id)
    · intro s hs
      rw [hseat] at hs
      cases hs
      rfl
    · intro s heq
      cases heq
    · rw [Flight.line_without hdistinct, hdistinct.mem_erase_iff]
      simp
    · intro other ho
      rw [Flight.line_without hdistinct, hdistinct.mem_erase_iff]
      simp [ho]
    · intro other key' ho hother
      exact Flight.leader_without ho (h.leads hother).1
    · rw [Flight.line_without hdistinct]
      exact hdistinct.erase id
  · obtain ⟨hleader, hqueue⟩ := h.vacant hopen
    rw [Flight.without_of_vacant hleader hqueue, set_flight_self]
    exact h.disembark hseat hopen

/-- A flight is opened for a key that has none. -/
theorem Orderly.open_flight (h : Orderly t) (hreg : t.registry key = none) :
    Orderly ({ t.register key (some t.next) with next := t.next + 1 }.setFlight t.next {}) := by
  -- Nobody sits on a flight with a number that is still free.
  have hseats : ∀ {id seat}, t.seats id = some seat → seat.flight ≠ t.next :=
    fun hs => Nat.ne_of_lt (h.seated hs).1
  have hkey : ∀ {other g}, (t.register key (some t.next)).registry other = some g →
      g = t.next ∧ other = key ∨ g ≠ t.next ∧ t.registry other = some g := by
    intro other g hg
    by_cases ho : other = key
    · rw [registry_register, if_pos ho] at hg
      exact .inl ⟨(Option.some.inj hg).symm, ho⟩
    · rw [registry_register, if_neg ho] at hg
      exact .inr ⟨Nat.ne_of_lt (h.registered hg).1, hg⟩
  refine ⟨?_, ?_, ?_, ?_, ?_, ?_, ?_⟩
  · intro other g hg
    rcases hkey hg with ⟨rfl, -⟩ | ⟨hne, hg⟩
    · exact ⟨Nat.lt_succ_self _, by simp⟩
    · obtain ⟨hlt, hopen⟩ := h.registered hg
      exact ⟨Nat.lt_succ_of_lt hlt, by simpa [hne] using hopen⟩
  · intro other other' g hg hg'
    rcases hkey hg with ⟨rfl, rfl⟩ | ⟨hne, hg⟩
    · rcases hkey hg' with ⟨-, rfl⟩ | ⟨hne', -⟩
      · rfl
      · exact absurd rfl hne'
    · rcases hkey hg' with ⟨rfl, -⟩ | ⟨-, hg'⟩
      · exact absurd rfl hne
      · exact h.keyed hg hg'
  · intro other key' g hother
    have hne := hseats hother
    simpa [hne] using h.leads hother
  · intro other s hother
    have hne := hseats hother
    obtain ⟨hlt, hon⟩ := h.seated hother
    refine ⟨Nat.lt_succ_of_lt hlt, fun hopen => ?_⟩
    simp only [flights_set_flight, flights_register, if_neg hne] at hopen ⊢
    obtain ⟨hs, hline⟩ := hon hopen
    refine ⟨?_, hline⟩
    have hk : s.key ≠ key := by
      intro hk
      rw [hk, hreg] at hs
      cases hs
    simpa [hk] using hs
  · intro other g hline
    by_cases hg : g = t.next
    · simp [hg, Flight.line] at hline
    · simpa [hg] using h.lined (by simpa [hg] using hline)
  · intro g
    by_cases hg : g = t.next
    · simp [hg, Flight.line]
    · simpa [hg] using h.distinct g
  · intro g
    by_cases hg : g = t.next
    · simp [hg]
    · simpa [hg] using h.headed

/-- A new caller opens a flight and leads it. -/
theorem Orderly.open_lead (h : Orderly t) (hseat : t.seats id = none)
    (hreg : t.registry key = none) :
    Orderly (({ t.register key (some t.next) with next := t.next + 1 }.setFlight t.next
      { leader := some id }).sit id (some ⟨key, t.next, true⟩)) := by
  have hopened : (t.register key (some t.next)).registry key = some t.next := by simp
  have hidle : ((t.setFlight t.next {}).flights t.next).leader = none := by simp
  simpa [setFlight] using (h.open_flight hreg).take_lead hseat hopened hidle

/-- A flight ends with its leader and leaves the registry; those who wait keep their seats. -/
theorem Orderly.land (h : Orderly t) (outcome : Outcome ν)
    (hseat : t.seats id = some ⟨key, flight, true⟩) :
    Orderly (((t.setFlight flight { outcome := some outcome }).register key none).sit id none) := by
  have hopen := (h.leads hseat).2
  have hreg := ((h.seated hseat).2 hopen).1
  -- No other key has this flight, so the registry has none of it any more.
  have hkey : ∀ {other g}, (t.register key none).registry other = some g →
      g ≠ flight ∧ t.registry other = some g := by
    intro other g hg
    by_cases ho : other = key
    · simp [ho] at hg
    · rw [registry_register, if_neg ho] at hg
      refine ⟨?_, hg⟩
      intro heq
      subst heq
      exact ho (h.keyed hg hreg)
  refine ⟨?_, ?_, ?_, ?_, ?_, ?_, ?_⟩
  · intro other g hg
    obtain ⟨hne, hg⟩ := hkey hg
    simpa [hne] using h.registered hg
  · intro other other' g hg hg'
    exact h.keyed (hkey hg).2 (hkey hg').2
  · intro other key' g hother
    by_cases ho : other = id
    · simp [ho] at hother
    · simp only [seats_sit, if_neg ho, seats_register, seats_set_flight] at hother
      have hne : g ≠ flight := by
        -- The flight had one leader, and that was another caller.
        intro heq
        subst heq
        have hl := (h.leads hother).1
        rw [(h.leads hseat).1] at hl
        exact ho (Option.some.inj hl).symm
      simpa [hne] using h.leads hother
  · intro other s hother
    by_cases ho : other = id
    · simp [ho] at hother
    · simp only [seats_sit, if_neg ho, seats_register, seats_set_flight] at hother
      obtain ⟨hlt, hon⟩ := h.seated hother
      refine ⟨hlt, fun hs => ?_⟩
      by_cases hne : s.flight = flight
      · simp [hne] at hs
      · simp only [flights_sit, flights_register, flights_set_flight, if_neg hne] at hs ⊢
        obtain ⟨hsreg, hline⟩ := hon hs
        refine ⟨?_, hline⟩
        have hk : s.key ≠ key := by
          intro hk
          rw [hk, hreg] at hsreg
          exact hne (Option.some.inj hsreg).symm
        simpa [hk] using hsreg
  · intro other g hline
    by_cases hg : g = flight
    · simp [hg, Flight.line] at hline
    · have hline' : other ∈ (t.flights g).line := by simpa [hg] using hline
      have ho : other ≠ id := by
        intro heq
        subst heq
        have hflight : ∀ s, t.seats other = some s → s.flight = flight := by
          intro s hs
          rw [hseat] at hs
          cases hs
          rfl
        exact h.not_lined hflight hg hline'
      simpa [hg, ho] using h.lined hline'
  · intro g
    by_cases hg : g = flight
    · simp [hg, Flight.line]
    · simpa [hg] using h.distinct g
  · intro g
    by_cases hg : g = flight
    · simp [hg]
    · simpa [hg] using h.headed

end Traffic

end GameLibrary.Cache
