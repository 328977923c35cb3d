import GameLibrary.Proofs.Store.Keyed
import GameLibrary.Proofs.Time.LeapSeconds

/-!
# From fresh over stale to missing

What a look-up makes of the record of its key depends on the age of the record alone: up to its time
to live the value is fresh, up to the end of the grace period it is stale, and beyond that the record
is removed and counts as none (`Judged`). So the answers of look-ups one after the other go forward
from fresh over stale to missing, as long as the age does not fall back. It falls back at midnight if
the record is stamped with a leap second in the middle of a day, and only then (`lifetime`).
-/

namespace GameLibrary

/-- An available store from which a record that is removed has gone. -/
class RemovingBackend (σ : Type) [Backend σ] extends AvailableBackend σ where
  get_deleted : ∀ {store}, Available store → ∀ key,
    (Backend.get (Backend.delete store key).2 key).1 = .ok none

instance : RemovingBackend MemoryStore where
  get_deleted {store} honline key := by
    rw [MemoryStore.read_online (MemoryStore.online_delete honline key),
      MemoryStore.delete_online honline]
    dsimp only
    rw [Table.find?_erase, if_pos rfl]

open FileStore in
instance : RemovingBackend FileStore where
  get_deleted {store} hclear key := by
    have hopen : AvailableBackend.Available store := hclear
    have hafter : ((delete key).run store.directory).2.Clear :=
      AvailableBackend.available_delete hopen key
    show ((get key).run ((delete key).run store.directory).2).1 = .ok none
    refine (run_get_eq_none_iff hafter).2 ?_
    rcases file_or_nothing hclear key with ⟨content, hfile⟩ | hnothing
    · exact (run_delete_of_file hclear hfile).2
    · rw [run_delete_of_nothing hnothing]
      exact hnothing

theorem Duration.zero_le (a : Duration) : .zero ≤ a := Nat.zero_le a.nanoseconds

theorem Duration.not_lt {a b : Duration} : ¬ a < b ↔ b ≤ a := Nat.not_lt

/-- Bytes that denote no value fail in one way. -/
theorem Payload.decode_error {ν : Type} [Payload ν] {bytes : ByteArray} {failure : Failure}
    (h : (decode bytes : Except Failure ν) = .error failure) :
    failure = .serialization "no such value" := by
  unfold decode at h
  split at h
  · cases h
  · cases h
    rfl

namespace Durable

variable {σ ν : Type} [Backend σ] [Payload ν]

/-- How far the life of a record has gone. -/
def Lookup.stage : Lookup ν → Nat
  | .fresh _ => 0
  | .stale _ => 1
  | .missing => 2

/-- What a look-up gives for a record with the value. -/
def verdict (config : Config) (record : Record) (value : ν) (now : Instant) : Lookup ν :=
  if record.isPastGrace now config.grace then .missing
  else if record.isExpired now then .stale value
  else .fresh value

/-- Look-ups of a key one after the other, each after a pause: the times at which they end, with
their answers. -/
def lookUps (config : Config) (key : Key) (now : Instant) (store : σ) :
    List Duration → List (Instant × Except Failure (Lookup ν))
  | [] => []
  | pause :: rest =>
      let (answer, ending, after) := lookup config key (now.after pause) store
      (ending, answer) :: lookUps config key ending after rest

variable {config : Config} {key : Key} {record : Record} {store : σ} {now early late : Instant}
  {value : ν}

section Verdicts

omit [Payload ν]

/-- Within the grace period a record has a value. -/
theorem verdict_of_grace (hgrace : record.isPastGrace now config.grace = false) :
    verdict config record value now =
      if record.ttl < record.age now then .stale value else .fresh value := by
  unfold verdict Record.isExpired
  rw [hgrace, if_neg Bool.false_ne_true]
  simp only [decide_eq_true_eq]

/-- With the age of the record its life goes forward. -/
theorem stage_verdict_mono (hage : record.age early ≤ record.age late) :
    (verdict config record value early).stage ≤ (verdict config record value late).stage := by
  have hpast : record.isPastGrace early config.grace = true →
      record.isPastGrace late config.grace = true :=
    fun hearly => decide_eq_true (Nat.lt_of_lt_of_le (of_decide_eq_true hearly) hage)
  have hexpired : record.isExpired early = true → record.isExpired late = true :=
    fun hearly => decide_eq_true (Nat.lt_of_lt_of_le (of_decide_eq_true hearly) hage)
  unfold verdict
  by_cases hearly : record.isPastGrace early config.grace = true
  · rw [if_pos hearly, if_pos (hpast hearly)]
  · by_cases hstale : record.isExpired early = true
    · rw [if_neg hearly, if_pos hstale, if_pos (hexpired hstale)]
      split
      · exact Nat.le_succ 1
      · exact Nat.le_refl 1
    · rw [if_neg hearly, if_neg hstale]
      exact Nat.zero_le _

end Verdicts

section Answers

variable (hread : (Backend.get store key).1 = .ok (some record))
include hread

/-- A record of another key counts as none. -/
theorem lookup_foreign (hkey : record.key ≠ key) (now : Instant) :
    lookup config key now store =
      (.ok (.missing : Lookup ν), now.after (Backend.readDelay store), (Backend.get store key).2) := by
  unfold lookup finding
  dsimp only
  rw [hread]
  dsimp only
  rw [if_pos hkey]

variable (hkey : record.key = key)
include hkey

/-- A record beyond the grace period is removed. -/
theorem lookup_outdated
    (hpast : record.isPastGrace (now.after (Backend.readDelay store)) config.grace = true) :
    lookup config key now store =
      (.ok (.missing : Lookup ν), now.after (Backend.readDelay store),
        (Backend.delete (Backend.get store key).2 key).2) := by
  unfold lookup finding
  dsimp only
  rw [hread]
  dsimp only
  rw [if_neg (Decidable.not_not.2 hkey), if_pos hpast]

/-- What a record within the grace period gives. -/
theorem lookup_kept
    (hgrace : record.isPastGrace (now.after (Backend.readDelay store)) config.grace = false) :
    lookup config key now store =
      ((Payload.decode record.payload : Except Failure ν).map fun value =>
          verdict config record value (now.after (Backend.readDelay store)),
        now.after (Backend.readDelay store), (Backend.get store key).2) := by
  unfold lookup finding
  dsimp only
  rw [hread]
  dsimp only
  rw [if_neg (Decidable.not_not.2 hkey), hgrace, if_neg Bool.false_ne_true]
  cases (Payload.decode record.payload : Except Failure ν) with
  | error failure => rfl
  | ok value =>
      show _ = (Except.ok (verdict config record value (now.after (Backend.readDelay store))), _, _)
      rw [verdict_of_grace hgrace]
      unfold Record.isExpired
      simp only [decide_eq_true_eq]

end Answers

section Removing

open AvailableBackend (Available)

variable [RemovingBackend σ]

/-- What a look-up that ends with a result makes of a record of its key. -/
structure Judged (config : Config) (key : Key) (record : Record)
    (result : Except Failure (Lookup ν) × Instant × σ) : Prop where
  /-- The record counts as none if it is older than its time to live and the grace period together,
  and only then. -/
  missing_iff :
    result.1 = .ok .missing ↔ record.ttl.addSaturating config.grace < record.age result.2.1
  /-- It is removed then, and only then, -/
  removed_iff : (Backend.get result.2.2 key).1 = .ok none ↔
    record.ttl.addSaturating config.grace < record.age result.2.1
  /-- and otherwise it stays. -/
  kept : record.age result.2.1 ≤ record.ttl.addSaturating config.grace →
    (Backend.get result.2.2 key).1 = .ok (some record)
  /-- Its value is fresh up to the time to live, and stale beyond it. -/
  told : record.age result.2.1 ≤ record.ttl.addSaturating config.grace →
    ∀ value, Payload.decode record.payload = .ok value →
      (result.1 = .ok (.fresh value) ↔ record.age result.2.1 ≤ record.ttl) ∧
        (result.1 = .ok (.stale value) ↔ record.ttl < record.age result.2.1)
  /-- A payload that denotes no value is a failure. -/
  corrupt : record.age result.2.1 ≤ record.ttl.addSaturating config.grace →
    ∀ failure, (Payload.decode record.payload : Except Failure ν) = .error failure →
      result.1 = .error (.serialization "no such value")

variable (hstore : Available store)
include hstore

/-- A look-up leaves the store available, and changes nothing for other keys. -/
theorem lookup_elsewhere (config : Config) (key : Key) (now : Instant) :
    Available (lookup config key now store : Except Failure (Lookup ν) × Instant × σ).2.2 ∧
      ∀ other, other ≠ key →
        (Backend.get (lookup config key now store : Except Failure (Lookup ν) × Instant × σ).2.2
          other).1 = (Backend.get store other).1 := by
  have hafter := AvailableBackend.available_get hstore key
  have hsame := AvailableBackend.get_get hstore
  unfold lookup
  dsimp only
  split
  · exact ⟨hafter, fun other _ => hsame other key⟩
  · exact ⟨AvailableBackend.available_delete hafter key,
      fun other hne => (AvailableBackend.get_delete hafter hne).trans (hsame other key)⟩
  · exact ⟨hafter, fun other _ => hsame other key⟩

/-- A look-up judges the record that the store has for its key. -/
theorem lookup_judged (hread : (Backend.get store key).1 = .ok (some record))
    (hkey : record.key = key) (now : Instant) :
    Judged config key record
      (lookup config key now store : Except Failure (Lookup ν) × Instant × σ) := by
  by_cases hpast : record.isPastGrace (now.after (Backend.readDelay store)) config.grace = true
  · rw [lookup_outdated hread hkey hpast]
    have hover : record.ttl.addSaturating config.grace <
        record.age (now.after (Backend.readDelay store)) := of_decide_eq_true hpast
    have hgone := RemovingBackend.get_deleted (AvailableBackend.available_get hstore key) key
    exact {
      missing_iff := iff_of_true rfl hover
      removed_iff := iff_of_true hgone hover
      kept := fun hgrace => absurd hover (Nat.not_lt.2 hgrace)
      told := fun hgrace => absurd hover (Nat.not_lt.2 hgrace)
      corrupt := fun hgrace => absurd hover (Nat.not_lt.2 hgrace) }
  · rw [Bool.not_eq_true] at hpast
    rw [lookup_kept hread hkey hpast]
    have hnot : ¬ record.ttl.addSaturating config.grace <
        record.age (now.after (Backend.readDelay store)) := of_decide_eq_false hpast
    have hstill := (AvailableBackend.get_get hstore key key).trans hread
    refine ⟨iff_of_false ?_ hnot, iff_of_false ?_ hnot, fun _ => hstill, ?_, ?_⟩
    · intro hmissing
      cases hdecode : (Payload.decode record.payload : Except Failure ν) with
      | error failure =>
          rw [hdecode] at hmissing
          cases hmissing
      | ok value =>
          rw [hdecode] at hmissing
          have hverdict : verdict config record value _ = .missing := Except.ok.inj hmissing
          rw [verdict_of_grace hpast] at hverdict
          split at hverdict <;> cases hverdict
    · rw [hstill]
      exact nofun
    · intro _ value hdecode
      rw [hdecode]
      show (Except.ok (verdict config record value _) = _ ↔ _) ∧
        (Except.ok (verdict config record value _) = _ ↔ _)
      rw [verdict_of_grace hpast, ← Duration.not_lt]
      by_cases hstale : record.ttl < record.age (now.after (Backend.readDelay store))
      · simp [hstale]
      · simp [hstale]
    · intro _ failure hdecode
      rw [hdecode, Payload.decode_error hdecode]
      rfl

end Removing

section Successive

/-- An answer with the time at which it was given. -/
abbrev TimedAnswer (ν : Type) := Instant × Except Failure (Lookup ν)

/-- A look-up ends when the answer of the store is there. -/
theorem lookup_ending (config : Config) (key : Key) (now : Instant) (store : σ) :
    (lookup config key now store : Except Failure (Lookup ν) × Instant × σ).2.1 =
      now.after (Backend.readDelay store) := by
  unfold lookup
  dsimp only
  split <;> rfl

/-- A look-up after a pause ends no earlier than a shorter pause. -/
theorem le_ending (ν : Type) [Payload ν] (config : Config) (key : Key) (now : Instant)
    {pause next : Duration} (hpause : pause ≤ next) (store : σ) :
    now.after pause ≤ (lookup config key (now.after next) store :
      Except Failure (Lookup ν) × Instant × σ).2.1 := by
  have hle : pause.nanoseconds ≤ next.nanoseconds := hpause
  rw [lookup_ending]
  show now.nanoseconds + pause.nanoseconds ≤ now.nanoseconds + next.nanoseconds + _
  omega

/-- Look-ups with pauses of some length before them end at least that much later. -/
theorem look_ups_after {pause : Duration} {pauses : List Duration}
    (hpauses : ∀ next ∈ pauses, pause ≤ next) (now : Instant) (store : σ) :
    ∀ answer ∈ (lookUps config key now store pauses : List (TimedAnswer ν)),
      now.after pause ≤ answer.1 := by
  induction pauses generalizing now store with
  | nil => exact nofun
  | cons next rest ih =>
      have hending := le_ending ν config key now (hpauses next List.mem_cons_self) store
      intro answer hanswer
      rcases List.mem_cons.1 hanswer with rfl | hrest
      · exact hending
      · refine Nat.le_trans (Nat.le_trans hending ?_) (ih (fun pause hmem =>
          hpauses pause (List.mem_cons_of_mem _ hmem)) _ _ answer hrest)
        exact Nat.le_add_right _ _

/-- Look-ups with pauses of some length between them end that far apart. -/
theorem look_ups_apart {pause : Duration} {pauses : List Duration}
    (hpauses : ∀ next ∈ pauses.tail, pause ≤ next) (now : Instant) (store : σ) :
    (lookUps config key now store pauses : List (TimedAnswer ν)).Pairwise
      fun first second => first.1.after pause ≤ second.1 := by
  induction pauses generalizing now store with
  | nil => exact .nil
  | cons next rest ih =>
      refine List.pairwise_cons.2 ⟨look_ups_after hpauses _ _, ih (fun pause hmem => ?_) _ _⟩
      exact hpauses pause (List.mem_of_mem_tail hmem)

open AvailableBackend (Available)

variable [RemovingBackend σ] (hstore : Available store)
include hstore

/-- Where there is no record, look-ups find none. -/
theorem look_ups_of_none (hread : (Backend.get store key).1 = .ok none) (now : Instant)
    (pauses : List Duration) :
    ∀ answer ∈ (lookUps config key now store pauses : List (TimedAnswer ν)),
      answer.2 = .ok .missing := by
  induction pauses generalizing now store with
  | nil => exact nofun
  | cons next rest ih =>
      have hlookup : lookup config key (now.after next) store =
          (.ok (.missing : Lookup ν), (now.after next).after (Backend.readDelay store),
            (Backend.get store key).2) := by
        unfold lookup
        dsimp only
        rw [hread]
        rfl
      intro answer hanswer
      unfold lookUps at hanswer
      rw [hlookup] at hanswer
      rcases List.mem_cons.1 hanswer with rfl | hrest
      · rfl
      · exact ih (AvailableBackend.available_get hstore key)
          ((AvailableBackend.get_get hstore key key).trans hread) _ answer hrest

/-- Look-ups tell the life of a record whose age does not fall back between them. -/
theorem look_ups_told (hread : (Backend.get store key).1 = .ok (some record))
    (hkey : record.key = key) (hdecode : Payload.decode record.payload = .ok value) (now : Instant)
    {pauses : List Duration}
    (hage : (lookUps config key now store pauses : List (TimedAnswer ν)).Pairwise
      fun first second => record.age first.1 ≤ record.age second.1) :
    ∀ answer ∈ (lookUps config key now store pauses : List (TimedAnswer ν)),
      answer.2 = .ok (verdict config record value answer.1) := by
  induction pauses generalizing now store with
  | nil => exact nofun
  | cons next rest ih =>
      have hafter := AvailableBackend.available_get hstore key
      cases hpast : record.isPastGrace ((now.after next).after (Backend.readDelay store))
          config.grace with
      | true =>
          -- The record goes, and was too old for all later look-ups as well.
          have hlookup := lookup_outdated (ν := ν) hread hkey hpast
          have hgone := RemovingBackend.get_deleted hafter key
          have hpart := AvailableBackend.available_delete hafter key
          unfold lookUps at hage ⊢
          rw [hlookup] at hage ⊢
          intro answer hanswer
          rcases List.mem_cons.1 hanswer with rfl | hrest
          · exact congrArg Except.ok (if_pos hpast).symm
          · have hlater := (List.pairwise_cons.1 hage).1 answer hrest
            have hstill : record.isPastGrace answer.1 config.grace = true :=
              decide_eq_true (Nat.lt_of_lt_of_le (of_decide_eq_true hpast) hlater)
            rw [look_ups_of_none hpart hgone _ rest answer hrest]
            exact congrArg Except.ok (if_pos hstill).symm
      | false =>
          have hlookup := lookup_kept (ν := ν) hread hkey hpast
          rw [hdecode] at hlookup
          unfold lookUps at hage ⊢
          rw [hlookup] at hage ⊢
          intro answer hanswer
          rcases List.mem_cons.1 hanswer with rfl | hrest
          · rfl
          · exact ih hafter ((AvailableBackend.get_get hstore key key).trans hread) _
              (List.pairwise_cons.1 hage).2 answer hrest

/-- The answers of look-ups one after the other go forward. -/
structure Forward (config : Config) (record : Record) (value : ν)
    (answers : List (TimedAnswer ν)) : Prop where
  /-- Each is what the age of the record says, -/
  told : ∀ answer ∈ answers, answer.2 = .ok (verdict config record value answer.1)
  /-- and with the time the life of the record goes on. -/
  onward : answers.Pairwise fun first second => first.1 ≤ second.1 ∧
    (verdict config record value first.1).stage ≤ (verdict config record value second.1).stage

/-- The answers go forward if the record is stamped with no leap second, or with one at the end of
its day, or if there is a second between the look-ups. -/
theorem look_ups_forward (hread : (Backend.get store key).1 = .ok (some record))
    (hkey : record.key = key) (hdecode : Payload.decode record.payload = .ok value) (now : Instant)
    {pauses : List Duration}
    (hsteady : record.insertedAt.Steady ∨ ∀ pause ∈ pauses.tail, .seconds 1 ≤ pause) :
    Forward config record value (lookUps config key now store pauses) := by
  have hordered : (lookUps config key now store pauses : List (TimedAnswer ν)).Pairwise
      fun first second => first.1 ≤ second.1 :=
    look_ups_apart (fun _ _ => Duration.zero_le _) now store
  have hage : (lookUps config key now store pauses : List (TimedAnswer ν)).Pairwise
      fun first second => record.age first.1 ≤ record.age second.1 := by
    rcases hsteady with hsteady | hpauses
    · exact hordered.imp (Timestamp.since_mono hsteady)
    · exact (look_ups_apart hpauses now store).imp Timestamp.since_mono_of_apart
  exact ⟨look_ups_told hstore hread hkey hdecode now hage,
    hordered.and (hage.imp stage_verdict_mono)⟩

end Successive

section Life

open AvailableBackend (Available)

variable [RemovingBackend σ]

/-- The life of a record that a store has for a key, in look-ups for values of a type. -/
structure Lifetime (ν : Type) [Payload ν] (config : Config) (key : Key) (record : Record)
    (store : σ) : Prop where
  /-- A record of the key is fresh, stale or removed by its age. -/
  own : record.key = key → ∀ now, Judged config key record
    (lookup config key now store : Except Failure (Lookup ν) × Instant × σ)
  /-- A record of another key counts as none and is left alone. -/
  foreign : record.key ≠ key → ∀ now, (lookup config key now store).1 = .ok (.missing : Lookup ν) ∧
    (Backend.get (lookup config key now store :
      Except Failure (Lookup ν) × Instant × σ).2.2 key).1 = .ok (some record)
  /-- What the store has for other keys is left alone in any case. -/
  elsewhere : ∀ now other, other ≠ key → (Backend.get (lookup config key now store :
    Except Failure (Lookup ν) × Instant × σ).2.2 other).1 = (Backend.get store other).1
  /-- The age is the time since the stamp, if that lies in no leap second or in one at the end of its
  day, -/
  age_eq : record.insertedAt.Steady → ∀ now : Instant,
    record.age now = ⟨(now.nanoseconds - record.insertedAt.count).toNat⟩
  /-- and then and only then it never falls back. -/
  steady_iff : record.insertedAt.Steady ↔ ∀ early late, early ≤ late →
    record.age early ≤ record.age late
  /-- So successive look-ups tell first fresh, then stale and then missing. -/
  forward : record.key = key → ∀ value : ν, Payload.decode record.payload = .ok value →
    ∀ (now : Instant) (pauses : List Duration),
      (record.insertedAt.Steady ∨ ∀ pause ∈ pauses.tail, .seconds 1 ≤ pause) →
        Forward config record value (lookUps config key now store pauses)

/-- Every record of an available store has its life, whatever its stamp, its time to live and the
grace period. -/
theorem lifetime (ν : Type) [Payload ν] (hstore : Available store)
    (hread : (Backend.get store key).1 = .ok (some record)) (config : Config) :
    Lifetime ν config key record store where
  own := lookup_judged hstore hread
  foreign hkey now := by
    rw [lookup_foreign hread hkey]
    exact ⟨rfl, (AvailableBackend.get_get hstore key key).trans hread⟩
  elsewhere now := (lookup_elsewhere hstore config key now).2
  age_eq := Timestamp.since_of_steady
  steady_iff := Timestamp.steady_iff
  forward hkey _ hdecode now _ := look_ups_forward hstore hread hkey hdecode now

/-- A record that is fresh for half a day, stamped with a leap second before noon. -/
def stampedAtNoon : Record where
  key := .zeros
  payload := "7".toUTF8
  insertedAt := ⟨1717243199, 1000000000⟩
  ttlMillis := 43200500

/-- The record of noon in a store. -/
def noonStore : MemoryStore where
  records := Table.empty.insert .zeros stampedAtNoon

/-- Within a tenth of a second around midnight the value is stale and then fresh again. -/
theorem lifetime_at_noon :
    Available noonStore ∧ (Backend.get noonStore .zeros).1 = .ok (some stampedAtNoon) ∧
      Lifetime UInt32 .standard .zeros stampedAtNoon noonStore ∧
      ¬ stampedAtNoon.insertedAt.Steady ∧
      (lookUps .standard .zeros ⟨1717243200000000000⟩ noonStore
          [.milliseconds 43199900, .milliseconds 100] : List (TimedAnswer UInt32)) =
        [(⟨1717286399900000000⟩, .ok (.stale 7)), (⟨1717286400000000000⟩, .ok (.fresh 7))] := by
  have hread : (Backend.get noonStore .zeros).1 = .ok (some stampedAtNoon) := rfl
  refine ⟨rfl, hread, lifetime UInt32 rfl hread .standard, ?_, by decide +kernel⟩
  rintro (hshort | hend)
  · exact absurd hshort (by decide)
  · exact absurd hend (by decide)

end Life

end Durable

end GameLibrary
