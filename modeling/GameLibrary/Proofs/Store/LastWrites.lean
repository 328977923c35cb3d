import GameLibrary.Proofs.Histories
import GameLibrary.Proofs.Store.Sessions

/-!
# A look-up answers with the last insertion

After a session a key has the value of its last insertion, unless that is lost: it has expired, the
key was removed or everything was, or a later insertion into the full tier has evicted it. The entry
of the last insertion stays through every call that does not drop it (`found_or_dropped`), no call
brings it back (`found_of_untouched`), and whatever drops it is a way to lose the insertion
(`Insertion.IsLast.found_or_lost`): `run_answers_last`.
-/

namespace GameLibrary.Tier1

variable {κ ν : Type}

/-- An insertion of a session, between what came before it and what came after. -/
structure Insertion (κ ν : Type) where
  before : List (TimedCall κ ν)
  time : Instant
  value : ν
  after : List (TimedCall κ ν)

/-- No call inserts the key. -/
def Untouched (key : κ) (calls : List (TimedCall κ ν)) : Prop :=
  ∀ time value, (time, .insert key value) ∉ calls

namespace Insertion

/-- The insertion is the last one of the key in a session. -/
structure IsLast (insertion : Insertion κ ν) (key : κ) (calls : List (TimedCall κ ν)) : Prop where
  calls_eq : calls =
    insertion.before ++ (insertion.time, .insert key insertion.value) :: insertion.after
  untouched : Untouched key insertion.after

variable [DecidableEq κ]

/-- The ways in which an insertion of the key is lost by the time `now`, in a session that began
with the tier `start`. -/
inductive Lost (start : Tier1 κ ν) (key : κ) (now : Instant) (insertion : Insertion κ ν) : Prop
  /-- The time to live is over. -/
  | expired (hover : start.config.ttl < now.since insertion.time)
  /-- The key was removed. -/
  | removed {time : Instant} (hcall : (time, .remove key) ∈ insertion.after)
  /-- Everything was removed. -/
  | cleared {time : Instant} (hcall : (time, .clear) ∈ insertion.after)
  /-- A later insertion found the tier full, and the value made room. -/
  | evicted {between later : List (TimedCall κ ν)} {time : Instant} {other : κ} {value : ν}
      {tier : Tier1 κ ν} (hcall : insertion.after = between ++ (time, .insert other value) :: later)
      (htier : tier = start.run
        (insertion.before ++ (insertion.time, .insert key insertion.value) :: between))
      (hfull : tier.config.maxEntries ≤ tier.size)
      (hlive : tier.live? time key = some insertion.value)
      (hgone : (tier.insert time other value).contains key = false)

end Insertion

section Lasts

/-- A session has a last insertion of a key, unless it has none. -/
theorem untouched_or_last (key : κ) (calls : List (TimedCall κ ν)) :
    Untouched key calls ∨ ∃ last : Insertion κ ν, last.IsLast key calls := by
  induction calls using List.reverseRecOn with
  | nil => exact .inl fun _ _ => List.not_mem_nil
  | append_singleton calls call ih =>
      by_cases hcall : ∃ time value, call = (time, .insert key value)
      · obtain ⟨time, value, rfl⟩ := hcall
        exact .inr ⟨⟨calls, time, value, []⟩, rfl, fun _ _ => List.not_mem_nil⟩
      · have hkept : ∀ {part : List (TimedCall κ ν)}, Untouched key part →
            Untouched key (part ++ [call]) := by
          intro part hpart time value hmem
          rcases List.mem_append.1 hmem with hmem | hmem
          · exact hpart time value hmem
          · exact hcall ⟨time, value, (List.mem_singleton.1 hmem).symm⟩
        rcases ih with huntouched | ⟨last, hlast⟩
        · exact .inl (hkept huntouched)
        · refine .inr ⟨{ last with after := last.after ++ [call] }, ?_, hkept hlast.untouched⟩
          rw [hlast.calls_eq, List.append_assoc]
          rfl

/-- No insertion of the key comes after the last one. -/
theorem Insertion.IsLast.before_ne {key : κ} {calls between : List (TimedCall κ ν)}
    {last last' : Insertion κ ν} (h : last.IsLast key calls) (h' : last'.IsLast key calls) :
    last'.before ≠ last.before ++ (last.time, .insert key last.value) :: between := by
  intro hbefore
  have hrest := h.calls_eq.symm.trans h'.calls_eq
  rw [hbefore, List.append_assoc, List.append_cancel_left_eq, List.cons_append,
    List.cons_inj_right] at hrest
  exact h.untouched last'.time last'.value (by rw [hrest]; simp)

/-- There is only one last insertion of a key. -/
theorem Insertion.IsLast.unique {key : κ} {calls : List (TimedCall κ ν)}
    {last last' : Insertion κ ν} (h : last.IsLast key calls) (h' : last'.IsLast key calls) :
    last = last' := by
  rcases moments_cases h.calls_eq h'.calls_eq with
    ⟨hbefore, hcall⟩ | ⟨between, hbefore⟩ | ⟨between, hbefore⟩
  · have hrest := h.calls_eq.symm.trans h'.calls_eq
    rw [hbefore, hcall, List.append_cancel_left_eq, List.cons_inj_right] at hrest
    obtain ⟨_, _, _, _⟩ := last
    obtain ⟨_, _, _, _⟩ := last'
    cases hbefore
    cases hcall
    cases hrest
    rfl
  · exact (h.before_ne h' hbefore).elim
  · exact (h'.before_ne h hbefore).elim

end Lasts

variable [DecidableEq κ] {start tier : Tier1 κ ν} {now time : Instant} {key : κ}
  {entry : CacheEntry ν} {call : Call κ ν} {calls between later : List (TimedCall κ ν)}
  {last : Insertion κ ν}

section Entries

/-- A call that drops the entry of a key. -/
inductive Drops (tier : Tier1 κ ν) (now : Instant) (key : κ) (entry : CacheEntry ν) :
    Call κ ν → Prop
  /-- Any call may, once the entry has expired; -/
  | expired {any : Call κ ν} (hover : entry.isExpired now = true) : Drops tier now key entry any
  /-- the removal of its key does, -/
  | remove : Drops tier now key entry (.remove key)
  /-- and that of everything, -/
  | clear : Drops tier now key entry .clear
  /-- and an insertion into the full tier may. -/
  | insert {other : κ} {value : ν} (hfull : tier.config.maxEntries ≤ tier.size)
      (hlive : entry.isExpired now = false)
      (hgone : (tier.insert now other value).storage.find? key = none) :
      Drops tier now key entry (.insert other value)

/-- A call that does not insert the key leaves its entry alone or drops it. -/
theorem found_or_drops (hfound : tier.storage.find? key = some entry) (now : Instant)
    (hcall : ∀ value, call ≠ .insert key value) :
    (tier.perform now call).storage.find? key = some entry ∨ tier.Drops now key entry call := by
  cases hover : entry.isExpired now with
  | true => exact .inr (.expired hover)
  | false =>
      cases call with
      | get other => exact .inl (found_after_get hfound hover)
      | purge => exact .inl (found_after_purge hfound hover)
      | contains | size => exact .inl hfound
      | clear => exact .inr .clear
      | remove other =>
          by_cases hother : key = other
          · subst hother
            exact .inr .remove
          · exact .inl (found_after_remove hfound hother)
      | insert other value =>
          have hne : key ≠ other := by
            rintro rfl
            exact hcall value rfl
          cases hafter : (tier.insert now other value).storage.find? key with
          | some entry' =>
              have hbefore := (found_of_insert hafter).resolve_left fun h => hne h.1
              cases hbefore.symm.trans hfound
              exact .inl hafter
          | none =>
              refine .inr (.insert (Nat.le_of_not_lt fun hroom => ?_) hover hafter)
              have hkept : (tier.insert now other value).storage.find? key = some entry :=
                found_after_insert hfound hover hne fun hfull => (Nat.not_le.2 hroom hfull).elim
              cases hafter.symm.trans hkept

/-- Calls that do not insert the key leave its entry alone, until one of them drops it. -/
theorem found_or_dropped (hfound : tier.storage.find? key = some entry)
    (huntouched : Untouched key calls) :
    (tier.run calls).storage.find? key = some entry ∨
      ∃ between time call later, calls = between ++ (time, call) :: later ∧
        (tier.run between).storage.find? key = some entry ∧
        (tier.run between).Drops time key entry call := by
  induction calls using List.reverseRecOn with
  | nil => exact .inl hfound
  | append_singleton calls call ih =>
      obtain ⟨time, call⟩ := call
      rcases ih fun time value hmem => huntouched time value (List.mem_append_left _ hmem) with
        hleft | ⟨between, time', call', later, hcalls, hdropped⟩
      · have hcall : ∀ value, call ≠ .insert key value := by
          rintro value rfl
          exact huntouched time value (by simp)
        rw [run_concat]
        exact (found_or_drops hleft time hcall).imp_right fun hdrops =>
          ⟨calls, time, call, [], rfl, hleft, hdrops⟩
      · refine .inr ⟨between, time', call', later ++ [(time, call)], ?_, hdropped⟩
        rw [hcalls, List.append_assoc]
        rfl

/-- No entry comes back without an insertion of its key. -/
theorem found_of_untouched (huntouched : Untouched key calls)
    (hfound : (tier.run calls).storage.find? key = some entry) :
    tier.storage.find? key = some entry := by
  refine (found_of_run hfound).resolve_left ?_
  rintro ⟨time, value, hmem, -⟩
  exact huntouched time value hmem

end Entries

namespace Insertion

section Losses

variable (hlast : last.IsLast key calls)
include hlast

/-- The entry of a key is that of its last insertion. -/
theorem IsLast.entry_eq (hfound : (start.run calls).storage.find? key = some entry) :
    entry = ⟨last.value, last.time, start.config.ttl⟩ := by
  rw [hlast.calls_eq, ← List.singleton_append, ← List.append_assoc, run_append, run_concat]
    at hfound
  have hinserted := found_inserted (start.run last.before) last.time key last.value
  rw [config_run] at hinserted
  exact Option.some.inj ((found_of_untouched hlast.untouched hfound).symm.trans hinserted)

/-- What is dropped after the last insertion is not there at the end. -/
theorem IsLast.not_found (hafter : last.after = between ++ (time, call) :: later)
    (hgone : ((start.run (last.before ++ (last.time, .insert key last.value) :: between)).perform
      time call).storage.find? key = none) :
    (start.run calls).storage.find? key = none := by
  refine Option.eq_none_iff_forall_ne_some.2 fun entry hfound => ?_
  have hcalls : calls = (last.before ++ (last.time, .insert key last.value) :: between) ++
      ([(time, call)] ++ later) := by
    rw [hlast.calls_eq, hafter]
    simp
  rw [hcalls, run_append, run_append] at hfound
  have huntouched : Untouched key later := by
    intro time' value hmem
    exact hlast.untouched time' value (by rw [hafter]; simp [hmem])
  cases hgone.symm.trans (found_of_untouched huntouched hfound)

/-- A lost insertion whose entry is still there has expired. -/
theorem IsLast.expired_of_lost (hlost : last.Lost start key now)
    (hfound : (start.run calls).storage.find? key = some entry) :
    start.config.ttl < now.since last.time := by
  cases hlost with
  | expired hover => exact hover
  | removed hcall =>
      obtain ⟨between, later, hafter⟩ := List.append_of_mem hcall
      cases (hlast.not_found hafter (not_found_removed _ _)).symm.trans hfound
  | cleared hcall =>
      obtain ⟨between, later, hafter⟩ := List.append_of_mem hcall
      cases (hlast.not_found hafter (Shards.find?_clear ..)).symm.trans hfound
  | evicted hafter htier hfull hlive hgone =>
      subst htier
      have hnone := Option.not_isSome_iff_eq_none.1 (Bool.not_eq_true _ ▸ hgone)
      cases (hlast.not_found hafter hnone).symm.trans hfound

/-- The last insertion has its entry at the end, or is lost. -/
theorem IsLast.found_or_lost (htimes : ∀ call ∈ calls, call.1 ≤ now) :
    (start.run calls).storage.find? key = some ⟨last.value, last.time, start.config.ttl⟩ ∨
      last.Lost start key now := by
  have hinserted := found_inserted (start.run last.before) last.time key last.value
  rw [config_run] at hinserted
  have hrun : ∀ part, start.run (last.before ++ (last.time, .insert key last.value) :: part) =
      ((start.run last.before).insert last.time key last.value).run part := by
    intro part
    rw [run_append]
    rfl
  rcases found_or_dropped hinserted hlast.untouched with
    hleft | ⟨between, time, call, later, hafter, hfound, hdrops⟩
  · rw [← hrun, ← hlast.calls_eq] at hleft
    exact .inl hleft
  · right
    have hmem : (time, call) ∈ last.after := by
      rw [hafter]
      simp
    rw [← hrun] at hfound hdrops
    cases hdrops with
    | expired hover =>
        have hle := htimes (time, call) (by rw [hlast.calls_eq]; simp [hmem])
        have hover : start.config.ttl.nanoseconds < time.nanoseconds - last.time.nanoseconds :=
          of_decide_eq_true hover
        refine .expired (?_ : start.config.ttl.nanoseconds < now.nanoseconds - _)
        exact Nat.lt_of_lt_of_le hover (Nat.sub_le_sub_right hle _)
    | remove => exact .removed hmem
    | clear => exact .cleared hmem
    | insert hfull hlive hgone =>
        refine .evicted hafter rfl hfull (live_iff.2 ⟨_, hfound, hlive, rfl⟩) ?_
        exact Bool.not_eq_true _ ▸ Option.not_isSome_iff_eq_none.2 hgone

end Losses

end Insertion

/-- After a session a look-up gives the value of the last insertion, if that is not lost. -/
theorem get_some_iff (config : Config) (hash : κ → Nat) (htimes : ∀ call ∈ calls, call.1 ≤ now)
    {value : ν} : (((ofConfig config hash).run calls).get now key).1 = some value ↔
      ∃ last : Insertion κ ν, last.IsLast key calls ∧ last.value = value ∧
        ¬ last.Lost (ofConfig config hash) key now := by
  rw [get_fst, live_iff]
  constructor
  · rintro ⟨entry, hfound, hlive, hvalue⟩
    rcases untouched_or_last key calls with huntouched | ⟨last, hlast⟩
    · obtain ⟨time, value', hcall, -⟩ := inserted_of_found hfound
      exact (huntouched time value' hcall).elim
    · have hentry := hlast.entry_eq hfound
      subst hentry
      refine ⟨last, hlast, hvalue, fun hlost => ?_⟩
      exact of_decide_eq_false hlive (hlast.expired_of_lost hlost hfound)
  · rintro ⟨last, hlast, hvalue, hkept⟩
    have hfound := (hlast.found_or_lost htimes).resolve_right hkept
    exact ⟨_, hfound, decide_eq_false fun hover => hkept (.expired hover), hvalue⟩

/-- What a look-up answers after a session that began with the tier `start`. -/
structure AnswersLast (start : Tier1 κ ν) (calls : List (TimedCall κ ν)) (now : Instant)
    (key : κ) : Prop where
  /-- The value of the last insertion, if that is not lost, -/
  some_iff : ∀ {value}, ((start.run calls).get now key).1 = some value ↔
    ∃ last : Insertion κ ν, last.IsLast key calls ∧ last.value = value ∧ ¬ last.Lost start key now
  /-- and nothing if it is, or if the key was never inserted. -/
  none_iff : ((start.run calls).get now key).1 = none ↔ Untouched key calls ∨
    ∃ last : Insertion κ ν, last.IsLast key calls ∧ last.Lost start key now
  /-- The look-up leaves every entry that has not expired, -/
  kept_by_get : ∀ {other entry}, (start.run calls).storage.find? other = some entry →
    entry.isExpired now = false →
      ((start.run calls).get now key).2.storage.find? other = some entry
  /-- and so does a sweep. -/
  kept_by_purge : ∀ {other entry}, (start.run calls).storage.find? other = some entry →
    entry.isExpired now = false →
      ((start.run calls).purge now).2.storage.find? other = some entry

/-- After every session with the tier in memory a look-up answers with the last insertion. -/
theorem run_answers_last (config : Config) (hash : κ → Nat) {calls : List (TimedCall κ ν)}
    {now : Instant} (htimes : (calls.map Prod.fst ++ [now]).Pairwise (· ≤ ·)) (key : κ) :
    AnswersLast (ofConfig config hash) calls now key := by
  have hearlier : ∀ call ∈ calls, call.1 ≤ now := by
    intro call hcall
    exact (List.pairwise_append.1 htimes).2.2 _ (List.mem_map_of_mem hcall) _
      (List.mem_singleton_self _)
  have hsome : ∀ {value}, (((ofConfig config hash).run calls).get now key).1 = some value ↔ _ :=
    get_some_iff config hash hearlier
  constructor
  case some_iff => exact hsome
  case none_iff =>
    rw [Option.eq_none_iff_forall_ne_some]
    constructor
    · intro hnone
      refine (untouched_or_last key calls).imp_right ?_
      rintro ⟨last, hlast⟩
      refine ⟨last, hlast, ?_⟩
      by_contra hkept
      exact hnone last.value (hsome.2 ⟨last, hlast, rfl, hkept⟩)
    · intro hlost value hvalue
      obtain ⟨last, hlast, -, hkept⟩ := hsome.1 hvalue
      rcases hlost with huntouched | ⟨last', hlast', hlost⟩
      · exact huntouched last.time last.value (by rw [hlast.calls_eq]; simp)
      · cases hlast.unique hlast'
        exact hkept hlost
  case kept_by_get => exact fun hfound hlive => found_after_get hfound hlive
  case kept_by_purge => exact fun hfound hlive => found_after_purge hfound hlive

/-- Room for one entry for ten nanoseconds. -/
def narrowConfig : Config where
  ttl := ⟨10⟩
  maxEntries := 1
  lowWatermark := .ofRatio false 1 2

/-- The first key is inserted twice and makes room for the second. -/
def narrowCalls : List (TimedCall Nat String) :=
  [(⟨0⟩, .insert 1 "a"), (⟨3⟩, .insert 1 "b"), (⟨4⟩, .get 1), (⟨5⟩, .insert 2 "c"),
    (⟨7⟩, .remove 3), (⟨8⟩, .purge)]

/-- At the end of its time to live the second key has its value, and the first has lost its own. -/
theorem run_answers_last_narrow :
    (narrowCalls.map Prod.fst ++ [(⟨15⟩ : Instant)]).Pairwise (· ≤ ·) ∧
      (∃ last : Insertion Nat String, last.IsLast 1 narrowCalls ∧
        last.Lost (ofConfig narrowConfig id) 1 ⟨15⟩) ∧
      ∃ last : Insertion Nat String, last.IsLast 2 narrowCalls ∧ last.value = "c" ∧
        ¬ last.Lost (ofConfig narrowConfig id) 2 ⟨15⟩ := by
  have htimes : (narrowCalls.map Prod.fst ++ [(⟨15⟩ : Instant)]).Pairwise (· ≤ ·) := by decide
  have hfirst := run_answers_last narrowConfig id htimes 1
  have hsecond := run_answers_last narrowConfig id htimes 2
  have hinserted : ¬ Untouched 1 narrowCalls :=
    fun huntouched => huntouched ⟨3⟩ "b" (by simp [narrowCalls])
  exact ⟨htimes, (hfirst.none_iff.1 (by decide +kernel)).resolve_left hinserted,
    hsecond.some_iff.1 (by decide +kernel)⟩

end GameLibrary.Tier1
