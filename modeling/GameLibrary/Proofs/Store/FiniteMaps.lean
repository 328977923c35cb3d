import GameLibrary.Store.Shards
import Mathlib.Data.List.Nodup
import Mathlib.Data.List.Perm.Basic
import Mathlib.Logic.Function.Basic

/-!
# The rules of a finite map

A finite map is described by its contents, the value of each key. `Contents.Answers` says what it
may answer to a call and what it holds afterwards, and `Contents.Session` goes on from call to call.
The rules know neither parts nor hashes. They leave open in which order the pairs come, and nothing
else (`Contents.Session.unique`), as long as no test remembers the order in which it was asked.
-/

namespace GameLibrary.Shards

variable {κ ν : Type}

/-- The contents of a finite map: the value of each key. -/
abbrev Contents (κ ν : Type) := κ → Option ν

/-- The pairs are those of a finite map, each key once. -/
structure Contents.Listed (contents : Contents κ ν) (pairs : List (κ × ν)) : Prop where
  distinct : (pairs.map Prod.fst).Nodup
  mem_iff : ∀ {key value}, (key, value) ∈ pairs ↔ contents key = some value

/-- The pair passes a test that is asked of some pairs one after the other, and that is shown the
pairs before it. -/
def Passes (keep : List (κ × ν) → κ → ν → Bool) (pairs : List (κ × ν)) (pair : κ × ν) : Prop :=
  ∃ before after, pairs = before ++ pair :: after ∧ keep before pair.1 pair.2 = true

/-- The rules of a finite map: what it may answer to a call, and its contents afterwards. -/
inductive Contents.Answers [DecidableEq κ] (contents : Contents κ ν) :
    Call κ ν → Answer κ ν → Contents κ ν → Prop
  /-- An insertion answers with the value that the key had. -/
  | insert {key : κ} {value : ν} : Answers contents (.insert key value) (.value (contents key))
      (Function.update contents key (some value))
  | get {key : κ} : Answers contents (.get key) (.value (contents key)) contents
  | contains {key : κ} :
      Answers contents (.contains key) (.verdict (contents key).isSome) contents
  | remove {key : κ} : Answers contents (.remove key) (.value (contents key))
      (Function.update contents key none)
  /-- A value that passes the test is removed, -/
  | removeIf_passed {key : κ} {value : ν} {test : ν → Bool} (hvalue : contents key = some value)
      (htest : test value = true) : Answers contents (.removeIf key test) (.value (some value))
      (Function.update contents key none)
  /-- and otherwise nothing is. -/
  | removeIf_refused {key : κ} {test : ν → Bool}
      (htest : ∀ value, contents key = some value → test value = false) :
      Answers contents (.removeIf key test) (.value none) contents
  /-- The test is asked of every pair once, in some order, and the pairs that do not pass are
  removed and counted. -/
  | retain {keep : List (κ × ν) → κ → ν → Bool} {pairs left : List (κ × ν)} {after : Contents κ ν}
      {removed : Nat} (hpairs : contents.Listed pairs) (hleft : after.Listed left)
      (hpasses : ∀ pair, pair ∈ left ↔ Passes keep pairs pair)
      (hremoved : removed + left.length = pairs.length) :
      Answers contents (.retain keep) (.number removed) after
  /-- The pairs come in some order. -/
  | entries {pairs : List (κ × ν)} (hpairs : contents.Listed pairs) :
      Answers contents .entries (.pairs pairs) contents
  | size {pairs : List (κ × ν)} (hpairs : contents.Listed pairs) :
      Answers contents .size (.number pairs.length) contents
  | isEmpty {holds : Bool} (hholds : holds = true ↔ ∀ key, contents key = none) :
      Answers contents .isEmpty (.verdict holds) contents
  | clear : Answers contents .clear .done fun _ => none

/-- A session with a finite map: each call is answered by the rules, one after the other. -/
inductive Contents.Session [DecidableEq κ] :
    Contents κ ν → List (Call κ ν) → List (Answer κ ν) → Contents κ ν → Prop
  | nil {contents : Contents κ ν} : Session contents [] [] contents
  | cons {contents middle after : Contents κ ν} {call : Call κ ν} {answer : Answer κ ν}
      {calls : List (Call κ ν)} {answers : List (Answer κ ν)}
      (hcall : contents.Answers call answer middle) (hrest : Session middle calls answers after) :
      Session contents (call :: calls) (answer :: answers) after

section Passing

variable {keep : List (κ × ν) → κ → ν → Bool} {pairs : List (κ × ν)} {pair : κ × ν}

/-- The first of the pairs passes by itself, and the others after it was seen. -/
theorem passes_cons {first : κ × ν} : Passes keep (first :: pairs) pair ↔
    (pair = first ∧ keep [] pair.1 pair.2 = true) ∨
      Passes (fun before => keep (first :: before)) pairs pair := by
  constructor
  · rintro ⟨before, after, hpairs, hkeep⟩
    cases before with
    | nil =>
        cases hpairs
        exact .inl ⟨rfl, hkeep⟩
    | cons _ before =>
        cases hpairs
        exact .inr ⟨before, after, rfl, hkeep⟩
  · rintro (⟨rfl, hkeep⟩ | ⟨before, after, rfl, hkeep⟩)
    · exact ⟨[], pairs, rfl, hkeep⟩
    · exact ⟨first :: before, after, rfl, hkeep⟩

/-- The test of a call decides by the pair alone. -/
def Call.Forgetful : Call κ ν → Prop
  | .retain keep => ∀ seen seen' key value, keep seen key value = keep seen' key value
  | _ => True

/-- To a test that decides by the pair alone the order does not matter. -/
theorem passes_iff (hkeep : (Call.retain keep).Forgetful) :
    Passes keep pairs pair ↔ pair ∈ pairs ∧ keep [] pair.1 pair.2 = true := by
  constructor
  · rintro ⟨before, after, rfl, hpasses⟩
    exact ⟨by simp, hkeep before [] pair.1 pair.2 ▸ hpasses⟩
  · rintro ⟨hmem, hpasses⟩
    obtain ⟨before, after, rfl⟩ := List.append_of_mem hmem
    exact ⟨before, after, rfl, hkeep [] before pair.1 pair.2 ▸ hpasses⟩

end Passing

section Listings

variable {contents after after' : Contents κ ν} {left left' : List (κ × ν)}

theorem Contents.Listed.perm (h : contents.Listed left) (h' : contents.Listed left') :
    left.Perm left' := by
  refine (List.perm_ext_iff_of_nodup h.distinct.of_map h'.distinct.of_map).2 ?_
  rintro ⟨key, value⟩
  rw [h.mem_iff, h'.mem_iff]

/-- Finite maps with the same pairs are the same. -/
theorem Contents.Listed.contents_eq (h : after.Listed left) (h' : after'.Listed left')
    (hsame : ∀ pair, pair ∈ left ↔ pair ∈ left') : after = after' := by
  funext key
  refine Option.ext fun value => ?_
  rw [← h.mem_iff, ← h'.mem_iff]
  exact hsame (key, value)

end Listings

section Order

/-- Answers that differ at most in the order of the pairs. -/
inductive Answer.Alike : Answer κ ν → Answer κ ν → Prop
  | same {answer : Answer κ ν} : Alike answer answer
  | pairs {entries entries' : List (κ × ν)} (hperm : entries.Perm entries') :
      Alike (.pairs entries) (.pairs entries')

variable [DecidableEq κ] {contents after after' : Contents κ ν} {call : Call κ ν}
  {answer answer' : Answer κ ν}

/-- The rules leave the order of the pairs open, and nothing else. -/
theorem Contents.Answers.unique (h : contents.Answers call answer after)
    (h' : contents.Answers call answer' after') (hcall : call.Forgetful) :
    answer.Alike answer' ∧ after = after' := by
  cases h with
  | insert | get | contains | remove | clear =>
      cases h'
      exact ⟨.same, rfl⟩
  | removeIf_passed hvalue htest =>
      cases h' with
      | removeIf_passed hvalue' _ =>
          cases hvalue.symm.trans hvalue'
          exact ⟨.same, rfl⟩
      | removeIf_refused hrefused => cases htest.symm.trans (hrefused _ hvalue)
  | removeIf_refused hrefused =>
      cases h' with
      | removeIf_passed hvalue htest => cases htest.symm.trans (hrefused _ hvalue)
      | removeIf_refused _ => exact ⟨.same, rfl⟩
  | @retain _ _ _ _ removed hpairs hleft hpasses hremoved =>
      cases h' with
      | @retain _ _ _ _ removed' hpairs' hleft' hpasses' hremoved' =>
          have hperm := hpairs.perm hpairs'
          have hafter : after = after' := by
            refine hleft.contents_eq hleft' fun pair => ?_
            rw [hpasses, hpasses', passes_iff hcall, passes_iff hcall, hperm.mem_iff]
          subst hafter
          have hlength := hperm.length_eq
          have hlength' := (hleft.perm hleft').length_eq
          have hcount : removed = removed' := by omega
          exact ⟨hcount ▸ .same, rfl⟩
  | entries hpairs =>
      cases h' with
      | entries hpairs' => exact ⟨.pairs (hpairs.perm hpairs'), rfl⟩
  | size hpairs =>
      cases h' with
      | size hpairs' => exact ⟨(hpairs.perm hpairs').length_eq ▸ .same, rfl⟩
  | isEmpty hholds =>
      cases h' with
      | isEmpty hholds' => exact ⟨Bool.eq_iff_iff.2 (hholds.trans hholds'.symm) ▸ .same, rfl⟩

/-- So what a session answers is settled but for the order of the pairs. -/
theorem Contents.Session.unique {calls : List (Call κ ν)} {answers answers' : List (Answer κ ν)}
    (h : contents.Session calls answers after) (h' : contents.Session calls answers' after')
    (hcalls : ∀ call ∈ calls, call.Forgetful) :
    List.Forall₂ Answer.Alike answers answers' ∧ after = after' := by
  induction h generalizing answers' with
  | nil =>
      cases h'
      exact ⟨.nil, rfl⟩
  | cons hcall _ ih =>
      cases h' with
      | cons hcall' hrest' =>
          obtain ⟨halike, rfl⟩ := hcall.unique hcall' (hcalls _ List.mem_cons_self)
          obtain ⟨hanswers, hafter⟩ := ih hrest' fun call hmem =>
            hcalls call (List.mem_cons_of_mem _ hmem)
          exact ⟨.cons halike hanswers, hafter⟩

end Order

end GameLibrary.Shards
