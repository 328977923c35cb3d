import GameLibrary.Proofs.Store.FiniteMaps
import GameLibrary.Proofs.Store.Shards
import GameLibrary.Store.Tier1

/-!
# A sharded map answers as a single map

A sharded map keeps to the rules of a finite map in each call (`perform_answers`), and so in every
session, while each key lies in the part that its hash selects and in no other
(`run_as_single_map`). How the keys are spread does not show (`run_alike`). The sweep of the tier in
memory is one of the calls (`Tier1.purge_eq_retain`).
-/

namespace GameLibrary

variable {κ ν : Type}

namespace Shards

section Retaining

variable {keep : List (κ × ν) → κ → ν → Bool}

/-- The second of two lists is sifted by a test that has seen the first one. -/
theorem sift_append (seen first rest : List (κ × ν)) : Table.sift keep seen (first ++ rest) =
    Table.sift keep seen first ++ Table.sift keep (seen ++ first) rest := by
  induction first generalizing seen with
  | nil => simp [Table.sift]
  | cons pair first ih =>
      simp only [List.cons_append, Table.sift, ih, List.append_assoc, List.nil_append]
      split <;> rfl

/-- What is left is what passes. -/
theorem mem_sift {seen entries : List (κ × ν)} {pair : κ × ν} :
    pair ∈ Table.sift keep seen entries ↔
      Passes (fun before => keep (seen ++ before)) entries pair := by
  induction entries generalizing seen with
  | nil => simp [Table.sift, Passes]
  | cons first rest ih =>
      -- The test has seen one pair more when it comes to the rest.
      have hseen : (fun before => keep (seen ++ first :: before)) =
          fun before => keep (seen ++ [first] ++ before) := by simp
      rw [passes_cons, hseen, ← ih, List.append_nil, Table.sift]
      split
      · rename_i hkeep
        rw [List.mem_cons]
        refine or_congr_left (iff_self_and.2 ?_)
        rintro rfl
        exact hkeep
      · rename_i hrefused
        refine (or_iff_right ?_).symm
        rintro ⟨rfl, hkeep⟩
        exact hrefused hkeep

/-- What is kept of the parts is what is kept of their pairs, one part after the other. -/
theorem flat_map_retain (seen : List (κ × ν)) (tables : List (Table κ ν)) :
    (tables.mapIdx fun part table =>
      table.retain keep (seen ++ (tables.take part).flatMap Table.entries)).flatMap Table.entries =
      Table.sift keep seen (tables.flatMap Table.entries) := by
  induction tables generalizing seen with
  | nil => rfl
  | cons table rest ih =>
      rw [List.mapIdx_cons, List.flatMap_cons, List.flatMap_cons, sift_append, ← ih]
      simp [Table.retain]

theorem tables_retain (shards : Shards κ ν) (keep : List (κ × ν) → κ → ν → Bool) :
    (shards.retain keep).2.tables.toList = shards.tables.toList.mapIdx fun part table =>
      table.retain keep (shards.entriesBefore part) :=
  Vector.toList_mapIdx

/-- The test is asked of all pairs, part by part. -/
theorem entries_retain (shards : Shards κ ν) (keep : List (κ × ν) → κ → ν → Bool) :
    (shards.retain keep).2.entries = Table.sift keep [] shards.entries := by
  show (shards.retain keep).2.tables.toList.flatMap Table.entries = _
  rw [tables_retain]
  exact flat_map_retain [] shards.tables.toList

/-- What is taken away from the parts and what is left of them are the pairs that there were. -/
theorem sum_removed (left : Nat → Table κ ν → Table κ ν)
    (hleft : ∀ part table, (left part table).size ≤ table.size) (tables : List (Table κ ν)) :
    (List.zipWith (fun table left => table.size - left.size) tables (tables.mapIdx left)).sum +
      ((tables.mapIdx left).flatMap Table.entries).length =
        (tables.flatMap Table.entries).length := by
  induction tables generalizing left with
  | nil => rfl
  | cons table rest ih =>
      have hrest := ih (fun part => left (part + 1)) fun part => hleft (part + 1)
      have hfirst := hleft 0 table
      simp only [List.mapIdx_cons, List.zipWith_cons_cons, List.sum_cons, List.flatMap_cons,
        List.length_append, Table.size] at hrest hfirst ⊢
      omega

/-- The pairs that go are counted. -/
theorem removed_retain (shards : Shards κ ν) (keep : List (κ × ν) → κ → ν → Bool) :
    (shards.retain keep).1 + (shards.retain keep).2.entries.length = shards.entries.length := by
  show (List.zipWith _ _ (shards.retain keep).2.tables.toList).foldl _ 0 +
    ((shards.retain keep).2.tables.toList.flatMap Table.entries).length = _
  rw [tables_retain, ← List.sum_eq_foldl]
  exact sum_removed (fun part table => table.retain keep (shards.entriesBefore part))
    (fun _ _ => (Table.sift_sublist ..).length_le) shards.tables.toList

end Retaining

section Places

variable {shards : Shards κ ν}

/-- The part that the hash of a key selects is its home. -/
theorem home_eq {part : Nat} {table : Table κ ν} {key : κ}
    (htable : shards.tables[part]? = some table) (hpart : (shards.place key : Nat) = part) :
    shards.home key = table := by
  subst hpart
  have hhome : shards.tables[(shards.place key : Nat)]? = some (shards.home key) :=
    Vector.getElem?_eq_getElem (shards.place key).isLt
  exact Option.some.inj (hhome.symm.trans htable)

variable [DecidableEq κ]

/-- The keys of a map are spread over `count` parts by the low bits of their hash. -/
structure Spread (shards : Shards κ ν) (hash : κ → Nat) (count : Nat) : Prop where
  length_eq : shards.tables.toList.length = count
  /-- The low bits of the hash select the part in which a key is looked for. -/
  place_eq : ∀ key, (shards.place key : Nat) = hash key &&& (count - 1)
  /-- It is one of the parts, -/
  place_lt : ∀ key, hash key &&& (count - 1) < count
  /-- and has the value of the key, which no other part has. -/
  found_iff : ∀ {part table key value}, shards.tables[part]? = some table →
    (table.find? key = some value ↔
      shards.find? key = some value ∧ part = hash key &&& (count - 1))

theorem Placed.spread (h : shards.Placed) : shards.Spread shards.hash (2 ^ shards.bits) := by
  have hplace : ∀ key, (shards.place key : Nat) = shards.hash key &&& (2 ^ shards.bits - 1) :=
    fun key => (Nat.and_two_pow_sub_one_eq_mod ..).symm
  constructor
  case length_eq => exact Vector.length_toList
  case place_eq => exact hplace
  case place_lt =>
    intro key
    rw [← hplace]
    exact (shards.place key).isLt
  case found_iff =>
    intro part table key value htable
    rw [← hplace]
    constructor
    · intro hfound
      have hpart := h _ _ htable _ _ hfound
      rw [← home_eq htable hpart] at hfound
      exact ⟨hfound, hpart.symm⟩
    · rintro ⟨hfound, hpart⟩
      rw [← home_eq htable hpart.symm]
      exact hfound

end Places

section Steps

variable [DecidableEq κ] {shards : Shards κ ν}

theorem Placed.listed (h : shards.Placed) : Contents.Listed shards.find? shards.entries :=
  ⟨h.nodup, h.mem_entries_iff⟩

theorem Placed.retain (h : shards.Placed) (keep : List (κ × ν) → κ → ν → Bool) :
    (shards.retain keep).2.Placed := by
  intro part table htable key value hfound
  have hkept : (shards.tables.mapIdx fun part table =>
      table.retain keep (shards.entriesBefore part))[part]? = some table := htable
  rw [Vector.getElem?_mapIdx] at hkept
  obtain ⟨before, hbefore, rfl⟩ := Option.map_eq_some_iff.1 hkept
  have hmem := (Table.sift_sublist ..).mem ((Table.find?_eq_some _).1 hfound)
  exact h _ _ hbefore _ _ ((Table.find?_eq_some _).2 hmem)

theorem placed_perform (h : shards.Placed) (call : Call κ ν) : (shards.perform call).2.Placed := by
  cases call with
  | insert key value => exact h.insert key value
  | remove key => exact h.erase key
  | removeIf key test =>
      show (shards.eraseIf key test).Placed
      unfold eraseIf
      split
      · exact h.erase key
      · exact h
  | retain keep => exact h.retain keep
  | clear => exact shards.placed_clear
  | get | contains | entries | size | isEmpty => exact h

/-- A call changes neither the hash nor the number of parts. -/
theorem layout_perform (shards : Shards κ ν) (call : Call κ ν) :
    (shards.perform call).2.hash = shards.hash ∧ (shards.perform call).2.bits = shards.bits := by
  cases call with
  | removeIf key test =>
      show (shards.eraseIf key test).hash = _ ∧ (shards.eraseIf key test).bits = _
      unfold eraseIf
      split <;> exact ⟨rfl, rfl⟩
  | insert | get | contains | remove | retain | entries | size | isEmpty | clear =>
      exact ⟨rfl, rfl⟩

theorem find?_insert_eq (shards : Shards κ ν) (key : κ) (value : ν) :
    (shards.insert key value).find? = Function.update shards.find? key (some value) := by
  funext other
  rw [find?_insert, Function.update_apply]

theorem find?_erase_eq (shards : Shards κ ν) (key : κ) :
    (shards.erase key).find? = Function.update shards.find? key none := by
  funext other
  rw [find?_erase, Function.update_apply]

/-- A map in which nothing is found is empty, and no other is. -/
theorem Placed.is_empty_iff (h : shards.Placed) :
    shards.isEmpty = true ↔ ∀ key, shards.find? key = none := by
  unfold isEmpty
  rw [beq_iff_eq]
  refine ⟨fun hempty key => Option.eq_none_iff_forall_ne_some.2 fun value hfound => ?_,
    h.size_eq_zero⟩
  rw [size_eq_length_entries, List.length_eq_zero_iff] at hempty
  exact List.not_mem_nil (hempty ▸ mem_entries hfound)

theorem remove_if_answers (key : κ) (test : ν → Bool) :
    Contents.Answers shards.find? (.removeIf key test) (.value (shards.findIf? key test))
      (shards.eraseIf key test).find? := by
  unfold eraseIf
  cases hfound : shards.findIf? key test with
  | none =>
      refine .removeIf_refused fun value hvalue => ?_
      exact Bool.not_eq_true _ ▸ Option.filter_eq_none_iff.1 hfound value hvalue
  | some value =>
      obtain ⟨hvalue, htest⟩ := Option.filter_eq_some_iff.1 hfound
      rw [Option.isSome_some, if_pos rfl, find?_erase_eq]
      exact .removeIf_passed hvalue htest

theorem retain_answers (h : shards.Placed) (keep : List (κ × ν) → κ → ν → Bool) :
    Contents.Answers shards.find? (.retain keep) (.number (shards.retain keep).1)
      (shards.retain keep).2.find? := by
  refine .retain h.listed (h.retain keep).listed (fun pair => ?_) (shards.removed_retain keep)
  rw [entries_retain]
  exact mem_sift

/-- A sharded map keeps to the rules. -/
theorem perform_answers (h : shards.Placed) (call : Call κ ν) :
    Contents.Answers shards.find? call (shards.perform call).1 (shards.perform call).2.find? := by
  cases call with
  | insert key value =>
      show Contents.Answers shards.find? _ _ (shards.insert key value).find?
      rw [find?_insert_eq]
      exact .insert
  | get => exact .get
  | contains => exact .contains
  | remove key =>
      show Contents.Answers shards.find? _ _ (shards.erase key).find?
      rw [find?_erase_eq]
      exact .remove
  | removeIf key test => exact remove_if_answers key test
  | retain keep => exact retain_answers h keep
  | entries => exact .entries h.listed
  | size =>
      show Contents.Answers shards.find? _ (.number shards.size) shards.find?
      rw [size_eq_length_entries]
      exact .size h.listed
  | isEmpty => exact .isEmpty h.is_empty_iff
  | clear =>
      have hnone : shards.clear.find? = fun _ => none := funext shards.find?_clear
      show Contents.Answers shards.find? _ _ shards.clear.find?
      rw [hnone]
      exact .clear

end Steps

section Runs

variable [DecidableEq κ] {shards : Shards κ ν}

/-- The answers to a list of calls, and the map after them. -/
def run (shards : Shards κ ν) : List (Call κ ν) → List (Answer κ ν) × Shards κ ν
  | [] => ([], shards)
  | call :: calls =>
      let (answer, next) := shards.perform call
      let (answers, last) := next.run calls
      (answer :: answers, last)

/-- What every call keeps, every session keeps. -/
theorem run_invariant (property : Shards κ ν → Prop)
    (hcall : ∀ {shards} call, property shards → property (shards.perform call).2)
    (hstart : property shards) (calls : List (Call κ ν)) : property (shards.run calls).2 := by
  induction calls generalizing shards with
  | nil => exact hstart
  | cons call calls ih => exact ih (hcall call hstart)

theorem layout_run (shards : Shards κ ν) (calls : List (Call κ ν)) :
    (shards.run calls).2.hash = shards.hash ∧ (shards.run calls).2.bits = shards.bits :=
  run_invariant (fun next => next.hash = shards.hash ∧ next.bits = shards.bits)
    (fun {next} call hnext =>
      ⟨(next.layout_perform call).1.trans hnext.1, (next.layout_perform call).2.trans hnext.2⟩)
    ⟨rfl, rfl⟩ calls

theorem Placed.run (h : shards.Placed) (calls : List (Call κ ν)) : (shards.run calls).2.Placed :=
  run_invariant Placed (fun call hnext => placed_perform hnext call) h calls

/-- A sharded map keeps to the rules throughout a session. -/
theorem Placed.session (h : shards.Placed) (calls : List (Call κ ν)) :
    Contents.Session shards.find? calls (shards.run calls).1 (shards.run calls).2.find? := by
  induction calls generalizing shards with
  | nil => exact .nil
  | cons call calls ih => exact .cons (perform_answers h call) (ih (placed_perform h call))

/-- A new map over any power of two of parts, with any hash, answers to every session as a single
finite map would. After it, each key lies in the part that its hash selects and in no other. -/
theorem run_as_single_map (bits : Nat) (hash : κ → Nat) (calls : List (Call κ ν)) :
    ∃ start : Shards κ ν, ofCount? (2 ^ bits) hash = some start ∧
      Contents.Session (fun _ => none) calls (start.run calls).1 (start.run calls).2.find? ∧
      (start.run calls).2.Spread hash (2 ^ bits) := by
  have hplaced : (empty bits hash : Shards κ ν).Placed := placed_empty bits hash
  refine ⟨empty bits hash, ?_, ?_, ?_⟩
  · unfold ofCount?
    rw [Nat.log2_two_pow]
    exact if_pos rfl
  · have hnone : (empty bits hash : Shards κ ν).find? = fun _ => none :=
      funext (find?_empty bits hash)
    exact hnone ▸ hplaced.session calls
  · obtain ⟨hhash, hbits⟩ := (empty bits hash : Shards κ ν).layout_run calls
    have hspread := (hplaced.run calls).spread
    rw [hhash, hbits] at hspread
    exact hspread

example : ((empty 1 id : Shards Nat Nat).run [.insert 1 10, .insert 2 20, .insert 3 30,
    .insert 1 11, .retain fun seen _ _ => seen.length ≠ 1, .entries]).1 =
    [.value none, .value none, .value none, .value (some 10), .number 1,
      .pairs [(2, 20), (3, 30)]] := by
  decide

/-- How the keys are spread does not show. Maps in which the same is found answer alike, whatever
the hashes of the keys and the numbers of parts. -/
theorem run_alike {shards other : Shards κ ν} (h : shards.Placed) (hother : other.Placed)
    (hsame : other.find? = shards.find?) {calls : List (Call κ ν)}
    (hcalls : ∀ call ∈ calls, call.Forgetful) :
    List.Forall₂ Answer.Alike (shards.run calls).1 (other.run calls).1 ∧
      (shards.run calls).2.find? = (other.run calls).2.find? :=
  (h.session calls).unique (hsame ▸ hother.session calls) hcalls

end Runs

section Sweep

theorem sift_forgetful (keep : κ → ν → Bool) (seen entries : List (κ × ν)) :
    Table.sift (fun _ => keep) seen entries = entries.filter fun entry => keep entry.1 entry.2 := by
  induction entries generalizing seen with
  | nil => rfl
  | cons pair rest ih => rw [Table.sift, List.filter_cons, ih]

/-- A test that decides by the pair alone keeps what a filter keeps. -/
theorem retain_forgetful (shards : Shards κ ν) (keep : κ → ν → Bool) :
    shards.retain (fun _ => keep) =
      (shards.size - (shards.filter keep).size, shards.filter keep) := by
  have htables : (shards.tables.mapIdx fun part table =>
      table.retain (fun _ => keep) (shards.entriesBefore part)) =
        shards.tables.map (·.filter keep) := by
    refine Vector.ext fun part hpart => ?_
    rw [Vector.getElem_mapIdx, Vector.getElem_map, Table.retain, Table.filter, Table.mk.injEq]
    exact sift_forgetful ..
  have hkept : (shards.retain fun _ => keep).2 = shards.filter keep :=
    congrArg (fun tables => { shards with tables := tables }) htables
  have hremoved := shards.removed_retain fun _ => keep
  rw [hkept, ← size_eq_length_entries, ← size_eq_length_entries] at hremoved
  exact Prod.ext (by omega) hkept

end Sweep

end Shards

/-- The sweep of the tier in memory retains what has not expired. -/
theorem Tier1.purge_eq_retain [DecidableEq κ] (tier : Tier1 κ ν) (now : Instant) :
    let swept := tier.storage.retain fun _ _ entry => !entry.isExpired now
    tier.purge now =
      (swept.1, { tier with storage := swept.2, evictions := tier.evictions + swept.1 }) := by
  intro swept
  have hswept : swept = _ := tier.storage.retain_forgetful fun _ entry => !entry.isExpired now
  rw [hswept]
  rfl

end GameLibrary
