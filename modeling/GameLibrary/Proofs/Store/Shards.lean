import GameLibrary.Proofs.Store.Tables
import GameLibrary.Store.Shards
import Mathlib.Data.List.Perm.Subperm

/-!
# Sharded maps are maps

A sharded map is described by its `find?`, as a table is: whatever the hash of the keys, an
operation does to a look-up what it says.
-/

namespace GameLibrary

variable {κ ν : Type}

namespace Shards

/-- Keys of one place have one home. -/
theorem home_congr (shards : Shards κ ν) {key other : κ}
    (hplace : shards.place other = shards.place key) : shards.home other = shards.home key := by
  unfold home
  simp only [hplace]

/-- Only the keys of one place are affected by another table in that place. -/
theorem home_with_home (shards : Shards κ ν) (key other : κ) (table : Table κ ν) :
    (shards.withHome key table).home other =
      if shards.place other = shards.place key then table else shards.home other := by
  show (shards.tables.set (shards.place key) table (shards.place key).isLt)[shards.place other] = _
  by_cases hplace : shards.place other = shards.place key
  · rw [if_pos hplace]
    simp only [hplace]
    exact Vector.getElem_set_self (shards.place key).isLt
  · rw [if_neg hplace]
    exact Vector.getElem_set_ne _ _ fun h => hplace (Fin.ext h.symm)

end Shards

variable [DecidableEq κ]

namespace Shards

@[simp] theorem find?_empty (bits : Nat) (hash : κ → Nat) (key : κ) :
    (empty bits hash : Shards κ ν).find? key = none := by
  unfold find? home empty
  rw [Fin.getElem_fin, Vector.getElem_replicate]
  exact Table.find?_empty key

@[simp] theorem find?_insert (shards : Shards κ ν) (key other : κ) (value : ν) :
    (shards.insert key value).find? other =
      if other = key then some value else shards.find? other := by
  unfold insert find?
  rw [home_with_home]
  by_cases hplace : shards.place other = shards.place key
  · rw [if_pos hplace, Table.find?_insert, shards.home_congr hplace]
  · have hne : other ≠ key := fun h => hplace (congrArg shards.place h)
    rw [if_neg hplace, if_neg hne]

@[simp] theorem find?_erase (shards : Shards κ ν) (key other : κ) :
    (shards.erase key).find? other = if other = key then none else shards.find? other := by
  unfold erase find?
  rw [home_with_home]
  by_cases hplace : shards.place other = shards.place key
  · rw [if_pos hplace, Table.find?_erase, shards.home_congr hplace]
  · have hne : other ≠ key := fun h => hplace (congrArg shards.place h)
    rw [if_neg hplace, if_neg hne]

/-- A map that keeps some of its pairs finds these. -/
theorem find?_filter (shards : Shards κ ν) (keep : κ → ν → Bool) {key : κ} {value : ν} :
    (shards.filter keep).find? key = some value ↔
      shards.find? key = some value ∧ keep key value = true := by
  have hhome : (shards.filter keep).home key = (shards.home key).filter keep := by
    unfold home filter
    exact Vector.getElem_map _ _
  unfold find?
  rw [hhome, Table.find?_filter]

@[simp] theorem find?_clear (shards : Shards κ ν) (key : κ) : shards.clear.find? key = none := by
  unfold find? home clear
  rw [Fin.getElem_fin, Vector.getElem_map]
  exact Table.find?_empty key

/-! ## How many keys there are -/

/-- Every key lies in the part that its hash selects. -/
def Placed (shards : Shards κ ν) : Prop :=
  ∀ (part : Nat) (table : Table κ ν), shards.tables[part]? = some table →
    ∀ key value, table.find? key = some value → (shards.place key : Nat) = part

theorem placed_empty (bits : Nat) (hash : κ → Nat) : (empty bits hash : Shards κ ν).Placed := by
  intro part table htable key value hfound
  have hmem := Vector.mem_of_getElem? htable
  unfold empty at hmem
  cases (Vector.mem_replicate.1 hmem).2
  cases hfound

/-- Keys stay in their parts when the part of a key gets another table, if that has other keys from
the part only. -/
theorem Placed.with_home {shards : Shards κ ν} (h : shards.Placed) {key : κ} {table : Table κ ν}
    (htable : ∀ {other value}, table.find? other = some value →
      other = key ∨ ∃ value, (shards.home key).find? other = some value) :
    (shards.withHome key table).Placed := by
  intro part changed hchanged other value hfound
  unfold withHome at hchanged
  rw [Vector.getElem?_set] at hchanged
  split at hchanged
  · rename_i hpart
    cases hchanged
    rcases htable hfound with rfl | ⟨before, hbefore⟩
    · exact hpart
    · exact (h _ _ (Vector.getElem?_eq_getElem (shards.place key).isLt) _ _ hbefore).trans hpart
  · exact h _ _ hchanged _ _ hfound

theorem Placed.insert {shards : Shards κ ν} (h : shards.Placed) (key : κ) (value : ν) :
    (shards.insert key value).Placed := by
  refine h.with_home fun {other found} hfound => ?_
  rw [Table.find?_insert] at hfound
  split at hfound
  · rename_i hother
    exact .inl hother
  · exact .inr ⟨found, hfound⟩

theorem Placed.erase {shards : Shards κ ν} (h : shards.Placed) (key : κ) :
    (shards.erase key).Placed := by
  refine h.with_home fun {other found} hfound => ?_
  rw [Table.find?_erase] at hfound
  split at hfound
  · cases hfound
  · exact .inr ⟨found, hfound⟩

theorem Placed.filter {shards : Shards κ ν} (h : shards.Placed) (keep : κ → ν → Bool) :
    (shards.filter keep).Placed := by
  intro part table htable key value hfound
  unfold Shards.filter at htable
  rw [Vector.getElem?_map] at htable
  obtain ⟨before, hbefore, rfl⟩ := Option.map_eq_some_iff.1 htable
  exact h _ _ hbefore _ _ ((Table.find?_filter ..).1 hfound).1

theorem placed_clear (shards : Shards κ ν) : shards.clear.Placed := by
  intro part table htable key value hfound
  unfold clear at htable
  rw [Vector.getElem?_map] at htable
  obtain ⟨-, -, rfl⟩ := Option.map_eq_some_iff.1 htable
  cases hfound

omit [DecidableEq κ] in
theorem size_eq_length_entries (shards : Shards κ ν) : shards.size = shards.entries.length := by
  have hsum : ∀ (tables : List (Table κ ν)) (total : Nat),
      tables.foldl (fun total table => total + table.size) total =
        total + (tables.flatMap Table.entries).length := by
    intro tables
    induction tables with
    | nil => exact fun _ => rfl
    | cons table rest ih =>
        intro total
        rw [List.foldl_cons, ih, List.flatMap_cons, List.length_append, Nat.add_assoc]
        rfl
  exact (hsum shards.tables.toList 0).trans (Nat.zero_add _)

/-- A value that is found is among the entries. -/
theorem mem_entries {shards : Shards κ ν} {key : κ} {value : ν}
    (hfound : shards.find? key = some value) : (key, value) ∈ shards.entries :=
  List.mem_flatMap.2 ⟨shards.home key, Vector.mem_toList_iff.2 (Vector.getElem_mem _),
    (Table.find?_eq_some _).1 hfound⟩

/-- Where every key lies in its part, all entries are found. -/
theorem Placed.find?_of_mem {shards : Shards κ ν} (h : shards.Placed) {key : κ} {value : ν}
    (hmem : (key, value) ∈ shards.entries) : shards.find? key = some value := by
  obtain ⟨table, htable, hentry⟩ := List.mem_flatMap.1 hmem
  obtain ⟨part, hpart⟩ := Vector.getElem?_of_mem (Vector.mem_toList_iff.1 htable)
  have hfound := table.find?_eq_some.2 hentry
  have hplace := h _ _ hpart _ _ hfound
  rw [← hplace, Vector.getElem?_eq_getElem (shards.place key).isLt] at hpart
  cases hpart
  exact hfound

/-- Where every key lies in its part, no key occurs twice. -/
theorem Placed.nodup {shards : Shards κ ν} (h : shards.Placed) :
    (shards.entries.map Prod.fst).Nodup := by
  unfold entries
  rw [List.map_flatMap, List.nodup_flatMap]
  refine ⟨fun table _ => table.distinct, ?_⟩
  rw [List.pairwise_iff_getElem]
  intro i j hi hj hlt key hkey hkey'
  -- The key would lie in two parts.
  have hpart : ∀ {part : Nat} (hpart : part < shards.tables.toList.length),
      key ∈ (shards.tables.toList[part]).entries.map Prod.fst →
        (shards.place key : Nat) = part := by
    intro part hpart hkey
    obtain ⟨value, hvalue⟩ := Option.isSome_iff_exists.1 ((Table.contains_iff _).2 hkey)
    refine h _ _ ?_ _ _ hvalue
    rw [← Vector.getElem?_toList, List.getElem?_eq_getElem hpart]
  exact Nat.ne_of_lt hlt ((hpart hi hkey).symm.trans (hpart hj hkey'))

theorem Placed.mem_entries_iff {shards : Shards κ ν} (h : shards.Placed) {key : κ} {value : ν} :
    (key, value) ∈ shards.entries ↔ shards.find? key = some value :=
  ⟨h.find?_of_mem, mem_entries⟩

/-- Maps in which the same is found have the same entries, though perhaps in other parts. -/
theorem Placed.entries_perm {shards other : Shards κ ν} (h : shards.Placed) (hother : other.Placed)
    (hsame : ∀ key, other.find? key = shards.find? key) : other.entries.Perm shards.entries := by
  refine (List.perm_ext_iff_of_nodup hother.nodup.of_map h.nodup.of_map).2 ?_
  rintro ⟨key, value⟩
  rw [h.mem_entries_iff, hother.mem_entries_iff, hsame]

/-- The entries are that of a key and those of the map without it. -/
theorem Placed.entries_perm_cons {shards : Shards κ ν} (h : shards.Placed) {key : κ} {value : ν}
    (hfound : shards.find? key = some value) :
    shards.entries.Perm ((key, value) :: (shards.erase key).entries) := by
  have hnot : (key, value) ∉ (shards.erase key).entries := by
    rw [(h.erase key).mem_entries_iff, find?_erase, if_pos rfl]
    exact nofun
  have hnodup := List.nodup_cons.2 ⟨hnot, (h.erase key).nodup.of_map⟩
  refine (List.perm_ext_iff_of_nodup h.nodup.of_map hnodup).2 ?_
  rintro ⟨other, value'⟩
  rw [List.mem_cons, h.mem_entries_iff, (h.erase key).mem_entries_iff, find?_erase]
  by_cases hother : other = key
  · subst hother
    rw [hfound]
    simp [eq_comm]
  · simp [hother]

/-- Without a key there is one entry less, if the key has a value. -/
theorem Placed.size_erase {shards : Shards κ ν} (h : shards.Placed) (key : κ) :
    shards.size = (shards.erase key).size + if (shards.find? key).isSome then 1 else 0 := by
  rw [size_eq_length_entries, size_eq_length_entries]
  cases hfound : shards.find? key with
  | none =>
      have hsame : ∀ other, (shards.erase key).find? other = shards.find? other := by
        intro other
        rw [find?_erase]
        split
        · rename_i hother
          rw [hother, hfound]
        · rfl
      exact (h.entries_perm (h.erase key) hsame).length_eq.symm
  | some value => exact (h.entries_perm_cons hfound).length_eq

/-- With a value for a key there is one entry more than without the key. -/
theorem Placed.size_insert {shards : Shards κ ν} (h : shards.Placed) (key : κ) (value : ν) :
    (shards.insert key value).size = (shards.erase key).size + 1 := by
  have hinsert := h.insert key value
  have hsame : ∀ other, ((shards.insert key value).erase key).find? other =
      (shards.erase key).find? other := by
    intro other
    rw [find?_erase, find?_erase, find?_insert]
    split <;> rfl
  have hrest := ((h.erase key).entries_perm (hinsert.erase key) hsame).length_eq
  rw [← size_eq_length_entries, ← size_eq_length_entries] at hrest
  rw [hinsert.size_erase key, find?_insert, if_pos rfl, hrest]
  rfl

/-- A map in which nothing is found is empty. -/
theorem Placed.size_eq_zero {shards : Shards κ ν} (h : shards.Placed)
    (hnone : ∀ key, shards.find? key = none) : shards.size = 0 := by
  rw [size_eq_length_entries, List.length_eq_zero_iff, List.eq_nil_iff_forall_not_mem]
  rintro ⟨key, value⟩ hmem
  cases (h.find?_of_mem hmem).symm.trans (hnone key)

/-- A value for a new key is one entry more. -/
theorem Placed.size_insert_of_new {shards : Shards κ ν} (h : shards.Placed) {key : κ}
    (hnew : shards.find? key = none) (value : ν) :
    (shards.insert key value).size = shards.size + 1 := by
  rw [h.size_insert, h.size_erase key, hnew]
  rfl

/-- A value for a key is one entry more at most. -/
theorem Placed.size_insert_le {shards : Shards κ ν} (h : shards.Placed) (key : κ) (value : ν) :
    (shards.insert key value).size ≤ shards.size + 1 := by
  rw [h.size_insert, h.size_erase key]
  omega

omit [DecidableEq κ] in
/-- The entries that are kept come in the order that they had. -/
theorem entries_filter (shards : Shards κ ν) (keep : κ → ν → Bool) :
    (shards.filter keep).entries = shards.entries.filter fun entry => keep entry.1 entry.2 := by
  unfold entries filter
  rw [Vector.toList_map, List.flatMap_map, List.filter_flatMap]
  rfl

/-- A map whose keys are all found in another one is not larger. -/
theorem Placed.size_le {shards other : Shards κ ν} (h : shards.Placed)
    (hfound : ∀ {key value}, shards.find? key = some value →
      ∃ value, other.find? key = some value) : shards.size ≤ other.size := by
  have hkeys : shards.entries.map Prod.fst ⊆ other.entries.map Prod.fst := by
    intro key hkey
    obtain ⟨⟨_, value⟩, hmem, rfl⟩ := List.mem_map.1 hkey
    obtain ⟨value', hother⟩ := hfound (h.find?_of_mem hmem)
    exact List.mem_map.2 ⟨_, mem_entries hother, rfl⟩
  have hlength := (h.nodup.subperm hkeys).length_le
  rw [List.length_map, List.length_map] at hlength
  rw [size_eq_length_entries, size_eq_length_entries]
  exact hlength

end Shards

end GameLibrary
