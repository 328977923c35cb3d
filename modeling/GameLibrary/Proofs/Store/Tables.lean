import GameLibrary.Store.Table
import Mathlib.Algebra.GroupWithZero.Nat
import Mathlib.Data.List.Nodup
import Mathlib.Data.List.Perm.Basic

/-!
# Tables as lists of pairs

A look-up in a table finds exactly the pairs that are among its entries (`Table.find?_eq_some`). So
what is counted or added up over the entries is the share of one key and the rest
(`Table.number_eq`, `Table.total_eq`), and a new value for the key leaves the rest as it is.
-/

namespace GameLibrary

variable {κ ν : Type}

/-- The number of keys whose value passes. -/
def Table.number (table : Table κ ν) (passes : ν → Bool) : Nat :=
  table.entries.countP fun entry => passes entry.2

/-- The sum of what the values of the keys weigh. -/
def Table.total (table : Table κ ν) (weight : ν → Nat) : Nat :=
  (table.entries.map fun entry => weight entry.2).sum

variable [DecidableEq κ]

/-- Among pairs with distinct keys a look-up finds exactly the pairs that are there. -/
theorem Table.find?_entries {entries : List (κ × ν)} (hdistinct : (entries.map Prod.fst).Nodup)
    {key : κ} {value : ν} :
    (entries.find? (·.1 = key)).map Prod.snd = some value ↔ (key, value) ∈ entries := by
  induction entries with
  | nil => simp
  | cons pair rest ih =>
      obtain ⟨hnot, hrest⟩ := List.nodup_cons.1 hdistinct
      obtain ⟨first, second⟩ := pair
      by_cases hkey : first = key
      · -- The key occurs once, so no other pair can be meant.
        subst hkey
        have hother : (first, value) ∉ rest := fun h => hnot (List.mem_map.2 ⟨_, h, rfl⟩)
        simp [hother, eq_comm]
      · have hne : key ≠ first := fun h => hkey h.symm
        simp [hkey, hne, ← ih hrest]

/-- A table has a value for a key if the pair is one of its entries. -/
theorem Table.find?_eq_some (table : Table κ ν) {key : κ} {value : ν} :
    table.find? key = some value ↔ (key, value) ∈ table.entries :=
  find?_entries table.distinct

/-- The keys that have a value are the keys of the entries. -/
theorem Table.contains_iff (table : Table κ ν) {key : κ} :
    table.contains key = true ↔ key ∈ table.entries.map Prod.fst := by
  unfold contains
  rw [Option.isSome_iff_exists, List.mem_map]
  constructor
  · rintro ⟨value, hvalue⟩
    exact ⟨(key, value), table.find?_eq_some.1 hvalue, rfl⟩
  · rintro ⟨⟨key', value⟩, hmem, rfl⟩
    exact ⟨value, table.find?_eq_some.2 hmem⟩

theorem Table.contains_of_find? {table : Table κ ν} {key : κ} {value : ν}
    (hfound : table.find? key = some value) : table.contains key = true := by
  rw [contains, hfound, Option.isSome_some]

theorem Table.contains_insert (table : Table κ ν) (key other : κ) (value : ν) :
    (table.insert key value).contains other = true ↔
      other = key ∨ table.contains other = true := by
  unfold contains
  rw [find?_insert]
  by_cases hkey : other = key <;> simp [hkey]

/-- A new key comes after the others. -/
theorem Table.entries_insert (table : Table κ ν) {key : κ} (value : ν)
    (hnew : table.contains key = false) :
    (table.insert key value).entries = table.entries ++ [(key, value)] := by
  have hput : ∀ entries : List (κ × ν), key ∉ entries.map Prod.fst →
      put key value entries = entries ++ [(key, value)] := by
    intro entries hnot
    induction entries with
    | nil => rfl
    | cons entry rest ih =>
        rw [List.map_cons, List.mem_cons, not_or] at hnot
        rw [put, if_neg (Ne.symm hnot.1), ih hnot.2, List.cons_append]
  refine hput table.entries fun hmem => ?_
  rw [← table.contains_iff, hnew] at hmem
  cases hmem

theorem Table.contains_erase (table : Table κ ν) (key other : κ) :
    (table.erase key).contains other = true ↔ other ≠ key ∧ table.contains other = true := by
  unfold contains
  rw [find?_erase]
  by_cases hkey : other = key <;> simp [hkey]

/-- A table that keeps some of its pairs finds these. -/
theorem Table.find?_filter (table : Table κ ν) (keep : κ → ν → Bool) {key : κ} {value : ν} :
    (table.filter keep).find? key = some value ↔
      table.find? key = some value ∧ keep key value = true := by
  rw [find?_eq_some, find?_eq_some]
  exact List.mem_filter

section Counting

variable (table : Table κ ν) (key : κ) (passes : ν → Bool) (weight : ν → Nat)

/-- The entries are the pair of a key, if it has a value, and the entries without the key. -/
theorem Table.entries_perm : table.entries.Perm
    ((table.find? key).toList.map (Prod.mk key) ++ (table.erase key).entries) := by
  have hnodup : table.entries.Nodup := table.distinct.of_map
  have hrest : (table.erase key).entries.Nodup := hnodup.filter _
  have hmem : ∀ pair, pair ∈ (table.erase key).entries ↔ pair ∈ table.entries ∧ pair.1 ≠ key := by
    intro pair
    refine List.mem_filter.trans (and_congr_right fun _ => ?_)
    exact decide_eq_true_iff
  cases hfound : table.find? key with
  | none =>
      refine (List.perm_ext_iff_of_nodup hnodup hrest).2 fun pair => ?_
      rw [hmem]
      refine ⟨fun hpair => ⟨hpair, ?_⟩, And.left⟩
      rintro rfl
      cases hfound.symm.trans (table.find?_eq_some.2 hpair)
  | some value =>
      have hnot : (key, value) ∉ (table.erase key).entries := fun h => ((hmem _).1 h).2 rfl
      refine (List.perm_ext_iff_of_nodup hnodup (List.nodup_cons.2 ⟨hnot, hrest⟩)).2 ?_
      rintro ⟨other, value'⟩
      rw [List.mem_cons, hmem]
      by_cases hother : other = key
      · -- A key has one value.
        subst hother
        rw [← table.find?_eq_some, hfound]
        simp [eq_comm]
      · simp [hother]

/-- Without a key it does not matter which value the key had. -/
theorem Table.entries_erase_insert (value : ν) :
    ((table.insert key value).erase key).entries = (table.erase key).entries := by
  show (put key value table.entries).filter (fun entry => decide (entry.1 ≠ key)) =
    table.entries.filter fun entry => decide (entry.1 ≠ key)
  induction table.entries with
  | nil => simp [put]
  | cons entry rest ih =>
      unfold put
      split
      · rename_i hkey
        simp [hkey]
      · rw [List.filter_cons, List.filter_cons, ih]

/-- The value of a key counts once, besides those of the other keys. -/
theorem Table.number_eq : table.number passes =
    (table.erase key).number passes + if (table.find? key).any passes then 1 else 0 := by
  unfold number
  rw [(table.entries_perm key).countP_eq, List.countP_append, Nat.add_comm]
  cases table.find? key with
  | none => rfl
  | some value => simp [List.countP_cons]

theorem Table.number_erase_insert (value : ν) :
    ((table.insert key value).erase key).number passes = (table.erase key).number passes := by
  unfold number
  rw [entries_erase_insert]

/-- The value of a key weighs besides those of the other keys. -/
theorem Table.total_eq : table.total weight =
    (table.erase key).total weight + ((table.find? key).map weight).getD 0 := by
  unfold total
  rw [((table.entries_perm key).map _).sum_nat, List.map_append, List.sum_append, Nat.add_comm]
  cases table.find? key with
  | none => rfl
  | some value => simp

theorem Table.total_erase_insert (value : ν) :
    ((table.insert key value).erase key).total weight = (table.erase key).total weight := by
  unfold total
  rw [entries_erase_insert]

end Counting

end GameLibrary
