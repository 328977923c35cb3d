/-!
# Finite maps

A table is a list of pairs with distinct keys, in the order in which the keys were first inserted.
Each operation is described by what it does to `find?`.
-/

namespace GameLibrary

/-- A finite map. -/
structure Table (κ : Type) (ν : Type) where
  entries : List (κ × ν)
  distinct : (entries.map Prod.fst).Nodup

namespace Table

variable {κ ν : Type} [DecidableEq κ]

/-- The pairs with the value of a key replaced, or with a new pair at the end. -/
def put (key : κ) (value : ν) : List (κ × ν) → List (κ × ν)
  | [] => [(key, value)]
  | pair :: rest =>
      if pair.1 = key then (key, value) :: rest else pair :: put key value rest

/-- The keys after a pair was put: the key comes at the end if it was not there. -/
theorem keys_put (key : κ) (value : ν) (entries : List (κ × ν)) :
    (put key value entries).map Prod.fst =
      if key ∈ entries.map Prod.fst then entries.map Prod.fst
      else entries.map Prod.fst ++ [key] := by
  induction entries with
  | nil => simp [put]
  | cons pair rest ih =>
      by_cases h : pair.1 = key
      · simp [put, h]
      · have h' : ¬ key = pair.1 := fun e => h e.symm
        simp only [put, h, if_false, List.map_cons, List.mem_cons, h', false_or, ih]
        split <;> simp_all

/-- Putting a pair keeps the keys distinct. -/
theorem nodup_put (key : κ) (value : ν) (entries : List (κ × ν))
    (h : (entries.map Prod.fst).Nodup) : ((put key value entries).map Prod.fst).Nodup := by
  rw [keys_put]
  split
  · exact h
  · rename_i absent
    rw [List.nodup_append]
    exact ⟨h, by simp, by
      intro a ha b hb hab
      rw [List.mem_singleton] at hb
      exact absent (hb ▸ hab ▸ ha)⟩

/-- The map without keys. -/
def empty : Table κ ν := ⟨[], by simp⟩

/-- The value of a key. -/
def find? (table : Table κ ν) (key : κ) : Option ν :=
  (table.entries.find? (·.1 = key)).map Prod.snd

/-- Whether the key has a value. -/
def contains (table : Table κ ν) (key : κ) : Bool := (table.find? key).isSome

/-- The number of keys. -/
def size (table : Table κ ν) : Nat := table.entries.length

/-- The map in which a key has the given value. -/
def insert (table : Table κ ν) (key : κ) (value : ν) : Table κ ν :=
  ⟨put key value table.entries, nodup_put key value table.entries table.distinct⟩

/-- The map with only those keys of which the pair passes. -/
def filter (table : Table κ ν) (keep : κ → ν → Bool) : Table κ ν :=
  ⟨table.entries.filter fun (key, value) => keep key value,
    List.Nodup.sublist (List.Sublist.map Prod.fst List.filter_sublist) table.distinct⟩

/-- The map without a key. -/
def erase (table : Table κ ν) (key : κ) : Table κ ν := table.filter fun k _ => k ≠ key

/-- The pairs that pass a test. The test is asked of one pair after the other, and is shown the
pairs that it has seen before. -/
def sift (keep : List (κ × ν) → κ → ν → Bool) (seen : List (κ × ν)) :
    List (κ × ν) → List (κ × ν)
  | [] => []
  | pair :: rest =>
      let kept := sift keep (seen ++ [pair]) rest
      if keep seen pair.1 pair.2 then pair :: kept else kept

omit [DecidableEq κ] in
/-- What passes was there, in the same order. -/
theorem sift_sublist (keep : List (κ × ν) → κ → ν → Bool) (seen entries : List (κ × ν)) :
    (sift keep seen entries).Sublist entries := by
  induction entries generalizing seen with
  | nil => exact .slnil
  | cons pair rest ih =>
      rw [sift]
      split
      · exact (ih _).cons_cons pair
      · exact (ih _).cons pair

/-- The map with only those keys of which the pair passes a test that has seen some pairs
already. -/
def retain (table : Table κ ν) (keep : List (κ × ν) → κ → ν → Bool) (seen : List (κ × ν)) :
    Table κ ν :=
  ⟨sift keep seen table.entries,
    List.Nodup.sublist (List.Sublist.map Prod.fst (sift_sublist ..)) table.distinct⟩

/-! ## What the operations do to a look-up -/

@[simp] theorem find?_empty (key : κ) : (empty : Table κ ν).find? key = none := rfl

/-- A look-up after a pair was put among others. -/
theorem find?_put (key other : κ) (value : ν) (entries : List (κ × ν)) :
    ((put key value entries).find? (·.1 = other)).map Prod.snd =
      if other = key then some value else (entries.find? (·.1 = other)).map Prod.snd := by
  induction entries with
  | nil => by_cases h : other = key <;> simp [put, h, eq_comm]
  | cons pair rest ih =>
      by_cases hkey : pair.1 = key
      · by_cases h : other = key
        · simp [put, hkey, h]
        · have hne : key ≠ other := fun e => h e.symm
          simp [put, hkey, h, hne]
      · by_cases hother : pair.1 = other
        · have hne : other ≠ key := fun e => hkey (hother.trans e)
          simp [put, hother, hne]
        · simpa [put, hkey, hother] using ih

@[simp] theorem find?_insert (table : Table κ ν) (key other : κ) (value : ν) :
    (table.insert key value).find? other =
      if other = key then some value else table.find? other :=
  find?_put key other value table.entries

/-- Dropping the pairs of one key hides that key only. -/
@[simp] theorem find?_erase (table : Table κ ν) (key other : κ) :
    (table.erase key).find? other = if other = key then none else table.find? other := by
  unfold erase filter find?
  by_cases h : other = key
  · subst h
    simp [List.find?_filter]
  · rw [if_neg h, List.find?_filter]
    congr 2
    funext pair
    by_cases hpair : pair.1 = other
    · simp [hpair, h]
    · simp [hpair]

/-- A map is empty exactly if no key has a value. -/
theorem size_eq_zero_iff (table : Table κ ν) :
    table.size = 0 ↔ ∀ key, table.find? key = none := by
  obtain ⟨entries, distinct⟩ := table
  cases entries with
  | nil => simp [size, find?]
  | cons pair rest =>
      refine iff_of_false (Nat.succ_ne_zero _) fun hnone => ?_
      simpa [find?] using hnone pair.1

end Table

end GameLibrary
