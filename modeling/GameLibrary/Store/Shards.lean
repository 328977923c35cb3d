import GameLibrary.Store.Table

/-!
# Sharded maps

A sharded map spreads its keys over a power of two of tables by the low bits of their hash. A key
lives in the one table that its hash selects, so the whole behaves as a single finite map.
-/

namespace GameLibrary

/-- A finite map in `2 ^ bits` parts. -/
structure Shards (κ : Type) (ν : Type) where
  bits : Nat
  hash : κ → Nat
  tables : Vector (Table κ ν) (Nat.pow 2 bits)

namespace Shards

variable {κ ν : Type} [DecidableEq κ]

/-- The empty map in `2 ^ bits` parts. -/
def empty (bits : Nat) (hash : κ → Nat) : Shards κ ν :=
  ⟨bits, hash, Vector.replicate (Nat.pow 2 bits) .empty⟩

/-- The empty map in a given number of parts, which has to be a power of two. -/
def ofCount? (count : Nat) (hash : κ → Nat) : Option (Shards κ ν) :=
  if count = Nat.pow 2 count.log2 then some (empty count.log2 hash) else none

/-- The number of parts. -/
def count (shards : Shards κ ν) : Nat := Nat.pow 2 shards.bits

/-- The part of a key. -/
def place (shards : Shards κ ν) (key : κ) : Fin (Nat.pow 2 shards.bits) :=
  ⟨shards.hash key % Nat.pow 2 shards.bits, Nat.mod_lt _ (Nat.two_pow_pos _)⟩

/-- The table that holds a key if the map does. -/
def home (shards : Shards κ ν) (key : κ) : Table κ ν := shards.tables[shards.place key]

/-- The map with another table in a key's place. -/
def withHome (shards : Shards κ ν) (key : κ) (table : Table κ ν) : Shards κ ν :=
  { shards with tables := shards.tables.set (shards.place key) table (shards.place key).isLt }

/-- The value of a key. -/
def find? (shards : Shards κ ν) (key : κ) : Option ν := (shards.home key).find? key

/-- Whether the key has a value. -/
def contains (shards : Shards κ ν) (key : κ) : Bool := (shards.home key).contains key

/-- The map in which a key has the given value. -/
def insert (shards : Shards κ ν) (key : κ) (value : ν) : Shards κ ν :=
  shards.withHome key ((shards.home key).insert key value)

/-- The map without a key. -/
def erase (shards : Shards κ ν) (key : κ) : Shards κ ν :=
  shards.withHome key ((shards.home key).erase key)

/-- The value of a key if it passes the test. -/
def findIf? (shards : Shards κ ν) (key : κ) (test : ν → Bool) : Option ν :=
  (shards.find? key).filter test

/-- The map without a key, unless its value fails the test. -/
def eraseIf (shards : Shards κ ν) (key : κ) (test : ν → Bool) : Shards κ ν :=
  if (shards.findIf? key test).isSome then shards.erase key else shards

/-- The number of keys in all parts. -/
def size (shards : Shards κ ν) : Nat :=
  shards.tables.toList.foldl (fun total table => total + table.size) 0

/-- The map with only those keys of which the pair passes. -/
def filter (shards : Shards κ ν) (keep : κ → ν → Bool) : Shards κ ν :=
  { shards with tables := shards.tables.map (·.filter keep) }

/-- All pairs, part by part. -/
def entries (shards : Shards κ ν) : List (κ × ν) := shards.tables.toList.flatMap Table.entries

/-- Whether no part has a key. -/
def isEmpty (shards : Shards κ ν) : Bool := shards.size == 0

/-- The pairs of the parts before a given one. -/
def entriesBefore (shards : Shards κ ν) (part : Nat) : List (κ × ν) :=
  (shards.tables.toList.take part).flatMap Table.entries

/-- Keeps the pairs that pass a test, part by part, and counts those that go. The test is asked of
every pair once, and is shown the pairs that it has seen before. -/
def retain (shards : Shards κ ν) (keep : List (κ × ν) → κ → ν → Bool) : Nat × Shards κ ν :=
  let kept := shards.tables.mapIdx fun part table => table.retain keep (shards.entriesBefore part)
  let removed := List.zipWith (fun table left => table.size - left.size)
    shards.tables.toList kept.toList
  (removed.foldl (· + ·) 0, { shards with tables := kept })

/-- The map without any key. -/
def clear (shards : Shards κ ν) : Shards κ ν :=
  { shards with tables := shards.tables.map fun _ => .empty }

/-- What can be asked of a map. -/
inductive Call (κ ν : Type) where
  | insert (key : κ) (value : ν)
  | get (key : κ)
  | contains (key : κ)
  | remove (key : κ)
  | removeIf (key : κ) (test : ν → Bool)
  | retain (keep : List (κ × ν) → κ → ν → Bool)
  | entries
  | size
  | isEmpty
  | clear

/-- What a map answers. -/
inductive Answer (κ ν : Type) where
  | value (found : Option ν)
  | verdict (holds : Bool)
  | number (count : Nat)
  | pairs (entries : List (κ × ν))
  | done
deriving DecidableEq

/-- The answer to a call, and the map after it. A call that gives a key another value or takes it
away answers with the value that the key had. -/
def perform (shards : Shards κ ν) : Call κ ν → Answer κ ν × Shards κ ν
  | .insert key value => (.value (shards.find? key), shards.insert key value)
  | .get key => (.value (shards.find? key), shards)
  | .contains key => (.verdict (shards.contains key), shards)
  | .remove key => (.value (shards.find? key), shards.erase key)
  | .removeIf key test => (.value (shards.findIf? key test), shards.eraseIf key test)
  | .retain keep => (.number (shards.retain keep).1, (shards.retain keep).2)
  | .entries => (.pairs shards.entries, shards)
  | .size => (.number shards.size, shards)
  | .isEmpty => (.verdict shards.isEmpty, shards)
  | .clear => (.done, shards.clear)

end Shards

end GameLibrary
