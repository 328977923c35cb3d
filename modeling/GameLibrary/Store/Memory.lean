import GameLibrary.Store.Backend
import GameLibrary.Store.Table

/-!
# A durable store in memory

The store keeps its records in a table. It can be switched off, and then refuses every operation
without counting it.
-/

namespace GameLibrary

/-- A store that keeps its records in a table. -/
structure MemoryStore where
  records : Table Key Record := .empty
  offline : Bool := false
  usage : Usage := {}

namespace MemoryStore

/-- What a store that is switched off answers. -/
def refusal : Failure := .tierUnavailable "in-memory store offline"

instance : Backend MemoryStore where
  get store key :=
    if store.offline then (.error refusal, store)
    else (.ok (store.records.find? key), { store with usage := store.usage.read })
  put store record :=
    if store.offline then (.error refusal, store)
    else
      (.ok (), { store with
        records := store.records.insert record.key record
        usage := store.usage.written })
  delete store key :=
    if store.offline then (.error refusal, store)
    else
      (.ok (store.records.contains key), { store with
        records := store.records.erase key
        usage := store.usage.deleted })
  usage := MemoryStore.usage

/-- The number of records. -/
def size (store : MemoryStore) : Nat := store.records.size

end MemoryStore

end GameLibrary
