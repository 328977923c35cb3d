import GameLibrary.Store.Gate
import GameLibrary.Store.Memory
import Mathlib.Logic.Function.Basic

/-!
# Stores that keep their word

`Backend` says nothing about what a store does. A lawful store holds at most one record for a key,
and its operations do to the records held what they say they do: a read finds the record held and
changes nothing, a write and a removal change the one key, and an operation that is refused leaves
everything as it was. Any operation may be refused at any time.
-/

namespace GameLibrary

open Function (update)

/-- The laws of a durable store. -/
class LawfulBackend (σ : Type) [Backend σ] where
  /-- The record that the store holds for a key. -/
  held : σ → Key → Option Record
  found_held : ∀ {store key found}, (Backend.get store key).1 = .ok found → found = held store key
  held_get : ∀ store key, held (Backend.get store key).2 = held store
  held_put : ∀ {store record}, (Backend.put store record).1 = .ok () →
    held (Backend.put store record).2 = update (held store) record.key (some record)
  held_put_refused : ∀ {store record failure}, (Backend.put store record).1 = .error failure →
    held (Backend.put store record).2 = held store
  held_delete : ∀ {store key found}, (Backend.delete store key).1 = .ok found →
    held (Backend.delete store key).2 = update (held store) key none
  held_delete_refused : ∀ {store key failure}, (Backend.delete store key).1 = .error failure →
    held (Backend.delete store key).2 = held store

namespace LawfulBackend

variable {σ : Type} [Backend σ] [LawfulBackend σ] {store : σ} {key other : Key}
  {record pending : Record}

/-- What is held after a removal was held before. -/
theorem held_of_delete (hheld : held (Backend.delete store other).2 key = some record) :
    held store key = some record := by
  cases hdelete : (Backend.delete store other).1 with
  | ok found =>
      rw [held_delete hdelete, Function.update_apply] at hheld
      split at hheld
      · cases hheld
      · exact hheld
  | error failure =>
      rw [held_delete_refused hdelete] at hheld
      exact hheld

/-- What is held after a write was held before, or has been written. -/
theorem held_of_put (hheld : held (Backend.put store pending).2 key = some record) :
    held store key = some record ∨ pending = record ∧ record.key = key := by
  cases hput : (Backend.put store pending).1 with
  | ok =>
      rw [held_put hput, Function.update_apply] at hheld
      split at hheld
      · rename_i hkey
        cases hheld
        exact .inr ⟨rfl, hkey.symm⟩
      · exact .inl hheld
  | error failure =>
      rw [held_put_refused hput] at hheld
      exact .inl hheld

end LawfulBackend

namespace MemoryStore

variable {store : MemoryStore} {key : Key} {record : Record}

theorem get_offline (hoffline : store.offline = true) :
    Backend.get store key = (.error refusal, store) :=
  if_pos hoffline

theorem get_online (honline : store.offline = false) : Backend.get store key =
    (.ok (store.records.find? key), { store with usage := store.usage.read }) :=
  if_neg (by simp [honline])

theorem put_offline (hoffline : store.offline = true) :
    Backend.put store record = (.error refusal, store) :=
  if_pos hoffline

theorem put_online (honline : store.offline = false) : Backend.put store record =
    (.ok (), { store with
      records := store.records.insert record.key record
      usage := store.usage.written }) :=
  if_neg (by simp [honline])

theorem delete_offline (hoffline : store.offline = true) :
    Backend.delete store key = (.error refusal, store) :=
  if_pos hoffline

theorem delete_online (honline : store.offline = false) : Backend.delete store key =
    (.ok (store.records.contains key), { store with
      records := store.records.erase key
      usage := store.usage.deleted }) :=
  if_neg (by simp [honline])

/-- A store in memory holds what is in its table. -/
instance : LawfulBackend MemoryStore where
  held store := store.records.find?
  found_held {store key found} hget := by
    cases honline : store.offline with
    | true => simp [get_offline honline] at hget
    | false => simpa [get_online honline] using hget.symm
  held_get store key := by
    cases honline : store.offline with
    | true => rw [get_offline honline]
    | false => rw [get_online honline]
  held_put {store record} hput := by
    cases honline : store.offline with
    | true => simp [put_offline honline] at hput
    | false =>
        rw [put_online honline]
        funext key
        rw [Table.find?_insert, Function.update_apply]
  held_put_refused {store record failure} hput := by
    cases honline : store.offline with
    | true => rw [put_offline honline]
    | false => simp [put_online honline] at hput
  held_delete {store key found} hdelete := by
    cases honline : store.offline with
    | true => simp [delete_offline honline] at hdelete
    | false =>
        rw [delete_online honline]
        funext other
        rw [Table.find?_erase, Function.update_apply]
  held_delete_refused {store key failure} hdelete := by
    cases honline : store.offline with
    | true => rw [delete_offline honline]
    | false => simp [delete_online honline] at hdelete

end MemoryStore

namespace Gate

variable {σ : Type} [Backend σ] {gate : Gate σ} {key : Key} {record : Record}

theorem get_closed (hclosed : gate.refusesGet = true) :
    Backend.get gate key = (.error (refusal "get"), gate) :=
  if_pos hclosed

theorem get_open (hopen : gate.refusesGet = false) :
    Backend.get gate key = gate.around (Backend.get gate.inner key) :=
  if_neg (by simp [hopen])

theorem put_closed (hclosed : gate.refusesPut = true) :
    Backend.put gate record = (.error (refusal "put"), gate) :=
  if_pos hclosed

theorem put_open (hopen : gate.refusesPut = false) :
    Backend.put gate record = gate.around (Backend.put gate.inner record) :=
  if_neg (by simp [hopen])

theorem delete_closed (hclosed : gate.refusesDelete = true) :
    Backend.delete gate key = (.error (refusal "delete"), gate) :=
  if_pos hclosed

theorem delete_open (hopen : gate.refusesDelete = false) :
    Backend.delete gate key = gate.around (Backend.delete gate.inner key) :=
  if_neg (by simp [hopen])

/-- A store behind a gate holds what it holds without the gate. -/
instance [LawfulBackend σ] : LawfulBackend (Gate σ) where
  held gate := LawfulBackend.held gate.inner
  found_held {gate key found} hget := by
    cases hgate : gate.refusesGet with
    | true => simp [get_closed hgate] at hget
    | false =>
        rw [get_open hgate] at hget
        exact LawfulBackend.found_held hget
  held_get gate key := by
    cases hgate : gate.refusesGet with
    | true => rw [get_closed hgate]
    | false =>
        rw [get_open hgate]
        exact LawfulBackend.held_get gate.inner key
  held_put {gate record} hput := by
    cases hgate : gate.refusesPut with
    | true => simp [put_closed hgate] at hput
    | false =>
        rw [put_open hgate] at hput ⊢
        exact LawfulBackend.held_put hput
  held_put_refused {gate record failure} hput := by
    cases hgate : gate.refusesPut with
    | true => rw [put_closed hgate]
    | false =>
        rw [put_open hgate] at hput ⊢
        exact LawfulBackend.held_put_refused hput
  held_delete {gate key found} hdelete := by
    cases hgate : gate.refusesDelete with
    | true => simp [delete_closed hgate] at hdelete
    | false =>
        rw [delete_open hgate] at hdelete ⊢
        exact LawfulBackend.held_delete hdelete
  held_delete_refused {gate key failure} hdelete := by
    cases hgate : gate.refusesDelete with
    | true => rw [delete_closed hgate]
    | false =>
        rw [delete_open hgate] at hdelete ⊢
        exact LawfulBackend.held_delete_refused hdelete

end Gate

end GameLibrary
