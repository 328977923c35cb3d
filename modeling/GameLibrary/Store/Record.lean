import GameLibrary.Json.Printer
import GameLibrary.Key
import GameLibrary.Time.Reading

/-!
# Stored records

The durable tier keeps one record for a key: a payload that it does not look into, the civil time of
its writing, and how long it is fresh. A record is written as one JSON object with the payload as a
string, so only payloads that are text can be written.
-/

namespace GameLibrary

/-- A payload with the key it belongs to. -/
structure Record where
  key : Key
  payload : ByteArray
  insertedAt : Timestamp
  /-- The milliseconds for which the record is fresh. -/
  ttlMillis : UInt64

instance : DecidableEq Record := fun a b =>
  decidable_of_iff (a.key = b.key ∧ a.payload.data = b.payload.data ∧
    a.insertedAt = b.insertedAt ∧ a.ttlMillis = b.ttlMillis) (by
      rw [← ByteArray.ext_iff, ← Record.mk.injEq])

namespace Record

/-- The record of a payload written now. A time to live beyond sixty-four bits of milliseconds is
held at the longest. -/
def ofPayload (key : Key) (payload : ByteArray) (ttl : Duration) (now : Instant) : Record :=
  ⟨key, payload, .ofInstant now, UInt64.ofNat (min ttl.wholeMilliseconds 0xffffffffffffffff)⟩

/-- How long the record is fresh. -/
def ttl (record : Record) : Duration := .milliseconds record.ttlMillis.toNat

/-- The time since the writing, empty if the clock went backwards. -/
def age (record : Record) (now : Instant) : Duration :=
  (Timestamp.ofInstant now).since record.insertedAt

/-- Whether the record is not fresh any more. -/
def isExpired (record : Record) (now : Instant) : Bool := record.ttl < record.age now

/-- Whether the record is too old even as a fallback. -/
def isPastGrace (record : Record) (now : Instant) (grace : Duration) : Bool :=
  record.ttl.addSaturating grace < record.age now

/-- The record as JSON, if its payload is text. -/
def toJson? (record : Record) : Option Json :=
  (String.fromUTF8? record.payload).map fun payload => .object [
    ("key", .string record.key.text),
    ("payload", .string payload),
    ("inserted_at", .string record.insertedAt.text),
    ("ttl_millis", .natural record.ttlMillis.toNat)]

/-- The text of the record, if its payload is text. -/
def toText? (record : Record) : Option String := record.toJson?.map Json.compact

open Json (Tree) in
/-- The record that a document denotes. -/
def ofTree? (tree : Tree) : Option Record := do
  match ← tree.fields? ["key", "payload", "inserted_at", "ttl_millis"] with
  | [some key, some payload, some insertedAt, some ttl] =>
      return {
        key := ← Key.ofTree? key
        payload := (← payload.text?).toUTF8
        insertedAt := ← Timestamp.ofText? (← insertedAt.text?)
        ttlMillis := UInt64.ofNat (← ttl.natural? 64) }
  | _ => none

/-- The record in the bytes of a document. -/
def ofBytes? (bytes : ByteArray) : Option Record := do ofTree? (← Json.Tree.ofBytes? bytes)

end Record

end GameLibrary
