import GameLibrary.Failure
import GameLibrary.Json.Decode
import GameLibrary.Json.Printer
import GameLibrary.Popularity.Report
import GameLibrary.Store.Table

/-!
# Payloads

A value goes into the durable tier as the bytes of its JSON text, and comes back by reading them. A
value can also tell whether it is the whole of what was asked for.
-/

namespace GameLibrary

open Json (Tree)

/-- Values that can be written as JSON and read again. -/
class Payload (ν : Type) where
  toJson : ν → Json
  ofTree? : Tree → Option ν
  /-- Whether nothing is missing in the value. -/
  isComplete : ν → Bool := fun _ => true

namespace Payload

/-- The bytes of a value. -/
def encode {ν : Type} [Payload ν] (value : ν) : ByteArray := (toJson value).compact.toUTF8

/-- The value of some bytes. -/
def decode {ν : Type} [Payload ν] (bytes : ByteArray) : Except Failure ν :=
  match (Tree.ofBytes? bytes).bind ofTree? with
  | some value => .ok value
  | none => .error (.serialization "no such value")

instance : Payload String where
  toJson := .string
  ofTree? := Tree.text?

instance : Payload UInt32 where
  toJson n := .natural n.toNat
  ofTree? tree := (tree.natural? 32).map UInt32.ofNat

instance : Payload Int64 where
  toJson n := .integer n.toInt
  ofTree? tree := (tree.integer? (-0x8000000000000000) 0x7fffffffffffffff).map Int64.ofInt

instance {α : Type} [Payload α] : Payload (List α) where
  toJson values := .array (values.map toJson)
  ofTree? := Tree.list? ofTree?

/-- The pairs of a map by the order of their keys. -/
def sortedPairs {α : Type} (table : Table String α) : List (String × α) :=
  table.entries.mergeSort fun a b => a.1 ≤ b.1

/-- A map is written by the order of its keys. A key that is read twice has its last value. -/
instance {α : Type} [Payload α] : Payload (Table String α) where
  toJson table := .object ((sortedPairs table).map fun (key, value) => (key, toJson value))
  ofTree? tree := do
    (← tree.members?).foldlM
      (fun table (key, value) => (ofTree? value).map (table.insert key)) .empty

instance : Payload Report where
  toJson := Report.toJson
  ofTree? := Report.ofTree?
  isComplete := Report.isComplete

end Payload

end GameLibrary
