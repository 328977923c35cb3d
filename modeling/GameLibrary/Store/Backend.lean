import GameLibrary.Store.Record

/-!
# Durable stores

A durable store keeps at most one record for a key. Each operation takes effect at one instant and
may fail. The answer to a read may be under way for some time, and a write may wait for some time
before it takes effect.
-/

namespace GameLibrary

/-- How often a store was asked. -/
structure Usage where
  reads : Nat := 0
  writes : Nat := 0
  deletes : Nat := 0
deriving DecidableEq, Inhabited, Repr

namespace Usage

def read (usage : Usage) : Usage := { usage with reads := usage.reads + 1 }
def written (usage : Usage) : Usage := { usage with writes := usage.writes + 1 }
def deleted (usage : Usage) : Usage := { usage with deletes := usage.deletes + 1 }

end Usage

/-- The answer to the question for the record of a key. -/
abbrev ReadAnswer := Except Failure (Option Record)

/-- The states of a durable store and the operations on them. -/
class Backend (σ : Type) where
  /-- Reads the record of a key. -/
  get : σ → Key → ReadAnswer × σ
  /-- Writes a record over the one of its key. -/
  put : σ → Record → Except Failure Unit × σ
  /-- Removes the record of a key, and tells whether there was one. -/
  delete : σ → Key → Except Failure Bool × σ
  usage : σ → Usage
  /-- How long an answer to a read is under way. -/
  readDelay : σ → Duration := fun _ => .zero
  /-- How long a write waits before it takes effect. -/
  writeDelay : σ → Duration := fun _ => .zero

end GameLibrary
