import GameLibrary.Store.Backend

/-!
# Stores behind a gate

To rehearse how a cache behaves over a store that fails or is slow, the store is put behind a gate.
A gate can be closed for each kind of operation, which is then refused at once and does not reach
the store. An open gate delays the answers to reads and the taking effect of writes.
-/

namespace GameLibrary

/-- A store behind a gate. -/
structure Gate (σ : Type) where
  inner : σ
  refusesGet : Bool := false
  refusesPut : Bool := false
  refusesDelete : Bool := false
  getDelay : Duration := .zero
  putDelay : Duration := .zero

namespace Gate

variable {σ α : Type}

/-- The answer of the store with the gate around the store's new state. -/
def around (gate : Gate σ) (answer : α × σ) : α × Gate σ :=
  (answer.1, { gate with inner := answer.2 })

/-- What a closed gate answers. -/
def refusal (operation : String) : Failure :=
  .tierUnavailable ("scripted " ++ operation ++ " failure")

instance [Backend σ] : Backend (Gate σ) where
  get gate key :=
    if gate.refusesGet then (.error (refusal "get"), gate)
    else gate.around (Backend.get gate.inner key)
  put gate record :=
    if gate.refusesPut then (.error (refusal "put"), gate)
    else gate.around (Backend.put gate.inner record)
  delete gate key :=
    if gate.refusesDelete then (.error (refusal "delete"), gate)
    else gate.around (Backend.delete gate.inner key)
  usage gate := Backend.usage gate.inner
  readDelay gate := if gate.refusesGet then .zero else gate.getDelay
  writeDelay gate := if gate.refusesPut then .zero else gate.putDelay

end Gate

end GameLibrary
