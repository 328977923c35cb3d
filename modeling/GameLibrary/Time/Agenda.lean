import GameLibrary.Time.Duration

/-!
# Agendas

An agenda lists what is to happen in virtual time, the earliest first. What is to happen at the same
time happens in the order of entry, except that what needs no waiting is next and what is marked as
last comes after everything else.
-/

namespace GameLibrary

/-- Something that is to happen at a set time. -/
structure Appointment (ε : Type) where
  time : Instant
  errand : ε
  /-- Whether it comes after everything else at its time. -/
  last : Bool := false

namespace Appointment

variable {ε : Type}

/-- Whether an appointment that is entered later comes before another one. -/
def precedes (a b : Appointment ε) : Bool :=
  a.time < b.time || (a.time = b.time && b.last && !a.last)

/-- Enters an appointment into an agenda. -/
def enter (appointment : Appointment ε) : List (Appointment ε) → List (Appointment ε)
  | [] => [appointment]
  | first :: rest =>
      if appointment.precedes first then appointment :: first :: rest
      else first :: enter appointment rest

/-- Makes an appointment a while from now. What needs no waiting is next. -/
def arrange (now : Instant) (delay : Duration) (errand : ε) (last : Bool)
    (agenda : List (Appointment ε)) : List (Appointment ε) :=
  let appointment : Appointment ε := ⟨now.after delay, errand, last⟩
  if delay = .zero then appointment :: agenda else enter appointment agenda

end Appointment

end GameLibrary
