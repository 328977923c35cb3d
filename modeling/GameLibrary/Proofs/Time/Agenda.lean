import GameLibrary.Time.Agenda
import Mathlib.Data.List.Perm.Basic

/-!
# Agendas in order

An agenda that is made by entering appointments one after the other lists them by their times, and
none of them is earlier than now (`Appointment.Ordered`). So what comes first in an agenda is not
later than anything else in it.
-/

namespace GameLibrary.Appointment

variable {ε : Type} {appointment first : Appointment ε} {agenda : List (Appointment ε)}
  {now : Instant}

/-- What is entered comes to what is there. -/
theorem enter_perm (appointment : Appointment ε) (agenda : List (Appointment ε)) :
    (appointment.enter agenda).Perm (appointment :: agenda) := by
  induction agenda with
  | nil => exact .refl _
  | cons first agenda ih =>
      unfold enter
      split
      · exact .refl _
      · exact (ih.cons first).trans (.swap ..)

theorem arrange_perm (now : Instant) (delay : Duration) (errand : ε) (last : Bool)
    (agenda : List (Appointment ε)) :
    (arrange now delay errand last agenda).Perm (⟨now.after delay, errand, last⟩ :: agenda) := by
  unfold arrange
  dsimp only
  split
  · exact .refl _
  · exact enter_perm ..

/-- What is to happen after all else comes last. -/
theorem enter_last (hbehind : ∀ first ∈ agenda, appointment.precedes first = false) :
    appointment.enter agenda = agenda ++ [appointment] := by
  induction agenda with
  | nil => rfl
  | cons first agenda ih =>
      have hrest := ih fun other hother => hbehind other (List.mem_cons_of_mem _ hother)
      rw [enter, hbehind first List.mem_cons_self, hrest]
      rfl

/-- The appointments are listed by their times, and none of them is before now. -/
structure Ordered (now : Instant) (agenda : List (Appointment ε)) : Prop where
  ascending : agenda.Pairwise fun a b => a.time.nanoseconds ≤ b.time.nanoseconds
  ahead : ∀ appointment ∈ agenda, now.nanoseconds ≤ appointment.time.nanoseconds

/-- Nothing in an agenda is earlier than what comes first. -/
theorem Ordered.first_le (h : Ordered now (first :: agenda)) :
    ∀ appointment ∈ first :: agenda, first.time.nanoseconds ≤ appointment.time.nanoseconds := by
  intro appointment hmem
  rcases List.mem_cons.1 hmem with rfl | hmem
  · exact Nat.le_refl _
  · exact (List.pairwise_cons.1 h.ascending).1 appointment hmem

/-- When the first appointment is kept, its time is now. -/
theorem Ordered.tail (h : Ordered now (first :: agenda)) : Ordered first.time agenda where
  ascending := (List.pairwise_cons.1 h.ascending).2
  ahead appointment hmem := h.first_le appointment (List.mem_cons_of_mem _ hmem)

theorem Ordered.enter (h : Ordered now agenda)
    (hnow : now.nanoseconds ≤ appointment.time.nanoseconds) :
    Ordered now (appointment.enter agenda) where
  ascending := by
    have hascending := h.ascending
    clear h
    induction agenda with
    | nil => exact List.pairwise_singleton ..
    | cons first agenda ih =>
        obtain ⟨hfirst, hrest⟩ := List.pairwise_cons.1 hascending
        unfold Appointment.enter
        split
        · rename_i hprecedes
          have hle : appointment.time.nanoseconds ≤ first.time.nanoseconds := by
            simp only [precedes, Bool.or_eq_true, Bool.and_eq_true, decide_eq_true_eq] at hprecedes
            rcases hprecedes with hlt | ⟨⟨heq, -⟩, -⟩
            · exact Nat.le_of_lt hlt
            · exact heq ▸ Nat.le_refl _
          refine List.pairwise_cons.2 ⟨fun other hother => ?_, hascending⟩
          rcases List.mem_cons.1 hother with rfl | hother
          · exact hle
          · exact Nat.le_trans hle (hfirst other hother)
        · rename_i hbehind
          have hle : first.time.nanoseconds ≤ appointment.time.nanoseconds := by
            simp only [precedes, Bool.or_eq_true, not_or, decide_eq_true_eq] at hbehind
            exact Nat.le_of_not_lt hbehind.1
          refine List.pairwise_cons.2 ⟨fun other hother => ?_, ih hrest⟩
          rcases List.mem_cons.1 ((enter_perm ..).mem_iff.1 hother) with rfl | hother
          · exact hle
          · exact hfirst other hother
  ahead other hother := by
    rcases List.mem_cons.1 ((enter_perm ..).mem_iff.1 hother) with rfl | hother
    · exact hnow
    · exact h.ahead other hother

theorem Ordered.arrange (h : Ordered now agenda) (delay : Duration) (errand : ε) (last : Bool) :
    Ordered now (arrange now delay errand last agenda) := by
  have hnow : now.nanoseconds ≤ (now.after delay).nanoseconds := Nat.le_add_right ..
  unfold Appointment.arrange
  dsimp only
  split
  · rename_i hzero
    have hafter : now.after delay = now := by rw [hzero]; rfl
    rw [hafter]
    refine ⟨List.pairwise_cons.2 ⟨h.ahead, h.ascending⟩, fun other hother => ?_⟩
    rcases List.mem_cons.1 hother with rfl | hother
    · exact Nat.le_refl _
    · exact h.ahead other hother
  · exact h.enter hnow

end GameLibrary.Appointment
