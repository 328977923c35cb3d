import Mathlib.Data.List.Induction

/-!
# Runs as folds

A run is a fold over a list of events whose step may be impossible. What every step keeps, every run
keeps (`fold_invariant`); and a property that speaks of the events so far holds after the run if
every step carries it over (`fold_history`). `Happens` speaks of a moment in the course of a run.
-/

namespace GameLibrary

variable {α β : Type} {step : α → β → Option α} {start finish : α}

/-- A run begins with a step. -/
theorem fold_cons {event : β} {rest : List β} :
    (event :: rest).foldlM step start = some finish ↔
      ∃ middle, step start event = some middle ∧ rest.foldlM step middle = some finish := by
  rw [List.foldlM_cons, Option.bind_eq_bind, Option.bind_eq_some_iff]

/-- A run is a run of its first part and then of the rest. -/
theorem fold_append {first rest : List β} :
    (first ++ rest).foldlM step start = some finish ↔
      ∃ middle, first.foldlM step start = some middle ∧
        rest.foldlM step middle = some finish := by
  rw [List.foldlM_append, Option.bind_eq_bind, Option.bind_eq_some_iff]

/-- A run can be taken one event further if the last event can happen. -/
theorem fold_concat {events : List β} {event : β} :
    (events ++ [event]).foldlM step start = some finish ↔
      ∃ middle, events.foldlM step start = some middle ∧ step middle event = some finish := by
  rw [fold_append]
  simp

/-- What each step of a fold that may stop keeps holds of its result. -/
theorem fold_invariant (property : α → Prop)
    (hstep : ∀ {state event next}, property state → step state event = some next → property next)
    {events : List β} (hstart : property start)
    (hrun : events.foldlM step start = some finish) : property finish := by
  induction events generalizing start with
  | nil =>
      cases hrun
      exact hstart
  | cons event rest ih =>
      obtain ⟨middle, hfirst, hrest⟩ := fold_cons.1 hrun
      exact ih (hstep hstart hfirst) hrest

/-- A property of the events so far and the state holds after every run, if it holds at the
beginning and every step of the run keeps it. -/
theorem fold_history {events : List β} (property : List β → α → Prop) (hstart : property [] start)
    (hstep : ∀ {past event state next}, past ++ [event] <+: events →
      past.foldlM step start = some state → property past state → step state event = some next →
      property (past ++ [event]) next)
    (hrun : events.foldlM step start = some finish) : property events finish := by
  have hpast : ∀ past state, past <+: events → past.foldlM step start = some state →
      property past state := by
    intro past
    induction past using List.reverseRecOn with
    | nil =>
        intro state _ hstate
        cases hstate
        exact hstart
    | append_singleton past event ih =>
        intro state hprefix hstate
        obtain ⟨middle, hmiddle, hlast⟩ := fold_concat.1 hstate
        have hbefore := ih middle ((List.prefix_append past [event]).trans hprefix) hmiddle
        exact hstep hprefix hmiddle hbefore hlast
  exact hpast events finish (List.prefix_refl events) hrun

/-- Of two moments of a run one is the earlier, unless they are the same. -/
theorem moments_cases {events past past' rest rest' : List β} {event event' : β}
    (h : events = past ++ event :: rest) (h' : events = past' ++ event' :: rest') :
    (past = past' ∧ event = event') ∨ (∃ between, past' = past ++ event :: between) ∨
      ∃ between, past = past' ++ event' :: between := by
  rcases List.append_eq_append_iff.1 (h.symm.trans h') with
    ⟨between, hlate, hbetween⟩ | ⟨between, hlate, hbetween⟩
  · cases between with
    | nil =>
        cases hbetween
        exact .inl ⟨by simpa using hlate.symm, rfl⟩
    | cons _ between =>
        cases hbetween
        exact .inr (.inl ⟨between, hlate⟩)
  · cases between with
    | nil =>
        cases hbetween
        exact .inl ⟨by simpa using hlate, rfl⟩
    | cons _ between =>
        cases hbetween
        exact .inr (.inr ⟨between, hlate⟩)

/-- In the course of a run there is a moment at which the state and the event are as described. -/
def Happens (step : α → β → Option α) (start : α) (events : List β) (described : α → β → Prop) :
    Prop :=
  ∃ past event rest state, events = past ++ event :: rest ∧
    past.foldlM step start = some state ∧ described state event

section Moments

variable {described : α → β → Prop}

/-- Nothing happens where there are no events. -/
theorem not_happens_nil : ¬ Happens step start [] described := by
  rintro ⟨past, event, rest, state, hevents, -, -⟩
  cases past <;> cases hevents

/-- What happens in a run happens with its first event or later. -/
theorem happens_cons {middle : α} {event : β} {rest : List β}
    (hstep : step start event = some middle) :
    Happens step start (event :: rest) described ↔
      described start event ∨ Happens step middle rest described := by
  constructor
  · rintro ⟨past, event', later, state, hevents, hpast, hdescribed⟩
    cases past with
    | nil =>
        cases hevents
        cases hpast
        exact .inl hdescribed
    | cons _ past =>
        cases hevents
        obtain ⟨middle', hfirst, hpast⟩ := fold_cons.1 hpast
        cases hstep.symm.trans hfirst
        exact .inr ⟨past, event', later, state, rfl, hpast, hdescribed⟩
  · rintro (hdescribed | ⟨past, event', later, state, rfl, hpast, hdescribed⟩)
    · exact ⟨[], event, rest, start, rfl, rfl, hdescribed⟩
    · exact ⟨event :: past, event', later, state, rfl, fold_cons.2 ⟨middle, hstep, hpast⟩,
        hdescribed⟩

/-- What happens in a run happens in its first part or in the rest. -/
theorem happens_append {middle : α} {first rest : List β}
    (hfirst : first.foldlM step start = some middle) :
    Happens step start (first ++ rest) described ↔
      Happens step start first described ∨ Happens step middle rest described := by
  induction first generalizing start with
  | nil =>
      cases hfirst
      exact (or_iff_right not_happens_nil).symm
  | cons event first ih =>
      obtain ⟨next, hstep, hfirst⟩ := fold_cons.1 hfirst
      rw [List.cons_append, happens_cons hstep, ih hfirst, happens_cons hstep, or_assoc]

/-- What happens in a run has happened before its last event or happens there. -/
theorem happens_concat {state next : α} {past : List β} {event : β}
    (hpast : past.foldlM step start = some state) (hstep : step state event = some next) :
    Happens step start (past ++ [event]) described ↔
      Happens step start past described ∨ described state event := by
  rw [happens_append hpast, happens_cons hstep, or_iff_left not_happens_nil]

end Moments

end GameLibrary
