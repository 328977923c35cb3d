import GameLibrary.Filter.Catalog
import Mathlib.Data.List.Nodup

/-!
# Evaluating filters

A filter may break down on an item, and then nothing comes of what it was evaluated for.
`Filter.Answers` says that it does not. A list is gone through element by element: up to the end where
every result is needed (`Checked.sequence_eq_ok`, `Checked.filter_eq_ok`), and otherwise up to the
first element that decides, so that it makes no difference whether one of the later ones would break
down (`Checked.exists_of_any`, `Checked.exists_of_all`).
-/

namespace GameLibrary

namespace Checked

variable {α β : Type} {p : α → Checked Bool} {list : List α}

/-- Of two parts, each has to come to a result. -/
theorem bind_eq_ok {x : Checked α} {f : α → Checked β} {b : β} :
    x >>= f = .ok b ↔ ∃ a, x = .ok a ∧ f a = .ok b := by
  cases x with
  | ok a =>
      constructor
      · exact fun h => ⟨a, rfl, h⟩
      · rintro ⟨_, ⟨⟩, h⟩
        exact h
  | error breakdown =>
      constructor
      · exact nofun
      · rintro ⟨_, ⟨⟩, -⟩

/-- Of two parts, one has to break down. -/
theorem bind_eq_error {x : Checked α} {f : α → Checked β} {breakdown : Breakdown} :
    x >>= f = .error breakdown ↔
      x = .error breakdown ∨ ∃ a, x = .ok a ∧ f a = .error breakdown := by
  cases x with
  | ok a => simp [bind, Except.bind]
  | error breakdown' => simp [bind, Except.bind]

/-- A list of computations comes to the list of their results, if every one comes to a result. -/
theorem sequence_eq_ok {f : α → Checked β} {g : α → β} {Returns : α → Prop}
    (hf : ∀ a b, f a = .ok b ↔ Returns a ∧ b = g a) {results : List β} :
    list.mapM f = .ok results ↔ (∀ a ∈ list, Returns a) ∧ results = list.map g := by
  induction list generalizing results with
  | nil =>
      rw [List.mapM_nil, List.map_nil]
      constructor
      · rintro ⟨⟩
        exact ⟨nofun, rfl⟩
      · rintro ⟨-, rfl⟩
        rfl
  | cons a list ih =>
      rw [List.mapM_cons, bind_eq_ok, List.forall_mem_cons, List.map_cons]
      constructor
      · rintro ⟨first, hfirst, hothers⟩
        obtain ⟨rest, hrest, hresults⟩ := bind_eq_ok.1 hothers
        cases hresults
        obtain ⟨hreturns, rfl⟩ := (hf a first).1 hfirst
        obtain ⟨hall, rfl⟩ := ih.1 hrest
        exact ⟨⟨hreturns, hall⟩, rfl⟩
      · rintro ⟨⟨hreturns, hall⟩, rfl⟩
        exact ⟨g a, (hf _ _).2 ⟨hreturns, rfl⟩, bind_eq_ok.2 ⟨_, ih.2 ⟨hall, rfl⟩, rfl⟩⟩

/-- A list of computations breaks down where one of them does. -/
theorem breaks_of_sequence {f : α → Checked β} {breakdown : Breakdown}
    (h : list.mapM f = .error breakdown) : ∃ a ∈ list, f a = .error breakdown := by
  induction list with
  | nil => cases h
  | cons a list ih =>
      rw [List.mapM_cons] at h
      rcases bind_eq_error.1 h with hfirst | ⟨first, -, hothers⟩
      · exact ⟨a, List.mem_cons_self, hfirst⟩
      · obtain ⟨b, hb, hbreaks⟩ := ih (by simpa [bind_eq_error, pure, Except.pure] using hothers)
        exact ⟨b, List.mem_cons_of_mem _ hb, hbreaks⟩

/-- A pass over a list breaks down at one of its steps. -/
theorem breaks_of_fold {f : β → α → Checked β} {b : β} {breakdown : Breakdown}
    (h : list.foldlM f b = .error breakdown) :
    ∃ a ∈ list, ∃ before, f before a = .error breakdown := by
  induction list generalizing b with
  | nil => cases h
  | cons a list ih =>
      rw [List.foldlM_cons] at h
      rcases bind_eq_error.1 h with hfirst | ⟨first, -, hrest⟩
      · exact ⟨a, List.mem_cons_self, b, hfirst⟩
      · obtain ⟨c, hc, hbreaks⟩ := ih hrest
        exact ⟨c, List.mem_cons_of_mem _ hc, hbreaks⟩

/-- Elements are kept by their answers, which all of them have to give. -/
theorem filter_eq_ok {kept : List α} : list.filterM p = .ok kept ↔
    (∀ a ∈ list, ∃ b, p a = .ok b) ∧ kept = list.filter (p · = .ok true) := by
  -- The elements that are kept are collected in reverse, before those that are there already.
  have hcollect : ∀ before collected : List α, list.filterAuxM p before = .ok collected ↔
      (∀ a ∈ list, ∃ b, p a = .ok b) ∧
        collected = (list.filter (p · = .ok true)).reverse ++ before := by
    induction list with
    | nil =>
        intro before collected
        constructor
        · rintro ⟨⟩
          exact ⟨nofun, rfl⟩
        · rintro ⟨-, rfl⟩
          rfl
    | cons a list ih =>
        intro before collected
        rw [List.filterAuxM, bind_eq_ok, List.forall_mem_cons, List.filter_cons]
        constructor
        · rintro ⟨b, hb, hrest⟩
          obtain ⟨hanswers, rfl⟩ := (ih _ _).1 hrest
          refine ⟨⟨⟨b, hb⟩, hanswers⟩, ?_⟩
          cases b <;> simp [hb]
        · rintro ⟨⟨⟨b, hb⟩, hanswers⟩, rfl⟩
          refine ⟨b, hb, (ih _ _).2 ⟨hanswers, ?_⟩⟩
          cases b <;> simp [hb]
  rw [List.filterM, bind_eq_ok]
  constructor
  · rintro ⟨collected, hcollected, hkept⟩
    obtain ⟨hanswers, rfl⟩ := (hcollect _ _).1 hcollected
    cases hkept
    exact ⟨hanswers, by simp⟩
  · rintro ⟨hanswers, rfl⟩
    exact ⟨_, (hcollect _ _).2 ⟨hanswers, rfl⟩, by simp [pure, Except.pure]⟩

/-- Nobody is found only where everyone has said no. -/
theorem any_eq_false : list.anyM p = .ok false ↔ ∀ a ∈ list, p a = .ok false := by
  induction list with
  | nil => exact iff_of_true rfl nofun
  | cons a list ih =>
      rw [List.anyM, bind_eq_ok, List.forall_mem_cons, ← ih]
      constructor
      · rintro ⟨_ | _, ha, hrest⟩
        · exact ⟨ha, hrest⟩
        · cases hrest
      · rintro ⟨ha, hrest⟩
        exact ⟨false, ha, hrest⟩

/-- Somebody who is found has said yes. -/
theorem exists_of_any (h : list.anyM p = .ok true) : ∃ a ∈ list, p a = .ok true := by
  induction list with
  | nil => cases h
  | cons a list ih =>
      rw [List.anyM] at h
      obtain ⟨_ | _, ha, hrest⟩ := bind_eq_ok.1 h
      · obtain ⟨b, hb, hyes⟩ := ih hrest
        exact ⟨b, List.mem_cons_of_mem _ hb, hyes⟩
      · exact ⟨a, List.mem_cons_self, ha⟩

/-- What is said the other way round comes to the opposite. -/
theorem not_eq_ok {x : Checked Bool} {b : Bool} : (!·) <$> x = .ok b ↔ x = .ok !b := by
  cases x with
  | error breakdown => exact iff_of_false nofun nofun
  | ok answer => cases answer <;> cases b <;> simp [Functor.map, Except.map]

/-- All agree only where everyone has said yes. -/
theorem all_eq_true : list.allM p = .ok true ↔ ∀ a ∈ list, p a = .ok true := by
  rw [List.allM_eq_not_anyM_not, not_eq_ok, Bool.not_true, any_eq_false]
  simp only [not_eq_ok, Bool.not_false]

/-- Where not all agree, somebody has said no. -/
theorem exists_of_all (h : list.allM p = .ok false) : ∃ a ∈ list, p a = .ok false := by
  rw [List.allM_eq_not_anyM_not, not_eq_ok] at h
  obtain ⟨a, ha, hyes⟩ := exists_of_any h
  exact ⟨a, ha, not_eq_ok.1 hyes⟩

/-- Where everyone has an answer it comes out whether somebody is found. -/
theorem any_returns (hanswers : ∀ a ∈ list, ∃ b, p a = .ok b) : ∃ b, list.anyM p = .ok b := by
  induction list with
  | nil => exact ⟨false, rfl⟩
  | cons a list ih =>
      obtain ⟨⟨b, hb⟩, hrest⟩ := List.forall_mem_cons.1 hanswers
      rw [List.anyM]
      cases b with
      | true => exact ⟨true, bind_eq_ok.2 ⟨true, hb, rfl⟩⟩
      | false =>
          obtain ⟨found, hfound⟩ := ih hrest
          exact ⟨found, bind_eq_ok.2 ⟨false, hb, hfound⟩⟩

/-- Where everyone has an answer it comes out whether all agree. -/
theorem all_returns (hanswers : ∀ a ∈ list, ∃ b, p a = .ok b) : ∃ b, list.allM p = .ok b := by
  have hothers : ∀ a ∈ list, ∃ b, (!·) <$> p a = .ok b := by
    intro a ha
    obtain ⟨b, hb⟩ := hanswers a ha
    exact ⟨!b, not_eq_ok.2 (by rw [hb, Bool.not_not])⟩
  obtain ⟨found, hfound⟩ := any_returns hothers
  exact ⟨!found, by rw [List.allM_eq_not_anyM_not, not_eq_ok, Bool.not_not, hfound]⟩

end Checked

namespace Filter

variable {filter : Filter} {item : Item}

/-- The filter does not break down on the item. -/
def Answers (filter : Filter) (item : Item) : Prop := ∃ answer, filter.holds item = .ok answer

/-- Whether the filter cannot decide about the item, and says why. -/
def fails (filter : Filter) (item : Item) : Bool :=
  match filter.holds item with
  | .ok (.error _) => true
  | .ok (.ok _) | .error _ => false

/-- An item is accepted if the filter holds of it; where it cannot decide it does not accept. -/
theorem accepts_eq_true : filter.accepts item = .ok true ↔ filter.holds item = .ok (.ok true) := by
  unfold accepts check
  cases filter.holds item with
  | error breakdown => exact iff_of_false nofun nofun
  | ok answer =>
      cases answer with
      | ok b => cases b <;> simp [Except.map, Except.mapError]
      | error reason => simp [Except.map, Except.mapError]

/-- It comes out whether an item is accepted, unless the filter breaks down. -/
theorem accepts_returns : (∃ b, filter.accepts item = .ok b) ↔ filter.Answers item := by
  unfold accepts check Answers
  cases filter.holds item with
  | error breakdown => exact iff_of_false nofun nofun
  | ok answer => exact iff_of_true ⟨_, rfl⟩ ⟨_, rfl⟩

end Filter

end GameLibrary
