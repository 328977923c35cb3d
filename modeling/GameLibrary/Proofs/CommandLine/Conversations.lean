import GameLibrary.CommandLine.Program

/-!
# What a dialogue may come to

A dialogue depends on what the machine answers. Its files are known and its clock is not past a
latest time, but servers and the directory of the durable store may answer anything.
`Dialogue.MayEnd` says with which results a dialogue may end, and `Reaches` the same of a session,
which may break down instead. The result of a session is that of its parts, one after the other
(`reaches_bind_ok`, `reaches_bind_error`).
-/

namespace GameLibrary.CommandLine

/-- What is known of a machine. -/
structure Surroundings where
  /-- A time that its clock is not past. -/
  latest : Instant
  /-- The contents of its files, outside the directory of the durable store. -/
  files : String → Option ByteArray

variable {α β : Type} {around : Surroundings}

/-- The answers that the machine may give. -/
def Question.Possible (around : Surroundings) : (question : Question) → question.Answer → Prop
  | .clock, now => now ≤ around.latest
  | .readFile path, content => content = around.files path
  | .exchange _ _, _ | .files _ _, _ => True

namespace Dialogue

/-- The dialogue may end with the result. -/
def MayEnd (around : Surroundings) : Dialogue α → α → Prop
  | done result, other => other = result
  | ask question next, other =>
      ∃ answer, question.Possible around answer ∧ (next answer).MayEnd around other

/-- A dialogue that goes on as another one ends as that does, from where the first one ends. -/
theorem may_end_bind (dialogue : Dialogue α) (next : α → Dialogue β) (result : β) :
    (dialogue.bind next).MayEnd around result ↔
      ∃ middle, dialogue.MayEnd around middle ∧ (next middle).MayEnd around result := by
  induction dialogue with
  | done middle => simp [bind, MayEnd]
  | ask question answered ih =>
      simp only [bind, MayEnd, ih]
      constructor
      · rintro ⟨answer, hpossible, middle, hmiddle, hresult⟩
        exact ⟨middle, ⟨answer, hpossible, hmiddle⟩, hresult⟩
      · rintro ⟨middle, ⟨answer, hpossible, hmiddle⟩, hresult⟩
        exact ⟨answer, hpossible, middle, hmiddle, hresult⟩

/-- What a dialogue with a machine ends with is one of the results that it may end with. -/
theorem may_end_run (dialogue : Dialogue α) {machine : Machine} (hnow : machine.now ≤ around.latest)
    (hfiles : machine.files = around.files) : dialogue.MayEnd around (dialogue.run machine).1 := by
  induction dialogue generalizing machine with
  | done result => rfl
  | ask question next ih =>
      refine ⟨(machine.answer question).1, ?_, ih _ ?_ ?_⟩
      · cases question with
        | clock => exact hnow
        | readFile path => exact congrFun hfiles path
        | exchange | files => trivial
      · cases question <;> exact hnow
      · cases question <;> exact hfiles

theorem may_end_put {question : Question} {answer : question.Answer} :
    (put question).MayEnd around answer ↔ question.Possible around answer := by
  simp [put, MayEnd]

end Dialogue

/-- The session may come to the result. -/
def Reaches (around : Surroundings) (session : Session α) (result : Except Breakdown α) : Prop :=
  Dialogue.MayEnd around session.run result

section Sessions

variable {session : Session α} {next : α → Session β} {breakdown : Breakdown}

theorem reaches_pure {a : α} {result : Except Breakdown α} :
    Reaches around (pure a) result ↔ result = .ok a :=
  Iff.rfl

theorem reaches_throw {result : Except Breakdown α} :
    Reaches around (throw breakdown) result ↔ result = .error breakdown :=
  Iff.rfl

/-- Nothing comes after a breakdown. -/
theorem reaches_throw_bind {result : Except Breakdown β} :
    Reaches around (throw breakdown >>= next) result ↔ result = .error breakdown :=
  Iff.rfl

theorem reaches_lift {dialogue : Dialogue α} {result : Except Breakdown α} :
    Reaches around (liftM dialogue) result ↔ ∃ a, dialogue.MayEnd around a ∧ result = .ok a :=
  Dialogue.may_end_bind dialogue _ result

theorem reaches_map {f : α → β} {result : Except Breakdown β} :
    Reaches around (f <$> session) result ↔
      ∃ first, Reaches around session first ∧ result = first.map f := by
  refine (Dialogue.may_end_bind session.run _ result).trans (exists_congr fun first => ?_)
  cases first <;> rfl

/-- A session that begins with a question goes on with one of the answers. -/
theorem reaches_ask {question : Question} {next : question.Answer → Session β}
    {result : Except Breakdown β} :
    Reaches around (liftM (Dialogue.put question) >>= next) result ↔
      ∃ answer, question.Possible around answer ∧ Reaches around (next answer) result := by
  refine (Dialogue.may_end_bind _ _ result).trans ?_
  constructor
  · rintro ⟨middle, hfirst, hrest⟩
    obtain ⟨answer, hanswer, rfl⟩ := reaches_lift.1 hfirst
    exact ⟨answer, Dialogue.may_end_put.1 hanswer, hrest⟩
  · rintro ⟨answer, hanswer, hrest⟩
    exact ⟨.ok answer, reaches_lift.2 ⟨answer, Dialogue.may_end_put.2 hanswer, rfl⟩, hrest⟩

/-- A session comes to an end if all of its parts do. -/
theorem reaches_bind_ok {b : β} : Reaches around (session >>= next) (.ok b) ↔
    ∃ a, Reaches around session (.ok a) ∧ Reaches around (next a) (.ok b) := by
  refine (Dialogue.may_end_bind session.run _ _).trans ?_
  constructor
  · rintro ⟨_ | a, hfirst, hrest⟩
    · cases hrest
    · exact ⟨a, hfirst, hrest⟩
  · rintro ⟨a, hfirst, hrest⟩
    exact ⟨.ok a, hfirst, hrest⟩

/-- A session breaks down with one of its parts. -/
theorem reaches_bind_error : Reaches around (session >>= next) (.error breakdown) ↔
    Reaches around session (.error breakdown) ∨
      ∃ a, Reaches around session (.ok a) ∧ Reaches around (next a) (.error breakdown) := by
  refine (Dialogue.may_end_bind session.run _ _).trans ?_
  constructor
  · rintro ⟨failure | a, hfirst, hrest⟩
    · cases hrest
      exact .inl hfirst
    · exact .inr ⟨a, hfirst, hrest⟩
  · rintro (hfirst | ⟨a, hfirst, hrest⟩)
    · exact ⟨.error breakdown, hfirst, rfl⟩
    · exact ⟨.ok a, hfirst, hrest⟩

/-- The session never breaks down. -/
def Steady (around : Surroundings) (session : Session α) : Prop :=
  ∀ breakdown, ¬ Reaches around session (.error breakdown)

theorem steady_pure (a : α) : Steady around (pure a : Session α) := nofun

/-- Asking the machine is no reason to break down. -/
theorem steady_lift (dialogue : Dialogue α) : Steady around (liftM dialogue : Session α) := by
  rintro breakdown hreaches
  obtain ⟨a, -, hresult⟩ := reaches_lift.1 hreaches
  cases hresult

theorem Steady.bind (hsession : Steady around session) (hnext : ∀ a, Steady around (next a)) :
    Steady around (session >>= next) := by
  rintro breakdown hreaches
  rcases reaches_bind_error.1 hreaches with hfirst | ⟨a, -, hrest⟩
  · exact hsession breakdown hfirst
  · exact hnext a breakdown hrest

/-- After a part that never breaks down, a session breaks down in the rest of it. -/
theorem Steady.bind_error (hsession : Steady around session) :
    Reaches around (session >>= next) (.error breakdown) ↔
      ∃ a, Reaches around session (.ok a) ∧ Reaches around (next a) (.error breakdown) := by
  rw [reaches_bind_error, or_iff_right (hsession breakdown)]

end Sessions

end GameLibrary.CommandLine
