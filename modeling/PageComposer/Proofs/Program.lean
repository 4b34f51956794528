import PageComposer.Program

/-!
# What programs leave behind

A program is atomic if it leaves the state as it was whenever it fails.  It is so if it only
looks at the state until nothing can go wrong any more, and `LooksOnly.atomic_bind` takes the
looking off a program step by step.
-/

namespace PageComposer.Program

variable {State Result Next : Type}

/-! ### Answers -/

@[simp] theorem answer_pure (result : Result) (state : State) :
    answer (pure result) state = (.ok result, state) := rfl

@[simp] theorem answer_throw (fault : Fault) (state : State) :
    answer (throw fault : Program State Result) state = (.error fault, state) := rfl

@[simp] theorem answer_get (state : State) :
    answer (get : Program State State) state = (.ok state, state) := rfl

@[simp] theorem answer_modify (write : State → State) (state : State) :
    answer (modify write : Program State PUnit) state = (.ok ⟨⟩, write state) := rfl

@[simp] theorem answer_lift (outcome : Outcome Result) (state : State) :
    answer (liftM outcome : Program State Result) state = (outcome, state) := by
  cases outcome <;> rfl

@[simp] theorem answer_map (change : Result → Next) (program : Program State Result)
    (state : State) :
    answer (change <$> program) state =
      ((answer program state).1.map change, (answer program state).2) := by
  rw [answer, ExceptT.run_map, StateT.run_map]
  rfl

theorem answer_bind (program : Program State Result) (next : Result → Program State Next)
    (state : State) :
    answer (program >>= next) state =
      match answer program state with
      | (.ok result, after) => answer (next result) after
      | (.error fault, after) => (.error fault, after) := by
  have unfolded : answer (program >>= next) state =
      (ExceptT.bindCont next (answer program state).1).run (answer program state).2 := rfl
  rw [unfolded]
  rcases answer program state with ⟨fault | result, after⟩ <;> rfl

theorem answer_bind_ok {program : Program State Result} {next : Result → Program State Next}
    {state after : State} {result : Result}
    (answered : answer program state = (.ok result, after)) :
    answer (program >>= next) state = answer (next result) after := by
  rw [answer_bind, answered]

/-- A program of two parts that succeeds went through both. -/
theorem answer_bind_ok_iff {program : Program State Result} {next : Result → Program State Next}
    {state after : State} {last : Next} :
    answer (program >>= next) state = (.ok last, after) ↔
      ∃ result between, answer program state = (.ok result, between) ∧
        answer (next result) between = (.ok last, after) := by
  rw [answer_bind]
  constructor
  · intro ended
    rcases answered : answer program state with ⟨fault | result, between⟩
    · rw [answered] at ended
      cases ended
    · rw [answered] at ended
      exact ⟨result, between, rfl, ended⟩
  · rintro ⟨result, between, answered, ended⟩
    rw [answered]
    exact ended

/-! ### Looking -/

/-- A program that leaves the state as it is, whether it fails or not. -/
def LooksOnly (program : Program State Result) : Prop :=
  ∀ state, (program.answer state).2 = state

theorem looksOnly_pure (result : Result) : LooksOnly (pure result : Program State Result) :=
  fun _ => rfl

theorem looksOnly_throw (fault : Fault) : LooksOnly (throw fault : Program State Result) :=
  fun _ => rfl

theorem looksOnly_get : LooksOnly (get : Program State State) := fun _ => rfl

theorem looksOnly_lift (outcome : Outcome Result) :
    LooksOnly (liftM outcome : Program State Result) := by
  intro state
  rw [answer_lift]

theorem LooksOnly.bind {program : Program State Result} {next : Result → Program State Next}
    (looks : LooksOnly program) (onward : ∀ result, LooksOnly (next result)) :
    LooksOnly (program >>= next) := by
  intro state
  have before := looks state
  rw [answer_bind]
  rcases answered : program.answer state with ⟨fault | result, after⟩
  · rw [answered] at before
    exact before
  · rw [answered] at before
    exact (onward result after).trans before

/-! ### Writing -/

/-- A program that does not fail. -/
def Succeeds (program : Program State Result) : Prop :=
  ∀ state, ∃ result, (program.answer state).1 = .ok result

theorem succeeds_pure (result : Result) : Succeeds (pure result : Program State Result) :=
  fun _ => ⟨result, rfl⟩

theorem succeeds_modify (write : State → State) :
    Succeeds (modify write : Program State PUnit) := fun _ => ⟨⟨⟩, rfl⟩

theorem Succeeds.bind {program : Program State Result} {next : Result → Program State Next}
    (succeeds : Succeeds program) (onward : ∀ result, Succeeds (next result)) :
    Succeeds (program >>= next) := by
  intro state
  obtain ⟨result, came⟩ := succeeds state
  obtain ⟨last, ended⟩ := onward result (program.answer state).2
  refine ⟨last, ?_⟩
  rw [answer_bind_ok (Prod.ext came rfl), ended]

/-! ### Atomicity -/

/-- A program that leaves the state as it was if it fails. -/
def Atomic (program : Program State Result) : Prop :=
  ∀ state fault, (program.answer state).1 = .error fault → (program.answer state).2 = state

theorem LooksOnly.atomic {program : Program State Result} (looks : LooksOnly program) :
    Atomic program := fun state _ _ => looks state

theorem Succeeds.atomic {program : Program State Result} (succeeds : Succeeds program) :
    Atomic program := by
  intro state fault failed
  obtain ⟨result, came⟩ := succeeds state
  rw [came] at failed
  cases failed

/-- Looking may come before what is atomic. -/
theorem LooksOnly.atomic_bind {program : Program State Result}
    {next : Result → Program State Next} (looks : LooksOnly program)
    (onward : ∀ result, Atomic (next result)) : Atomic (program >>= next) := by
  intro state fault failed
  have before := looks state
  rw [answer_bind] at failed ⊢
  rcases answered : program.answer state with ⟨refusal | result, after⟩
  · rw [answered] at before
    exact before
  · rw [answered] at before failed
    obtain rfl : after = state := before
    exact onward result after fault failed

/-- Looking may not come after a write: the write stays. -/
example : ¬ Atomic (do modify Nat.succ; throw .wrongKind : Program Nat Unit) := by
  intro atomic
  have kept : 1 = 0 := atomic 0 .wrongKind rfl
  cases kept

/-- What cannot fail may come after what is atomic. -/
theorem Atomic.bind_succeeds {program : Program State Result}
    {next : Result → Program State Next} (atomic : Atomic program)
    (onward : ∀ result, Succeeds (next result)) : Atomic (program >>= next) := by
  intro state fault failed
  rw [answer_bind] at failed ⊢
  rcases answered : program.answer state with ⟨refusal | result, after⟩
  · have before := atomic state refusal (by rw [answered])
    rw [answered] at before
    exact before
  · obtain ⟨last, ended⟩ := onward result after
    rw [answered] at failed
    rw [ended] at failed
    cases failed

end PageComposer.Program
