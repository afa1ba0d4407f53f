import SyntaxFold.Outcome
import SyntaxFold.System

/-!
# Statements about actions

An action may change the state of the system in which it is done. `Action.Reads` says that it does
not: its outcome is a function of the state, which it leaves as it is. `Action.Alike` compares what
is done in two systems. `System.Similar` says that two systems answer every request alike, and then
everything that is made of requests is alike in them. Both pass through the steps of a chain.
-/

namespace SyntaxFold

variable {σ τ ε ε' α β : Type}

namespace Action

/-- A chain goes on in the state that its first action leaves behind. -/
theorem bind_apply (first : Action σ ε α) (next : α → Action σ ε β) (state : σ) :
    (first >>= next) state = ExceptT.bindCont next (first state).1 (first state).2 :=
  rfl

/-! ## Succeeding and failing -/

/-- A chain succeeds exactly when its first action does and then the next one on that result. -/
theorem bind_eq_ok_iff {first : Action σ ε α} {next : α → Action σ ε β} {state after : σ}
    {result : β} :
    (first >>= next) state = (.ok result, after) ↔ ∃ value between,
      first state = (.ok value, between) ∧ next value between = (.ok result, after) := by
  rw [bind_apply]
  obtain ⟨outcome, between⟩ := first state
  cases outcome with
  | error error =>
      constructor
      · intro failed
        cases failed
      · rintro ⟨_, _, succeeded, -⟩
        cases succeeded
  | ok value =>
      constructor
      · intro rest
        exact ⟨value, between, rfl, rest⟩
      · rintro ⟨_, _, same, rest⟩
        cases same
        exact rest

/-- A chain fails exactly when its first action does or the next one on its result. -/
theorem bind_eq_error_iff {first : Action σ ε α} {next : α → Action σ ε β} {state : σ}
    {error : ε} :
    ((first >>= next) state).1 = .error error ↔ (first state).1 = .error error ∨
      ∃ value between, first state = (.ok value, between) ∧
        (next value between).1 = .error error := by
  rw [bind_apply]
  obtain ⟨outcome, between⟩ := first state
  cases outcome with
  | error failure =>
      constructor
      · intro failed
        cases failed
        exact .inl rfl
      · rintro (failed | ⟨_, _, succeeded, -⟩)
        · cases failed
          rfl
        · cases succeeded
  | ok value =>
      constructor
      · intro failed
        exact .inr ⟨value, between, rfl, failed⟩
      · rintro (failed | ⟨_, _, same, failed⟩)
        · cases failed
        · cases same
          exact failed

/-- A change of errors leaves successes as they are. -/
theorem adapt_eq_ok_iff {action : Action σ ε α} {change : ε → ε'} {state after : σ} {value : α} :
    (action.adapt change) state = (.ok value, after) ↔ action state = (.ok value, after) := by
  change ((action state).1.mapError change, (action state).2) = _ ↔ _
  obtain ⟨outcome, between⟩ := action state
  cases outcome with
  | error error => constructor <;> intro succeeded <;> cases succeeded
  | ok value => constructor <;> intro same <;> cases same <;> rfl

theorem lift_eq_ok_iff {outcome : Except ε α} {state after : σ} {value : α} :
    (liftM outcome : Action σ ε α) state = (.ok value, after) ↔
      outcome = .ok value ∧ state = after :=
  Prod.ext_iff

theorem get_bind_eq_ok_iff {read : σ → Except ε α} {next : α → Action σ ε β} {state after : σ}
    {result : β} :
    (do let value ← read (← get); next value : Action σ ε β) state = (.ok result, after) ↔
      ∃ value, read state = .ok value ∧ next value state = (.ok result, after) := by
  change (liftM (read state) >>= next : Action σ ε β) state = _ ↔ _
  rw [bind_eq_ok_iff]
  simp only [lift_eq_ok_iff]
  constructor
  · rintro ⟨value, _, ⟨outcome, rfl⟩, rest⟩
    exact ⟨value, outcome, rest⟩
  · rintro ⟨value, outcome, rest⟩
    exact ⟨value, state, ⟨outcome, rfl⟩, rest⟩

/-- A chain ends where its first action fails. -/
theorem bind_of_error {first : Action σ ε α} {state after : σ} {error : ε}
    (failed : first state = (.error error, after)) (next : α → Action σ ε β) :
    (first >>= next) state = (.error error, after) := by
  rw [bind_apply, failed]
  rfl

theorem get_bind_of_error (read : σ → Except ε α) {state : σ} {error : ε}
    (failed : read state = .error error) (next : α → Action σ ε β) :
    (do let value ← read (← get); next value : Action σ ε β) state = (.error error, state) := by
  change (liftM (read state) >>= next : Action σ ε β) state = _
  rw [failed]
  rfl

/-! ## Reading -/

/-- An action leaves every state as it is, and its outcome is what the function says. -/
def Reads (action : Action σ ε α) (outcome : σ → Except ε α) : Prop :=
  ∀ state, action state = (outcome state, state)

theorem reads_pure (value : α) : Reads (pure value : Action σ ε α) fun _ => pure value :=
  fun _ => rfl

/-- Going on with a computation that has nothing to do with the system. -/
theorem reads_lift_bind (first : Except ε α) {next : α → Action σ ε β}
    {outcome : α → σ → Except ε β} (rest : ∀ value, Reads (next value) (outcome value)) :
    Reads (do let value ← first; next value : Action σ ε β) fun state =>
      first >>= fun value => outcome value state := by
  intro state
  cases first with
  | error error => rfl
  | ok value => exact rest value state

/-- Going on with what is read in the state. -/
theorem reads_get_bind (read : σ → Except ε α) {next : α → Action σ ε β}
    {outcome : α → σ → Except ε β} (rest : ∀ value, Reads (next value) (outcome value)) :
    Reads (do let value ← read (← get); next value : Action σ ε β) fun state =>
      read state >>= fun value => outcome value state :=
  fun state => reads_lift_bind (read state) rest state

/-! ## Comparing -/

/-- In related states two actions have the same outcome, and they leave related states behind. -/
def Alike (related : σ → τ → Prop) (first : Action σ ε α) (second : Action τ ε α) : Prop :=
  ∀ ⦃state other⦄, related state other →
    (first state).1 = (second other).1 ∧ related (first state).2 (second other).2

variable {related : σ → τ → Prop}

theorem alike_lift (outcome : Except ε α) :
    Alike related (liftM outcome : Action σ ε α) (liftM outcome : Action τ ε α) :=
  fun _ _ both => ⟨rfl, both⟩

theorem alike_pure (value : α) :
    Alike related (pure value : Action σ ε α) (pure value : Action τ ε α) :=
  alike_lift (.ok value)

theorem Alike.bind {first : Action σ ε α} {second : Action τ ε α} {next : α → Action σ ε β}
    {next' : α → Action τ ε β} (alike : Alike related first second)
    (rest : ∀ value, Alike related (next value) (next' value)) :
    Alike related (first >>= next) (second >>= next') := by
  intro state other both
  obtain ⟨outcome, after⟩ := alike both
  rw [bind_apply, bind_apply, ← outcome]
  cases (first state).1 with
  | error error => exact ⟨rfl, after⟩
  | ok value => exact rest value after

/-- A change of errors keeps actions alike. -/
theorem Alike.adapt {first : Action σ ε α} {second : Action τ ε α} (change : ε → ε')
    (alike : Alike related first second) :
    Alike related (first.adapt change) (second.adapt change) := by
  intro state other both
  obtain ⟨outcome, after⟩ := alike both
  exact ⟨congrArg (Except.mapError change) outcome, after⟩

/-- Going on with what is read in the states. -/
theorem alike_get_bind {read : σ → Except ε α} {read' : τ → Except ε α} {next : α → Action σ ε β}
    {next' : α → Action τ ε β} (same : ∀ ⦃state other⦄, related state other →
      read state = read' other) (rest : ∀ value, Alike related (next value) (next' value)) :
    Alike related (do let value ← read (← get); next value : Action σ ε β)
      (do let value ← read' (← get); next' value : Action τ ε β) := by
  intro state other both
  have alike : Alike related (liftM (read state) >>= next) (liftM (read' other) >>= next') := by
    rw [same both]
    exact (alike_lift (read' other)).bind rest
  exact alike both

end Action

/-! ## Similar systems -/

/-- A relation between the states of two systems that no request can tell apart: in related states
every request is answered alike, and related states are left behind. -/
structure System.Similar [System σ] [System τ] (related : σ → τ → Prop) : Prop where
  readText : ∀ ⦃state other⦄, related state other → ∀ path,
    System.readText state path = System.readText other path
  writeText : ∀ path text,
    Action.Alike related (System.writeText path text) (System.writeText path text)
  runProgram : ∀ program arguments input, Action.Alike related
    (System.runProgram program arguments input) (System.runProgram program arguments input)

end SyntaxFold
