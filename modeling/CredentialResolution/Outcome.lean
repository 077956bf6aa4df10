/-
This file holds the ways in which a step can end and the steps that leave a state behind.
-/

namespace CredentialResolution

/-- A step ends with a value, with a failure its caller may handle, or with a panic that passes
through every caller. -/
inductive Outcome (Failure Value : Type) where
  | ok (value : Value)
  | error (failure : Failure)
  | panic (text : String)
  deriving DecidableEq

/-- This function changes the failure and keeps values and panics. -/
def Outcome.mapError {Failure Other Value : Type} (change : Failure → Other) :
    Outcome Failure Value → Outcome Other Value
  | .ok value => .ok value
  | .error failure => .error (change failure)
  | .panic text => .panic text

/-- This function changes the value and keeps failures and panics. -/
def Outcome.map {Failure Value Other : Type} (change : Value → Other) :
    Outcome Failure Value → Outcome Failure Other
  | .ok value => .ok (change value)
  | .error failure => .error failure
  | .panic text => .panic text

/-- A step without failures fits where failures are allowed. -/
def Outcome.widen {Failure Value : Type} : Outcome Empty Value → Outcome Failure Value
  | .ok value => .ok value
  | .panic text => .panic text

/-- An action runs on a state and leaves a state behind, however it ends. -/
def Action (State Failure Value : Type) : Type :=
  State → Outcome Failure Value × State

namespace Action

variable {State Failure Other Value Result : Type}

def pure (value : Value) : Action State Failure Value :=
  fun state => (.ok value, state)

/-- The second action runs only after the first one gave a value. -/
def bind (first : Action State Failure Value) (next : Value → Action State Failure Result) :
    Action State Failure Result := fun state =>
  match first state with
  | (.ok value, after) => next value after
  | (.error failure, after) => (.error failure, after)
  | (.panic text, after) => (.panic text, after)

instance : Monad (Action State Failure) where
  pure := pure
  bind := bind

def fail (failure : Failure) : Action State Failure Value :=
  fun state => (.error failure, state)

def panicked (text : String) : Action State Failure Value :=
  fun state => (.panic text, state)

/-- This action replaces the state. -/
def update (change : State → State) : Action State Failure Unit :=
  fun state => (.ok (), change state)

/-- This action looks at the state and changes nothing. -/
def look (view : State → Value) : Action State Failure Value :=
  fun state => (.ok (view state), state)

def mapError (change : Failure → Other) (action : Action State Failure Value) :
    Action State Other Value := fun state =>
  let (outcome, after) := action state
  (outcome.mapError change, after)

def widen (action : Action State Empty Value) : Action State Failure Value := fun state =>
  let (outcome, after) := action state
  (outcome.widen, after)

/-- The second action runs only after the first one failed, and not after a panic. -/
def rescue (action : Action State Failure Value) (next : Failure → Action State Other Value) :
    Action State Other Value := fun state =>
  match action state with
  | (.ok value, after) => (.ok value, after)
  | (.error failure, after) => next failure after
  | (.panic text, after) => (.panic text, after)

/-- An action that gives no value leaves the state as it was. -/
def orUnchanged (action : Action State Failure Value) : Action State Failure Value :=
  fun state =>
    match action state with
    | (.ok value, after) => (.ok value, after)
    | (.error failure, _) => (.error failure, state)
    | (.panic text, _) => (.panic text, state)

@[simp] theorem pure_apply (value : Value) (state : State) :
    (Pure.pure value : Action State Failure Value) state = (.ok value, state) := rfl

theorem bind_apply (first : Action State Failure Value)
    (next : Value → Action State Failure Result) (state : State) :
    (first >>= next) state =
      match first state with
      | (.ok value, after) => next value after
      | (.error failure, after) => (.error failure, after)
      | (.panic text, after) => (.panic text, after) := rfl

/-- What ends a sequence early ends it wherever the brackets stand. -/
theorem bind_bind {Last : Type} (first : Action State Failure Value)
    (next : Value → Action State Failure Result) (last : Result → Action State Failure Last) :
    first >>= next >>= last = first >>= fun value => next value >>= last := by
  funext state
  simp only [bind_apply]
  rcases first state with ⟨outcome, after⟩
  cases outcome <;> rfl

@[simp] theorem bind_pure_value (action : Action State Failure Value) :
    (action >>= fun value => Pure.pure value) = action := by
  funext state
  rw [bind_apply]
  rcases action state with ⟨outcome, after⟩
  cases outcome <;> rfl

instance : LawfulMonad (Action State Failure) :=
  LawfulMonad.mk' _ bind_pure_value (fun _ _ => rfl) bind_bind

/-- What follows an action that gave a value starts in the state it left. -/
theorem bind_of_ok {first : Action State Failure Value}
    {next : Value → Action State Failure Result} {state after : State} {value : Value}
    (gave : first state = (.ok value, after)) : (first >>= next) state = next value after := by
  rw [bind_apply, gave]

theorem bind_of_error {first : Action State Failure Value}
    {next : Value → Action State Failure Result} {state after : State} {failure : Failure}
    (failed : first state = (.error failure, after)) :
    (first >>= next) state = (.error failure, after) := by
  rw [bind_apply, failed]

theorem bind_of_panic {first : Action State Failure Value}
    {next : Value → Action State Failure Result} {state after : State} {text : String}
    (panicking : first state = (.panic text, after)) :
    (first >>= next) state = (.panic text, after) := by
  rw [bind_apply, panicking]

/-- A sequence goes on from what its first action gave, wherever that started. -/
theorem bind_congr {first first' : Action State Failure Value}
    {next : Value → Action State Failure Result} {state state' : State}
    (same : first state = first' state') : (first >>= next) state = (first' >>= next) state' := by
  rw [bind_apply, bind_apply, same]

/-- A sequence gives a value only if both of its actions do. -/
theorem bind_eq_ok {first : Action State Failure Value}
    {next : Value → Action State Failure Result} {state after : State} {result : Result} :
    (first >>= next) state = (.ok result, after) ↔
      ∃ value middle, first state = (.ok value, middle) ∧
        next value middle = (.ok result, after) := by
  rw [bind_apply]
  rcases first state with ⟨value | failure | text, middle⟩
  · constructor
    · exact fun continued => ⟨value, middle, rfl, continued⟩
    · rintro ⟨_, _, same, continued⟩
      cases same
      exact continued
  · simp
  · simp

end Action

end CredentialResolution
