/-
This file lists the calls that a choice makes of the outside, with their answers and in their order.
Recording these calls changes nothing else.
-/

import CredentialResolution.Proofs.Agreement

namespace CredentialResolution

inductive Exchange (Factory Delegate : Type) where
  | logged (entry : LogEntry)
  | asked (setting : Setting) (answer : Outcome Empty (Option String))
  | readToken (path : Path) (answer : Outcome ResolutionError String)
  | lookedUp (answer : Outcome ResolutionError Factory)
  | created (factory : Factory) (roleArn : String) (roleSessionName : Option String)
      (token : String) (answer : Outcome ResolutionError Delegate)

/-- The exchanges of a choice stand beside the state, oldest first. -/
structure Recorded (State Factory Delegate : Type) where
  state : State
  exchanges : List (Exchange Factory Delegate)

namespace Recorded

variable {State Factory Delegate Failure Value : Type}

/-- This action runs on the state and adds one exchange, which holds its outcome. -/
def noting (exchange : Outcome Failure Value → Exchange Factory Delegate)
    (action : Action State Failure Value) :
    Action (Recorded State Factory Delegate) Failure Value := fun recorded =>
  let (outcome, after) := action recorded.state
  (outcome, ⟨after, recorded.exchanges ++ [exchange outcome]⟩)

theorem noting_of_run {action : Action State Failure Value} {state after : State}
    {outcome : Outcome Failure Value} (exchange : Outcome Failure Value → Exchange Factory Delegate)
    (ran : action state = (outcome, after)) (earlier : List (Exchange Factory Delegate)) :
    noting exchange action ⟨state, earlier⟩ =
      (outcome, ⟨after, earlier ++ [exchange outcome]⟩) := by
  rw [noting, ran]

end Recorded

namespace Means

variable {State Factory Delegate : Type}

/-- These means do the same and note every call. -/
def recorded (means : Means State Factory Delegate) :
    Means (Recorded State Factory Delegate) Factory Delegate where
  log entry recorded := ⟨means.log entry recorded.state, recorded.exchanges ++ [.logged entry]⟩
  load setting := Recorded.noting (.asked setting) (means.load setting)
  readToken path := Recorded.noting (.readToken path) (means.readToken path)
  lookUp := Recorded.noting .lookedUp means.lookUp
  create factory roleArn roleSessionName token :=
    Recorded.noting (.created factory roleArn roleSessionName token)
      (means.create factory roleArn roleSessionName token)
  fixed := means.fixed

/-- These are the exchanges of one choice, oldest first. -/
def exchanges (means : Means State Factory Delegate) (state : State) :
    List (Exchange Factory Delegate) :=
  (means.recorded.choose ⟨state, []⟩).2.exchanges

/-- A recorded choice ends as an unrecorded one and leaves the same state behind. -/
theorem choose_recorded (means : Means State Factory Delegate)
    (recorded : Recorded State Factory Delegate) :
    (means.recorded.choose recorded).1 = (means.choose recorded.state).1 ∧
      (means.recorded.choose recorded).2.state = (means.choose recorded.state).2 := by
  have noted {Failure Value : Type} (exchange : Outcome Failure Value → Exchange Factory Delegate)
      (action : Action State Failure Value) :
      Action.Agrees (fun recorded state => recorded.state = state) (· = ·)
        (Recorded.noting exchange action) action := by
    rintro recorded _ rfl
    exact ⟨.refl _, rfl⟩
  have agree : Means.Agree (fun recorded state => recorded.state = state) (· = ·) (· = ·)
      means.recorded means :=
    { log := by
        rintro entry recorded _ rfl
        rfl
      load := fun setting => noted _ _
      readToken := fun path => noted _ _
      lookUp := noted _ _
      create := by
        rintro factory _ rfl roleArn roleSessionName token
        exact noted _ _
      fixed := fun credentials => rfl }
  obtain ⟨alike, left⟩ := choose_agrees agree (rfl : recorded.state = recorded.state)
  exact ⟨alike.eq, left⟩

end Means

end CredentialResolution
