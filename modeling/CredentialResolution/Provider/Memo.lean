/-
This file holds the memo of a provider that chooses a delegate once and keeps it until it is
released.
-/

import CredentialResolution.Provider.Chain

namespace CredentialResolution

/-- A memo lies somewhere in a state, where it can be looked at and replaced. -/
structure Memo (Delegate State : Type) where
  held : State → Option Delegate
  keep : Option Delegate → State → State

namespace Memo

variable {Delegate State : Type}

/-- This part of resolving runs under the lock: it gives the delegate in the memo, or chooses one
and puts it there. -/
def obtain (memo : Memo Delegate State) (choose : Action State ResolutionError Delegate) :
    Action State ResolutionError Delegate := do
  match ← Action.look memo.held with
  | some delegate => return delegate
  | none =>
    let delegate ← choose
    Action.update (memo.keep (some delegate))
    return delegate

/-- This part of releasing runs under the lock: it gives what the memo held and leaves it empty. -/
def takeOut (memo : Memo Delegate State) (state : State) : Option Delegate × State :=
  (memo.held state, memo.keep none state)

/-- The delegate is resolved outside the lock and stays in the memo, however it answers. -/
def resolve (memo : Memo Delegate State) (choose : Action State ResolutionError Delegate)
    (resolveDelegate : Resolving Delegate State) : Action State ResolutionError Credentials := do
  let delegate ← memo.obtain choose
  resolveDelegate delegate

section Resolve

variable {memo : Memo Delegate State} {choose : Action State ResolutionError Delegate}
  {state after : State}

theorem obtain_of_held {delegate : Delegate} (held : memo.held state = some delegate) :
    memo.obtain choose state = (.ok delegate, state) := by
  rw [obtain, Action.bind_apply]
  simp only [Action.look, held]
  rfl

theorem obtain_of_empty (empty : memo.held state = none) :
    memo.obtain choose state =
      (choose >>= fun delegate => Action.update (memo.keep (some delegate)) >>= fun _ =>
        pure delegate) state := by
  rw [obtain, Action.bind_apply]
  simp only [Action.look, empty]

/-- What a memo holds is resolved at once, and nothing is chosen. -/
theorem resolve_of_held {delegate : Delegate} (held : memo.held state = some delegate)
    (resolveDelegate : Resolving Delegate State) :
    memo.resolve choose resolveDelegate state = resolveDelegate delegate state := by
  rw [resolve, Action.bind_of_ok (obtain_of_held held)]

/-- A chosen delegate is put into the memo before it is resolved. -/
theorem resolve_of_chosen {delegate : Delegate} (empty : memo.held state = none)
    (chosen : choose state = (.ok delegate, after)) (resolveDelegate : Resolving Delegate State) :
    memo.resolve choose resolveDelegate state =
      resolveDelegate delegate (memo.keep (some delegate) after) := by
  have obtained : memo.obtain choose state = (.ok delegate, memo.keep (some delegate) after) := by
    rw [obtain_of_empty empty, Action.bind_of_ok chosen]
    rfl
  rw [resolve, Action.bind_of_ok obtained]

/-- A failed choice leaves the memo alone, and nothing is resolved. -/
theorem resolve_of_failed {error : ResolutionError} (empty : memo.held state = none)
    (failed : choose state = (.error error, after)) (resolveDelegate : Resolving Delegate State) :
    memo.resolve choose resolveDelegate state = (.error error, after) := by
  apply Action.bind_of_error
  rw [obtain_of_empty empty]
  exact Action.bind_of_error failed

theorem resolve_of_panicked {text : String} (empty : memo.held state = none)
    (panicked : choose state = (.panic text, after)) (resolveDelegate : Resolving Delegate State) :
    memo.resolve choose resolveDelegate state = (.panic text, after) := by
  apply Action.bind_of_panic
  rw [obtain_of_empty empty]
  exact Action.bind_of_panic panicked

end Resolve

/-- The delegate is closed and discarded outside the lock; a failure to close it is only logged. -/
def release (memo : Memo Delegate State) (closeDelegate : Closing Delegate State)
    (discardDelegate : Delegate → State → State) (log : LogEntry → State → State)
    (state : State) : State :=
  match memo.takeOut state with
  | (none, state) => state
  | (some delegate, state) =>
    let (result, state) := closeDelegate delegate state
    discardDelegate delegate (ChainTree.ignoring log .delegateCloseFailed result state)

end Memo

end CredentialResolution
