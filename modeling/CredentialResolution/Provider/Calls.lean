/-
This file resolves, closes and discards providers in their surroundings.
-/

import CredentialResolution.Provider.Strategy
import CredentialResolution.Surroundings.Build
import CredentialResolution.Surroundings.Load
import CredentialResolution.Surroundings.Registry

namespace CredentialResolution

namespace Surroundings

/-- A choice may load its settings in any way; its factories come from one registry. -/
def meansOf (load : Setting → Action Surroundings Empty (Option String)) (registry : Nat) :
    Means Surroundings Factory Provider where
  log := log
  load := load
  readToken := readToken
  lookUp := lookUp registry webIdentity
  create := Factory.create
  fixed := Provider.fixed

/-- A provider over settings makes its choice with its own source and registry. -/
def means (source : Source) (registry : Nat) : Means Surroundings Factory Provider :=
  meansOf source.load registry

def setScriptedDelegate (position : Nat) (delegate : ScriptedDelegate)
    (surroundings : Surroundings) : Surroundings :=
  { surroundings with
    scriptedDelegates := surroundings.scriptedDelegates.update position fun _ => delegate }

/-- A position without a delegate panics. -/
def resolveScripted (position : Nat) : Action Surroundings ResolutionError Credentials :=
  fun surroundings =>
    match surroundings.scriptedDelegates.get? position with
    | none => (.panic "there is no such delegate", surroundings)
    | some delegate =>
      let (outcome, outcomes) := delegate.outcomes.take
      (outcome,
        (surroundings.setScriptedDelegate position { delegate with outcomes := outcomes }).record
          (.delegateResolved delegate.label))

def closeScripted (position : Nat) (surroundings : Surroundings) :
    Except ResolutionError Unit × Surroundings :=
  match surroundings.scriptedDelegates.get? position with
  | none => (.ok (), surroundings)
  | some delegate =>
    let (result, closes) := delegate.closes.take
    (result,
      (surroundings.setScriptedDelegate position { delegate with closes := closes }).record
        (.delegateClosed delegate.label))

end Surroundings

namespace Numbered

variable {Delegate : Type}

/-- Every chosen delegate gets the next serial number. -/
def choose (choice : Action Surroundings ResolutionError Delegate) :
    Action Surroundings ResolutionError (Numbered Delegate) := do
  let delegate ← choice
  fun surroundings =>
    (.ok ⟨surroundings.chosenCount, delegate⟩,
      { surroundings with chosenCount := surroundings.chosenCount + 1 }.record
        (.chosen surroundings.chosenCount))

def resolve (resolveDelegate : Resolving Delegate Surroundings) :
    Resolving (Numbered Delegate) Surroundings := fun numbered surroundings =>
  resolveDelegate numbered.delegate (surroundings.record (.consulted numbered.serial))

def close (closeDelegate : Closing Delegate Surroundings) :
    Closing (Numbered Delegate) Surroundings := fun numbered surroundings =>
  closeDelegate numbered.delegate (surroundings.record (.released numbered.serial))

end Numbered

namespace SingleProvider

/-- The given number bounds how deeply the calls of providers over settings may be nested; one that
is nested any deeper panics before it chooses. -/
def resolve : Nat → Resolving SingleProvider Surroundings
  | _, .fixed credentials => Action.pure credentials
  | _, .scripted position => Surroundings.resolveScripted position
  | 0, .settings _ _ _ => Action.panicked "providers are nested too deeply"
  | nesting + 1, .settings source registry memo =>
    (Surroundings.memo memo).resolve
      (Numbered.choose (Surroundings.means source registry).choose)
      (Numbered.resolve (ChainTree.resolve (resolve nesting) Surroundings.log))

/-- Only a provider over settings releases something when it is discarded, and it releases what
closing it would release. -/
def discardBy (close : Closing SingleProvider Surroundings) (provider : SingleProvider)
    (surroundings : Surroundings) : Surroundings :=
  match provider with
  | .settings _ _ _ => (close provider surroundings).2
  | _ => surroundings

/-- Closing a provider over settings releases the delegate in its memo. The given number is at
least the number of memos that hold a delegate, and each release leaves one fewer, so nothing is
left to release at zero. -/
def close : Nat → Closing SingleProvider Surroundings
  | _, .fixed _, surroundings => (.ok (), surroundings)
  | _, .scripted position, surroundings => surroundings.closeScripted position
  | 0, .settings _ _ _, surroundings => (.ok (), surroundings)
  | filled + 1, .settings _ _ memo, surroundings =>
    (.ok (), (Surroundings.memo memo).release
      (Numbered.close (ChainTree.close (close filled) Surroundings.log))
      (fun numbered => numbered.delegate.discard (discardBy (close filled)))
      Surroundings.log surroundings)

end SingleProvider

namespace Provider

def resolve (nesting : Nat) : Resolving Provider Surroundings :=
  ChainTree.resolve (SingleProvider.resolve nesting) Surroundings.log

/-- A provider over settings resolves through its memo, one level deeper. -/
theorem resolve_settings (nesting : Nat) (source : Source) (registry memo : Nat) :
    Provider.resolve (nesting + 1) (.single (.settings source registry memo)) =
      (Surroundings.memo memo).resolve
        (Numbered.choose (Surroundings.means source registry).choose)
        (Numbered.resolve (Provider.resolve nesting)) := by
  rw [Provider.resolve, ChainTree.resolve, SingleProvider.resolve]
  rfl

def close : Closing Provider Surroundings := fun provider surroundings =>
  ChainTree.close (SingleProvider.close surroundings.memos.count) Surroundings.log provider
    surroundings

def discard (provider : Provider) (surroundings : Surroundings) : Surroundings :=
  ChainTree.discard (SingleProvider.discardBy (SingleProvider.close surroundings.memos.count))
    provider surroundings

end Provider

end CredentialResolution
