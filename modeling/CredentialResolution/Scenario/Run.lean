/-
This file performs the operations of a scenario one after the other.
-/

import CredentialResolution.Provider.Calls
import CredentialResolution.Scenario.Naming
import CredentialResolution.Scenario.Operation

namespace CredentialResolution

/-- Calls on the providers of a scenario are never nested as deeply as this. -/
def Scenario.nesting : Nat := 1000000

namespace Scenario.FileChange

def apply (change : FileChange) (files : FileTree) : Except SystemFault FileTree :=
  match change with
  | write path content => files.write path content
  | remove path => files.removeEntry path
  | makeDirectories path => files.makeDirectories path
  | makeLink path target => files.makeLink path target

end Scenario.FileChange

/-- Started hours count as whole ones. -/
def Credentials.hoursLeft (credentials : Credentials) (now : Instant) : Option Nat :=
  (credentials.timeToExpiry now).map fun nanoseconds =>
    (nanoseconds + 3599999999999) / 3600000000000

namespace Surroundings

open Scenario

/-- This action runs a change that also gives a value. -/
def changing {Value : Type} (change : Surroundings → Value × Surroundings) :
    Action Surroundings ResolutionError Value := fun surroundings =>
  let (value, surroundings) := change surroundings
  (.ok value, surroundings)

def discard? : Option Provider → Surroundings → Surroundings
  | none, surroundings => surroundings
  | some provider, surroundings => provider.discard surroundings

def changeFiles (change : FileChange) : Action Surroundings ResolutionError Unit :=
  fun surroundings =>
    match change.apply surroundings.files with
    | .ok files => (.ok (), { surroundings with files := files })
    | .error fault => (.panic fault.message, surroundings)

/-- The created provider is discarded after its answer, whatever that is. -/
def resolveOnce (provider : Provider) : Action Surroundings ResolutionError Credentials :=
  fun surroundings =>
    let (outcome, surroundings) := provider.resolve nesting surroundings
    (outcome, provider.discard surroundings)

def closeNow (provider : Provider) : Action Surroundings ResolutionError Unit :=
  fun surroundings =>
    match provider.close surroundings with
    | (.ok (), surroundings) => (.ok (), surroundings)
    | (.error error, surroundings) => (.error error, surroundings)

/-- The calls of several threads answer as if they came one after the other. -/
def resolveTimes (provider : Provider) : Nat → Surroundings →
    List (Outcome ResolutionError Credentials) × Surroundings
  | 0, surroundings => ([], surroundings)
  | threads + 1, surroundings =>
    let (outcome, surroundings) := provider.resolve nesting surroundings
    let (outcomes, surroundings) := resolveTimes provider threads surroundings
    (outcome :: outcomes, surroundings)

end Surroundings

namespace Scenario.Operation

open Surroundings

/-- These operations look at values and sources. -/
def inspectSettings (source : SourceBlueprint) (other : Option SourceBlueprint)
    (layout : Text.Layout) : Action Surroundings ResolutionError Reply := do
  let source ← source.build.widen
  let settings ← (LoadedSettings.load source.load).widen
  let equal ←
    match other with
    | none => pure none
    | some other => do
      let other ← other.build.widen
      let compared ← (LoadedSettings.load other.load).widen
      pure (some (decide (settings = compared)))
  return .loaded settings (settings.outline.shown layout) equal

def inspected (credentials : Credentials) (other : Option Credentials) (layout : Text.Layout)
    (now : Instant) : Reply :=
  .inspected credentials (credentials.outline.shown layout) (credentials.isExpired now)
    (credentials.timeToExpiry now).isSome (other.map fun other => decide (credentials = other))

def expiring (seconds : Int) (now : Instant) : Reply :=
  let credentials := (Credentials.basic "id" "secret").withExpiration (now.addSeconds seconds)
  .expiry (credentials.isExpired now) (credentials.hoursLeft now)

/-- Every operation ends with a reply, with an error or with a panic. -/
def perform : Operation → Action Surroundings ResolutionError Reply
  | listSettings => return .settings Setting.all
  | describeSetting setting => return .description setting
  | loadSettings source other layout => inspectSettings source other layout
  | inspectCredentials credentials other layout =>
    Action.look fun surroundings => inspected credentials other layout surroundings.clock
  | expireIn seconds => Action.look fun surroundings => expiring seconds surroundings.clock
  | inspectError error layout => return .error error (error.outline.shown layout)
  | readToken path => do
    let token ← Surroundings.readToken path
    return .text (some token)
  | changeFile change => do
    changeFiles change
    return .nothing
  | setVariable name value => do
    Action.update fun surroundings =>
      { surroundings with environment := surroundings.environment.insert name value }
    return .nothing
  | unsetVariable name => do
    Action.update fun surroundings =>
      { surroundings with environment := surroundings.environment.erase name }
    return .nothing
  | newStore name entries => do
    let position ← changing (addStore (.ofList entries))
    Action.update (nameStore name position)
    return .nothing
  | cloneStore name existing => do
    let position ← findStore existing
    Action.update (nameStore name position)
    return .nothing
  | setProperty store key value => do
    let position ← findStore store
    let earlier ← changing (Surroundings.setProperty position key value)
    return .text earlier
  | getProperty store key => do
    let position ← findStore store
    let value ← Action.look (Surroundings.getProperty position key)
    return .text value
  | removeProperty store key => do
    let position ← findStore store
    let earlier ← changing (Surroundings.removeProperty position key)
    return .text earlier
  | newSource name blueprint => do
    let source ← blueprint.build.widen
    Action.update (nameSource name source)
    return .nothing
  | loadSetting blueprint setting => do
    let source ← blueprint.build.widen
    let value ← (source.load setting).widen
    return .text value
  | getVariable blueprint name => do
    let source ← blueprint.build.widen
    let value ← (source.readVariable name).widen
    return .text value
  | newRegistry name => do
    let position ← changing addRegistry
    Action.update (nameRegistry name position)
    return .nothing
  | cloneRegistry name existing => do
    let position ← findRegistry existing
    Action.update (nameRegistry name position)
    return .nothing
  | register registry capability constructor => do
    let position ← findRegistry registry
    Action.update (Surroundings.register position capability constructor)
    return .nothing
  | unregister registry capability => do
    let position ← findRegistry registry
    let wasRegistered ← changing (Surroundings.unregister position capability)
    return .flag (some wasRegistered)
  | isRegistered registry capability => do
    let position ← findRegistry registry
    let registered ← Action.look (Surroundings.isRegistered position capability)
    return .flag (some registered)
  | lookUp registry capability save => do
    let position ← findRegistry registry
    let factory ← Surroundings.lookUp position capability
    match save with
    | none => return .nothing
    | some name => do
      Action.update (nameFactory name factory)
      return .nothing
  | create name roleArn roleSessionName token => do
    let factory ← named name fun surroundings => surroundings.names.factories.get? name
    let provider ← factory.create roleArn roleSessionName token
    let credentials ← resolveOnce provider
    return .credentials credentials
  | newProvider name blueprint => do
    let provider ← blueprint.build.widen
    let replaced ← Action.look fun surroundings => surroundings.names.providers.get? name
    Action.update (nameProvider name provider)
    Action.update (discard? replaced)
    return .nothing
  | resolve name => do
    let provider ← findProvider name
    let credentials ← provider.resolve nesting
    return .credentials credentials
  | resolveTogether name threads => do
    let provider ← findProvider name
    let outcomes ← changing (resolveTimes provider threads)
    return .together outcomes
  | close name => do
    let provider ← findProvider name
    closeNow provider
    return .nothing
  | isResolved name => do
    let provider ← findProvider name
    let resolved ← Action.look (isResolved? provider)
    return .flag resolved
  | drop name => do
    let provider ← Action.look fun surroundings => surroundings.names.providers.get? name
    Action.update (forgetProvider name)
    Action.update (discard? provider)
    return .flag (some provider.isSome)

/-- Only an answer to resolving says more than its outcome. -/
def resolvedAfter? (operation : Operation) (after : Surroundings) : Option Bool :=
  match operation with
  | resolve name =>
    (after.names.providers.get? name).bind fun provider => after.isResolved? provider
  | _ => none

/-- The events of an operation are what the journal gained by it. -/
def answer (operation : Operation) (surroundings : Surroundings) : Answer × Surroundings :=
  let (outcome, after) := operation.perform { surroundings with journal := [] }
  ({ outcome := outcome, resolved := operation.resolvedAfter? after, events := after.events },
    { after with journal := [] })

end Scenario.Operation

/-- The operations run in order, and an error or a panic does not stop the ones after it. -/
def Scenario.run : List Scenario.Operation → Surroundings → List Scenario.Answer × Surroundings
  | [], surroundings => ([], surroundings)
  | operation :: rest, surroundings =>
    let (answer, surroundings) := operation.answer surroundings
    let (answers, surroundings) := Scenario.run rest surroundings
    (answer :: answers, surroundings)

end CredentialResolution
