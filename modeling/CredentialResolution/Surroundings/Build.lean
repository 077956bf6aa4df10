/-
This file builds sources and providers from their descriptions and lets factories create providers.
-/

import CredentialResolution.Surroundings.Basic

namespace CredentialResolution

/-- This function gives what a name leads to and panics if it leads nowhere. -/
def Surroundings.named {Failure Value : Type} (name : String)
    (find? : Surroundings → Option Value) : Action Surroundings Failure Value :=
  fun surroundings =>
    match find? surroundings with
    | some value => (.ok value, surroundings)
    | none => (.panic ("nothing is named " ++ name), surroundings)

/-- This function adds something new and gives its position. -/
def Surroundings.adding {Failure : Type} (add : Surroundings → Nat × Surroundings) :
    Action Surroundings Failure Nat := fun surroundings =>
  let (position, surroundings) := add surroundings
  (.ok position, surroundings)

/-- A described store or script is built anew every time. -/
def SourceBlueprint.build : SourceBlueprint → Action Surroundings Empty Source
  | fixedVariables entries => return .fixedVariables (.ofList entries)
  | process => return .process
  | properties entries => do
    let position ← Surroundings.adding (Surroundings.addStore (.ofList entries))
    return .properties position
  | store name => do
    let position ← Surroundings.named name fun surroundings => surroundings.storeNamed? name
    return .properties position
  | scripted source => do
    let position ← Surroundings.adding (Surroundings.addScriptedSource source)
    return .scripted position
  | named name =>
    Surroundings.named name fun surroundings => surroundings.names.sources.get? name

namespace Provider

variable {Failure : Type}

/-- A new scripted provider starts its scripts from the beginning. -/
def scripted (delegate : ScriptedDelegate) : Action Surroundings Failure Provider := do
  let position ← Surroundings.adding (Surroundings.addScriptedDelegate delegate)
  return .single (.scripted position)

/-- A new provider over settings has chosen nothing yet. -/
def overSettings (source : Source) (registry : Nat) : Action Surroundings Failure Provider := do
  let memo ← Surroundings.adding Surroundings.addMemo
  return .single (.settings source registry memo)

/-- Properties come before environment variables. -/
def defaultChain : Action Surroundings Failure Provider := do
  let properties ← overSettings (.properties processWide) processWide
  let environment ← overSettings .process processWide
  return .chain [properties, environment]

end Provider

namespace ProviderBlueprint

/-- A provider over settings uses the registry of the whole process unless another one is named. -/
def findRegistry : Option String → Action Surroundings Empty Nat
  | none => return processWide
  | some name => Surroundings.named name fun surroundings => surroundings.registryNamed? name

mutual

/-- A named provider is shared and not built again. -/
def build : ProviderBlueprint → Action Surroundings Empty Provider
  | .fixed credentials => return Provider.fixed credentials
  | .scripted delegate => Provider.scripted delegate
  | .settings source registry => do
    let source ← source.build
    let registry ← findRegistry registry
    Provider.overSettings source registry
  | .chain members => do
    let members ← buildMembers members
    return .chain members
  | .defaultChain => Provider.defaultChain
  | .named name => do
    let provider ←
      Surroundings.named name fun surroundings => surroundings.names.providers.get? name
    return .shared provider

def buildMembers : List ProviderBlueprint → Action Surroundings Empty (List Provider)
  | [] => return []
  | first :: rest => do
    let first ← build first
    let rest ← buildMembers rest
    return first :: rest

end

end ProviderBlueprint

namespace Factory

/-- An echoing factory hands back what it was given, as session credentials. -/
def echoed (roleArn : String) (roleSessionName : Option String) (token : String) : Credentials :=
  .session ("ASIA-" ++ roleSessionName.getD "default-session") roleArn token

/-- A created provider is new and shared with nobody. -/
def create (factory : Factory) (roleArn : String) (roleSessionName : Option String)
    (token : String) : Action Surroundings ResolutionError Provider := do
  Action.update (Surroundings.record (.created factory.label roleArn roleSessionName token))
  match factory.creation with
  | .echo => return Provider.fixed (echoed roleArn roleSessionName token)
  | .scripted outcomes closes => Provider.scripted ⟨factory.label, outcomes, closes⟩
  | .blueprint blueprint => blueprint.build.orUnchanged.widen
  | .error error => Action.fail error
  | .panic text => Action.panicked text

end Factory

end CredentialResolution
