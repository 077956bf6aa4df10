/-
This file holds the factories that turn a role and a token into a provider, and the constructors
that a registry keeps for them.
-/

import CredentialResolution.Factory.Blueprint

namespace CredentialResolution

/-- A factory creates a provider in one of these ways. -/
inductive Creation where
  | echo
  | scripted (outcomes : Script (Outcome ResolutionError Credentials))
      (closes : Script (Except ResolutionError Unit))
  | blueprint (blueprint : ProviderBlueprint)
  | error (error : ResolutionError)
  | panic (text : String)

structure Factory where
  label : String
  creation : Creation

/-- A constructor may first remove its own registration or put another constructor in its place. -/
inductive Constructor where
  | plain (label : String) (result : Outcome ConstructionCause Creation)
  | unregistering (label : String) (result : Outcome ConstructionCause Creation)
  | replacing (label : String) (result : Outcome ConstructionCause Creation) (next : Constructor)

namespace Constructor

def label : Constructor → String
  | plain label _ => label
  | unregistering label _ => label
  | replacing label _ _ => label

def result : Constructor → Outcome ConstructionCause Creation
  | plain _ result => result
  | unregistering _ result => result
  | replacing _ result _ => result

/-- A constructor ends with a factory under its own label, with a construction error or with a
panic. -/
def outcome (constructor : Constructor) : Outcome ResolutionError Factory :=
  (constructor.result.mapError .ofCause).map fun creation => ⟨constructor.label, creation⟩

end Constructor

end CredentialResolution
