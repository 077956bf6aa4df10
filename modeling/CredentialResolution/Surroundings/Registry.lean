/-
This file registers factory constructors under capabilities and looks factories up.
-/

import CredentialResolution.Surroundings.Basic

namespace CredentialResolution.Surroundings

/-- Providers look up their factories under this capability. -/
def webIdentity : String := "web-identity-factory"

/-- The registration replaces any earlier one of the capability. -/
def register (registry : Nat) (capability : String) (constructor : Constructor)
    (surroundings : Surroundings) : Surroundings :=
  (surroundings.log (.registering capability)).updateRegistry registry fun constructors =>
    constructors.insert capability constructor

def isRegistered (registry : Nat) (capability : String) (surroundings : Surroundings) : Bool :=
  (surroundings.registry registry).contains capability

/-- This function says whether there was a registration to remove. -/
def unregister (registry : Nat) (capability : String) (surroundings : Surroundings) :
    Bool × Surroundings :=
  (surroundings.isRegistered registry capability,
    surroundings.updateRegistry registry fun constructors => constructors.erase capability)

/-- This function makes the change that a constructor makes to its own registration. -/
def react (registry : Nat) (capability : String) (constructor : Constructor)
    (surroundings : Surroundings) : Surroundings :=
  match constructor with
  | .plain _ _ => surroundings
  | .unregistering _ _ =>
    let (wasRegistered, surroundings) := surroundings.unregister registry capability
    surroundings.record (.unregistered wasRegistered)
  | .replacing _ _ next => surroundings.register registry capability next

/-- The change to the registration stays, however the constructor ends. -/
def construct (registry : Nat) (capability : String) (constructor : Constructor) :
    Action Surroundings ResolutionError Factory := fun surroundings =>
  (constructor.outcome,
    (surroundings.record (.constructed constructor.label)).react registry capability constructor)

/-- The constructor that was registered when the lookup began runs once. -/
def lookUp (registry : Nat) (capability : String) : Action Surroundings ResolutionError Factory :=
  fun surroundings =>
    match (surroundings.registry registry).get? capability with
    | none => (.error (.missingDependency capability), surroundings.log (.notRegistered capability))
    | some constructor => construct registry capability constructor surroundings

end CredentialResolution.Surroundings
