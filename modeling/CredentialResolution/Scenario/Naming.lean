/-
This file gives names to stores, registries, sources, factories and providers and finds them again.
-/

import CredentialResolution.Surroundings.Build

namespace CredentialResolution.Surroundings

def findStore (name : String) : Action Surroundings ResolutionError Nat :=
  named name fun surroundings => surroundings.storeNamed? name

def findRegistry (name : String) : Action Surroundings ResolutionError Nat :=
  named name fun surroundings => surroundings.registryNamed? name

def findProvider (name : String) : Action Surroundings ResolutionError Provider :=
  named name fun surroundings => surroundings.names.providers.get? name

def nameStore (name : String) (position : Nat) (surroundings : Surroundings) : Surroundings :=
  { surroundings with
    names := { surroundings.names with stores := surroundings.names.stores.insert name position } }

def nameRegistry (name : String) (position : Nat) (surroundings : Surroundings) : Surroundings :=
  { surroundings with
    names :=
      { surroundings.names with registries := surroundings.names.registries.insert name position } }

def nameSource (name : String) (source : Source) (surroundings : Surroundings) : Surroundings :=
  { surroundings with
    names := { surroundings.names with sources := surroundings.names.sources.insert name source } }

def nameFactory (name : String) (factory : Factory) (surroundings : Surroundings) : Surroundings :=
  { surroundings with
    names :=
      { surroundings.names with factories := surroundings.names.factories.insert name factory } }

def nameProvider (name : String) (provider : Provider) (surroundings : Surroundings) :
    Surroundings :=
  { surroundings with
    names :=
      { surroundings.names with providers := surroundings.names.providers.insert name provider } }

def forgetProvider (name : String) (surroundings : Surroundings) : Surroundings :=
  { surroundings with
    names := { surroundings.names with providers := surroundings.names.providers.erase name } }

end CredentialResolution.Surroundings
