/-
This file holds descriptions of sources and providers from which new ones are built.
-/

import CredentialResolution.Provider.Single

namespace CredentialResolution

inductive SourceBlueprint where
  | fixedVariables (entries : List (String × String))
  | process
  | properties (entries : List (String × String))
  | store (name : String)
  | scripted (source : ScriptedSource)
  | named (name : String)

/-- A registry that is not named is the one that the whole process shares. -/
inductive ProviderBlueprint where
  | fixed (credentials : Credentials)
  | scripted (delegate : ScriptedDelegate)
  | settings (source : SourceBlueprint) (registry : Option String)
  | chain (members : List ProviderBlueprint)
  | defaultChain
  | named (name : String)

end CredentialResolution
