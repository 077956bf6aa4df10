/-
This file holds the providers that are not chains.
-/

import CredentialResolution.Provider.Chain
import CredentialResolution.Script
import CredentialResolution.Source

namespace CredentialResolution

/-- A scripted delegate has prepared outcomes for being resolved and for being closed. -/
structure ScriptedDelegate where
  label : String
  outcomes : Script (Outcome ResolutionError Credentials)
  closes : Script (Except ResolutionError Unit)

/-- A serial number tells a chosen delegate from every other one. -/
structure Numbered (Delegate : Type) where
  serial : Nat
  delegate : Delegate

/-- What changes while a provider is used stands elsewhere, at the position given here, so every
copy of a provider shares it. -/
inductive SingleProvider where
  | fixed (credentials : Credentials)
  | scripted (position : Nat)
  | settings (source : Source) (registry memo : Nat)

abbrev Provider : Type := ChainTree SingleProvider

def Provider.fixed (credentials : Credentials) : Provider :=
  .single (.fixed credentials)

/-- The registry and the property store that the whole process shares stand first. -/
def processWide : Nat := 0

end CredentialResolution
