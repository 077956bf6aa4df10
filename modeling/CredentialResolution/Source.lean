/-
This file holds the sources that settings are read from.
-/

import CredentialResolution.Bindings
import CredentialResolution.Outcome
import CredentialResolution.Script
import CredentialResolution.Setting

namespace CredentialResolution

/-- Fixed variables belong to the source; property stores and scripted sources are shared and named
by their position. -/
inductive Source where
  | fixedVariables (entries : Bindings String)
  | process
  | properties (store : Nat)
  | scripted (position : Nat)

/-- A scripted source has prepared outcomes for every setting and may panic. -/
structure ScriptedSource where
  script : Setting → Script (Outcome Empty (Option String))

/-- This function takes the next outcome for the setting and leaves the other settings alone. -/
def ScriptedSource.take (source : ScriptedSource) (setting : Setting) :
    Outcome Empty (Option String) × ScriptedSource :=
  let (outcome, rest) := (source.script setting).take
  (outcome, ⟨fun other => if other = setting then rest else source.script other⟩)

end CredentialResolution
