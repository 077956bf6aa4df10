/-
This file holds prepared outcomes that are taken one per call.
-/

namespace CredentialResolution

/-- The outcomes are taken in order and the last one repeats. -/
inductive Script (Entry : Type) where
  | always (entry : Entry)
  | next (entry : Entry) (rest : Script Entry)

namespace Script

variable {Entry : Type}

def ofList (first : Entry) : List Entry → Script Entry
  | [] => .always first
  | second :: rest => .next first (ofList second rest)

/-- This function gives the outcome of a call and the script of the calls after it. -/
def take : Script Entry → Entry × Script Entry
  | .always entry => (entry, .always entry)
  | .next entry rest => (entry, rest)

end Script

end CredentialResolution
