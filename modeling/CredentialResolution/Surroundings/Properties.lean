/-
This file sets, reads and removes the properties of a store.
-/

import CredentialResolution.Surroundings.Basic

namespace CredentialResolution.Surroundings

/-- This function sets a property and gives its earlier value. -/
def setProperty (store : Nat) (key value : String) (surroundings : Surroundings) :
    Option String × Surroundings :=
  ((surroundings.store store).get? key,
    surroundings.updateStore store fun entries => entries.insert key value)

def getProperty (store : Nat) (key : String) (surroundings : Surroundings) : Option String :=
  (surroundings.store store).get? key

/-- This function removes a property and gives its earlier value. -/
def removeProperty (store : Nat) (key : String) (surroundings : Surroundings) :
    Option String × Surroundings :=
  ((surroundings.store store).get? key,
    surroundings.updateStore store fun entries => entries.erase key)

end CredentialResolution.Surroundings
