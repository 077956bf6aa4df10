/-
This file holds the operations of a scenario and what they answer.
-/

import CredentialResolution.Factory.Basic
import CredentialResolution.LoadedSettings

namespace CredentialResolution.Scenario

inductive FileChange where
  | write (path : Path) (content : Bytes)
  | remove (path : Path)
  | makeDirectories (path : Path)
  | makeLink (path target : Path)

/-- Stores, registries, sources, factories and providers go by names that the scenario gives. -/
inductive Operation where
  | listSettings
  | describeSetting (setting : Setting)
  | loadSettings (source : SourceBlueprint) (other : Option SourceBlueprint) (layout : Text.Layout)
  | inspectCredentials (credentials : Credentials) (other : Option Credentials)
      (layout : Text.Layout)
  | expireIn (seconds : Int)
  | inspectError (error : ResolutionError) (layout : Text.Layout)
  | readToken (path : Path)
  | changeFile (change : FileChange)
  | setVariable (name : String) (value : Bytes)
  | unsetVariable (name : String)
  | newStore (name : String) (entries : List (String × String))
  | cloneStore (name existing : String)
  | setProperty (store key value : String)
  | getProperty (store key : String)
  | removeProperty (store key : String)
  | newSource (name : String) (source : SourceBlueprint)
  | loadSetting (source : SourceBlueprint) (setting : Setting)
  | getVariable (source : SourceBlueprint) (name : String)
  | newRegistry (name : String)
  | cloneRegistry (name existing : String)
  | register (registry capability : String) (constructor : Constructor)
  | unregister (registry capability : String)
  | isRegistered (registry capability : String)
  | lookUp (registry capability : String) (save : Option String)
  | create (factory roleArn : String) (roleSessionName : Option String) (token : String)
  | newProvider (name : String) (blueprint : ProviderBlueprint)
  | resolve (provider : String)
  | resolveTogether (provider : String) (threads : Nat)
  | close (provider : String)
  | isResolved (provider : String)
  | drop (provider : String)

inductive Reply where
  | nothing
  | flag (value : Option Bool)
  | text (value : Option String)
  | settings (settings : List Setting)
  | description (setting : Setting)
  | loaded (settings : LoadedSettings) (shown : String) (equal : Option Bool)
  | credentials (credentials : Credentials)
  | inspected (credentials : Credentials) (shown : String) (expired hasTimeLeft : Bool)
      (equal : Option Bool)
  | expiry (expired : Bool) (hoursLeft : Option Nat)
  | error (error : ResolutionError) (shown : String)
  | together (outcomes : List (Outcome ResolutionError Credentials))

/-- An answer to resolving also says whether a provider over settings has chosen a delegate. -/
structure Answer where
  outcome : Outcome ResolutionError Reply
  resolved : Option Bool
  events : List Event

/-- Log entries are shown only in a traced scenario, and the life of delegates never is. -/
def isShown (traced : Bool) : Event → Bool
  | .logged _ => traced
  | .chosen _ => false
  | .consulted _ => false
  | .released _ => false
  | _ => true

end CredentialResolution.Scenario
