/-
This file chooses one way to credentials from the loaded settings.
-/

import CredentialResolution.Event
import CredentialResolution.LoadedSettings

namespace CredentialResolution

/-- A choice is made with these means and no others. -/
structure Means (State Factory Delegate : Type) where
  log : LogEntry → State → State
  load : Setting → Action State Empty (Option String)
  readToken : Path → Action State ResolutionError String
  lookUp : Action State ResolutionError Factory
  create : Factory → (roleArn : String) → (roleSessionName : Option String) → (token : String) →
    Action State ResolutionError Delegate
  fixed : Credentials → Delegate

namespace Means

variable {State Factory Delegate : Type}

/-- The token is read before the factory is looked up, and the factory creates the delegate. -/
def exchangeToken (means : Means State Factory Delegate) (roleArn tokenFile : String)
    (roleSessionName : Option String) : Action State ResolutionError Delegate := do
  Action.update (means.log (.resolvingWebIdentity roleArn tokenFile))
  let token ← means.readToken (Path.ofText tokenFile)
  let factory ← means.lookUp
  means.create factory roleArn roleSessionName token

/-- The delegate is fixed to session credentials if there is a session token and to basic
credentials otherwise. -/
def useKeys (means : Means State Factory Delegate) (accessKeyId secretAccessKey : String)
    (sessionToken : Option String) : Action State ResolutionError Delegate :=
  match sessionToken with
  | some sessionToken => do
    Action.update (means.log .resolvedSession)
    return means.fixed (.session accessKeyId secretAccessKey sessionToken)
  | none => do
    Action.update (means.log .resolvedBasic)
    return means.fixed (.basic accessKeyId secretAccessKey)

/-- Both keys are required; a token file together with a role comes before the keys. -/
def chooseFrom (means : Means State Factory Delegate) (settings : LoadedSettings) :
    Action State ResolutionError Delegate :=
  match settings.accessKeyId, settings.secretAccessKey with
  | none, _ => Action.fail (.missingCredential .accessKeyId)
  | some _, none => Action.fail (.missingCredential .secretAccessKey)
  | some accessKeyId, some secretAccessKey =>
    match settings.webIdentityTokenFile, settings.roleArn with
    | some tokenFile, some roleArn =>
      means.exchangeToken roleArn tokenFile settings.roleSessionName
    | _, _ => means.useKeys accessKeyId secretAccessKey settings.sessionToken

/-- All settings are loaded before anything else happens. -/
def choose (means : Means State Factory Delegate) : Action State ResolutionError Delegate := do
  let settings ← (LoadedSettings.load means.load).widen
  means.chooseFrom settings

end Means

end CredentialResolution
