/-
This file holds the settings after loading: trimmed, and absent when nothing is left.
-/

import CredentialResolution.Credentials
import CredentialResolution.Outcome
import CredentialResolution.Setting
import CredentialResolution.Text.Blank

namespace CredentialResolution

structure LoadedSettings where
  accessKeyId : Option String
  secretAccessKey : Option String
  sessionToken : Option String
  roleArn : Option String
  roleSessionName : Option String
  webIdentityTokenFile : Option String
  deriving DecidableEq

namespace LoadedSettings

def absent : LoadedSettings := ⟨none, none, none, none, none, none⟩

/-- A value made only of blank characters counts as absent. -/
def normalize (value : Option String) : Option String :=
  (value.map Text.trim).filter fun text => text ≠ ""

def value (settings : LoadedSettings) : Setting → Option String
  | .accessKeyId => settings.accessKeyId
  | .secretAccessKey => settings.secretAccessKey
  | .sessionToken => settings.sessionToken
  | .roleArn => settings.roleArn
  | .roleSessionName => settings.roleSessionName
  | .webIdentityTokenFile => settings.webIdentityTokenFile

/-- Every setting is loaded once, in the order of all settings. -/
def load {State Failure : Type} (loadSetting : Setting → Action State Failure (Option String)) :
    Action State Failure LoadedSettings := do
  let accessKeyId ← loadSetting .accessKeyId
  let secretAccessKey ← loadSetting .secretAccessKey
  let sessionToken ← loadSetting .sessionToken
  let roleArn ← loadSetting .roleArn
  let roleSessionName ← loadSetting .roleSessionName
  let webIdentityTokenFile ← loadSetting .webIdentityTokenFile
  return {
    accessKeyId := normalize accessKeyId
    secretAccessKey := normalize secretAccessKey
    sessionToken := normalize sessionToken
    roleArn := normalize roleArn
    roleSessionName := normalize roleSessionName
    webIdentityTokenFile := normalize webIdentityTokenFile }

def outline (settings : LoadedSettings) : Text.Outline :=
  .record "ResolvedSettings"
    (.field "access_key_id" (Text.shownOptional settings.accessKeyId)
      (.field "secret_access_key" (Text.redactedOptional settings.secretAccessKey)
        (.field "session_token" (Text.redactedOptional settings.sessionToken)
          (.field "role_arn" (Text.shownOptional settings.roleArn)
            (.field "role_session_name" (Text.shownOptional settings.roleSessionName)
              (.field "web_identity_token_file" (Text.shownOptional settings.webIdentityTokenFile)
                .done))))))

end LoadedSettings

end CredentialResolution
