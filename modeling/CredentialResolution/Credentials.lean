/-
This file holds credentials, their expiration and the text that hides their secrets.
-/

import CredentialResolution.Text.Outline
import CredentialResolution.Text.Quoted
import CredentialResolution.Time.CivilDate

namespace CredentialResolution

structure Credentials where
  accessKeyId : String
  secretAccessKey : String
  sessionToken : Option String
  expiration : Option Instant
  deriving DecidableEq

namespace Credentials

/-- Basic credentials are an access key pair alone. -/
def basic (accessKeyId secretAccessKey : String) : Credentials where
  accessKeyId := accessKeyId
  secretAccessKey := secretAccessKey
  sessionToken := none
  expiration := none

/-- Session credentials carry a session token, which may be empty. -/
def session (accessKeyId secretAccessKey sessionToken : String) : Credentials :=
  { basic accessKeyId secretAccessKey with sessionToken := some sessionToken }

def withExpiration (credentials : Credentials) (expiration : Instant) : Credentials :=
  { credentials with expiration := some expiration }

def isSession (credentials : Credentials) : Bool :=
  credentials.sessionToken.isSome

/-- Credentials expire at the instant of their expiration. -/
def isExpired (credentials : Credentials) (now : Instant) : Bool :=
  match credentials.expiration with
  | none => false
  | some expiration => !now.before expiration

/-- The time to expiry is counted in nanoseconds and is never zero. -/
def timeToExpiry (credentials : Credentials) (now : Instant) : Option Nat :=
  match credentials.expiration with
  | none => none
  | some expiration =>
    let difference := now.nanosecondsBetween expiration
    if 0 < difference then some difference.toNat else none

end Credentials

/-- This word stands in place of every secret. -/
def Text.redacted : Text.Outline := .word (Text.quoted "****")

def Text.shownOptional (value : Option String) : Text.Outline :=
  .optional (value.map fun text => .word (Text.quoted text))

def Text.redactedOptional (value : Option String) : Text.Outline :=
  .optional (value.map fun _ => Text.redacted)

def Credentials.outline (credentials : Credentials) : Text.Outline :=
  .record "Credentials"
    (.field "access_key_id" (.word (Text.quoted credentials.accessKeyId))
      (.field "secret_access_key" Text.redacted
        (.field "session_token" (Text.redactedOptional credentials.sessionToken)
          (.field "expiration"
            (.optional (credentials.expiration.map fun instant => .word instant.shown)) .done))))

end CredentialResolution
