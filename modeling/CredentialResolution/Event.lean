/-
This file holds what a journal records: calls of outside parts, log entries, and the life of chosen
delegates.
-/

import CredentialResolution.Error

namespace CredentialResolution

inductive LogLevel where
  | debug
  | trace
  deriving DecidableEq

def LogLevel.name : LogLevel → String
  | .debug => "DEBUG"
  | .trace => "TRACE"

inductive LogEntry where
  | registering (capability : String)
  | notRegistered (capability : String)
  | readingToken (path : Path)
  | resolvingWebIdentity (roleArn tokenFile : String)
  | resolvedSession
  | resolvedBasic
  | delegateCloseFailed (error : ResolutionError)
  | memberFailed (error : ResolutionError)
  | memberCloseFailed (error : ResolutionError)
  | notUnicode (name : String)
  | loadingVariable (name : String)
  | loadingProperty (name : String)
  deriving DecidableEq

namespace LogEntry

def level : LogEntry → LogLevel
  | loadingVariable _ => .trace
  | loadingProperty _ => .trace
  | _ => .debug

def message : LogEntry → String
  | registering _ => "registering credentials provider factory"
  | notRegistered _ => "no credentials provider factory registered"
  | readingToken _ => "reading web identity token file"
  | resolvingWebIdentity _ _ => "resolving credentials from web identity token"
  | resolvedSession => "resolved session credentials from system settings"
  | resolvedBasic => "resolved basic credentials from system settings"
  | delegateCloseFailed _ => "ignoring failure to close delegate credentials provider"
  | memberFailed _ => "credentials provider in chain failed"
  | memberCloseFailed _ => "ignoring failure to close chained provider"
  | notUnicode _ => "ignoring non-unicode environment variable"
  | loadingVariable _ => "loading setting from environment"
  | loadingProperty _ => "loading setting from properties"

/-- The fields are pairs of a name and a shown value. -/
def fields : LogEntry → List (String × String)
  | registering capability => [("capability", capability)]
  | notRegistered capability => [("capability", capability)]
  | readingToken path => [("path", path.display)]
  | resolvingWebIdentity roleArn tokenFile =>
    [("role_arn", roleArn), ("token_file", tokenFile)]
  | resolvedSession => []
  | resolvedBasic => []
  | delegateCloseFailed error => [("error", error.message)]
  | memberFailed error => [("error", error.message)]
  | memberCloseFailed error => [("error", error.message)]
  | notUnicode name => [("variable", name)]
  | loadingVariable name => [("variable", name)]
  | loadingProperty name => [("property", name)]

end LogEntry

/-- A delegate is chosen once, may be consulted many times and is released once; its serial number
tells it from every other delegate. -/
inductive Event where
  | loaded (setting : Setting)
  | constructed (label : String)
  | unregistered (wasRegistered : Bool)
  | created (label roleArn : String) (roleSessionName : Option String) (token : String)
  | delegateResolved (label : String)
  | delegateClosed (label : String)
  | logged (entry : LogEntry)
  | chosen (serial : Nat)
  | consulted (serial : Nat)
  | released (serial : Nat)
  deriving DecidableEq

end CredentialResolution
