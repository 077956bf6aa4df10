/-
This file holds the errors of resolving credentials, their texts and their causes.
-/

import CredentialResolution.File.Failure
import CredentialResolution.File.Path
import CredentialResolution.Setting

namespace CredentialResolution

/-- A construction fails with a plain text or because of another error. -/
inductive ResolutionError where
  | invalidPath (path : Path)
  | file (path : Path) (failure : FileFailure)
  | missingDependency (capability : String)
  | constructionText (text : String)
  | construction (cause : ResolutionError)
  | missingCredential (setting : Setting)
  | provider (text : String)
  deriving DecidableEq

/-- This is what a constructor gives when it constructs nothing. -/
inductive ConstructionCause where
  | text (text : String)
  | error (error : ResolutionError)
  deriving DecidableEq

namespace ResolutionError

def ofCause : ConstructionCause → ResolutionError
  | .text text => constructionText text
  | .error error => construction error

def constructionPreamble : String :=
  "failed to construct a web identity token credentials provider: "

def message : ResolutionError → String
  | invalidPath path =>
    "web identity token file path must be an absolute file path: " ++ path.display
  | file path failure =>
    "cannot read web identity token file " ++ path.display ++ ": " ++ failure.message
  | missingDependency capability =>
    "web identity tokens require the companion token-exchange module to be present " ++
      "(nothing registered for '" ++ capability ++ "')"
  | constructionText text => constructionPreamble ++ text
  | construction cause => constructionPreamble ++ cause.message
  | missingCredential setting =>
    "unable to load credentials from system settings. " ++ setting.description ++
      " must be specified either via environment variable (" ++ setting.environmentVariable ++
      ") or system property (" ++ setting.property ++ ")"
  | provider text => "credentials provider error: " ++ text

/-- These are the texts of what lies beneath the error, outermost first. -/
def causes : ResolutionError → List String
  | file _ failure => [failure.message]
  | constructionText text => [text]
  | construction cause => cause.message :: cause.causes
  | _ => []

def missingSetting? : ResolutionError → Option Setting
  | missingCredential setting => some setting
  | _ => none

/-- No error goes away by trying again at once. -/
def isRetryable (_ : ResolutionError) : Bool := false

def outline : ResolutionError → Text.Outline
  | invalidPath path => .applied "InvalidPath" (.word path.quoted)
  | file path failure =>
    .record "Io" (.field "path" (.word path.quoted) (.field "source" failure.outline .done))
  | missingDependency capability => .applied "MissingDependency" (.word (Text.quoted capability))
  | constructionText text => .applied "Construction" (.word (Text.quoted text))
  | construction cause => .applied "Construction" cause.outline
  | missingCredential setting =>
    .record "MissingCredential" (.field "setting" (.word setting.name) .done)
  | provider text => .applied "Provider" (.word (Text.quoted text))

end ResolutionError

end CredentialResolution
