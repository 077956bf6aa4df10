/-
This file loads settings from sources and reads token files.
-/

import CredentialResolution.Surroundings.Properties

namespace CredentialResolution

namespace Surroundings

/-- A variable whose bytes are not a text counts as unset. -/
def readVariable (name : String) : Action Surroundings Empty (Option String) :=
  fun surroundings =>
    match surroundings.environment.get? name with
    | none => (.ok none, surroundings)
    | some bytes =>
      match bytes.text? with
      | some text => (.ok (some text), surroundings)
      | none => (.ok none, surroundings.log (.notUnicode name))

def takeScripted (position : Nat) (setting : Setting) :
    Action Surroundings Empty (Option String) := fun surroundings =>
  match surroundings.scriptedSources.get? position with
  | none => (.ok none, surroundings)
  | some source =>
    let (outcome, source) := source.take setting
    (outcome,
      { surroundings with
        scriptedSources := surroundings.scriptedSources.update position fun _ => source })

/-- The token is the content of the file, unchanged. -/
def readToken (path : Path) : Action Surroundings ResolutionError String := fun surroundings =>
  if path.isAbsolute then
    let surroundings := surroundings.log (.readingToken path)
    match surroundings.files.read path with
    | .error failure => (.error (.file path failure), surroundings)
    | .ok content =>
      match content.text? with
      | none => (.error (.file path .notUtf8), surroundings)
      | some token => (.ok token, surroundings)
  else (.error (.invalidPath path), surroundings)

end Surroundings

namespace Source

/-- Only sources of variables know any variable. -/
def readVariable (source : Source) (name : String) : Action Surroundings Empty (Option String) :=
  match source with
  | fixedVariables entries => Action.pure (entries.get? name)
  | process => Surroundings.readVariable name
  | properties _ => Action.pure none
  | scripted _ => Action.pure none

/-- Every kind of source reports a load before the value is read. -/
def load (source : Source) (setting : Setting) : Action Surroundings Empty (Option String) :=
  match source with
  | fixedVariables entries => do
    Action.update (Surroundings.log (.loadingVariable setting.environmentVariable))
    (fixedVariables entries).readVariable setting.environmentVariable
  | process => do
    Action.update (Surroundings.log (.loadingVariable setting.environmentVariable))
    process.readVariable setting.environmentVariable
  | properties store => do
    Action.update (Surroundings.log (.loadingProperty setting.property))
    Action.look (Surroundings.getProperty store setting.property)
  | scripted position => do
    Action.update (Surroundings.record (.loaded setting))
    Surroundings.takeScripted position setting

end Source

end CredentialResolution
