/-
This file follows an error down to what lies innermost in it. The texts met on the way are its
causes; each of them ends with the next one, and the text of the error ends with the first.
-/

import CredentialResolution.Error
import Mathlib.Data.List.Chain

namespace CredentialResolution

/-- An error may lie on a failure of reading a file, on a plain text or on another error. -/
inductive Fault where
  | ofFile (failure : FileFailure)
  | ofText (text : String)
  | ofError (error : ResolutionError)

namespace Fault

def message : Fault → String
  | ofFile failure => failure.message
  | ofText text => text
  | ofError error => error.message

/-- Only errors about files and constructions lie on something else. -/
def source? : Fault → Option Fault
  | ofError (.file _ failure) => some (ofFile failure)
  | ofError (.constructionText text) => some (ofText text)
  | ofError (.construction cause) => some (ofError cause)
  | _ => none

def isFileError : Fault → Bool
  | ofError (.file _ _) => true
  | _ => false

/-- Source after source lies beneath the fault until one has no source. -/
inductive Over : Fault → List Fault → Prop
  | nothing {fault : Fault} (last : fault.source? = none) : Over fault []
  | next {fault source : Fault} {deeper : List Fault} (lies : fault.source? = some source)
      (continued : Over source deeper) : Over fault (source :: deeper)

end Fault

/-- The text consists of any front and the ending. -/
def EndsWith (text ending : String) : Prop :=
  ∃ front, text = front ++ ending

namespace ResolutionError

/-- The number of constructions around what lies innermost. -/
def layers : ResolutionError → Nat
  | constructionText _ => 1
  | construction cause => cause.layers + 1
  | _ => 0

/-- This is what the innermost construction failed with, or an error that is no construction. -/
def innermost : ResolutionError → Fault
  | constructionText text => .ofText text
  | construction cause => cause.innermost
  | error => .ofError error

/-- These faults lie beneath the error, outermost first. -/
def beneath : ResolutionError → List Fault
  | file _ failure => [.ofFile failure]
  | constructionText text => [.ofText text]
  | construction cause => .ofError cause :: cause.beneath
  | _ => []

/-- Following the sources leads through exactly these faults. -/
theorem over_iff (error : ResolutionError) (faults : List Fault) :
    (Fault.ofError error).Over faults ↔ faults = error.beneath := by
  have bottom {fault : Fault} (last : fault.source? = none) (faults : List Fault) :
      fault.Over faults ↔ faults = [] := by
    constructor
    · rintro (_ | ⟨source, -⟩)
      · rfl
      · rw [last] at source
        cases source
    · rintro rfl
      exact .nothing last
  have step {fault next : Fault} (source : fault.source? = some next) {deeper : List Fault}
      (overDeeper : ∀ faults, next.Over faults ↔ faults = deeper) (faults : List Fault) :
      fault.Over faults ↔ faults = next :: deeper := by
    constructor
    · rintro (last | ⟨found, rest⟩)
      · rw [source] at last
        cases last
      · rw [source] at found
        cases found
        rw [(overDeeper _).mp rest]
    · rintro rfl
      exact .next source ((overDeeper deeper).mpr rfl)
  induction error generalizing faults with
  | file path failure => exact step rfl (bottom rfl) faults
  | constructionText text => exact step rfl (bottom rfl) faults
  | construction cause inductionHypothesis => exact step rfl inductionHypothesis faults
  | invalidPath | missingDependency | missingCredential | provider => exact bottom rfl faults

theorem causes_eq_map_beneath (error : ResolutionError) :
    error.causes = error.beneath.map Fault.message := by
  induction error with
  | construction cause inductionHypothesis =>
    rw [causes, inductionHypothesis]
    rfl
  | _ => rfl

/-- Each text ends with the one below it. -/
theorem isChain_causes (error : ResolutionError) :
    (error.message :: error.causes).IsChain EndsWith := by
  induction error with
  | file path failure => exact .cons_cons ⟨_, rfl⟩ (.singleton _)
  | constructionText text => exact .cons_cons ⟨constructionPreamble, rfl⟩ (.singleton _)
  | construction cause inductionHypothesis =>
    exact .cons_cons ⟨constructionPreamble, rfl⟩ inductionHypothesis
  | invalidPath | missingDependency | missingCredential | provider => exact .singleton _

/-- Every construction has one cause, and so has an error about a file. -/
theorem length_causes (error : ResolutionError) :
    error.causes.length = error.layers + if error.innermost.isFileError then 1 else 0 := by
  induction error with
  | construction cause inductionHypothesis =>
    rw [causes, List.length_cons, inductionHypothesis, layers, innermost]
    omega
  | _ => rfl

/-- Every construction writes its preamble once. -/
theorem message_eq_preambles (error : ResolutionError) :
    error.message =
      String.join (List.replicate error.layers constructionPreamble) ++
        error.innermost.message := by
  induction error with
  | construction cause inductionHypothesis =>
    have written : (construction cause).message = constructionPreamble ++ cause.message := rfl
    have layered : (construction cause).layers = cause.layers + 1 := rfl
    rw [written, inductionHypothesis, layered, List.replicate_succ, String.join_cons,
      String.append_assoc]
    rfl
  | constructionText text =>
    have layered : (constructionText text).layers = 1 := rfl
    rw [layered, List.replicate_one, String.join_cons, String.join_nil, String.append_empty]
    rfl
  | invalidPath | file | missingDependency | missingCredential | provider =>
    exact String.empty_append.symm

end ResolutionError

/-- The causes of an error are the texts of its sources down to the last one. From the text of the
error on, each text ends with the next. There is one cause for each construction and one more if an
error about a file lies innermost, and the text repeats one preamble for each construction. -/
theorem ResolutionError.texts_end_with_causes (error : ResolutionError) :
    (∃ faults, (∀ others, (Fault.ofError error).Over others ↔ others = faults) ∧
      error.causes = faults.map Fault.message) ∧
    error.causes =
      (match error with
      | .file _ failure => [failure.message]
      | .constructionText text => [text]
      | .construction cause => cause.message :: cause.causes
      | _ => []) ∧
    (error.message :: error.causes).IsChain EndsWith ∧
    error.causes.length = error.layers + (if error.innermost.isFileError then 1 else 0) ∧
    error.message =
      String.join (List.replicate error.layers
          "failed to construct a web identity token credentials provider: ") ++
        error.innermost.message :=
  ⟨⟨error.beneath, error.over_iff, error.causes_eq_map_beneath⟩, by cases error <;> rfl,
    error.isChain_causes, error.length_causes, error.message_eq_preambles⟩

end CredentialResolution
