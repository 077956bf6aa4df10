/-
This file follows a fact about the surroundings through the calls of providers. If every single
change that such a call makes lets the fact last, so does the whole call.
-/

import CredentialResolution.Proofs.Attempt
import CredentialResolution.Proofs.Building

namespace CredentialResolution

open CredentialResolution.Action

namespace Surroundings

/-- Choosing makes no other changes than these, and all of them let it last. -/
structure LastsChoosing (Keeps : Surroundings → Prop) : Prop extends LastsAdding Keeps where
  sources : ∀ sources surroundings, Keeps surroundings →
    Keeps { surroundings with scriptedSources := sources }
  registries : ∀ registries surroundings, Keeps surroundings →
    Keeps (surroundings.withRegistries registries)
  count : ∀ count surroundings, Keeps surroundings →
    Keeps { surroundings with chosenCount := count }

/-- Resolving also runs scripts and fills memos, which lets it last as well. -/
structure LastsCalls (Keeps : Surroundings → Prop) : Prop extends LastsChoosing Keeps where
  script : ∀ position delegate surroundings, Keeps surroundings →
    Keeps (setScriptedDelegate position delegate surroundings)
  keep : ∀ position delegate surroundings, Keeps surroundings →
    Keeps ((memo position).keep delegate surroundings)

variable {Keeps : Surroundings → Prop} {surroundings later : Surroundings}

namespace LastsChoosing

/-- A quiet change is a change of scripts after which events are recorded one by one. -/
theorem quiet (lasts : LastsChoosing Keeps) (quiet : surroundings.Quiet later)
    (kept : Keeps surroundings) : Keeps later := by
  obtain ⟨events, gained, -⟩ := quiet.gained
  rw [quiet.rest, gained]
  clear gained
  induction events with
  | nil => exact lasts.sources later.scriptedSources surroundings kept
  | cons event rest inductionHypothesis => exact lasts.record event _ inductionHypothesis

theorem lookUp (lasts : LastsChoosing Keeps) (registry : Nat) (kept : Keeps surroundings) :
    Keeps (lookUp registry webIdentity surroundings).2 := by
  obtain ⟨registries, -, quiet⟩ := attempted_lookUp
    (rfl : Surroundings.lookUp registry "web-identity-factory" surroundings = _)
  exact lasts.quiet quiet (lasts.registries registries surroundings kept)

theorem choose (lasts : LastsChoosing Keeps) (source : Source) (registry : Nat)
    (kept : Keeps surroundings) : Keeps ((means source registry).choose surroundings).2 := by
  apply Means.choose_keeps _ _ _ _ _ kept
  · exact fun entry middle kept => lasts.record (.logged entry) middle kept
  · exact fun setting middle kept => lasts.quiet (quiet_load rfl) kept
  · exact fun path middle kept => lasts.quiet (quiet_readToken rfl) kept
  · exact fun middle kept => lasts.lookUp registry kept
  · exact fun factory roleArn roleSessionName token middle kept =>
      lasts.create factory roleArn roleSessionName token kept

theorem numberedChoose (lasts : LastsChoosing Keeps) (source : Source) (registry : Nat)
    (kept : Keeps surroundings) :
    Keeps (Numbered.choose (means source registry).choose surroundings).2 := by
  apply bind_keeps (lasts.choose source registry kept)
  exact fun delegate middle kept => lasts.record _ _ (lasts.count _ middle kept)

end LastsChoosing

namespace LastsCalls

theorem resolveScripted (lasts : LastsCalls Keeps) (position : Nat) (kept : Keeps surroundings) :
    Keeps (resolveScripted position surroundings).2 := by
  rw [Surroundings.resolveScripted]
  cases surroundings.scriptedDelegates.get? position with
  | none => exact kept
  | some delegate => exact lasts.record _ _ (lasts.script _ _ surroundings kept)

/-- Resolving lets it last, by induction on how deeply the calls are nested. -/
theorem resolveSingle (lasts : LastsCalls Keeps) (nesting : Nat) (provider : SingleProvider)
    (kept : Keeps surroundings) :
    Keeps (SingleProvider.resolve nesting provider surroundings).2 := by
  induction nesting generalizing provider surroundings with
  | zero =>
    cases provider with
    | fixed credentials | settings source registry position => exact kept
    | scripted position => exact lasts.resolveScripted position kept
  | succ nesting inductionHypothesis =>
    cases provider with
    | fixed credentials => exact kept
    | scripted position => exact lasts.resolveScripted position kept
    | settings source registry position =>
      apply bind_keeps
      · rw [Memo.obtain]
        apply bind_keeps
        · exact kept
        · rintro (_ | numbered) middle kept
          · apply bind_keeps (lasts.numberedChoose source registry kept)
            exact fun numbered middle kept => lasts.keep position (some numbered) middle kept
          · exact kept
      · intro numbered middle kept
        apply ChainTree.resolve_keeps numbered.delegate _ _ (lasts.record _ middle kept)
        · exact fun member _ middle kept => inductionHypothesis member kept
        · exact fun entry middle kept => lasts.record (.logged entry) middle kept

theorem resolve (lasts : LastsCalls Keeps) (nesting : Nat) (provider : Provider)
    (kept : Keeps surroundings) : Keeps (provider.resolve nesting surroundings).2 := by
  apply ChainTree.resolve_keeps provider _ _ kept
  · exact fun member _ middle kept => lasts.resolveSingle nesting member kept
  · exact fun entry middle kept => lasts.record (.logged entry) middle kept

end LastsCalls

end Surroundings

end CredentialResolution
