/-
This file shows that building, choosing and resolving only add to the journal, however they end.
-/

import CredentialResolution.Proofs.LastingFacts

namespace CredentialResolution

namespace Surroundings

/-- The earlier journal is the oldest part of the later one. -/
def Continues (earlier later : Surroundings) : Prop :=
  earlier.journal <:+ later.journal

variable {earlier middle later : Surroundings}

theorem Continues.refl (surroundings : Surroundings) : surroundings.Continues surroundings :=
  List.suffix_rfl

theorem Continues.trans (first : earlier.Continues middle) (second : middle.Continues later) :
    earlier.Continues later :=
  List.IsSuffix.trans first second

theorem continues_record (event : Event) (surroundings : Surroundings) :
    surroundings.Continues (surroundings.record event) :=
  List.suffix_cons event surroundings.journal

end Surroundings

open Surroundings

namespace Action

variable {Failure Other Value Result : Type}

/-- The action only adds to the journal, however it ends. -/
def Extends (action : Action Surroundings Failure Value) : Prop :=
  ∀ surroundings, Continues surroundings (action surroundings).2

theorem pure_extends (value : Value) :
    Extends (Pure.pure value : Action Surroundings Failure Value) :=
  .refl

/-- What runs after the first action continues the journal that the first action left. -/
theorem continues_bind (first : Action Surroundings Failure Value)
    {next : Value → Action Surroundings Failure Result} (nexts : ∀ value, Extends (next value))
    (surroundings : Surroundings) :
    (first surroundings).2.Continues ((first >>= next) surroundings).2 :=
  bind_keeps (.refl _) fun value middle kept => kept.trans (nexts value middle)

theorem bind_extends {first : Action Surroundings Failure Value}
    {next : Value → Action Surroundings Failure Result} (firsts : Extends first)
    (nexts : ∀ value, Extends (next value)) : Extends (first >>= next) :=
  fun surroundings => (firsts surroundings).trans (continues_bind first nexts surroundings)

theorem update_extends {change : Surroundings → Surroundings}
    (changes : ∀ surroundings, Continues surroundings (change surroundings)) :
    Extends (update change : Action Surroundings Failure Unit) :=
  changes

theorem mapError_extends (change : Failure → Other) {action : Action Surroundings Failure Value}
    (adds : Extends action) : Extends (action.mapError change) :=
  adds

theorem widen_extends {action : Action Surroundings Empty Value} (adds : Extends action) :
    Extends (action.widen : Action Surroundings Failure Value) :=
  adds

theorem continues_rescue (action : Action Surroundings Failure Value)
    {next : Failure → Action Surroundings Other Value} (nexts : ∀ failure, Extends (next failure))
    (surroundings : Surroundings) :
    (action surroundings).2.Continues (action.rescue next surroundings).2 := by
  rw [rescue]
  rcases action surroundings with ⟨value | failure | text, middle⟩
  · exact .refl middle
  · exact nexts failure middle
  · exact .refl middle

theorem rescue_extends {action : Action Surroundings Failure Value}
    {next : Failure → Action Surroundings Other Value} (adds : Extends action)
    (nexts : ∀ failure, Extends (next failure)) : Extends (action.rescue next) :=
  fun surroundings => (adds surroundings).trans (continues_rescue action nexts surroundings)

theorem orUnchanged_extends {action : Action Surroundings Failure Value} (adds : Extends action) :
    Extends action.orUnchanged := by
  intro surroundings
  have started := adds surroundings
  rw [orUnchanged]
  generalize action surroundings = ended at started ⊢
  rcases ended with ⟨value | failure | text, middle⟩
  · exact started
  · exact .refl surroundings
  · exact .refl surroundings

end Action

open CredentialResolution.Action

section Building

variable {Failure : Type}

theorem scripted_extends (delegate : ScriptedDelegate) :
    Extends (Provider.scripted delegate : Action Surroundings Failure Provider) :=
  bind_extends Continues.refl fun _ => pure_extends _

theorem continues_lastsCalls (start : Surroundings) : LastsCalls start.Continues where
  record event surroundings kept := kept.trans (continues_record event surroundings)
  addStore _ _ kept := kept
  addSource _ _ kept := kept
  addDelegate _ _ kept := kept
  addMemo _ kept := kept
  sources _ _ kept := kept
  registries _ _ kept := kept
  count _ _ kept := kept
  script _ _ _ kept := kept
  keep _ _ _ kept := kept

/-- Building only adds to the journal. -/
theorem build_extends (blueprint : ProviderBlueprint) : Extends blueprint.build :=
  fun start => (continues_lastsCalls start).build blueprint (.refl start)

/-- The recorded creation stays in the journal, whatever the factory does then. -/
theorem create_continues (factory : Factory) (roleArn : String) (roleSessionName : Option String)
    (token : String) (surroundings : Surroundings) :
    Continues (surroundings.record (.created factory.label roleArn roleSessionName token))
      (factory.create roleArn roleSessionName token surroundings).2 := by
  obtain ⟨label, creation⟩ := factory
  cases creation with
  | echo => exact pure_extends _ _
  | scripted outcomes closes => exact scripted_extends _ _
  | blueprint described => exact widen_extends (orUnchanged_extends (build_extends described)) _
  | error error => exact .refl _
  | panic text => exact .refl _

end Building

section Resolving

theorem Provider.resolve_extends_of_members {single : Resolving SingleProvider Surroundings}
    (singles : ∀ member, Extends (single member)) (provider : Provider) :
    Extends (ChainTree.resolve single log provider) := by
  intro surroundings
  apply ChainTree.resolve_keeps _ _ _ (Continues.refl surroundings)
  · exact fun member _ middle kept => kept.trans (singles member middle)
  · exact fun entry middle kept => kept.trans (continues_record _ middle)

theorem numberedResolve_extends {resolveDelegate : Resolving Provider Surroundings}
    (resolves : ∀ delegate, Extends (resolveDelegate delegate)) (numbered : Numbered Provider) :
    Extends (Numbered.resolve resolveDelegate numbered) :=
  fun surroundings =>
    (continues_record _ surroundings).trans (resolves numbered.delegate _)

theorem resolveSingle_extends (nesting : Nat) (provider : SingleProvider) :
    Extends (SingleProvider.resolve nesting provider) :=
  fun start => (continues_lastsCalls start).resolveSingle nesting provider (.refl start)

end Resolving

end CredentialResolution
