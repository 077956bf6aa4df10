/-
This file compares two runs that build from one description. If they agree on the parts of which
providers are built, they agree on the providers. What adding new parts keeps, building keeps.
-/

import CredentialResolution.Proofs.Members
import CredentialResolution.Proofs.Pairing

namespace CredentialResolution

open CredentialResolution.Action Surroundings

/-- Two runs agree on all parts of which providers are built, up to which sources and which single
providers belong together. They need to agree on known names of providers only. -/
structure Builds (states : Surroundings → Surroundings → Prop) (sources : Source → Source → Prop)
    (singles : SingleProvider → SingleProvider → Prop) (known : String → Prop) : Prop where
  record : ∀ event ⦃surroundings surroundings'⦄, states surroundings surroundings' →
    states (record event surroundings) (record event surroundings')
  fixed : ∀ credentials, singles (.fixed credentials) (.fixed credentials)
  scripted : ∀ {Failure : Type} (delegate : ScriptedDelegate),
    Agrees states (ChainTree.Related singles)
      (Provider.scripted delegate : Action Surroundings Failure Provider)
      (Provider.scripted delegate)
  source : ∀ blueprint : SourceBlueprint, Agrees states sources blueprint.build blueprint.build
  sharedProperties : sources (.properties processWide) (.properties processWide)
  process : sources .process .process
  registry : ∀ name, Agrees states (· = ·) (ProviderBlueprint.findRegistry name)
    (ProviderBlueprint.findRegistry name)
  settings : ∀ ⦃source source'⦄, sources source source' → ∀ registry,
    Agrees states (ChainTree.Related singles)
      (Provider.overSettings source registry : Action Surroundings Empty Provider)
      (Provider.overSettings source' registry)
  named : ∀ ⦃name⦄, known name →
    Agrees states (ChainTree.Related singles)
      (named name fun surroundings => surroundings.names.providers.get? name :
        Action Surroundings Empty Provider)
      (named name fun surroundings => surroundings.names.providers.get? name)

namespace Builds

variable {states : Surroundings → Surroundings → Prop} {sources : Source → Source → Prop}
  {singles : SingleProvider → SingleProvider → Prop} {known : String → Prop}

mutual

/-- A blueprint that mentions known names only builds providers that belong together. -/
theorem build_agrees (builds : Builds states sources singles known) :
    ∀ (blueprint : ProviderBlueprint), (∀ name ∈ blueprint.mentioned, known name) →
      Agrees states (ChainTree.Related singles) blueprint.build blueprint.build
  | .fixed credentials, _ => by
    simp only [ProviderBlueprint.build]
    exact pure_agrees (.single (builds.fixed credentials))
  | .scripted delegate, _ => by
    simp only [ProviderBlueprint.build]
    exact builds.scripted delegate
  | .settings source registry, _ => by
    simp only [ProviderBlueprint.build]
    apply bind_agrees (builds.source source)
    intro source source' same
    apply bind_agrees (builds.registry registry)
    rintro registry _ rfl
    exact builds.settings same registry
  | .chain members, mentions => by
    simp only [ProviderBlueprint.build]
    simp only [ProviderBlueprint.mentioned] at mentions
    apply bind_agrees (buildMembers_agrees builds members mentions)
    intro trees trees' each
    exact pure_agrees (.chain each)
  | .defaultChain, _ => by
    simp only [ProviderBlueprint.build]
    apply bind_agrees (builds.settings builds.sharedProperties processWide)
    intro properties properties' sameProperties
    apply bind_agrees (builds.settings builds.process processWide)
    intro environment environment' sameEnvironment
    exact pure_agrees (.chain (.cons sameProperties (.cons sameEnvironment .nil)))
  | .named name, mentions => by
    simp only [ProviderBlueprint.build]
    simp only [ProviderBlueprint.mentioned] at mentions
    apply bind_agrees (builds.named (mentions name (List.mem_singleton_self name)))
    intro tree tree' same
    exact pure_agrees (.shared same)

theorem buildMembers_agrees (builds : Builds states sources singles known) :
    ∀ (members : List ProviderBlueprint),
      (∀ name ∈ ProviderBlueprint.mentionedMembers members, known name) →
        Agrees states (ChainTree.RelatedMembers singles) (ProviderBlueprint.buildMembers members)
          (ProviderBlueprint.buildMembers members)
  | [], _ => by
    simp only [ProviderBlueprint.buildMembers]
    exact pure_agrees .nil
  | first :: rest, mentions => by
    simp only [ProviderBlueprint.buildMembers]
    simp only [ProviderBlueprint.mentionedMembers, List.mem_append] at mentions
    apply bind_agrees (build_agrees builds first fun name among => mentions name (.inl among))
    intro tree tree' same
    apply bind_agrees
      (buildMembers_agrees builds rest fun name among => mentions name (.inr among))
    intro trees trees' each
    exact pure_agrees (.cons same each)

end

/-- A factory that mentions known names only creates providers that belong together. -/
theorem create_agrees (builds : Builds states sources singles known) {factory : Factory}
    (mentions : ∀ name ∈ factory.creation.mentioned, known name) (roleArn : String)
    (roleSessionName : Option String) (token : String) :
    Agrees states (ChainTree.Related singles) (factory.create roleArn roleSessionName token)
      (factory.create roleArn roleSessionName token) := by
  apply bind_agrees (update_agrees (builds.record _))
  intro _ _ _
  obtain ⟨label, creation⟩ := factory
  cases creation with
  | echo => exact pure_agrees (.single (builds.fixed _))
  | scripted outcomes closes => exact builds.scripted _
  | blueprint described =>
    exact widen_agrees (orUnchanged_agrees (builds.build_agrees described mentions))
  | error error => exact fail_agrees error
  | panic text => exact panicked_agrees text

end Builds

/-- Events may be recorded and new parts added without breaking this. -/
structure Surroundings.LastsAdding (Keeps : Surroundings → Prop) : Prop where
  record : ∀ event surroundings, Keeps surroundings → Keeps (record event surroundings)
  addStore : ∀ entries surroundings, Keeps surroundings → Keeps (addStore entries surroundings).2
  addSource : ∀ source surroundings, Keeps surroundings →
    Keeps (addScriptedSource source surroundings).2
  addDelegate : ∀ delegate surroundings, Keeps surroundings →
    Keeps (addScriptedDelegate delegate surroundings).2
  addMemo : ∀ surroundings, Keeps surroundings → Keeps (addMemo surroundings).2

namespace Surroundings.LastsAdding

variable {Keeps : Surroundings → Prop}

/-- Every part of which providers are built lets it last. -/
theorem builds (lasts : LastsAdding Keeps) :
    Builds (fun surroundings surroundings' => surroundings = surroundings' ∧ Keeps surroundings)
      (· = ·) (· = ·) fun _ => True := by
  let Same (surroundings surroundings' : Surroundings) : Prop :=
    surroundings = surroundings' ∧ Keeps surroundings
  have agrees {Failure Value : Type} {values : Value → Value → Prop}
      (refl : ∀ value, values value value) {action : Action Surroundings Failure Value}
      (keeps : ∀ surroundings, Keeps surroundings → Keeps (action surroundings).2) :
      Agrees Same values action action := by
    rintro surroundings _ ⟨rfl, kept⟩
    exact ⟨.self refl _, rfl, keeps surroundings kept⟩
  have relatedSelf (provider : Provider) : ChainTree.Related (· = ·) provider provider :=
    ChainTree.related_self provider fun _ _ => rfl
  have named_keeps {Failure Value : Type} (name : String) (find? : Surroundings → Option Value)
      (surroundings : Surroundings) (kept : Keeps surroundings) :
      Keeps ((named name find? : Action Surroundings Failure Value) surroundings).2 := by
    rw [named]
    split <;> exact kept
  refine
    { record := ?_
      fixed := fun _ => rfl
      scripted := fun delegate => agrees relatedSelf (lasts.addDelegate delegate)
      source := ?_
      sharedProperties := rfl
      process := rfl
      registry := ?_
      settings := ?_
      named := fun name _ => agrees relatedSelf (named_keeps name _) }
  · rintro event surroundings _ ⟨rfl, kept⟩
    exact ⟨rfl, lasts.record event surroundings kept⟩
  · intro blueprint
    cases blueprint with
    | fixedVariables entries => exact pure_agrees rfl
    | process => exact pure_agrees rfl
    | properties entries => exact agrees (fun _ => rfl) (lasts.addStore (.ofList entries))
    | store name =>
      refine bind_agrees (agrees (fun _ => rfl) (named_keeps name _)) ?_
      rintro position _ rfl
      exact pure_agrees rfl
    | scripted source => exact agrees (fun _ => rfl) (lasts.addSource source)
    | named name => exact agrees (fun _ => rfl) (named_keeps name _)
  · intro name
    cases name with
    | none => exact pure_agrees rfl
    | some name => exact agrees (fun _ => rfl) (named_keeps name _)
  · rintro source _ rfl registry
    exact agrees relatedSelf lasts.addMemo

theorem build (lasts : LastsAdding Keeps) (blueprint : ProviderBlueprint)
    {surroundings : Surroundings} (kept : Keeps surroundings) :
    Keeps (blueprint.build surroundings).2 :=
  (lasts.builds.build_agrees blueprint (fun _ _ => trivial) ⟨rfl, kept⟩).2.2

theorem create (lasts : LastsAdding Keeps) (factory : Factory) (roleArn : String)
    (roleSessionName : Option String) (token : String) {surroundings : Surroundings}
    (kept : Keeps surroundings) :
    Keeps (factory.create roleArn roleSessionName token surroundings).2 :=
  (lasts.builds.create_agrees (fun _ _ => trivial) roleArn roleSessionName token
    ⟨rfl, kept⟩).2.2

end Surroundings.LastsAdding

end CredentialResolution
