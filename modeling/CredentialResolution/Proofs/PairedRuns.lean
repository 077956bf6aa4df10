/-
This file resolves paired providers in two surroundings that differ only in where their memos lie.
Nothing that resolving does tells the two runs apart.
-/

import CredentialResolution.Proofs.Building

namespace CredentialResolution

namespace Pairing

open CredentialResolution.Action Surroundings

variable {pairing : Pairing} {Failure Value : Type}

/-- A change that neither uses nor changes memos and names of providers keeps the surroundings
paired. -/
theorem states_of_furnished (change : Surroundings → Surroundings)
    (unattached : ∀ memos providers surroundings,
      change (furnished memos providers surroundings) =
        furnished memos providers (change surroundings))
    (registers : ∀ ⦃allowed : String → Prop⦄ ⦃surroundings : Surroundings⦄,
      surroundings.Registers allowed → (change surroundings).Registers allowed)
    ⦃surroundings surroundings' : Surroundings⦄
    (related : pairing.States surroundings surroundings') :
    pairing.States (change surroundings) (change surroundings') := by
  have changed : change surroundings = furnished surroundings.memos surroundings.names.providers
      (change surroundings) :=
    unattached surroundings.memos surroundings.names.providers surroundings
  have changed' : change surroundings' = furnished surroundings'.memos
      surroundings'.names.providers (change surroundings) := by
    rw [← unattached, ← eq_furnished_of_bare related.bare]
  have memos : (change surroundings).memos = surroundings.memos := by
    rw [changed]
    rfl
  have providers : (change surroundings).names.providers = surroundings.names.providers := by
    rw [changed]
    rfl
  rw [changed']
  refine ⟨rfl, ?_, ?_, related.providers', registers related.registers⟩
  · rw [memos]
    exact related.memos
  · rw [providers]
    exact related.providers

/-- An action that neither uses nor changes memos and names of providers agrees with itself. -/
theorem agrees_of_furnished {action : Action Surroundings Failure Value}
    (unattached : ∀ memos providers surroundings,
      action (furnished memos providers surroundings) =
        ((action surroundings).1, furnished memos providers (action surroundings).2))
    (registers : ∀ ⦃allowed : String → Prop⦄ ⦃surroundings : Surroundings⦄,
      surroundings.Registers allowed → (action surroundings).2.Registers allowed) :
    Agrees pairing.States (· = ·) action action := by
  intro surroundings surroundings' related
  have left : pairing.States (action surroundings).2 (action surroundings').2 := by
    apply states_of_furnished (fun surroundings => (action surroundings).2) _ registers related
    intro memos providers surroundings
    rw [unattached]
  have ran' := unattached surroundings'.memos surroundings'.names.providers surroundings
  rw [← eq_furnished_of_bare related.bare] at ran'
  refine ⟨?_, left⟩
  rw [ran']
  exact .refl _

theorem record_states (event : Event) ⦃surroundings surroundings' : Surroundings⦄
    (related : pairing.States surroundings surroundings') :
    pairing.States (surroundings.record event) (surroundings'.record event) :=
  states_of_furnished (record event) (fun _ _ _ => rfl) (fun _ _ registers => registers) related

theorem record_agrees (event : Event) :
    Agrees pairing.States (· = ·) (update (record event) : Action Surroundings Failure Unit)
      (update (record event)) :=
  update_agrees (record_states event)

theorem log_states (entry : LogEntry) ⦃surroundings surroundings' : Surroundings⦄
    (related : pairing.States surroundings surroundings') :
    pairing.States (surroundings.log entry) (surroundings'.log entry) :=
  record_states (.logged entry) related

section Sources

theorem takeScripted_agrees (position : Nat) (setting : Setting) :
    Agrees pairing.States (· = ·) (takeScripted position setting)
      (takeScripted position setting) := by
  apply agrees_of_furnished
  · intro memos providers surroundings
    simp only [takeScripted, furnished]
    cases surroundings.scriptedSources.get? position <;> rfl
  · intro allowed surroundings registers
    simp only [takeScripted]
    cases surroundings.scriptedSources.get? position <;> exact registers

theorem readVariable_agrees (name : String) :
    Agrees pairing.States (· = ·) (Surroundings.readVariable name)
      (Surroundings.readVariable name) := by
  apply agrees_of_furnished
  · intro memos providers surroundings
    simp only [Surroundings.readVariable, furnished]
    split
    · rfl
    · split <;> rfl
  · intro allowed surroundings registers
    simp only [Surroundings.readVariable]
    split
    · exact registers
    · split <;> exact registers

/-- Loading uses no memo. -/
theorem load_agrees (source : Source) (setting : Setting) :
    Agrees pairing.States (· = ·) (source.load setting) (source.load setting) := by
  cases source with
  | fixedVariables entries =>
    exact bind_agrees (record_agrees _) fun _ _ _ => pure_agrees rfl
  | process =>
    exact bind_agrees (record_agrees _) fun _ _ _ => readVariable_agrees _
  | properties store =>
    apply bind_agrees (record_agrees _)
    intro _ _ _
    exact agrees_of_furnished (fun _ _ _ => rfl) fun _ _ registers => registers
  | scripted position =>
    exact bind_agrees (record_agrees _) fun _ _ _ => takeScripted_agrees position setting

end Sources

section Factories

theorem readToken_agrees (path : Path) :
    Agrees pairing.States (· = ·) (Surroundings.readToken path) (Surroundings.readToken path) := by
  apply agrees_of_furnished
  · intro memos providers surroundings
    simp only [Surroundings.readToken, furnished, log, record]
    split
    · split
      · rfl
      · split <;> rfl
    · rfl
  · intro allowed surroundings registers
    simp only [Surroundings.readToken]
    split
    · split
      · exact registers
      · split <;> exact registers
    · exact registers

/-- Both runs find the same factory, which mentions only known names. -/
theorem lookUp_agrees (registry : Nat) (capability : String) :
    Agrees pairing.States
      (fun factory factory' => factory = factory' ∧
        ∀ name ∈ factory.creation.mentioned, pairing.Known name)
      (Surroundings.lookUp registry capability) (Surroundings.lookUp registry capability) := by
  have agrees : Agrees pairing.States (· = ·) (Surroundings.lookUp registry capability)
      (Surroundings.lookUp registry capability) := by
    apply agrees_of_furnished
    · intro memos providers surroundings
      simp only [Surroundings.lookUp]
      have sameRegistry : (furnished memos providers surroundings).registry registry =
        surroundings.registry registry := rfl
      rw [sameRegistry]
      cases (surroundings.registry registry).get? capability with
      | none => rfl
      | some constructor => cases constructor <;> rfl
    · intro allowed surroundings registers
      simp only [Surroundings.lookUp]
      split
      · exact registers
      · rename_i constructor registered
        have recorded : (surroundings.record (.constructed constructor.label)).Registers allowed :=
          registers
        exact registers_react recorded registered
  intro surroundings surroundings' related
  obtain ⟨alike, left⟩ := agrees related
  refine ⟨?_, left⟩
  have known : ∀ factory, (Surroundings.lookUp registry capability surroundings).1 = .ok factory →
      ∀ name ∈ factory.creation.mentioned, pairing.Known name := by
    intro factory found name mentions
    simp only [Surroundings.lookUp] at found
    split at found
    · cases found
    · rename_i constructor registered
      exact related.registers registered name (Constructor.mentioned_of_outcome found mentions)
  cases outcome : (Surroundings.lookUp registry capability surroundings).1 with
  | ok factory =>
    rw [outcome] at alike known
    rw [← alike.eq]
    exact .ok ⟨rfl, known factory rfl⟩
  | error failure | panic text =>
    rw [outcome] at alike
    rw [← alike.eq]
    constructor

/-- A new memo lies at paired positions. -/
theorem addMemo_agrees :
    Agrees pairing.States pairing.pairs (adding addMemo : Action Surroundings Failure Nat)
      (adding addMemo) := by
  intro surroundings surroundings' related
  obtain ⟨same, memos⟩ := related.memos.add
  refine ⟨.ok same, ?_, memos, related.providers, related.providers', related.registers⟩
  exact related.bare

theorem overSettings_agrees (source : Source) (registry : Nat) :
    Agrees pairing.States (Provider.Paired pairing.pairs)
      (Provider.overSettings source registry : Action Surroundings Failure Provider)
      (Provider.overSettings source registry) := by
  apply bind_agrees addMemo_agrees
  intro memo memo' same
  exact pure_agrees (.single (.settings source registry same))

theorem scripted_agrees (delegate : ScriptedDelegate) :
    Agrees pairing.States (Provider.Paired pairing.pairs)
      (Provider.scripted delegate : Action Surroundings Failure Provider)
      (Provider.scripted delegate) := by
  have added : Agrees pairing.States (· = ·)
      (adding (addScriptedDelegate delegate) : Action Surroundings Failure Nat)
      (adding (addScriptedDelegate delegate)) :=
    agrees_of_furnished (fun _ _ _ => rfl) fun _ _ registers => registers
  apply bind_agrees added
  rintro position _ rfl
  exact pure_agrees (.single (.scripted position))

/-- Other names lead to the same in both surroundings. -/
theorem named_agrees_of_bare (name : String) {find? : Surroundings → Option Value}
    (sees : ∀ surroundings, find? surroundings.bare = find? surroundings) :
    Agrees pairing.States (· = ·) (named name find? : Action Surroundings Failure Value)
      (named name find?) := by
  apply named_agrees
  intro surroundings surroundings' related
  rw [← sees surroundings, ← sees surroundings', related.bare]
  cases find? surroundings'.bare <;> constructor
  rfl

theorem buildSource_agrees (blueprint : SourceBlueprint) :
    Agrees pairing.States (· = ·) blueprint.build blueprint.build := by
  cases blueprint with
  | fixedVariables entries => exact pure_agrees rfl
  | process => exact pure_agrees rfl
  | properties entries =>
    exact agrees_of_furnished (fun _ _ _ => rfl) fun _ _ registers => registers
  | store name =>
    apply bind_agrees (named_agrees_of_bare name fun _ => rfl)
    rintro position _ rfl
    exact pure_agrees rfl
  | scripted source =>
    exact agrees_of_furnished (fun _ _ _ => rfl) fun _ _ registers => registers
  | named name => exact named_agrees_of_bare name fun _ => rfl

theorem findRegistry_agrees (name : Option String) :
    Agrees pairing.States (· = ·) (ProviderBlueprint.findRegistry name)
      (ProviderBlueprint.findRegistry name) := by
  cases name with
  | none => exact pure_agrees rfl
  | some name => exact named_agrees_of_bare name fun _ => rfl

/-- A blueprint that mentions only known names builds paired providers. -/
theorem builds : Builds pairing.States (· = ·) (SingleProvider.Paired pairing.pairs)
    pairing.Known where
  record := record_states
  fixed := .fixed
  scripted := scripted_agrees
  source := buildSource_agrees
  sharedProperties := rfl
  process := rfl
  registry := findRegistry_agrees
  settings := by
    rintro source _ rfl registry
    exact overSettings_agrees source registry
  named := by
    intro name known
    apply named_agrees
    intro surroundings surroundings' related
    rw [related.providers, related.providers']
    exact known

end Factories

section Runs

/-- All means of a choice agree in paired surroundings. -/
theorem means_agree (source : Source) (registry : Nat) :
    Means.Agree pairing.States
      (fun factory factory' => factory = factory' ∧
        ∀ name ∈ factory.creation.mentioned, pairing.Known name)
      (Provider.Paired pairing.pairs) (Surroundings.means source registry)
      (Surroundings.means source registry) where
  log := log_states
  load := load_agrees source
  readToken := readToken_agrees
  lookUp := lookUp_agrees registry webIdentity
  create := by
    rintro factory _ ⟨rfl, known⟩
    exact builds.create_agrees known
  fixed credentials := .single (.fixed credentials)

theorem choose_agrees (source : Source) (registry : Nat) :
    Agrees pairing.States (Numbered.Paired pairing.pairs)
      (Numbered.choose (Surroundings.means source registry).choose)
      (Numbered.choose (Surroundings.means source registry).choose) := by
  apply bind_agrees (Means.choose_agrees (means_agree source registry))
  intro delegate delegate' same surroundings surroundings' related
  have sameCount : surroundings.bare.chosenCount = surroundings'.bare.chosenCount := by
    rw [related.bare]
  refine ⟨.ok ⟨sameCount, same⟩, ?_⟩
  exact states_of_furnished
    (fun surroundings => { surroundings with chosenCount := surroundings.chosenCount + 1 }.record
      (.chosen surroundings.chosenCount))
    (fun _ _ _ => rfl) (fun _ _ registers => registers) related

theorem resolveScripted_agrees (position : Nat) :
    Agrees pairing.States (· = ·) (resolveScripted position) (resolveScripted position) := by
  apply agrees_of_furnished
  · intro memos providers surroundings
    simp only [resolveScripted, furnished]
    cases surroundings.scriptedDelegates.get? position <;> rfl
  · intro allowed surroundings registers
    simp only [resolveScripted]
    cases surroundings.scriptedDelegates.get? position <;> exact registers

theorem memo_agree {position position' : Nat} (same : pairing.pairs position position') :
    Memo.Agree pairing.States (Numbered.Paired pairing.pairs) (Surroundings.memo position)
      (Surroundings.memo position') where
  held _ _ related := related.memos.held same
  keep _ _ delegates _ _ related :=
    ⟨related.bare, related.memos.update same delegates, related.providers, related.providers',
      related.registers⟩

/-- Paired providers resolve alike, however deeply their calls are nested. -/
theorem resolveSingle_agrees (nesting : Nat) {provider provider' : SingleProvider}
    (same : SingleProvider.Paired pairing.pairs provider provider') :
    Agrees pairing.States (· = ·) (SingleProvider.resolve nesting provider)
      (SingleProvider.resolve nesting provider') := by
  induction nesting generalizing provider provider' with
  | zero =>
    cases same with
    | fixed credentials => exact pure_agrees rfl
    | scripted position => exact resolveScripted_agrees position
    | settings source registry same => exact panicked_agrees _
  | succ nesting inductionHypothesis =>
    cases same with
    | fixed credentials => exact pure_agrees rfl
    | scripted position => exact resolveScripted_agrees position
    | settings source registry same =>
      apply Memo.resolve_agrees (memo_agree same) (choose_agrees source registry)
      intro numbered numbered' paired surroundings surroundings' related
      rw [Numbered.resolve, Numbered.resolve, ← paired.serial]
      apply ChainTree.resolve_agrees (fun _ _ same => inductionHypothesis same) log_states
        paired.delegate
      exact record_states (.consulted numbered.serial) related

theorem resolve_agrees (nesting : Nat) {provider provider' : Provider}
    (same : Provider.Paired pairing.pairs provider provider') :
    Agrees pairing.States (· = ·) (provider.resolve nesting) (provider'.resolve nesting) :=
  ChainTree.resolve_agrees (fun _ _ same => resolveSingle_agrees nesting same) log_states same

end Runs

end Pairing

end CredentialResolution
