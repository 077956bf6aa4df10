/-
This file shows what a choice that fails leaves behind: what its sources and the one constructor did
to themselves, and a journal without any call of a delegate.
-/

import CredentialResolution.Proofs.OrderedChoice

namespace CredentialResolution

/-- These events belong to the life of a delegate. -/
def Event.ofDelegate : Event → Bool
  | delegateResolved _ => true
  | delegateClosed _ => true
  | chosen _ => true
  | consulted _ => true
  | released _ => true
  | _ => false

/-- An action that may leave nothing behind without a value leaves nothing behind. -/
theorem Action.eq_of_orUnchanged_failed {State Failure Value : Type}
    {action : Action State Empty Value} {state after : State} {outcome : Outcome Failure Value}
    (ran : action.orUnchanged.widen state = (outcome, after))
    (failed : ∀ value, outcome ≠ .ok value) : after = state := by
  rcases ended : action state with ⟨value | failure | text, left⟩ <;>
    simp only [widen, orUnchanged, ended] at ran
  · cases ran
    exact absurd rfl (failed value)
  · exact failure.elim
  · cases ran
    rfl

namespace Surroundings

/-- Only scripts of sources and the journal differ, and the journal gained no event of a delegate.
-/
structure Quiet (earlier later : Surroundings) : Prop where
  rest : later =
    { earlier with
      scriptedSources := later.scriptedSources
      journal := later.journal }
  gained : ∃ events, later.journal = events ++ earlier.journal ∧
    ∀ event ∈ events, event.ofDelegate = false

theorem Quiet.refl (surroundings : Surroundings) : surroundings.Quiet surroundings :=
  ⟨rfl, [], rfl, fun _ gained => absurd gained List.not_mem_nil⟩

theorem Quiet.trans {earlier middle later : Surroundings} (first : earlier.Quiet middle)
    (second : middle.Quiet later) : earlier.Quiet later := by
  obtain ⟨events, journal, quiet⟩ := first.gained
  obtain ⟨events', journal', quiet'⟩ := second.gained
  refine ⟨?_, events' ++ events, ?_, ?_⟩
  · rw [second.rest, first.rest]
  · rw [journal', journal, List.append_assoc]
  · intro event gained
    rcases List.mem_append.mp gained with new | old
    · exact quiet' event new
    · exact quiet event old

theorem quiet_record {event : Event} (quiet : event.ofDelegate = false)
    (surroundings : Surroundings) : surroundings.Quiet (surroundings.record event) := by
  refine ⟨rfl, [event], rfl, ?_⟩
  intro other gained
  rw [List.mem_singleton.mp gained]
  exact quiet

theorem quiet_log (entry : LogEntry) (surroundings : Surroundings) :
    surroundings.Quiet (surroundings.log entry) :=
  quiet_record rfl surroundings

theorem quiet_takeScripted (position : Nat) (setting : Setting) (surroundings : Surroundings) :
    surroundings.Quiet (takeScripted position setting surroundings).2 := by
  simp only [takeScripted]
  cases surroundings.scriptedSources.get? position with
  | none => exact .refl surroundings
  | some source => exact ⟨rfl, [], rfl, fun _ gained => absurd gained List.not_mem_nil⟩

theorem quiet_readVariable (name : String) (surroundings : Surroundings) :
    surroundings.Quiet (Surroundings.readVariable name surroundings).2 := by
  simp only [Surroundings.readVariable]
  split
  · exact .refl surroundings
  · split
    · exact .refl surroundings
    · exact quiet_log _ surroundings

/-- Every source loads quietly, also when it panics. -/
theorem quiet_load {source : Source} {setting : Setting} {surroundings after : Surroundings}
    {outcome : Outcome Empty (Option String)}
    (loaded : source.load setting surroundings = (outcome, after)) : surroundings.Quiet after := by
  have same : after = (source.load setting surroundings).2 := by rw [loaded]
  rw [same]
  cases source with
  | fixedVariables entries => exact quiet_log _ surroundings
  | process => exact (quiet_log _ surroundings).trans (quiet_readVariable _ _)
  | properties store => exact quiet_log _ surroundings
  | scripted position =>
    have recorded : surroundings.Quiet (surroundings.record (.loaded setting)) :=
      quiet_record rfl surroundings
    exact recorded.trans (quiet_takeScripted position setting _)

theorem quiet_askEach (source : Source) {settings : List Setting}
    {surroundings asked : Surroundings}
    {entries : List (Setting × Option String)}
    (answered : askEach source.load settings surroundings = (.ok entries, asked)) :
    surroundings.Quiet asked := by
  induction settings generalizing surroundings entries with
  | nil =>
    cases answered
    exact .refl _
  | cons setting rest inductionHypothesis =>
    obtain ⟨answer, next, answers, first, rested, -⟩ := askEach_cons_eq_ok.mp answered
    exact (quiet_load first).trans (inductionHypothesis rested)

theorem quiet_readToken {path : Path} {surroundings after : Surroundings}
    {outcome : Outcome ResolutionError String}
    (read : Surroundings.readToken path surroundings = (outcome, after)) :
    surroundings.Quiet after := by
  have same : after = (Surroundings.readToken path surroundings).2 := by rw [read]
  rw [same, Surroundings.readToken]
  dsimp only
  split
  · split
    · exact quiet_log _ surroundings
    · split
      · exact quiet_log _ surroundings
      · exact quiet_log _ surroundings
  · exact .refl surroundings

/-- A factory that creates nothing leaves nothing behind. -/
theorem quiet_create {factory : Factory} {roleArn token : String} {roleSessionName : Option String}
    {surroundings after : Surroundings} {outcome : Outcome ResolutionError Provider}
    (created : factory.create roleArn roleSessionName token surroundings = (outcome, after))
    (failed : ∀ provider, outcome ≠ .ok provider) : surroundings.Quiet after := by
  obtain ⟨label, creation⟩ := factory
  have recorded : surroundings.Quiet
      (surroundings.record (.created label roleArn roleSessionName token)) :=
    quiet_record rfl surroundings
  cases creation with
  | echo =>
    cases created
    exact absurd rfl (failed _)
  | scripted outcomes closes =>
    cases created
    exact absurd rfl (failed _)
  | blueprint described =>
    have unchanged := Action.eq_of_orUnchanged_failed created failed
    rw [unchanged]
    exact recorded
  | error error =>
    cases created
    exact recorded
  | panic text =>
    cases created
    exact recorded

/-- What a constructor does to its registration depends on the registries alone. -/
theorem registries_react {surroundings surroundings' : Surroundings}
    (same : surroundings.registries = surroundings'.registries) (position : Nat)
    (capability : String) (constructor : Constructor) :
    (surroundings.react position capability constructor).registries =
      (surroundings'.react position capability constructor).registries := by
  cases constructor with
  | plain label result => exact same
  | unregistering label result =>
    exact congrArg (fun registries => Cells.update position _ registries) same
  | replacing label result next =>
    exact congrArg (fun registries => Cells.update position _ registries) same

def withRegistries (registries : Cells (Bindings Constructor)) (surroundings : Surroundings) :
    Surroundings :=
  { surroundings with registries := registries }

theorem Quiet.withRegistries {earlier later : Surroundings} (quiet : earlier.Quiet later)
    (registries : Cells (Bindings Constructor)) :
    (earlier.withRegistries registries).Quiet (later.withRegistries registries) :=
  ⟨congrArg (Surroundings.withRegistries registries) quiet.rest, quiet.gained⟩

/-- Apart from quiet changes, the registries are as before or as the constructor that was registered
for web identities made them. -/
def Attempted (position : Nat) (earlier later : Surroundings) : Prop :=
  ∃ registries, (registries = earlier.registries ∨
    ∃ constructor, (earlier.registry position).get? webIdentity = some constructor ∧
      registries = (earlier.react position webIdentity constructor).registries) ∧
    (earlier.withRegistries registries).Quiet later

theorem Quiet.attempted {earlier later : Surroundings} (quiet : earlier.Quiet later)
    (position : Nat) : Attempted position earlier later :=
  ⟨earlier.registries, .inl rfl, quiet⟩

theorem Attempted.after_quiet {position : Nat} {earlier middle later : Surroundings}
    (attempted : Attempted position middle later) (quiet : earlier.Quiet middle) :
    Attempted position earlier later := by
  obtain ⟨registries, reaction, last⟩ := attempted
  have same : middle.registries = earlier.registries := by rw [quiet.rest]
  refine ⟨registries, ?_, (quiet.withRegistries registries).trans last⟩
  rcases reaction with unchanged | ⟨constructor, registered, reacted⟩
  · exact .inl (unchanged.trans same)
  · refine .inr ⟨constructor, ?_, reacted.trans (registries_react same _ _ _)⟩
    rw [registry, same] at registered
    exact registered

theorem Attempted.before_quiet {position : Nat} {earlier middle later : Surroundings}
    (attempted : Attempted position earlier middle) (quiet : middle.Quiet later) :
    Attempted position earlier later := by
  obtain ⟨registries, reaction, first⟩ := attempted
  exact ⟨registries, reaction, first.trans quiet⟩

/-- Looking up runs at most one constructor. -/
theorem attempted_lookUp {position : Nat} {surroundings after : Surroundings}
    {outcome : Outcome ResolutionError Factory}
    (lookedUp : lookUp position "web-identity-factory" surroundings = (outcome, after)) :
    Attempted position surroundings after := by
  have same : after = (lookUp position webIdentity surroundings).2 := by rw [webIdentity, lookedUp]
  rw [same, lookUp]
  split
  · exact (quiet_log _ surroundings).attempted position
  · rename_i constructor registered
    refine ⟨_, .inr ⟨constructor, registered, rfl⟩, ?_⟩
    have recorded : surroundings.Quiet (surroundings.record (.constructed constructor.label)) :=
      quiet_record rfl surroundings
    cases constructor with
    | plain label result => exact recorded
    | unregistering label result =>
      exact (recorded.withRegistries _).trans (quiet_record rfl _)
    | replacing label result next =>
      exact (recorded.withRegistries _).trans (quiet_log _ _)

theorem attempted_exchange {position : Nat} {roleArn tokenFile : String}
    {roleSessionName : Option String} {asked after : Surroundings}
    {exchanges : List (Exchange Factory Provider)} {outcome : Outcome ResolutionError Provider}
    (exchanged :
      ExchangesToken position roleArn roleSessionName tokenFile asked exchanges outcome after)
    (failed : ∀ provider, outcome ≠ .ok provider) : Attempted position asked after := by
  have logged := quiet_log (.resolvingWebIdentity roleArn tokenFile) asked
  cases exchanged with
  | tokenUnread unread => exact (logged.trans (quiet_readToken unread)).attempted position
  | factoryUnavailable read unavailable =>
    exact (attempted_lookUp unavailable).after_quiet (logged.trans (quiet_readToken read))
  | constructorPanics read panics =>
    exact (attempted_lookUp panics).after_quiet (logged.trans (quiet_readToken read))
  | created read lookedUp creates =>
    have attempted := (attempted_lookUp lookedUp).before_quiet (quiet_create creates failed)
    exact attempted.after_quiet (logged.trans (quiet_readToken read))

/-- A choice that fails at any point leaves no more behind than that. -/
theorem attempted_choose {source : Source} {position : Nat} {surroundings after : Surroundings}
    {outcome : Outcome ResolutionError Provider}
    (chosen : (means source position).choose surroundings = (outcome, after))
    (failed : ∀ provider, outcome ≠ .ok provider) : Attempted position surroundings after := by
  obtain ⟨exchanges, chooses⟩ :
      ∃ exchanges, Chooses source.load position surroundings exchanges outcome after :=
    ⟨_, chooses_of_choose chosen⟩
  cases chooses with
  | sourcePanics order answered panics =>
    exact ((quiet_askEach source answered).trans (quiet_load panics)).attempted position
  | decided answered decides =>
    refine Attempted.after_quiet ?_ (quiet_askEach source answered)
    cases decides with
    | accessKeyMissing noAccessKey => exact (Quiet.refl _).attempted position
    | secretKeyMissing accessKey noSecretKey => exact (Quiet.refl _).attempted position
    | sessionKeys accessKey secretKey noExchange hasSession => exact absurd rfl (failed _)
    | basicKeys accessKey secretKey noExchange noSession => exact absurd rfl (failed _)
    | webIdentity accessKey secretKey hasTokenFile hasRole exchanged =>
      exact attempted_exchange exchanged failed

end Surroundings

end CredentialResolution
