/-
This file tells the lives of delegates from the journal. A choice that shares nothing adds empty
memos and touches no life; what it chooses uses only the memos that it added.
-/

import CredentialResolution.Proofs.Attempt
import CredentialResolution.Proofs.Members
import CredentialResolution.Proofs.Pairing

namespace CredentialResolution

/-- Only the events in the life of a delegate carry its serial number. -/
def Event.serial? : Event → Option Nat
  | chosen serial => some serial
  | consulted serial => some serial
  | released serial => some serial
  | _ => none

theorem Event.serial?_of_ofDelegate {event : Event} (quiet : event.ofDelegate = false) :
    event.serial? = none := by
  cases event <;> first | rfl | cases quiet

/-- A provider uses the memos of the providers over settings in it. -/
def Provider.Uses (provider : Provider) (position : Nat) : Prop :=
  ∃ source registry, .settings source registry position ∈ ChainTree.members provider

theorem Provider.not_uses_fixed (credentials : Credentials) (position : Nat) :
    ¬ (Provider.fixed credentials).Uses position := by
  rintro ⟨source, registry, listed⟩
  simp [Provider.fixed, ChainTree.members] at listed

theorem Provider.not_uses_scripted (script position : Nat) :
    ¬ Provider.Uses (.single (.scripted script)) position := by
  rintro ⟨source, registry, listed⟩
  simp [ChainTree.members] at listed

theorem Provider.uses_settings {source : Source} {registry memo position : Nat} :
    Provider.Uses (.single (.settings source registry memo)) position ↔ position = memo := by
  simp [Provider.Uses, ChainTree.members]

namespace Surroundings

section Lives

variable {surroundings earlier later : Surroundings} {event : Event} {serial : Nat}

/-- The life of a delegate is what happened under its serial number, oldest first. -/
def life (serial : Nat) (surroundings : Surroundings) : List Event :=
  surroundings.events.filter fun event => event.serial? = some serial

theorem life_record_of_eq (own : event.serial? = some serial) :
    (surroundings.record event).life serial = surroundings.life serial ++ [event] := by
  simp [life, own]

theorem life_record_of_ne (other : event.serial? ≠ some serial) :
    (surroundings.record event).life serial = surroundings.life serial := by
  simp [life, other]

theorem life_of_gained {events : List Event} (gained : later.journal = events ++ earlier.journal)
    (nameless : ∀ event ∈ events, event.serial? = none) (serial : Nat) :
    later.life serial = earlier.life serial := by
  have none : (events.filter fun event => event.serial? = some serial) = [] := by
    rw [List.filter_eq_nil_iff]
    intro event among
    rw [nameless event among]
    simp
  simp only [life, Surroundings.events, gained, List.filter_reverse, List.filter_append, none,
    List.nil_append]

end Lives

/-- No delegate was chosen, consulted or released, memos hold what they held, and new ones nothing.
-/
structure Calm (earlier later : Surroundings) : Prop where
  count : earlier.memos.count ≤ later.memos.count
  held : ∀ position, (memo position).held later = (memo position).held earlier
  chosenCount : later.chosenCount = earlier.chosenCount
  life : ∀ serial, later.life serial = earlier.life serial
  unshared : (earlier.Registers fun _ => False) → later.Registers fun _ => False

section Calm

variable {earlier middle later surroundings : Surroundings}

theorem Calm.refl (surroundings : Surroundings) : surroundings.Calm surroundings :=
  ⟨Nat.le_refl _, fun _ => rfl, rfl, fun _ => rfl, id⟩

theorem Calm.trans (first : earlier.Calm middle) (second : middle.Calm later) :
    earlier.Calm later where
  count := Nat.le_trans first.count second.count
  held position := (second.held position).trans (first.held position)
  chosenCount := second.chosenCount.trans first.chosenCount
  life serial := (second.life serial).trans (first.life serial)
  unshared := second.unshared ∘ first.unshared

theorem calm_record {event : Event} (nameless : event.serial? = none)
    (surroundings : Surroundings) : surroundings.Calm (surroundings.record event) := by
  refine ⟨Nat.le_refl _, fun _ => rfl, rfl, fun serial => life_record_of_ne ?_, id⟩
  rw [nameless]
  exact nofun

theorem calm_log (entry : LogEntry) (surroundings : Surroundings) :
    surroundings.Calm (surroundings.log entry) :=
  calm_record rfl surroundings

theorem calm_setScriptedDelegate (script : Nat) (delegate : ScriptedDelegate)
    (surroundings : Surroundings) :
    surroundings.Calm (surroundings.setScriptedDelegate script delegate) :=
  ⟨Nat.le_refl _, fun _ => rfl, rfl, fun _ => rfl, id⟩

theorem calm_resolveScripted (script : Nat) (surroundings : Surroundings) :
    surroundings.Calm (resolveScripted script surroundings).2 := by
  rw [resolveScripted]
  cases surroundings.scriptedDelegates.get? script with
  | none => exact .refl surroundings
  | some delegate => exact (calm_setScriptedDelegate script _ _).trans (calm_record rfl _)

theorem calm_closeScripted (script : Nat) (surroundings : Surroundings) :
    surroundings.Calm (surroundings.closeScripted script).2 := by
  rw [closeScripted]
  cases surroundings.scriptedDelegates.get? script with
  | none => exact .refl surroundings
  | some delegate => exact (calm_setScriptedDelegate script _ _).trans (calm_record rfl _)

theorem Quiet.calm (quiet : earlier.Quiet later) : earlier.Calm later := by
  obtain ⟨events, gained, withoutDelegate⟩ := quiet.gained
  have memos : later.memos = earlier.memos := by rw [quiet.rest]
  have registries : later.registries = earlier.registries := by rw [quiet.rest]
  refine ⟨Nat.le_of_eq (by rw [memos]), ?_, by rw [quiet.rest], ?_, ?_⟩
  · intro position
    exact congrArg (fun memos => (memos.get? position).join) memos
  · exact life_of_gained gained fun event among =>
      Event.serial?_of_ofDelegate (withoutDelegate event among)
  · intro unshared position capability constructor registered
    rw [registry, registries] at registered
    exact unshared registered

/-- A reaction of a constructor brings no other providers into play. -/
theorem Attempted.calm {position : Nat} (attempted : Attempted position earlier later) :
    earlier.Calm later := by
  obtain ⟨registries, reaction, quiet⟩ := attempted
  have reacted : earlier.Calm (earlier.withRegistries registries) := by
    refine ⟨Nat.le_refl _, fun _ => rfl, rfl, fun _ => rfl, ?_⟩
    intro unshared
    rcases reaction with rfl | ⟨constructor, registered, rfl⟩
    · exact unshared
    · exact registers_react unshared registered
  exact reacted.trans quiet.calm

theorem calm_addMemo (surroundings : Surroundings) :
    surroundings.Calm (addMemo surroundings).2 := by
  refine ⟨?_, ?_, rfl, fun _ => rfl, id⟩
  · rw [addMemo, Cells.count_add]
    exact Nat.le_succ _
  · intro position
    change ((surroundings.memos.add none).get? position).join = _
    rw [Cells.get?_add]
    split
    · rename_i new
      exact (congrArg Option.join (Cells.get?_eq_none (Nat.le_of_eq new.symm))).symm
    · rfl

end Calm

/-- All memos that the provider uses were added in between. -/
def Adds (provider : Provider) (earlier later : Surroundings) : Prop :=
  ∀ position, provider.Uses position →
    earlier.memos.count ≤ position ∧ position < later.memos.count

end Surroundings

open Surroundings

section Building

variable {earlier later : Surroundings}

theorem eq_of_named {Failure Value : Type} {name : String} {find? : Surroundings → Option Value}
    {value : Value}
    (found : (named name find? earlier : Outcome Failure Value × Surroundings) =
      (.ok value, later)) : later = earlier := by
  rw [named] at found
  split at found
  · exact (congrArg Prod.snd found).symm
  · cases found

theorem calm_buildSource {blueprint : SourceBlueprint} {source : Source}
    (built : blueprint.build earlier = (.ok source, later)) : earlier.Calm later := by
  cases blueprint with
  | fixedVariables entries | process =>
    cases built
    exact .refl earlier
  | properties entries | scripted source =>
    cases built
    exact ⟨Nat.le_refl _, fun _ => rfl, rfl, fun _ => rfl, id⟩
  | store name =>
    obtain ⟨position, middle, found, ended⟩ := Action.bind_eq_ok.mp built
    cases ended
    rw [eq_of_named found]
    exact .refl earlier
  | named name =>
    rw [SourceBlueprint.build] at built
    rw [eq_of_named built]
    exact .refl earlier

theorem calm_findRegistry {name : Option String} {registry : Nat}
    (found : ProviderBlueprint.findRegistry name earlier = (.ok registry, later)) :
    earlier.Calm later := by
  cases name with
  | none =>
    cases found
    exact .refl earlier
  | some name =>
    rw [ProviderBlueprint.findRegistry] at found
    rw [eq_of_named found]
    exact .refl earlier

/-- A new provider over settings uses the one memo that it adds. -/
theorem adds_overSettings {Failure : Type} {source : Source} {registry : Nat} {provider : Provider}
    (built : (Provider.overSettings source registry : Action Surroundings Failure Provider)
      earlier = (.ok provider, later)) :
    earlier.Calm later ∧ Adds provider earlier later := by
  cases built
  refine ⟨calm_addMemo earlier, ?_⟩
  intro position uses
  rw [Provider.uses_settings.mp uses]
  have count : (addMemo earlier).2.memos.count = earlier.memos.count + 1 := Cells.count_add _ _
  exact ⟨Nat.le_refl _, Nat.lt_of_lt_of_eq (Nat.lt_succ_self _) count.symm⟩

theorem adds_scripted {Failure : Type} {delegate : ScriptedDelegate} {provider : Provider}
    (built : (Provider.scripted delegate : Action Surroundings Failure Provider) earlier =
      (.ok provider, later)) :
    earlier.Calm later ∧ Adds provider earlier later := by
  cases built
  refine ⟨⟨Nat.le_refl _, fun _ => rfl, rfl, fun _ => rfl, id⟩, ?_⟩
  intro position uses
  exact absurd uses (Provider.not_uses_scripted _ position)

theorem adds_fixed (credentials : Credentials) (calm : earlier.Calm later) :
    earlier.Calm later ∧ Adds (Provider.fixed credentials) earlier later :=
  ⟨calm, fun position uses => absurd uses (Provider.not_uses_fixed credentials position)⟩

/-- What a chain adds is what its first member and the other members add. -/
theorem adds_cons {middle : Surroundings} {first : Provider} {rest : List Provider}
    (calm : earlier.Calm middle) (addsFirst : Adds first earlier middle)
    (calmRest : middle.Calm later) (addsRest : Adds (.chain rest) middle later) :
    earlier.Calm later ∧ Adds (.chain (first :: rest)) earlier later := by
  refine ⟨calm.trans calmRest, ?_⟩
  rintro position ⟨source, registry, listed⟩
  have grown := calm.count
  have grown' := calmRest.count
  simp only [ChainTree.members, ChainTree.membersOfAll, List.mem_append] at listed
  rcases listed with among | among
  · have added := addsFirst position ⟨source, registry, among⟩
    omega
  · have added := addsRest position ⟨source, registry, by simpa [ChainTree.members] using among⟩
    omega

theorem adds_nil (surroundings : Surroundings) :
    surroundings.Calm surroundings ∧ Adds (.chain []) surroundings surroundings := by
  refine ⟨.refl surroundings, ?_⟩
  rintro position ⟨source, registry, listed⟩
  simp [ChainTree.members, ChainTree.membersOfAll] at listed

mutual

/-- A blueprint that shares nothing builds a provider that uses new memos only. -/
theorem adds_build : ∀ (blueprint : ProviderBlueprint), (∀ name ∈ blueprint.mentioned, False) →
    ∀ {earlier later : Surroundings} {provider : Provider},
      blueprint.build earlier = (.ok provider, later) →
        earlier.Calm later ∧ Adds provider earlier later
  | .fixed credentials, _, earlier, later, provider, built => by
    simp only [ProviderBlueprint.build] at built
    cases built
    exact adds_fixed credentials (.refl earlier)
  | .scripted delegate, _, earlier, later, provider, built => by
    simp only [ProviderBlueprint.build] at built
    exact adds_scripted built
  | .settings source registry, _, earlier, later, provider, built => by
    simp only [ProviderBlueprint.build] at built
    obtain ⟨source, first, builtSource, built⟩ := Action.bind_eq_ok.mp built
    obtain ⟨registry, second, found, built⟩ := Action.bind_eq_ok.mp built
    have calm := (calm_buildSource builtSource).trans (calm_findRegistry found)
    obtain ⟨calmLast, adds⟩ := adds_overSettings built
    refine ⟨calm.trans calmLast, ?_⟩
    intro position uses
    have added := adds position uses
    have grown := calm.count
    omega
  | .chain members, unshared, earlier, later, provider, built => by
    simp only [ProviderBlueprint.build] at built
    simp only [ProviderBlueprint.mentioned] at unshared
    obtain ⟨trees, middle, builtMembers, ended⟩ := Action.bind_eq_ok.mp built
    cases ended
    exact adds_buildMembers members unshared builtMembers
  | .defaultChain, _, earlier, later, provider, built => by
    simp only [ProviderBlueprint.build] at built
    obtain ⟨properties, first, builtFirst, built⟩ := Action.bind_eq_ok.mp built
    obtain ⟨environment, second, builtSecond, ended⟩ := Action.bind_eq_ok.mp built
    cases ended
    obtain ⟨calmFirst, addsFirst⟩ := adds_overSettings builtFirst
    obtain ⟨calmSecond, addsSecond⟩ := adds_overSettings builtSecond
    obtain ⟨calmNone, addsNone⟩ := adds_nil later
    obtain ⟨calmRest, addsRest⟩ := adds_cons calmSecond addsSecond calmNone addsNone
    exact adds_cons calmFirst addsFirst calmRest addsRest
  | .named name, unshared, earlier, later, provider, built => by
    simp only [ProviderBlueprint.mentioned] at unshared
    exact (unshared name (List.mem_singleton_self name)).elim

theorem adds_buildMembers : ∀ (members : List ProviderBlueprint),
    (∀ name ∈ ProviderBlueprint.mentionedMembers members, False) →
    ∀ {earlier later : Surroundings} {trees : List Provider},
      ProviderBlueprint.buildMembers members earlier = (.ok trees, later) →
        earlier.Calm later ∧ Adds (.chain trees) earlier later
  | [], _, earlier, later, trees, built => by
    simp only [ProviderBlueprint.buildMembers] at built
    cases built
    exact adds_nil earlier
  | first :: rest, unshared, earlier, later, trees, built => by
    simp only [ProviderBlueprint.buildMembers] at built
    simp only [ProviderBlueprint.mentionedMembers, List.mem_append] at unshared
    obtain ⟨tree, middle, builtFirst, built⟩ := Action.bind_eq_ok.mp built
    obtain ⟨others, last, builtRest, ended⟩ := Action.bind_eq_ok.mp built
    cases ended
    obtain ⟨calm, adds⟩ :=
      adds_build first (fun name mentions => unshared name (.inl mentions)) builtFirst
    obtain ⟨calmRest, addsRest⟩ :=
      adds_buildMembers rest (fun name mentions => unshared name (.inr mentions)) builtRest
    exact adds_cons calm adds calmRest addsRest

end

theorem Action.of_orUnchanged_ok {State Failure Value : Type} {action : Action State Empty Value}
    {state after : State} {value : Value}
    (ran : (action.orUnchanged.widen : Action State Failure Value) state = (.ok value, after)) :
    action state = (.ok value, after) := by
  rcases ended : action state with ⟨value | failure | text, left⟩ <;>
    simp only [widen, orUnchanged, ended] at ran
  · cases ran
    rfl
  · exact failure.elim
  · cases ran

theorem adds_create {factory : Factory} {roleArn token : String} {roleSessionName : Option String}
    {provider : Provider} (unshared : ∀ name ∈ factory.creation.mentioned, False)
    (created : factory.create roleArn roleSessionName token earlier = (.ok provider, later)) :
    earlier.Calm later ∧ Adds provider earlier later := by
  obtain ⟨label, creation⟩ := factory
  let recorded := earlier.record (.created label roleArn roleSessionName token)
  have calm : earlier.Calm recorded := calm_record rfl earlier
  suffices added : recorded.Calm later ∧ Adds provider recorded later from
    ⟨calm.trans added.1, added.2⟩
  cases creation with
  | echo =>
    cases created
    exact adds_fixed _ (.refl recorded)
  | scripted outcomes closes => exact adds_scripted created
  | blueprint described =>
    exact adds_build described unshared (Action.of_orUnchanged_ok created)
  | error error => cases created
  | panic text => cases created

theorem unshared_of_lookUp {registry : Nat} {capability : String} {factory : Factory}
    (unshared : earlier.Registers fun _ => False)
    (found : lookUp registry capability earlier = (.ok factory, later)) :
    ∀ name ∈ factory.creation.mentioned, False := by
  rw [lookUp] at found
  split at found
  · cases found
  · rename_i constructor registered
    have constructed : constructor.outcome = .ok factory := congrArg Prod.fst found
    intro name mentions
    exact unshared registered name (Constructor.mentioned_of_outcome constructed mentions)

/-- A choice that shares nothing chooses what uses new memos only, and a choice that fails is calm
as well. -/
theorem adds_choose {source : Source} {registry : Nat} {outcome : Outcome ResolutionError Provider}
    (unshared : earlier.Registers fun _ => False)
    (chosen : (means source registry).choose earlier = (outcome, later)) :
    earlier.Calm later ∧ ∀ provider, outcome = .ok provider → Adds provider earlier later := by
  cases outcome with
  | error error => exact ⟨(attempted_choose chosen nofun).calm, nofun⟩
  | panic text => exact ⟨(attempted_choose chosen nofun).calm, nofun⟩
  | ok provider =>
    suffices both : earlier.Calm later ∧ Adds provider earlier later by
      refine ⟨both.1, ?_⟩
      rintro _ ⟨⟩
      exact both.2
    obtain ⟨exchanges, chooses⟩ :
        ∃ exchanges, Chooses source.load registry earlier exchanges (.ok provider) later :=
      ⟨_, chooses_of_choose chosen⟩
    cases chooses with
    | decided answered decides =>
      have asked := (quiet_askEach source answered).calm
      cases decides with
      | sessionKeys accessKey secretKey noExchange hasSession =>
        exact adds_fixed _ (asked.trans (calm_log _ _))
      | basicKeys accessKey secretKey noExchange noSession =>
        exact adds_fixed _ (asked.trans (calm_log _ _))
      | webIdentity accessKey secretKey hasTokenFile hasRole exchanged =>
        cases exchanged with
        | created read lookedUp creates =>
          have found := (calm_log _ _).trans (quiet_readToken read).calm
          have available := found.trans (attempted_lookUp lookedUp).calm
          have shares := unshared_of_lookUp (found.unshared (asked.unshared unshared)) lookedUp
          obtain ⟨calm, adds⟩ := adds_create shares creates
          have all := asked.trans available
          refine ⟨all.trans calm, ?_⟩
          intro position uses
          have added := adds position uses
          have grown := all.count
          omega

end Building

end CredentialResolution
