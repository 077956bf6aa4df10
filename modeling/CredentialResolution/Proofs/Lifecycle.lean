/-
This file shows that a provider over settings behaves as a machine with two states over every run of
calls, whatever fails, panics or changes in between.
-/

import CredentialResolution.Proofs.Apart
import CredentialResolution.Proofs.Release
import Mathlib.Control.Monad.Basic

namespace CredentialResolution

open Surroundings

/-- A turn is a call of the provider or a change from outside. -/
inductive Turn where
  | resolve
  | close
  | isResolved
  | change (outside : Surroundings → Surroundings)

namespace Turn

inductive Answer where
  | resolved (outcome : Outcome ResolutionError Credentials)
  | closed (result : Except ResolutionError Unit)
  | asked (resolved : Option Bool)
  | changed
  deriving DecidableEq

/-- The turns are answered one after the other, whatever the answers are. -/
def run {State : Type} (answer : Turn → State → Answer × State) :
    List Turn → State → List Answer × State
  | [], state => ([], state)
  | turn :: rest, state =>
    let (first, state) := answer turn state
    let (answers, state) := run answer rest state
    (first :: answers, state)

/-- The turns are answered in their order, and the later ones start where the earlier ones end. -/
theorem run_append {State : Type} (answer : Turn → State → Answer × State)
    (earlier later : List Turn) (state : State) :
    run answer (earlier ++ later) state =
      ((run answer earlier state).1 ++ (run answer later (run answer earlier state).2).1,
        (run answer later (run answer earlier state).2).2) := by
  induction earlier generalizing state with
  | nil => rfl
  | cons turn rest inductionHypothesis => simp only [List.cons_append, run, inductionHypothesis]

theorem length_run {State : Type} (answer : Turn → State → Answer × State) (turns : List Turn)
    (state : State) : (run answer turns state).1.length = turns.length := by
  induction turns generalizing state with
  | nil => rfl
  | cons turn rest inductionHypothesis => simp only [run, List.length_cons, inductionHypothesis]

/-- A change from outside spares a memo if it neither sees nor changes what is in there, and opens
no way back to it. -/
def Spares (position : Nat) (surroundings : Surroundings) : Turn → Prop
  | .change outside =>
    (∀ delegate, outside ((memo position).keep delegate surroundings) =
      (memo position).keep delegate (outside surroundings)) ∧
    surroundings.memos.count ≤ (outside surroundings).memos.count ∧
    (outside surroundings).Apart [position]
  | _ => True

end Turn

/-- This is what a provider itself answers. -/
def Provider.answer (provider : Provider) (nesting : Nat) :
    Turn → Surroundings → Turn.Answer × Surroundings
  | .resolve, surroundings => (provider.resolve nesting surroundings).map .resolved id
  | .close, surroundings => (provider.close surroundings).map .closed id
  | .isResolved, surroundings => (.asked (isResolved? provider surroundings), surroundings)
  | .change outside, surroundings => (.changed, outside surroundings)

/-- These surroundings are left after the turns. -/
def Provider.worldAfter (provider : Provider) (nesting : Nat) (start : Surroundings)
    (turns : List Turn) : Surroundings :=
  (Turn.run (provider.answer nesting) turns start).2

theorem Provider.worldAfter_append (provider : Provider) (nesting : Nat) (start : Surroundings)
    (turns : List Turn) (turn : Turn) :
    provider.worldAfter nesting start (turns ++ [turn]) =
      (provider.answer nesting turn (provider.worldAfter nesting start turns)).2 := by
  rw [worldAfter, Turn.run_append]
  rfl

/-- All changes from outside spare the memo when they happen. -/
def Provider.Undisturbed (provider : Provider) (nesting position : Nat) :
    List Turn → Surroundings → Prop
  | [], _ => True
  | turn :: rest, surroundings =>
    turn.Spares position surroundings ∧
      Undisturbed provider nesting position rest (provider.answer nesting turn surroundings).2

inductive Phase where
  | unresolved
  | resolved (numbered : Numbered Provider)

def Phase.delegate? : Phase → Option (Numbered Provider)
  | unresolved => none
  | resolved numbered => some numbered

/-- The machine is in one of its two states and keeps nothing in the world around it. -/
structure Machine where
  phase : Phase
  world : Surroundings

namespace Machine

/-- The delegate is resolved once and stays, however it answers. -/
def consult (nesting : Nat) (numbered : Numbered Provider) (world : Surroundings) :
    Turn.Answer × Machine :=
  (Numbered.resolve (Provider.resolve nesting) numbered world).map .resolved
    (.mk (.resolved numbered))

/-- An unresolved machine chooses once and consults what it has chosen; a resolved one consults its
delegate and does nothing else. -/
def answer (choose : Action Surroundings ResolutionError (Numbered Provider)) (nesting : Nat) :
    Turn → Machine → Turn.Answer × Machine
  | .resolve, ⟨.unresolved, world⟩ =>
    match choose world with
    | (.ok numbered, world) => consult nesting numbered world
    | (.error error, world) => (.resolved (.error error), ⟨.unresolved, world⟩)
    | (.panic text, world) => (.resolved (.panic text), ⟨.unresolved, world⟩)
  | .resolve, ⟨.resolved numbered, world⟩ => consult nesting numbered world
  | .close, ⟨.unresolved, world⟩ => (.closed (.ok ()), ⟨.unresolved, world⟩)
  | .close, ⟨.resolved numbered, world⟩ =>
    (.closed (.ok ()), ⟨.unresolved, numbered.release world⟩)
  | .isResolved, machine => (.asked (some machine.phase.delegate?.isSome), machine)
  | .change outside, machine => (.changed, { machine with world := outside machine.world })

/-- A provider is in the state of the machine if its memo holds what the machine holds. -/
def surroundings (position : Nat) (machine : Machine) : Surroundings :=
  (memo position).keep machine.phase.delegate? machine.world

/-- Nothing leads back to the memo, which is empty in the world of the machine. -/
def Alone (position : Nat) (machine : Machine) : Prop :=
  ∃ zone, Beside position machine.phase.delegate? zone machine.world

/-- The provider and the machine give the same answer and are left in the same state. -/
structure Matches (position : Nat) (actual : Turn.Answer × Surroundings)
    (ideal : Turn.Answer × Machine) : Prop where
  answer : actual.1 = ideal.1
  state : actual.2 = ideal.2.surroundings position
  alone : ideal.2.Alone position

end Machine

namespace Surroundings.Beside

variable {position : Nat} {delegate : Option (Numbered Provider)} {zone : Nat → Prop}
  {world : Surroundings}

/-- Another delegate within the zone may be held instead. -/
theorem hold (beside : Beside position delegate zone world) (other : Option (Numbered Provider))
    (within : ∀ numbered, other = some numbered → numbered.delegate.Within zone) :
    Beside position other zone world := by
  refine ⟨beside.empty, beside.present, beside.encloses.outside, ?_, ?_, beside.encloses.registers⟩
  · intro position' large
    apply beside.encloses.later
    change (world.memos.update position fun _ => other).count ≤ position' at large
    change (world.memos.update position fun _ => delegate).count ≤ position'
    rw [Cells.count_update] at large ⊢
    exact large
  · intro position' numbered placed held
    rw [held_keep world beside.present] at held
    split at held
    · exact within numbered held
    · rename_i different
      apply beside.encloses.held position' numbered placed
      rw [held_keep world beside.present, if_neg different]
      exact held

/-- A choice stays within the zone, and so does what it chooses. -/
theorem choose (beside : Beside position none zone world) (source : Source) (registry : Nat) :
    Beside position none zone (Numbered.choose (means source registry).choose world).2 ∧
      ∀ numbered, (Numbered.choose (means source registry).choose world).1 = .ok numbered →
        Beside position (some numbered) zone
          (Numbered.choose (means source registry).choose world).2 := by
  have start := beside.states
  obtain ⟨alike, left⟩ := Pairing.choose_agrees source registry start
  have after := beside.of_states left
  refine ⟨after, ?_⟩
  intro numbered chosen
  apply after.hold
  rintro _ ⟨⟩
  rw [keep_none_of_empty beside.empty, chosen] at alike
  cases alike with
  | ok paired => exact paired.delegate

/-- The delegate does not see itself in the memo. -/
theorem consult {numbered : Numbered Provider} (beside : Beside position (some numbered) zone world)
    (nesting : Nat) :
    Numbered.resolve (Provider.resolve nesting) numbered
        ((memo position).keep (some numbered) world) =
      ((Numbered.resolve (Provider.resolve nesting) numbered world).1,
        (memo position).keep (some numbered)
          (Numbered.resolve (Provider.resolve nesting) numbered world).2) ∧
      Beside position (some numbered) zone
        (Numbered.resolve (Provider.resolve nesting) numbered world).2 := by
  apply beside.run_keep
  intro surroundings surroundings' related
  have within : Provider.Paired beside.pairing.pairs numbered.delegate numbered.delegate :=
    beside.delegate_within rfl
  exact Pairing.resolve_agrees nesting within (Pairing.record_states _ related)

/-- Releasing a delegate leads nowhere else. -/
theorem release (beside : Beside position none zone world) (numbered : Numbered Provider) :
    Beside position none zone (numbered.release world) := by
  have released := Numbered.releases_release numbered world
  have empty : (memo position).held (numbered.release world) = none := by
    rcases released.held position with same | empty
    · rw [same]
      exact beside.empty
    · exact empty
  have encloses := beside.encloses
  rw [keep_none_of_empty beside.empty] at encloses
  refine ⟨empty, ?_, ?_⟩
  · rw [released.count]
    exact beside.present
  · rw [keep_none_of_empty empty]
    refine ⟨encloses.outside, ?_, ?_, ?_⟩
    · rw [released.count]
      exact encloses.later
    · intro other held placed holds
      rcases released.held other with same | nothing
      · exact encloses.held other held placed (same ▸ holds)
      · rw [nothing] at holds
        cases holds
    · rw [released.rest]
      exact encloses.registers

end Surroundings.Beside

namespace Machine

section Steps

variable {position nesting : Nat} {source : Source} {registry : Nat} {machine : Machine}

theorem held_surroundings (alone : machine.Alone position) :
    (memo position).held (machine.surroundings position) = machine.phase.delegate? := by
  obtain ⟨zone, beside⟩ := alone
  rw [surroundings, held_keep machine.world beside.present, if_pos rfl]

/-- The delegate is consulted alike by the provider and by the machine. -/
theorem consult_matches {numbered : Numbered Provider} {world : Surroundings}
    (alone : (Machine.mk (.resolved numbered) world).Alone position) :
    Matches position
      ((Numbered.resolve (Provider.resolve nesting) numbered
        ((memo position).keep (some numbered) world)).map .resolved id)
      (consult nesting numbered world) := by
  obtain ⟨zone, beside⟩ := alone
  obtain ⟨same, after⟩ := beside.consult nesting
  rw [same]
  exact ⟨rfl, rfl, zone, after⟩

theorem resolve_matches (alone : machine.Alone position) :
    Matches position
      (Provider.answer (.single (.settings source registry position)) (nesting + 1) .resolve
        (machine.surroundings position))
      (machine.answer (Numbered.choose (means source registry).choose) nesting .resolve) := by
  have held := held_surroundings alone
  rw [Provider.answer, Provider.resolve_settings]
  obtain ⟨phase, world⟩ := machine
  cases phase with
  | resolved numbered =>
    rw [Memo.resolve_of_held held]
    exact consult_matches alone
  | unresolved =>
    obtain ⟨zone, beside⟩ := alone
    have start : (Machine.mk .unresolved world).surroundings position = world :=
      keep_none_of_empty beside.empty
    rw [start] at held ⊢
    obtain ⟨unchosen, chosen⟩ := beside.choose source registry
    rw [answer]
    rcases ran : Numbered.choose (means source registry).choose world with
      ⟨numbered | error | text, after⟩
    · rw [ran] at chosen
      rw [Memo.resolve_of_chosen held ran]
      exact consult_matches ⟨zone, chosen numbered rfl⟩
    · rw [ran] at unchosen
      rw [Memo.resolve_of_failed held ran]
      exact ⟨rfl, (keep_none_of_empty unchosen.empty).symm, zone, unchosen⟩
    · rw [ran] at unchosen
      rw [Memo.resolve_of_panicked held ran]
      exact ⟨rfl, (keep_none_of_empty unchosen.empty).symm, zone, unchosen⟩

theorem close_matches (alone : machine.Alone position) :
    Matches position
      (Provider.answer (.single (.settings source registry position)) (nesting + 1) .close
        (machine.surroundings position))
      (machine.answer (Numbered.choose (means source registry).choose) nesting .close) := by
  have held := held_surroundings alone
  rw [Provider.answer]
  obtain ⟨phase, world⟩ := machine
  cases phase with
  | unresolved =>
    rw [Provider.close_of_empty held]
    exact ⟨rfl, rfl, alone⟩
  | resolved numbered =>
    obtain ⟨zone, beside⟩ := alone
    have emptied : Beside position none zone world := by
      apply beside.hold
      rintro _ ⟨⟩
    have released := emptied.release numbered
    rw [Provider.close_of_held held, surroundings, keep_keep, keep_none_of_empty beside.empty]
    exact ⟨rfl, (keep_none_of_empty released.empty).symm, zone, released⟩

/-- A change that spares the memo is the same change in the world of the machine. -/
theorem change_matches (alone : machine.Alone position) {outside : Surroundings → Surroundings}
    (spares : (Turn.change outside).Spares position (machine.surroundings position)) :
    Matches position
      (Provider.answer (.single (.settings source registry position)) (nesting + 1)
        (.change outside) (machine.surroundings position))
      (machine.answer (Numbered.choose (means source registry).choose) nesting
        (.change outside)) := by
  obtain ⟨phase, world⟩ := machine
  obtain ⟨zone, beside⟩ := alone
  obtain ⟨commutes, grows, newZone, encloses⟩ := spares
  have world_eq : outside world =
      (memo position).keep none (outside ((Machine.mk phase world).surroundings position)) := by
    rw [← commutes none, surroundings, keep_keep, keep_none_of_empty beside.empty]
  have state : outside ((Machine.mk phase world).surroundings position) =
      (memo position).keep phase.delegate? (outside world) := by
    rw [world_eq, keep_keep, ← commutes, surroundings, keep_keep]
  have count : ((Machine.mk phase world).surroundings position).memos.count = world.memos.count :=
    Cells.count_update _ _ _
  rw [count] at grows
  have present := Nat.lt_of_lt_of_le beside.present grows
  refine ⟨rfl, state, newZone, ?_, ?_, ?_⟩
  · change (memo position).held (outside world) = none
    rw [world_eq, held_keep _ present, if_pos rfl]
  · change position < (outside world).memos.count
    rw [world_eq]
    exact (Cells.count_update _ _ _).symm ▸ present
  · change ((memo position).keep phase.delegate? (outside world)).Encloses newZone [position]
    rw [← state]
    exact encloses

/-- Each turn goes alike in the provider and in the machine. -/
theorem answer_matches (alone : machine.Alone position) (turn : Turn)
    (spares : turn.Spares position (machine.surroundings position)) :
    Matches position
      (Provider.answer (.single (.settings source registry position)) (nesting + 1) turn
        (machine.surroundings position))
      (machine.answer (Numbered.choose (means source registry).choose) nesting turn) := by
  cases turn with
  | resolve => exact resolve_matches alone
  | close => exact close_matches alone
  | isResolved =>
    refine ⟨?_, rfl, alone⟩
    change Turn.Answer.asked (some ((memo position).held (machine.surroundings position)).isSome) =
      .asked (some machine.phase.delegate?.isSome)
    rw [held_surroundings alone]
  | change outside => exact change_matches alone spares

/-- Whole runs go alike in the provider and in the machine, and nothing ever leads back. -/
theorem run_matches (alone : machine.Alone position) (turns : List Turn)
    (undisturbed : Provider.Undisturbed (.single (.settings source registry position))
      (nesting + 1) position turns (machine.surroundings position)) :
    let ended := Turn.run (answer (Numbered.choose (means source registry).choose) nesting) turns
      machine
    Turn.run (Provider.answer (.single (.settings source registry position)) (nesting + 1)) turns
        (machine.surroundings position) = (ended.1, ended.2.surroundings position) ∧
      ended.2.Alone position := by
  induction turns generalizing machine with
  | nil => exact ⟨rfl, alone⟩
  | cons turn rest inductionHypothesis =>
    obtain ⟨spares, later⟩ := undisturbed
    obtain ⟨same, state, still⟩ := answer_matches alone turn spares
    rw [state] at later
    obtain ⟨rested, last⟩ := inductionHypothesis still later
    refine ⟨?_, last⟩
    simp only [Turn.run]
    rw [state, rested, same]

end Steps

end Machine

/-- Over every run of calls and of changes from outside, a provider that has chosen nothing yet
gives the answers of the machine and leaves behind what the machine leaves behind. -/
theorem Provider.run_eq_machine (source : Source) (registry position nesting : Nat)
    (turns : List Turn) (start : Surroundings)
    (unresolved : (memo position).held start = none) (present : position < start.memos.count)
    (apart : start.Apart [position])
    (undisturbed : Provider.Undisturbed (.single (.settings source registry position))
      (nesting + 1) position turns start) :
    Turn.run (Provider.answer (.single (.settings source registry position)) (nesting + 1)) turns
        start =
      (Turn.run (Machine.answer (Numbered.choose (means source registry).choose) nesting) turns
        ⟨.unresolved, start⟩).map id (Machine.surroundings position) := by
  have same : (Machine.mk .unresolved start).surroundings position = start :=
    keep_none_of_empty unresolved
  obtain ⟨zone, encloses⟩ := apart
  have alone : (Machine.mk .unresolved start).Alone position := by
    refine ⟨zone, unresolved, present, ?_⟩
    change ((Machine.mk .unresolved start).surroundings position).Encloses zone [position]
    rw [same]
    exact encloses
  rw [← same] at undisturbed
  have matched := (Machine.run_matches alone turns undisturbed).1
  rw [same] at matched
  exact matched

/-- The delegate of a new provider fails once and stays in the memo. Then the token file is gone,
other keys are set and another constructor is registered; the provider still consults its delegate,
and after it was closed it chooses from what is set now. -/
theorem Provider.run_of_new_provider :
    let failure : ResolutionError := .provider "not yet"
    let first : Constructor := .plain "first" (.ok (.scripted
      (.next (.error failure) (.always (.ok (.basic "key" "secret")))) (.always (.error failure))))
    let later : Constructor := .plain "later" (.panic "not again")
    let registering (constructor : Constructor) : Cells (Bindings Constructor) :=
      .ofFirst (Bindings.empty.insert webIdentity constructor)
    let start := (addMemo
      { Surroundings.initial (.ofUnix 0 0)
          ⟨[([Bytes.ofText "token"], .file (Bytes.ofText "content"))]⟩ with
        environment := .ofList [("AWS_ACCESS_KEY_ID", .ofText "id"),
          ("AWS_SECRET_ACCESS_KEY", .ofText "secret"), ("AWS_ROLE_ARN", .ofText "role"),
          ("AWS_WEB_IDENTITY_TOKEN_FILE", .ofText "/token")]
        registries := registering first }).2
    let outside (surroundings : Surroundings) : Surroundings :=
      { surroundings with
        environment := .ofList [("AWS_ACCESS_KEY_ID", .ofText "other"),
          ("AWS_SECRET_ACCESS_KEY", .ofText "one")]
        files := ⟨[]⟩
        registries := registering later }
    let provider : Provider := .single (.settings .process processWide 0)
    let machine := Machine.answer (Numbered.choose (means .process processWide).choose) 1
    let turns := [.resolve, .change outside, .resolve, .isResolved, .close, .resolve]
    ((memo 0).held start = none ∧ 0 < start.memos.count ∧ start.Apart [0] ∧
        provider.Undisturbed 2 0 turns start) ∧
      Turn.run (provider.answer 2) turns start =
        (Turn.run machine turns ⟨.unresolved, start⟩).map id (Machine.surroundings 0) ∧
      (Turn.run machine turns ⟨.unresolved, start⟩).1 =
        [.resolved (.error failure), .changed, .resolved (.ok (.basic "key" "secret")),
          .asked (some true), .closed (.ok ()), .resolved (.ok (.basic "other" "one"))] := by
  intro failure first later registering start outside provider machine turns
  let chosen := (provider.answer 2 .resolve start).2
  have memos : chosen.memos = ⟨#[some ⟨0, .single (.scripted 0)⟩]⟩ := rfl
  have startsApart : start.Apart [0] := by
    apply apart_of_idle (by decide) _ (registers_of_single rfl (List.forall_mem_nil _))
    intro position
    cases position <;> rfl
  have staysApart : (outside chosen).Apart [0] := by
    apply apart_of_unused _ _ (registers_of_single rfl (List.forall_mem_nil _))
    · change ∀ position ∈ [0], position < chosen.memos.count
      rw [memos]
      decide
    · intro position numbered held
      change (chosen.memos.get? position).join = some numbered at held
      rw [memos] at held
      cases position with
      | succ position => cases held
      | zero =>
        cases held
        exact .single (.scripted 0)
  have undisturbed : provider.Undisturbed 2 0 turns start :=
    ⟨trivial, ⟨fun _ => rfl, Nat.le_refl _, staysApart⟩, trivial, trivial, trivial, trivial, trivial⟩
  have same := Provider.run_eq_machine .process processWide 0 1 turns start rfl (by decide)
    startsApart undisturbed
  exact ⟨⟨rfl, by decide, startsApart, undisturbed⟩, same, by decide +kernel⟩

end CredentialResolution
