/-
This file follows the credentials that are made of loaded keys through the runs of a provider. As
long as the provider keeps them, it answers with them, and they are as trimmed as they were loaded.
-/

import CredentialResolution.Proofs.LastingFacts
import CredentialResolution.Proofs.Lifecycle
import CredentialResolution.Proofs.Trimming
import Mathlib.Data.List.Induction

namespace CredentialResolution

open Surroundings

/-- This depends on the memos alone, and new memos do not matter. -/
structure Surroundings.OfMemos (Keeps : Surroundings → Prop) : Prop where
  same : ∀ {earlier later : Surroundings}, later.memos = earlier.memos → Keeps earlier →
    Keeps later
  addMemo : ∀ surroundings, Keeps surroundings → Keeps (addMemo surroundings).2

theorem Surroundings.OfMemos.lastsChoosing {Keeps : Surroundings → Prop} (ofMemos : OfMemos Keeps) :
    LastsChoosing Keeps where
  record _ _ := ofMemos.same rfl
  addStore _ _ := ofMemos.same rfl
  addSource _ _ := ofMemos.same rfl
  addDelegate _ _ := ofMemos.same rfl
  addMemo := ofMemos.addMemo
  sources _ _ := ofMemos.same rfl
  registries _ _ := ofMemos.same rfl
  count _ _ := ofMemos.same rfl

section Holding

variable {position : Nat} {numbered : Numbered Provider} {surroundings : Surroundings}

theorem held_keep_of_ne {own : Nat} (different : position ≠ own)
    (delegate : Option (Numbered Provider)) (surroundings : Surroundings) :
    (memo position).held ((memo own).keep delegate surroundings) =
      (memo position).held surroundings := by
  simp only [memo, Cells.get?_update, if_neg different]

theorem empty_of_present (present : position < surroundings.memos.count)
    (nothing : (memo position).held surroundings = none) :
    surroundings.memos.get? position = some none := by
  obtain ⟨cell, found⟩ := Cells.exists_of_lt_count present
  have held : (surroundings.memos.get? position).join = none := nothing
  rw [found, Option.join_some] at held
  rw [found, held]

theorem ofMemos_held (position : Nat) (numbered : Numbered Provider) :
    OfMemos fun surroundings => (memo position).held surroundings = some numbered where
  same memos held := by
    simp only [memo, memos] at held ⊢
    exact held
  addMemo surroundings held := by
    have found : surroundings.memos.get? position = some (some numbered) :=
      Option.join_eq_some_iff.mp held
    exact Option.join_eq_some_iff.mpr (Cells.get?_add_of_some found none)

theorem ofMemos_empty (position : Nat) :
    OfMemos fun surroundings => surroundings.memos.get? position = some none where
  same memos empty := memos ▸ empty
  addMemo _ empty := Cells.get?_add_of_some empty none

/-- Resolving never takes anything out of a memo, by induction on how deeply the calls are nested.
-/
theorem SingleProvider.held_resolve (nesting : Nat) (provider : SingleProvider)
    (held : (memo position).held surroundings = some numbered) :
    (memo position).held (SingleProvider.resolve nesting provider surroundings).2 =
      some numbered := by
  have scripted (script : Nat) (surroundings : Surroundings) :
      (memo position).held (resolveScripted script surroundings).2 =
        (memo position).held surroundings := by
    rw [resolveScripted]
    cases surroundings.scriptedDelegates.get? script <;> rfl
  induction nesting generalizing provider surroundings with
  | zero =>
    cases provider with
    | fixed credentials | settings source registry own => exact held
    | scripted script => exact (scripted script surroundings).trans held
  | succ nesting inductionHypothesis =>
    cases provider with
    | fixed credentials => exact held
    | scripted script => exact (scripted script surroundings).trans held
    | settings source registry own =>
      let Holds (surroundings : Surroundings) : Prop :=
        (memo position).held surroundings = some numbered
      let resolveDelegate := Numbered.resolve (ChainTree.resolve (resolve nesting) log)
      have consult (delegate : Numbered Provider) {surroundings : Surroundings}
          (held : Holds surroundings) : Holds (resolveDelegate delegate surroundings).2 := by
        have consulted : Holds (surroundings.record (.consulted delegate.serial)) := held
        apply ChainTree.resolve_keeps delegate.delegate _ _ consulted
        · exact fun member _ state held => inductionHypothesis member held
        · exact fun entry state held => held
      change Holds ((memo own).resolve (Numbered.choose (means source registry).choose)
        resolveDelegate surroundings).2
      rcases own_held : (memo own).held surroundings with _ | delegate
      · have different : position ≠ own := by
          rintro rfl
          cases held.symm.trans own_held
        have chosen :=
          (ofMemos_held position numbered).lastsChoosing.numberedChoose source registry held
        rcases ran : Numbered.choose (means source registry).choose surroundings with
          ⟨delegate | error | text, after⟩ <;> rw [ran] at chosen
        · rw [Memo.resolve_of_chosen own_held ran]
          exact consult delegate ((held_keep_of_ne different _ after).trans chosen)
        · rw [Memo.resolve_of_failed own_held ran]
          exact chosen
        · rw [Memo.resolve_of_panicked own_held ran]
          exact chosen
      · rw [Memo.resolve_of_held own_held]
        exact consult delegate held

theorem Provider.held_resolve (nesting : Nat) (provider : Provider)
    (held : (memo position).held surroundings = some numbered) :
    (memo position).held (provider.resolve nesting surroundings).2 = some numbered := by
  let Holds (surroundings : Surroundings) : Prop :=
    (memo position).held surroundings = some numbered
  have kept : Holds surroundings := held
  apply ChainTree.resolve_keeps provider _ _ kept
  · exact fun member _ state held => SingleProvider.held_resolve nesting member held
  · exact fun entry state held => held

end Holding

/-- The keys are used and no token is exchanged. -/
def UsesKeys (source : Source) (registry : Nat) (world : Surroundings) : Prop :=
  .logged .resolvedSession ∈ (means source registry).exchanges world ∨
    .logged .resolvedBasic ∈ (means source registry).exchanges world

/-- The keys are trimmed, and so is the session token if there is one; there is no expiration. -/
structure Credentials.Normal (credentials : Credentials) : Prop where
  accessKeyId : Text.Trimmed credentials.accessKeyId
  secretAccessKey : Text.Trimmed credentials.secretAccessKey
  sessionToken : ∀ token, credentials.sessionToken = some token → Text.Trimmed token
  expiration : credentials.expiration = none

/-- No session has an empty token. -/
theorem Credentials.Normal.token {credentials : Credentials} (normal : credentials.Normal)
    (session : credentials.isSession = true) :
    ∃ token, credentials.sessionToken = some token ∧ token ≠ "" := by
  obtain ⟨token, present⟩ := Option.isSome_iff_exists.mp session
  exact ⟨token, present, (normal.sessionToken token present).nonempty⟩

section Choice

variable {source : Source} {registry : Nat} {world chosen : Surroundings}

theorem Answers.trimmed_of_present {answers : Answers} {setting : Setting} {text : String}
    (present : answers.present setting = some text) : Text.Trimmed text := by
  have trims := LoadedSettings.trims_iff.mpr present
  generalize (answers.entries.lookup setting).join = raw at trims
  cases trims with
  | text _ trimmed _ => exact trimmed

/-- The keys make credentials in normal form. -/
theorem normal_of_usesKeys {delegate : Provider}
    (chose : (means source registry).choose world = (.ok delegate, chosen))
    (keys : UsesKeys source registry world) :
    ∃ credentials, delegate = Provider.fixed credentials ∧ credentials.Normal := by
  rw [UsesKeys] at keys
  generalize noted : (means source registry).exchanges world = exchanges at keys
  have chooses := chooses_of_choose chose
  change Chooses source.load registry world ((means source registry).exchanges world) _ _ at chooses
  rw [noted] at chooses
  cases chooses with
  | decided answered decides =>
    rw [Answers.mem_exchanges_append (by simp), Answers.mem_exchanges_append (by simp)] at keys
    cases decides with
    | webIdentity accessKey secretKey hasTokenFile hasRole exchanged =>
      cases exchanged with
      | created readToken lookedUp creates => simp at keys
    | sessionKeys accessKey secretKey noExchange hasSession =>
      refine ⟨_, rfl, Answers.trimmed_of_present accessKey, Answers.trimmed_of_present secretKey,
        ?_, rfl⟩
      rintro token ⟨⟩
      exact Answers.trimmed_of_present hasSession
    | basicKeys accessKey secretKey noExchange noSession =>
      exact ⟨_, rfl, Answers.trimmed_of_present accessKey, Answers.trimmed_of_present secretKey,
        nofun, rfl⟩

end Choice

namespace Turn

/-- A change from outside puts nothing into the memo, which it may empty. -/
def LeavesMemo (position : Nat) (surroundings : Surroundings) : Turn → Prop
  | .change outside => (outside surroundings).memos.get? position = some none ∨
    (outside surroundings).memos.get? position = surroundings.memos.get? position
  | _ => True

end Turn

section Turns

variable {source : Source} {registry position nesting : Nat} {surroundings : Surroundings}
  {numbered : Numbered Provider} {turn : Turn}

/-- What an empty memo holds after a turn was chosen in this turn. -/
theorem memo_of_empty (empty : surroundings.memos.get? position = some none)
    (leaves : turn.LeavesMemo position surroundings) :
    let provider : Provider := .single (.settings source registry position)
    let after := (provider.answer nesting turn surroundings).2
    after.memos.get? position = some none ∨
      turn = .resolve ∧ ∃ numbered chosen,
        Numbered.choose (means source registry).choose surroundings = (.ok numbered, chosen) ∧
        (memo position).held after = some numbered := by
  intro provider after
  have nothing : (memo position).held surroundings = none := by
    simp only [memo, empty, Option.join_some]
  cases turn with
  | isResolved => exact .inl empty
  | change outside => exact .inl (leaves.elim id fun same => same.trans empty)
  | close =>
    refine .inl ?_
    simp only [after, Provider.answer, provider, Provider.close_of_empty nothing]
    exact empty
  | resolve =>
    cases nesting with
    | zero => exact .inl empty
    | succ nesting =>
      have chosen := (ofMemos_empty position).lastsChoosing.numberedChoose source registry empty
      simp only [after, Provider.answer, provider, Provider.resolve_settings]
      rcases ran : Numbered.choose (means source registry).choose surroundings with
        ⟨numbered | error | text, middle⟩ <;> rw [ran] at chosen
      · refine .inr ⟨trivial, numbered, middle, rfl, ?_⟩
        rw [Memo.resolve_of_chosen nothing ran]
        have present : position < middle.memos.count := by
          by_contra absent
          rw [Cells.get?_eq_none (Nat.le_of_not_lt absent)] at chosen
          cases chosen
        have kept : (memo position).held ((memo position).keep (some numbered) middle) =
            some numbered := by
          rw [held_keep middle present, if_pos rfl]
        exact Provider.held_resolve nesting numbered.delegate kept
      · rw [Memo.resolve_of_failed nothing ran]
        exact .inl chosen
      · rw [Memo.resolve_of_panicked nothing ran]
        exact .inl chosen

/-- A memo that holds something holds the same after a turn or nothing. -/
theorem memo_of_held (held : (memo position).held surroundings = some numbered)
    (leaves : turn.LeavesMemo position surroundings) :
    let provider : Provider := .single (.settings source registry position)
    let after := (provider.answer nesting turn surroundings).2
    after.memos.get? position = some none ∨ (memo position).held after = some numbered := by
  intro provider after
  cases turn with
  | isResolved => exact .inr held
  | change outside =>
    rcases leaves with emptied | same
    · exact .inl emptied
    · refine .inr ?_
      change ((outside surroundings).memos.get? position).join = some numbered
      rw [same]
      exact held
  | close =>
    refine .inl ?_
    simp only [after, Provider.answer, provider, Provider.close_of_held held]
    have present := present_of_held held
    have released := numbered.releases_release ((memo position).keep none surroundings)
    have emptied : (memo position).held ((memo position).keep none surroundings) = none := by
      rw [held_keep surroundings present, if_pos rfl]
    have still : (memo position).held
        (numbered.release ((memo position).keep none surroundings)) = none := by
      rcases released.held position with same | empty
      · exact same.trans emptied
      · exact empty
    have count : (numbered.release ((memo position).keep none surroundings)).memos.count =
        surroundings.memos.count :=
      released.count.trans (Cells.count_update position _ _)
    exact empty_of_present (count ▸ present) still
  | resolve => exact .inr (Provider.held_resolve nesting provider held)

end Turns

/-- The delegate was chosen after the sooner turns, and the memo has held it all the time between
that choice and the last turn. -/
structure ChosenAmong (source : Source) (registry position : Nat)
    (worldAfter : List Turn → Surroundings) (turns : List Turn) (numbered : Numbered Provider)
    (sooner between : List Turn) : Prop where
  split : turns = sooner ++ .resolve :: between
  empty : (memo position).held (worldAfter sooner) = none
  chosen : ∃ chosen,
    Numbered.choose (means source registry).choose (worldAfter sooner) = (.ok numbered, chosen)
  since : ∀ middle, middle <+: between →
    (memo position).held (worldAfter (sooner ++ .resolve :: middle)) = some numbered

section Runs

variable {source : Source} {registry position nesting : Nat} {start : Surroundings}

/-- The memo is empty, or it holds what was chosen in one of the turns; by induction on the turns,
the last one first. -/
theorem memo_after (turns : List Turn) (empty : start.memos.get? position = some none)
    (leaves : ∀ earlier turn, earlier ++ [turn] <+: turns → turn.LeavesMemo position
      (Provider.worldAfter (.single (.settings source registry position)) nesting start earlier)) :
    let worldAfter :=
      Provider.worldAfter (.single (.settings source registry position)) nesting start
    (worldAfter turns).memos.get? position = some none ∨
      ∃ numbered sooner between,
        ChosenAmong source registry position worldAfter turns numbered sooner between := by
  intro worldAfter
  induction turns using List.reverseRecOn with
  | nil => exact .inl empty
  | append_singleton turns turn inductionHypothesis =>
    have last := leaves turns turn (List.prefix_rfl)
    have next : worldAfter (turns ++ [turn]) = _ := Provider.worldAfter_append _ _ _ turns turn
    rcases inductionHypothesis fun earlier turn before =>
        leaves earlier turn (before.trans (List.prefix_append _ _)) with
      empty | ⟨numbered, sooner, between, among⟩
    · rw [next]
      rcases memo_of_empty empty last with still | ⟨rfl, numbered, chosen, chose, held⟩
      · exact .inl still
      · refine .inr ⟨numbered, turns, [], rfl, ?_, ⟨chosen, chose⟩, ?_⟩
        · simp only [memo, worldAfter, empty, Option.join_some]
        · intro middle before
          rw [List.prefix_nil.mp before, next]
          exact held
    · have held := among.since between List.prefix_rfl
      rw [← among.split] at held
      rw [next]
      rcases memo_of_held held last with emptied | still
      · exact .inl emptied
      · refine .inr ⟨numbered, sooner, between ++ [turn], ?_, among.empty, among.chosen, ?_⟩
        · rw [among.split, List.append_assoc, List.cons_append]
        · intro middle before
          rcases List.prefix_concat_iff.mp before with rfl | before
          · rw [← List.cons_append, ← List.append_assoc, ← among.split, next]
            exact still
          · exact among.since middle before

/-- Credentials come from the delegate that the memo holds then. -/
theorem consulted_of_resolved {surroundings : Surroundings} {credentials : Credentials}
    (present : position < surroundings.memos.count) :
    let provider : Provider := .single (.settings source registry position)
    (provider.answer nesting .resolve surroundings).1 = .resolved (.ok credentials) →
      ∃ numbered deeper world,
        (memo position).held (provider.answer nesting .resolve surroundings).2 = some numbered ∧
        (Numbered.resolve (Provider.resolve deeper) numbered world).1 = .ok credentials := by
  intro provider answered
  cases nesting with
  | zero => cases answered
  | succ nesting =>
    simp only [Provider.answer, provider, Provider.resolve_settings] at answered ⊢
    have consulted {numbered : Numbered Provider} {world : Surroundings}
        (held : (memo position).held world = some numbered)
        (answered : Turn.Answer.resolved
          (Numbered.resolve (Provider.resolve nesting) numbered world).1 =
            .resolved (.ok credentials)) :
        ∃ numbered' deeper world',
          (memo position).held
              (Numbered.resolve (Provider.resolve nesting) numbered world).2 = some numbered' ∧
            (Numbered.resolve (Provider.resolve deeper) numbered' world').1 = .ok credentials :=
      ⟨numbered, nesting, world, Provider.held_resolve nesting numbered.delegate held,
        Turn.Answer.resolved.inj answered⟩
    rcases held : (memo position).held surroundings with _ | numbered
    · have chosen := (ofMemos_empty position).lastsChoosing.numberedChoose source registry
        (empty_of_present present held)
      rcases ran : Numbered.choose (means source registry).choose surroundings with
        ⟨numbered | error | text, after⟩
      · rw [ran] at chosen
        have presentAfter : position < after.memos.count := by
          by_contra absent
          cases (Cells.get?_eq_none (Nat.le_of_not_lt absent)).symm.trans chosen
        rw [Memo.resolve_of_chosen held ran] at answered ⊢
        refine consulted ?_ answered
        rw [held_keep after presentAfter, if_pos rfl]
      · rw [Memo.resolve_of_failed held ran] at answered
        cases answered
      · rw [Memo.resolve_of_panicked held ran] at answered
        cases answered
    · rw [Memo.resolve_of_held held] at answered ⊢
      exact consulted held answered

/-- Fixed credentials are answered whenever they are asked for. -/
theorem resolve_fixed (deeper : Nat) {numbered : Numbered Provider} {credentials : Credentials}
    (fixed : numbered.delegate = Provider.fixed credentials) (world : Surroundings) :
    (Numbered.resolve (Provider.resolve deeper) numbered world).1 = .ok credentials := by
  rw [Numbered.resolve, fixed, Provider.resolve, Provider.fixed, ChainTree.resolve]
  cases deeper <;> rfl

/-- Whatever credentials a provider answers with come from a delegate that it chose in this turn or
before; if that choice used keys, they are fixed and in normal form. -/
theorem chosen_of_resolved {earlier : List Turn} {credentials : Credentials}
    (empty : start.memos.get? position = some none)
    (leaves : ∀ sooner turn, sooner ++ [turn] <+: earlier → turn.LeavesMemo position
      (Provider.worldAfter (.single (.settings source registry position)) nesting start sooner)) :
    let provider : Provider := .single (.settings source registry position)
    let worldAfter := provider.worldAfter nesting start
    (provider.answer nesting .resolve (worldAfter earlier)).1 = .resolved (.ok credentials) →
      ∃ numbered sooner between,
        ChosenAmong source registry position worldAfter (earlier ++ [.resolve]) numbered sooner
          between ∧
        (UsesKeys source registry (worldAfter sooner) →
          numbered.delegate = Provider.fixed credentials ∧ credentials.Normal) := by
  intro provider worldAfter answered
  have leavesAll : ∀ sooner turn, sooner ++ [turn] <+: earlier ++ [.resolve] →
      turn.LeavesMemo position (worldAfter sooner) := by
    intro sooner turn before
    rcases List.prefix_concat_iff.mp before with same | before
    · obtain ⟨-, last⟩ := List.append_inj' same rfl
      obtain rfl := List.singleton_inj.mp last
      trivial
    · exact leaves sooner turn before
  have present : position < (worldAfter earlier).memos.count := by
    rcases memo_after earlier empty leaves with still | ⟨numbered, sooner, between, among⟩
    · by_contra absent
      cases (Cells.get?_eq_none (Nat.le_of_not_lt absent)).symm.trans still
    · have held := among.since between List.prefix_rfl
      rw [← among.split] at held
      exact present_of_held held
  obtain ⟨numbered, deeper, world, held, gave⟩ := consulted_of_resolved present answered
  rw [← Provider.worldAfter_append] at held
  rcases memo_after (earlier ++ [.resolve]) empty leavesAll with
    still | ⟨numbered', sooner, between, among⟩
  · have nothing : (memo position).held (worldAfter (earlier ++ [.resolve])) = none := by
      simp only [memo, worldAfter, still, provider, Option.join_some]
    cases nothing.symm.trans held
  · have same := among.since between List.prefix_rfl
    rw [← among.split] at same
    obtain rfl := Option.some.inj (same.symm.trans held)
    refine ⟨numbered', sooner, between, among, fun keys => ?_⟩
    obtain ⟨chosen, chose⟩ := among.chosen
    obtain ⟨delegate, middle, choice, ended⟩ := Action.bind_eq_ok.mp chose
    obtain ⟨credentials', fixed, normal⟩ := normal_of_usesKeys choice keys
    cases ended
    obtain rfl := Outcome.ok.inj ((resolve_fixed deeper fixed world).symm.trans gave)
    exact ⟨fixed, normal⟩

end Runs

/-- Settings are loaded trimmed from any source, and loaded again as they are if there is white
space around them. In every run, credentials from a choice that used keys are the trimmed ones. -/
theorem settings_stay_trimmed :
    (∀ {State Failure : Type} (load : Setting → Action State Failure (Option String))
        (state after : State),
      (∀ settings, LoadedSettings.load load state = (.ok settings, after) ↔
        ∃ entries, askEach load Setting.all state = (.ok entries, after) ∧
          ∀ setting, ∃ raw, entries.lookup setting = some raw ∧
            Text.Trims raw (settings.value setting)) ∧
      ∀ entries, askEach load Setting.all state = (.ok entries, after) →
        ∃ settings, LoadedSettings.load load state = (.ok settings, after)) ∧
    (∀ {State State' Failure Failure' : Type}
        (load : Setting → Action State Failure (Option String)) (state after : State)
        (settings : LoadedSettings)
        (load' : Setting → Action State' Failure' (Option String)) (state' after' : State')
        (entries : List (Setting × Option String)),
      LoadedSettings.load load state = (.ok settings, after) →
      askEach load' Setting.all state' = (.ok entries, after') →
      (∀ setting, ∃ raw, entries.lookup setting = some raw ∧
        LoadedSettings.Pads (settings.value setting) raw) →
      LoadedSettings.load load' state' = (.ok settings, after')) ∧
    ∀ (source : Source) (registry position nesting : Nat) (start : Surroundings)
      (earlier later : List Turn) (credentials : Credentials),
      let provider : Provider := .single (.settings source registry position)
      let turns := earlier ++ .resolve :: later
      let worldAfter := provider.worldAfter nesting start
      start.memos.get? position = some none →
      (∀ sooner turn, sooner ++ [turn] <+: turns →
        turn.LeavesMemo position (worldAfter sooner)) →
      (Turn.run (provider.answer nesting) turns start).1[earlier.length]? =
        some (.resolved (.ok credentials)) →
      ∃ numbered sooner between,
        ChosenAmong source registry position worldAfter (earlier ++ [.resolve]) numbered sooner
          between ∧
        (UsesKeys source registry (worldAfter sooner) →
          numbered.delegate = Provider.fixed credentials ∧ credentials.Normal ∧
          (credentials.isSession = true →
            ∃ token, credentials.sessionToken = some token ∧ token ≠ "")) := by
  refine ⟨?_, ?_, ?_⟩
  · intro State Failure load state after
    exact ⟨fun settings => LoadedSettings.load_iff_trims,
      fun entries asked => LoadedSettings.exists_load asked⟩
  · intro State State' Failure Failure' load state after settings load' state' after' entries loaded
      asked padded
    exact LoadedSettings.load_padded loaded asked padded
  · intro source registry position nesting start earlier later credentials provider turns worldAfter
      empty leaves answered
    have gave : (provider.answer nesting .resolve (worldAfter earlier)).1 =
        .resolved (.ok credentials) := by
      rw [Turn.run_append, List.getElem?_append_right (Nat.le_of_eq (Turn.length_run _ _ _)),
        Turn.length_run, Nat.sub_self] at answered
      exact Option.some.inj answered
    have leavesEarlier : ∀ sooner turn, sooner ++ [turn] <+: earlier →
        turn.LeavesMemo position (worldAfter sooner) :=
      fun sooner turn before => leaves sooner turn (before.trans (List.prefix_append _ _))
    obtain ⟨numbered, sooner, between, among, normal⟩ :=
      chosen_of_resolved empty leavesEarlier gave
    refine ⟨numbered, sooner, between, among, fun keys => ?_⟩
    obtain ⟨fixed, normal⟩ := normal keys
    exact ⟨fixed, normal, normal.token⟩

/-- The keys are changed from outside before they are loaded, and have different white space around
them. -/
theorem padded_session_stays_trimmed :
    let start := (addMemo (.initial (.ofUnix 0 0) ⟨[]⟩)).2
    let outside (surroundings : Surroundings) : Surroundings :=
      { surroundings with
        environment := .ofList [("AWS_ACCESS_KEY_ID", Bytes.ofText "\u3000key\n"),
          ("AWS_SECRET_ACCESS_KEY", Bytes.ofText "a b\u2003"),
          ("AWS_SESSION_TOKEN", Bytes.ofText "\ttoken")] }
    let provider : Provider := .single (.settings .process processWide 0)
    let credentials : Credentials := .session "key" "a b" "token"
    (Turn.run (provider.answer 1) [.change outside, .resolve] start).1[1]? =
        some (.resolved (.ok credentials)) ∧ credentials.Normal := by
  intro start outside provider credentials
  have answered : (Turn.run (provider.answer 1) [.change outside, .resolve] start).1[1]? =
      some (.resolved (.ok credentials)) := by
    rfl
  have leaves : ∀ (sooner : List Turn) (turn : Turn),
      sooner ++ [turn] <+: [.change outside, .resolve] →
        turn.LeavesMemo 0 (provider.worldAfter 1 start sooner) := by
    rintro (_ | ⟨first, _ | ⟨second, rest⟩⟩) turn ⟨last, same⟩
    · obtain ⟨rfl, -⟩ := List.cons_eq_cons.mp same
      exact .inr rfl
    · obtain ⟨-, same⟩ := List.cons_eq_cons.mp same
      obtain ⟨rfl, -⟩ := List.cons_eq_cons.mp same
      trivial
    · simp at same
  obtain ⟨numbered, sooner, between, among, normal⟩ := settings_stay_trimmed.2.2 .process
    processWide 0 1 start [.change outside] [] credentials rfl leaves answered
  refine ⟨answered, (normal ?_).2.1⟩
  -- The choice was made in the second turn, because the first one is no call.
  obtain rfl : sooner = [.change outside] := by
    have split := among.split
    rcases sooner with _ | ⟨first, _ | ⟨second, rest⟩⟩
    · cases split
    · obtain ⟨rfl, -⟩ := List.cons_eq_cons.mp split
      rfl
    · simp at split
  exact .inl (List.mem_of_getElem? (i := 6) rfl)

end CredentialResolution
