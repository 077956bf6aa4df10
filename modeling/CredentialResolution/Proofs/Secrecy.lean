/-
This file compares runs of providers that differ in secrets only. They log, read, construct and fail
alike until a factory is given tokens that differ.
-/

import CredentialResolution.Proofs.Disguise
import CredentialResolution.Proofs.Journals
import CredentialResolution.Proofs.Lifecycle
import Mathlib.Data.List.Forall2

namespace CredentialResolution

namespace Disguise

open CredentialResolution.Action Surroundings

section Parting

variable (disguise : Disguise)

/-- Two runs part when a factory is given the different contents of a token file; all that was
recorded before it is the same. The journals have the newest event first. -/
def Parted (surroundings surroundings' : Surroundings) : Prop :=
  ∃ label roleArn roleSessionName token token' shared,
    disguise.contents token token' ∧ token ≠ token' ∧
      .created label roleArn roleSessionName token :: shared <:+ surroundings.journal ∧
      .created label roleArn roleSessionName token' :: shared <:+ surroundings'.journal

/-- From surroundings that differ in secrets only, both actions end alike unless their runs part. -/
def AgreesUntil {Failure Value : Type} (values : Value → Value → Prop)
    (action action' : Action Surroundings Failure Value) : Prop :=
  ∀ ⦃surroundings surroundings'⦄, disguise.States surroundings surroundings' →
    disguise.Parted (action surroundings).2 (action' surroundings').2 ∨
      Outcome.Alike values (action surroundings).1 (action' surroundings').1 ∧
        disguise.States (action surroundings).2 (action' surroundings').2

end Parting

variable {disguise : Disguise}

section Until

variable {Failure Other Value Result : Type} {values : Value → Value → Prop}
  {results : Result → Result → Prop}

/-- Runs that have parted stay parted. -/
theorem Parted.onward {earlier earlier' later later' : Surroundings}
    (parted : disguise.Parted earlier earlier') (left : earlier.Continues later)
    (right : earlier'.Continues later') : disguise.Parted later later' := by
  obtain ⟨label, roleArn, roleSessionName, token, token', shared, contents, different, first,
    second⟩ := parted
  exact ⟨label, roleArn, roleSessionName, token, token', shared, contents, different,
    first.trans left, second.trans right⟩

theorem until_of_agrees {action action' : Action Surroundings Failure Value}
    (agrees : Agrees disguise.States values action action') :
    disguise.AgreesUntil values action action' :=
  fun _ _ related => .inr (agrees related)

section Bind

variable {first first' : Action Surroundings Failure Value}
  {next next' : Value → Action Surroundings Failure Result}

theorem bind_onward (nexts : ∀ ⦃value value'⦄, values value value' →
      disguise.AgreesUntil results (next value) (next' value'))
    {surroundings surroundings' : Surroundings}
    (alike : Outcome.Alike values (first surroundings).1 (first' surroundings').1)
    (left : disguise.States (first surroundings).2 (first' surroundings').2) :
    disguise.Parted ((first >>= next) surroundings).2 ((first' >>= next') surroundings').2 ∨
      Outcome.Alike results ((first >>= next) surroundings).1
          ((first' >>= next') surroundings').1 ∧
        disguise.States ((first >>= next) surroundings).2 ((first' >>= next') surroundings').2 := by
  rw [bind_apply, bind_apply]
  rcases ended : first surroundings with ⟨outcome, middle⟩
  rcases ended' : first' surroundings' with ⟨outcome', middle'⟩
  rw [ended, ended'] at alike left
  cases alike with
  | ok same => exact nexts same left
  | error failure => exact .inr ⟨.error failure, left⟩
  | panic text => exact .inr ⟨.panic text, left⟩

theorem bind_until_of_agrees (firsts : Agrees disguise.States values first first')
    (nexts : ∀ ⦃value value'⦄, values value value' →
      disguise.AgreesUntil results (next value) (next' value')) :
    disguise.AgreesUntil results (first >>= next) (first' >>= next') := by
  intro surroundings surroundings' related
  obtain ⟨alike, left⟩ := firsts related
  exact bind_onward nexts alike left

/-- The second actions agree if the first ones do, and add to journals that have parted. -/
theorem bind_until (firsts : disguise.AgreesUntil values first first')
    (nexts : ∀ ⦃value value'⦄, values value value' →
      disguise.AgreesUntil results (next value) (next' value'))
    (adds : ∀ value, Extends (next value)) (adds' : ∀ value, Extends (next' value)) :
    disguise.AgreesUntil results (first >>= next) (first' >>= next') := by
  intro surroundings surroundings' related
  rcases firsts related with parted | ⟨alike, left⟩
  · exact .inl (parted.onward (continues_bind first adds surroundings)
      (continues_bind first' adds' surroundings'))
  · exact bind_onward nexts alike left

end Bind

theorem mapError_until (change : Failure → Other)
    {action action' : Action Surroundings Failure Value}
    (agrees : disguise.AgreesUntil values action action') :
    disguise.AgreesUntil values (action.mapError change) (action'.mapError change) := by
  intro surroundings surroundings' related
  rcases agrees related with parted | ⟨alike, left⟩
  · exact .inl parted
  · exact .inr ⟨alike.mapError change, left⟩

theorem rescue_until {action action' : Action Surroundings Failure Value}
    {next next' : Failure → Action Surroundings Other Value}
    (agrees : disguise.AgreesUntil values action action')
    (nexts : ∀ failure, disguise.AgreesUntil values (next failure) (next' failure))
    (adds : ∀ failure, Extends (next failure)) (adds' : ∀ failure, Extends (next' failure)) :
    disguise.AgreesUntil values (action.rescue next) (action'.rescue next') := by
  intro surroundings surroundings' related
  rcases agrees related with parted | ⟨alike, left⟩
  · exact .inl (parted.onward (continues_rescue action adds surroundings)
      (continues_rescue action' adds' surroundings'))
  · simp only [rescue]
    rcases ended : action surroundings with ⟨outcome, middle⟩
    rcases ended' : action' surroundings' with ⟨outcome', middle'⟩
    rw [ended, ended'] at alike left
    cases alike with
    | ok same => exact .inr ⟨.ok same, left⟩
    | error failure => exact nexts failure left
    | panic text => exact .inr ⟨.panic text, left⟩

end Until

section Choosing

variable {source source' : Source}

/-- A factory creates alike from the contents of a token file unless they differ. -/
theorem create_until (factory : Factory) (roleArn : String) (roleSessionName : Option String)
    {token token' : String} (contents : disguise.contents token token') :
    disguise.AgreesUntil disguise.Providers (factory.create roleArn roleSessionName token)
      (factory.create roleArn roleSessionName token') := by
  intro surroundings surroundings' related
  by_cases same : token = token'
  · rw [← same]
    exact .inr (builds.create_agrees (fun _ _ => trivial) roleArn roleSessionName token related)
  · -- Both creations are recorded first, on journals that are still equal.
    have recorded := create_continues factory roleArn roleSessionName token surroundings
    have recorded' := create_continues factory roleArn roleSessionName token' surroundings'
    rw [Continues, record, ← related.journal] at recorded'
    exact .inl ⟨factory.label, roleArn, roleSessionName, token, token', surroundings.journal,
      contents, same, recorded, recorded'⟩

theorem exchangeToken_until (registry : Nat) (roleArn tokenFile : String)
    (roleSessionName : Option String) :
    disguise.AgreesUntil disguise.Providers
      ((means source registry).exchangeToken roleArn tokenFile roleSessionName)
      ((means source' registry).exchangeToken roleArn tokenFile roleSessionName) := by
  apply bind_until_of_agrees (update_agrees (log_states _))
  intro _ _ _
  apply bind_until_of_agrees (readToken_agrees _)
  intro token token' contents
  apply bind_until_of_agrees (lookUp_agrees registry webIdentity)
  rintro factory _ rfl
  exact create_until factory roleArn roleSessionName contents

/-- Choices from settings that differ in secrets only are alike. -/
theorem chooseFrom_until (registry : Nat) {settings settings' : LoadedSettings}
    (same : disguise.Settings settings settings') :
    disguise.AgreesUntil disguise.Providers ((means source registry).chooseFrom settings)
      ((means source' registry).chooseFrom settings') := by
  obtain ⟨accessKeyId, secretAccessKey, sessionToken, roleArn, roleSessionName, tokenFile⟩ :=
    settings
  obtain ⟨accessKeyId', secretAccessKey', sessionToken', roleArn', roleSessionName', tokenFile'⟩ :=
    settings'
  have accessKey : Option.Rel _ accessKeyId accessKeyId' := same .accessKeyId
  have secretKey : Option.Rel _ secretAccessKey secretAccessKey' := same .secretAccessKey
  obtain rfl : roleArn = roleArn' := same .roleArn
  obtain rfl : roleSessionName = roleSessionName' := same .roleSessionName
  obtain rfl : tokenFile = tokenFile' := same .webIdentityTokenFile
  cases accessKey with
  | none => exact until_of_agrees (fail_agrees _)
  | some accessKey =>
    cases secretKey with
    | none => exact until_of_agrees (fail_agrees _)
    | some secretKey =>
      have session := same .sessionToken
      cases tokenFile with
      | none => exact until_of_agrees (useKeys_agrees accessKey secretKey session)
      | some tokenFile =>
        cases roleArn with
        | none => exact until_of_agrees (useKeys_agrees accessKey secretKey session)
        | some roleArn => exact exchangeToken_until registry roleArn tokenFile roleSessionName

/-- Providers over sources that are alike choose alike. -/
theorem choose_until (sources : disguise.Sources source source') (registry : Nat) :
    disguise.AgreesUntil disguise.Providers (means source registry).choose
      (means source' registry).choose :=
  bind_until_of_agrees (widen_agrees (loadSettings_agrees sources)) fun _ _ same =>
    chooseFrom_until registry same

theorem numberedChoose_until (sources : disguise.Sources source source') (registry : Nat) :
    disguise.AgreesUntil disguise.Delegates (Numbered.choose (means source registry).choose)
      (Numbered.choose (means source' registry).choose) := by
  apply bind_until (choose_until sources registry)
  · intro delegate delegate' same surroundings surroundings' related
    exact .inr ⟨.ok ⟨related.chosenCount, same⟩,
      { related with
        chosenCount := congrArg Nat.succ related.chosenCount
        journal := congrArg₂ (fun serial journal => Event.chosen serial :: journal)
          related.chosenCount related.journal }⟩
  · exact fun _ surroundings => continues_record (.chosen surroundings.chosenCount) surroundings
  · exact fun _ surroundings => continues_record (.chosen surroundings.chosenCount) surroundings

end Choosing

section Resolving

theorem held_of_states {surroundings surroundings' : Surroundings}
    (related : disguise.States surroundings surroundings') (position : Nat) :
    Option.Rel disguise.Delegates ((memo position).held surroundings)
      ((memo position).held surroundings') := by
  simp only [memo]
  rcases cases_of_rel (related.memos.each position) with
    ⟨found, found'⟩ | ⟨held, held', found, found', same⟩ <;> rw [found, found']
  · exact .none
  · exact same

theorem memo_agree (position : Nat) :
    Memo.Agree disguise.States disguise.Delegates (memo position) (memo position) where
  held _ _ related := held_of_states related position
  keep _ _ delegates _ _ related :=
    { related with memos := related.memos.update position fun _ _ _ => delegates }

theorem setScriptedDelegate_states (position : Nat) (delegate : ScriptedDelegate)
    {surroundings surroundings' : Surroundings}
    (related : disguise.States surroundings surroundings') :
    disguise.States (surroundings.setScriptedDelegate position delegate)
      (surroundings'.setScriptedDelegate position delegate) :=
  { related with
    scriptedDelegates := congrArg (Cells.update position fun _ => delegate)
      related.scriptedDelegates }

theorem resolveScripted_agrees (position : Nat) :
    Agrees disguise.States disguise.Given (resolveScripted position)
      (resolveScripted position) := by
  intro surroundings surroundings' related
  simp only [resolveScripted, ← related.scriptedDelegates]
  cases surroundings.scriptedDelegates.get? position with
  | none => exact ⟨.panic _, related⟩
  | some delegate =>
    exact ⟨.self .same _, (setScriptedDelegate_states position _ related).record _⟩

theorem memo_resolve_until (position : Nat)
    {choose choose' : Action Surroundings ResolutionError (Numbered Provider)}
    (choices : disguise.AgreesUntil disguise.Delegates choose choose')
    {resolveDelegate resolveDelegate' : Resolving (Numbered Provider) Surroundings}
    (resolves : ∀ ⦃numbered numbered'⦄, disguise.Delegates numbered numbered' →
      disguise.AgreesUntil disguise.Given (resolveDelegate numbered) (resolveDelegate' numbered'))
    (adds : ∀ numbered, Extends (resolveDelegate numbered))
    (adds' : ∀ numbered, Extends (resolveDelegate' numbered)) :
    disguise.AgreesUntil disguise.Given ((memo position).resolve choose resolveDelegate)
      ((memo position).resolve choose' resolveDelegate') := by
  have agree : Memo.Agree disguise.States disguise.Delegates (memo position) (memo position) :=
    memo_agree position
  have keeps (numbered : Numbered Provider) : Extends (do
      update ((memo position).keep (some numbered))
      return numbered : Action Surroundings ResolutionError (Numbered Provider)) :=
    bind_extends (update_extends Continues.refl) fun _ => pure_extends _
  have obtains : disguise.AgreesUntil disguise.Delegates ((memo position).obtain choose)
      ((memo position).obtain choose') := by
    apply bind_until_of_agrees (look_agrees agree.held)
    rintro _ _ (same | _)
    · exact until_of_agrees (pure_agrees same)
    · refine bind_until choices ?_ keeps keeps
      intro numbered numbered' same
      apply until_of_agrees
      exact bind_agrees (update_agrees (agree.keep (.some same))) fun _ _ _ => pure_agrees same
  exact bind_until obtains resolves adds adds'

/-- Trees of providers resolve alike if their members do. -/
theorem resolve_until_of_members {single single' : Resolving SingleProvider Surroundings}
    (singles : ∀ ⦃member member'⦄, disguise.Singles member member' →
      disguise.AgreesUntil disguise.Given (single member) (single' member'))
    (adds : ∀ member, Extends (single member)) (adds' : ∀ member, Extends (single' member))
    {provider provider' : Provider} (same : disguise.Providers provider provider') :
    disguise.AgreesUntil disguise.Given (ChainTree.resolve single log provider)
      (ChainTree.resolve single' log provider') := by
  -- A member after the one in which the runs part may do anything but take recorded events back.
  let Alike (action action' : Action Surroundings ResolutionError Credentials) : Prop :=
    Extends action ∧ Extends action' ∧ disguise.AgreesUntil disguise.Given action action'
  have logging {next : Action Surroundings ResolutionError Credentials} (adds : Extends next)
      (entry : LogEntry) : Extends (do update (log entry); next) :=
    bind_extends (update_extends (continues_record (.logged entry))) fun _ => adds
  have chained : ChainTree.Chained Alike log log :=
    { fail := fun error => ⟨Continues.refl, Continues.refl, until_of_agrees (fail_agrees error)⟩
      wrap := fun action action' ⟨adds, adds', agrees⟩ =>
        ⟨mapError_extends _ adds, mapError_extends _ adds', mapError_until _ agrees⟩
      goOn := by
        intro action action' ⟨adds, adds', agrees⟩ next next' nexts
        have left (error : ResolutionError) := logging (nexts error).1 (.memberFailed error)
        have right (error : ResolutionError) := logging (nexts error).2.1 (.memberFailed error)
        refine ⟨rescue_extends adds left, rescue_extends adds' right, ?_⟩
        refine rescue_until agrees ?_ left right
        intro error
        exact bind_until_of_agrees (update_agrees (log_states _)) fun _ _ _ => (nexts error).2.2 }
  have each ⦃member member' : SingleProvider⦄ (same : disguise.Singles member member') :
      Alike (single member) (single' member') :=
    ⟨adds member, adds' member', singles same⟩
  exact (ChainTree.resolve_alike chained each same).2.2

/-- Providers that are alike resolve alike, by induction on how deeply the calls are nested. -/
theorem resolveSingle_until (nesting : Nat) {provider provider' : SingleProvider}
    (same : disguise.Singles provider provider') :
    disguise.AgreesUntil disguise.Given (SingleProvider.resolve nesting provider)
      (SingleProvider.resolve nesting provider') := by
  induction nesting generalizing provider provider' with
  | zero =>
    cases same with
    | fixed given => exact until_of_agrees (pure_agrees given)
    | scripted position => exact until_of_agrees (resolveScripted_agrees position)
    | settings sources registry position => exact until_of_agrees (panicked_agrees _)
  | succ nesting inductionHypothesis =>
    cases same with
    | fixed given => exact until_of_agrees (pure_agrees given)
    | scripted position => exact until_of_agrees (resolveScripted_agrees position)
    | settings sources registry position =>
      have adds := resolveSingle_extends nesting
      have addsDelegate := numberedResolve_extends (Provider.resolve_extends_of_members adds)
      refine memo_resolve_until position (numberedChoose_until sources registry) ?_ addsDelegate
        addsDelegate
      intro numbered numbered' alike surroundings surroundings' related
      rw [Numbered.resolve, Numbered.resolve, ← alike.serial]
      exact resolve_until_of_members (fun _ _ same => inductionHypothesis same) adds adds
        alike.delegate (related.record _)

theorem resolve_until (nesting : Nat) {provider provider' : Provider}
    (same : disguise.Providers provider provider') :
    disguise.AgreesUntil disguise.Given (provider.resolve nesting) (provider'.resolve nesting) :=
  resolve_until_of_members (fun _ _ same => resolveSingle_until nesting same)
    (resolveSingle_extends nesting) (resolveSingle_extends nesting) same

end Resolving

section Closing

theorem closeScripted_agrees (position : Nat) {surroundings surroundings' : Surroundings}
    (related : disguise.States surroundings surroundings') :
    (surroundings.closeScripted position).1 = (surroundings'.closeScripted position).1 ∧
      disguise.States (surroundings.closeScripted position).2
        (surroundings'.closeScripted position).2 := by
  simp only [closeScripted, ← related.scriptedDelegates]
  cases surroundings.scriptedDelegates.get? position with
  | none => exact ⟨rfl, related⟩
  | some delegate =>
    exact ⟨rfl, (setScriptedDelegate_states position _ related).record _⟩

theorem discardBy_states {close close' : Closing SingleProvider Surroundings}
    (closes : ChainTree.ClosesAlike disguise.States disguise.Singles close close')
    ⦃provider provider' : SingleProvider⦄ (same : disguise.Singles provider provider')
    ⦃surroundings surroundings' : Surroundings⦄
    (related : disguise.States surroundings surroundings') :
    disguise.States (SingleProvider.discardBy close provider surroundings)
      (SingleProvider.discardBy close' provider' surroundings') := by
  cases same with
  | fixed given => exact related
  | scripted position => exact related
  | settings sources registry position =>
    exact (closes (.settings sources registry position) related).2

theorem numberedClose_agrees {close close' : Closing SingleProvider Surroundings}
    (closes : ChainTree.ClosesAlike disguise.States disguise.Singles close close') :
    ChainTree.ClosesAlike disguise.States disguise.Delegates
      (Numbered.close (ChainTree.close close log))
      (Numbered.close (ChainTree.close close' log)) := by
  intro numbered numbered' alike surroundings surroundings' related
  rw [Numbered.close, Numbered.close, ← alike.serial]
  exact ChainTree.close_agrees closes log_states alike.delegate (related.record _)

theorem closeSingle_agrees (bound : Nat) :
    ChainTree.ClosesAlike disguise.States disguise.Singles (SingleProvider.close bound)
      (SingleProvider.close bound) := by
  induction bound with
  | zero =>
    intro provider provider' same surroundings surroundings' related
    cases same with
    | fixed given => exact ⟨rfl, related⟩
    | scripted position => exact closeScripted_agrees position related
    | settings sources registry position => exact ⟨rfl, related⟩
  | succ bound inductionHypothesis =>
    intro provider provider' same surroundings surroundings' related
    cases same with
    | fixed given => exact ⟨rfl, related⟩
    | scripted position => exact closeScripted_agrees position related
    | settings sources registry position =>
      refine ⟨rfl, ?_⟩
      apply Memo.release_agrees (memo_agree position) (numberedClose_agrees inductionHypothesis) _
        log_states related
      intro numbered numbered' alike earlier earlier' related
      exact ChainTree.discard_agrees (discardBy_states inductionHypothesis) alike.delegate related

theorem close_agrees {provider provider' : Provider}
    (same : disguise.Providers provider provider') {surroundings surroundings' : Surroundings}
    (related : disguise.States surroundings surroundings') :
    (provider.close surroundings).1 = (provider'.close surroundings').1 ∧
      disguise.States (provider.close surroundings).2 (provider'.close surroundings').2 := by
  rw [Provider.close, Provider.close, related.memos.count]
  exact ChainTree.close_agrees (closeSingle_agrees _) log_states same related

theorem discard_agrees {provider provider' : Provider}
    (same : disguise.Providers provider provider') {surroundings surroundings' : Surroundings}
    (related : disguise.States surroundings surroundings') :
    disguise.States (provider.discard surroundings) (provider'.discard surroundings') := by
  rw [Provider.discard, Provider.discard, related.memos.count]
  exact ChainTree.discard_agrees (discardBy_states (closeSingle_agrees _)) same related

end Closing

section Turns

variable (disguise) (provider provider' : Provider)

/-- Both runs take the same calls and drop their own providers; changes from outside keep the
surroundings alike. -/
inductive Turns : Turn → Turn → Prop
  | resolve : Turns .resolve .resolve
  | close : Turns .close .close
  | isResolved : Turns .isResolved .isResolved
  | drop : Turns (.change provider.discard) (.change provider'.discard)
  | change {outside outside' : Surroundings → Surroundings}
      (keeps : ∀ ⦃surroundings surroundings'⦄, disguise.States surroundings surroundings' →
        disguise.States (outside surroundings) (outside' surroundings')) :
      Turns (.change outside) (.change outside')

/-- Answers are the same up to the credentials that are made of static keys. -/
inductive Answers : Turn.Answer → Turn.Answer → Prop
  | resolved {outcome outcome' : Outcome ResolutionError Credentials}
      (alike : Outcome.Alike disguise.Given outcome outcome') :
      Answers (.resolved outcome) (.resolved outcome')
  | closed (result : Except ResolutionError Unit) : Answers (.closed result) (.closed result)
  | asked (resolved : Option Bool) : Answers (.asked resolved) (.asked resolved)
  | changed : Answers .changed .changed

/-- Both runs answer alike and record the same events. -/
structure RunsAlike (run run' : List Turn.Answer × Surroundings) : Prop where
  answers : List.Forall₂ disguise.Answers run.1 run'.1
  events : run.2.events = run'.2.events
  states : disguise.States run.2 run'.2

/-- The runs are alike up to a turn in which they part. -/
def PartsIn (nesting : Nat) (turns turns' : List Turn) (start start' : Surroundings) : Prop :=
  ∃ earlier turn later earlier' turn' later',
    turns = earlier ++ turn :: later ∧ turns' = earlier' ++ turn' :: later' ∧
      let before := Turn.run (provider.answer nesting) earlier start
      let before' := Turn.run (provider'.answer nesting) earlier' start'
      disguise.RunsAlike before before' ∧
        disguise.Parted (provider.answer nesting turn before.2).2
          (provider'.answer nesting turn' before'.2).2

variable {disguise provider provider'} {surroundings surroundings' start start' : Surroundings}
  {turns turns' : List Turn}

theorem isResolved?_of_states (same : disguise.Providers provider provider')
    (related : disguise.States surroundings surroundings') :
    isResolved? provider surroundings = isResolved? provider' surroundings' := by
  cases same with
  | chain each => rfl
  | shared same => rfl
  | single same =>
    cases same with
    | fixed given => rfl
    | scripted position => rfl
    | settings sources registry position =>
      simp only [isResolved?]
      rcases cases_of_rel (held_of_states related position) with
        ⟨held, held'⟩ | ⟨numbered, numbered', held, held', -⟩
      · rw [held, held']
      · rw [held, held']
        rfl

/-- A turn is answered alike unless the runs part in it. -/
theorem answer_until (same : disguise.Providers provider provider') (nesting : Nat)
    {turn turn' : Turn} (call : disguise.Turns provider provider' turn turn')
    (related : disguise.States surroundings surroundings') :
    disguise.Parted (provider.answer nesting turn surroundings).2
        (provider'.answer nesting turn' surroundings').2 ∨
      disguise.Answers (provider.answer nesting turn surroundings).1
          (provider'.answer nesting turn' surroundings').1 ∧
        disguise.States (provider.answer nesting turn surroundings).2
          (provider'.answer nesting turn' surroundings').2 := by
  cases call with
  | resolve =>
    rcases resolve_until nesting same related with parted | ⟨alike, left⟩
    · exact .inl parted
    · exact .inr ⟨.resolved alike, left⟩
  | close =>
    obtain ⟨sameResult, left⟩ := close_agrees same related
    simp only [Provider.answer, Prod.map, sameResult]
    exact .inr ⟨.closed _, left⟩
  | isResolved =>
    simp only [Provider.answer, isResolved?_of_states same related]
    exact .inr ⟨.asked _, related⟩
  | drop => exact .inr ⟨.changed, discard_agrees same related⟩
  | change keeps => exact .inr ⟨.changed, keeps related⟩

theorem runsAlike_nil (related : disguise.States start start') :
    disguise.RunsAlike ([], start) ([], start') :=
  ⟨.nil, congrArg List.reverse related.journal, related⟩

theorem RunsAlike.cons {first first' : Turn.Answer} {rest rest' : List Turn.Answer × Surroundings}
    (alike : disguise.RunsAlike rest rest') (answers : disguise.Answers first first') :
    disguise.RunsAlike (first :: rest.1, rest.2) (first' :: rest'.1, rest'.2) :=
  ⟨.cons answers alike.answers, alike.events, alike.states⟩

theorem PartsIn.cons {nesting : Nat} {turn turn' : Turn}
    (answers : disguise.Answers (provider.answer nesting turn start).1
      (provider'.answer nesting turn' start').1)
    (parts : disguise.PartsIn provider provider' nesting turns turns'
      (provider.answer nesting turn start).2 (provider'.answer nesting turn' start').2) :
    disguise.PartsIn provider provider' nesting (turn :: turns) (turn' :: turns') start start' := by
  obtain ⟨earlier, last, later, earlier', last', later', split, split', alike, parted⟩ := parts
  refine ⟨turn :: earlier, last, later, turn' :: earlier', last', later', ?_, ?_, ?_, parted⟩
  · rw [split, List.cons_append]
  · rw [split', List.cons_append]
  · exact alike.cons answers

/-- Runs are alike unless they part, by induction on their turns. -/
theorem run_until (same : disguise.Providers provider provider') (nesting : Nat)
    (calls : List.Forall₂ (disguise.Turns provider provider') turns turns')
    (related : disguise.States start start') :
    disguise.RunsAlike (Turn.run (provider.answer nesting) turns start)
        (Turn.run (provider'.answer nesting) turns' start') ∨
      disguise.PartsIn provider provider' nesting turns turns' start start' := by
  induction calls generalizing start start' with
  | nil => exact .inl (runsAlike_nil related)
  | @cons turn turn' turns turns' call rest inductionHypothesis =>
    rcases answer_until same nesting call related with parted | ⟨answers, left⟩
    · exact .inr ⟨[], turn, turns, [], turn', turns', rfl, rfl, runsAlike_nil related, parted⟩
    · rcases inductionHypothesis left with alike | parts
      · exact .inl (alike.cons answers)
      · exact .inr (parts.cons answers)

/-- Runs that part use different contents of a token file. -/
theorem PartsIn.different {nesting : Nat}
    (parts : disguise.PartsIn provider provider' nesting turns turns' start start') :
    ∃ token token', disguise.contents token token' ∧ token ≠ token' := by
  obtain ⟨earlier, turn, later, earlier', turn', later', split, split', alike, label, roleArn,
    roleSessionName, token, token', shared, contents, different, recorded⟩ := parts
  exact ⟨token, token', contents, different⟩

end Turns

end Disguise

open Disguise Surroundings

/-- Two runs of a tree of providers that differ only in the values of static keys and in the
contents of token files answer alike, up to credentials made of those keys, and record the same
events. If contents differ, this holds until a factory is given different ones. -/
theorem Provider.secrets_stay_hidden (disguise : Disguise) {provider provider' : Provider}
    (same : disguise.Providers provider provider') (nesting : Nat) {turns turns' : List Turn}
    (calls : List.Forall₂ (disguise.Turns provider provider') turns turns')
    {start start' : Surroundings} (hidden : disguise.States start start') :
    let run := Turn.run (provider.answer nesting) turns start
    let run' := Turn.run (provider'.answer nesting) turns' start'
    ((∀ token token', disguise.contents token token' → token = token') →
        disguise.RunsAlike run run') ∧
      (disguise.RunsAlike run run' ∨
        disguise.PartsIn provider provider' nesting turns turns' start start') := by
  intro run run'
  have untilParted := run_until same nesting calls hidden
  refine ⟨?_, untilParted⟩
  intro sameContents
  rcases untilParted with alike | parts
  · exact alike
  · obtain ⟨token, token', contents, different⟩ := parts.different
    exact absurd (sameContents token token' contents) different

/-- A chain is refused credentials for its token and goes on to its keys. With equal token files two
such chains answer with their own keys and are alike otherwise; with different ones they part when
the factory is given the token. -/
theorem Provider.keys_and_tokens_of_a_chain :
    let disguise (contents : String → String → Prop) : Disguise :=
      ⟨fun _ _ _ => True, contents, fun _ _ => trivial⟩
    let source (secret : String) (others : List (String × String)) : Source :=
      .fixedVariables ((Bindings.ofList (("AWS_ACCESS_KEY_ID", "id") :: others)).insert
        "AWS_SECRET_ACCESS_KEY" secret)
    let exchange : List (String × String) :=
      [("AWS_ROLE_ARN", "role"), ("AWS_WEB_IDENTITY_TOKEN_FILE", "/token")]
    let provider (secret : String) : Provider :=
      .chain [.single (.settings (source secret exchange) processWide 0),
        .single (.settings (source secret []) processWide 1)]
    let files (content : String) : FileTree :=
      ⟨[([Bytes.ofText "token"], .file (Bytes.ofText content))]⟩
    let start (content : String) : Surroundings :=
      (addMemo (addMemo ((Surroundings.initial (.ofUnix 0 0) (files content)).register processWide
        webIdentity (.plain "label" (.ok (.error (.provider "refused")))))).2).2
    let turns (secret : String) : List Turn := [.resolve, .change (provider secret).discard]
    let run (secret content : String) : List Turn.Answer × Surroundings :=
      Turn.run ((provider secret).answer 1) (turns secret) (start content)
    (run "one" "content").1 = [.resolved (.ok (.basic "id" "one")), .changed] ∧
      (run "other" "content").1 = [.resolved (.ok (.basic "id" "other")), .changed] ∧
      (disguise (· = ·)).RunsAlike (run "one" "content") (run "other" "content") ∧
      (disguise fun _ _ => True).PartsIn (provider "one") (provider "other") 1 (turns "one")
        (turns "other") (start "content") (start "elsewhere") := by
  intro disguise source exchange provider files start turns run
  have sources (contents : String → String → Prop) (others : List (String × String)) :
      (disguise contents).Sources (source "one" others) (source "other" others) := by
    have loaded : (disguise contents).Loaded .secretAccessKey (some "one") (some "other") :=
      .some trivial
    exact (sources_refl _).insert loaded
  have same (contents : String → String → Prop) :
      (disguise contents).Providers (provider "one") (provider "other") :=
    .chain (.cons (.single (.settings (sources contents exchange) processWide 0))
      (.cons (.single (.settings (sources contents []) processWide 1)) .nil))
  have calls (contents : String → String → Prop) :
      List.Forall₂ ((disguise contents).Turns (provider "one") (provider "other")) (turns "one")
        (turns "other") :=
    .cons .resolve (.cons .drop .nil)
  have hidden (contents : String → String → Prop) {content content' : String}
      (texts : Option.Rel contents (Bytes.ofText content).text? (Bytes.ofText content').text?) :
      (disguise contents).States (start content) (start content') := by
    have trees : (disguise contents).Trees (files content) (files content') :=
      trees_nil.cons [Bytes.ofText "token"] (.file texts)
    exact trees.states (start content)
  have sameText : Option.Rel (· = ·) (Bytes.ofText "content").text?
      (Bytes.ofText "content").text? :=
    rel_refl Eq.refl _
  have otherText : Option.Rel (fun _ _ => True) (Bytes.ofText "content").text?
      (Bytes.ofText "elsewhere").text? :=
    .some trivial
  have equal := Provider.secrets_stay_hidden (disguise (· = ·)) (same _) 1 (calls _)
    (hidden (· = ·) sameText)
  have different := Provider.secrets_stay_hidden (disguise fun _ _ => True) (same _) 1 (calls _)
    (hidden (fun _ _ => True) otherText)
  refine ⟨rfl, rfl, equal.1 fun _ _ => id, different.2.resolve_left ?_⟩
  intro alike
  have apart : (run "one" "content").2.events ≠ (run "other" "elsewhere").2.events := by
    decide +kernel
  exact apart alike.events

end CredentialResolution
