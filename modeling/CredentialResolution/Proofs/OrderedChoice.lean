/-
This file states the rules of choosing a delegate as they are applied in order, with all calls that
each rule makes, and shows that a choice follows exactly one of them.
-/

import CredentialResolution.Proofs.Exchange
import CredentialResolution.Provider.Calls

namespace CredentialResolution

/-- The answers of a source stand in the order in which it was asked. -/
structure Answers where
  entries : List (Setting × Option String)

namespace Answers

/-- A setting is present with its trimmed answer if anything is left of that. -/
def present (answers : Answers) (setting : Setting) : Option String :=
  LoadedSettings.normalize (answers.entries.lookup setting).join

def exchanges {Factory Delegate : Type} (answers : Answers) : List (Exchange Factory Delegate) :=
  answers.entries.map fun entry => .asked entry.1 (.ok entry.2)

def settings (answers : Answers) : LoadedSettings where
  accessKeyId := answers.present .accessKeyId
  secretAccessKey := answers.present .secretAccessKey
  sessionToken := answers.present .sessionToken
  roleArn := answers.present .roleArn
  roleSessionName := answers.present .roleSessionName
  webIdentityTokenFile := answers.present .webIdentityTokenFile

/-- What is no answer to a question comes after the answers. -/
theorem mem_exchanges_append {Factory Delegate : Type} {answers : Answers}
    {exchange : Exchange Factory Delegate}
    (other : ∀ setting answer, exchange ≠ .asked setting answer)
    {rest : List (Exchange Factory Delegate)} :
    exchange ∈ answers.exchanges ++ rest ↔ exchange ∈ rest := by
  rw [List.mem_append, or_iff_right]
  intro among
  obtain ⟨entry, -, same⟩ := List.mem_map.mp among
  exact other entry.1 (.ok entry.2) same.symm

end Answers

section Asking

variable {State Factory Delegate Failure : Type}

/-- A source is asked for each setting of the list once, in the order of the list. -/
def askEach (load : Setting → Action State Failure (Option String)) :
    List Setting → Action State Failure (List (Setting × Option String))
  | [] => return []
  | setting :: rest => do
    let answer ← load setting
    let answers ← askEach load rest
    return (setting, answer) :: answers

/-- Loading asks for all settings and uses nothing but the answers. -/
theorem load_eq_askEach (load : Setting → Action State Failure (Option String)) :
    LoadedSettings.load load = do
      let entries ← askEach load Setting.all
      return Answers.settings ⟨entries⟩ := by
  simp only [LoadedSettings.load, Setting.all, askEach, bind_assoc, pure_bind]
  rfl

/-- A source either answers every question or panics at one of them, after answering the earlier
ones. -/
theorem askEach_cases (load : Setting → Action State Empty (Option String))
    (settings : List Setting) (state : State) :
    (∃ entries after, askEach load settings state = (.ok entries, after)) ∨
      ∃ earlier setting later entries before text after,
        settings = earlier ++ setting :: later ∧
          askEach load earlier state = (.ok entries, before) ∧
            load setting before = (.panic text, after) := by
  induction settings generalizing state with
  | nil => exact .inl ⟨[], state, rfl⟩
  | cons setting rest inductionHypothesis =>
    rcases answered : load setting state with ⟨answer | failure | text, next⟩
    · rcases inductionHypothesis next with
        ⟨entries, after, rested⟩ |
          ⟨earlier, stuck, later, entries, before, text, after, rfl, asked, panics⟩
      · refine .inl ⟨(setting, answer) :: entries, after, ?_⟩
        rw [askEach, Action.bind_of_ok answered, Action.bind_of_ok rested]
        rfl
      · refine .inr ⟨setting :: earlier, stuck, later, (setting, answer) :: entries, before, text,
          after, rfl, ?_, panics⟩
        rw [askEach, Action.bind_of_ok answered, Action.bind_of_ok asked]
        rfl
    · exact failure.elim
    · exact .inr ⟨[], setting, rest, [], state, text, next, rfl, rfl, answered⟩

theorem askEach_cons_eq_ok {load : Setting → Action State Failure (Option String)}
    {first : Setting} {rest : List Setting} {state after : State}
    {entries : List (Setting × Option String)} :
    askEach load (first :: rest) state = (.ok entries, after) ↔
      ∃ answer next answers, load first state = (.ok answer, next) ∧
        askEach load rest next = (.ok answers, after) ∧ entries = (first, answer) :: answers := by
  rw [askEach, Action.bind_eq_ok]
  constructor
  · rintro ⟨answer, next, answered, continued⟩
    obtain ⟨answers, last, rested, ended⟩ := Action.bind_eq_ok.mp continued
    cases ended
    exact ⟨answer, next, answers, answered, rested, rfl⟩
  · rintro ⟨answer, next, answers, answered, rested, rfl⟩
    exact ⟨answer, next, answered, Action.bind_of_ok rested⟩

/-- Nothing is asked after a panic. -/
theorem askEach_of_panic {load : Setting → Action State Failure (Option String)}
    {earlier : List Setting} {setting : Setting} (later : List Setting) {state before after : State}
    {entries : List (Setting × Option String)} {text : String}
    (asked : askEach load earlier state = (.ok entries, before))
    (panics : load setting before = (.panic text, after)) :
    askEach load (earlier ++ setting :: later) state = (.panic text, after) := by
  induction earlier generalizing state entries with
  | nil =>
    cases asked
    exact Action.bind_of_panic panics
  | cons first rest inductionHypothesis =>
    obtain ⟨answer, next, answers, answered, rested, -⟩ := askEach_cons_eq_ok.mp asked
    rw [List.cons_append, askEach, Action.bind_of_ok answered]
    exact Action.bind_of_panic (inductionHypothesis rested)

/-- Each question is one exchange. -/
theorem askEach_recorded (means : Means State Factory Delegate) {settings : List Setting}
    {state after : State} {entries : List (Setting × Option String)}
    (asked : askEach means.load settings state = (.ok entries, after))
    (earlier : List (Exchange Factory Delegate)) :
    askEach means.recorded.load settings ⟨state, earlier⟩ =
      (.ok entries, ⟨after, earlier ++ Answers.exchanges ⟨entries⟩⟩) := by
  induction settings generalizing state entries earlier with
  | nil =>
    cases asked
    simp [askEach, Answers.exchanges]
  | cons first rest inductionHypothesis =>
    obtain ⟨answer, next, answers, answered, rested, rfl⟩ := askEach_cons_eq_ok.mp asked
    have noted := Recorded.noting_of_run (.asked first) answered earlier
    refine askEach_cons_eq_ok.mpr ⟨answer, _, answers, noted, ?_, rfl⟩
    rw [inductionHypothesis rested, List.append_assoc]
    rfl

end Asking

/-- A step of a choice has exchanges, an outcome and the surroundings it leaves behind. -/
abbrev ChoiceStep : Type :=
  List (Exchange Factory Provider) → Outcome ResolutionError Provider → Surroundings → Prop

/-- A token is exchanged in this order: the file is read, the factory is looked up in the given
registry, and the factory creates one delegate. The first failure ends the exchange. -/
inductive ExchangesToken (registry : Nat) (roleArn : String) (roleSessionName : Option String)
    (tokenFile : String) (asked : Surroundings) : ChoiceStep
  | tokenUnread {error : ResolutionError} {after : Surroundings}
      (unread : Surroundings.readToken (Path.ofText tokenFile)
        (asked.log (.resolvingWebIdentity roleArn tokenFile)) = (.error error, after)) :
      ExchangesToken registry roleArn roleSessionName tokenFile asked
        [.logged (.resolvingWebIdentity roleArn tokenFile),
          .readToken (Path.ofText tokenFile) (.error error)]
        (.error error) after
  | factoryUnavailable {token : String} {read after : Surroundings} {error : ResolutionError}
      (readToken : Surroundings.readToken (Path.ofText tokenFile)
        (asked.log (.resolvingWebIdentity roleArn tokenFile)) = (.ok token, read))
      (unavailable : Surroundings.lookUp registry "web-identity-factory" read =
        (.error error, after)) :
      ExchangesToken registry roleArn roleSessionName tokenFile asked
        [.logged (.resolvingWebIdentity roleArn tokenFile),
          .readToken (Path.ofText tokenFile) (.ok token), .lookedUp (.error error)]
        (.error error) after
  | constructorPanics {token text : String} {read after : Surroundings}
      (readToken : Surroundings.readToken (Path.ofText tokenFile)
        (asked.log (.resolvingWebIdentity roleArn tokenFile)) = (.ok token, read))
      (panics : Surroundings.lookUp registry "web-identity-factory" read = (.panic text, after)) :
      ExchangesToken registry roleArn roleSessionName tokenFile asked
        [.logged (.resolvingWebIdentity roleArn tokenFile),
          .readToken (Path.ofText tokenFile) (.ok token), .lookedUp (.panic text)]
        (.panic text) after
  | created {token : String} {read available after : Surroundings} {factory : Factory}
      {outcome : Outcome ResolutionError Provider}
      (readToken : Surroundings.readToken (Path.ofText tokenFile)
        (asked.log (.resolvingWebIdentity roleArn tokenFile)) = (.ok token, read))
      (lookedUp : Surroundings.lookUp registry "web-identity-factory" read =
        (.ok factory, available))
      (creates : factory.create roleArn roleSessionName token available = (outcome, after)) :
      ExchangesToken registry roleArn roleSessionName tokenFile asked
        [.logged (.resolvingWebIdentity roleArn tokenFile),
          .readToken (Path.ofText tokenFile) (.ok token), .lookedUp (.ok factory),
          .created factory roleArn roleSessionName token outcome]
        outcome after

/-- The first case that applies to the present settings decides. -/
inductive Decides (registry : Nat) (answers : Answers) (asked : Surroundings) : ChoiceStep
  | accessKeyMissing (noAccessKey : answers.present .accessKeyId = none) :
      Decides registry answers asked [] (.error (.missingCredential .accessKeyId)) asked
  | secretKeyMissing {accessKeyId : String}
      (accessKey : answers.present .accessKeyId = some accessKeyId)
      (noSecretKey : answers.present .secretAccessKey = none) :
      Decides registry answers asked [] (.error (.missingCredential .secretAccessKey)) asked
  | webIdentity {accessKeyId secretAccessKey tokenFile roleArn : String}
      {exchanges : List (Exchange Factory Provider)} {outcome : Outcome ResolutionError Provider}
      {after : Surroundings}
      (accessKey : answers.present .accessKeyId = some accessKeyId)
      (secretKey : answers.present .secretAccessKey = some secretAccessKey)
      (hasTokenFile : answers.present .webIdentityTokenFile = some tokenFile)
      (hasRole : answers.present .roleArn = some roleArn)
      (exchanged : ExchangesToken registry roleArn (answers.present .roleSessionName) tokenFile
        asked exchanges outcome after) :
      Decides registry answers asked exchanges outcome after
  | sessionKeys {accessKeyId secretAccessKey sessionToken : String}
      (accessKey : answers.present .accessKeyId = some accessKeyId)
      (secretKey : answers.present .secretAccessKey = some secretAccessKey)
      (noExchange : answers.present .webIdentityTokenFile = none ∨ answers.present .roleArn = none)
      (hasSession : answers.present .sessionToken = some sessionToken) :
      Decides registry answers asked [.logged .resolvedSession]
        (.ok (Provider.fixed (.session accessKeyId secretAccessKey sessionToken)))
        (asked.log .resolvedSession)
  | basicKeys {accessKeyId secretAccessKey : String}
      (accessKey : answers.present .accessKeyId = some accessKeyId)
      (secretKey : answers.present .secretAccessKey = some secretAccessKey)
      (noExchange : answers.present .webIdentityTokenFile = none ∨ answers.present .roleArn = none)
      (noSession : answers.present .sessionToken = none) :
      Decides registry answers asked [.logged .resolvedBasic]
        (.ok (Provider.fixed (.basic accessKeyId secretAccessKey))) (asked.log .resolvedBasic)

/-- All settings are asked for before anything else happens, and nothing happens after a source
panics. -/
inductive Chooses (load : Setting → Action Surroundings Empty (Option String)) (registry : Nat)
    (surroundings : Surroundings) : ChoiceStep
  | sourcePanics {earlier later : List Setting} {setting : Setting} {answers : Answers}
      {before after : Surroundings} {text : String}
      (order : Setting.all = earlier ++ setting :: later)
      (answered : askEach load earlier surroundings = (.ok answers.entries, before))
      (panics : load setting before = (.panic text, after)) :
      Chooses load registry surroundings (answers.exchanges ++ [.asked setting (.panic text)])
        (.panic text) after
  | decided {answers : Answers} {asked after : Surroundings}
      {exchanges : List (Exchange Factory Provider)} {outcome : Outcome ResolutionError Provider}
      (answered : askEach load Setting.all surroundings = (.ok answers.entries, asked))
      (decides : Decides registry answers asked exchanges outcome after) :
      Chooses load registry surroundings (answers.exchanges ++ exchanges) outcome after

section Soundness

variable {load : Setting → Action Surroundings Empty (Option String)} {registry : Nat}

/-- Exchanging a token does what its rules say. -/
theorem exchangeToken_of_exchangesToken {roleArn tokenFile : String}
    {roleSessionName : Option String} {asked after : Surroundings}
    {exchanges : List (Exchange Factory Provider)} {outcome : Outcome ResolutionError Provider}
    (rules :
      ExchangesToken registry roleArn roleSessionName tokenFile asked exchanges outcome after)
    (earlier : List (Exchange Factory Provider)) :
    (Surroundings.meansOf load registry).recorded.exchangeToken roleArn tokenFile roleSessionName
      ⟨asked, earlier⟩ = (outcome, ⟨after, earlier ++ exchanges⟩) := by
  have logged : Action.update ((Surroundings.meansOf load registry).recorded.log
      (.resolvingWebIdentity roleArn tokenFile)) ⟨asked, earlier⟩ =
        ((.ok (), ⟨asked.log (.resolvingWebIdentity roleArn tokenFile),
          earlier ++ [.logged (.resolvingWebIdentity roleArn tokenFile)]⟩) :
            Outcome ResolutionError Unit × Recorded Surroundings Factory Provider) := rfl
  rw [Means.exchangeToken, Action.bind_of_ok logged]
  cases rules with
  | tokenUnread unread =>
    refine (Action.bind_of_error (Recorded.noting_of_run (.readToken _) unread _)).trans ?_
    rw [List.append_assoc]
    rfl
  | factoryUnavailable read unavailable =>
    refine (Action.bind_of_ok (Recorded.noting_of_run (.readToken _) read _)).trans ?_
    refine (Action.bind_of_error (Recorded.noting_of_run .lookedUp unavailable _)).trans ?_
    rw [List.append_assoc, List.append_assoc]
    rfl
  | constructorPanics read panics =>
    refine (Action.bind_of_ok (Recorded.noting_of_run (.readToken _) read _)).trans ?_
    refine (Action.bind_of_panic (Recorded.noting_of_run .lookedUp panics _)).trans ?_
    rw [List.append_assoc, List.append_assoc]
    rfl
  | created read lookedUp creates =>
    refine (Action.bind_of_ok (Recorded.noting_of_run (.readToken _) read _)).trans ?_
    refine (Action.bind_of_ok (Recorded.noting_of_run .lookedUp lookedUp _)).trans ?_
    refine (Recorded.noting_of_run (.created _ _ _ _) creates _).trans ?_
    rw [List.append_assoc, List.append_assoc, List.append_assoc]
    rfl

/-- Choosing from settings does what the first case that applies says. -/
theorem chooseFrom_of_decides {answers : Answers} {asked after : Surroundings}
    {exchanges : List (Exchange Factory Provider)} {outcome : Outcome ResolutionError Provider}
    (decides : Decides registry answers asked exchanges outcome after)
    (earlier : List (Exchange Factory Provider)) :
    (Surroundings.meansOf load registry).recorded.chooseFrom answers.settings ⟨asked, earlier⟩ =
      (outcome, ⟨after, earlier ++ exchanges⟩) := by
  cases decides with
  | accessKeyMissing noAccessKey =>
    simp [Means.chooseFrom, Answers.settings, noAccessKey, Action.fail]
  | secretKeyMissing accessKey noSecretKey =>
    simp [Means.chooseFrom, Answers.settings, accessKey, noSecretKey, Action.fail]
  | webIdentity accessKey secretKey hasTokenFile hasRole exchanged =>
    simp only [Means.chooseFrom, Answers.settings, accessKey, secretKey, hasTokenFile, hasRole]
    exact exchangeToken_of_exchangesToken exchanged earlier
  | sessionKeys accessKey secretKey noExchange hasSession =>
    rcases noExchange with noExchange | noExchange <;>
      simp [Means.chooseFrom, Means.useKeys, Means.recorded, Surroundings.meansOf,
        Answers.settings, Action.bind_apply, Action.update, accessKey, secretKey, noExchange,
        hasSession]
  | basicKeys accessKey secretKey noExchange noSession =>
    rcases noExchange with noExchange | noExchange <;>
      simp [Means.chooseFrom, Means.useKeys, Means.recorded, Surroundings.meansOf,
        Answers.settings, Action.bind_apply, Action.update, accessKey, secretKey, noExchange,
        noSession]

/-- The settings are loaded with one exchange for each. -/
theorem load_recorded {surroundings asked : Surroundings} {answers : Answers}
    (answered : askEach load Setting.all surroundings = (.ok answers.entries, asked)) :
    (LoadedSettings.load (Surroundings.meansOf load registry).recorded.load).widen
      ⟨surroundings, []⟩ =
        ((.ok answers.settings, ⟨asked, answers.exchanges⟩) :
          Outcome ResolutionError LoadedSettings × Recorded Surroundings Factory Provider) := by
  have recorded := askEach_recorded (Surroundings.meansOf load registry) answered []
  rw [Action.widen, load_eq_askEach, Action.bind_of_ok recorded]
  rfl

/-- A choice that is recorded does what its rules say. -/
theorem recorded_choose_of_chooses {surroundings after : Surroundings}
    {exchanges : List (Exchange Factory Provider)} {outcome : Outcome ResolutionError Provider}
    (chooses : Chooses load registry surroundings exchanges outcome after) :
    (Surroundings.meansOf load registry).recorded.choose ⟨surroundings, []⟩ =
      (outcome, ⟨after, exchanges⟩) := by
  cases chooses with
  | @sourcePanics earlier later setting answers before _ text order answered panics =>
    have asked := askEach_recorded (Surroundings.meansOf load registry) answered []
    have stopped := askEach_of_panic later asked
      (Recorded.noting_of_run (.asked setting) panics _)
    rw [← order] at stopped
    apply Action.bind_of_panic
    rw [Action.widen, load_eq_askEach, Action.bind_of_panic stopped]
    rfl
  | decided answered decides =>
    rw [Means.choose, Action.bind_of_ok (load_recorded answered)]
    exact chooseFrom_of_decides decides _

end Soundness

/-- Reading a token ends with the token or with an error. -/
theorem readToken_cases (path : Path) (surroundings : Surroundings) :
    (∃ token after, Surroundings.readToken path surroundings = (.ok token, after)) ∨
      ∃ error after, Surroundings.readToken path surroundings = (.error error, after) := by
  unfold Surroundings.readToken
  dsimp only
  split
  · split
    · exact .inr ⟨_, _, rfl⟩
    · split
      · exact .inr ⟨_, _, rfl⟩
      · exact .inl ⟨_, _, rfl⟩
  · exact .inr ⟨_, _, rfl⟩

section Totality

variable (load : Setting → Action Surroundings Empty (Option String)) (registry : Nat)

/-- Some rule of the exchange applies. -/
theorem exists_exchangesToken (roleArn : String) (roleSessionName : Option String)
    (tokenFile : String) (asked : Surroundings) :
    ∃ exchanges outcome after,
      ExchangesToken registry roleArn roleSessionName tokenFile asked exchanges outcome after := by
  rcases readToken_cases (Path.ofText tokenFile)
      (asked.log (.resolvingWebIdentity roleArn tokenFile)) with
    ⟨token, read, readToken⟩ | ⟨error, after, unread⟩
  · rcases lookedUp : Surroundings.lookUp registry "web-identity-factory" read with
      ⟨factory | error | text, after⟩
    · exact ⟨_, _, _, .created readToken lookedUp rfl⟩
    · exact ⟨_, _, _, .factoryUnavailable readToken lookedUp⟩
    · exact ⟨_, _, _, .constructorPanics readToken lookedUp⟩
  · exact ⟨_, _, _, .tokenUnread unread⟩

/-- Some case applies to the present settings. -/
theorem exists_decides (answers : Answers) (asked : Surroundings) :
    ∃ exchanges outcome after, Decides registry answers asked exchanges outcome after := by
  rcases accessKey : answers.present .accessKeyId with _ | accessKeyId
  · exact ⟨_, _, _, .accessKeyMissing accessKey⟩
  rcases secretKey : answers.present .secretAccessKey with _ | secretAccessKey
  · exact ⟨_, _, _, .secretKeyMissing accessKey secretKey⟩
  have keys (noExchange : answers.present .webIdentityTokenFile = none ∨
      answers.present .roleArn = none) :
      ∃ exchanges outcome after, Decides registry answers asked exchanges outcome after := by
    rcases session : answers.present .sessionToken with _ | sessionToken
    · exact ⟨_, _, _, .basicKeys accessKey secretKey noExchange session⟩
    · exact ⟨_, _, _, .sessionKeys accessKey secretKey noExchange session⟩
  rcases file : answers.present .webIdentityTokenFile with _ | tokenFile
  · exact keys (.inl file)
  rcases role : answers.present .roleArn with _ | roleArn
  · exact keys (.inr role)
  obtain ⟨exchanges, outcome, after, exchanged⟩ := exists_exchangesToken registry roleArn
    (answers.present .roleSessionName) tokenFile asked
  exact ⟨_, _, _, .webIdentity accessKey secretKey file role exchanged⟩

/-- Some rule of choosing applies. -/
theorem exists_chooses (surroundings : Surroundings) :
    ∃ exchanges outcome after, Chooses load registry surroundings exchanges outcome after := by
  rcases askEach_cases load Setting.all surroundings with
    ⟨entries, asked, answered⟩ |
      ⟨earlier, setting, later, entries, before, text, after, order, answered, panics⟩
  · have answered : askEach load Setting.all surroundings =
        (.ok (Answers.mk entries).entries, asked) := answered
    obtain ⟨exchanges, outcome, after, decides⟩ := exists_decides registry ⟨entries⟩ asked
    exact ⟨_, _, _, .decided answered decides⟩
  · have answered : askEach load earlier surroundings =
        (.ok (Answers.mk entries).entries, before) := answered
    exact ⟨_, _, _, .sourcePanics order answered panics⟩

end Totality

/-- A choice has the outcome, the effects and the calls of every rule that applies. -/
theorem choose_of_chooses {load : Setting → Action Surroundings Empty (Option String)}
    {registry : Nat} {surroundings after : Surroundings}
    {exchanges : List (Exchange Factory Provider)} {outcome : Outcome ResolutionError Provider}
    (chooses : Chooses load registry surroundings exchanges outcome after) :
    (Surroundings.meansOf load registry).choose surroundings = (outcome, after) ∧
      (Surroundings.meansOf load registry).exchanges surroundings = exchanges := by
  have recorded := recorded_choose_of_chooses chooses
  obtain ⟨sameOutcome, sameState⟩ :=
    Means.choose_recorded (Surroundings.meansOf load registry) ⟨surroundings, []⟩
  rw [recorded] at sameOutcome sameState
  exact ⟨Prod.ext sameOutcome.symm sameState.symm, by rw [Means.exchanges, recorded]⟩

/-- Some rule applies and says how the choice ends. -/
theorem chooses_of_choose {load : Setting → Action Surroundings Empty (Option String)}
    {registry : Nat} {surroundings after : Surroundings}
    {outcome : Outcome ResolutionError Provider}
    (chosen : (Surroundings.meansOf load registry).choose surroundings = (outcome, after)) :
    Chooses load registry surroundings ((Surroundings.meansOf load registry).exchanges surroundings)
      outcome after := by
  obtain ⟨exchanges, outcome', after', chooses⟩ := exists_chooses load registry surroundings
  obtain ⟨chosen', same⟩ := choose_of_chooses chooses
  rw [chosen] at chosen'
  cases chosen'
  rw [same]
  exact chooses

/-- The calls of a choice are those of a rule. -/
theorem exists_chooses_exchanges (load : Setting → Action Surroundings Empty (Option String))
    (registry : Nat) (surroundings : Surroundings) :
    ∃ outcome after, Chooses load registry surroundings
      ((Surroundings.meansOf load registry).exchanges surroundings) outcome after :=
  ⟨_, _, chooses_of_choose rfl⟩

end CredentialResolution
