/-
This file compares two runs of the same program on two states. If the parts of the program keep a
relation between the states, so do loading, choosing, remembering and chaining.
-/

import CredentialResolution.Provider.Strategy
import CredentialResolution.Surroundings.Build

namespace CredentialResolution

/-- Two outcomes are alike if both are values that belong together, the same failure or the same
panic. -/
inductive Outcome.Alike {Failure Value Value' : Type} (values : Value → Value' → Prop) :
    Outcome Failure Value → Outcome Failure Value' → Prop
  | ok {value : Value} {value' : Value'} (same : values value value') :
      Alike values (.ok value) (.ok value')
  | error (failure : Failure) : Alike values (.error failure) (.error failure)
  | panic (text : String) : Alike values (.panic text) (.panic text)

namespace Outcome.Alike

variable {Failure Other Value Value' : Type} {values : Value → Value' → Prop}

theorem self {values : Value → Value → Prop} (refl : ∀ value, values value value)
    (outcome : Outcome Failure Value) : Alike values outcome outcome := by
  cases outcome with
  | ok value => exact .ok (refl value)
  | error failure => exact .error failure
  | panic text => exact .panic text

theorem refl (outcome : Outcome Failure Value) : Alike (· = ·) outcome outcome :=
  self (fun _ => rfl) outcome

/-- Outcomes that are alike through equality are equal. -/
theorem eq {outcome outcome' : Outcome Failure Value} (alike : Alike (· = ·) outcome outcome') :
    outcome = outcome' := by
  cases alike with
  | ok same => rw [same]
  | error failure => rfl
  | panic text => rfl

theorem mapError {outcome : Outcome Failure Value} {outcome' : Outcome Failure Value'}
    (alike : Alike values outcome outcome') (change : Failure → Other) :
    Alike values (outcome.mapError change) (outcome'.mapError change) := by
  cases alike with
  | ok same => exact .ok same
  | error failure => exact .error (change failure)
  | panic text => exact .panic text

theorem widen {outcome : Outcome Empty Value} {outcome' : Outcome Empty Value'}
    (alike : Alike values outcome outcome') :
    Alike values (outcome.widen : Outcome Failure Value) outcome'.widen := by
  cases alike with
  | ok same => exact .ok same
  | error failure => exact failure.elim
  | panic text => exact .panic text

end Outcome.Alike

namespace Action

variable {State State' Failure Other Value Value' Result Result' : Type}
  {states : State → State' → Prop}

/-- From related states both actions end alike and leave related states behind. -/
def Agrees (states : State → State' → Prop) (values : Value → Value' → Prop)
    (action : Action State Failure Value) (action' : Action State' Failure Value') : Prop :=
  ∀ ⦃state state'⦄, states state state' →
    Outcome.Alike values (action state).1 (action' state').1 ∧
      states (action state).2 (action' state').2

/-- Two runs of one action from the same state, in which a property is kept, agree. -/
theorem agrees_of_keeps {Keeps : State → Prop} {action : Action State Failure Value}
    (keeps : ∀ state, Keeps state → Keeps (action state).2) :
    Agrees (fun state state' => state = state' ∧ Keeps state) (· = ·) action action := by
  rintro state _ ⟨rfl, kept⟩
  exact ⟨.refl _, rfl, keeps state kept⟩

/-- A sequence keeps what its first action leaves and its second one keeps. -/
theorem bind_keeps {Keeps : State → Prop} {first : Action State Failure Value}
    {next : Value → Action State Failure Result} {state : State} (firsts : Keeps (first state).2)
    (nexts : ∀ value state, Keeps state → Keeps (next value state).2) :
    Keeps ((first >>= next) state).2 := by
  rw [bind_apply]
  rcases ended : first state with ⟨value | failure | text, middle⟩ <;> rw [ended] at firsts
  · exact nexts value middle firsts
  · exact firsts
  · exact firsts

theorem pure_agrees {values : Value → Value' → Prop} {value : Value} {value' : Value'}
    (same : values value value') :
    Agrees states values (Pure.pure value : Action State Failure Value) (Pure.pure value') :=
  fun _ _ related => ⟨.ok same, related⟩

theorem fail_agrees {values : Value → Value' → Prop} (failure : Failure) :
    Agrees states values (fail failure) (fail failure) :=
  fun _ _ related => ⟨.error failure, related⟩

theorem panicked_agrees {values : Value → Value' → Prop} (text : String) :
    Agrees states values (panicked text : Action State Failure Value) (panicked text) :=
  fun _ _ related => ⟨.panic text, related⟩

theorem update_agrees {change : State → State} {change' : State' → State'}
    (kept : ∀ ⦃state state'⦄, states state state' → states (change state) (change' state')) :
    Agrees states (· = ·) (update change : Action State Failure Unit) (update change') :=
  fun _ _ related => ⟨.ok rfl, kept related⟩

theorem look_agrees {values : Value → Value' → Prop} {view : State → Value}
    {view' : State' → Value'}
    (seen : ∀ ⦃state state'⦄, states state state' → values (view state) (view' state')) :
    Agrees states values (look view : Action State Failure Value) (look view') :=
  fun _ _ related => ⟨.ok (seen related), related⟩

/-- Agreement runs through a sequence: the second actions start in related states. -/
theorem bind_agrees {values : Value → Value' → Prop} {results : Result → Result' → Prop}
    {first : Action State Failure Value} {first' : Action State' Failure Value'}
    {next : Value → Action State Failure Result} {next' : Value' → Action State' Failure Result'}
    (firsts : Agrees states values first first')
    (nexts : ∀ ⦃value value'⦄, values value value' →
      Agrees states results (next value) (next' value')) :
    Agrees states results (first >>= next) (first' >>= next') := by
  intro state state' related
  obtain ⟨alike, left⟩ := firsts related
  rw [bind_apply, bind_apply]
  rcases ran : first state with ⟨outcome, after⟩
  rcases ran' : first' state' with ⟨outcome', after'⟩
  rw [ran, ran'] at alike left
  cases alike with
  | ok same => exact nexts same left
  | error failure => exact ⟨.error failure, left⟩
  | panic text => exact ⟨.panic text, left⟩

theorem mapError_agrees {values : Value → Value' → Prop} (change : Failure → Other)
    {action : Action State Failure Value} {action' : Action State' Failure Value'}
    (agrees : Agrees states values action action') :
    Agrees states values (action.mapError change) (action'.mapError change) := by
  intro state state' related
  obtain ⟨alike, left⟩ := agrees related
  exact ⟨alike.mapError change, left⟩

theorem widen_agrees {values : Value → Value' → Prop} {action : Action State Empty Value}
    {action' : Action State' Empty Value'} (agrees : Agrees states values action action') :
    Agrees states values (action.widen : Action State Failure Value) action'.widen := by
  intro state state' related
  obtain ⟨alike, left⟩ := agrees related
  exact ⟨alike.widen, left⟩

theorem rescue_agrees {values : Value → Value' → Prop} {action : Action State Failure Value}
    {action' : Action State' Failure Value'} {next : Failure → Action State Other Value}
    {next' : Failure → Action State' Other Value'}
    (agrees : Agrees states values action action')
    (nexts : ∀ failure, Agrees states values (next failure) (next' failure)) :
    Agrees states values (action.rescue next) (action'.rescue next') := by
  intro state state' related
  obtain ⟨alike, left⟩ := agrees related
  simp only [rescue]
  rcases ran : action state with ⟨outcome, after⟩
  rcases ran' : action' state' with ⟨outcome', after'⟩
  rw [ran, ran'] at alike left
  cases alike with
  | ok same => exact ⟨.ok same, left⟩
  | error failure => exact nexts failure left
  | panic text => exact ⟨.panic text, left⟩

theorem orUnchanged_agrees {values : Value → Value' → Prop} {action : Action State Failure Value}
    {action' : Action State' Failure Value'} (agrees : Agrees states values action action') :
    Agrees states values action.orUnchanged action'.orUnchanged := by
  intro state state' related
  obtain ⟨alike, left⟩ := agrees related
  simp only [orUnchanged]
  rcases ran : action state with ⟨outcome, after⟩
  rcases ran' : action' state' with ⟨outcome', after'⟩
  rw [ran, ran'] at alike left
  cases alike with
  | ok same => exact ⟨.ok same, left⟩
  | error failure => exact ⟨.error failure, related⟩
  | panic text => exact ⟨.panic text, related⟩

end Action

section Programs

open CredentialResolution.Action

variable {State State' Factory Factory' Delegate Delegate' Member Member' : Type}
  {states : State → State' → Prop}

/-- Settings are loaded alike if each of them is. -/
theorem LoadedSettings.load_agrees {Failure : Type}
    {loadSetting : Setting → Action State Failure (Option String)}
    {loadSetting' : Setting → Action State' Failure (Option String)}
    (each : ∀ setting, Agrees states (· = ·) (loadSetting setting) (loadSetting' setting)) :
    Agrees states (· = ·) (LoadedSettings.load loadSetting) (LoadedSettings.load loadSetting') := by
  unfold LoadedSettings.load
  iterate 6
    apply bind_agrees (each _)
    rintro value _ rfl
  exact pure_agrees rfl

/-- All means of two choices agree, up to which factories and which delegates belong together. -/
structure Means.Agree (states : State → State' → Prop) (factories : Factory → Factory' → Prop)
    (delegates : Delegate → Delegate' → Prop) (means : Means State Factory Delegate)
    (means' : Means State' Factory' Delegate') : Prop where
  log : ∀ entry ⦃state state'⦄, states state state' →
    states (means.log entry state) (means'.log entry state')
  load : ∀ setting, Agrees states (· = ·) (means.load setting) (means'.load setting)
  readToken : ∀ path, Agrees states (· = ·) (means.readToken path) (means'.readToken path)
  lookUp : Agrees states factories means.lookUp means'.lookUp
  create : ∀ ⦃factory factory'⦄, factories factory factory' →
    ∀ roleArn roleSessionName token, Agrees states delegates
      (means.create factory roleArn roleSessionName token)
      (means'.create factory' roleArn roleSessionName token)
  fixed : ∀ credentials, delegates (means.fixed credentials) (means'.fixed credentials)

/-- Choices with agreeing means agree once the settings are loaded. -/
theorem Means.chooseFrom_agrees {factories : Factory → Factory' → Prop}
    {delegates : Delegate → Delegate' → Prop} {means : Means State Factory Delegate}
    {means' : Means State' Factory' Delegate'}
    (agree : Means.Agree states factories delegates means means') (settings : LoadedSettings) :
    Agrees states delegates (means.chooseFrom settings) (means'.chooseFrom settings) := by
  obtain ⟨accessKeyId, secretAccessKey, sessionToken, roleArn, roleSessionName, tokenFile⟩ :=
    settings
  have useKeys (accessKeyId secretAccessKey : String) : Agrees states delegates
      (means.useKeys accessKeyId secretAccessKey sessionToken)
      (means'.useKeys accessKeyId secretAccessKey sessionToken) := by
    cases sessionToken <;>
      exact bind_agrees (update_agrees (agree.log _)) fun _ _ _ => pure_agrees (agree.fixed _)
  have exchangeToken (roleArn tokenFile : String) : Agrees states delegates
      (means.exchangeToken roleArn tokenFile roleSessionName)
      (means'.exchangeToken roleArn tokenFile roleSessionName) := by
    apply bind_agrees (update_agrees (agree.log _))
    intro _ _ _
    apply bind_agrees (agree.readToken _)
    rintro token _ rfl
    apply bind_agrees agree.lookUp
    intro factory factory' same
    exact agree.create same _ _ _
  cases accessKeyId with
  | none => exact fail_agrees _
  | some accessKeyId =>
    cases secretAccessKey with
    | none => exact fail_agrees _
    | some secretAccessKey =>
      cases tokenFile with
      | none => exact useKeys accessKeyId secretAccessKey
      | some tokenFile =>
        cases roleArn with
        | none => exact useKeys accessKeyId secretAccessKey
        | some roleArn => exact exchangeToken roleArn tokenFile

/-- Choices with agreeing means agree. -/
theorem Means.choose_agrees {factories : Factory → Factory' → Prop}
    {delegates : Delegate → Delegate' → Prop} {means : Means State Factory Delegate}
    {means' : Means State' Factory' Delegate'}
    (agree : Means.Agree states factories delegates means means') :
    Agrees states delegates means.choose means'.choose := by
  apply bind_agrees (widen_agrees (LoadedSettings.load_agrees agree.load))
  rintro settings _ rfl
  exact chooseFrom_agrees agree settings

/-- What all parts of a choice keep, the choice keeps. -/
theorem Means.choose_keeps {Keeps : State → Prop} {means : Means State Factory Delegate}
    (logs : ∀ entry state, Keeps state → Keeps (means.log entry state))
    (loads : ∀ setting state, Keeps state → Keeps (means.load setting state).2)
    (reads : ∀ path state, Keeps state → Keeps (means.readToken path state).2)
    (looksUp : ∀ state, Keeps state → Keeps (means.lookUp state).2)
    (creates : ∀ factory roleArn roleSessionName token state, Keeps state →
      Keeps (means.create factory roleArn roleSessionName token state).2)
    {state : State} (kept : Keeps state) : Keeps (means.choose state).2 := by
  have agree : Means.Agree (fun state state' => state = state' ∧ Keeps state) (· = ·) (· = ·)
      means means :=
    { log := by
        rintro entry state _ ⟨rfl, kept⟩
        exact ⟨rfl, logs entry state kept⟩
      load := fun setting => agrees_of_keeps (loads setting)
      readToken := fun path => agrees_of_keeps (reads path)
      lookUp := agrees_of_keeps looksUp
      create := by
        rintro factory _ rfl roleArn roleSessionName token
        exact agrees_of_keeps (creates factory roleArn roleSessionName token)
      fixed := fun credentials => rfl }
  exact (Means.choose_agrees agree ⟨rfl, kept⟩).2.2

/-- Two memos agree if they hold delegates that belong together and keep what they are given. -/
structure Memo.Agree (states : State → State' → Prop) (delegates : Delegate → Delegate' → Prop)
    (memo : Memo Delegate State) (memo' : Memo Delegate' State') : Prop where
  held : ∀ ⦃state state'⦄, states state state' →
    Option.Rel delegates (memo.held state) (memo'.held state')
  keep : ∀ ⦃delegate delegate'⦄, Option.Rel delegates delegate delegate' →
    ∀ ⦃state state'⦄, states state state' →
      states (memo.keep delegate state) (memo'.keep delegate' state')

section Remembering

variable {delegates : Delegate → Delegate' → Prop} {memo : Memo Delegate State}
  {memo' : Memo Delegate' State'} {choose : Action State ResolutionError Delegate}
  {choose' : Action State' ResolutionError Delegate'}

/-- Agreeing memos give delegates that belong together if the choices do. -/
theorem Memo.obtain_agrees (agree : Memo.Agree states delegates memo memo')
    (choices : Agrees states delegates choose choose') :
    Agrees states delegates (memo.obtain choose) (memo'.obtain choose') := by
  apply bind_agrees (look_agrees agree.held)
  rintro _ _ (same | _)
  · exact pure_agrees same
  · apply bind_agrees choices
    intro delegate delegate' same
    apply bind_agrees (update_agrees (agree.keep (.some same)))
    intro _ _ _
    exact pure_agrees same

/-- Resolving through agreeing memos agrees. -/
theorem Memo.resolve_agrees {values : Credentials → Credentials → Prop}
    (agree : Memo.Agree states delegates memo memo')
    (choices : Agrees states delegates choose choose')
    {resolveDelegate : Resolving Delegate State} {resolveDelegate' : Resolving Delegate' State'}
    (resolves : ∀ ⦃delegate delegate'⦄, delegates delegate delegate' →
      Agrees states values (resolveDelegate delegate) (resolveDelegate' delegate')) :
    Agrees states values (memo.resolve choose resolveDelegate)
      (memo'.resolve choose' resolveDelegate') :=
  bind_agrees (Memo.obtain_agrees agree choices) resolves

end Remembering

namespace ChainTree

mutual

/-- Two trees of the same form are related if the members at the same places are. -/
inductive Related (members : Member → Member' → Prop) : ChainTree Member → ChainTree Member' → Prop
  | single {member : Member} {member' : Member'} (same : members member member') :
      Related members (.single member) (.single member')
  | chain {trees : List (ChainTree Member)} {trees' : List (ChainTree Member')}
      (each : RelatedMembers members trees trees') : Related members (.chain trees) (.chain trees')
  | shared {tree : ChainTree Member} {tree' : ChainTree Member'}
      (same : Related members tree tree') : Related members (.shared tree) (.shared tree')

inductive RelatedMembers (members : Member → Member' → Prop) :
    List (ChainTree Member) → List (ChainTree Member') → Prop
  | nil : RelatedMembers members [] []
  | cons {tree : ChainTree Member} {tree' : ChainTree Member'} {rest : List (ChainTree Member)}
      {rest' : List (ChainTree Member')} (first : Related members tree tree')
      (others : RelatedMembers members rest rest') :
      RelatedMembers members (tree :: rest) (tree' :: rest')

end

variable {members : Member → Member' → Prop} {log : LogEntry → State → State}
  {log' : LogEntry → State' → State'}

section Resolve

variable {alike : Action State ResolutionError Credentials →
    Action State' ResolutionError Credentials → Prop}
  {values : Credentials → Credentials → Prop} {single : Resolving Member State}
  {single' : Resolving Member' State'}

/-- What chains do with the actions of their members makes actions that are alike again. -/
structure Chained (alike : Action State ResolutionError Credentials →
      Action State' ResolutionError Credentials → Prop)
    (log : LogEntry → State → State) (log' : LogEntry → State' → State') : Prop where
  fail : ∀ error, alike (Action.fail error) (Action.fail error)
  wrap : ∀ ⦃action action'⦄, alike action action' →
    alike (action.mapError allFailed) (action'.mapError allFailed)
  goOn : ∀ ⦃action action'⦄, alike action action' →
    ∀ ⦃next : ResolutionError → Action State ResolutionError Credentials⦄
      ⦃next' : ResolutionError → Action State' ResolutionError Credentials⦄,
    (∀ error, alike (next error) (next' error)) →
      alike
        (action.rescue fun error => do
          Action.update (log (.memberFailed error))
          next error)
        (action'.rescue fun error => do
          Action.update (log' (.memberFailed error))
          next' error)

mutual

/-- Related trees resolve alike if related members do. -/
theorem resolve_alike (chained : Chained alike log log')
    (singles : ∀ ⦃member member'⦄, members member member' →
      alike (single member) (single' member')) :
    ∀ {tree : ChainTree Member} {tree' : ChainTree Member'}, Related members tree tree' →
      alike (resolve single log tree) (resolve single' log' tree')
  | _, _, .single same => by
    simpa only [resolve] using singles same
  | _, _, .chain each => by
    simp only [resolve]
    exact chained.wrap (resolveMembers_alike chained singles each _)
  | _, _, .shared same => by
    simpa only [resolve] using resolve_alike chained singles same

theorem resolveMembers_alike (chained : Chained alike log log')
    (singles : ∀ ⦃member member'⦄, members member member' →
      alike (single member) (single' member')) :
    ∀ {trees : List (ChainTree Member)} {trees' : List (ChainTree Member')},
      RelatedMembers members trees trees' → ∀ last,
        alike (resolveMembers single log last trees) (resolveMembers single' log' last trees')
  | _, _, .nil, last => by
    simp only [resolveMembers]
    exact chained.fail last
  | _, _, .cons first others, last => by
    simp only [resolveMembers]
    exact chained.goOn (resolve_alike chained singles first) fun error =>
      resolveMembers_alike chained singles others error

end

theorem resolve_agrees
    (singles : ∀ ⦃member member'⦄, members member member' →
      Agrees states values (single member) (single' member'))
    (logs : ∀ entry ⦃state state'⦄, states state state' →
      states (log entry state) (log' entry state'))
    {tree : ChainTree Member} {tree' : ChainTree Member'} (same : Related members tree tree') :
    Agrees states values (resolve single log tree) (resolve single' log' tree') := by
  have chained : Chained (Agrees states values) log log' :=
    { fail := fail_agrees
      wrap := fun _ _ agrees => mapError_agrees allFailed agrees
      goOn := fun _ _ agrees _ _ nexts => rescue_agrees agrees fun error =>
        bind_agrees (update_agrees (logs _)) fun _ _ _ => nexts error }
  exact resolve_alike chained singles same

end Resolve

section Close

/-- Related members close with the same result and leave related states behind. -/
def ClosesAlike (states : State → State' → Prop) (members : Member → Member' → Prop)
    (close : Closing Member State) (close' : Closing Member' State') : Prop :=
  ∀ ⦃member member'⦄, members member member' → ∀ ⦃state state'⦄, states state state' →
    (close member state).1 = (close' member' state').1 ∧
      states (close member state).2 (close' member' state').2

variable {single : Closing Member State} {single' : Closing Member' State'}

theorem ignoring_agrees
    (logs : ∀ entry ⦃state state'⦄, states state state' →
      states (log entry state) (log' entry state'))
    (entry : ResolutionError → LogEntry) (result : Except ResolutionError Unit) {state : State}
    {state' : State'} (related : states state state') :
    states (ignoring log entry result state) (ignoring log' entry result state') := by
  cases result with
  | ok value => exact related
  | error error => exact logs _ related

mutual

/-- Related trees close alike if related members do. -/
theorem close_agrees (singles : ClosesAlike states members single single')
    (logs : ∀ entry ⦃state state'⦄, states state state' →
      states (log entry state) (log' entry state')) :
    ∀ {tree : ChainTree Member} {tree' : ChainTree Member'}, Related members tree tree' →
      ∀ {state : State} {state' : State'}, states state state' →
        (close single log tree state).1 = (close single' log' tree' state').1 ∧
          states (close single log tree state).2 (close single' log' tree' state').2
  | _, _, .single same, state, state', related => by
    simpa only [close] using singles same related
  | _, _, .chain each, state, state', related => by
    rw [close, close]
    exact ⟨rfl, closeMembers_agrees singles logs each related⟩
  | _, _, .shared same, state, state', related => by
    simpa only [close] using close_agrees singles logs same related

theorem closeMembers_agrees (singles : ClosesAlike states members single single')
    (logs : ∀ entry ⦃state state'⦄, states state state' →
      states (log entry state) (log' entry state')) :
    ∀ {trees : List (ChainTree Member)} {trees' : List (ChainTree Member')},
      RelatedMembers members trees trees' → ∀ {state : State} {state' : State'},
        states state state' →
          states (closeMembers single log trees state) (closeMembers single' log' trees' state')
  | _, _, .nil, state, state', related => by
    simpa only [closeMembers] using related
  | _, _, .cons first others, state, state', related => by
    simp only [closeMembers]
    obtain ⟨same, left⟩ := close_agrees singles logs first related
    rw [same]
    exact closeMembers_agrees singles logs others (ignoring_agrees logs _ _ left)

end

end Close

section Discard

variable {single : Member → State → State} {single' : Member' → State' → State'}

mutual

theorem discard_agrees
    (singles : ∀ ⦃member member'⦄, members member member' → ∀ ⦃state state'⦄,
      states state state' → states (single member state) (single' member' state')) :
    ∀ {tree : ChainTree Member} {tree' : ChainTree Member'}, Related members tree tree' →
      ∀ {state : State} {state' : State'}, states state state' →
        states (discard single tree state) (discard single' tree' state')
  | _, _, .single same, state, state', related => by
    simpa only [discard] using singles same related
  | _, _, .chain each, state, state', related => by
    simpa only [discard] using discardMembers_agrees singles each related
  | _, _, .shared _, state, state', related => by
    simpa only [discard] using related

theorem discardMembers_agrees
    (singles : ∀ ⦃member member'⦄, members member member' → ∀ ⦃state state'⦄,
      states state state' → states (single member state) (single' member' state')) :
    ∀ {trees : List (ChainTree Member)} {trees' : List (ChainTree Member')},
      RelatedMembers members trees trees' → ∀ {state : State} {state' : State'},
        states state state' →
          states (discardMembers single trees state) (discardMembers single' trees' state')
  | _, _, .nil, state, state', related => by
    simpa only [discardMembers] using related
  | _, _, .cons first others, state, state', related => by
    simp only [discardMembers]
    exact discardMembers_agrees singles others (discard_agrees singles first related)

end

end Discard

end ChainTree

theorem rel_refl {Value : Type} {values : Value → Value → Prop}
    (refl : ∀ value, values value value) (found : Option Value) :
    Option.Rel values found found := by
  cases found with
  | none => exact .none
  | some value => exact .some (refl value)

/-- Two look-ups that are alike both fail or both find something. -/
theorem cases_of_rel {Value Value' : Type} {values : Value → Value' → Prop}
    {found : Option Value} {found' : Option Value'}
    (alike : Option.Rel values found found') :
    found = none ∧ found' = none ∨
      ∃ value value', found = some value ∧ found' = some value' ∧ values value value' := by
  cases alike with
  | none => exact .inl ⟨rfl, rfl⟩
  | some same => exact .inr ⟨_, _, rfl, rfl, same⟩

/-- Agreeing memos release delegates that belong together alike. -/
theorem Memo.release_agrees {delegates : Delegate → Delegate' → Prop} {memo : Memo Delegate State}
    {memo' : Memo Delegate' State'} (agree : Memo.Agree states delegates memo memo')
    {closeDelegate : Closing Delegate State} {closeDelegate' : Closing Delegate' State'}
    (closes : ChainTree.ClosesAlike states delegates closeDelegate closeDelegate')
    {discardDelegate : Delegate → State → State} {discardDelegate' : Delegate' → State' → State'}
    (discards : ∀ ⦃delegate delegate'⦄, delegates delegate delegate' → ∀ ⦃state state'⦄,
      states state state' →
        states (discardDelegate delegate state) (discardDelegate' delegate' state'))
    {log : LogEntry → State → State} {log' : LogEntry → State' → State'}
    (logs : ∀ entry ⦃state state'⦄, states state state' →
      states (log entry state) (log' entry state'))
    {state : State} {state' : State'} (related : states state state') :
    states (memo.release closeDelegate discardDelegate log state)
      (memo'.release closeDelegate' discardDelegate' log' state') := by
  have emptied := agree.keep .none related
  simp only [Memo.release, Memo.takeOut]
  rcases cases_of_rel (agree.held related) with
    ⟨first, second⟩ | ⟨delegate, delegate', first, second, same⟩ <;> rw [first, second]
  · exact emptied
  · obtain ⟨sameResult, closed⟩ := closes same emptied
    simp only [sameResult]
    exact discards same (ChainTree.ignoring_agrees logs _ _ closed)

/-- What a name leads to agrees if the name leads to what belongs together. -/
theorem Surroundings.named_agrees {states : Surroundings → Surroundings → Prop}
    {Failure Value Value' : Type} {values : Value → Value' → Prop} (name : String)
    {find? : Surroundings → Option Value} {find?' : Surroundings → Option Value'}
    (found : ∀ ⦃surroundings surroundings'⦄, states surroundings surroundings' →
      Option.Rel values (find? surroundings) (find?' surroundings')) :
    Agrees states values (named name find? : Action Surroundings Failure Value)
      (named name find?') := by
  intro surroundings surroundings' related
  simp only [named]
  rcases cases_of_rel (found related) with
    ⟨first, second⟩ | ⟨value, value', first, second, belong⟩ <;> rw [first, second]
  · exact ⟨.panic _, related⟩
  · exact ⟨.ok belong, related⟩

end Programs

end CredentialResolution
