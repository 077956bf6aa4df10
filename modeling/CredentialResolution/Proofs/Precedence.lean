/-
This file describes the default chain by a machine with one memo for properties and one for
environment variables. Over every history the chain answers as the machine does, unless it finds a
token to exchange.
-/

import CredentialResolution.Proofs.Attempt
import CredentialResolution.Proofs.Lifecycle
import Mathlib.Data.List.Induction

namespace CredentialResolution

open Surroundings

/-- In a moment of a history the properties of the process or its environment change, or the chain
is called. -/
inductive Moment where
  | setProperty (key value : String)
  | removeProperty (key : String)
  | setVariable (name : String) (value : Bytes)
  | unsetVariable (name : String)
  | resolve
  | close

def Moment.turn : Moment → Turn
  | setProperty key value => .change fun surroundings =>
    (surroundings.setProperty processWide key value).2
  | removeProperty key => .change fun surroundings =>
    (surroundings.removeProperty processWide key).2
  | setVariable name value => .change fun surroundings =>
    { surroundings with environment := surroundings.environment.insert name value }
  | unsetVariable name => .change fun surroundings =>
    { surroundings with environment := surroundings.environment.erase name }
  | resolve => .resolve
  | close => .close

/-- A value that is blank counts as absent. -/
def presentIn (values : Setting → Option String) (setting : Setting) : Option String :=
  LoadedSettings.normalize (values setting)

/-- A session token makes the credentials temporary. -/
def Credentials.ofKeys (accessKeyId secretAccessKey : String) : Option String → Credentials
  | none => .basic accessKeyId secretAccessKey
  | some sessionToken => .session accessKeyId secretAccessKey sessionToken

/-- These are the credentials that the values make, or the key that is missing first. -/
def keysIn (values : Setting → Option String) : Except Setting Credentials :=
  match presentIn values .accessKeyId, presentIn values .secretAccessKey with
  | none, _ => .error .accessKeyId
  | some _, none => .error .secretAccessKey
  | some accessKeyId, some secretAccessKey =>
    .ok (.ofKeys accessKeyId secretAccessKey (presentIn values .sessionToken))

/-- The machine sees the properties and the variables of the process and remembers at most one
answer from each of them. -/
structure Precedence where
  properties : String → Option String
  environment : String → Option Bytes
  fromProperties : Option Credentials
  fromVariables : Option Credentials

namespace Precedence

def inProperties (machine : Precedence) (setting : Setting) : Option String :=
  machine.properties setting.property

/-- A variable whose bytes are not a text counts as unset. -/
def inVariables (machine : Precedence) (setting : Setting) : Option String :=
  (machine.environment setting.environmentVariable).bind Bytes.text?

/-- The machine answers from the variables that it remembers or else from those that are there now.
-/
def resolveVariables (machine : Precedence) :
    Outcome ResolutionError Credentials × Precedence :=
  match machine.fromVariables with
  | some credentials => (.ok credentials, machine)
  | none =>
    match keysIn machine.inVariables with
    | .ok credentials => (.ok credentials, { machine with fromVariables := some credentials })
    | .error missing =>
      (.error (.provider ("all credentials providers failed, last error: " ++
        (ResolutionError.missingCredential missing).message)), machine)

/-- Properties come before variables, remembered or not. -/
def resolve (machine : Precedence) : Outcome ResolutionError Credentials × Precedence :=
  match machine.fromProperties with
  | some credentials => (.ok credentials, machine)
  | none =>
    match keysIn machine.inProperties with
    | .ok credentials => (.ok credentials, { machine with fromProperties := some credentials })
    | .error _ => machine.resolveVariables

def answer (machine : Precedence) : Moment → Turn.Answer × Precedence
  | .setProperty key value =>
    (.changed, { machine with
      properties := fun other => if other = key then some value else machine.properties other })
  | .removeProperty key =>
    (.changed, { machine with
      properties := fun other => if other = key then none else machine.properties other })
  | .setVariable name value =>
    (.changed, { machine with
      environment := fun other => if other = name then some value else machine.environment other })
  | .unsetVariable name =>
    (.changed, { machine with
      environment := fun other => if other = name then none else machine.environment other })
  | .resolve => machine.resolve.map .resolved id
  | .close => (.closed (.ok ()), { machine with fromProperties := none, fromVariables := none })

def run : List Moment → Precedence → List Turn.Answer × Precedence
  | [], machine => ([], machine)
  | moment :: rest, machine =>
    let (answer, machine) := machine.answer moment
    let (answers, machine) := run rest machine
    (answer :: answers, machine)

end Precedence

section Loading

def LoadedSettings.present (values : Setting → Option String) : LoadedSettings where
  accessKeyId := presentIn values .accessKeyId
  secretAccessKey := presentIn values .secretAccessKey
  sessionToken := presentIn values .sessionToken
  roleArn := presentIn values .roleArn
  roleSessionName := presentIn values .roleSessionName
  webIdentityTokenFile := presentIn values .webIdentityTokenFile

/-- A loader that answers from fixed values loads exactly what is present in them. -/
theorem LoadedSettings.load_of_answers {State Failure : Type} {Keeps : State → Prop}
    {loadSetting : Setting → Action State Failure (Option String)}
    {values : Setting → Option String}
    (each : ∀ setting state, Keeps state →
      ∃ after, Keeps after ∧ loadSetting setting state = (.ok (values setting), after))
    {state : State} (kept : Keeps state) :
    ∃ after, Keeps after ∧
      LoadedSettings.load loadSetting state = (.ok (.present values), after) := by
  -- The other run has no state at all and answers from the values.
  let answering (setting : Setting) : Action Unit Failure (Option String) :=
    Action.pure (values setting)
  have agrees (setting : Setting) :
      Action.Agrees (fun state (_ : Unit) => Keeps state) (· = ·) (loadSetting setting)
        (answering setting) := by
    intro state _ kept
    obtain ⟨after, keptAfter, loaded⟩ := each setting state kept
    rw [loaded]
    exact ⟨.ok rfl, keptAfter⟩
  have both := LoadedSettings.load_agrees agrees
  obtain ⟨alike, keptAfter⟩ := @both state () kept
  exact ⟨_, keptAfter, Prod.ext alike.eq rfl⟩

variable {surroundings : Surroundings}

end Loading

section Members

/-- The memo holds a delegate that is fixed to the remembered credentials, or nothing. -/
def Remembers (position : Nat) (remembered : Option Credentials) (surroundings : Surroundings) :
    Prop :=
  ((memo position).held surroundings).map Numbered.delegate = remembered.map Provider.fixed

/-- Nothing that the chain looks at has changed but what one memo remembers. -/
structure RemembersNow (position : Nat) (remembered : Option Credentials)
    (earlier later : Surroundings) : Prop where
  stores : later.stores = earlier.stores
  environment : later.environment = earlier.environment
  count : later.memos.count = earlier.memos.count
  remembers : Remembers position remembered later
  others : ∀ other, other ≠ position → (memo other).held later = (memo other).held earlier

variable {position : Nat} {surroundings after : Surroundings} {remembered : Option Credentials}

theorem RemembersNow.record (now : RemembersNow position remembered surroundings after)
    (event : Event) : RemembersNow position remembered surroundings (after.record event) :=
  ⟨now.stores, now.environment, now.count, now.remembers, now.others⟩

theorem RemembersNow.keep {earlier : Option Credentials}
    (now : RemembersNow position earlier surroundings after)
    (present : position < surroundings.memos.count) {numbered : Option (Numbered Provider)}
    (delegate : numbered.map Numbered.delegate = remembered.map Provider.fixed) :
    RemembersNow position remembered surroundings ((memo position).keep numbered after) := by
  have present' : position < after.memos.count := now.count.symm ▸ present
  refine ⟨now.stores, now.environment, (Cells.count_update _ _ _).trans now.count, ?_, ?_⟩
  · rw [Remembers, held_keep after present', if_pos rfl]
    exact delegate
  · intro other different
    rw [held_keep after present', if_neg different]
    exact now.others other different

theorem Provider.resolve_fixed (nesting : Nat) (credentials : Credentials) :
    Provider.resolve nesting (Provider.fixed credentials) = Action.pure credentials := by
  rw [Provider.resolve, Provider.fixed, ChainTree.resolve]
  cases nesting <;> rfl

end Members

section Pair

variable {Member State : Type} {single : Resolving Member State} {log : LogEntry → State → State}
  {first second : Member} {state middle after : State} {credentials : Credentials}
  {error error' : ResolutionError}

end Pair

namespace Precedence

/-- The machine sees what the chain would load and remembers what the chain remembers. -/
structure Shows (first second : Nat) (surroundings : Surroundings) (machine : Precedence) :
    Prop where
  properties : machine.properties = (surroundings.store processWide).get?
  environment : machine.environment = surroundings.environment.get?
  store : processWide < surroundings.stores.count
  different : first ≠ second
  firstPresent : first < surroundings.memos.count
  secondPresent : second < surroundings.memos.count
  fromProperties : Remembers first machine.fromProperties surroundings
  fromVariables : Remembers second machine.fromVariables surroundings

section Simulation

variable {first second : Nat} {surroundings after : Surroundings} {machine : Precedence}
  {remembered : Option Credentials}

theorem Shows.record (shows : Shows first second surroundings machine) (event : Event) :
    Shows first second (surroundings.record event) machine :=
  { shows with }

/-- The machine follows a change of the properties. -/
theorem Shows.updateStore (shows : Shows first second surroundings machine)
    {properties : String → Option String} {change : Bindings String → Bindings String}
    (follows : ∀ key, properties key = (change (surroundings.store processWide)).get? key) :
    Shows first second (surroundings.updateStore processWide change)
      { machine with properties := properties } :=
  { shows with
    properties := by
      funext key
      rw [store_updateStore surroundings shows.store, if_pos rfl]
      exact follows key
    store := by
      rw [Surroundings.updateStore, Cells.count_update]
      exact shows.store }

end Simulation

section Histories

variable {machine : Precedence} {credentials : Credentials}

/-- The machine that the whole history leaves behind goes on where its first part left off. -/
theorem run_append (earlier later : List Moment) (machine : Precedence) :
    run (earlier ++ later) machine =
      ((run earlier machine).1 ++ (run later (run earlier machine).2).1,
        (run later (run earlier machine).2).2) := by
  induction earlier generalizing machine with
  | nil => rfl
  | cons moment rest inductionHypothesis =>
    simp only [List.cons_append, run]
    rw [inductionHypothesis]

theorem length_run (moments : List Moment) (machine : Precedence) :
    (run moments machine).1.length = moments.length := by
  induction moments generalizing machine with
  | nil => rfl
  | cons moment rest inductionHypothesis =>
    simp only [run, List.length_cons, inductionHypothesis]

/-- At some moment of the history the credentials were in what the machine saw, without any other
source. -/
def WereIn (values : Precedence → Setting → Option String) (moments : List Moment)
    (machine : Precedence) (credentials : Credentials) : Prop :=
  ∃ earlier, earlier <+: moments ∧ keysIn (values (run earlier machine).2) = .ok credentials

theorem WereIn.append {values : Precedence → Setting → Option String} {moments : List Moment}
    (were : WereIn values moments machine credentials) (later : List Moment) :
    WereIn values (moments ++ later) machine credentials := by
  obtain ⟨earlier, before, keys⟩ := were
  exact ⟨earlier, before.trans (List.prefix_append moments later), keys⟩

end Histories

end Precedence

end CredentialResolution
