/-
This file compares a tree of chains with one chain of all its leaves. Both call the leaves alike, and
the text of a failure tells how deep the last leaf lies.
-/

import CredentialResolution.Proofs.ChainSteps
import CredentialResolution.Proofs.Unrecorded

namespace CredentialResolution

/-- Two outcomes are the same but for which error they give. -/
inductive Outcome.SameButError {Failure Other Value : Type} :
    Outcome Failure Value → Outcome Other Value → Prop
  | ok (value : Value) : SameButError (.ok value) (.ok value)
  | error (failure : Failure) (other : Other) : SameButError (.error failure) (.error other)
  | panic (text : String) : SameButError (.panic text) (.panic text)

namespace Outcome.SameButError

variable {Failure Other Wrapped Value : Type} {outcome : Outcome Failure Value}
  {outcome' : Outcome Other Value}

theorem symm (same : SameButError outcome outcome') : SameButError outcome' outcome := by
  cases same with
  | ok value => exact .ok value
  | error failure other => exact .error other failure
  | panic text => exact .panic text

/-- The error of the first outcome may be wrapped. -/
theorem mapError (same : SameButError outcome outcome') (change : Failure → Wrapped) :
    SameButError (outcome.mapError change) outcome' := by
  cases same with
  | ok value => exact .ok value
  | error failure other => exact .error (change failure) other
  | panic text => exact .panic text

end Outcome.SameButError

namespace Action

variable {State Failure Other Value : Type} {states : State → State → Prop}

/-- From related states both actions end alike, up to which error they give, and leave related
states behind. -/
def AgreesButErrors (states : State → State → Prop) (action : Action State Failure Value)
    (action' : Action State Other Value) : Prop :=
  ∀ ⦃state state'⦄, states state state' →
    Outcome.SameButError (action state).1 (action' state').1 ∧
      states (action state).2 (action' state').2

theorem Agrees.butErrors {action action' : Action State Failure Value}
    (agrees : Agrees states (· = ·) action action') : AgreesButErrors states action action' := by
  intro state state' related
  obtain ⟨alike, left⟩ := agrees related
  refine ⟨?_, left⟩
  rw [alike.eq]
  cases (action' state').1 with
  | ok value => exact .ok value
  | error failure => exact .error failure failure
  | panic text => exact .panic text

theorem fail_butErrors (failure : Failure) (other : Other) :
    AgreesButErrors states (fail failure : Action State Failure Value) (fail other) :=
  fun _ _ related => ⟨.error failure other, related⟩

theorem AgreesButErrors.mapError_left {Wrapped : Type} {action : Action State Failure Value}
    {action' : Action State Other Value} (agrees : AgreesButErrors states action action')
    (change : Failure → Wrapped) : AgreesButErrors states (action.mapError change) action' := by
  intro state state' related
  obtain ⟨alike, left⟩ := agrees related
  exact ⟨alike.mapError change, left⟩

theorem AgreesButErrors.mapError_right {Wrapped : Type} {action : Action State Failure Value}
    {action' : Action State Other Value} (agrees : AgreesButErrors states action action')
    (change : Other → Wrapped) : AgreesButErrors states action (action'.mapError change) := by
  intro state state' related
  obtain ⟨alike, left⟩ := agrees related
  exact ⟨(alike.symm.mapError change).symm, left⟩

theorem AgreesButErrors.rescue {Last Last' : Type} {action : Action State Failure Value}
    {action' : Action State Other Value} {next : Failure → Action State Last Value}
    {next' : Other → Action State Last' Value} (agrees : AgreesButErrors states action action')
    (nexts : ∀ failure other, AgreesButErrors states (next failure) (next' other)) :
    AgreesButErrors states (action.rescue next) (action'.rescue next') := by
  intro state state' related
  obtain ⟨alike, left⟩ := agrees related
  simp only [Action.rescue]
  rcases ran : action state with ⟨outcome, after⟩
  rcases ran' : action' state' with ⟨outcome', after'⟩
  rw [ran, ran'] at alike left
  cases alike with
  | ok value => exact ⟨.ok value, left⟩
  | error failure other => exact nexts failure other left
  | panic text => exact ⟨.panic text, left⟩

/-- One of the actions may begin with a change that keeps the states related. -/
theorem AgreesButErrors.update_left {action : Action State Failure Value}
    {action' : Action State Other Value} {change : State → State}
    (kept : ∀ ⦃state state'⦄, states state state' → states (change state) state')
    (agrees : AgreesButErrors states action action') :
    AgreesButErrors states (do update change; action) action' :=
  fun _ _ related => agrees (kept related)

theorem AgreesButErrors.update_right {action : Action State Failure Value}
    {action' : Action State Other Value} {change : State → State}
    (kept : ∀ ⦃state state'⦄, states state state' → states state (change state'))
    (agrees : AgreesButErrors states action action') :
    AgreesButErrors states action (do update change; action') :=
  fun _ _ related => agrees (kept related)

theorem rescue_fail (action : Action State Failure Value) : action.rescue fail = action := by
  funext state
  rw [rescue]
  rcases action state with ⟨outcome, after⟩
  cases outcome <;> rfl

theorem rescue_rescue {Last : Type} (action : Action State Failure Value)
    (next : Failure → Action State Other Value) (last : Other → Action State Last Value) :
    (action.rescue next).rescue last = action.rescue fun failure => (next failure).rescue last := by
  funext state
  simp only [rescue]
  rcases action state with ⟨outcome, after⟩
  cases outcome <;> rfl

end Action

namespace ChainTree

open CredentialResolution.Action

variable {Member State View : Type}

/-- Leaves see and change a part of the state that log entries leave alone. -/
structure Leaves (Member State View : Type) where
  resolve : Resolving Member State
  log : LogEntry → State → State
  view : State → View
  log_unseen : ∀ entry state, view (log entry state) = view state
  resolve_seen : ∀ member,
    Agrees (fun state state' => view state = view state') (· = ·) (resolve member) (resolve member)

def Step.call? : Step Member → Option (Member × Outcome ResolutionError Credentials)
  | resolved member outcome => some (member, outcome)
  | _ => none

/-- These are the calls among the steps, with their outcomes. -/
def Traced.calls (traced : Traced Member State) :
    List (Member × Outcome ResolutionError Credentials) :=
  traced.steps.filterMap Step.call?

theorem Traced.calls_resolve (single : Resolving Member State) (member : Member)
    (traced : Traced Member State) :
    (Traced.resolve single member traced).2.calls =
      traced.calls ++ [(member, (single member traced.state).1)] := by
  simp [Traced.resolve, calls, Step.call?]

theorem Traced.calls_log (log : LogEntry → State → State) (entry : LogEntry)
    (traced : Traced Member State) : (Traced.log log entry traced).calls = traced.calls := by
  simp [Traced.log, calls, Step.call?]

/-- The given members stand in front of others: the others are tried if all of the first fail. -/
theorem resolveMembers_append (single : Resolving Member State) (log : LogEntry → State → State)
    (last : ResolutionError) (first second : List (ChainTree Member)) :
    resolveMembers single log last (first ++ second) =
      (resolveMembers single log last first).rescue fun error =>
        resolveMembers single log error second := by
  induction first generalizing last with
  | nil =>
    rw [List.nil_append, resolveMembers]
    rfl
  | cons tree rest inductionHypothesis =>
    rw [List.cons_append, resolveMembers, resolveMembers, rescue_rescue]
    simp only [inductionHypothesis]
    rfl

namespace Leaves

variable (leaves : Leaves Member State View)

/-- This action resolves a tree and notes all calls of its leaves. -/
def run (tree : ChainTree Member) : Action (Traced Member State) ResolutionError Credentials :=
  ChainTree.resolve (Traced.resolve leaves.resolve) (Traced.log leaves.log) tree

def calls (tree : ChainTree Member) (state : State) :
    List (Member × Outcome ResolutionError Credentials) :=
  (leaves.run tree ⟨state, []⟩).2.calls

/-- The leaves have been called alike and are in the same state. -/
structure Same (traced traced' : Traced Member State) : Prop where
  view : leaves.view traced.state = leaves.view traced'.state
  calls : traced.calls = traced'.calls

variable {leaves}

theorem Same.log_left (entry : LogEntry) ⦃traced traced' : Traced Member State⦄
    (same : leaves.Same traced traced') :
    leaves.Same (Traced.log leaves.log entry traced) traced' :=
  ⟨(leaves.log_unseen entry traced.state).trans same.view,
    (Traced.calls_log leaves.log entry traced).trans same.calls⟩

theorem Same.log_right (entry : LogEntry) ⦃traced traced' : Traced Member State⦄
    (same : leaves.Same traced traced') :
    leaves.Same traced (Traced.log leaves.log entry traced') :=
  ⟨same.view.trans (leaves.log_unseen entry traced'.state).symm,
    same.calls.trans (Traced.calls_log leaves.log entry traced').symm⟩

variable (leaves)

theorem resolve_same (member : Member) :
    Agrees leaves.Same (· = ·) (Traced.resolve leaves.resolve member)
      (Traced.resolve leaves.resolve member) := by
  intro traced traced' same
  obtain ⟨alike, left⟩ := leaves.resolve_seen member same.view
  refine ⟨alike, left, ?_⟩
  rw [Traced.calls_resolve, Traced.calls_resolve, same.calls, alike.eq]

/-- This action tries single leaves from the left. -/
def runFlat (last : ResolutionError) (members : List Member) :
    Action (Traced Member State) ResolutionError Credentials :=
  resolveMembers (Traced.resolve leaves.resolve) (Traced.log leaves.log) last
    (members.map ChainTree.single)

theorem runFlat_append (last : ResolutionError) (first second : List Member) :
    leaves.runFlat last (first ++ second) =
      (leaves.runFlat last first).rescue fun error => leaves.runFlat error second := by
  simp only [runFlat, List.map_append, resolveMembers_append]

mutual

/-- A tree does with its leaves what a list of them does. -/
theorem run_flat : ∀ (tree : ChainTree Member) (last : ResolutionError),
    AgreesButErrors leaves.Same (leaves.run tree) (leaves.runFlat last (members tree))
  | .single member, last => by
    -- A list of one leaf logs the failure of the leaf, and nothing sees the log entry.
    have called := (leaves.resolve_same member).butErrors
    have noted : AgreesButErrors leaves.Same ((Traced.resolve leaves.resolve member).rescue fail)
        (leaves.runFlat last [member]) := by
      simp only [runFlat, List.map_cons, List.map_nil, resolveMembers, ChainTree.resolve]
      apply called.rescue
      intro error other
      exact .update_right (Same.log_right _) (fail_butErrors error other)
    rw [rescue_fail] at noted
    simpa only [run, ChainTree.resolve, members] using noted
  | .chain trees, last => by
    simp only [run, ChainTree.resolve, members]
    exact (runMembers_flat trees noneConfigured last).mapError_left allFailed
  | .shared tree, last => by
    have same := run_flat tree last
    simpa only [run, ChainTree.resolve, members] using same

theorem runMembers_flat : ∀ (trees : List (ChainTree Member)) (last last' : ResolutionError),
    AgreesButErrors leaves.Same
      (resolveMembers (Traced.resolve leaves.resolve) (Traced.log leaves.log) last trees)
      (leaves.runFlat last' (membersOfAll trees))
  | [], last, last' => by
    simp only [runFlat, membersOfAll, List.map_nil, resolveMembers]
    exact fail_butErrors last last'
  | first :: rest, last, last' => by
    rw [membersOfAll, runFlat_append, resolveMembers]
    apply (run_flat first last').rescue
    intro error other
    exact .update_left (Same.log_left _) (runMembers_flat rest error other)

end

end Leaves

section Texts

/-- The path from a tree that always descends into the last member passes so many chains and ends in
a leaf or in an empty chain. -/
structure LastPath (Member : Type) where
  chains : Nat
  leaf? : Option Member

mutual

def lastPath : ChainTree Member → LastPath Member
  | .single member => ⟨0, some member⟩
  | .chain trees => { lastPathOf trees with chains := (lastPathOf trees).chains + 1 }
  | .shared tree => lastPath tree

/-- The path goes on in the last one of the trees. -/
def lastPathOf : List (ChainTree Member) → LastPath Member
  | [] => ⟨0, none⟩
  | [tree] => lastPath tree
  | _ :: second :: rest => lastPathOf (second :: rest)

end

/-- Every chain on the path puts this in front of the text. -/
def failurePreamble : String :=
  "credentials provider error: all credentials providers failed, last error: "

/-- The text of an error tells how many chains are on the path and what ended it: the last call, or
that there was nothing to call. -/
def Explains (path : LastPath Member)
    (calls : List (Member × Outcome ResolutionError Credentials)) (error : ResolutionError) :
    Prop :=
  ∃ innermost : ResolutionError,
    error.message =
      String.join (List.replicate path.chains failurePreamble) ++ innermost.message ∧
    match path.leaf? with
    | some leaf => calls.getLast? = some (leaf, .error innermost)
    | none => innermost = noneConfigured

theorem Explains.wrap {path : LastPath Member}
    {calls : List (Member × Outcome ResolutionError Credentials)} {error : ResolutionError}
    (explains : Explains path calls error) :
    Explains { path with chains := path.chains + 1 } calls (allFailed error) := by
  obtain ⟨innermost, text, ending⟩ := explains
  refine ⟨innermost, ?_, ending⟩
  have wrapped : (allFailed error).message = "credentials provider error: " ++
      ("all credentials providers failed, last error: " ++ error.message) := rfl
  have parts : failurePreamble = "credentials provider error: " ++
      "all credentials providers failed, last error: " := by decide
  rw [wrapped, text, ← String.append_assoc, ← parts, ← String.append_assoc, List.replicate_succ,
    String.join_cons]

variable (single : Resolving Member State) (log : LogEntry → State → State)

mutual

theorem resolve_explains : ∀ (tree : ChainTree Member) (traced after : Traced Member State)
    (error : ResolutionError),
    resolve (Traced.resolve single) (Traced.log log) tree traced = (.error error, after) →
      Explains (lastPath tree) after.calls error
  | .single member, traced, after, error => by
    intro failed
    rw [resolve] at failed
    have outcome : (single member traced.state).1 = .error error := congrArg Prod.fst failed
    have noted := Traced.calls_resolve single member traced
    rw [failed, outcome] at noted
    refine ⟨error, String.empty_append.symm, ?_⟩
    simp only [lastPath, noted, List.getLast?_append, List.getLast?_singleton, Option.some_or]
  | .chain trees, traced, after, error => by
    intro failed
    rw [resolve, Action.mapError] at failed
    rcases ran : resolveMembers (Traced.resolve single) (Traced.log log) noneConfigured trees traced
      with ⟨credentials | last | text, left⟩ <;> rw [ran] at failed
    · cases failed
    · change (Outcome.error (allFailed last), left) = (.error error, after) at failed
      cases failed
      exact (resolveMembers_explains trees noneConfigured traced after last (fun _ => rfl) ran).wrap
    · cases failed
  | .shared tree, traced, after, error => by
    intro failed
    rw [resolve] at failed
    exact resolve_explains tree traced after error failed

/-- An empty list must start with the error of an empty chain. -/
theorem resolveMembers_explains : ∀ (trees : List (ChainTree Member)) (last : ResolutionError)
    (traced after : Traced Member State) (error : ResolutionError),
    (trees = [] → last = noneConfigured) →
    resolveMembers (Traced.resolve single) (Traced.log log) last trees traced =
        (.error error, after) →
      Explains (lastPathOf trees) after.calls error
  | [], last, traced, after, error => by
    intro start failed
    rw [resolveMembers] at failed
    cases failed
    exact ⟨_, String.empty_append.symm, start rfl⟩
  | [tree], last, traced, after, error => by
    -- The error of the last member is handed on after it has been logged.
    intro _ failed
    rw [resolveMembers, Action.rescue] at failed
    rcases ran : resolve (Traced.resolve single) (Traced.log log) tree traced
      with ⟨credentials | cause | text, left⟩ <;> rw [ran] at failed
    · cases failed
    · change (Outcome.error cause, Traced.log log (.memberFailed cause) left) =
        (.error error, after) at failed
      cases failed
      rw [Traced.calls_log]
      exact resolve_explains tree traced left error ran
    · cases failed
  | first :: second :: rest, last, traced, after, error => by
    intro _ failed
    rw [resolveMembers, Action.rescue] at failed
    rcases ran : resolve (Traced.resolve single) (Traced.log log) first traced
      with ⟨credentials | cause | text, left⟩ <;> rw [ran] at failed
    · cases failed
    · have more : second :: rest = [] → cause = noneConfigured :=
        fun none => absurd none (List.cons_ne_nil second rest)
      exact resolveMembers_explains (second :: rest) cause _ after error more failed
    · cases failed

end

end Texts

/-- Single providers never see the journal, to which chains write their log entries. -/
def singleLeaves (nesting : Nat) : Leaves SingleProvider Surroundings Surroundings where
  resolve := SingleProvider.resolve nesting
  log := Surroundings.log
  view := Surroundings.unrecorded
  log_unseen _ _ := rfl
  resolve_seen provider := by
    intro surroundings surroundings' same
    have lasts : Surroundings.Promise.Lasts fun _ _ => True :=
      ⟨fun _ _ => trivial, fun _ _ => trivial, fun _ _ _ => trivial⟩
    obtain ⟨alike, left⟩ := (Surroundings.unread_kept lasts).resolveSingle nesting provider
      ⟨same, trivial⟩
    exact ⟨alike, left.unrecorded⟩

/-- A chain fails with nothing but the error of a chain. -/
theorem error_of_chain {single : Resolving Member State} {log : LogEntry → State → State}
    {trees : List (ChainTree Member)} {state : State} {error : ResolutionError}
    (failed : (resolve single log (.chain trees) state).1 = .error error) :
    ∃ last, error = allFailed last := by
  simp only [resolve, Action.mapError] at failed
  cases outcome : (resolveMembers single log noneConfigured trees state).1 with
  | ok credentials | panic text =>
    rw [outcome] at failed
    cases failed
  | error last =>
    rw [outcome] at failed
    cases failed
    exact ⟨last, rfl⟩

/-- A nested chain calls its leaves as often as one chain of all of them, in the same order and with
the same outcomes, leaves them in the same states and ends with the same credentials, with the same
panic or, like it, with an error. The text of the error quotes the error that the last leaf gave, or
that of an empty chain, through all chains that it passes. -/
theorem nested_chain_resolves_as_flat (leaves : Leaves Member State View)
    (trees : List (ChainTree Member)) (state : State) :
    let nested := chain trees
    let flat := chain ((membersOfAll trees).map single)
    let run := resolve leaves.resolve leaves.log nested state
    let runFlat := resolve leaves.resolve leaves.log flat state
    leaves.calls nested state = leaves.calls flat state ∧
    leaves.view run.2 = leaves.view runFlat.2 ∧
    Outcome.SameButError run.1 runFlat.1 ∧
    (∀ error, run.1 = .error error →
      (∃ text, error = .provider text) ∧
      Explains (lastPath nested) (leaves.calls nested state) error) ∧
    noneConfigured.message = "credentials provider error: no credentials providers configured" := by
  intro nested flat run runFlat
  let start : Traced Member State := ⟨state, []⟩
  have traced : run = ((leaves.run nested start).1, (leaves.run nested start).2.state) :=
    resolve_traced leaves.log nested start leaves.resolve
  have tracedFlat : runFlat = ((leaves.run flat start).1, (leaves.run flat start).2.state) :=
    resolve_traced leaves.log flat start leaves.resolve
  have flattened : leaves.run flat =
      (leaves.runFlat noneConfigured (members nested)).mapError allFailed := by
    simp only [Leaves.run, Leaves.runFlat, flat, nested, ChainTree.resolve, members]
  have agree : AgreesButErrors leaves.Same (leaves.run nested) (leaves.run flat) := by
    rw [flattened]
    exact (leaves.run_flat nested noneConfigured).mapError_right allFailed
  obtain ⟨outcomes, same⟩ := agree (⟨rfl, rfl⟩ : leaves.Same start start)
  rw [traced, tracedFlat]
  refine ⟨same.calls, same.view, outcomes, ?_, by decide⟩
  intro error failed
  refine ⟨?_, resolve_explains leaves.resolve leaves.log nested start _ error
    (Prod.ext failed rfl)⟩
  obtain ⟨last, wrapped⟩ := error_of_chain failed
  exact ⟨_, wrapped⟩

/-- A delegate that two chains share is called twice and gives its second error at last. -/
theorem shared_delegate_explains_nested_chain :
    let delegate : ScriptedDelegate :=
      ⟨"delegate", .next (.error (.provider "first")) (.always (.error (.provider "second"))),
        .always (.ok ())⟩
    let start := (Surroundings.addScriptedDelegate delegate
      (.initial (.ofUnix 0 0) ⟨[]⟩)).2
    let trees : List Provider := [.chain [.single (.scripted 0), .chain []],
      .chain [.chain [], .shared (.single (.scripted 0))]]
    ((singleLeaves 0).calls (.chain trees) start =
      [(.scripted 0, .error (.provider "first")), (.scripted 0, .error (.provider "second"))]) ∧
    ∃ error, (Provider.resolve 0 (.chain trees) start).1 = .error error ∧
      Explains ⟨2, some (.scripted 0)⟩ ((singleLeaves 0).calls (.chain trees) start) error := by
  intro delegate start trees
  obtain ⟨-, -, -, explained, -⟩ := nested_chain_resolves_as_flat (singleLeaves 0) trees start
  exact ⟨rfl, _, rfl, (explained _ rfl).2⟩

end ChainTree

end CredentialResolution
