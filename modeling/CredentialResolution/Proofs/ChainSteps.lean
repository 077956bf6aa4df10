/-
This file notes the steps of a chain at work. A chain calls its members from the left until one of
them answers without an error, and every failure before that is logged right after the call.
-/

import CredentialResolution.Proofs.Members

namespace CredentialResolution

namespace ChainTree

/-- A chain at work calls members and writes log entries. -/
inductive Step (Member : Type) where
  | resolved (member : Member) (outcome : Outcome ResolutionError Credentials)
  | closed (member : Member) (result : Except ResolutionError Unit)
  | logged (entry : LogEntry)

/-- The steps stand beside the state, oldest first. -/
structure Traced (Member State : Type) where
  state : State
  steps : List (Step Member)

variable {Member State : Type}

namespace Traced

/-- This function resolves a member and notes the call with its outcome. -/
def resolve (single : Resolving Member State) : Resolving Member (Traced Member State) :=
  fun member traced =>
    let (outcome, after) := single member traced.state
    (outcome, ⟨after, traced.steps ++ [.resolved member outcome]⟩)

/-- This function closes a member and notes the call with its result. -/
def close (single : Closing Member State) : Closing Member (Traced Member State) :=
  fun member traced =>
    let (result, after) := single member traced.state
    (result, ⟨after, traced.steps ++ [.closed member result]⟩)

def log (log : LogEntry → State → State) (entry : LogEntry) (traced : Traced Member State) :
    Traced Member State :=
  ⟨log entry traced.state, traced.steps ++ [.logged entry]⟩

end Traced

section Noting

variable (log : LogEntry → State → State) (tree : ChainTree Member)
  (traced : Traced Member State)

/-- Noting the steps changes neither the outcome nor the state. -/
theorem resolve_traced (single : Resolving Member State) :
    let run := resolve (Traced.resolve single) (Traced.log log) tree traced
    resolve single log tree traced.state = (run.1, run.2.state) := by
  have singles ⦃member member' : Member⦄ (same : member = member') :
      Action.Agrees (fun (traced : Traced Member State) state => traced.state = state) (· = ·)
        (Traced.resolve single member) (single member') := by
    rintro traced _ rfl
    rw [same]
    exact ⟨.refl _, rfl⟩
  have logs (entry : LogEntry) ⦃traced : Traced Member State⦄ ⦃state : State⦄
      (same : traced.state = state) : (Traced.log log entry traced).state = log entry state :=
    congrArg (log entry) same
  have alike := related_self tree fun member _ => (rfl : member = member)
  obtain ⟨outcomes, states⟩ := resolve_agrees singles logs alike (rfl : traced.state = traced.state)
  exact Prod.ext outcomes.eq.symm states.symm

/-- So it is with every way of noting what closing a member does. -/
theorem close_noted {Noted : Type} (traced : Traced Noted State) {single : Closing Member State}
    {noted : Closing Member (Traced Noted State)}
    (same : ∀ member traced, single member traced.state =
      ((noted member traced).1, (noted member traced).2.state)) :
    let run := close noted (Traced.log log) tree traced
    close single log tree traced.state = (run.1, run.2.state) := by
  have singles : ClosesAlike (fun (traced : Traced Noted State) state => traced.state = state)
      (· = ·) noted single := by
    rintro member _ rfl traced _ rfl
    rw [same]
    exact ⟨rfl, rfl⟩
  have logs (entry : LogEntry) ⦃traced : Traced Noted State⦄ ⦃state : State⦄
      (same : traced.state = state) : (Traced.log log entry traced).state = log entry state :=
    congrArg (log entry) same
  have alike := related_self tree fun member _ => (rfl : member = member)
  obtain ⟨results, states⟩ := close_agrees singles logs alike (rfl : traced.state = traced.state)
  exact Prod.ext results.symm states.symm

end Noting

section Search

/-- These are the steps for a member that fails. -/
def failingSteps (failure : Member × ResolutionError) : List (Step Member) :=
  [.resolved failure.1 (.error failure.2), .logged (.memberFailed failure.2)]

/-- A search through the members ends at the first one that does not fail, or with the last error.
The given error stands for the members of an empty list. -/
inductive Searched (last : ResolutionError) (members : List Member) :
    Outcome ResolutionError Credentials → List (Step Member) → Prop
  | ended {failures : List (Member × ResolutionError)} {member : Member} {later : List Member}
      {outcome : Outcome ResolutionError Credentials}
      (split : members = failures.map Prod.fst ++ member :: later)
      (answered : ∀ error, outcome ≠ .error error) :
      Searched last members outcome (failures.flatMap failingSteps ++ [.resolved member outcome])
  | exhausted {failures : List (Member × ResolutionError)}
      (all : members = failures.map Prod.fst) :
      Searched last members (.error ((failures.map Prod.snd).getLastD last))
        (failures.flatMap failingSteps)

namespace Searched

variable {last error : ResolutionError} {members : List Member} {member : Member}
  {outcome : Outcome ResolutionError Credentials} {steps : List (Step Member)}

theorem nothing (last : ResolutionError) : Searched last ([] : List Member) (.error last) [] :=
  @exhausted Member last [] [] rfl

/-- A search ends at once if the first member does not fail. -/
theorem first (answered : ∀ error, outcome ≠ .error error) (later : List Member) :
    Searched last (member :: later) outcome [.resolved member outcome] :=
  @ended Member last (member :: later) [] member later outcome rfl answered

/-- A failure in front makes a search begin with two more steps. -/
theorem cons (searched : Searched error members outcome steps) (member : Member) :
    Searched last (member :: members) outcome (failingSteps (member, error) ++ steps) := by
  cases searched with
  | @ended failures found later outcome split answered =>
    have more : Searched last (member :: members) outcome
        (((member, error) :: failures).flatMap failingSteps ++ [.resolved found outcome]) :=
      .ended (congrArg (List.cons member) split) answered
    rwa [List.flatMap_cons, List.append_assoc] at more
  | @exhausted failures all =>
    have more : Searched last (member :: members)
        (.error ((((member, error) :: failures).map Prod.snd).getLastD last))
        (((member, error) :: failures).flatMap failingSteps) :=
      .exhausted (congrArg (List.cons member) all)
    rwa [List.flatMap_cons, List.map_cons, List.getLastD_cons] at more

end Searched

/-- The members of a list are searched from the left, by induction on the list. -/
theorem resolveMembers_searched (single : Resolving Member State) (log : LogEntry → State → State)
    (members : List Member) (last : ResolutionError) (traced : Traced Member State) :
    let run := resolveMembers (Traced.resolve single) (Traced.log log) last
      (members.map ChainTree.single) traced
    ∃ steps, Searched last members run.1 steps ∧ run.2.steps = traced.steps ++ steps := by
  induction members generalizing last traced with
  | nil => exact ⟨[], .nothing last, (List.append_nil _).symm⟩
  | cons member rest inductionHypothesis =>
    rw [List.map_cons, resolveMembers, Action.rescue, resolve]
    rcases called : single member traced.state with ⟨credentials | error | text, after⟩ <;>
      simp only [Traced.resolve, called]
    · have answered (error : ResolutionError) : Outcome.ok credentials ≠ .error error := by
        intro same
        cases same
      exact ⟨_, .first answered rest, rfl⟩
    · let failed : Traced Member State := ⟨after, traced.steps ++ [.resolved member (.error error)]⟩
      obtain ⟨steps, searched, noted⟩ :=
        inductionHypothesis error (Traced.log log (.memberFailed error) failed)
      refine ⟨failingSteps (member, error) ++ steps, searched.cons member, noted.trans ?_⟩
      simp only [Traced.log, failed, failingSteps, List.append_assoc]
      rfl
    · have answered (error : ResolutionError) :
          (.panic text : Outcome ResolutionError Credentials) ≠ .error error := by
        intro same
        cases same
      exact ⟨_, .first answered rest, rfl⟩

/-- The members of a chain may be called as single members. -/
theorem resolve_chain_single (single : Resolving Member State) (log : LogEntry → State → State)
    (trees : List (ChainTree Member)) :
    resolve (resolve single log) log (.chain (trees.map ChainTree.single)) =
      resolve single log (.chain trees) := by
  have members (last : ResolutionError) :
      resolveMembers (resolve single log) log last (trees.map ChainTree.single) =
        resolveMembers single log last trees := by
    induction trees generalizing last with
    | nil => simp only [List.map_nil, resolveMembers]
    | cons tree rest inductionHypothesis =>
      simp only [List.map_cons, resolveMembers, resolve, inductionHypothesis]
  rw [resolve, resolve, members]

end Search

/-- A chain calls its members from the left, each of them once, up to and including the first one
that succeeds or panics, and gives the outcome of that one. Each failure before it is logged once,
right after the call. If all members fail, the chain fails with a text that quotes the last error.
-/
theorem first_success_answers (single : Resolving Member State) (log : LogEntry → State → State)
    (trees : List (ChainTree Member)) (state : State) :
    let run := resolve (Traced.resolve (resolve single log)) (Traced.log log)
      (.chain (trees.map ChainTree.single)) ⟨state, []⟩
    resolve single log (.chain trees) state = (run.1, run.2.state) ∧
    (∃ failures : List (ChainTree Member × ResolutionError),
      (∃ member later, trees = failures.map Prod.fst ++ member :: later ∧
        (∀ error, run.1 ≠ .error error) ∧
        run.2.steps = failures.flatMap failingSteps ++ [.resolved member run.1]) ∨
      (trees = failures.map Prod.fst ∧ run.2.steps = failures.flatMap failingSteps ∧
        let last := (failures.map Prod.snd).getLastD (.provider "no credentials providers configured")
        ∃ error, run.1 = .error error ∧
          error = .provider ("all credentials providers failed, last error: " ++ last.message) ∧
          error.causes = [] ∧ error.missingSetting? = none ∧ error.isRetryable = false)) ∧
    ∀ error, (LogEntry.memberFailed error).message = "credentials provider in chain failed" ∧
      (LogEntry.memberFailed error).fields = [("error", error.message)] := by
  intro run
  have traced := resolve_traced log (.chain (trees.map ChainTree.single)) ⟨state, []⟩
    (resolve single log)
  rw [resolve_chain_single] at traced
  refine ⟨traced, ?_, fun error => ⟨rfl, rfl⟩⟩
  obtain ⟨steps, searched, noted⟩ :=
    resolveMembers_searched (resolve single log) log trees noneConfigured ⟨state, []⟩
  rcases found : resolveMembers (Traced.resolve (resolve single log)) (Traced.log log)
    noneConfigured (trees.map ChainTree.single) ⟨state, []⟩ with ⟨outcome, after⟩
  rw [found] at searched noted
  have ended : run = (outcome.mapError allFailed, after) := by
    simp only [run, resolve, Action.mapError, found]
  rw [ended]
  cases searched with
  | @ended failures member later _ split answered =>
    have unchanged : outcome.mapError allFailed = outcome := by
      cases outcome with
      | ok credentials => rfl
      | error error => exact absurd rfl (answered error)
      | panic text => rfl
    rw [unchanged]
    exact ⟨failures, .inl ⟨member, later, split, answered, noted⟩⟩
  | @exhausted failures all =>
    exact ⟨failures, .inr ⟨all, noted, _, rfl, rfl, rfl, rfl, rfl⟩⟩

end ChainTree

end CredentialResolution
