/-
This file lists the members of a tree. What the calls of its members keep, a call of the tree keeps.
-/

import CredentialResolution.Proofs.Agreement

namespace CredentialResolution.ChainTree

variable {Member State : Type} {Keeps : State → Prop} {log : LogEntry → State → State}

mutual

/-- This function lists the members of a tree from the left. -/
def members : ChainTree Member → List Member
  | single member => [member]
  | chain trees => membersOfAll trees
  | shared tree => members tree

def membersOfAll : List (ChainTree Member) → List Member
  | [] => []
  | first :: rest => members first ++ membersOfAll rest

end

section Resolve

variable {same : Member → Member → Prop}

mutual

/-- A tree is related to itself if each of its members is. -/
theorem related_self : ∀ (tree : ChainTree Member), (∀ member ∈ members tree, same member member) →
    Related same tree tree
  | .single member, each => by
    rw [members] at each
    exact .single (each member (List.mem_singleton_self member))
  | .chain trees, each => by
    rw [members] at each
    exact .chain (relatedMembers_self trees each)
  | .shared tree, each => by
    rw [members] at each
    exact .shared (related_self tree each)

theorem relatedMembers_self : ∀ (trees : List (ChainTree Member)),
    (∀ member ∈ membersOfAll trees, same member member) → RelatedMembers same trees trees
  | [], _ => .nil
  | first :: rest, each => by
    rw [membersOfAll, List.forall_mem_append] at each
    exact .cons (related_self first each.1) (relatedMembers_self rest each.2)

end

/-- What resolving the members of a tree keeps, resolving the tree keeps. -/
theorem resolve_keeps {single : Resolving Member State} (tree : ChainTree Member)
    (singles : ∀ member ∈ members tree, ∀ state, Keeps state → Keeps (single member state).2)
    (logs : ∀ entry state, Keeps state → Keeps (log entry state)) {state : State}
    (kept : Keeps state) : Keeps (resolve single log tree state).2 := by
  have agrees : Action.Agrees (fun state state' => state = state' ∧ Keeps state) (· = ·)
      (resolve single log tree) (resolve single log tree) := by
    let Alike (member member' : Member) : Prop :=
      member = member' ∧ ∀ state, Keeps state → Keeps (single member state).2
    have alike : Related Alike tree tree :=
      related_self tree fun member among => ⟨rfl, singles member among⟩
    apply resolve_agrees _ _ alike
    · rintro member _ ⟨rfl, keeps⟩
      exact Action.agrees_of_keeps keeps
    · rintro entry state _ ⟨rfl, kept⟩
      exact ⟨rfl, logs entry state kept⟩
  exact (agrees ⟨rfl, kept⟩).2.2

end Resolve

/-- The failure to close is logged under one entry only. -/
theorem ignoring_keeps_failure {entry : ResolutionError → LogEntry}
    (logs : ∀ error state, Keeps state → Keeps (log (entry error) state))
    (result : Except ResolutionError Unit) {state : State} (kept : Keeps state) :
    Keeps (ignoring log entry result state) := by
  cases result with
  | ok value => exact kept
  | error error => exact logs error _ kept

theorem ignoring_keeps (logs : ∀ entry state, Keeps state → Keeps (log entry state))
    (entry : ResolutionError → LogEntry) (result : Except ResolutionError Unit) {state : State}
    (kept : Keeps state) : Keeps (ignoring log entry result state) :=
  ignoring_keeps_failure (fun error => logs (entry error)) result kept

section Close

variable {single : Closing Member State}

mutual

/-- What closing the members of a tree and logging their failures keep, closing the tree keeps. -/
theorem close_keeps_failures
    (logs : ∀ error state, Keeps state → Keeps (log (.memberCloseFailed error) state)) :
    ∀ (tree : ChainTree Member),
      (∀ member ∈ members tree, ∀ state, Keeps state → Keeps (single member state).2) →
        ∀ {state : State}, Keeps state → Keeps (close single log tree state).2
  | .single member, singles, state, kept => by
    rw [members] at singles
    rw [close]
    exact singles member (List.mem_singleton_self member) state kept
  | .chain trees, singles, state, kept => by
    rw [members] at singles
    rw [close]
    exact closeMembers_keeps_failures logs trees singles kept
  | .shared tree, singles, state, kept => by
    rw [members] at singles
    rw [close]
    exact close_keeps_failures logs tree singles kept

theorem closeMembers_keeps_failures
    (logs : ∀ error state, Keeps state → Keeps (log (.memberCloseFailed error) state)) :
    ∀ (trees : List (ChainTree Member)),
      (∀ member ∈ membersOfAll trees, ∀ state, Keeps state → Keeps (single member state).2) →
        ∀ {state : State}, Keeps state → Keeps (closeMembers single log trees state)
  | [], _, state, kept => by
    rw [closeMembers]
    exact kept
  | first :: rest, singles, state, kept => by
    rw [membersOfAll, List.forall_mem_append] at singles
    rw [closeMembers]
    apply closeMembers_keeps_failures logs rest singles.2
    apply ignoring_keeps_failure logs
    exact close_keeps_failures logs first singles.1 kept

end

/-- What closing the members of a tree keeps, closing the tree keeps. -/
theorem close_keeps_of_members (logs : ∀ entry state, Keeps state → Keeps (log entry state))
    (tree : ChainTree Member)
    (singles : ∀ member ∈ members tree, ∀ state, Keeps state → Keeps (single member state).2)
    {state : State} (kept : Keeps state) : Keeps (close single log tree state).2 :=
  close_keeps_failures (fun error => logs (.memberCloseFailed error)) tree singles kept

end Close

section Discard

variable {single : Member → State → State}

mutual

theorem discard_keeps_of_members : ∀ (tree : ChainTree Member),
    (∀ member ∈ members tree, ∀ state, Keeps state → Keeps (single member state)) →
      ∀ {state : State}, Keeps state → Keeps (discard single tree state)
  | .single member, singles, state, kept => by
    rw [members] at singles
    rw [discard]
    exact singles member (List.mem_singleton_self member) state kept
  | .chain trees, singles, state, kept => by
    rw [members] at singles
    rw [discard]
    exact discardMembers_keeps_of_members trees singles kept
  | .shared tree, _, state, kept => by
    rw [discard]
    exact kept

theorem discardMembers_keeps_of_members : ∀ (trees : List (ChainTree Member)),
    (∀ member ∈ membersOfAll trees, ∀ state, Keeps state → Keeps (single member state)) →
      ∀ {state : State}, Keeps state → Keeps (discardMembers single trees state)
  | [], _, state, kept => by
    rw [discardMembers]
    exact kept
  | first :: rest, singles, state, kept => by
    rw [membersOfAll, List.forall_mem_append] at singles
    rw [discardMembers]
    apply discardMembers_keeps_of_members rest singles.2
    exact discard_keeps_of_members first singles.1 kept

end

end Discard

end CredentialResolution.ChainTree
