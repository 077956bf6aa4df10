/-
This file holds trees of chained providers over arbitrary single providers, and how they are
resolved, closed and discarded.
-/

import CredentialResolution.Credentials
import CredentialResolution.Event
import CredentialResolution.Outcome

namespace CredentialResolution

/-- Resolving gives credentials, fails or panics, and changes the state in any case. -/
abbrev Resolving (Member State : Type) : Type :=
  Member → Action State ResolutionError Credentials

/-- Closing may fail but never panics. -/
abbrev Closing (Member State : Type) : Type :=
  Member → State → Except ResolutionError Unit × State

/-- A chain holds its members in the order in which they are tried; a shared tree belongs to
somebody else. -/
inductive ChainTree (Member : Type) where
  | single (member : Member)
  | chain (members : List (ChainTree Member))
  | shared (tree : ChainTree Member)

namespace ChainTree

variable {Member State : Type}

/-- This error stands for the members of an empty chain. -/
def noneConfigured : ResolutionError :=
  .provider "no credentials providers configured"

def allFailed (last : ResolutionError) : ResolutionError :=
  .provider ("all credentials providers failed, last error: " ++ last.message)

mutual

/-- A chain answers with the credentials of its first member that has any. -/
def resolve (single : Resolving Member State) (log : LogEntry → State → State) :
    Resolving (ChainTree Member) State
  | .single member => single member
  | .chain members => (resolveMembers single log noneConfigured members).mapError allFailed
  | .shared tree => resolve single log tree

/-- The members are tried from the left; the last error is given when none is left. -/
def resolveMembers (single : Resolving Member State) (log : LogEntry → State → State)
    (last : ResolutionError) : Resolving (List (ChainTree Member)) State
  | [] => Action.fail last
  | first :: rest => (resolve single log first).rescue fun error => do
    Action.update (log (.memberFailed error))
    resolveMembers single log error rest

end

/-- This function logs a failure under the given entry and does nothing on success. -/
def ignoring (log : LogEntry → State → State) (entry : ResolutionError → LogEntry)
    (result : Except ResolutionError Unit) (state : State) : State :=
  match result with
  | .ok () => state
  | .error error => log (entry error) state

mutual

/-- Closing a chain closes every member and never fails. -/
def close (single : Closing Member State) (log : LogEntry → State → State) :
    ChainTree Member → State → Except ResolutionError Unit × State
  | .single member, state => single member state
  | .chain members, state => (.ok (), closeMembers single log members state)
  | .shared tree, state => close single log tree state

/-- A member that fails to close does not keep the next ones from being closed. -/
def closeMembers (single : Closing Member State) (log : LogEntry → State → State) :
    List (ChainTree Member) → State → State
  | [], state => state
  | first :: rest, state =>
    let (result, state) := close single log first state
    closeMembers single log rest (ignoring log .memberCloseFailed result state)

end

mutual

/-- A discarded chain discards its members from the left; a shared tree is left to its owner. -/
def discard (single : Member → State → State) : ChainTree Member → State → State
  | .single member, state => single member state
  | .chain members, state => discardMembers single members state
  | .shared _, state => state

def discardMembers (single : Member → State → State) :
    List (ChainTree Member) → State → State
  | [], state => state
  | first :: rest, state => discardMembers single rest (discard single first state)

end

end ChainTree

end CredentialResolution
