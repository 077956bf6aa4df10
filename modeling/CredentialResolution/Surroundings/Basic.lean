/-
This file holds everything around a provider that it reads, changes or reports to.
-/

import CredentialResolution.Cells
import CredentialResolution.Factory.Basic
import CredentialResolution.File.Tree
import CredentialResolution.Provider.Memo

namespace CredentialResolution

/-- A name leads to a position, or to a source, factory or provider itself. -/
structure Names where
  stores : Bindings Nat
  registries : Bindings Nat
  sources : Bindings Source
  factories : Bindings Factory
  providers : Bindings Provider

def Names.none : Names := ⟨.empty, .empty, .empty, .empty, .empty⟩

/-- The store and the registry of the whole process stand first among their kind; the journal has
the newest event first. -/
structure Surroundings where
  clock : Instant
  environment : Bindings Bytes
  files : FileTree
  stores : Cells (Bindings String)
  registries : Cells (Bindings Constructor)
  scriptedSources : Cells ScriptedSource
  scriptedDelegates : Cells ScriptedDelegate
  memos : Cells (Option (Numbered Provider))
  names : Names
  chosenCount : Nat
  journal : List Event

namespace Surroundings

def initial (clock : Instant) (files : FileTree) : Surroundings where
  clock := clock
  environment := .empty
  files := files
  stores := .ofFirst .empty
  registries := .ofFirst .empty
  scriptedSources := .empty
  scriptedDelegates := .empty
  memos := .empty
  names := .none
  chosenCount := 0
  journal := []

def record (event : Event) (surroundings : Surroundings) : Surroundings :=
  { surroundings with journal := event :: surroundings.journal }

def log (entry : LogEntry) (surroundings : Surroundings) : Surroundings :=
  surroundings.record (.logged entry)

/-- This function lists what the journal holds, oldest first. -/
def events (surroundings : Surroundings) : List Event :=
  surroundings.journal.reverse

@[simp] theorem events_record (event : Event) (surroundings : Surroundings) :
    (surroundings.record event).events = surroundings.events ++ [event] := by
  simp [events, record]

/-- A position without a store stands for an empty one. -/
def store (surroundings : Surroundings) (position : Nat) : Bindings String :=
  (surroundings.stores.get? position).getD .empty

def updateStore (position : Nat) (change : Bindings String → Bindings String)
    (surroundings : Surroundings) : Surroundings :=
  { surroundings with stores := surroundings.stores.update position change }

/-- A position without a registry stands for an empty one. -/
def registry (surroundings : Surroundings) (position : Nat) : Bindings Constructor :=
  (surroundings.registries.get? position).getD .empty

def updateRegistry (position : Nat) (change : Bindings Constructor → Bindings Constructor)
    (surroundings : Surroundings) : Surroundings :=
  { surroundings with registries := surroundings.registries.update position change }

/-- The memo of one provider over settings lies at its position; nothing is held elsewhere. -/
def memo (position : Nat) : Memo (Numbered Provider) Surroundings where
  held surroundings := (surroundings.memos.get? position).join
  keep delegate surroundings :=
    { surroundings with memos := surroundings.memos.update position fun _ => delegate }

/-- What is added gets the next position of its kind, and that position is given. -/
def addStore (entries : Bindings String) (surroundings : Surroundings) : Nat × Surroundings :=
  (surroundings.stores.count, { surroundings with stores := surroundings.stores.add entries })

def addRegistry (surroundings : Surroundings) : Nat × Surroundings :=
  (surroundings.registries.count,
    { surroundings with registries := surroundings.registries.add .empty })

def addScriptedSource (source : ScriptedSource) (surroundings : Surroundings) :
    Nat × Surroundings :=
  (surroundings.scriptedSources.count,
    { surroundings with scriptedSources := surroundings.scriptedSources.add source })

def addScriptedDelegate (delegate : ScriptedDelegate) (surroundings : Surroundings) :
    Nat × Surroundings :=
  (surroundings.scriptedDelegates.count,
    { surroundings with scriptedDelegates := surroundings.scriptedDelegates.add delegate })

/-- A new memo holds nothing. -/
def addMemo (surroundings : Surroundings) : Nat × Surroundings :=
  (surroundings.memos.count, { surroundings with memos := surroundings.memos.add none })

/-- A change to one store leaves the others alone. -/
theorem store_updateStore (surroundings : Surroundings) {position : Nat}
    (present : position < surroundings.stores.count)
    (change : Bindings String → Bindings String) (other : Nat) :
    (surroundings.updateStore position change).store other =
      if other = position then change (surroundings.store other)
      else surroundings.store other := by
  obtain ⟨value, found⟩ := Cells.exists_of_lt_count present
  by_cases same : other = position
  · subst same
    simp [store, updateStore, Cells.get?_update, found]
  · simp [store, updateStore, Cells.get?_update, same]

/-- A change to one registry leaves the others alone. -/
theorem registry_updateRegistry (surroundings : Surroundings) {position : Nat}
    (present : position < surroundings.registries.count)
    (change : Bindings Constructor → Bindings Constructor) (other : Nat) :
    (surroundings.updateRegistry position change).registry other =
      if other = position then change (surroundings.registry other)
      else surroundings.registry other := by
  obtain ⟨value, found⟩ := Cells.exists_of_lt_count present
  by_cases same : other = position
  · subst same
    simp [registry, updateRegistry, Cells.get?_update, found]
  · simp [registry, updateRegistry, Cells.get?_update, same]

/-- A memo holds what was last put there, and the other memos keep what they hold. -/
theorem held_keep (surroundings : Surroundings) {position : Nat}
    (present : position < surroundings.memos.count) (delegate : Option (Numbered Provider))
    (other : Nat) :
    (memo other).held ((memo position).keep delegate surroundings) =
      if other = position then delegate else (memo other).held surroundings := by
  obtain ⟨value, found⟩ := Cells.exists_of_lt_count present
  by_cases same : other = position
  · subst same
    simp [memo, Cells.get?_update, found]
  · simp [memo, Cells.get?_update, same]

/-- What was put into a memo before does not matter. -/
@[simp] theorem keep_keep (position : Nat) (delegate earlier : Option (Numbered Provider))
    (surroundings : Surroundings) :
    (memo position).keep delegate ((memo position).keep earlier surroundings) =
      (memo position).keep delegate surroundings := by
  simp [memo]

/-- Putting back what a memo holds changes nothing. -/
theorem keep_held (position : Nat) (surroundings : Surroundings) :
    (memo position).keep ((memo position).held surroundings) surroundings = surroundings := by
  have unchanged : (surroundings.memos.update position fun _ =>
      (surroundings.memos.get? position).join) = surroundings.memos := by
    apply Cells.ext_get?
    intro other
    rw [Cells.get?_update]
    split
    · rename_i same
      rw [same]
      cases surroundings.memos.get? position <;> rfl
    · rfl
  simp only [memo, unchanged]

theorem keep_none_of_empty {position : Nat} {surroundings : Surroundings}
    (empty : (memo position).held surroundings = none) :
    (memo position).keep none surroundings = surroundings := by
  have unchanged := keep_held position surroundings
  rw [empty] at unchanged
  exact unchanged

/-- Only present memos hold anything. -/
theorem present_of_held {position : Nat} {surroundings : Surroundings}
    {delegate : Numbered Provider} (held : (memo position).held surroundings = some delegate) :
    position < surroundings.memos.count := by
  rcases Nat.lt_or_ge position surroundings.memos.count with present | absent
  · exact present
  · simp only [memo, Cells.get?_eq_none absent] at held
    cases held

/-- The name of what the whole process shares cannot be given to anything else. -/
def processWideName : String := "global"

def storeNamed? (surroundings : Surroundings) (name : String) : Option Nat :=
  if name = processWideName then some processWide else surroundings.names.stores.get? name

def registryNamed? (surroundings : Surroundings) (name : String) : Option Nat :=
  if name = processWideName then some processWide else surroundings.names.registries.get? name

/-- Only a provider over settings can say whether it has chosen a delegate. -/
def isResolved? (provider : Provider) (surroundings : Surroundings) : Option Bool :=
  match provider with
  | .single (.settings _ _ position) => some ((memo position).held surroundings).isSome
  | _ => none

end Surroundings

end CredentialResolution
