/-
This file follows the closing of a chain through its tree. Every leaf is closed once from the left,
whichever ones fail, and the memos of all leaves over settings are left empty.
-/

import CredentialResolution.Proofs.ChainSteps
import CredentialResolution.Proofs.Thorough

namespace CredentialResolution

/-- An empty memo is filled with a new choice before anything is resolved. -/
theorem Memo.resolve_of_empty {Delegate State : Type} {memo : Memo Delegate State} {state : State}
    (empty : memo.held state = none) (choose : Action State ResolutionError Delegate)
    (resolveDelegate : Resolving Delegate State) :
    memo.resolve choose resolveDelegate state =
      (do
        let delegate ← choose
        Action.update (memo.keep (some delegate))
        resolveDelegate delegate) state := by
  rcases chosen : choose state with ⟨delegate | error | text, after⟩
  · rw [resolve_of_chosen empty chosen, Action.bind_of_ok chosen]
    rfl
  · rw [resolve_of_failed empty chosen, Action.bind_of_error chosen]
  · rw [resolve_of_panicked empty chosen, Action.bind_of_panic chosen]

/-- What emptying a memo, closing its delegate, logging the failure and discarding the delegate keep,
a release keeps. -/
theorem Memo.release_keeps {Delegate State : Type} {Keeps : State → Prop}
    {memo : Memo Delegate State} {closeDelegate : Closing Delegate State}
    {discardDelegate : Delegate → State → State} {log : LogEntry → State → State}
    (closes : ∀ delegate state, Keeps state → Keeps (closeDelegate delegate state).2)
    (logs : ∀ error state, Keeps state → Keeps (log (.delegateCloseFailed error) state))
    (discards : ∀ delegate state, Keeps state → Keeps (discardDelegate delegate state))
    {state : State} (emptied : Keeps (memo.keep none state)) :
    Keeps (memo.release closeDelegate discardDelegate log state) := by
  simp only [release, takeOut]
  cases memo.held state with
  | none => exact emptied
  | some delegate =>
    have closed := closes delegate _ emptied
    have logged := ChainTree.ignoring_keeps_failure logs
      (closeDelegate delegate (memo.keep none state)).1 closed
    exact discards delegate _ logged

namespace ChainTree

variable {Member Delegate State View : Type}

/-- No empty memo of a leaf is filled, and the view of the state stays the same. -/
structure Spares (memo? : Member → Option (Memo Delegate State)) (view : State → View)
    (earlier later : State) : Prop where
  empty : ∀ {member : Member} {memo : Memo Delegate State}, memo? member = some memo →
    memo.held earlier = none → memo.held later = none
  view : view later = view earlier

/-- Some leaves choose delegates and keep them in memos; all others close in any way. What closing
other leaves and delegates does to the state fills no memo, and a view shows no trace of it. -/
structure ClosingLeaves (Member Delegate State View : Type) where
  memo? : Member → Option (Memo Delegate State)
  closeOther : Closing Member State
  closeDelegate : Closing Delegate State
  discardDelegate : Delegate → State → State
  log : LogEntry → State → State
  view : State → View
  emptied : ∀ {member : Member} {memo : Memo Delegate State}, memo? member = some memo →
    ∀ state, memo.held (memo.keep none state) = none
  emptying_spares : ∀ {member : Member} {memo : Memo Delegate State}, memo? member = some memo →
    ∀ state, Spares memo? view state (memo.keep none state)
  other_spares : ∀ {member : Member}, memo? member = none →
    ∀ state, Spares memo? view state (closeOther member state).2
  delegate_spares : ∀ delegate state, Spares memo? view state (closeDelegate delegate state).2
  discard_spares : ∀ delegate state, Spares memo? view state (discardDelegate delegate state)
  delegateFailure_spares : ∀ error state,
    Spares memo? view state (log (.delegateCloseFailed error) state)
  memberFailure_spares : ∀ error state,
    Spares memo? view state (log (.memberCloseFailed error) state)

/-- Leaves are closed, and so are the delegates in their memos. -/
inductive Part (Member Delegate : Type) where
  | leaf (member : Member)
  | delegate (delegate : Delegate)

/-- A leaf is closed in one of three ways: it chooses delegates but holds none, it holds one that is
closed, or it is any other leaf. -/
inductive Closed (Member Delegate : Type) where
  | holdingNone (member : Member)
  | holding (member : Member) (delegate : Delegate) (result : Except ResolutionError Unit)
  | other (member : Member) (result : Except ResolutionError Unit)

namespace Closed

def member : Closed Member Delegate → Member
  | holdingNone member => member
  | holding member _ _ => member
  | other member _ => member

/-- A failure is logged once under the given entry. -/
def failureLogged (entry : ResolutionError → LogEntry) :
    Except ResolutionError Unit → List (Step (Part Member Delegate))
  | .ok () => []
  | .error error => [.logged (entry error)]

/-- Closing a leaf that chooses delegates never fails, even if closing its delegate does. -/
def steps : Closed Member Delegate → List (Step (Part Member Delegate))
  | holdingNone member => [.closed (.leaf member) (.ok ())]
  | holding member delegate result =>
    .closed (.delegate delegate) result :: failureLogged .delegateCloseFailed result ++
      [.closed (.leaf member) (.ok ())]
  | other member result =>
    .closed (.leaf member) result :: failureLogged .memberCloseFailed result

end Closed

theorem Spares.refl (memo? : Member → Option (Memo Delegate State)) (view : State → View)
    (state : State) : Spares memo? view state state :=
  ⟨fun _ empty => empty, rfl⟩

theorem Spares.trans {memo? : Member → Option (Memo Delegate State)} {view : State → View}
    {earlier middle later : State} (first : Spares memo? view earlier middle)
    (second : Spares memo? view middle later) : Spares memo? view earlier later :=
  ⟨fun found empty => second.empty found (first.empty found empty), second.view.trans first.view⟩

/-- The memo of a noted state is the one of the state. -/
def Traced.memo {Noted : Type} (memo : Memo Delegate State) : Memo Delegate (Traced Noted State) where
  held traced := memo.held traced.state
  keep delegate traced := ⟨memo.keep delegate traced.state, traced.steps⟩

namespace ClosingLeaves

variable (leaves : ClosingLeaves Member Delegate State View)

/-- A leaf that chooses delegates releases what its memo holds. -/
def close : Closing Member State := fun member state =>
  match leaves.memo? member with
  | some memo =>
    (.ok (), memo.release leaves.closeDelegate leaves.discardDelegate leaves.log state)
  | none => leaves.closeOther member state

def closePart : Closing (Part Member Delegate) State
  | .leaf member => leaves.closeOther member
  | .delegate delegate => leaves.closeDelegate delegate

/-- This function closes a leaf and notes the call, after the calls and log entries within it. -/
def closeNoted : Closing Member (Traced (Part Member Delegate) State) := fun member traced =>
  match leaves.memo? member with
  | some memo =>
    let released := (Traced.memo memo).release
      (fun delegate => Traced.close leaves.closePart (.delegate delegate))
      (fun delegate traced => ⟨leaves.discardDelegate delegate traced.state, traced.steps⟩)
      (Traced.log leaves.log) traced
    (.ok (), ⟨released.state, released.steps ++ [.closed (.leaf member) (.ok ())]⟩)
  | none => Traced.close leaves.closePart (.leaf member) traced

/-- The way in which a leaf is closed fits it. -/
def Fits : Closed Member Delegate → Prop
  | .holdingNone member => (leaves.memo? member).isSome
  | .holding member _ _ => (leaves.memo? member).isSome
  | .other member _ => leaves.memo? member = none

section Leaf

variable {leaves} {member : Member} {memo : Memo Delegate State}

/-- Closing a leaf that holds a delegate closes and discards the delegate. -/
theorem close_of_held (found : leaves.memo? member = some memo) {state : State}
    {delegate : Delegate} (held : memo.held state = some delegate) :
    let closed := leaves.closeDelegate delegate (memo.keep none state)
    leaves.close member state = (.ok (), leaves.discardDelegate delegate
      (ignoring leaves.log .delegateCloseFailed closed.1 closed.2)) := by
  simp only [close, found, Memo.release, Memo.takeOut, held]

theorem close_of_empty (found : leaves.memo? member = some memo) {state : State}
    (empty : memo.held state = none) :
    leaves.close member state = (.ok (), memo.keep none state) := by
  simp only [close, found, Memo.release, Memo.takeOut, empty]

theorem close_other (found : leaves.memo? member = none) (state : State) :
    leaves.close member state = leaves.closeOther member state := by
  simp only [close, found]

variable (leaves) (member)

/-- Noting the calls changes neither the result nor the state. -/
theorem closeNoted_state (traced : Traced (Part Member Delegate) State) :
    leaves.close member traced.state =
      ((leaves.closeNoted member traced).1, (leaves.closeNoted member traced).2.state) := by
  cases found : leaves.memo? member with
  | none =>
    rw [close_other found]
    simp only [closeNoted, found]
    rfl
  | some memo =>
    cases held : memo.held traced.state with
    | none =>
      rw [close_of_empty found held]
      simp only [closeNoted, found, Memo.release, Memo.takeOut, Traced.memo, held]
    | some delegate =>
      rw [close_of_held found held]
      simp only [closeNoted, found, Memo.release, Memo.takeOut, Traced.memo, held, Traced.close,
        closePart]
      cases (leaves.closeDelegate delegate (memo.keep none traced.state)).1 <;> rfl

/-- The steps for a leaf, with the entry for its failure if there is one, fit the leaf. -/
theorem closeNoted_steps (traced : Traced (Part Member Delegate) State) :
    let run := leaves.closeNoted member traced
    ∃ closed : Closed Member Delegate, closed.member = member ∧ leaves.Fits closed ∧
      (ignoring (Traced.log leaves.log) .memberCloseFailed run.1 run.2).steps =
        traced.steps ++ closed.steps := by
  cases found : leaves.memo? member with
  | none =>
    refine ⟨.other member (leaves.closeOther member traced.state).1, rfl, found, ?_⟩
    simp only [closeNoted, found, Traced.close, closePart, Closed.steps]
    cases (leaves.closeOther member traced.state).1 with
    | ok value => rfl
    | error error =>
      simp only [ignoring, Traced.log, Closed.failureLogged, List.append_assoc]
      rfl
  | some memo =>
    have fits : (leaves.memo? member).isSome := by rw [found]; rfl
    cases held : memo.held traced.state with
    | none =>
      refine ⟨.holdingNone member, rfl, fits, ?_⟩
      simp only [closeNoted, found, Memo.release, Memo.takeOut, Traced.memo, held]
      rfl
    | some delegate =>
      refine ⟨.holding member delegate (leaves.closeDelegate delegate (memo.keep none
        traced.state)).1, rfl, fits, ?_⟩
      simp only [closeNoted, found, Memo.release, Memo.takeOut, Traced.memo, held, Traced.close,
        closePart, Closed.steps]
      cases (leaves.closeDelegate delegate (memo.keep none traced.state)).1 with
      | ok value =>
        simp only [ignoring, Closed.failureLogged, List.append_assoc, List.cons_append,
          List.nil_append]
      | error error =>
        simp only [ignoring, Traced.log, Closed.failureLogged, List.append_assoc, List.cons_append,
          List.nil_append]

/-- What closing any leaf does fills no memo and cannot be seen. -/
theorem close_spares (state : State) :
    Spares leaves.memo? leaves.view state (leaves.close member state).2 := by
  cases found : leaves.memo? member with
  | none =>
    rw [close_other found]
    exact leaves.other_spares found state
  | some memo =>
    simp only [close, found]
    apply Memo.release_keeps
    · exact fun delegate later kept => kept.trans (leaves.delegate_spares delegate later)
    · exact fun error later kept => kept.trans (leaves.delegateFailure_spares error later)
    · exact fun delegate later kept => kept.trans (leaves.discard_spares delegate later)
    · exact leaves.emptying_spares found state

/-- A closed leaf holds no delegate. -/
theorem held_of_close (found : leaves.memo? member = some memo) (state : State) :
    memo.held (leaves.close member state).2 = none := by
  simp only [close, found]
  let Empty (later : State) : Prop := memo.held later = none
  have released : Empty (memo.release leaves.closeDelegate leaves.discardDelegate leaves.log
      state) := by
    apply Memo.release_keeps
    · exact fun delegate later => (leaves.delegate_spares delegate later).empty found
    · exact fun error later => (leaves.delegateFailure_spares error later).empty found
    · exact fun delegate later => (leaves.discard_spares delegate later).empty found
    · exact leaves.emptied found state
  exact released

end Leaf

/-- Some list of closed leaves goes with the members and accounts for all steps. -/
def Accounts (members : List Member) (earlier later : List (Step (Part Member Delegate))) : Prop :=
  ∃ closings : List (Closed Member Delegate), closings.map Closed.member = members ∧
    (∀ closed ∈ closings, leaves.Fits closed) ∧ later = earlier ++ closings.flatMap Closed.steps

theorem Accounts.append {leaves : ClosingLeaves Member Delegate State View}
    {members members' : List Member} {earlier middle later : List (Step (Part Member Delegate))}
    (first : leaves.Accounts members earlier middle)
    (second : leaves.Accounts members' middle later) :
    leaves.Accounts (members ++ members') earlier later := by
  obtain ⟨closings, sameMembers, fit, steps⟩ := first
  obtain ⟨closings', sameMembers', fit', steps'⟩ := second
  refine ⟨closings ++ closings', ?_, ?_, ?_⟩
  · rw [List.map_append, sameMembers, sameMembers']
  · intro closed among
    rcases List.mem_append.mp among with among | among
    · exact fit closed among
    · exact fit' closed among
  · rw [steps', steps, List.flatMap_append, List.append_assoc]

mutual

/-- Closing a tree closes each of its members, and only a single member can fail to close. -/
theorem closeNoted_tree_steps : ∀ (tree : ChainTree Member)
    (traced : Traced (Part Member Delegate) State),
    let run := ChainTree.close leaves.closeNoted (Traced.log leaves.log) tree traced
    leaves.Accounts (members tree) traced.steps
      (ignoring (Traced.log leaves.log) .memberCloseFailed run.1 run.2).steps
  | .single member, traced => by
    simp only [ChainTree.close, members]
    obtain ⟨closed, sameMember, fits, steps⟩ := leaves.closeNoted_steps member traced
    refine ⟨[closed], ?_, ?_, ?_⟩
    · rw [List.map_singleton, sameMember]
    · intro other among
      rw [List.mem_singleton.mp among]
      exact fits
    · rw [steps, List.flatMap_singleton]
  | .chain trees, traced => by
    simp only [ChainTree.close, members, ignoring]
    exact closeNoted_members_steps trees traced
  | .shared tree, traced => by
    simp only [ChainTree.close, members]
    exact closeNoted_tree_steps tree traced

theorem closeNoted_members_steps : ∀ (trees : List (ChainTree Member))
    (traced : Traced (Part Member Delegate) State),
    leaves.Accounts (membersOfAll trees) traced.steps
      (closeMembers leaves.closeNoted (Traced.log leaves.log) trees traced).steps
  | [], traced => by
    simp only [closeMembers, membersOfAll]
    exact ⟨[], rfl, List.forall_mem_nil _, (List.append_nil _).symm⟩
  | first :: rest, traced => by
    simp only [closeMembers, membersOfAll]
    exact (closeNoted_tree_steps first traced).append (closeNoted_members_steps rest _)

end

theorem closeMembers_spares (trees : List (ChainTree Member)) (state : State) :
    Spares leaves.memo? leaves.view state (closeMembers leaves.close leaves.log trees state) :=
  closeMembers_keeps_failures
    (fun error later kept => kept.trans (leaves.memberFailure_spares error later)) trees
    (fun member _ later kept => kept.trans (leaves.close_spares member later)) (.refl _ _ state)

mutual

/-- Closing a tree leaves the memos of all its members empty. -/
theorem held_of_close_tree {member : Member} {memo : Memo Delegate State}
    (found : leaves.memo? member = some memo) :
    ∀ (tree : ChainTree Member), member ∈ members tree → ∀ state,
      memo.held (ChainTree.close leaves.close leaves.log tree state).2 = none
  | .single leaf, among, state => by
    rw [members, List.mem_singleton] at among
    rw [ChainTree.close, ← among]
    exact leaves.held_of_close member found state
  | .chain trees, among, state => by
    rw [members] at among
    rw [ChainTree.close]
    exact held_of_closeMembers found trees among state
  | .shared tree, among, state => by
    rw [members] at among
    rw [ChainTree.close]
    exact held_of_close_tree found tree among state

theorem held_of_closeMembers {member : Member} {memo : Memo Delegate State}
    (found : leaves.memo? member = some memo) :
    ∀ (trees : List (ChainTree Member)), member ∈ membersOfAll trees → ∀ state,
      memo.held (closeMembers leaves.close leaves.log trees state) = none
  | [], among, state => by
    rw [membersOfAll] at among
    cases among
  | first :: rest, among, state => by
    rw [membersOfAll, List.mem_append] at among
    rw [closeMembers]
    rcases among with among | among
    · -- The members after the first tree fill no memo that closing the tree has left empty.
      apply (leaves.closeMembers_spares rest _).empty found
      apply ignoring_keeps_failure fun error later empty =>
        (leaves.memberFailure_spares error later).empty found empty
      exact held_of_close_tree found first among state
    · exact held_of_closeMembers found rest among _

end

end ClosingLeaves

end ChainTree

section Providers

open Surroundings

/-- These are the events of releasing delegates and of closing. -/
def Event.ofClosing : Event → Bool
  | delegateClosed _ => true
  | released _ => true
  | logged (.delegateCloseFailed _) => true
  | logged (.memberCloseFailed _) => true
  | _ => false

namespace Surroundings

/-- This function lists all other events, among which are those of every load and every resolve. -/
def otherEvents (surroundings : Surroundings) : List Event :=
  surroundings.events.filter fun event => !event.ofClosing

theorem otherEvents_record {event : Event} (ofClosing : event.ofClosing = true)
    (surroundings : Surroundings) :
    (surroundings.record event).otherEvents = surroundings.otherEvents := by
  rw [otherEvents, events_record, List.filter_append, List.filter_cons_of_neg, List.filter_nil,
    List.append_nil, otherEvents]
  simp only [ofClosing, Bool.not_true, Bool.false_eq_true, not_false_eq_true]

theorem otherEvents_closeScripted (position : Nat) (surroundings : Surroundings) :
    (surroundings.closeScripted position).2.otherEvents = surroundings.otherEvents := by
  simp only [closeScripted]
  split
  · rfl
  · exact otherEvents_record rfl _

end Surroundings

/-- What closing single providers keeps, discarding them keeps. -/
theorem SingleProvider.discardBy_keeps {Keeps : Surroundings → Prop}
    {close : Closing SingleProvider Surroundings}
    (closes : ∀ provider surroundings, Keeps surroundings → Keeps (close provider surroundings).2)
    (provider : SingleProvider) (surroundings : Surroundings) (kept : Keeps surroundings) :
    Keeps (discardBy close provider surroundings) := by
  cases provider with
  | fixed credentials => exact kept
  | scripted position => exact kept
  | settings source registry position => exact closes _ surroundings kept

/-- Closing a provider resolves nothing and loads nothing. -/
theorem SingleProvider.otherEvents_close (filled : Nat) (provider : SingleProvider)
    (surroundings : Surroundings) :
    (SingleProvider.close filled provider surroundings).2.otherEvents =
      surroundings.otherEvents := by
  induction filled generalizing provider surroundings with
  | zero =>
    cases provider with
    | fixed credentials => rfl
    | scripted position => exact otherEvents_closeScripted position surroundings
    | settings source registry position => rfl
  | succ filled inductionHypothesis =>
    cases provider with
    | fixed credentials => rfl
    | scripted position => exact otherEvents_closeScripted position surroundings
    | settings source registry position =>
      let Kept (later : Surroundings) : Prop := later.otherEvents = surroundings.otherEvents
      have closes (member : SingleProvider) (later : Surroundings) (kept : Kept later) :
          Kept (SingleProvider.close filled member later).2 :=
        (inductionHypothesis member later).trans kept
      have released : Kept (SingleProvider.close (filled + 1) (.settings source registry position)
          surroundings).2 := by
        apply Memo.release_keeps
        · intro numbered later kept
          refine ChainTree.close_keeps_failures ?_ numbered.delegate (fun member _ => closes member)
            ((otherEvents_record rfl later).trans kept)
          exact fun error later kept => (otherEvents_record rfl later).trans kept
        · exact fun error later kept => (otherEvents_record rfl later).trans kept
        · intro numbered later kept
          exact ChainTree.discard_keeps (discardBy_keeps closes) numbered.delegate kept
        · rfl
      exact released

namespace SingleProvider

def memo? : SingleProvider → Option (Memo (Numbered Provider) Surroundings)
  | .settings _ _ position => some (Surroundings.memo position)
  | _ => none

/-- Releases fill no memo, and no other event than those of closing is recorded. -/
theorem spares_of_releases {earlier later : Surroundings} (releases : earlier.Releases later)
    (events : later.otherEvents = earlier.otherEvents) :
    ChainTree.Spares memo? otherEvents earlier later := by
  refine ⟨?_, events⟩
  intro provider found same empty
  cases provider with
  | fixed credentials | scripted position => cases same
  | settings source registry position =>
    cases same
    exact releases.empty empty

theorem spares_close (filled : Nat) (provider : SingleProvider) (surroundings : Surroundings) :
    ChainTree.Spares memo? otherEvents surroundings (close filled provider surroundings).2 :=
  spares_of_releases (close_releases filled provider surroundings)
    (otherEvents_close filled provider surroundings)

theorem spares_record {event : Event} (ofClosing : event.ofClosing = true)
    (surroundings : Surroundings) :
    ChainTree.Spares memo? otherEvents surroundings (surroundings.record event) :=
  spares_of_releases (releases_record event surroundings) (otherEvents_record ofClosing surroundings)

theorem spares_close_tree (filled : Nat) (provider : Provider) {earlier later : Surroundings}
    (spares : ChainTree.Spares memo? otherEvents earlier later) :
    ChainTree.Spares memo? otherEvents earlier
      (ChainTree.close (close filled) log provider later).2 :=
  ChainTree.close_keeps_failures (fun _ _ kept => kept.trans (spares_record rfl _)) provider
    (fun member _ _ kept => kept.trans (spares_close filled member _)) spares

/-- Providers close as leaves of a chain. -/
def closingLeaves :
    ChainTree.ClosingLeaves SingleProvider (Numbered Provider) Surroundings (List Event) where
  memo? := memo?
  closeOther provider := Provider.close (.single provider)
  closeDelegate := Numbered.close Provider.close
  discardDelegate numbered := numbered.delegate.discard
  log := Surroundings.log
  view := otherEvents
  emptied := by
    intro provider found same surroundings
    cases provider with
    | fixed credentials | scripted position => cases same
    | settings source registry position =>
      cases same
      simp only [Surroundings.memo, Cells.get?_update, if_true]
      cases surroundings.memos.get? position <;> rfl
  emptying_spares := by
    intro provider found same surroundings
    cases provider with
    | fixed credentials | scripted position => cases same
    | settings source registry position =>
      cases same
      exact spares_of_releases (releases_keep_none position surroundings) rfl
  other_spares _ surroundings := spares_close _ _ surroundings
  delegate_spares numbered surroundings :=
    spares_close_tree _ numbered.delegate (spares_record rfl surroundings)
  discard_spares numbered surroundings := by
    refine ChainTree.discard_keeps ?_ numbered.delegate (.refl _ _ surroundings)
    exact discardBy_keeps fun _ later kept => kept.trans (spares_close _ _ later)
  delegateFailure_spares error := spares_record rfl
  memberFailure_spares error := spares_record rfl

/-- Each leaf is closed as if it were closed alone. -/
theorem closingLeaves_close (provider : SingleProvider) (surroundings : Surroundings) :
    closingLeaves.close provider surroundings = Provider.close (.single provider) surroundings := by
  cases provider with
  | fixed credentials | scripted position => rfl
  | settings source registry position =>
    cases held : (Surroundings.memo position).held surroundings with
    | none =>
      rw [Provider.close_of_empty held,
        ChainTree.ClosingLeaves.close_of_empty (rfl : closingLeaves.memo? _ = _) held,
        keep_none_of_empty held]
    | some numbered =>
      rw [Provider.close_of_held held,
        ChainTree.ClosingLeaves.close_of_held (rfl : closingLeaves.memo? _ = _) held]
      rfl

end SingleProvider

/-- Closing a tree of providers closes its leaves one by one. -/
theorem Provider.close_eq_closingLeaves (provider : Provider) (surroundings : Surroundings) :
    provider.close surroundings =
      ChainTree.close SingleProvider.closingLeaves.close log provider surroundings := by
  let Sized (later : Surroundings) : Prop := later.memos.count = surroundings.memos.count
  have closes (member : SingleProvider) (later : Surroundings) (sized : Sized later) :
      Sized (SingleProvider.close surroundings.memos.count member later).2 :=
    (SingleProvider.close_releases _ member later).count.trans sized
  have logs (entry : LogEntry) (later : Surroundings) (sized : Sized later) :
      Sized (later.log entry) := sized
  have same (member : SingleProvider) (later : Surroundings) (sized : Sized later) :
      SingleProvider.close surroundings.memos.count member later =
        SingleProvider.closingLeaves.close member later := by
    rw [SingleProvider.closingLeaves_close, Provider.close, ChainTree.close, sized]
  exact ChainTree.close_congr closes logs same provider rfl

end Providers

namespace ChainTree

/-- Closing a chain succeeds. It closes every leaf once from the left, whichever ones fail, and logs
each failure of a leaf right after it. Leaves that choose delegates do not fail: the failure of a
delegate is logged instead. They hold no delegate afterwards, so the next call chooses again. -/
theorem closing_reaches_every_leaf (leaves : ClosingLeaves Member Delegate State View)
    (trees : List (ChainTree Member)) (state : State) :
    let run := close leaves.closeNoted (Traced.log leaves.log) (.chain trees) ⟨state, []⟩
    close leaves.close leaves.log (.chain trees) state = (.ok (), run.2.state) ∧
    (∃ closings : List (Closed Member Delegate),
      closings.map Closed.member = membersOfAll trees ∧
      (∀ closed ∈ closings, leaves.Fits closed) ∧ run.2.steps = closings.flatMap Closed.steps) ∧
    leaves.view run.2.state = leaves.view state ∧
    (∀ member ∈ membersOfAll trees, ∀ memo, leaves.memo? member = some memo →
      memo.held run.2.state = none ∧
      ∀ later, memo.held later = memo.held run.2.state → ∀ choose resolveDelegate,
        memo.resolve choose resolveDelegate later =
          (do
            let delegate ← choose
            Action.update (memo.keep (some delegate))
            resolveDelegate delegate) later) ∧
    ∀ error,
      (LogEntry.memberCloseFailed error).message = "ignoring failure to close chained provider" ∧
      (LogEntry.delegateCloseFailed error).message =
        "ignoring failure to close delegate credentials provider" ∧
      (LogEntry.memberCloseFailed error).fields = [("error", error.message)] ∧
      (LogEntry.delegateCloseFailed error).fields = [("error", error.message)] := by
  intro run
  have closed : close leaves.close leaves.log (.chain trees) state = (.ok (), run.2.state) :=
    close_noted leaves.log (.chain trees) ⟨state, []⟩ leaves.closeNoted_state
  have after : run.2.state = closeMembers leaves.close leaves.log trees state := by
    rw [close] at closed
    exact (congrArg Prod.snd closed).symm
  refine ⟨closed, ?_, ?_, ?_, fun error => ⟨rfl, rfl, rfl, rfl⟩⟩
  · obtain ⟨closings, sameMembers, fit, steps⟩ := leaves.closeNoted_members_steps trees ⟨state, []⟩
    exact ⟨closings, sameMembers, fit, steps⟩
  · rw [after]
    exact (leaves.closeMembers_spares trees state).view
  · intro member among memo found
    have empty : memo.held run.2.state = none := by
      rw [after]
      exact leaves.held_of_closeMembers found trees among state
    refine ⟨empty, ?_⟩
    intro later same choose resolveDelegate
    exact Memo.resolve_of_empty (same.trans empty) choose resolveDelegate

/-- A member and a delegate both fail to close. Each failure is logged under its own entry. -/
theorem closing_logs_failures_apart :
    let refusing (label : String) : ScriptedDelegate :=
      ⟨label, .always (.error (.provider "unused")), .always (.error (.provider "still open"))⟩
    let world := (Surroundings.addScriptedDelegate (refusing "delegate")
      (Surroundings.addScriptedDelegate (refusing "member")
        (Surroundings.addMemo (.initial (.ofUnix 0 0) ⟨[]⟩)).2).2).2
    let start := (Surroundings.memo 0).keep (some ⟨7, .single (.scripted 1)⟩) world
    let leaf : SingleProvider := .settings .process processWide 0
    let trees : List Provider := [.chain [], .chain [.single (.scripted 0), .single leaf]]
    let closed := Provider.close (.chain trees) start
    closed.1 = .ok () ∧
      closed.2.events = [.delegateClosed "member",
        .logged (.memberCloseFailed (.provider "still open")), .released 7,
        .delegateClosed "delegate", .logged (.delegateCloseFailed (.provider "still open"))] ∧
      Surroundings.isResolved? (.single leaf) closed.2 = some false := by
  intro refusing world start leaf trees closed
  obtain ⟨reached, -, -, empty, -⟩ :=
    closing_reaches_every_leaf SingleProvider.closingLeaves trees start
  have among : leaf ∈ membersOfAll trees := List.mem_cons_of_mem _ List.mem_cons_self
  have unresolved := (empty leaf among (Surroundings.memo 0) rfl).1
  have same : closed = _ := (Provider.close_eq_closingLeaves (.chain trees) start).trans reached
  refine ⟨rfl, rfl, ?_⟩
  rw [same]
  simp only [Surroundings.isResolved?, leaf, unresolved]
  rfl

end ChainTree

end CredentialResolution
