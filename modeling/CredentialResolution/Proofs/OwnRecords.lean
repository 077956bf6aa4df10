/-
This file compares two records of closing: what memos write when they release a delegate, and what
scripted providers write themselves when they are closed. Every delegate that is released is really
closed, down to its last scripted leaf.
-/

import CredentialResolution.Proofs.Thorough

namespace CredentialResolution

/-- A memo records the serial number of what it releases. -/
def Event.releasedSerial? : Event → Option Nat
  | released serial => some serial
  | _ => none

/-- A scripted provider records its label when it is closed. -/
def Event.closedLabel? : Event → Option String
  | delegateClosed label => some label
  | _ => none

namespace Surroundings

/-- Only scripted providers have labels. -/
def label? (surroundings : Surroundings) : SingleProvider → Option String
  | .scripted position =>
    (surroundings.scriptedDelegates.get? position).map ScriptedDelegate.label
  | _ => none

/-- The labels of all scripted leaves of a tree, from the left. -/
def labels (surroundings : Surroundings) (tree : Provider) : List String :=
  (ChainTree.members tree).filterMap surroundings.label?

/-- The memos that became empty in between are listed with what they held. Each of them recorded the
release of its delegate, in the order of the list. -/
structure Emptied (released : List (Nat × Numbered Provider)) (earlier later : Surroundings) :
    Prop where
  releases : earlier.Releases later
  distinct : (released.map Prod.fst).Nodup
  listed : ∀ position numbered, (position, numbered) ∈ released ↔
    (memo position).held earlier = some numbered ∧ (memo position).held later = none
  serials : later.events.filterMap Event.releasedSerial? =
    earlier.events.filterMap Event.releasedSerial? ++ released.map fun entry => entry.2.serial

/-- The scripted leaves of the released delegates recorded themselves that they were closed, and so
did others under their own labels. -/
structure Receipts (released : List (Nat × Numbered Provider)) (own : List String)
    (earlier later : Surroundings) : Prop extends Emptied released earlier later where
  label : ∀ member, later.label? member = earlier.label? member
  closed : (later.events.filterMap Event.closedLabel?).Perm
    (earlier.events.filterMap Event.closedLabel? ++
      (own ++ released.flatMap fun entry => earlier.labels entry.2.delegate))

section Receipts

variable {earlier middle later surroundings : Surroundings}
  {released released' : List (Nat × Numbered Provider)} {own own' : List String}

/-- Nothing was released as long as every memo holds what it held. -/
theorem emptied_of_held (releases : earlier.Releases later)
    (held : ∀ position, (memo position).held later = (memo position).held earlier)
    (serials : later.events.filterMap Event.releasedSerial? =
      earlier.events.filterMap Event.releasedSerial?) : Emptied [] earlier later where
  releases := releases
  distinct := List.nodup_nil
  listed position numbered := by
    rw [held]
    constructor
    · exact fun among => absurd among List.not_mem_nil
    · rintro ⟨filled, empty⟩
      cases filled.symm.trans empty
  serials := serials.trans (List.append_nil _).symm

theorem Emptied.trans (first : Emptied released earlier middle)
    (second : Emptied released' middle later) : Emptied (released ++ released') earlier later where
  releases := first.releases.trans second.releases
  distinct := by
    rw [List.map_append, List.nodup_append]
    refine ⟨first.distinct, second.distinct, ?_⟩
    intro position before position' after same
    obtain ⟨⟨_, numbered⟩, among, rfl⟩ := List.mem_map.mp before
    obtain ⟨⟨_, numbered'⟩, among', rfl⟩ := List.mem_map.mp after
    cases same
    have empty := ((first.listed _ _).mp among).2
    cases ((second.listed _ _).mp among').1.symm.trans empty
  listed position numbered := by
    rw [List.mem_append, first.listed, second.listed]
    constructor
    · rintro (⟨filled, empty⟩ | ⟨filled, empty⟩)
      · exact ⟨filled, second.releases.empty empty⟩
      · refine ⟨?_, empty⟩
        rcases first.releases.held position with same | emptied
        · exact same.symm.trans filled
        · cases emptied.symm.trans filled
    · rintro ⟨filled, empty⟩
      rcases first.releases.held position with same | emptied
      · exact .inr ⟨same.trans filled, empty⟩
      · exact .inl ⟨filled, emptied⟩
  serials := by
    rw [second.serials, first.serials, List.map_append, List.append_assoc]

/-- A memo is emptied before its release is recorded. -/
theorem emptied_record_released {position : Nat} {numbered : Numbered Provider}
    (held : (memo position).held surroundings = some numbered) :
    Emptied [(position, numbered)] surroundings
      (((memo position).keep none surroundings).record (.released numbered.serial)) where
  releases := (releases_keep_none position surroundings).trans (releases_record _ _)
  distinct := List.nodup_cons.mpr ⟨List.not_mem_nil, List.nodup_nil⟩
  listed other numbered' := by
    have kept := held_keep surroundings (present_of_held held) none other
    change _ ↔ _ ∧ (memo other).held ((memo position).keep none surroundings) = none
    rw [List.mem_singleton, kept]
    by_cases own : other = position
    · rw [own, held]
      simp [eq_comm]
    · rw [if_neg own]
      constructor
      · rintro ⟨⟩
        exact absurd rfl own
      · rintro ⟨filled, empty⟩
        cases filled.symm.trans empty
  serials := by
    rw [events_record, List.filterMap_append]
    rfl

theorem Receipts.refl (surroundings : Surroundings) :
    Receipts [] [] surroundings surroundings where
  toEmptied := emptied_of_held (.refl surroundings) (fun _ => rfl) rfl
  label _ := rfl
  closed := by
    rw [List.flatMap_nil, List.append_nil, List.append_nil]

theorem Receipts.labels (receipts : Receipts released own earlier later) (tree : Provider) :
    later.labels tree = earlier.labels tree := by
  rw [Surroundings.labels, Surroundings.labels, funext receipts.label]

theorem Receipts.trans (first : Receipts released own earlier middle)
    (second : Receipts released' own' middle later) :
    Receipts (released ++ released') (own ++ own') earlier later where
  toEmptied := first.toEmptied.trans second.toEmptied
  label member := (second.label member).trans (first.label member)
  closed := by
    have closed := first.closed
    have closed' := second.closed
    simp only [first.labels] at closed'
    -- The labels of the second part stand between those of the first part, so they are counted.
    rw [List.perm_iff_count] at closed closed' ⊢
    intro label
    simp only [closed', closed, List.flatMap_append, List.count_append]
    omega

theorem receipts_record {event : Event} (unreleased : event.releasedSerial? = none)
    (unclosed : event.closedLabel? = none) (surroundings : Surroundings) :
    Receipts [] [] surroundings (surroundings.record event) where
  toEmptied := by
    apply emptied_of_held (releases_record event surroundings) (fun _ => rfl)
    simp [unreleased]
  label _ := rfl
  closed := by
    simp [unclosed]

theorem receipts_ignoring (entry : ResolutionError → LogEntry)
    (result : Except ResolutionError Unit) (receipts : Receipts released own earlier later) :
    Receipts released own earlier (ChainTree.ignoring log entry result later) := by
  cases result with
  | ok value => exact receipts
  | error error =>
    have recorded : Receipts [] [] later (log (entry error) later) := receipts_record rfl rfl later
    have logged := receipts.trans recorded
    rwa [List.append_nil, List.append_nil] at logged

theorem label?_closeScripted (position : Nat) (member : SingleProvider) :
    (surroundings.closeScripted position).2.label? member = surroundings.label? member := by
  cases found : surroundings.scriptedDelegates.get? position with
  | none => simp only [closeScripted, found]
  | some delegate =>
    simp only [closeScripted, found]
    cases member with
    | fixed credentials => rfl
    | settings source registry memo => rfl
    | scripted other =>
      simp only [label?, record, setScriptedDelegate, Cells.get?_update]
      split
      · rename_i same
        rw [same, found]
        rfl
      · rfl

/-- A scripted provider that is closed records so itself. -/
theorem receipts_closeScripted (position : Nat) (surroundings : Surroundings) :
    Receipts [] (surroundings.label? (.scripted position)).toList surroundings
      (surroundings.closeScripted position).2 := by
  cases found : surroundings.scriptedDelegates.get? position with
  | none =>
    simp only [closeScripted, label?, found]
    exact .refl surroundings
  | some delegate =>
    have recorded : (surroundings.closeScripted position).2.events =
        surroundings.events ++ [.delegateClosed delegate.label] := by
      simp only [closeScripted, found, events_record]
      rfl
    have own : surroundings.label? (.scripted position) = some delegate.label := by
      simp only [label?, found, Option.map_some]
    refine ⟨emptied_of_held (releases_closeScripted position surroundings) ?_ ?_,
      label?_closeScripted position, ?_⟩
    · intro other
      simp only [closeScripted, found]
      rfl
    · rw [recorded, List.filterMap_append]
      exact List.append_nil _
    · rw [recorded, own, List.filterMap_append]
      exact .refl _

/-- A delegate that is released is closed right after its release was recorded. -/
theorem receipts_of_closed {position : Nat} {numbered : Numbered Provider}
    (held : (memo position).held surroundings = some numbered)
    (closed : Receipts released (surroundings.labels numbered.delegate)
      (((memo position).keep none surroundings).record (.released numbered.serial)) later) :
    Receipts ((position, numbered) :: released) [] surroundings later where
  toEmptied := (emptied_record_released held).trans closed.toEmptied
  label := closed.label
  closed := by
    have unlabelled : [Event.released numbered.serial].filterMap Event.closedLabel? = [] := rfl
    have labels := closed.closed
    rw [events_record, List.filterMap_append, unlabelled, List.append_nil] at labels
    rw [List.nil_append, List.flatMap_cons]
    exact labels

end Receipts

end Surroundings

open Surroundings

/-- This way of closing single providers gives receipts for all that it releases. -/
def GivesReceipts (single : Closing SingleProvider Surroundings) : Prop :=
  ∀ member surroundings, ∃ released,
    Receipts released (surroundings.label? member).toList surroundings
      (single member surroundings).2

section Trees

variable {single : Closing SingleProvider Surroundings}

mutual

theorem GivesReceipts.tree (gives : GivesReceipts single) :
    ∀ (tree : Provider) (surroundings : Surroundings), ∃ released,
      Receipts released (surroundings.labels tree) surroundings
        (ChainTree.close single log tree surroundings).2
  | .single member, surroundings => by
    obtain ⟨released, receipts⟩ := gives member surroundings
    refine ⟨released, ?_⟩
    rw [ChainTree.close]
    have own : surroundings.labels (.single member) = (surroundings.label? member).toList := by
      rw [labels, ChainTree.members]
      cases label : surroundings.label? member <;> simp [label]
    rw [own]
    exact receipts
  | .chain trees, surroundings => by
    rw [labels, ChainTree.members, ChainTree.close]
    exact gives.members trees surroundings
  | .shared tree, surroundings => by
    rw [labels, ChainTree.members, ChainTree.close]
    exact gives.tree tree surroundings

theorem GivesReceipts.members (gives : GivesReceipts single) :
    ∀ (trees : List Provider) (surroundings : Surroundings), ∃ released,
      Receipts released ((ChainTree.membersOfAll trees).filterMap surroundings.label?) surroundings
        (ChainTree.closeMembers single log trees surroundings)
  | [], surroundings => by
    refine ⟨[], ?_⟩
    rw [ChainTree.closeMembers]
    exact .refl surroundings
  | first :: rest, surroundings => by
    obtain ⟨released, receipts⟩ := gives.tree first surroundings
    have ignored := receipts_ignoring .memberCloseFailed
      (ChainTree.close single log first surroundings).1 receipts
    obtain ⟨released', receipts'⟩ := gives.members rest _
    refine ⟨released ++ released', ?_⟩
    rw [ChainTree.closeMembers, ChainTree.membersOfAll, List.filterMap_append]
    have all := ignored.trans receipts'
    rw [funext ignored.label] at all
    exact all

end

theorem GivesReceipts.discard (gives : GivesReceipts single) (tree : Provider)
    (surroundings : Surroundings) : ∃ released, Receipts released [] surroundings
      (ChainTree.discard (SingleProvider.discardBy single) tree surroundings) := by
  have singles (member : SingleProvider) (later : Surroundings)
      (kept : ∃ released, Receipts released [] surroundings later) :
      ∃ released, Receipts released [] surroundings
        (SingleProvider.discardBy single member later) := by
    obtain ⟨released, receipts⟩ := kept
    cases member with
    | fixed credentials => exact ⟨released, receipts⟩
    | scripted position => exact ⟨released, receipts⟩
    | settings source registry position =>
      obtain ⟨released', receipts'⟩ := gives (.settings source registry position) later
      exact ⟨released ++ released', receipts.trans receipts'⟩
  exact ChainTree.discard_keeps singles tree ⟨[], .refl surroundings⟩

/-- Whatever a memo holds is closed when it is released. -/
theorem GivesReceipts.release (gives : GivesReceipts single) (position : Nat)
    (surroundings : Surroundings) : ∃ released, Receipts released [] surroundings
      ((memo position).release (Numbered.close (ChainTree.close single log))
        (fun numbered => ChainTree.discard (SingleProvider.discardBy single) numbered.delegate) log
        surroundings) := by
  cases held : (memo position).held surroundings with
  | none =>
    refine ⟨[], ?_⟩
    rw [release_of_empty held]
    exact .refl surroundings
  | some numbered =>
    obtain ⟨inner, closed⟩ := gives.tree numbered.delegate
      (((memo position).keep none surroundings).record (.released numbered.serial))
    have ignored := receipts_ignoring .delegateCloseFailed
      (Numbered.close (ChainTree.close single log) numbered
        ((memo position).keep none surroundings)).1 (receipts_of_closed held closed)
    obtain ⟨left, discarded⟩ := gives.discard numbered.delegate _
    refine ⟨(position, numbered) :: inner ++ left, ?_⟩
    simp only [Memo.release, Memo.takeOut, held]
    exact ignored.trans discarded

end Trees

namespace SingleProvider

/-- Closing gives receipts, by induction on the number of filled memos. -/
theorem close_gives_receipts (filled : Nat) : GivesReceipts (close filled) := by
  induction filled with
  | zero =>
    intro member surroundings
    refine ⟨[], ?_⟩
    cases member with
    | fixed credentials => exact .refl surroundings
    | scripted position => exact receipts_closeScripted position surroundings
    | settings source registry position => exact .refl surroundings
  | succ filled gives =>
    intro member surroundings
    cases member with
    | fixed credentials => exact ⟨[], .refl surroundings⟩
    | scripted position => exact ⟨[], receipts_closeScripted position surroundings⟩
    | settings source registry position => exact gives.release position surroundings

end SingleProvider

/-- With a released delegate every memo that it uses became empty. -/
theorem Surroundings.Receipts.used {released : List (Nat × Numbered Provider)} {own : List String}
    {earlier later : Surroundings} (receipts : Receipts released own earlier later)
    (thorough : earlier.Thorough later) :
    ∀ entry ∈ released, ∀ inner, entry.2.delegate.Uses inner → (memo inner).held later = none := by
  rintro ⟨position, numbered⟩ among inner uses
  obtain ⟨held, empty⟩ := (receipts.listed position numbered).mp among
  exact thorough.used position numbered held empty inner uses

namespace Provider

/-- When a provider is closed, every record of a release belongs to one delegate that was in a memo,
and that delegate was closed: its scripted leaves recorded it themselves, and its memos are empty.
Apart from these only the scripted leaves of the provider recorded that they were closed. -/
theorem close_receipts (provider : Provider) (surroundings : Surroundings) :
    let closed := (provider.close surroundings).2
    ∃ released, Receipts released (surroundings.labels provider) surroundings closed ∧
      ∀ entry ∈ released, ∀ inner, entry.2.delegate.Uses inner →
        (memo inner).held closed = none := by
  intro closed
  obtain ⟨released, receipts⟩ :=
    (SingleProvider.close_gives_receipts surroundings.memos.count).tree provider surroundings
  have closes := SingleProvider.closes_thoroughly surroundings.memos.count
  exact ⟨released, receipts,
    receipts.used (closes.tree provider (filledAtMost_count surroundings))⟩

-- A delegate that is a chain holds a provider over settings, which holds a delegate of its own.
example :
    let delegate (label : String) : ScriptedDelegate :=
      ⟨label, .always (.error (.provider "unused")), .always (.ok ())⟩
    let world := (addScriptedDelegate (delegate "inner")
      (addScriptedDelegate (delegate "outer")
        (addMemo (addMemo (.initial (.ofUnix 0 0) ⟨[]⟩)).2).2).2).2
    let keeper (memo : Nat) : Provider := .single (.settings .process processWide memo)
    let start := (memo 0).keep (some ⟨3, .chain [.single (.scripted 0), keeper 1]⟩)
      ((memo 1).keep (some ⟨2, .single (.scripted 1)⟩) world)
    ((keeper 0).close start).2.events =
      [.released 3, .delegateClosed "outer", .released 2, .delegateClosed "inner"] := by
  rfl

/-- So it is when a provider is discarded, but none of its own leaves is closed. -/
theorem discard_receipts (provider : Provider) (surroundings : Surroundings) :
    let discarded := provider.discard surroundings
    ∃ released, Receipts released [] surroundings discarded ∧
      ∀ entry ∈ released, ∀ inner, entry.2.delegate.Uses inner →
        (memo inner).held discarded = none := by
  intro discarded
  obtain ⟨released, receipts⟩ :=
    (SingleProvider.close_gives_receipts surroundings.memos.count).discard provider surroundings
  have closes := SingleProvider.closes_thoroughly surroundings.memos.count
  exact ⟨released, receipts,
    receipts.used (closes.discard provider (filledAtMost_count surroundings))⟩

end Provider

end CredentialResolution
