/-
This file shows that closing is thorough: with every memo that it empties it empties the memos that
the released delegate uses, at any depth.
-/

import CredentialResolution.Proofs.Lives
import CredentialResolution.Proofs.Release

namespace CredentialResolution

open Surroundings

namespace Surroundings

/-- Delegates were released, and with each of them what it used. -/
structure Thorough (earlier later : Surroundings) : Prop where
  releases : earlier.Releases later
  used : ∀ position numbered, (memo position).held earlier = some numbered →
    (memo position).held later = none → ∀ inner, numbered.delegate.Uses inner →
      (memo inner).held later = none

variable {earlier middle later surroundings : Surroundings} {position : Nat}

theorem Releases.empty (releases : earlier.Releases later)
    (empty : (memo position).held earlier = none) : (memo position).held later = none := by
  rcases releases.held position with same | released
  · exact same.trans empty
  · exact released

theorem Thorough.refl (surroundings : Surroundings) : surroundings.Thorough surroundings := by
  refine ⟨.refl surroundings, ?_⟩
  intro position numbered held empty
  cases held.symm.trans empty

theorem Thorough.trans (first : earlier.Thorough middle) (second : middle.Thorough later) :
    earlier.Thorough later := by
  refine ⟨first.releases.trans second.releases, ?_⟩
  intro position numbered held empty inner uses
  rcases first.releases.held position with same | released
  · exact second.used position numbered (same.trans held) empty inner uses
  · exact second.releases.empty (first.used position numbered held released inner uses)

/-- Nothing was released as long as every memo holds what it held. -/
theorem thorough_of_held (releases : earlier.Releases later)
    (same : ∀ position, (memo position).held later = (memo position).held earlier) :
    earlier.Thorough later := by
  refine ⟨releases, ?_⟩
  intro position numbered held empty
  cases (held.symm.trans (same position).symm).trans empty

theorem thorough_record (event : Event) (surroundings : Surroundings) :
    surroundings.Thorough (surroundings.record event) :=
  thorough_of_held (releases_record event surroundings) fun _ => rfl

theorem thorough_closeScripted (script : Nat) (surroundings : Surroundings) :
    surroundings.Thorough (surroundings.closeScripted script).2 := by
  apply thorough_of_held (releases_closeScripted script surroundings)
  intro position
  rw [closeScripted]
  cases surroundings.scriptedDelegates.get? script <;> rfl

end Surroundings

section Trees

variable {bound : Nat} {single : Closing SingleProvider Surroundings} {surroundings : Surroundings}

/-- This way of closing single providers is thorough while at most so many memos are filled, and it
leaves the memo of a provider over settings empty. -/
structure ClosesThoroughly (bound : Nat) (single : Closing SingleProvider Surroundings) : Prop where
  thorough : ∀ member {surroundings : Surroundings}, surroundings.FilledAtMost bound →
    surroundings.Thorough (single member surroundings).2
  empties : ∀ source registry position {surroundings : Surroundings},
    surroundings.FilledAtMost bound →
      (memo position).held (single (.settings source registry position) surroundings).2 = none

theorem ClosesThoroughly.tree (closes : ClosesThoroughly bound single) (tree : Provider)
    (filled : surroundings.FilledAtMost bound) :
    surroundings.Thorough (ChainTree.close single log tree surroundings).2 := by
  have singles (member : SingleProvider) (later : Surroundings)
      (kept : surroundings.Thorough later) : surroundings.Thorough (single member later).2 :=
    kept.trans (closes.thorough member (filled.releases kept.releases))
  have logs (entry : LogEntry) (later : Surroundings) (kept : surroundings.Thorough later) :
      surroundings.Thorough (later.log entry) :=
    kept.trans (thorough_record (.logged entry) later)
  exact ChainTree.close_keeps singles logs tree (.refl surroundings)

theorem ClosesThoroughly.discard (closes : ClosesThoroughly bound single) (tree : Provider)
    (filled : surroundings.FilledAtMost bound) :
    surroundings.Thorough
      (ChainTree.discard (SingleProvider.discardBy single) tree surroundings) := by
  have singles (member : SingleProvider) (later : Surroundings)
      (kept : surroundings.Thorough later) :
      surroundings.Thorough (SingleProvider.discardBy single member later) := by
    cases member with
    | fixed credentials => exact kept
    | scripted position => exact kept
    | settings source registry position =>
      exact kept.trans (closes.thorough _ (filled.releases kept.releases))
  exact ChainTree.discard_keeps singles tree (.refl surroundings)

theorem thorough_ignoring (entry : ResolutionError → LogEntry)
    (result : Except ResolutionError Unit) (surroundings : Surroundings) :
    surroundings.Thorough (ChainTree.ignoring log entry result surroundings) := by
  cases result with
  | ok value => exact .refl surroundings
  | error error => exact thorough_record _ surroundings

/-- The memos of the members that come first stay empty while the others are closed. -/
theorem ClosesThoroughly.members (closes : ClosesThoroughly bound single) (trees : List Provider)
    (filled : surroundings.FilledAtMost bound) :
    surroundings.Releases (ChainTree.closeMembers single log trees surroundings) := by
  have closed := (closes.tree (.chain trees) filled).releases
  rw [ChainTree.close] at closed
  exact closed

mutual

/-- Closing a tree empties the memos that it uses. -/
theorem ClosesThoroughly.empties_tree (closes : ClosesThoroughly bound single) :
    ∀ (tree : Provider) {surroundings : Surroundings}, surroundings.FilledAtMost bound →
      ∀ position, tree.Uses position →
        (memo position).held (ChainTree.close single log tree surroundings).2 = none
  | .single member, surroundings, filled, position, uses => by
    obtain ⟨source, registry, listed⟩ := uses
    rw [ChainTree.members, List.mem_singleton] at listed
    rw [ChainTree.close, ← listed]
    exact closes.empties source registry position filled
  | .chain trees, surroundings, filled, position, uses => by
    obtain ⟨source, registry, listed⟩ := uses
    rw [ChainTree.members] at listed
    rw [ChainTree.close]
    exact closes.empties_members trees filled position ⟨source, registry, listed⟩
  | .shared tree, surroundings, filled, position, uses => by
    obtain ⟨source, registry, listed⟩ := uses
    rw [ChainTree.members] at listed
    rw [ChainTree.close]
    exact closes.empties_tree tree filled position ⟨source, registry, listed⟩

theorem ClosesThoroughly.empties_members (closes : ClosesThoroughly bound single) :
    ∀ (trees : List Provider) {surroundings : Surroundings}, surroundings.FilledAtMost bound →
      ∀ position, (∃ source registry,
        .settings source registry position ∈ ChainTree.membersOfAll trees) →
        (memo position).held (ChainTree.closeMembers single log trees surroundings) = none
  | [], surroundings, filled, position, uses => by
    obtain ⟨source, registry, listed⟩ := uses
    cases listed
  | first :: rest, surroundings, filled, position, uses => by
    obtain ⟨source, registry, listed⟩ := uses
    rw [ChainTree.membersOfAll, List.mem_append] at listed
    have closed := closes.tree first filled
    have ignored := closed.trans (thorough_ignoring .memberCloseFailed
      (ChainTree.close single log first surroundings).1 _)
    have fewer := filled.releases ignored.releases
    rw [ChainTree.closeMembers]
    rcases listed with among | among
    · have empty := closes.empties_tree first filled position ⟨source, registry, among⟩
      exact (closes.members rest fewer).empty ((thorough_ignoring _ _ _).releases.empty empty)
    · exact closes.empties_members rest fewer position ⟨source, registry, among⟩

end

end Trees

namespace SingleProvider

/-- A memo that releases its delegate thoroughly is left empty with all that the delegate uses. -/
theorem release_thorough {bound position : Nat} {single : Closing SingleProvider Surroundings}
    {surroundings : Surroundings} (closes : ClosesThoroughly bound single)
    (filled : surroundings.FilledAtMost (bound + 1)) :
    let released := (memo position).release (Numbered.close (ChainTree.close single log))
      (fun numbered => ChainTree.discard (discardBy single) numbered.delegate) log surroundings
    surroundings.Thorough released ∧ (memo position).held released = none := by
  intro released
  cases held : (memo position).held surroundings with
  | none =>
    have same : released = surroundings := release_of_empty held _ _
    rw [same]
    exact ⟨.refl surroundings, held⟩
  | some numbered =>
    let emptied := (memo position).keep none surroundings
    let closed := Numbered.close (ChainTree.close single log) numbered emptied
    let ignored := ChainTree.ignoring log .delegateCloseFailed closed.1 closed.2
    have same : released = ChainTree.discard (discardBy single) numbered.delegate ignored := by
      simp only [released, Memo.release, Memo.takeOut, held]
      rfl
    have present := present_of_held held
    have heldEmptied (other : Nat) := held_keep surroundings present none other
    have fewer : emptied.FilledAtMost bound := filled.keep_none held
    have recorded := thorough_record (.released numbered.serial) emptied
    have fewer' := fewer.releases recorded.releases
    have afterClose := recorded.trans (closes.tree numbered.delegate fewer')
    have afterIgnore := afterClose.trans (thorough_ignoring .delegateCloseFailed closed.1 closed.2)
    have discarded := closes.discard numbered.delegate (fewer.releases afterIgnore.releases)
    have all : emptied.Thorough released := by
      rw [same]
      exact afterIgnore.trans discarded
    have inner (position : Nat) (uses : numbered.delegate.Uses position) :
        (memo position).held released = none := by
      rw [same]
      apply discarded.releases.empty
      apply (thorough_ignoring _ _ _).releases.empty
      exact closes.empties_tree numbered.delegate fewer' position uses
    have empty : (memo position).held released = none := by
      apply all.releases.empty
      rw [heldEmptied, if_pos rfl]
    refine ⟨⟨(releases_keep_none position surroundings).trans all.releases, ?_⟩, empty⟩
    intro other numbered' held' empty' used uses
    by_cases own : other = position
    · rw [own, held] at held'
      cases held'
      exact inner used uses
    · refine all.used other numbered' ?_ empty' used uses
      rw [heldEmptied, if_neg own]
      exact held'

/-- Providers over settings close thoroughly, by induction on the number of filled memos. -/
theorem closes_thoroughly (bound : Nat) : ClosesThoroughly bound (close bound) := by
  induction bound with
  | zero =>
    refine ⟨?_, fun source registry position surroundings filled =>
      held_of_filledAtMost_zero filled position⟩
    intro member surroundings filled
    cases member with
    | fixed credentials => exact .refl surroundings
    | scripted script => exact thorough_closeScripted script surroundings
    | settings source registry position => exact .refl surroundings
  | succ bound closes =>
    refine ⟨?_, fun source registry position surroundings filled =>
      (release_thorough closes filled).2⟩
    intro member surroundings filled
    cases member with
    | fixed credentials => exact .refl surroundings
    | scripted script => exact thorough_closeScripted script surroundings
    | settings source registry position => exact (release_thorough closes filled).1

end SingleProvider

/-- Closing a provider over settings is thorough and leaves its memo empty. -/
theorem Provider.close_thorough (source : Source) (registry position : Nat)
    (surroundings : Surroundings) :
    let closed := (Provider.close (.single (.settings source registry position)) surroundings).2
    surroundings.Thorough closed ∧ (memo position).held closed = none := by
  have closes := SingleProvider.closes_thoroughly surroundings.memos.count
  have filled := filledAtMost_count surroundings
  rw [Provider.close, ChainTree.close]
  exact ⟨closes.thorough _ filled, closes.empties source registry position filled⟩

end CredentialResolution
