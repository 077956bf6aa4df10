/-
This file shows what closing and discarding may change. They only empty memos, so the number of
filled memos bounds how deeply they go, and every bound that is large enough gives the same.
-/

import CredentialResolution.Proofs.Members
import CredentialResolution.Provider.Calls

namespace CredentialResolution

namespace ChainTree

variable {Member State : Type} {Keeps : State → Prop} {log : LogEntry → State → State}

section Close

variable {single single' : Closing Member State}

/-- What closing single members keeps, closing a tree keeps. -/
theorem close_keeps (singles : ∀ member state, Keeps state → Keeps (single member state).2)
    (logs : ∀ entry state, Keeps state → Keeps (log entry state)) (tree : ChainTree Member)
    {state : State} (kept : Keeps state) : Keeps (close single log tree state).2 :=
  close_keeps_of_members logs tree (fun member _ => singles member) kept

mutual

/-- Closing a tree depends only on how single members are closed in states that keep the property.
-/
theorem close_congr (singles : ∀ member state, Keeps state → Keeps (single member state).2)
    (logs : ∀ entry state, Keeps state → Keeps (log entry state))
    (same : ∀ member state, Keeps state → single member state = single' member state) :
    ∀ (tree : ChainTree Member) {state : State}, Keeps state →
      close single log tree state = close single' log tree state
  | .single member, state, kept => by
    simp only [close]
    exact same member state kept
  | .chain members, state, kept => by
    simp only [close]
    rw [closeMembers_congr singles logs same members kept]
  | .shared tree, state, kept => by
    simp only [close]
    exact close_congr singles logs same tree kept

theorem closeMembers_congr (singles : ∀ member state, Keeps state → Keeps (single member state).2)
    (logs : ∀ entry state, Keeps state → Keeps (log entry state))
    (same : ∀ member state, Keeps state → single member state = single' member state) :
    ∀ (members : List (ChainTree Member)) {state : State}, Keeps state →
      closeMembers single log members state = closeMembers single' log members state
  | [], state, kept => by
    simp only [closeMembers]
  | first :: rest, state, kept => by
    simp only [closeMembers]
    rw [← close_congr singles logs same first kept]
    apply closeMembers_congr singles logs same rest
    apply ignoring_keeps logs
    exact close_keeps singles logs first kept

end

end Close

section Discard

variable {single single' : Member → State → State}

theorem discard_keeps (singles : ∀ member state, Keeps state → Keeps (single member state))
    (tree : ChainTree Member) {state : State} (kept : Keeps state) :
    Keeps (discard single tree state) :=
  discard_keeps_of_members tree (fun member _ => singles member) kept

mutual

theorem discard_congr (singles : ∀ member state, Keeps state → Keeps (single member state))
    (same : ∀ member state, Keeps state → single member state = single' member state) :
    ∀ (tree : ChainTree Member) {state : State}, Keeps state →
      discard single tree state = discard single' tree state
  | .single member, state, kept => by
    simp only [discard]
    exact same member state kept
  | .chain members, state, kept => by
    simp only [discard]
    exact discardMembers_congr singles same members kept
  | .shared tree, state, kept => by
    simp only [discard]

theorem discardMembers_congr (singles : ∀ member state, Keeps state → Keeps (single member state))
    (same : ∀ member state, Keeps state → single member state = single' member state) :
    ∀ (members : List (ChainTree Member)) {state : State}, Keeps state →
      discardMembers single members state = discardMembers single' members state
  | [], state, kept => by
    simp only [discardMembers]
  | first :: rest, state, kept => by
    simp only [discardMembers]
    rw [← discard_congr singles same first kept]
    apply discardMembers_congr singles same rest
    exact discard_keeps singles first kept

end

end Discard

end ChainTree

namespace Surroundings

/-- Releasing delegates changes nothing but the journal, the scripts of delegates and the memos, and
each memo keeps what it holds or becomes empty. -/
structure Releases (earlier later : Surroundings) : Prop where
  rest : later =
    { earlier with
      journal := later.journal
      scriptedDelegates := later.scriptedDelegates
      memos := later.memos }
  count : later.memos.count = earlier.memos.count
  held : ∀ position, (memo position).held later = (memo position).held earlier ∨
    (memo position).held later = none

theorem Releases.refl (surroundings : Surroundings) : surroundings.Releases surroundings :=
  ⟨rfl, rfl, fun _ => .inl rfl⟩

theorem Releases.trans {earlier middle later : Surroundings} (first : earlier.Releases middle)
    (second : middle.Releases later) : earlier.Releases later := by
  refine ⟨?_, second.count.trans first.count, ?_⟩
  · rw [second.rest, first.rest]
  · intro position
    rcases second.held position with same | empty
    · rw [same]
      exact first.held position
    · exact .inr empty

theorem releases_record (event : Event) (surroundings : Surroundings) :
    surroundings.Releases (surroundings.record event) :=
  ⟨rfl, rfl, fun _ => .inl rfl⟩

theorem releases_closeScripted (position : Nat) (surroundings : Surroundings) :
    surroundings.Releases (surroundings.closeScripted position).2 := by
  simp only [closeScripted]
  cases surroundings.scriptedDelegates.get? position with
  | none => exact .refl surroundings
  | some delegate => exact ⟨rfl, rfl, fun _ => .inl rfl⟩

theorem releases_keep_none (position : Nat) (surroundings : Surroundings) :
    surroundings.Releases ((memo position).keep none surroundings) := by
  refine ⟨rfl, Cells.count_update _ _ _, ?_⟩
  intro other
  simp only [memo, Cells.get?_update]
  split
  · right
    cases surroundings.memos.get? other <;> rfl
  · exact .inl rfl

/-- At most as many memos are filled as the bound says. -/
def FilledAtMost (bound : Nat) (surroundings : Surroundings) : Prop :=
  ∃ positions : List Nat, positions.length ≤ bound ∧
    ∀ position, (memo position).held surroundings ≠ none → position ∈ positions

theorem filledAtMost_count (surroundings : Surroundings) :
    surroundings.FilledAtMost surroundings.memos.count := by
  refine ⟨List.range surroundings.memos.count, Nat.le_of_eq List.length_range, ?_⟩
  intro position filled
  obtain ⟨delegate, held⟩ := Option.ne_none_iff_exists'.mp filled
  exact List.mem_range.mpr (present_of_held held)

theorem FilledAtMost.releases {bound : Nat} {earlier later : Surroundings}
    (filled : earlier.FilledAtMost bound) (released : earlier.Releases later) :
    later.FilledAtMost bound := by
  obtain ⟨positions, short, covered⟩ := filled
  refine ⟨positions, short, ?_⟩
  intro position held
  rcases released.held position with same | empty
  · exact covered position (same ▸ held)
  · exact absurd empty held

/-- Emptying a filled memo leaves one fewer. -/
theorem FilledAtMost.keep_none {bound position : Nat} {surroundings : Surroundings}
    {delegate : Numbered Provider} (filled : surroundings.FilledAtMost (bound + 1))
    (held : (memo position).held surroundings = some delegate) :
    ((memo position).keep none surroundings).FilledAtMost bound := by
  obtain ⟨positions, short, covered⟩ := filled
  have present := present_of_held held
  have listed : position ∈ positions := covered position (by rw [held]; exact Option.some_ne_none _)
  refine ⟨positions.erase position, ?_, ?_⟩
  · rw [List.length_erase_of_mem listed]
    omega
  · intro other stillHeld
    rw [held_keep surroundings present] at stillHeld
    split at stillHeld
    · exact absurd rfl stillHeld
    · rename_i different
      exact (List.mem_erase_of_ne different).mpr (covered other stillHeld)

theorem held_of_filledAtMost_zero {surroundings : Surroundings}
    (filled : surroundings.FilledAtMost 0) (position : Nat) :
    (memo position).held surroundings = none := by
  obtain ⟨positions, short, covered⟩ := filled
  have empty : positions = [] := List.eq_nil_of_length_eq_zero (Nat.le_zero.mp short)
  cases held : (memo position).held surroundings with
  | none => rfl
  | some delegate =>
    have listed := covered position (by rw [held]; exact Option.some_ne_none _)
    rw [empty] at listed
    cases listed

theorem releases_ignoring (entry : ResolutionError → LogEntry)
    (result : Except ResolutionError Unit) {earlier later : Surroundings}
    (released : earlier.Releases later) :
    earlier.Releases (ChainTree.ignoring log entry result later) :=
  ChainTree.ignoring_keeps (fun _ _ kept => kept.trans (releases_record _ _)) entry result released

theorem release_of_empty {position : Nat} {surroundings : Surroundings}
    (empty : (memo position).held surroundings = none)
    (closeDelegate : Closing (Numbered Provider) Surroundings)
    (discardDelegate : Numbered Provider → Surroundings → Surroundings) :
    (memo position).release closeDelegate discardDelegate log surroundings = surroundings := by
  simp only [Memo.release, Memo.takeOut, empty, keep_none_of_empty empty]

/-- A memo releases its delegate by closing and discarding it. -/
theorem releases_release (position : Nat) {closeDelegate : Closing (Numbered Provider) Surroundings}
    {discardDelegate : Numbered Provider → Surroundings → Surroundings}
    (closes : ∀ numbered earlier, Releases earlier (closeDelegate numbered earlier).2)
    (discards : ∀ numbered earlier, Releases earlier (discardDelegate numbered earlier))
    (surroundings : Surroundings) :
    surroundings.Releases
      ((memo position).release closeDelegate discardDelegate log surroundings) := by
  have emptied := releases_keep_none position surroundings
  simp only [Memo.release, Memo.takeOut]
  cases (memo position).held surroundings with
  | none => exact emptied
  | some numbered =>
    have closed := emptied.trans (closes numbered _)
    exact (releases_ignoring _ _ closed).trans (discards numbered _)

end Surroundings

namespace SingleProvider

open Surroundings

theorem discardBy_releases {close : Closing SingleProvider Surroundings}
    (closes : ∀ provider earlier, Releases earlier (close provider earlier).2)
    (provider : SingleProvider) (surroundings : Surroundings) :
    surroundings.Releases (discardBy close provider surroundings) := by
  cases provider with
  | fixed credentials => exact .refl surroundings
  | scripted position => exact .refl surroundings
  | settings source registry position => exact closes _ surroundings

theorem numbered_close_releases {close : Closing SingleProvider Surroundings}
    (closes : ∀ provider earlier, Releases earlier (close provider earlier).2)
    (numbered : Numbered Provider) (surroundings : Surroundings) :
    surroundings.Releases (Numbered.close (ChainTree.close close log) numbered surroundings).2 :=
  ChainTree.close_keeps (fun member middle kept => kept.trans (closes member middle))
    (fun _ _ kept => kept.trans (releases_record _ _)) numbered.delegate (releases_record _ _)

theorem numbered_discard_releases {close : Closing SingleProvider Surroundings}
    (closes : ∀ provider earlier, Releases earlier (close provider earlier).2)
    (numbered : Numbered Provider) (surroundings : Surroundings) :
    surroundings.Releases (ChainTree.discard (discardBy close) numbered.delegate surroundings) :=
  ChainTree.discard_keeps
    (fun member middle kept => kept.trans (discardBy_releases closes member middle))
    numbered.delegate (.refl surroundings)

/-- Closing a provider empties memos and does nothing else to them. -/
theorem close_releases (filled : Nat) (provider : SingleProvider) (surroundings : Surroundings) :
    surroundings.Releases (close filled provider surroundings).2 := by
  induction filled generalizing provider surroundings with
  | zero =>
    cases provider with
    | fixed credentials => exact .refl surroundings
    | scripted position => exact releases_closeScripted position surroundings
    | settings source registry position => exact .refl surroundings
  | succ filled inductionHypothesis =>
    cases provider with
    | fixed credentials => exact .refl surroundings
    | scripted position => exact releases_closeScripted position surroundings
    | settings source registry position =>
      exact releases_release position (numbered_close_releases inductionHypothesis)
        (numbered_discard_releases inductionHypothesis) surroundings

theorem close_of_empty {position : Nat} {surroundings : Surroundings}
    (empty : (memo position).held surroundings = none) (filled : Nat) (source : Source)
    (registry : Nat) :
    close filled (.settings source registry position) surroundings = (.ok (), surroundings) := by
  cases filled with
  | zero => rfl
  | succ filled => rw [close, release_of_empty empty]

section Bounds

variable {filled filled' : Nat}

/-- If two bounds close single providers alike, they release a delegate alike. -/
theorem release_congr
    (same : ∀ provider {surroundings : Surroundings}, surroundings.FilledAtMost filled →
      surroundings.FilledAtMost filled' →
        close filled provider surroundings = close filled' provider surroundings)
    (numbered : Numbered Provider) {surroundings : Surroundings}
    (enough : surroundings.FilledAtMost filled) (enough' : surroundings.FilledAtMost filled') :
    Numbered.close (ChainTree.close (close filled) log) numbered surroundings =
        Numbered.close (ChainTree.close (close filled') log) numbered surroundings ∧
      ChainTree.discard (discardBy (close filled)) numbered.delegate surroundings =
        ChainTree.discard (discardBy (close filled')) numbered.delegate surroundings := by
  let Bounded (later : Surroundings) : Prop :=
    later.FilledAtMost filled ∧ later.FilledAtMost filled'
  have released {earlier later : Surroundings} (bounded : Bounded earlier)
      (releases : earlier.Releases later) : Bounded later :=
    ⟨bounded.1.releases releases, bounded.2.releases releases⟩
  have closes (member : SingleProvider) (later : Surroundings) (bounded : Bounded later) :
      Bounded (close filled member later).2 :=
    released bounded (close_releases filled member later)
  have logs (entry : LogEntry) (later : Surroundings) (bounded : Bounded later) :
      Bounded (later.log entry) :=
    released bounded (releases_record _ _)
  have discards (member : SingleProvider) (later : Surroundings) (bounded : Bounded later) :
      Bounded (discardBy (close filled) member later) :=
    released bounded (discardBy_releases (close_releases filled) member later)
  constructor
  · have recorded : Bounded (surroundings.record (.released numbered.serial)) :=
      released ⟨enough, enough'⟩ (releases_record _ _)
    exact ChainTree.close_congr closes logs (fun member later bounded =>
      same member bounded.1 bounded.2) numbered.delegate recorded
  · refine ChainTree.discard_congr discards ?_ numbered.delegate ⟨enough, enough'⟩
    intro member later bounded
    cases member with
    | fixed credentials => rfl
    | scripted position => rfl
    | settings source registry position =>
      rw [discardBy, discardBy, same _ bounded.1 bounded.2]

/-- Any two bounds that count at least the filled memos close alike. -/
theorem close_eq_of_filledAtMost (provider : SingleProvider) {surroundings : Surroundings}
    (enough : surroundings.FilledAtMost filled) (enough' : surroundings.FilledAtMost filled') :
    close filled provider surroundings = close filled' provider surroundings := by
  induction filled generalizing filled' provider surroundings with
  | zero =>
    cases provider with
    | fixed credentials => cases filled' <;> rfl
    | scripted position => cases filled' <;> rfl
    | settings source registry position =>
      have empty := held_of_filledAtMost_zero enough position
      rw [close_of_empty empty, close_of_empty empty]
  | succ filled inductionHypothesis =>
    cases provider with
    | fixed credentials => cases filled' <;> rfl
    | scripted position => cases filled' <;> rfl
    | settings source registry position =>
      cases held : (memo position).held surroundings with
      | none => rw [close_of_empty held, close_of_empty held]
      | some numbered =>
        cases filled' with
        | zero =>
          rw [held_of_filledAtMost_zero enough' position] at held
          cases held
        | succ filled' =>
          have fewer := enough.keep_none held
          have fewer' := enough'.keep_none held
          have closed := (release_congr inductionHypothesis numbered fewer fewer').1
          have after : Releases ((memo position).keep none surroundings)
              (ChainTree.ignoring log .delegateCloseFailed
                (Numbered.close (ChainTree.close (close filled) log) numbered
                  ((memo position).keep none surroundings)).1
                (Numbered.close (ChainTree.close (close filled) log) numbered
                  ((memo position).keep none surroundings)).2) := by
            apply releases_ignoring
            exact numbered_close_releases (close_releases filled) numbered _
          have discarded := (release_congr inductionHypothesis numbered (fewer.releases after)
            (fewer'.releases after)).2
          simp only [close, Memo.release, Memo.takeOut, held]
          rw [← closed, discarded]

end Bounds

end SingleProvider

open Surroundings

/-- A chosen delegate is released by closing and discarding it; a failure to close it is only
logged. -/
def Numbered.release (numbered : Numbered Provider) (surroundings : Surroundings) : Surroundings :=
  let (result, surroundings) := Numbered.close Provider.close numbered surroundings
  numbered.delegate.discard (ChainTree.ignoring log .delegateCloseFailed result surroundings)

theorem Numbered.releases_release (numbered : Numbered Provider) (surroundings : Surroundings) :
    surroundings.Releases (numbered.release surroundings) := by
  have closed := SingleProvider.numbered_close_releases
    (SingleProvider.close_releases surroundings.memos.count) numbered surroundings
  have ignored := releases_ignoring .delegateCloseFailed
    (Numbered.close Provider.close numbered surroundings).1 closed
  exact ignored.trans (SingleProvider.numbered_discard_releases
    (SingleProvider.close_releases _) numbered _)

namespace Provider

/-- Closing a provider over settings that has chosen nothing changes nothing. -/
theorem close_of_empty {position : Nat} {surroundings : Surroundings}
    (empty : (memo position).held surroundings = none) (source : Source) (registry : Nat) :
    Provider.close (.single (.settings source registry position)) surroundings =
      (.ok (), surroundings) := by
  rw [Provider.close, ChainTree.close, SingleProvider.close_of_empty empty]

/-- Closing a provider over settings empties its memo and then releases what was in there. -/
theorem close_of_held {position : Nat} {surroundings : Surroundings} {numbered : Numbered Provider}
    (held : (memo position).held surroundings = some numbered) (source : Source)
    (registry : Nat) :
    Provider.close (.single (.settings source registry position)) surroundings =
      (.ok (), numbered.release ((memo position).keep none surroundings)) := by
  have present := present_of_held held
  obtain ⟨filled, count⟩ : ∃ filled, surroundings.memos.count = filled + 1 :=
    ⟨surroundings.memos.count - 1, by omega⟩
  let emptied := (memo position).keep none surroundings
  have sameCount : emptied.memos.count = surroundings.memos.count := Cells.count_update _ _ _
  have fewer : emptied.FilledAtMost filled := by
    have all := filledAtMost_count surroundings
    rw [count] at all
    exact all.keep_none held
  have closed := (SingleProvider.release_congr SingleProvider.close_eq_of_filledAtMost numbered
    fewer (filledAtMost_count emptied)).1
  have after : emptied.Releases (ChainTree.ignoring log .delegateCloseFailed
      (Numbered.close Provider.close numbered emptied).1
      (Numbered.close Provider.close numbered emptied).2) :=
    releases_ignoring _ _ (SingleProvider.numbered_close_releases
      (SingleProvider.close_releases emptied.memos.count) numbered emptied)
  have discarded := (SingleProvider.release_congr SingleProvider.close_eq_of_filledAtMost numbered
    (fewer.releases after) (filledAtMost_count _)).2
  rw [Provider.close, ChainTree.close, count]
  simp only [SingleProvider.close, Memo.release, Memo.takeOut, held]
  rw [closed]
  exact congrArg (Prod.mk _) discarded

/-- Discarding a provider over settings releases what closing it would release. -/
theorem discard_settings (source : Source) (registry position : Nat)
    (surroundings : Surroundings) :
    Provider.discard (.single (.settings source registry position)) surroundings =
      (Provider.close (.single (.settings source registry position)) surroundings).2 := by
  rw [Provider.discard, ChainTree.discard, Provider.close, ChainTree.close]
  rfl

end Provider

end CredentialResolution
