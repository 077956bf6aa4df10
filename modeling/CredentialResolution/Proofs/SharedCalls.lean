/-
This file lets the delegates of a shared provider note the calls that reach them. The marks of the
provider turn out to be these calls, and delegates are asked to close once for every time they were
chosen.
-/

import CredentialResolution.Proofs.ChainSteps
import CredentialResolution.Proofs.Threads
import Mathlib.Data.List.Nodup

namespace CredentialResolution

namespace ChainTree

variable {Member State Failure Value : Type}

/-- This action does the same to the state and notes nothing. -/
def Traced.silently (action : Action State Failure Value) :
    Action (Traced Member State) Failure Value := fun traced =>
  let (outcome, after) := action traced.state
  (outcome, { traced with state := after })

/-- Two of the steps call a member. -/
def Step.received? : Step Member → Option (Call × Member)
  | resolved member _ => some (.resolve, member)
  | closed member _ => some (.close, member)
  | logged _ => none

/-- The members have received these calls, oldest first. -/
def Traced.received (traced : Traced Member State) : List (Call × Member) :=
  traced.steps.filterMap Step.received?

end ChainTree

open ChainTree (Traced)

/-- This function gives the delegate of a call of close. -/
def Call.closing? {Delegate : Type} : Call × Delegate → Option Delegate
  | (.close, delegate) => some delegate
  | (.resolve, _) => none

/-- Two of the marks stand for a call of the delegate. -/
def Mark.call? {Delegate : Type} : Mark Delegate → Option (Call × Delegate)
  | consulted numbered => some (.resolve, numbered.delegate)
  | closed numbered => some (.close, numbered.delegate)
  | _ => none

/-- These parts do the same, and delegates note the calls that they receive. -/
def Parts.noted {World Factory Delegate : Type} (parts : Parts World Factory Delegate) :
    Parts (Traced Delegate World) Factory Delegate where
  means :=
    { log := fun entry traced => { traced with state := parts.means.log entry traced.state }
      load := fun setting => Traced.silently (parts.means.load setting)
      readToken := fun path => Traced.silently (parts.means.readToken path)
      lookUp := Traced.silently parts.means.lookUp
      create := fun factory roleArn roleSessionName token =>
        Traced.silently (parts.means.create factory roleArn roleSessionName token)
      fixed := parts.means.fixed }
  resolve := Traced.resolve parts.resolve
  close := Traced.close parts.close
  discard delegate traced := { traced with state := parts.discard delegate traced.state }

/-- What changes the world from outside calls no delegate. -/
def Tick.noted {Thread World Delegate : Type} :
    Tick Thread World → Tick Thread (Traced Delegate World)
  | .thread acting => .thread acting
  | .outside change => .outside fun traced => { traced with state := change traced.state }

namespace Shared

variable {World Factory Delegate Failure Value : Type}

def withoutNotes (noted : Shared (Traced Delegate World) Delegate) : Shared World Delegate where
  memo := noted.memo
  world := noted.world.state
  chosenCount := noted.chosenCount
  history := noted.history

/-- The delegates have noted the calls that the marks stand for; apart from the notes both are the
same. -/
structure Notes (noted : Shared (Traced Delegate World) Delegate)
    (shared : Shared World Delegate) : Prop where
  same : noted.withoutNotes = shared
  calls : noted.world.received = shared.events.filterMap Mark.call?

variable {noted : Shared (Traced Delegate World) Delegate} {shared : Shared World Delegate}

theorem Notes.memo (notes : Notes noted shared) : noted.memo = shared.memo :=
  congrArg Shared.memo notes.same

theorem Notes.inWorld (notes : Notes noted shared) (change : World → World) :
    Notes { noted with world := { noted.world with state := change noted.world.state } }
      { shared with world := change shared.world } := by
  obtain ⟨rfl, calls⟩ := notes
  exact ⟨rfl, calls⟩

theorem Notes.mark (notes : Notes noted shared) (mark : Mark Delegate)
    (uncalled : mark.call? = none) : Notes (noted.mark mark) (shared.mark mark) := by
  obtain ⟨rfl, calls⟩ := notes
  refine ⟨rfl, calls.trans ?_⟩
  simp [events, Shared.mark, uncalled, withoutNotes]

/-- A mark that stands for a call goes together with a note of that call. -/
theorem Notes.call (notes : Notes noted shared) (mark : Mark Delegate)
    {step : ChainTree.Step Delegate} (same : step.received? = mark.call?) (world : World) :
    Notes ({ noted with world := Traced.mk world (noted.world.steps ++ [step]) }.mark mark)
      ({ shared with world := world }.mark mark) := by
  obtain ⟨rfl, calls⟩ := notes
  refine ⟨rfl, ?_⟩
  simp only [events, Shared.mark, Traced.received, List.filterMap_append, List.reverse_cons] at *
  rw [calls]
  simp only [withoutNotes, List.filterMap_cons, same, List.filterMap_nil]

theorem silently_agrees (action : Action World Failure Value) :
    Action.Agrees (@Notes World Delegate) (· = ·)
      (inWorld (Traced.silently action)) (inWorld action) := by
  intro noted shared notes
  have world := notes.inWorld fun world => (action world).2
  obtain ⟨rfl, calls⟩ := notes
  exact ⟨.refl _, world⟩

variable {parts : Parts World Factory Delegate}

theorem watched_agree (parts : Parts World Factory Delegate) :
    Means.Agree (@Notes World Delegate) (· = ·) (· = ·)
      (watched parts.noted.means) (watched parts.means) where
  log entry _ _ notes := notes.inWorld (parts.means.log entry)
  load setting := by
    apply Action.bind_agrees
    · exact Action.update_agrees fun _ _ notes => notes.mark (.loaded setting) rfl
    rintro _ _ -
    exact silently_agrees (parts.means.load setting)
  readToken path := silently_agrees (parts.means.readToken path)
  lookUp := silently_agrees parts.means.lookUp
  create := by
    rintro factory _ rfl roleArn roleSessionName token
    exact silently_agrees (parts.means.create factory roleArn roleSessionName token)
  fixed _ := rfl

/-- Choosing calls no delegate. -/
theorem choose_agrees (parts : Parts World Factory Delegate) :
    Action.Agrees (@Notes World Delegate) (· = ·)
      (choose parts.noted.means) (choose parts.means) := by
  apply Action.bind_agrees (Means.choose_agrees (watched_agree parts))
  rintro delegate _ rfl noted shared notes
  obtain ⟨rfl, calls⟩ := notes
  refine ⟨.refl _, rfl, calls.trans ?_⟩
  simp [events, Shared.mark, withoutNotes, Mark.call?]

theorem cell_agree : Memo.Agree (@Notes World Delegate) (· = ·)
    cell cell where
  held _ shared notes := by
    change Option.Rel _ (Shared.memo _) (Shared.memo _)
    rw [notes.memo]
    exact rel_refl (fun _ => rfl) shared.memo
  keep := by
    rintro _ _ (⟨⟨rfl⟩⟩ | _) noted shared notes
    · rw [keep_some, keep_some]
      obtain ⟨rfl, calls⟩ := notes
      exact ⟨rfl, calls⟩
    · obtain ⟨memo, world, chosenCount, history⟩ := noted
      obtain ⟨rfl, calls⟩ := notes
      have emptied : Notes ⟨none, world, chosenCount, history⟩
          ⟨none, world.state, chosenCount, history⟩ := ⟨rfl, calls⟩
      cases memo with
      | none => exact emptied
      | some numbered => exact emptied.mark (.took numbered) rfl

theorem consult_notes (notes : Notes noted shared) (numbered : Numbered Delegate) :
    Notes (consult parts.noted numbered noted).2 (consult parts numbered shared).2 := by
  obtain ⟨rfl, calls⟩ := notes
  have notes : Notes noted noted.withoutNotes := ⟨rfl, calls⟩
  exact notes.call (.consulted numbered) rfl _

theorem closes_alike (parts : Parts World Factory Delegate) :
    ChainTree.ClosesAlike (@Notes World Delegate) (· = ·)
      (close parts.noted) (close parts) := by
  rintro numbered _ rfl noted _ ⟨rfl, calls⟩
  have notes : Notes noted noted.withoutNotes := ⟨rfl, calls⟩
  exact ⟨rfl, notes.call (.closed numbered) rfl _⟩

theorem discard_notes (notes : Notes noted shared) (numbered : Numbered Delegate) :
    Notes (discard parts.noted numbered noted) (discard parts numbered shared) :=
  notes.inWorld (parts.discard numbered.delegate)

/-- What is taken out notes that it is closed. -/
theorem release_notes (notes : Notes noted shared) (numbered : Numbered Delegate) :
    Notes (release parts.noted numbered noted) (release parts numbered shared) := by
  obtain ⟨result, closed⟩ := closes_alike parts (rfl : numbered = numbered) notes
  simp only [release, result]
  exact discard_notes (ChainTree.ignoring_agrees (watched_agree parts).log _ _ closed) numbered

theorem drop_notes (parts : Parts World Factory Delegate) (notes : Notes noted shared) :
    Notes (drop parts.noted noted) (drop parts shared) := by
  apply Memo.release_agrees cell_agree (closes_alike parts) _ (watched_agree parts).log notes
  rintro numbered _ rfl noted shared notes
  exact discard_notes notes numbered

end Shared

namespace System

variable {Thread World Factory Delegate : Type}

/-- A step of a caller is the same with notes. -/
theorem step_notes (parts : Parts World Factory Delegate)
    {noted : Shared (Traced Delegate World) Delegate} {shared : Shared World Delegate}
    (notes : Shared.Notes noted shared) (caller : Caller Delegate) :
    (caller.step parts.noted noted).1 = (caller.step parts shared).1 ∧
      Shared.Notes (caller.step parts.noted noted).2 (caller.step parts shared).2 := by
  match caller with
  | ⟨calls, .consulting numbered⟩ => exact ⟨rfl, Shared.consult_notes notes numbered⟩
  | ⟨calls, .closing numbered⟩ => exact ⟨rfl, Shared.release_notes notes numbered⟩
  | ⟨[], .idle⟩ => exact ⟨rfl, notes⟩
  | ⟨.resolve :: calls, .idle⟩ =>
    obtain ⟨alike, left⟩ := Memo.obtain_agrees Shared.cell_agree (Shared.choose_agrees parts) notes
    simp only [Caller.step]
    rcases obtained : Shared.cell.obtain (Shared.choose parts.noted.means) noted with
      ⟨outcome, after⟩
    rcases obtained' : Shared.cell.obtain (Shared.choose parts.means) shared with
      ⟨outcome', after'⟩
    rw [obtained, obtained'] at alike left
    obtain rfl : outcome = outcome' := alike.eq
    cases outcome <;> exact ⟨rfl, left⟩
  | ⟨.close :: calls, .idle⟩ =>
    have taken : Shared.Notes (Shared.cell.takeOut noted).2 (Shared.cell.takeOut shared).2 :=
      Shared.cell_agree.keep .none notes
    simp only [Caller.step]
    cases held : shared.memo with
    | none =>
      rw [Shared.takeOut_of_empty held, Shared.takeOut_of_empty (notes.memo.trans held)] at taken ⊢
      exact ⟨rfl, taken⟩
    | some numbered =>
      rw [Shared.takeOut_of_held held, Shared.takeOut_of_held (notes.memo.trans held)] at taken ⊢
      exact ⟨rfl, taken⟩

/-- Every thread is at the same place, and delegates have noted the calls of all threads. -/
structure Notes (noted : System Thread (Traced Delegate World) Delegate)
    (system : System Thread World Delegate) : Prop where
  callers : noted.callers = system.callers
  shared : Shared.Notes noted.shared system.shared

theorem start_notes (world : World) (calls : Thread → List Call) :
    (start ⟨world, []⟩ calls : System Thread (Traced Delegate World) Delegate).Notes
      (start world calls) :=
  ⟨rfl, rfl, rfl⟩

variable [DecidableEq Thread] {parts : Parts World Factory Delegate}
  {noted : System Thread (Traced Delegate World) Delegate} {system : System Thread World Delegate}

theorem tick_notes (notes : Notes noted system) (tick : Tick Thread World) :
    Notes (noted.tick parts.noted tick.noted) (system.tick parts tick) := by
  obtain ⟨same, notes⟩ := notes
  cases tick with
  | outside change => exact ⟨same, notes.inWorld change⟩
  | thread acting =>
    obtain ⟨stepped, left⟩ := step_notes parts notes (system.callers acting)
    simp only [Tick.noted, tick, same]
    exact ⟨by rw [stepped], left⟩

theorem run_notes (notes : Notes noted system) (ticks : List (Tick Thread World)) :
    Notes (noted.run parts.noted (ticks.map Tick.noted)) (system.run parts ticks) := by
  induction ticks generalizing noted system with
  | nil => exact notes
  | cons tick rest inductionHypothesis => exact inductionHypothesis (tick_notes notes tick)

/-- If delegates note the calls that they receive, everything else is as before, and the marks that
stand for calls are the notes, in their order. So it is after the provider has been dropped. -/
theorem marks_are_received_calls (parts : Parts World Factory Delegate) (world : World)
    (calls : Thread → List Call) (ticks : List (Tick Thread World)) :
    let noted := (start ⟨world, []⟩ calls).run parts.noted (ticks.map Tick.noted)
    let final := (start world calls).run parts ticks
    noted.callers = final.callers ∧
      noted.shared.withoutNotes = final.shared ∧
      noted.shared.world.received = final.shared.events.filterMap Mark.call? ∧
      (noted.shared.drop parts.noted).withoutNotes = final.shared.drop parts ∧
      (noted.shared.drop parts.noted).world.received =
        (final.shared.drop parts).events.filterMap Mark.call? := by
  intro noted final
  have notes : Notes noted final := run_notes (start_notes world calls) ticks
  have dropped := Shared.drop_notes parts notes.shared
  exact ⟨notes.callers, notes.shared.same, notes.shared.calls, dropped.same, dropped.calls⟩

end System

namespace Mark

variable {Delegate : Type}

def chosen? : Mark Delegate → Option (Numbered Delegate)
  | chose numbered => some numbered
  | _ => none

def closed? : Mark Delegate → Option (Numbered Delegate)
  | closed numbered => some numbered
  | _ => none

theorem mem_chosen {numbered : Numbered Delegate} {history : List (Mark Delegate)} :
    numbered ∈ history.filterMap chosen? ↔ .chose numbered ∈ history := by
  rw [List.mem_filterMap]
  constructor
  · rintro ⟨_ | numbered, listed, ⟨⟩⟩
    exact listed
  · exact fun listed => ⟨_, listed, rfl⟩

theorem mem_closed {numbered : Numbered Delegate} {history : List (Mark Delegate)} :
    numbered ∈ history.filterMap closed? ↔ .closed numbered ∈ history := by
  rw [List.mem_filterMap]
  constructor
  · rintro ⟨_ | numbered, listed, ⟨⟩⟩
    exact listed
  · exact fun listed => ⟨_, listed, rfl⟩

/-- What is closed under a serial number is listed under it. -/
theorem exists_closed {serial : Nat} {history : List (Mark Delegate)}
    (times : 0 < history.countP (closes serial)) :
    ∃ numbered, numbered.serial = serial ∧ .closed numbered ∈ history := by
  obtain ⟨mark, listed, closing⟩ := List.countP_pos_iff.mp times
  cases mark with
  | closed numbered => exact ⟨numbered, by simpa [closes] using closing, listed⟩
  | loaded | chose | took | consulted => cases closing

theorem serials_chosen (history : List (Mark Delegate)) :
    (history.filterMap chosen?).map Numbered.serial = history.filterMap choiceSerial? := by
  rw [List.map_filterMap]
  congr 1
  funext mark
  cases mark <;> rfl

/-- The calls of close among the calls are those of the closing marks. -/
theorem closing_calls (marks : List (Mark Delegate)) :
    (marks.filterMap call?).filterMap Call.closing? =
      (marks.filterMap closed?).map Numbered.delegate := by
  rw [List.filterMap_filterMap, List.map_filterMap]
  congr 1
  funext mark
  cases mark <;> rfl

theorem count_closed (serial : Nat) (history : List (Mark Delegate)) :
    ((history.filterMap closed?).map Numbered.serial).count serial =
      history.countP (closes serial) := by
  rw [List.count, List.countP_map, List.countP_filterMap]
  apply List.countP_congr
  intro mark _
  cases mark <;> simp [closed?, closes]

end Mark

namespace Shared

variable {World Factory Delegate Thread : Type} (parts : Parts World Factory Delegate)
  {shared : Shared World Delegate} {activities : Thread → Activity Delegate}

/-- Dropping closes only what was chosen. -/
theorem chosen_of_closed_after_drop (sound : (shared.ledger activities).Sound)
    {numbered : Numbered Delegate} (closed : .closed numbered ∈ (shared.drop parts).history) :
    .chose numbered ∈ shared.history := by
  cases held : shared.memo with
  | none =>
    rw [drop_of_empty parts held] at closed
    exact sound.closed numbered closed
  | some other =>
    rw [history_drop_of_held parts held] at closed
    simp only [List.mem_cons, Mark.closed.injEq, reduceCtorEq, false_or] at closed
    rcases closed with rfl | before
    · exact sound.held numbered held
    · exact sound.closed numbered before

theorem closed_perm_chosen (sound : (shared.ledger activities).Sound)
    (idle : ∀ thread, activities thread = .idle) :
    ((shared.drop parts).history.filterMap Mark.closed?).Perm
      (shared.history.filterMap Mark.chosen?) := by
  have once {numbered : Numbered Delegate} (chosen : .chose numbered ∈ shared.history) :=
    closed_once_after_drop parts sound idle chosen
  have closedDistinct : ((shared.drop parts).history.filterMap Mark.closed?).Nodup := by
    apply List.Nodup.of_map Numbered.serial
    rw [List.nodup_iff_count_le_one]
    intro serial
    rw [Mark.count_closed]
    rcases Nat.eq_zero_or_pos ((shared.drop parts).history.countP (Mark.closes serial)) with
      never | times
    · omega
    · obtain ⟨numbered, rfl, closed⟩ := Mark.exists_closed times
      exact Nat.le_of_eq (once (chosen_of_closed_after_drop parts sound closed))
  have chosenDistinct : (shared.history.filterMap Mark.chosen?).Nodup := by
    apply List.Nodup.of_map Numbered.serial
    have serials : shared.history.filterMap Mark.choiceSerial? = _ := sound.serials
    rw [Mark.serials_chosen, serials]
    exact List.nodup_reverse.mpr List.nodup_range
  rw [List.perm_ext_iff_of_nodup closedDistinct chosenDistinct]
  intro numbered
  rw [Mark.mem_closed, Mark.mem_chosen]
  constructor
  · exact chosen_of_closed_after_drop parts sound
  · intro chosen
    obtain ⟨other, same, closed⟩ := Mark.exists_closed ((once chosen).symm ▸ Nat.one_pos)
    rwa [sound.distinct other numbered (chosen_of_closed_after_drop parts sound closed) chosen same]
      at closed

end Shared

/-- When all threads have finished and the provider has been dropped, the delegates that have been
asked to close are the chosen ones, each of them as often as it was chosen. -/
theorem System.chosen_receive_close_once {Thread World Factory Delegate : Type}
    [DecidableEq Thread] (parts : Parts World Factory Delegate) (world : World)
    (calls : Thread → List Call) (ticks : List (Tick Thread World)) :
    let noted := (System.start ⟨world, []⟩ calls).run parts.noted (ticks.map Tick.noted)
    noted.Finished →
      ((noted.shared.drop parts.noted).world.received.filterMap Call.closing?).Perm
        ((noted.shared.events.filterMap Mark.chosen?).map Numbered.delegate) := by
  intro noted finished
  let final : System Thread World Delegate := (System.start world calls).run parts ticks
  have notes : Notes noted final := run_notes (start_notes world calls) ticks
  have idle (thread : Thread) : (final.callers thread).activity = .idle := by
    rw [← notes.callers, finished thread]
  have sound : (final.shared.ledger fun thread => (final.callers thread).activity).Sound :=
    run_sound parts ticks world calls
  have marked : noted.shared.events = final.shared.events :=
    congrArg Shared.events notes.shared.same
  rw [(Shared.drop_notes parts notes.shared).calls, marked, Mark.closing_calls, Shared.events,
    Shared.events, List.filterMap_reverse, List.filterMap_reverse]
  apply List.Perm.map
  exact (List.reverse_perm _).trans
    ((Shared.closed_perm_chosen parts sound idle).trans (List.reverse_perm _).symm)

end CredentialResolution
