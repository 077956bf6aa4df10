/-
This file lets any number of threads share one provider over settings. What runs under the lock is
one step, and every call of a delegate is another one; the steps of all threads may come in any
order.
-/

import CredentialResolution.Proofs.Agreement
import CredentialResolution.Proofs.Ledger
import CredentialResolution.Provider.Calls

namespace CredentialResolution

/-- The threads share the memo and the world around it. -/
structure Shared (World Delegate : Type) where
  memo : Option (Numbered Delegate)
  world : World
  chosenCount : Nat
  history : List (Mark Delegate)

/-- Choices are made with these means; delegates may do anything to the world when they are
resolved, closed or discarded. -/
structure Parts (World Factory Delegate : Type) where
  means : Means World Factory Delegate
  resolve : Resolving Delegate World
  close : Closing Delegate World
  discard : Delegate → World → World

/-- The parts of a provider over settings. -/
def Parts.ofSettings (source : Source) (registry nesting : Nat) :
    Parts Surroundings Factory Provider where
  means := Surroundings.means source registry
  resolve := Provider.resolve nesting
  close := Provider.close
  discard := Provider.discard

namespace Shared

variable {World Factory Delegate Failure Value : Type}

def mark (mark : Mark Delegate) (shared : Shared World Delegate) : Shared World Delegate :=
  { shared with history := mark :: shared.history }

def inWorld (action : Action World Failure Value) : Action (Shared World Delegate) Failure Value :=
  fun shared =>
    let (outcome, world) := action shared.world
    (outcome, { shared with world := world })

/-- The lock guards this memo, which marks what is taken out of it. -/
def cell : Memo (Numbered Delegate) (Shared World Delegate) where
  held := memo
  keep delegate shared :=
    match shared.memo, delegate with
    | some numbered, none => { shared with memo := none }.mark (.took numbered)
    | _, _ => { shared with memo := delegate }

/-- These means do the same in the world and mark every setting that is loaded. -/
def watched (means : Means World Factory Delegate) :
    Means (Shared World Delegate) Factory Delegate where
  log entry shared := { shared with world := means.log entry shared.world }
  load setting := do
    Action.update (mark (.loaded setting))
    inWorld (means.load setting)
  readToken path := inWorld (means.readToken path)
  lookUp := inWorld means.lookUp
  create factory roleArn roleSessionName token :=
    inWorld (means.create factory roleArn roleSessionName token)
  fixed := means.fixed

/-- A choice that succeeds is numbered and marked. -/
def choose (means : Means World Factory Delegate) :
    Action (Shared World Delegate) ResolutionError (Numbered Delegate) := do
  let delegate ← (watched means).choose
  fun shared =>
    (.ok ⟨shared.chosenCount, delegate⟩,
      { shared with chosenCount := shared.chosenCount + 1 }.mark
        (.chose ⟨shared.chosenCount, delegate⟩))

def consult (parts : Parts World Factory Delegate) :
    Resolving (Numbered Delegate) (Shared World Delegate) := fun numbered shared =>
  inWorld (parts.resolve numbered.delegate) (shared.mark (.consulted numbered))

def close (parts : Parts World Factory Delegate) :
    Closing (Numbered Delegate) (Shared World Delegate) := fun numbered shared =>
  let (result, world) := parts.close numbered.delegate shared.world
  (result, { shared with world := world }.mark (.closed numbered))

def discard (parts : Parts World Factory Delegate) (numbered : Numbered Delegate)
    (shared : Shared World Delegate) : Shared World Delegate :=
  { shared with world := parts.discard numbered.delegate shared.world }

/-- A delegate that was taken out is closed and discarded; a failure to close it is only logged. -/
def release (parts : Parts World Factory Delegate) (numbered : Numbered Delegate)
    (shared : Shared World Delegate) : Shared World Delegate :=
  let (result, shared) := close parts numbered shared
  discard parts numbered
    (ChainTree.ignoring (watched parts.means).log .delegateCloseFailed result shared)

/-- Dropping the provider releases what its memo still holds. -/
def drop (parts : Parts World Factory Delegate) (shared : Shared World Delegate) :
    Shared World Delegate :=
  cell.release (close parts) (discard parts) (watched parts.means).log shared

/-- The marks in the order in which they were made. -/
def events (shared : Shared World Delegate) : List (Mark Delegate) :=
  shared.history.reverse

end Shared

inductive Call where
  | resolve
  | close

/-- A caller makes its calls one after the other. -/
structure Caller (Delegate : Type) where
  calls : List Call
  activity : Activity Delegate

/-- A caller first runs the part of its call that is under the lock. What it got there it consults
or closes in a step of its own. -/
def Caller.step {World Factory Delegate : Type} (parts : Parts World Factory Delegate) :
    Caller Delegate → Shared World Delegate → Caller Delegate × Shared World Delegate
  | ⟨calls, .consulting numbered⟩, shared =>
    (⟨calls, .idle⟩, (Shared.consult parts numbered shared).2)
  | ⟨calls, .closing numbered⟩, shared => (⟨calls, .idle⟩, Shared.release parts numbered shared)
  | ⟨[], .idle⟩, shared => (⟨[], .idle⟩, shared)
  | ⟨.resolve :: calls, .idle⟩, shared =>
    match Shared.cell.obtain (Shared.choose parts.means) shared with
    | (.ok numbered, shared) => (⟨calls, .consulting numbered⟩, shared)
    | (_, shared) => (⟨calls, .idle⟩, shared)
  | ⟨.close :: calls, .idle⟩, shared =>
    match Shared.cell.takeOut shared with
    | (some numbered, shared) => (⟨calls, .closing numbered⟩, shared)
    | (none, shared) => (⟨calls, .idle⟩, shared)

structure System (Thread World Delegate : Type) where
  shared : Shared World Delegate
  callers : Thread → Caller Delegate

/-- In one tick either one thread makes a step or the world changes from outside. -/
inductive Tick (Thread World : Type) where
  | thread (thread : Thread)
  | outside (change : World → World)

namespace System

variable {Thread World Factory Delegate : Type}

/-- In the beginning nothing has been chosen and every thread has its calls before it. -/
def start (world : World) (calls : Thread → List Call) : System Thread World Delegate where
  shared := ⟨none, world, 0, []⟩
  callers thread := ⟨calls thread, .idle⟩

def tick [DecidableEq Thread] (parts : Parts World Factory Delegate)
    (system : System Thread World Delegate) : Tick Thread World → System Thread World Delegate
  | .thread thread =>
    let (caller, shared) := (system.callers thread).step parts system.shared
    { shared := shared, callers := Function.update system.callers thread caller }
  | .outside change =>
    { system with shared := { system.shared with world := change system.shared.world } }

def run [DecidableEq Thread] (parts : Parts World Factory Delegate)
    (ticks : List (Tick Thread World)) (system : System Thread World Delegate) :
    System Thread World Delegate :=
  ticks.foldl (tick parts) system

/-- All threads have made all of their calls. -/
def Finished (system : System Thread World Delegate) : Prop :=
  ∀ thread, system.callers thread = ⟨[], .idle⟩

def ledger (system : System Thread World Delegate) : Ledger Thread Delegate where
  memo := system.shared.memo
  chosenCount := system.shared.chosenCount
  history := system.shared.history
  activities thread := (system.callers thread).activity

end System

namespace Shared

variable {World Factory Delegate : Type} {shared : Shared World Delegate}

@[simp] theorem keep_some (numbered : Numbered Delegate) (shared : Shared World Delegate) :
    cell.keep (some numbered) shared = { shared with memo := some numbered } := by
  obtain ⟨memo, world, chosenCount, history⟩ := shared
  cases memo <;> rfl

theorem takeOut_of_held {numbered : Numbered Delegate} (held : shared.memo = some numbered) :
    cell.takeOut shared = (some numbered, { shared with memo := none }.mark (.took numbered)) := by
  simp only [Memo.takeOut, cell, held]

theorem takeOut_of_empty (empty : shared.memo = none) : cell.takeOut shared = (none, shared) := by
  obtain ⟨memo, world, chosenCount, history⟩ := shared
  cases empty
  rfl

/-- A choice does nothing to the memo and to its history but mark the loads. -/
theorem watched_choose_keeps (Keeps : Shared World Delegate → Prop)
    (means : Means World Factory Delegate)
    (loads : ∀ setting shared, Keeps shared → Keeps (shared.mark (.loaded setting)))
    (worlds : ∀ world shared, Keeps shared → Keeps { shared with world := world })
    (kept : Keeps shared) : Keeps ((watched means).choose shared).2 := by
  apply Means.choose_keeps _ _ _ _ _ kept
  · exact fun entry shared => worlds _ shared
  · exact fun setting shared kept => worlds _ _ (loads setting shared kept)
  · exact fun path shared => worlds _ shared
  · exact fun shared => worlds _ shared
  · exact fun factory roleArn roleSessionName token shared => worlds _ shared

def ledger {Thread : Type} (activities : Thread → Activity Delegate)
    (shared : Shared World Delegate) : Ledger Thread Delegate :=
  ⟨shared.memo, shared.chosenCount, shared.history, activities⟩

section Lock

variable {Thread : Type} [DecidableEq Thread]

/-- A choice from an empty memo leads through loads alone. -/
theorem watched_choose_reaches (means : Means World Factory Delegate)
    (empty : shared.memo = none) (activities : Thread → Activity Delegate) :
    ((watched means).choose shared).2.memo = none ∧
      (shared.ledger activities).Reaches (((watched means).choose shared).2.ledger activities) := by
  let Keeps (after : Shared World Delegate) : Prop :=
    after.memo = none ∧ (shared.ledger activities).Reaches (after.ledger activities)
  apply watched_choose_keeps Keeps means
  · rintro setting after ⟨stillEmpty, reached⟩
    exact ⟨stillEmpty, reached.tail (.load (after.ledger activities) setting stillEmpty)⟩
  · exact fun world after kept => kept
  · exact ⟨empty, .refl⟩

end Lock

/-- Under the lock a thread gets the delegate in the memo, or a new one, or nothing. -/
inductive Obtained (means : Means World Factory Delegate) (shared : Shared World Delegate) :
    Outcome ResolutionError (Numbered Delegate) × Shared World Delegate → Prop
  | found {numbered : Numbered Delegate} (held : shared.memo = some numbered) :
      Obtained means shared (.ok numbered, shared)
  | chosen {delegate : Delegate} {after : Shared World Delegate} (empty : shared.memo = none)
      (chose : (watched means).choose shared = (.ok delegate, after)) :
      Obtained means shared (.ok ⟨after.chosenCount, delegate⟩,
        { after with
          memo := some ⟨after.chosenCount, delegate⟩
          chosenCount := after.chosenCount + 1
          history := .chose ⟨after.chosenCount, delegate⟩ :: after.history })
  | failed {error : ResolutionError} {after : Shared World Delegate} (empty : shared.memo = none)
      (failed : (watched means).choose shared = (.error error, after)) :
      Obtained means shared (.error error, after)
  | panicked {text : String} {after : Shared World Delegate} (empty : shared.memo = none)
      (panicked : (watched means).choose shared = (.panic text, after)) :
      Obtained means shared (.panic text, after)

theorem obtained (means : Means World Factory Delegate) (shared : Shared World Delegate) :
    Obtained means shared (cell.obtain (choose means) shared) := by
  cases held : shared.memo with
  | some numbered =>
    rw [Memo.obtain_of_held (show cell.held shared = some numbered from held)]
    exact .found held
  | none =>
    rw [Memo.obtain_of_empty (show cell.held shared = none from held)]
    rcases chosen : (watched means).choose shared with ⟨delegate | error | text, after⟩
    · have numbered : choose means shared = (.ok ⟨after.chosenCount, delegate⟩,
          { after with chosenCount := after.chosenCount + 1 }.mark
            (.chose ⟨after.chosenCount, delegate⟩)) :=
        Action.bind_of_ok chosen
      rw [Action.bind_of_ok numbered]
      change Obtained means shared (.ok _, cell.keep (some _) _)
      rw [keep_some]
      exact .chosen held chosen
    · rw [Action.bind_of_error (show choose means shared = _ from Action.bind_of_error chosen)]
      exact .failed held chosen
    · rw [Action.bind_of_panic (show choose means shared = _ from Action.bind_of_panic chosen)]
      exact .panicked held chosen

/-- Under the lock nothing is taken out but by closing. -/
theorem Obtained.untaken {means : Means World Factory Delegate}
    {result : Outcome ResolutionError (Numbered Delegate) × Shared World Delegate}
    (obtained : Obtained means shared result)
    (untaken : ∀ numbered, .took numbered ∉ shared.history) :
    ∀ numbered, .took numbered ∉ result.2.history := by
  let Untaken (after : Shared World Delegate) : Prop := ∀ numbered, .took numbered ∉ after.history
  have kept : Untaken ((watched means).choose shared).2 := by
    apply watched_choose_keeps Untaken means _ (fun _ _ kept => kept) untaken
    intro setting after kept numbered listed
    rcases List.mem_cons.mp listed with new | old
    · cases new
    · exact kept numbered old
  cases obtained with
  | found held => exact untaken
  | chosen empty chose =>
    rw [chose] at kept
    intro numbered listed
    rcases List.mem_cons.mp listed with new | old
    · cases new
    · exact kept numbered old
  | failed empty failed =>
    rw [failed] at kept
    exact kept
  | panicked empty panicked =>
    rw [panicked] at kept
    exact kept

theorem ledger_release {Thread : Type} (parts : Parts World Factory Delegate)
    (numbered : Numbered Delegate) (shared : Shared World Delegate)
    (activities : Thread → Activity Delegate) :
    (release parts numbered shared).ledger activities =
      { shared.ledger activities with history := .closed numbered :: shared.history } := by
  simp only [release, close, discard]
  cases (parts.close numbered.delegate shared.world).1 <;> rfl

end Shared

namespace System

variable {Thread World Factory Delegate : Type} [DecidableEq Thread]
  {system : System Thread World Delegate}

theorem activities_update (callers : Thread → Caller Delegate) (thread : Thread)
    (caller : Caller Delegate) :
    (fun another => (Function.update callers thread caller another).activity) =
      Function.update (fun another => (callers another).activity) thread caller.activity := by
  funext another
  by_cases same : another = thread
  · rw [same, Function.update_self, Function.update_self]
  · rw [Function.update_of_ne same, Function.update_of_ne same]

/-- What a caller does in one step leads from one ledger to the next. -/
theorem step_reaches (parts : Parts World Factory Delegate) (shared : Shared World Delegate)
    (activities : Thread → Activity Delegate) (thread : Thread) {caller : Caller Delegate}
    (acting : activities thread = caller.activity) :
    (shared.ledger activities).Reaches ((caller.step parts shared).2.ledger
      (Function.update activities thread (caller.step parts shared).1.activity)) := by
  have still {activity : Activity Delegate} (same : activities thread = activity) :
      Function.update activities thread activity = activities := by
    rw [← same, Function.update_eq_self]
  obtain ⟨calls, activity⟩ := caller
  cases activity with
  | consulting numbered =>
    exact .single (.consult (shared.ledger activities) thread numbered acting)
  | closing numbered =>
    rw [Caller.step, Shared.ledger_release]
    exact .single (.close (shared.ledger activities) thread numbered acting)
  | idle =>
    match calls with
    | [] =>
      rw [Caller.step, still acting]
    | .close :: calls =>
      cases held : shared.memo with
      | none =>
        simp only [Caller.step, Shared.takeOut_of_empty held]
        rw [still acting]
      | some numbered =>
        simp only [Caller.step, Shared.takeOut_of_held held]
        exact .single (.take (shared.ledger activities) thread numbered acting held)
    | .resolve :: calls =>
      have obtained := Shared.obtained parts.means shared
      simp only [Caller.step]
      generalize Shared.cell.obtain (Shared.choose parts.means) shared = result at obtained ⊢
      cases obtained with
      | found held =>
        exact .single (.find (shared.ledger activities) thread _ acting held)
      | chosen empty chose =>
        obtain ⟨stillEmpty, reached⟩ :=
          Shared.watched_choose_reaches parts.means empty activities
        rw [chose] at stillEmpty reached
        exact reached.tail (.choose (Shared.ledger activities _) thread _ acting stillEmpty)
      | failed empty failed =>
        have reached := (Shared.watched_choose_reaches parts.means empty activities).2
        rw [failed] at reached
        rw [still acting]
        exact reached
      | panicked empty panicked =>
        have reached := (Shared.watched_choose_reaches parts.means empty activities).2
        rw [panicked] at reached
        rw [still acting]
        exact reached

/-- Every tick leads from one ledger to the next. -/
theorem tick_reaches (parts : Parts World Factory Delegate) (tick : Tick Thread World) :
    system.ledger.Reaches (system.tick parts tick).ledger := by
  cases tick with
  | outside change => exact .refl
  | thread thread =>
    have stepped := step_reaches parts system.shared
      (fun another => (system.callers another).activity) thread rfl
    rw [← activities_update] at stepped
    exact stepped

theorem run_reaches (parts : Parts World Factory Delegate) (ticks : List (Tick Thread World)) :
    system.ledger.Reaches (system.run parts ticks).ledger := by
  induction ticks generalizing system with
  | nil => exact .refl
  | cons tick rest inductionHypothesis =>
    exact (tick_reaches parts tick).trans inductionHypothesis

/-- Every run from the start keeps sound accounts. -/
theorem run_sound (parts : Parts World Factory Delegate) (ticks : List (Tick Thread World))
    (world : World) (calls : Thread → List Call) :
    ((start world calls).run parts ticks).ledger.Sound :=
  Ledger.reaches_sound (run_reaches parts ticks)
    (Ledger.sound_of_unused ⟨rfl, rfl, rfl, fun _ => rfl⟩)

/-- No thread closes, will close or has taken anything out. -/
structure Unclosed (system : System Thread World Delegate) : Prop where
  calls : ∀ thread, .close ∉ (system.callers thread).calls
  activities : ∀ thread numbered, (system.callers thread).activity ≠ .closing numbered
  untaken : ∀ numbered, .took numbered ∉ system.shared.history

/-- A caller without any call of close takes nothing out. -/
theorem step_unclosed (parts : Parts World Factory Delegate) {caller : Caller Delegate}
    {shared : Shared World Delegate} (calls : .close ∉ caller.calls)
    (activity : ∀ numbered, caller.activity ≠ .closing numbered)
    (untaken : ∀ numbered, .took numbered ∉ shared.history) :
    .close ∉ (caller.step parts shared).1.calls ∧
      (∀ numbered, (caller.step parts shared).1.activity ≠ .closing numbered) ∧
        ∀ numbered, .took numbered ∉ (caller.step parts shared).2.history := by
  have notClosing (numbered : Numbered Delegate) : Activity.idle ≠ .closing numbered := nofun
  obtain ⟨left, doing⟩ := caller
  cases doing with
  | closing numbered => exact absurd rfl (activity numbered)
  | consulting consulted =>
    refine ⟨calls, notClosing, ?_⟩
    intro numbered listed
    rcases List.mem_cons.mp listed with new | old
    · cases new
    · exact untaken numbered old
  | idle =>
    match left with
    | [] => exact ⟨calls, notClosing, untaken⟩
    | .close :: left => exact absurd List.mem_cons_self calls
    | .resolve :: left =>
      have calls' : .close ∉ left := fun listed => calls (List.mem_cons_of_mem _ listed)
      have untaken' := (Shared.obtained parts.means shared).untaken untaken
      simp only [Caller.step]
      generalize Shared.cell.obtain (Shared.choose parts.means) shared = result at untaken' ⊢
      obtain ⟨outcome, after⟩ := result
      cases outcome with
      | ok numbered => exact ⟨calls', nofun, untaken'⟩
      | error error => exact ⟨calls', notClosing, untaken'⟩
      | panic text => exact ⟨calls', notClosing, untaken'⟩

theorem tick_unclosed (parts : Parts World Factory Delegate) (tick : Tick Thread World)
    (unclosed : system.Unclosed) : (system.tick parts tick).Unclosed := by
  cases tick with
  | outside change => exact ⟨unclosed.calls, unclosed.activities, unclosed.untaken⟩
  | thread thread =>
    obtain ⟨calls, activity, untaken⟩ := step_unclosed parts (unclosed.calls thread)
      (unclosed.activities thread) unclosed.untaken
    refine ⟨?_, ?_, untaken⟩
    · intro another
      change .close ∉ (Function.update system.callers thread _ another).calls
      by_cases same : another = thread
      · rw [same, Function.update_self]
        exact calls
      · rw [Function.update_of_ne same]
        exact unclosed.calls another
    · intro another
      change ∀ numbered, (Function.update system.callers thread _ another).activity ≠ _
      by_cases same : another = thread
      · rw [same, Function.update_self]
        exact activity
      · rw [Function.update_of_ne same]
        exact unclosed.activities another

theorem run_unclosed (parts : Parts World Factory Delegate) (ticks : List (Tick Thread World))
    (unclosed : system.Unclosed) : (system.run parts ticks).Unclosed := by
  induction ticks generalizing system with
  | nil => exact unclosed
  | cons tick rest inductionHypothesis =>
    exact inductionHypothesis (tick_unclosed parts tick unclosed)

end System

namespace Shared

variable {World Factory Delegate : Type} (parts : Parts World Factory Delegate)
  {shared : Shared World Delegate}

theorem drop_of_empty (empty : shared.memo = none) : shared.drop parts = shared := by
  simp only [drop, Memo.release, takeOut_of_empty empty]

theorem history_release (numbered : Numbered Delegate) (shared : Shared World Delegate) :
    (release parts numbered shared).history = .closed numbered :: shared.history :=
  congrArg Ledger.history (ledger_release parts numbered shared fun _ : Unit => .idle)

/-- Dropping takes out what the memo holds and closes it. -/
theorem history_drop_of_held {numbered : Numbered Delegate} (held : shared.memo = some numbered) :
    (shared.drop parts).history = .closed numbered :: .took numbered :: shared.history := by
  simp only [drop, Memo.release, takeOut_of_held held]
  exact history_release parts numbered _

/-- When no thread has anything left to close, dropping completes the account of every chosen
delegate. -/
theorem closed_once_after_drop {Thread : Type} {activities : Thread → Activity Delegate}
    (sound : (shared.ledger activities).Sound) (idle : ∀ thread, activities thread = .idle)
    {numbered : Numbered Delegate} (chosen : .chose numbered ∈ shared.history) :
    (shared.drop parts).history.countP (Mark.closes numbered.serial) = 1 := by
  rcases sound.held_or_closed idle chosen with ⟨held, unclosed⟩ | ⟨unheld, once⟩
  · rw [history_drop_of_held parts held, List.countP_cons_of_pos (by simp [Mark.closes]),
      List.countP_cons_of_neg (by simp [Mark.closes])]
    exact congrArg Nat.succ unclosed
  · cases held : shared.memo with
    | none =>
      rw [drop_of_empty parts held]
      exact once
    | some other =>
      have different := unheld other held
      rw [history_drop_of_held parts held,
        List.countP_cons_of_neg (by simpa [Mark.closes] using different),
        List.countP_cons_of_neg (by simp [Mark.closes])]
      exact once

end Shared

namespace Caller

variable {World Factory Delegate : Type} (parts : Parts World Factory Delegate)
  (shared : Shared World Delegate)

/-- Resolving without an interruption resolves through the memo. -/
theorem step_twice_resolve :
    let once := Caller.step parts ⟨[.resolve], .idle⟩ shared
    once.1.step parts once.2 =
      (⟨[], .idle⟩,
        (Shared.cell.resolve (Shared.choose parts.means) (Shared.consult parts) shared).2) := by
  simp only [Caller.step, Memo.resolve]
  rcases obtained : Shared.cell.obtain (Shared.choose parts.means) shared with
    ⟨numbered | error | text, after⟩
  · rw [Action.bind_of_ok obtained]
  · rw [Action.bind_of_error obtained]
  · rw [Action.bind_of_panic obtained]

/-- Closing without an interruption does what dropping the provider does. -/
theorem step_twice_close :
    let once := Caller.step parts ⟨[.close], .idle⟩ shared
    once.1.step parts once.2 = (⟨[], .idle⟩, shared.drop parts) := by
  cases held : shared.memo with
  | none =>
    simp only [Caller.step, Shared.takeOut_of_empty held, Shared.drop_of_empty parts held]
  | some numbered =>
    simp only [Caller.step, Shared.drop, Memo.release, Shared.takeOut_of_held held]
    rfl

end Caller

/-- However the steps of any number of threads are mixed, the marks of one shared provider satisfy
the following. Where nothing is taken out of the memo, at most one choice succeeds, and nothing is
loaded after it. If no thread ever closes, all calls that reach a delegate reach the same one.
Choices have different serial numbers, only what was chosen is closed, and by its serial number
every delegate is closed at most once, and every chosen one exactly once when all threads have
finished and the provider has been dropped. -/
theorem System.shared_provider_accounts {Thread World Factory Delegate : Type} [DecidableEq Thread]
    (parts : Parts World Factory Delegate) (world : World) (calls : Thread → List Call)
    (ticks : List (Tick Thread World)) :
    let final := (System.start world calls : System Thread World Delegate).run parts ticks
    (∀ before interval after, final.shared.events = before ++ interval ++ after →
        (∀ taken, .took taken ∉ interval) →
          interval.countP Mark.isChoice ≤ 1 ∧
            ∀ first numbered last, interval = first ++ .chose numbered :: last →
              ∀ setting, .loaded setting ∉ last) ∧
      ((∀ thread, .close ∉ calls thread) →
        ∀ numbered other, .consulted numbered ∈ final.shared.events →
          .consulted other ∈ final.shared.events → numbered = other) ∧
      (final.shared.events.filterMap Mark.choiceSerial?).Nodup ∧
      (∀ numbered, .closed numbered ∈ final.shared.events → .chose numbered ∈ final.shared.events) ∧
      (∀ serial, final.shared.events.countP (Mark.closes serial) ≤ 1) ∧
      (final.Finished → ∀ numbered, .chose numbered ∈ final.shared.events →
        (final.shared.drop parts).events.countP (Mark.closes numbered.serial) = 1) := by
  intro final
  have sound : final.ledger.Sound := System.run_sound parts ticks world calls
  refine ⟨?_, ?_, ?_, ?_, ?_, ?_⟩
  · intro before interval after order untaken
    exact sound.orderly.one_choice order untaken
  · intro noClose numbered other consulted consulted'
    have unclosed : final.Unclosed :=
      System.run_unclosed parts ticks ⟨noClose, fun _ => nofun, fun _ => List.not_mem_nil⟩
    have chosen := sound.consulted numbered (List.mem_reverse.mp consulted)
    have chosen' := sound.consulted other (List.mem_reverse.mp consulted')
    have holds := sound.orderly.holding_of_untaken unclosed.untaken chosen
    have holds' := sound.orderly.holding_of_untaken unclosed.untaken chosen'
    rw [holds] at holds'
    exact Option.some.inj holds'
  · have serials : final.shared.history.filterMap Mark.choiceSerial? = _ := sound.serials
    rw [Shared.events, List.filterMap_reverse, serials, List.reverse_reverse]
    exact List.nodup_range
  · intro numbered closed
    rw [Shared.events, List.mem_reverse] at closed ⊢
    exact sound.closed numbered closed
  · intro serial
    rw [Shared.events, List.countP_reverse]
    exact sound.closed_at_most_once serial
  · intro finished numbered chosen
    have idle (thread : Thread) : (final.callers thread).activity = .idle :=
      congrArg Caller.activity (finished thread)
    rw [Shared.events, List.mem_reverse] at chosen
    rw [Shared.events, List.countP_reverse]
    exact Shared.closed_once_after_drop parts sound idle chosen

/-- While one thread still consults the first delegate, the other one takes it out and closes it. -/
theorem System.accounts_of_two_threads :
    let source : Source := .fixedVariables (.ofList [("AWS_ACCESS_KEY_ID", "id"),
      ("AWS_SECRET_ACCESS_KEY", "secret")])
    let parts := Parts.ofSettings source processWide 0
    let calls (first : Bool) := if first then [Call.resolve, .resolve] else [.resolve, .close]
    let ticks := [true, false, false, false, true, true, false, true].map Tick.thread
    let final := (System.start (Surroundings.initial (.ofUnix 0 0) ⟨[]⟩) calls).run parts ticks
    final.Finished ∧ final.shared.events.countP Mark.isChoice = 2 ∧
      ∀ numbered, .chose numbered ∈ final.shared.events →
        (final.shared.drop parts).events.countP (Mark.closes numbered.serial) = 1 := by
  intro source parts calls ticks final
  have finished : final.Finished := by
    intro thread
    cases thread <;> rfl
  obtain ⟨-, -, -, -, -, accounted⟩ := System.shared_provider_accounts parts
    (Surroundings.initial (.ofUnix 0 0) ⟨[]⟩) calls ticks
  have count : final.shared.events.countP Mark.isChoice = 2 := by decide +kernel
  exact ⟨finished, count, accounted finished⟩

end CredentialResolution
