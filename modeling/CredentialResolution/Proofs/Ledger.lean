/-
This file keeps account of the delegates of one memo that several threads share. Every chosen
delegate is in exactly one place: in the memo, with the one thread that closes it, or closed.
-/

import CredentialResolution.Provider.Single
import Mathlib.Logic.Function.Basic
import Mathlib.Logic.Relation

namespace CredentialResolution

/-- Marks tell what happened to a shared memo and to the delegates that were in there. -/
inductive Mark (Delegate : Type) where
  | loaded (setting : Setting)
  | chose (numbered : Numbered Delegate)
  | took (numbered : Numbered Delegate)
  | consulted (numbered : Numbered Delegate)
  | closed (numbered : Numbered Delegate)

namespace Mark

variable {Delegate : Type}

def isLoad : Mark Delegate → Bool
  | loaded _ => true
  | _ => false

def isChoice : Mark Delegate → Bool
  | chose _ => true
  | _ => false

def choiceSerial? : Mark Delegate → Option Nat
  | chose numbered => some numbered.serial
  | _ => none

def closes (serial : Nat) : Mark Delegate → Bool
  | closed numbered => numbered.serial == serial
  | _ => false

/-- The history has the newest mark first; the memo holds the last choice unless that was taken out.
-/
def holding : List (Mark Delegate) → Option (Numbered Delegate)
  | [] => none
  | chose numbered :: _ => some numbered
  | took _ :: _ => none
  | _ :: earlier => holding earlier

/-- Settings are loaded and choices are made only while the memo is empty. -/
def Orderly : List (Mark Delegate) → Prop
  | [] => True
  | mark :: earlier => (mark.isLoad ∨ mark.isChoice → holding earlier = none) ∧ Orderly earlier

end Mark

/-- Between two calls a thread is idle, or it still has to consult or to close the delegate it got.
-/
inductive Activity (Delegate : Type) where
  | idle
  | consulting (numbered : Numbered Delegate)
  | closing (numbered : Numbered Delegate)

/-- The next choice gets the count of the earlier ones as its serial number. -/
structure Ledger (Thread Delegate : Type) where
  memo : Option (Numbered Delegate)
  chosenCount : Nat
  history : List (Mark Delegate)
  activities : Thread → Activity Delegate

namespace Ledger

variable {Thread Delegate : Type}

/-- The ledger before any call. -/
def Unused (ledger : Ledger Thread Delegate) : Prop :=
  ledger.memo = none ∧ ledger.chosenCount = 0 ∧ ledger.history = [] ∧
    ∀ thread, ledger.activities thread = .idle

inductive Step [DecidableEq Thread] : Ledger Thread Delegate → Ledger Thread Delegate → Prop
  | load (ledger : Ledger Thread Delegate) (setting : Setting) (empty : ledger.memo = none) :
      Step ledger { ledger with history := .loaded setting :: ledger.history }
  | choose (ledger : Ledger Thread Delegate) (thread : Thread) (delegate : Delegate)
      (idle : ledger.activities thread = .idle) (empty : ledger.memo = none) :
      Step ledger
        { memo := some ⟨ledger.chosenCount, delegate⟩
          chosenCount := ledger.chosenCount + 1
          history := .chose ⟨ledger.chosenCount, delegate⟩ :: ledger.history
          activities := Function.update ledger.activities thread
            (.consulting ⟨ledger.chosenCount, delegate⟩) }
  | find (ledger : Ledger Thread Delegate) (thread : Thread) (numbered : Numbered Delegate)
      (idle : ledger.activities thread = .idle) (held : ledger.memo = some numbered) :
      Step ledger
        { ledger with
          activities := Function.update ledger.activities thread (.consulting numbered) }
  | consult (ledger : Ledger Thread Delegate) (thread : Thread) (numbered : Numbered Delegate)
      (consulting : ledger.activities thread = .consulting numbered) :
      Step ledger
        { ledger with
          history := .consulted numbered :: ledger.history
          activities := Function.update ledger.activities thread .idle }
  | take (ledger : Ledger Thread Delegate) (thread : Thread) (numbered : Numbered Delegate)
      (idle : ledger.activities thread = .idle) (held : ledger.memo = some numbered) :
      Step ledger
        { ledger with
          memo := none
          history := .took numbered :: ledger.history
          activities := Function.update ledger.activities thread (.closing numbered) }
  | close (ledger : Ledger Thread Delegate) (thread : Thread) (numbered : Numbered Delegate)
      (closing : ledger.activities thread = .closing numbered) :
      Step ledger
        { ledger with
          history := .closed numbered :: ledger.history
          activities := Function.update ledger.activities thread .idle }

/-- A ledger leads to another one by any number of steps. -/
abbrev Reaches [DecidableEq Thread] : Ledger Thread Delegate → Ledger Thread Delegate → Prop :=
  Relation.ReflTransGen Step

def timesClosed (ledger : Ledger Thread Delegate) (serial : Nat) : Nat :=
  ledger.history.countP (Mark.closes serial)

/-- A chosen delegate is in exactly one of three places. -/
inductive Accounted (ledger : Ledger Thread Delegate) (numbered : Numbered Delegate) : Prop
  | kept (held : ledger.memo = some numbered)
      (untaken : ∀ thread other, ledger.activities thread = .closing other →
        other.serial ≠ numbered.serial)
      (unclosed : ledger.timesClosed numbered.serial = 0)
  | taken (thread : Thread) (closing : ledger.activities thread = .closing numbered)
      (alone : ∀ another other, ledger.activities another = .closing other →
        other.serial = numbered.serial → another = thread)
      (unheld : ∀ other, ledger.memo = some other → other.serial ≠ numbered.serial)
      (unclosed : ledger.timesClosed numbered.serial = 0)
  | closed (untaken : ∀ thread other, ledger.activities thread = .closing other →
        other.serial ≠ numbered.serial)
      (unheld : ∀ other, ledger.memo = some other → other.serial ≠ numbered.serial)
      (once : ledger.timesClosed numbered.serial = 1)

/-- Whatever is held, consulted, taken or closed has been chosen, and every chosen delegate is
accounted for. -/
structure Sound (ledger : Ledger Thread Delegate) : Prop where
  holding : ledger.memo = Mark.holding ledger.history
  orderly : Mark.Orderly ledger.history
  serials : ledger.history.filterMap Mark.choiceSerial? = (List.range ledger.chosenCount).reverse
  distinct : ∀ numbered other, .chose numbered ∈ ledger.history → .chose other ∈ ledger.history →
    numbered.serial = other.serial → numbered = other
  held : ∀ numbered, ledger.memo = some numbered → .chose numbered ∈ ledger.history
  consulting : ∀ thread numbered, ledger.activities thread = .consulting numbered →
    .chose numbered ∈ ledger.history
  closing : ∀ thread numbered, ledger.activities thread = .closing numbered →
    .chose numbered ∈ ledger.history
  consulted : ∀ numbered, .consulted numbered ∈ ledger.history → .chose numbered ∈ ledger.history
  closed : ∀ numbered, .closed numbered ∈ ledger.history → .chose numbered ∈ ledger.history
  accounted : ∀ numbered, .chose numbered ∈ ledger.history → ledger.Accounted numbered

theorem sound_of_unused {ledger : Ledger Thread Delegate} (unused : ledger.Unused) :
    ledger.Sound := by
  obtain ⟨empty, zero, fresh, idle⟩ := unused
  constructor <;> simp [empty, zero, fresh, idle, Mark.holding, Mark.Orderly]

/-- The next choice has a serial number of its own. -/
theorem Sound.serial_lt {ledger : Ledger Thread Delegate} (sound : ledger.Sound)
    {numbered : Numbered Delegate} (chosen : .chose numbered ∈ ledger.history) :
    numbered.serial < ledger.chosenCount := by
  have listed : numbered.serial ∈ ledger.history.filterMap Mark.choiceSerial? :=
    List.mem_filterMap.mpr ⟨.chose numbered, chosen, rfl⟩
  rw [sound.serials] at listed
  exact List.mem_range.mp (List.mem_reverse.mp listed)

section Places

variable {ledger ledger' : Ledger Thread Delegate} {numbered : Numbered Delegate}

/-- A delegate stays where it is if the memo, the closing threads and the closed delegates do. -/
theorem Accounted.transport (accounted : ledger.Accounted numbered)
    (memo : ledger'.memo = ledger.memo)
    (closing : ∀ thread other,
      ledger'.activities thread = .closing other ↔ ledger.activities thread = .closing other)
    (times : ledger'.timesClosed numbered.serial = ledger.timesClosed numbered.serial) :
    ledger'.Accounted numbered := by
  cases accounted with
  | kept held untaken unclosed =>
    refine .kept (memo.trans held) ?_ (times.trans unclosed)
    intro thread other closes
    exact untaken thread other ((closing thread other).mp closes)
  | taken thread closes alone unheld unclosed =>
    refine .taken thread ((closing thread numbered).mpr closes) ?_ ?_ (times.trans unclosed)
    · intro another other closes
      exact alone another other ((closing another other).mp closes)
    · rw [memo]
      exact unheld
  | closed untaken unheld once =>
    refine .closed ?_ ?_ (times.trans once)
    · intro thread other closes
      exact untaken thread other ((closing thread other).mp closes)
    · rw [memo]
      exact unheld

theorem Sound.timesClosed_of_unchosen (sound : ledger.Sound) {serial : Nat}
    (unchosen : ∀ other, .chose other ∈ ledger.history → other.serial ≠ serial) :
    ledger.timesClosed serial = 0 := by
  rw [timesClosed, List.countP_eq_zero]
  intro mark marked closes
  cases mark with
  | closed other =>
    have same : other.serial = serial := by simpa [Mark.closes] using closes
    exact unchosen other (sound.closed other marked) same
  | loaded | chose | took | consulted => cases closes

variable [DecidableEq Thread]

/-- A thread that is not closing and does not begin to close leaves the closing threads alone. -/
theorem closing_update_iff {activities : Thread → Activity Delegate} {thread : Thread}
    {activity : Activity Delegate} (before : ∀ other, activities thread ≠ .closing other)
    (after : ∀ other, activity ≠ .closing other) (another : Thread) (other : Numbered Delegate) :
    Function.update activities thread activity another = .closing other ↔
      activities another = .closing other := by
  by_cases same : another = thread
  · rw [same, Function.update_self]
    exact ⟨fun closes => absurd closes (after other), fun closes => absurd closes (before other)⟩
  · rw [Function.update_of_ne same]

end Places

section Steps

variable [DecidableEq Thread] {ledger ledger' : Ledger Thread Delegate}

/-- Only choosing and taking out change what the memo holds, and they are marked. -/
theorem step_holding (step : Step ledger ledger') (sound : ledger.Sound) :
    ledger'.memo = Mark.holding ledger'.history := by
  have holding := sound.holding
  cases step with
  | load setting empty => exact holding
  | choose thread delegate idle empty => rfl
  | find thread numbered idle held => exact holding
  | consult thread numbered consulting => exact holding
  | take thread numbered idle held => rfl
  | close thread numbered closing => exact holding

theorem step_orderly (step : Step ledger ledger') (sound : ledger.Sound) :
    Mark.Orderly ledger'.history := by
  have holding := sound.holding
  have orderly := sound.orderly
  cases step <;> grind [Mark.Orderly, Mark.isLoad, Mark.isChoice]

/-- Choices are numbered from zero on. -/
theorem step_serials (step : Step ledger ledger') (sound : ledger.Sound) :
    ledger'.history.filterMap Mark.choiceSerial? = (List.range ledger'.chosenCount).reverse := by
  have serials := sound.serials
  cases step with
  | load setting empty => exact serials
  | choose thread delegate idle empty =>
    rw [List.range_succ, List.reverse_append, ← serials]
    rfl
  | find thread numbered idle held => exact serials
  | consult thread numbered consulting => exact serials
  | take thread numbered idle held => exact serials
  | close thread numbered closing => exact serials

/-- A new choice gets a serial number that no earlier one has. -/
theorem step_distinct (step : Step ledger ledger') (sound : ledger.Sound) :
    ∀ numbered other, .chose numbered ∈ ledger'.history → .chose other ∈ ledger'.history →
      numbered.serial = other.serial → numbered = other := by
  have bounded := @sound.serial_lt
  have distinct := sound.distinct
  cases step <;> grind

/-- Threads get only what the memo holds, which has been chosen. -/
theorem step_activities (step : Step ledger ledger') (sound : ledger.Sound) :
    ∀ thread numbered, ledger'.activities thread = .consulting numbered ∨
      ledger'.activities thread = .closing numbered → .chose numbered ∈ ledger'.history := by
  have held := sound.held
  have consulting := sound.consulting
  have closing := sound.closing
  cases step <;> grind [Function.update_apply]

/-- The new delegate is in the memo, and the others stay where they are. -/
theorem choose_accounted (sound : ledger.Sound) {thread : Thread} {delegate : Delegate}
    (idle : ledger.activities thread = .idle) (empty : ledger.memo = none)
    {after : Ledger Thread Delegate} {numbered : Numbered Delegate}
    (chosen : .chose numbered ∈ after.history)
    (memo : after.memo = some ⟨ledger.chosenCount, delegate⟩)
    (history : after.history = .chose ⟨ledger.chosenCount, delegate⟩ :: ledger.history)
    (activities : after.activities = Function.update ledger.activities thread
      (.consulting ⟨ledger.chosenCount, delegate⟩)) :
    after.Accounted numbered := by
  have closing (another : Thread) (other : Numbered Delegate) :
      after.activities another = .closing other ↔ ledger.activities another = .closing other := by
    rw [activities]
    exact closing_update_iff (by simp [idle]) (by simp) another other
  have times (numbered : Numbered Delegate) :
      after.timesClosed numbered.serial = ledger.timesClosed numbered.serial := by
    simp [timesClosed, history, Mark.closes]
  have smaller (other : Numbered Delegate) (before : .chose other ∈ ledger.history) :
      other.serial ≠ ledger.chosenCount :=
    Nat.ne_of_lt (sound.serial_lt before)
  rw [history] at chosen
  rcases List.mem_cons.mp chosen with new | before
  · cases new
    refine .kept memo ?_ ?_
    · intro another other closes
      exact smaller other (sound.closing another other ((closing another other).mp closes))
    · rw [times]
      exact sound.timesClosed_of_unchosen smaller
  · have unheld (other : Numbered Delegate) (held : after.memo = some other) :
        other.serial ≠ numbered.serial := by
      rw [memo] at held
      cases held
      exact (smaller numbered before).symm
    cases sound.accounted numbered before with
    | kept held untaken unclosed =>
      rw [empty] at held
      cases held
    | taken taker closes alone _ unclosed =>
      refine .taken taker ((closing taker numbered).mpr closes) ?_ unheld ((times _).trans unclosed)
      intro another other closes
      exact alone another other ((closing another other).mp closes)
    | closed untaken _ once =>
      refine .closed ?_ unheld ((times _).trans once)
      intro another other closes
      exact untaken another other ((closing another other).mp closes)

/-- What was in the memo goes to the thread that takes it out. -/
theorem take_accounted (sound : ledger.Sound) {thread : Thread} {taken : Numbered Delegate}
    (idle : ledger.activities thread = .idle) (held : ledger.memo = some taken)
    {after : Ledger Thread Delegate} {numbered : Numbered Delegate}
    (chosen : .chose numbered ∈ after.history) (memo : after.memo = none)
    (history : after.history = .took taken :: ledger.history)
    (activities : after.activities = Function.update ledger.activities thread (.closing taken)) :
    after.Accounted numbered := by
  have times : after.timesClosed numbered.serial = ledger.timesClosed numbered.serial := by
    simp [timesClosed, history, Mark.closes]
  have unheld (other : Numbered Delegate) (nothing : after.memo = some other) :
      other.serial ≠ numbered.serial := by
    rw [memo] at nothing
    cases nothing
  have before : .chose numbered ∈ ledger.history := by
    rw [history] at chosen
    simpa using chosen
  have itself : after.activities thread = .closing taken := by
    rw [activities, Function.update_self]
  have others {another : Thread} (different : another ≠ thread) :
      after.activities another = ledger.activities another := by
    rw [activities, Function.update_of_ne different]
  by_cases same : numbered.serial = taken.serial
  · have equal := sound.distinct numbered taken before (sound.held taken held) same
    cases sound.accounted numbered before with
    | kept _ untaken unclosed =>
      refine .taken thread (equal ▸ itself) ?_ unheld (times.trans unclosed)
      intro another other closes sameSerial
      by_contra different
      rw [others different] at closes
      exact untaken another other closes sameSerial
    | taken _ _ _ notHeld _ => exact absurd same.symm (notHeld taken held)
    | closed _ notHeld _ => exact absurd same.symm (notHeld taken held)
  · cases sound.accounted numbered before with
    | kept held' _ _ =>
      rw [held] at held'
      cases held'
      exact absurd rfl same
    | taken taker closes alone _ unclosed =>
      have different : taker ≠ thread := by
        rintro rfl
        rw [idle] at closes
        cases closes
      refine .taken taker ((others different).trans closes) ?_ unheld (times.trans unclosed)
      intro another other closes sameSerial
      by_cases here : another = thread
      · rw [here, itself] at closes
        cases closes
        exact absurd sameSerial.symm same
      · rw [others here] at closes
        exact alone another other closes sameSerial
    | closed untaken _ once =>
      refine .closed ?_ unheld (times.trans once)
      intro another other closes
      by_cases here : another = thread
      · rw [here, itself] at closes
        cases closes
        exact fun sameSerial => same sameSerial.symm
      · rw [others here] at closes
        exact untaken another other closes

/-- The thread that took a delegate out closes it, and nobody else does. -/
theorem close_accounted (sound : ledger.Sound) {thread : Thread} {closed : Numbered Delegate}
    (closing : ledger.activities thread = .closing closed) {after : Ledger Thread Delegate}
    {numbered : Numbered Delegate} (chosen : .chose numbered ∈ after.history)
    (memo : after.memo = ledger.memo) (history : after.history = .closed closed :: ledger.history)
    (activities : after.activities = Function.update ledger.activities thread .idle) :
    after.Accounted numbered := by
  have before : .chose numbered ∈ ledger.history := by
    rw [history] at chosen
    simpa using chosen
  have closers {another : Thread} {other : Numbered Delegate}
      (closes : after.activities another = .closing other) :
      another ≠ thread ∧ ledger.activities another = .closing other := by
    by_cases here : another = thread
    · rw [here, activities, Function.update_self] at closes
      cases closes
    · rw [activities, Function.update_of_ne here] at closes
      exact ⟨here, closes⟩
  by_cases same : numbered.serial = closed.serial
  · cases sound.accounted numbered before with
    | kept _ untaken _ => exact absurd same.symm (untaken thread closed closing)
    | taken taker _ alone unheld unclosed =>
      refine .closed ?_ (memo ▸ unheld) ?_
      · intro another other closes sameSerial
        obtain ⟨different, closes⟩ := closers closes
        have atTaker := alone another other closes sameSerial
        have hereTaker := alone thread closed closing same.symm
        exact different (atTaker.trans hereTaker.symm)
      · rw [timesClosed, history, List.countP_cons_of_pos (by simp [Mark.closes, same])]
        exact congrArg Nat.succ unclosed
    | closed untaken _ _ => exact absurd same.symm (untaken thread closed closing)
  · have times : after.timesClosed numbered.serial = ledger.timesClosed numbered.serial := by
      simp [timesClosed, history, Mark.closes, Ne.symm same]
    cases sound.accounted numbered before with
    | kept held untaken unclosed =>
      refine .kept (memo.trans held) ?_ (times.trans unclosed)
      intro another other closes
      exact untaken another other (closers closes).2
    | taken taker closes alone unheld unclosed =>
      have different : taker ≠ thread := by
        rintro rfl
        rw [closing] at closes
        cases closes
        exact same rfl
      have still : after.activities taker = .closing numbered := by
        rw [activities, Function.update_of_ne different]
        exact closes
      refine .taken taker still ?_ (memo ▸ unheld) (times.trans unclosed)
      intro another other closes
      exact alone another other (closers closes).2
    | closed untaken unheld once =>
      refine .closed ?_ (memo ▸ unheld) (times.trans once)
      intro another other closes
      exact untaken another other (closers closes).2

/-- Each step moves at most one delegate from one place to the next. -/
theorem step_accounted (step : Step ledger ledger') (sound : ledger.Sound) :
    ∀ numbered, .chose numbered ∈ ledger'.history → ledger'.Accounted numbered := by
  intro numbered chosen
  cases step with
  | load setting empty =>
    have before : .chose numbered ∈ ledger.history := by simpa using chosen
    refine (sound.accounted numbered before).transport rfl (fun _ _ => Iff.rfl) ?_
    simp [timesClosed, Mark.closes]
  | choose thread delegate idle empty =>
    exact choose_accounted sound idle empty chosen rfl rfl rfl
  | find thread found idle held =>
    exact (sound.accounted numbered chosen).transport rfl
      (closing_update_iff (by simp [idle]) (by simp)) rfl
  | consult thread consulted consulting =>
    have before : .chose numbered ∈ ledger.history := by simpa using chosen
    refine (sound.accounted numbered before).transport rfl
      (closing_update_iff (by simp [consulting]) (by simp)) ?_
    simp [timesClosed, Mark.closes]
  | take thread taken idle held => exact take_accounted sound idle held chosen rfl rfl rfl
  | close thread closed closing => exact close_accounted sound closing chosen rfl rfl rfl

theorem step_sound (step : Step ledger ledger') (sound : ledger.Sound) : ledger'.Sound where
  holding := step_holding step sound
  orderly := step_orderly step sound
  serials := step_serials step sound
  distinct := step_distinct step sound
  held := by
    have held := sound.held
    cases step <;> grind
  consulting thread numbered consulting :=
    step_activities step sound thread numbered (.inl consulting)
  closing thread numbered closing := step_activities step sound thread numbered (.inr closing)
  consulted := by
    have consulted := sound.consulted
    have consulting := sound.consulting
    cases step <;> grind
  closed := by
    have closed := sound.closed
    have closing := sound.closing
    cases step <;> grind
  accounted := step_accounted step sound

/-- Every ledger that any number of steps lead to is sound. -/
theorem reaches_sound (reaches : Reaches ledger ledger') (sound : ledger.Sound) :
    ledger'.Sound := by
  induction reaches with
  | refl => exact sound
  | tail _ step inductionHypothesis => exact step_sound step inductionHypothesis

end Steps

section Results

variable {ledger : Ledger Thread Delegate}

theorem Sound.closed_at_most_once (sound : ledger.Sound) (serial : Nat) :
    ledger.timesClosed serial ≤ 1 := by
  by_cases chosen : ∃ numbered, .chose numbered ∈ ledger.history ∧ numbered.serial = serial
  · obtain ⟨numbered, chosen, rfl⟩ := chosen
    cases sound.accounted numbered chosen with
    | kept _ _ unclosed | taken _ _ _ _ unclosed =>
      rw [unclosed]
      exact Nat.zero_le 1
    | closed _ _ once => exact Nat.le_of_eq once
  · rw [sound.timesClosed_of_unchosen fun other before same => chosen ⟨other, before, same⟩]
    exact Nat.zero_le 1

/-- When no thread is closing, a chosen delegate is in the memo or has been closed. -/
theorem Sound.held_or_closed (sound : ledger.Sound)
    (idle : ∀ thread, ledger.activities thread = .idle) {numbered : Numbered Delegate}
    (chosen : .chose numbered ∈ ledger.history) :
    ledger.memo = some numbered ∧ ledger.timesClosed numbered.serial = 0 ∨
      (∀ other, ledger.memo = some other → other.serial ≠ numbered.serial) ∧
        ledger.timesClosed numbered.serial = 1 := by
  cases sound.accounted numbered chosen with
  | kept held _ unclosed => exact .inl ⟨held, unclosed⟩
  | taken thread closes _ _ _ =>
    rw [idle thread] at closes
    cases closes
  | closed _ unheld once => exact .inr ⟨unheld, once⟩

end Results

end Ledger

namespace Mark

variable {Delegate : Type}

theorem Orderly.suffix {later earlier : List (Mark Delegate)}
    (orderly : Orderly (later ++ earlier)) : Orderly earlier := by
  induction later with
  | nil => exact orderly
  | cons mark rest inductionHypothesis => exact inductionHypothesis orderly.2

/-- The memo stays filled from a choice until something is taken out. -/
theorem holding_of_chose {numbered : Numbered Delegate} {later : List (Mark Delegate)}
    (untaken : ∀ taken, .took taken ∉ later) (earlier : List (Mark Delegate)) :
    holding (later ++ .chose numbered :: earlier) ≠ none := by
  induction later with
  | nil => exact Option.some_ne_none numbered
  | cons mark rest inductionHypothesis =>
    have rested := inductionHypothesis fun taken listed =>
      untaken taken (List.mem_cons_of_mem mark listed)
    cases mark with
    | loaded setting => exact rested
    | chose other => exact Option.some_ne_none other
    | took taken => exact absurd List.mem_cons_self (untaken taken)
    | consulted other => exact rested
    | closed other => exact rested

/-- After a choice nothing is loaded and nothing is chosen until something is taken out. -/
theorem Orderly.quiet_after_chose {history before after last : List (Mark Delegate)}
    {numbered : Numbered Delegate} (orderly : Orderly history)
    (order : history.reverse = before ++ .chose numbered :: (last ++ after))
    (untaken : ∀ taken, .took taken ∉ last) {mark : Mark Delegate} (listed : mark ∈ last) :
    ¬ (mark.isLoad ∨ mark.isChoice) := by
  obtain ⟨between, rest, rfl⟩ := List.append_of_mem listed
  have reversed : history = after.reverse ++ rest.reverse ++
      mark :: (between.reverse ++ .chose numbered :: before.reverse) := by
    rw [← List.reverse_reverse history, order]
    simp
  rw [reversed] at orderly
  intro choosing
  have empty := orderly.suffix.1 choosing
  refine holding_of_chose ?_ before.reverse empty
  intro taken inside
  exact untaken taken (List.mem_append_left _ (List.mem_reverse.mp inside))

theorem countP_isChoice_le_one {interval : List (Mark Delegate)}
    (alone : ∀ first numbered last, interval = first ++ .chose numbered :: last →
      ∀ mark ∈ last, mark.isChoice = false) : interval.countP isChoice ≤ 1 := by
  induction interval with
  | nil => exact Nat.zero_le 1
  | cons mark rest inductionHypothesis =>
    by_cases choice : mark.isChoice
    · cases mark with
      | chose numbered =>
        have noMore : rest.countP isChoice = 0 := by
          rw [List.countP_eq_zero]
          intro other listed
          rw [alone [] numbered rest rfl other listed]
          exact Bool.false_ne_true
        refine Nat.le_of_eq ?_
        rw [List.countP_cons_of_pos choice, noMore]
      | loaded | took | consulted | closed => cases choice
    · rw [List.countP_cons_of_neg choice]
      apply inductionHypothesis
      rintro first numbered last rfl
      exact alone (mark :: first) numbered last rfl

/-- Where nothing is taken out, at most one choice is made, and nothing is loaded after it. -/
theorem Orderly.one_choice {history before interval after : List (Mark Delegate)}
    (orderly : Orderly history) (order : history.reverse = before ++ interval ++ after)
    (untaken : ∀ taken, .took taken ∉ interval) :
    interval.countP isChoice ≤ 1 ∧
      ∀ first numbered last, interval = first ++ .chose numbered :: last →
        ∀ setting, .loaded setting ∉ last := by
  have quiet (first : List (Mark Delegate)) (numbered : Numbered Delegate)
      (last : List (Mark Delegate)) (split : interval = first ++ .chose numbered :: last)
      (mark : Mark Delegate) (listed : mark ∈ last) : ¬ (mark.isLoad ∨ mark.isChoice) := by
    rw [split] at order untaken
    have order' : history.reverse = (before ++ first) ++ .chose numbered :: (last ++ after) := by
      rw [order]
      simp
    refine orderly.quiet_after_chose order' ?_ listed
    intro taken inside
    exact untaken taken (List.mem_append_right _ (List.mem_cons_of_mem _ inside))
  constructor
  · apply countP_isChoice_le_one
    intro first numbered last split mark listed
    have no := quiet first numbered last split mark listed
    simpa using fun choice => no (.inr choice)
  · intro first numbered last split setting listed
    exact quiet first numbered last split (.loaded setting) listed (.inl rfl)

/-- A memo from which nothing was ever taken out still holds what was chosen. -/
theorem Orderly.holding_of_untaken {history : List (Mark Delegate)} (orderly : Orderly history)
    (untaken : ∀ taken, .took taken ∉ history) {numbered : Numbered Delegate}
    (chosen : .chose numbered ∈ history) : holding history = some numbered := by
  induction history with
  | nil => cases chosen
  | cons mark rest inductionHypothesis =>
    have untaken' : ∀ taken, .took taken ∉ rest := fun taken listed =>
      untaken taken (List.mem_cons_of_mem mark listed)
    have rested := inductionHypothesis orderly.2 untaken'
    cases mark with
    | chose other =>
      rcases List.mem_cons.mp chosen with same | earlier
      · cases same
        rfl
      · have empty := orderly.1 (.inr rfl)
        rw [rested earlier] at empty
        cases empty
    | took taken => exact absurd List.mem_cons_self (untaken taken)
    | loaded | consulted | closed =>
      apply rested
      simpa using chosen

end Mark

end CredentialResolution
