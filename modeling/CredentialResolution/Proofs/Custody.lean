/-
This file takes custody of the delegates that a provider over settings chooses, and of those that
are chosen inside of them at any depth. Each of them is released exactly once, by the first close
after its choice.
-/

import CredentialResolution.Proofs.Lifecycle
import CredentialResolution.Proofs.Thorough

namespace CredentialResolution

open Surroundings

namespace Surroundings

section Lives

variable {start surroundings later : Surroundings} {serial : Nat}

/-- Since the start the delegate was chosen and then only consulted. -/
def Alive (start : Surroundings) (serial : Nat) (surroundings : Surroundings) : Prop :=
  ∃ calls, surroundings.life serial =
    start.life serial ++ (.chosen serial :: List.replicate calls (.consulted serial))

/-- Since the start the delegate was chosen, then consulted and in the end released once. -/
def Lived (start : Surroundings) (serial : Nat) (surroundings : Surroundings) : Prop :=
  ∃ calls, surroundings.life serial = start.life serial ++
    (.chosen serial :: (List.replicate calls (.consulted serial) ++ [.released serial]))

theorem Alive.congr (alive : Alive start serial surroundings)
    (same : later.life serial = surroundings.life serial) : Alive start serial later := by
  obtain ⟨calls, life⟩ := alive
  exact ⟨calls, same.trans life⟩

theorem Lived.congr (lived : Lived start serial surroundings)
    (same : later.life serial = surroundings.life serial) : Lived start serial later := by
  obtain ⟨calls, life⟩ := lived
  exact ⟨calls, same.trans life⟩

theorem alive_of_chosen (unborn : surroundings.life serial = start.life serial) :
    Alive start serial (surroundings.record (.chosen serial)) := by
  refine ⟨0, ?_⟩
  rw [life_record_of_eq rfl, unborn]
  rfl

theorem Alive.consult (alive : Alive start serial surroundings) :
    Alive start serial (surroundings.record (.consulted serial)) := by
  obtain ⟨calls, life⟩ := alive
  refine ⟨calls + 1, ?_⟩
  rw [life_record_of_eq rfl, life, List.append_assoc, List.cons_append, List.replicate_succ']

theorem Alive.release (alive : Alive start serial surroundings) :
    Lived start serial (surroundings.record (.released serial)) := by
  obtain ⟨calls, life⟩ := alive
  refine ⟨calls, ?_⟩
  rw [life_record_of_eq rfl, life, List.append_assoc, List.cons_append]

end Lives

/-- The memo at the position, or one that was added since the start, holds the delegate. -/
structure Holds (start : Surroundings) (position own : Nat) (numbered : Numbered Provider)
    (surroundings : Surroundings) : Prop where
  since : own = position ∨ start.memos.count ≤ own
  held : (memo own).held surroundings = some numbered

/-- The delegates that were chosen since the start are alive as long as a memo holds them, and have
lived otherwise. They use only later memos, and nobody else's life goes on. -/
structure Custody (start : Surroundings) (position : Nat) (surroundings : Surroundings) : Prop where
  grown : start.memos.count ≤ surroundings.memos.count
  counted : start.chosenCount ≤ surroundings.chosenCount
  unshared : surroundings.Registers fun _ => False
  serials : ∀ own numbered, Holds start position own numbered surroundings →
    start.chosenCount ≤ numbered.serial ∧ numbered.serial < surroundings.chosenCount
  deeper : ∀ own numbered, Holds start position own numbered surroundings →
    ∀ inner, numbered.delegate.Uses inner →
      own < inner ∧ start.memos.count ≤ inner ∧ inner < surroundings.memos.count
  single : ∀ own other numbered numbered', Holds start position own numbered surroundings →
    Holds start position other numbered' surroundings → numbered.serial = numbered'.serial →
      own = other
  alive : ∀ own numbered, Holds start position own numbered surroundings →
    Alive start numbered.serial surroundings
  lived : ∀ serial, start.chosenCount ≤ serial → serial < surroundings.chosenCount →
    (∀ own numbered, Holds start position own numbered surroundings → numbered.serial ≠ serial) →
      Lived start serial surroundings
  strangers : ∀ serial, serial < start.chosenCount ∨ surroundings.chosenCount ≤ serial →
    surroundings.life serial = start.life serial

section Steps

variable {start surroundings later : Surroundings} {position own : Nat}
  {numbered : Numbered Provider}

theorem holds_of_same (same : ∀ own, (memo own).held later = (memo own).held surroundings)
    (holds : Holds start position own numbered later) :
    Holds start position own numbered surroundings :=
  ⟨holds.since, (same own).symm.trans holds.held⟩

/-- In the beginning nothing is held. -/
theorem not_holds_start (empty : (memo position).held start = none) (own : Nat)
    (numbered : Numbered Provider) : ¬ Holds start position own numbered start := by
  intro holds
  have present := present_of_held holds.held
  rcases holds.since with rfl | late
  · cases empty.symm.trans holds.held
  · omega

theorem custody_of_start (empty : (memo position).held start = none)
    (unshared : start.Registers fun _ => False) : Custody start position start where
  grown := Nat.le_refl _
  counted := Nat.le_refl _
  unshared := unshared
  serials own numbered holds := absurd holds (not_holds_start empty own numbered)
  deeper own numbered holds := absurd holds (not_holds_start empty own numbered)
  single own _ numbered _ holds := absurd holds (not_holds_start empty own numbered)
  alive own numbered holds := absurd holds (not_holds_start empty own numbered)
  lived _ late early := absurd early (Nat.not_lt.mpr late)
  strangers _ _ := rfl

theorem Custody.calm (custody : Custody start position surroundings)
    (calm : surroundings.Calm later) : Custody start position later where
  grown := Nat.le_trans custody.grown calm.count
  counted := calm.chosenCount.symm ▸ custody.counted
  unshared := calm.unshared custody.unshared
  serials own numbered holds := by
    rw [calm.chosenCount]
    exact custody.serials own numbered (holds_of_same calm.held holds)
  deeper own numbered holds inner uses := by
    have known := custody.deeper own numbered (holds_of_same calm.held holds) inner uses
    have grown := calm.count
    omega
  single own other numbered numbered' holds holds' :=
    custody.single own other numbered numbered' (holds_of_same calm.held holds)
      (holds_of_same calm.held holds')
  alive own numbered holds :=
    (custody.alive own numbered (holds_of_same calm.held holds)).congr (calm.life _)
  lived serial late early unheld := by
    rw [calm.chosenCount] at early
    refine (custody.lived serial late early ?_).congr (calm.life _)
    intro own numbered holds
    exact unheld own numbered ⟨holds.since, (calm.held own).trans holds.held⟩
  strangers serial outside := by
    rw [calm.chosenCount] at outside
    exact (calm.life serial).trans (custody.strangers serial outside)

/-- A delegate that is held may be consulted. -/
theorem Custody.consult (custody : Custody start position surroundings)
    (holds : Holds start position own numbered surroundings) :
    Custody start position (surroundings.record (.consulted numbered.serial)) where
  grown := custody.grown
  counted := custody.counted
  unshared := custody.unshared
  serials own' numbered' holds' := custody.serials own' numbered' ⟨holds'.since, holds'.held⟩
  deeper own' numbered' holds' := custody.deeper own' numbered' ⟨holds'.since, holds'.held⟩
  single one other numbered' numbered'' holds' holds'' :=
    custody.single one other numbered' numbered'' ⟨holds'.since, holds'.held⟩
      ⟨holds''.since, holds''.held⟩
  alive own' numbered' holds' := by
    have alive := custody.alive own' numbered' ⟨holds'.since, holds'.held⟩
    by_cases same : numbered.serial = numbered'.serial
    · rw [same]
      exact alive.consult
    · exact alive.congr (life_record_of_ne fun equal => same (Option.some.inj equal))
  lived serial late early unheld := by
    refine (custody.lived serial late early ?_).congr (life_record_of_ne ?_)
    · intro own' numbered' holds'
      exact unheld own' numbered' ⟨holds'.since, holds'.held⟩
    · exact fun equal => unheld own numbered ⟨holds.since, holds.held⟩ (Option.some.inj equal)
  strangers serial outside := by
    have serials := custody.serials own numbered holds
    have outside : serial < start.chosenCount ∨ surroundings.chosenCount ≤ serial := outside
    refine (life_record_of_ne ?_).trans (custody.strangers serial outside)
    intro equal
    have same := Option.some.inj equal
    omega

/-- The delegate is taken out of its memo and released. -/
def release (own : Nat) (numbered : Numbered Provider) (surroundings : Surroundings) :
    Surroundings :=
  ((memo own).keep none surroundings).record (.released numbered.serial)

theorem holds_of_release {other : Nat} {numbered' : Numbered Provider}
    (held : (memo own).held surroundings = some numbered)
    (holds : Holds start position other numbered' (surroundings.release own numbered)) :
    other ≠ own ∧ Holds start position other numbered' surroundings := by
  have still := holds.held
  change (memo other).held ((memo own).keep none surroundings) = _ at still
  rw [held_keep surroundings (present_of_held held)] at still
  split at still
  · cases still
  · rename_i different
    exact ⟨different, holds.since, still⟩

theorem Custody.release (custody : Custody start position surroundings)
    (holds : Holds start position own numbered surroundings) :
    Custody start position (surroundings.release own numbered) where
  grown := by
    change _ ≤ (surroundings.memos.update own fun _ => none).count
    rw [Cells.count_update]
    exact custody.grown
  counted := custody.counted
  unshared := custody.unshared
  serials other numbered' holds' :=
    custody.serials other numbered' (holds_of_release holds.held holds').2
  deeper other numbered' holds' := by
    have count : (surroundings.release own numbered).memos.count = surroundings.memos.count :=
      Cells.count_update _ _ _
    rw [count]
    exact custody.deeper other numbered' (holds_of_release holds.held holds').2
  single one other numbered' numbered'' holds' holds'' :=
    custody.single one other numbered' numbered'' (holds_of_release holds.held holds').2
      (holds_of_release holds.held holds'').2
  alive other numbered' holds' := by
    obtain ⟨different, holds'⟩ := holds_of_release holds.held holds'
    refine (custody.alive other numbered' holds').congr (life_record_of_ne ?_)
    intro equal
    exact different (custody.single other own numbered' numbered holds' holds
      (Option.some.inj equal).symm)
  lived serial late early unheld := by
    have emptied : Alive start numbered.serial ((memo own).keep none surroundings) :=
      custody.alive own numbered holds
    by_cases same : numbered.serial = serial
    · rw [← same]
      exact emptied.release
    · refine (custody.lived serial late early ?_).congr
        (life_record_of_ne fun equal => same (Option.some.inj equal))
      intro other numbered' holds'
      by_cases here : other = own
      · have held := holds'.held
        rw [here, holds.held] at held
        cases held
        exact same
      · refine unheld other numbered' ⟨holds'.since, ?_⟩
        change (memo other).held ((memo own).keep none surroundings) = _
        rw [held_keep surroundings (present_of_held holds.held), if_neg here]
        exact holds'.held
  strangers serial outside := by
    have serials := custody.serials own numbered holds
    have outside : serial < start.chosenCount ∨ surroundings.chosenCount ≤ serial := outside
    refine (life_record_of_ne ?_).trans (custody.strangers serial outside)
    intro equal
    have same := Option.some.inj equal
    omega

/-- The delegate gets the next serial number and is put into the memo. -/
def adopt (own : Nat) (delegate : Provider) (surroundings : Surroundings) : Surroundings :=
  (memo own).keep (some ⟨surroundings.chosenCount, delegate⟩)
    ({ surroundings with chosenCount := surroundings.chosenCount + 1 }.record
      (.chosen surroundings.chosenCount))

theorem held_adopt (present : own < surroundings.memos.count) (delegate : Provider) (other : Nat) :
    (memo other).held (surroundings.adopt own delegate) =
      if other = own then some ⟨surroundings.chosenCount, delegate⟩
      else (memo other).held surroundings :=
  held_keep _ present _ other

/-- An adopted delegate is the one that its memo holds; every other one was held before. -/
theorem holds_of_adopt (present : own < surroundings.memos.count) {delegate : Provider}
    {other : Nat} {numbered' : Numbered Provider}
    (holds : Holds start position other numbered' (surroundings.adopt own delegate)) :
    other = own ∧ numbered' = ⟨surroundings.chosenCount, delegate⟩ ∨
      other ≠ own ∧ Holds start position other numbered' surroundings := by
  have held := holds.held
  rw [held_adopt present] at held
  split at held
  · rename_i same
    cases held
    exact .inl ⟨same, rfl⟩
  · rename_i different
    exact .inr ⟨different, holds.since, held⟩

theorem life_adopt_of_ne {serial : Nat} (other : serial ≠ surroundings.chosenCount)
    (delegate : Provider) :
    (surroundings.adopt own delegate).life serial = surroundings.life serial :=
  life_record_of_ne fun equal => other (Option.some.inj equal).symm

/-- A memo that is empty may adopt a delegate that uses later memos only. -/
theorem Custody.adopt (custody : Custody start position surroundings)
    (since : own = position ∨ start.memos.count ≤ own) (present : own < surroundings.memos.count)
    (empty : (memo own).held surroundings = none) {delegate : Provider}
    (deeper : ∀ inner, delegate.Uses inner →
      own < inner ∧ start.memos.count ≤ inner ∧ inner < surroundings.memos.count) :
    Custody start position (surroundings.adopt own delegate) where
  grown := by
    change _ ≤ (surroundings.memos.update own _).count
    rw [Cells.count_update]
    exact custody.grown
  counted := Nat.le_succ_of_le custody.counted
  unshared := custody.unshared
  serials other numbered' holds := by
    change _ ∧ _ < surroundings.chosenCount + 1
    have counted := custody.counted
    rcases holds_of_adopt present holds with ⟨-, rfl⟩ | ⟨-, before⟩
    · exact ⟨counted, Nat.lt_succ_self _⟩
    · have serials := custody.serials other numbered' before
      omega
  deeper other numbered' holds := by
    have count : (surroundings.adopt own delegate).memos.count = surroundings.memos.count :=
      Cells.count_update _ _ _
    rw [count]
    rcases holds_of_adopt present holds with ⟨rfl, rfl⟩ | ⟨-, before⟩
    · exact deeper
    · exact custody.deeper other numbered' before
  single one other numbered' numbered'' holds holds' same := by
    rcases holds_of_adopt present holds with ⟨rfl, rfl⟩ | ⟨-, before⟩
    · rcases holds_of_adopt present holds' with ⟨rfl, -⟩ | ⟨-, before'⟩
      · rfl
      · have serials := custody.serials other numbered'' before'
        have same : surroundings.chosenCount = numbered''.serial := same
        omega
    · rcases holds_of_adopt present holds' with ⟨rfl, rfl⟩ | ⟨-, before'⟩
      · have serials := custody.serials one numbered' before
        have same : numbered'.serial = surroundings.chosenCount := same
        omega
      · exact custody.single one other numbered' numbered'' before before' same
  alive other numbered' holds := by
    rcases holds_of_adopt present holds with ⟨-, rfl⟩ | ⟨-, before⟩
    · exact alive_of_chosen (custody.strangers _ (.inr (Nat.le_refl _)))
    · have serials := custody.serials other numbered' before
      exact (custody.alive other numbered' before).congr (life_adopt_of_ne (by omega) delegate)
  lived serial late early unheld := by
    have early : serial < surroundings.chosenCount + 1 := early
    have different : surroundings.chosenCount ≠ serial :=
      unheld own ⟨surroundings.chosenCount, delegate⟩
        ⟨since, (held_adopt present delegate own).trans (if_pos rfl)⟩
    refine (custody.lived serial late (by omega) ?_).congr
      (life_adopt_of_ne (Ne.symm different) delegate)
    intro other numbered' holds
    refine unheld other numbered' ⟨holds.since, ?_⟩
    rw [held_adopt present, if_neg]
    · exact holds.held
    · rintro rfl
      cases empty.symm.trans holds.held
  strangers serial outside := by
    have counted := custody.counted
    have outside : serial < start.chosenCount ∨ surroundings.chosenCount + 1 ≤ serial := outside
    refine (life_adopt_of_ne (by omega) delegate).trans (custody.strangers serial ?_)
    omega

end Steps

/-- Whatever holds a delegate is the own memo of the provider or is used by a delegate that is held
itself. -/
def Rooted (start : Surroundings) (position : Nat) (surroundings : Surroundings) : Prop :=
  ∀ own numbered, Holds start position own numbered surroundings → own ≠ position →
    ∃ outer holder, Holds start position outer holder surroundings ∧ holder.delegate.Uses own

structure Tended (start : Surroundings) (position : Nat) (surroundings : Surroundings) : Prop where
  custody : Custody start position surroundings
  rooted : Rooted start position surroundings

/-- Memos keep the delegates that they hold, and every delegate chosen in between is held. -/
structure Grows (start : Surroundings) (position : Nat) (earlier later : Surroundings) : Prop where
  counted : earlier.chosenCount ≤ later.chosenCount
  kept : ∀ own numbered, Holds start position own numbered earlier →
    Holds start position own numbered later
  fresh : ∀ serial, earlier.chosenCount ≤ serial → serial < later.chosenCount →
    ∃ own numbered, Holds start position own numbered later ∧ numbered.serial = serial

section Growth

variable {start earlier middle later surroundings : Surroundings} {position own : Nat}

theorem Grows.of_same (count : later.chosenCount = earlier.chosenCount)
    (same : ∀ own, (memo own).held later = (memo own).held earlier) :
    Grows start position earlier later where
  counted := Nat.le_of_eq count.symm
  kept own _ holds := ⟨holds.since, (same own).trans holds.held⟩
  fresh serial late early := by omega

theorem Calm.grows (calm : earlier.Calm later) : Grows start position earlier later :=
  .of_same calm.chosenCount calm.held

theorem Grows.trans (first : Grows start position earlier middle)
    (second : Grows start position middle later) : Grows start position earlier later where
  counted := Nat.le_trans first.counted second.counted
  kept own numbered holds := second.kept own numbered (first.kept own numbered holds)
  fresh serial late early := by
    rcases Nat.lt_or_ge serial middle.chosenCount with before | after
    · obtain ⟨own, numbered, holds, same⟩ := first.fresh serial late before
      exact ⟨own, numbered, second.kept own numbered holds, same⟩
    · exact second.fresh serial after early

theorem grows_adopt (since : own = position ∨ start.memos.count ≤ own)
    (present : own < surroundings.memos.count) (empty : (memo own).held surroundings = none)
    (delegate : Provider) :
    Grows start position surroundings (surroundings.adopt own delegate) where
  counted := Nat.le_succ _
  kept other numbered holds := by
    refine ⟨holds.since, ?_⟩
    rw [held_adopt present, if_neg]
    · exact holds.held
    · rintro rfl
      cases empty.symm.trans holds.held
  fresh serial late early := by
    have early : serial < surroundings.chosenCount + 1 := early
    refine ⟨own, ⟨surroundings.chosenCount, delegate⟩, ⟨since, ?_⟩, ?_⟩
    · rw [held_adopt present, if_pos rfl]
    · change surroundings.chosenCount = serial
      omega

/-- The provider itself or a delegate that is held leads to the memo. -/
def Leads (start : Surroundings) (position own : Nat) (surroundings : Surroundings) : Prop :=
  own = position ∨
    ∃ outer holder, Holds start position outer holder surroundings ∧ holder.delegate.Uses own

theorem Leads.grows (leads : Leads start position own earlier)
    (grows : Grows start position earlier later) : Leads start position own later := by
  rcases leads with same | ⟨outer, holder, holds, uses⟩
  · exact .inl same
  · exact .inr ⟨outer, holder, grows.kept outer holder holds, uses⟩

theorem Rooted.grows (rooted : Rooted start position earlier)
    (grows : Grows start position earlier later)
    (gained : ∀ own numbered, Holds start position own numbered later →
      Holds start position own numbered earlier ∨ Leads start position own earlier) :
    Rooted start position later := by
  intro own numbered holds inner
  have leads : Leads start position own earlier := by
    rcases gained own numbered holds with before | leads
    · exact .inr (rooted own numbered before inner)
    · exact leads
  rcases leads.grows grows with same | led
  · exact absurd same inner
  · exact led

theorem Tended.calm (tended : Tended start position earlier) (calm : earlier.Calm later) :
    Tended start position later :=
  ⟨tended.custody.calm calm, tended.rooted.grows calm.grows fun _ _ holds =>
    .inl (holds_of_same calm.held holds)⟩

theorem Tended.consult {numbered : Numbered Provider} (tended : Tended start position surroundings)
    (holds : Holds start position own numbered surroundings) :
    Tended start position (surroundings.record (.consulted numbered.serial)) :=
  ⟨tended.custody.consult holds, tended.rooted.grows (.of_same rfl fun _ => rfl)
    fun _ _ holds => .inl ⟨holds.since, holds.held⟩⟩

/-- An empty memo that something leads to may adopt what uses later memos only. -/
theorem Tended.adopt (tended : Tended start position surroundings)
    (leads : Leads start position own surroundings)
    (since : own = position ∨ start.memos.count ≤ own) (present : own < surroundings.memos.count)
    (empty : (memo own).held surroundings = none) {delegate : Provider}
    (deeper : ∀ inner, delegate.Uses inner →
      own < inner ∧ start.memos.count ≤ inner ∧ inner < surroundings.memos.count) :
    Tended start position (surroundings.adopt own delegate) := by
  refine ⟨tended.custody.adopt since present empty deeper, ?_⟩
  apply tended.rooted.grows (grows_adopt since present empty delegate)
  intro other numbered holds
  rcases holds_of_adopt present holds with ⟨rfl, -⟩ | ⟨-, before⟩
  · exact .inr leads
  · exact .inl before

/-- What leads to a memo says where it lies. -/
theorem Leads.since (leads : Leads start position own surroundings)
    (tended : Tended start position surroundings) : own = position ∨ start.memos.count ≤ own := by
  rcases leads with same | ⟨outer, holder, holds, uses⟩
  · exact .inl same
  · exact .inr (tended.custody.deeper outer holder holds own uses).2.1

theorem Leads.present (leads : Leads start position own surroundings)
    (tended : Tended start position surroundings) (present : position < start.memos.count) :
    own < surroundings.memos.count := by
  rcases leads with rfl | ⟨outer, holder, holds, uses⟩
  · exact Nat.lt_of_lt_of_le present tended.custody.grown
  · exact (tended.custody.deeper outer holder holds own uses).2.2

end Growth

end Surroundings

section Resolving

variable {start : Surroundings} {position nesting : Nat}

/-- Resolving what a held delegate uses keeps everything tended. -/
def ResolvesTended (start : Surroundings) (position nesting : Nat) : Prop :=
  ∀ source registry own {surroundings : Surroundings}, Tended start position surroundings →
    Leads start position own surroundings →
      let after := (SingleProvider.resolve nesting (.settings source registry own) surroundings).2
      Tended start position after ∧ Grows start position surroundings after

theorem ResolvesTended.consult (resolves : ResolvesTended start position nesting) {own : Nat}
    {numbered : Numbered Provider} {surroundings : Surroundings}
    (tended : Tended start position surroundings)
    (holds : Holds start position own numbered surroundings) :
    let after := (Numbered.resolve (ChainTree.resolve (SingleProvider.resolve nesting) log) numbered
      surroundings).2
    Tended start position after ∧ Grows start position surroundings after := by
  let Keeps (later : Surroundings) : Prop :=
    Tended start position later ∧ Grows start position surroundings later
  have kept_of_calm {earlier later : Surroundings} (kept : Keeps earlier)
      (calm : earlier.Calm later) : Keeps later :=
    ⟨kept.1.calm calm, kept.2.trans calm.grows⟩
  have begins : Keeps (surroundings.record (.consulted numbered.serial)) :=
    ⟨tended.consult holds, .of_same rfl fun _ => rfl⟩
  have singles (member : SingleProvider)
      (among : member ∈ ChainTree.members numbered.delegate) (later : Surroundings)
      (kept : Keeps later) : Keeps (SingleProvider.resolve nesting member later).2 := by
    cases member with
    | fixed credentials =>
      cases nesting <;> exact kept
    | scripted script =>
      cases nesting <;> exact kept_of_calm kept (calm_resolveScripted script later)
    | settings source registry inner =>
      have leads : Leads start position inner later :=
        .inr ⟨own, numbered, kept.2.kept own numbered holds, source, registry, among⟩
      obtain ⟨tendedAfter, grows⟩ := resolves source registry inner kept.1 leads
      exact ⟨tendedAfter, kept.2.trans grows⟩
  have logs (entry : LogEntry) (later : Surroundings) (kept : Keeps later) :
      Keeps (later.log entry) :=
    kept_of_calm kept (calm_log entry later)
  exact ChainTree.resolve_keeps numbered.delegate singles logs begins

/-- An empty memo chooses and then holds what it has chosen, or nothing was chosen. -/
theorem ResolvesTended.choose (resolves : ResolvesTended start position nesting)
    (positionPresent : position < start.memos.count) {source : Source} {registry own : Nat}
    {surroundings : Surroundings} (tended : Tended start position surroundings)
    (leads : Leads start position own surroundings)
    (held : (memo own).held surroundings = none) :
    let after := ((memo own).resolve (Numbered.choose (means source registry).choose)
      (Numbered.resolve (ChainTree.resolve (SingleProvider.resolve nesting) log)) surroundings).2
    Tended start position after ∧ Grows start position surroundings after := by
  rcases ran : (means source registry).choose surroundings with ⟨provider | error | text, after⟩
  · obtain ⟨calm, adds⟩ := adds_choose tended.custody.unshared ran
    have tendedAfter := tended.calm calm
    have leadsAfter := leads.grows calm.grows
    have since := leads.since tended
    have present := leads.present tended positionPresent
    have empty : (memo own).held after = none := (calm.held own).trans held
    have grown := calm.count
    have grownSince := tended.custody.grown
    have deeper (inner : Nat) (uses : provider.Uses inner) :
        own < inner ∧ start.memos.count ≤ inner ∧ inner < after.memos.count := by
      have added := adds provider rfl inner uses
      omega
    have presentAfter : own < after.memos.count := by omega
    have adopted := tendedAfter.adopt leadsAfter since presentAfter empty deeper
    have holds : Holds start position own ⟨after.chosenCount, provider⟩
        (after.adopt own provider) :=
      ⟨since, (held_adopt presentAfter provider own).trans (if_pos rfl)⟩
    have chosen : Numbered.choose (means source registry).choose surroundings =
        (.ok ⟨after.chosenCount, provider⟩,
          { after with chosenCount := after.chosenCount + 1 }.record
            (.chosen after.chosenCount)) :=
      Action.bind_of_ok ran
    rw [Memo.resolve_of_chosen held chosen]
    obtain ⟨consulted, grows⟩ := resolves.consult adopted holds
    exact ⟨consulted,
      (calm.grows.trans (grows_adopt since presentAfter empty provider)).trans grows⟩
  · have calm := (adds_choose tended.custody.unshared ran).1
    have failed : Numbered.choose (means source registry).choose surroundings =
        (.error error, after) := Action.bind_of_error ran
    rw [Memo.resolve_of_failed held failed]
    exact ⟨tended.calm calm, calm.grows⟩
  · have calm := (adds_choose tended.custody.unshared ran).1
    have panicked : Numbered.choose (means source registry).choose surroundings =
        (.panic text, after) := Action.bind_of_panic ran
    rw [Memo.resolve_of_panicked held panicked]
    exact ⟨tended.calm calm, calm.grows⟩

/-- Resolving keeps everything tended, by induction on how deeply the calls are nested. -/
theorem resolves_tended (present : position < start.memos.count) (nesting : Nat) :
    ResolvesTended start position nesting := by
  induction nesting with
  | zero =>
    intro source registry own surroundings tended leads
    exact ⟨tended, .of_same rfl fun _ => rfl⟩
  | succ nesting resolves =>
    intro source registry own surroundings tended leads
    rw [SingleProvider.resolve]
    cases held : (memo own).held surroundings with
    | some numbered =>
      rw [Memo.resolve_of_held held]
      exact resolves.consult tended ⟨leads.since tended, held⟩
    | none => exact resolves.choose present tended leads held

end Resolving

section Closing

variable {start surroundings : Surroundings} {position bound : Nat}

/-- Closing a provider over settings whose memo is in custody keeps the custody. -/
def ClosesInCustody (start : Surroundings) (position bound : Nat) : Prop :=
  ∀ source registry own {surroundings : Surroundings},
    own = position ∨ start.memos.count ≤ own → Custody start position surroundings →
      Custody start position
        (SingleProvider.close bound (.settings source registry own) surroundings).2

theorem ClosesInCustody.tree (closes : ClosesInCustody start position bound) {tree : Provider}
    (since : ∀ inner, tree.Uses inner → start.memos.count ≤ inner)
    (custody : Custody start position surroundings) :
    Custody start position
      (ChainTree.close (SingleProvider.close bound) log tree surroundings).2 := by
  refine ChainTree.close_keeps_of_members ?_ tree ?_ custody
  · intro entry later kept
    exact kept.calm (calm_log entry later)
  · intro member among later kept
    cases member with
    | fixed credentials => cases bound <;> exact kept
    | scripted script => cases bound <;> exact kept.calm (calm_closeScripted script later)
    | settings source registry inner =>
      exact closes source registry inner (.inr (since inner ⟨source, registry, among⟩)) kept

theorem ClosesInCustody.discard (closes : ClosesInCustody start position bound) {tree : Provider}
    (since : ∀ inner, tree.Uses inner → start.memos.count ≤ inner)
    (custody : Custody start position surroundings) :
    Custody start position
      (ChainTree.discard (SingleProvider.discardBy (SingleProvider.close bound)) tree
        surroundings) := by
  refine ChainTree.discard_keeps_of_members tree ?_ custody
  intro member among later kept
  cases member with
  | fixed credentials => exact kept
  | scripted script => exact kept
  | settings source registry inner =>
    exact closes source registry inner (.inr (since inner ⟨source, registry, among⟩)) kept

/-- Closing keeps the custody, by induction on how many memos may be filled. -/
theorem closes_in_custody (start : Surroundings) (position bound : Nat) :
    ClosesInCustody start position bound := by
  induction bound with
  | zero => exact fun _ _ _ _ _ custody => custody
  | succ bound closes =>
    intro source registry own surroundings since custody
    cases held : (memo own).held surroundings with
    | none =>
      rw [SingleProvider.close_of_empty held]
      exact custody
    | some numbered =>
      have inner (position : Nat) (uses : numbered.delegate.Uses position) :=
        (custody.deeper own numbered ⟨since, held⟩ position uses).2.1
      have closed := closes.tree inner (custody.release ⟨since, held⟩)
      simp only [SingleProvider.close, Memo.release, Memo.takeOut, held]
      apply closes.discard inner
      apply ChainTree.ignoring_keeps _ _ _ closed
      intro entry later kept
      exact kept.calm (calm_log entry later)

/-- Once its own memo is empty after a thorough close, the provider holds nothing anywhere. -/
theorem Surroundings.Tended.nothing_held {closed : Surroundings}
    (tended : Tended start position surroundings) (thorough : surroundings.Thorough closed)
    (empty : (memo position).held closed = none) (own : Nat) :
    ∀ numbered, ¬ Holds start position own numbered closed := by
  induction own using Nat.strongRecOn with
  | ind own inductionHypothesis =>
    intro numbered holds
    have heldBefore : Holds start position own numbered surroundings := by
      refine ⟨holds.since, ?_⟩
      rcases thorough.releases.held own with same | released
      · exact same.symm.trans holds.held
      · cases released.symm.trans holds.held
    have inner : own ≠ position := by
      rintro rfl
      cases empty.symm.trans holds.held
    obtain ⟨outer, holder, outerHolds, uses⟩ := tended.rooted own numbered heldBefore inner
    have earlier := (tended.custody.deeper outer holder outerHolds own uses).1
    have outerEmpty : (memo outer).held closed = none := by
      cases held : (memo outer).held closed with
      | none => rfl
      | some other => exact (inductionHypothesis outer earlier other ⟨outerHolds.since, held⟩).elim
    have used := thorough.used outer holder outerHolds.held outerEmpty own uses
    cases used.symm.trans holds.held

end Closing

/-- A change from outside lets the delegates be. -/
def Turn.Bystands : Turn → Prop
  | .change outside => ∀ surroundings : Surroundings, surroundings.Calm (outside surroundings)
  | _ => True

/-- Resolving releases nothing: what is chosen and has not lived before is alive afterwards. Closing
releases everything chosen so far, and an empty memo makes it do nothing at all. -/
def Turn.Tends (start : Surroundings) (position : Nat) (before after : Surroundings) : Turn → Prop
  | .resolve => ∀ serial, start.chosenCount ≤ serial → serial < after.chosenCount →
    Lived start serial before ∨ Alive start serial after
  | .close =>
    (∀ serial, start.chosenCount ≤ serial → serial < after.chosenCount →
      Lived start serial after) ∧
    (memo position).held after = none ∧
    ((memo position).held before = none → after = before)
  | _ => ∀ serial, after.life serial = before.life serial

/-- This holds of the surroundings before and after each turn of a run. -/
def Provider.EachTurn (provider : Provider) (nesting : Nat)
    (holds : Surroundings → Surroundings → Turn → Prop) : List Turn → Surroundings → Prop
  | [], _ => True
  | turn :: rest, before =>
    holds before (provider.answer nesting turn before).2 turn ∧
      EachTurn provider nesting holds rest (provider.answer nesting turn before).2

section Runs

variable {start surroundings : Surroundings} {position : Nat}

theorem lived_or_held (custody : Custody start position surroundings) {serial : Nat}
    (late : start.chosenCount ≤ serial) (early : serial < surroundings.chosenCount) :
    Lived start serial surroundings ∨
      ∃ own numbered, Holds start position own numbered surroundings ∧
        numbered.serial = serial := by
  by_cases held : ∃ own numbered, Holds start position own numbered surroundings ∧
      numbered.serial = serial
  · exact .inr held
  · refine .inl (custody.lived serial late early ?_)
    intro own numbered holds same
    exact held ⟨own, numbered, holds, same⟩

theorem resolve_tends (present : position < start.memos.count) (source : Source)
    (registry nesting : Nat) (tended : Tended start position surroundings) :
    let after := (Provider.answer (.single (.settings source registry position)) nesting .resolve
      surroundings).2
    Tended start position after ∧ Turn.Tends start position surroundings after .resolve := by
  intro after
  obtain ⟨tendedAfter, grows⟩ :=
    resolves_tended present nesting source registry position tended (.inl rfl)
  have same : after = (SingleProvider.resolve nesting (.settings source registry position)
      surroundings).2 := by
    simp only [after, Provider.answer, Provider.resolve, ChainTree.resolve]
    rfl
  rw [← same] at tendedAfter grows
  refine ⟨tendedAfter, ?_⟩
  intro serial late early
  have alive (held : ∃ own numbered, Holds start position own numbered after ∧
      numbered.serial = serial) : Alive start serial after := by
    obtain ⟨own, numbered, holds, rfl⟩ := held
    exact tendedAfter.custody.alive own numbered holds
  rcases Nat.lt_or_ge serial surroundings.chosenCount with old | new
  · rcases lived_or_held tended.custody late old with lived | ⟨own, numbered, holds, same⟩
    · exact .inl lived
    · exact .inr (alive ⟨own, numbered, grows.kept own numbered holds, same⟩)
  · exact .inr (alive (grows.fresh serial new early))

theorem close_tends (source : Source) (registry : Nat)
    (tended : Tended start position surroundings) :
    let after := (Provider.close (.single (.settings source registry position)) surroundings).2
    Tended start position after ∧ Turn.Tends start position surroundings after .close := by
  intro after
  obtain ⟨thorough, empty⟩ := Provider.close_thorough source registry position surroundings
  have custody : Custody start position after := by
    have closed := closes_in_custody start position surroundings.memos.count source registry
      position (.inl rfl) tended.custody
    simp only [after, Provider.close, ChainTree.close]
    exact closed
  have nothing := tended.nothing_held thorough empty
  refine ⟨⟨custody, fun own numbered holds => (nothing own numbered holds).elim⟩, ?_, empty, ?_⟩
  · intro serial late early
    exact custody.lived serial late early fun own numbered holds =>
      (nothing own numbered holds).elim
  · intro emptyBefore
    exact congrArg Prod.snd (Provider.close_of_empty emptyBefore source registry)

theorem answer_tends (present : position < start.memos.count) (source : Source)
    (registry nesting : Nat) (tended : Tended start position surroundings) {turn : Turn}
    (bystands : turn.Bystands) :
    let after := (Provider.answer (.single (.settings source registry position)) nesting turn
      surroundings).2
    Tended start position after ∧ Turn.Tends start position surroundings after turn := by
  cases turn with
  | resolve => exact resolve_tends present source registry nesting tended
  | close => exact close_tends source registry tended
  | isResolved => exact ⟨tended, fun _ => rfl⟩
  | change outside => exact ⟨tended.calm (bystands surroundings), (bystands surroundings).life⟩

theorem run_tends (present : position < start.memos.count) (source : Source)
    (registry nesting : Nat) (tended : Tended start position surroundings) {turns : List Turn}
    (bystand : ∀ turn ∈ turns, turn.Bystands) :
    let provider : Provider := .single (.settings source registry position)
    provider.EachTurn nesting (Turn.Tends start position) turns surroundings ∧
      Tended start position (Turn.run (provider.answer nesting) turns surroundings).2 := by
  induction turns generalizing surroundings with
  | nil => exact ⟨trivial, tended⟩
  | cons turn rest inductionHypothesis =>
    obtain ⟨bystands, others⟩ := List.forall_mem_cons.mp bystand
    obtain ⟨after, tends⟩ := answer_tends present source registry nesting tended bystands
    obtain ⟨each, ended⟩ := inductionHypothesis after others
    exact ⟨⟨tends, each⟩, ended⟩

end Runs

/-- In every run of a new provider over settings that ends with dropping it, each delegate chosen
since the start, by the provider or inside of its delegates, is consulted only between its choice
and its one release. The release comes with the first close or with the drop. -/
theorem Provider.delegates_released_once (source : Source) (registry position nesting : Nat)
    (turns : List Turn) (start : Surroundings)
    (unresolved : (memo position).held start = none) (present : position < start.memos.count)
    (unshared : start.Registers fun _ => False) (bystand : ∀ turn ∈ turns, turn.Bystands) :
    let provider : Provider := .single (.settings source registry position)
    let ended := (Turn.run (provider.answer nesting) turns start).2
    let dropped := provider.discard ended
    provider.EachTurn nesting (Turn.Tends start position) turns start ∧
      (∀ serial, start.chosenCount ≤ serial → serial < dropped.chosenCount →
        Lived start serial dropped) ∧
      (∀ serial, serial < start.chosenCount ∨ dropped.chosenCount ≤ serial →
        dropped.life serial = start.life serial) ∧
      ((memo position).held ended = none → dropped = ended) := by
  intro provider ended dropped
  have tended : Tended start position start :=
    ⟨custody_of_start unresolved unshared, fun own numbered holds =>
      absurd holds (not_holds_start unresolved own numbered)⟩
  obtain ⟨each, tendedEnd⟩ := run_tends present source registry nesting tended bystand
  have same : dropped = (provider.close ended).2 :=
    Provider.discard_settings source registry position ended
  obtain ⟨tendedDrop, lived, -, unchanged⟩ := close_tends source registry tendedEnd
  rw [same]
  exact ⟨each, lived, tendedDrop.custody.strangers, unchanged⟩

/-- A provider whose factory creates another provider over settings is resolved, closed, resolved
again and dropped. It chooses two delegates, and inside of each of them another one is chosen. -/
theorem Provider.nested_delegates_released_once :
    let inner : ProviderBlueprint :=
      .settings (.fixedVariables [("AWS_ACCESS_KEY_ID", "id"), ("AWS_SECRET_ACCESS_KEY", "secret")])
        none
    let source : Source := .fixedVariables (.ofList [("AWS_ACCESS_KEY_ID", "id"),
      ("AWS_SECRET_ACCESS_KEY", "secret"), ("AWS_ROLE_ARN", "role"),
      ("AWS_WEB_IDENTITY_TOKEN_FILE", "/token")])
    let files : FileTree := ⟨[([Bytes.ofText "token"], .file (Bytes.ofText "content"))]⟩
    let start := (addMemo ((Surroundings.initial (.ofUnix 0 0) files).register processWide
      webIdentity (.plain "label" (.ok (.blueprint inner))))).2
    let provider : Provider := .single (.settings source processWide 0)
    let turns : List Turn := [.resolve, .close, .resolve]
    let dropped := provider.discard (Turn.run (provider.answer 2) turns start).2
    ((memo 0).held start = none ∧ 0 < start.memos.count ∧ (start.Registers fun _ => False) ∧
        ∀ turn ∈ turns, turn.Bystands) ∧
      start.chosenCount = 0 ∧ dropped.chosenCount = 4 ∧
      ∀ serial, serial < 4 → Lived start serial dropped := by
  intro inner source files start provider turns dropped
  have unshared : start.Registers fun _ => False :=
    registers_of_single rfl (List.forall_mem_nil _)
  have bystand : ∀ turn ∈ turns, turn.Bystands := by simp [turns, Turn.Bystands]
  have count : dropped.chosenCount = 4 := by decide +kernel
  obtain ⟨-, lived, -, -⟩ :=
    Provider.delegates_released_once source processWide 0 2 turns start rfl (by decide) unshared
      bystand
  refine ⟨⟨rfl, by decide, unshared, bystand⟩, rfl, count, ?_⟩
  intro serial early
  exact lived serial (Nat.zero_le serial) (count ▸ early)

end CredentialResolution
