/-
This file shows that nothing reads the journal, and that the environment is read for the values of
variables only. Two runs that differ in nothing else end alike and go on to differ in nothing else.
-/

import CredentialResolution.Proofs.Lifecycle
import CredentialResolution.Proofs.Members

namespace CredentialResolution

namespace Surroundings

/-- This function takes the journal away. -/
def unrecorded (surroundings : Surroundings) : Surroundings :=
  { surroundings with journal := [] }

/-- This function takes the journal and the environment away. -/
def core (surroundings : Surroundings) : Surroundings :=
  { surroundings with journal := [], environment := .empty }

/-- A promise is about the property stores and the scripted sources. -/
abbrev Promise : Type := Cells (Bindings String) → Cells ScriptedSource → Prop

/-- What is done during a run breaks no such promise. -/
structure Promise.Lasts (promise : Promise) : Prop where
  addStore : ∀ {stores : Cells (Bindings String)} {sources : Cells ScriptedSource}
    (entries : Bindings String), promise stores sources → promise (stores.add entries) sources
  addSource : ∀ {stores : Cells (Bindings String)} {sources : Cells ScriptedSource}
    (source : ScriptedSource), promise stores sources → promise stores (sources.add source)
  take : ∀ {stores : Cells (Bindings String)} {sources : Cells ScriptedSource} {position : Nat}
    {source : ScriptedSource} (setting : Setting), sources.get? position = some source →
      promise stores sources →
        promise stores (sources.update position fun _ => (source.take setting).2)

/-- Nothing but the journals differs, and the promise is kept. -/
structure Kept (promise : Promise) (surroundings surroundings' : Surroundings) : Prop where
  unrecorded : surroundings.unrecorded = surroundings'.unrecorded
  promised : promise surroundings.stores surroundings.scriptedSources

theorem eq_of_unrecorded {surroundings surroundings' : Surroundings}
    (same : surroundings.unrecorded = surroundings'.unrecorded) :
    surroundings' = { surroundings with journal := surroundings'.journal } := by
  have recorded := congrArg (fun surroundings : Surroundings =>
    { surroundings with journal := surroundings'.journal }) same.symm
  exact recorded

end Surroundings

namespace Action

open Surroundings

variable {Failure Value : Type}

/-- This action neither uses nor changes journal and environment, and it breaks no promise that
lasts. -/
structure Detached (action : Action Surroundings Failure Value) : Prop where
  apart : ∀ (surroundings : Surroundings) (journal : List Event) (environment : Bindings Bytes),
    action { surroundings with journal := journal, environment := environment } =
      ((action surroundings).1,
        { (action surroundings).2 with journal := journal, environment := environment })
  keeps : ∀ {promise : Promise}, promise.Lasts → ∀ surroundings,
    promise surroundings.stores surroundings.scriptedSources →
      promise (action surroundings).2.stores (action surroundings).2.scriptedSources

namespace Detached

variable {action : Action Surroundings Failure Value} {surroundings surroundings' : Surroundings}

theorem journal (detached : Detached action) (surroundings : Surroundings) :
    (action surroundings).2.journal = surroundings.journal :=
  congrArg (fun ended => ended.2.journal)
    (detached.apart surroundings surroundings.journal surroundings.environment)

theorem environment (detached : Detached action) (surroundings : Surroundings) :
    (action surroundings).2.environment = surroundings.environment :=
  congrArg (fun ended => ended.2.environment)
    (detached.apart surroundings surroundings.journal surroundings.environment)

/-- From the same core the action ends the same and leaves the same core behind. -/
theorem core (detached : Detached action) (same : surroundings.core = surroundings'.core) :
    (action surroundings).1 = (action surroundings').1 ∧
      (action surroundings).2.core = (action surroundings').2.core := by
  have ran : action surroundings.core =
      ((action surroundings).1, (action surroundings).2.core) :=
    detached.apart surroundings [] .empty
  have ran' : action surroundings'.core =
      ((action surroundings').1, (action surroundings').2.core) :=
    detached.apart surroundings' [] .empty
  rw [same, ran'] at ran
  obtain ⟨outcomes, cores⟩ := Prod.mk.inj ran
  exact ⟨outcomes.symm, cores.symm⟩

end Detached

/-- Providers that are the same are trees with the same members. -/
theorem Agrees.related {states : Surroundings → Surroundings → Prop}
    {action action' : Action Surroundings Failure Provider}
    (agrees : Agrees states (· = ·) action action') :
    Agrees states (ChainTree.Related (· = ·)) action action' := by
  intro surroundings surroundings' related
  obtain ⟨same, left⟩ := agrees related
  refine ⟨?_, left⟩
  rw [same.eq]
  exact .self (fun provider => ChainTree.related_self provider fun _ _ => rfl) _

end Action

namespace Surroundings

open CredentialResolution.Action

/-- Related surroundings have the same core, and their variables are read alike. What is done to
both of them keeps them related. -/
structure Unread (states : Surroundings → Surroundings → Prop) : Prop where
  core : ∀ ⦃surroundings surroundings'⦄, states surroundings surroundings' →
    surroundings.core = surroundings'.core
  readVariable : ∀ name, Agrees states (· = ·) (readVariable name) (readVariable name)
  record : ∀ event ⦃surroundings surroundings'⦄, states surroundings surroundings' →
    states (surroundings.record event) (surroundings'.record event)
  detached : ∀ {Failure Value : Type} {action : Action Surroundings Failure Value},
    Detached action → ∀ ⦃surroundings surroundings'⦄, states surroundings surroundings' →
      states (action surroundings).2 (action surroundings').2

/-- A promise that lasts is kept by all that is done. -/
theorem unread_kept {promise : Promise} (lasts : promise.Lasts) : Unread (Kept promise) where
  core _ _ kept := by
    rw [eq_of_unrecorded kept.unrecorded]
    rfl
  readVariable name surroundings surroundings' kept := by
    rw [eq_of_unrecorded kept.unrecorded]
    simp only [readVariable]
    split
    · exact ⟨.refl _, rfl, kept.promised⟩
    · split <;> exact ⟨.refl _, rfl, kept.promised⟩
  record event _ _ kept := ⟨kept.unrecorded, kept.promised⟩
  detached {Failure Value action} detached surroundings surroundings' kept := by
    refine ⟨?_, detached.keeps lasts surroundings kept.promised⟩
    have apart := detached.apart surroundings surroundings'.journal surroundings.environment
    rw [eq_of_unrecorded kept.unrecorded]
    rw [apart, unrecorded, unrecorded]
    have same := detached.environment surroundings
    rw [← same]

namespace Unread

variable {states : Surroundings → Surroundings → Prop} {Failure Value : Type}
  {surroundings surroundings' : Surroundings}

/-- A part of the surroundings that journal and environment have nothing to do with is the same. -/
theorem sees (unread : Unread states) (related : states surroundings surroundings')
    (view : Surroundings → Value)
    (blind : ∀ surroundings : Surroundings, view surroundings.core = view surroundings) :
    view surroundings = view surroundings' := by
  rw [← blind surroundings, unread.core related, blind]

theorem agrees (unread : Unread states) {action : Action Surroundings Failure Value}
    (detached : Detached action) : Agrees states (· = ·) action action := by
  intro surroundings surroundings' related
  refine ⟨?_, unread.detached detached related⟩
  rw [(detached.core (unread.core related)).1]
  exact .refl _

theorem log (unread : Unread states) (entry : LogEntry) ⦃surroundings surroundings' : Surroundings⦄
    (related : states surroundings surroundings') :
    states (surroundings.log entry) (surroundings'.log entry) :=
  unread.record (.logged entry) related

/-- A change that has nothing to do with journal, environment and promises keeps the relation. -/
theorem change (unread : Unread states) (change : Surroundings → Surroundings)
    (detached : Detached (update change : Action Surroundings Empty Unit))
    (related : states surroundings surroundings') :
    states (change surroundings) (change surroundings') :=
  unread.detached detached related

section Sources

theorem takeScripted (unread : Unread states) (position : Nat) (setting : Setting) :
    Agrees states (· = ·) (Surroundings.takeScripted position setting)
      (Surroundings.takeScripted position setting) := by
  apply unread.agrees
  constructor
  · intro surroundings journal environment
    simp only [Surroundings.takeScripted]
    split <;> rfl
  · intro promise lasts surroundings promised
    simp only [Surroundings.takeScripted]
    split
    · exact promised
    · rename_i source found
      exact lasts.take setting found promised

/-- Loads from one source agree. -/
theorem load (unread : Unread states) (source : Source) (setting : Setting) :
    Agrees states (· = ·) (source.load setting) (source.load setting) := by
  cases source with
  | fixedVariables entries =>
    exact bind_agrees (update_agrees (unread.log _)) fun _ _ _ => pure_agrees rfl
  | process =>
    exact bind_agrees (update_agrees (unread.log _)) fun _ _ _ => unread.readVariable _
  | properties store =>
    apply bind_agrees (update_agrees (unread.log _))
    intro _ _ _
    exact unread.agrees ⟨fun _ _ _ => rfl, fun _ _ promised => promised⟩
  | scripted position =>
    apply bind_agrees (update_agrees (unread.record _))
    intro _ _ _
    exact unread.takeScripted position setting

end Sources

section Factories

theorem readToken (unread : Unread states) (path : Path) :
    Agrees states (· = ·) (Surroundings.readToken path) (Surroundings.readToken path) := by
  intro surroundings surroundings' related
  have same := unread.sees related (fun surroundings => surroundings.files.read path)
    fun _ => rfl
  have logged := unread.log (.readingToken path) related
  simp only [Surroundings.readToken, Surroundings.log, Surroundings.record, same] at logged ⊢
  split
  · split
    · exact ⟨.refl _, logged⟩
    · split <;> exact ⟨.refl _, logged⟩
  · exact ⟨.refl _, related⟩

theorem updateRegistry (unread : Unread states) (position : Nat)
    (change : Bindings Constructor → Bindings Constructor)
    (related : states surroundings surroundings') :
    states (surroundings.updateRegistry position change)
      (surroundings'.updateRegistry position change) :=
  unread.change (Surroundings.updateRegistry position change)
    ⟨fun _ _ _ => rfl, fun _ _ promised => promised⟩ related

theorem lookUp (unread : Unread states) (registry : Nat) (capability : String) :
    Agrees states (· = ·) (Surroundings.lookUp registry capability)
      (Surroundings.lookUp registry capability) := by
  intro surroundings surroundings' related
  have same := unread.sees related
    (fun surroundings => (surroundings.registry registry).get? capability) fun _ => rfl
  simp only [Surroundings.lookUp, same]
  cases (surroundings'.registry registry).get? capability with
  | none => exact ⟨.refl _, unread.log _ related⟩
  | some constructor =>
    refine ⟨.refl _, ?_⟩
    have constructed := unread.record (.constructed constructor.label) related
    cases constructor with
    | plain label result => exact constructed
    | unregistering label result =>
      have registered := unread.sees constructed (Surroundings.isRegistered registry capability)
        fun _ => rfl
      simp only [construct, react, unregister, registered]
      exact unread.record _ (unread.updateRegistry _ _ constructed)
    | replacing label result next =>
      exact unread.updateRegistry _ _ (unread.log _ constructed)

/-- A name leads to the same in both runs. -/
theorem named (unread : Unread states) (name : String) {find? : Surroundings → Option Value}
    (blind : ∀ surroundings : Surroundings, find? surroundings.core = find? surroundings) :
    Agrees states (· = ·) (Surroundings.named name find? : Action Surroundings Failure Value)
      (Surroundings.named name find?) := by
  apply named_agrees
  intro surroundings surroundings' related
  rw [unread.sees related find? blind]
  cases find? surroundings' <;> constructor
  rfl

theorem overSettings (unread : Unread states) (source : Source) (registry : Nat) :
    Agrees states (· = ·)
      (Provider.overSettings source registry : Action Surroundings Failure Provider)
      (Provider.overSettings source registry) :=
  unread.agrees ⟨fun _ _ _ => rfl, fun _ _ promised => promised⟩

theorem scripted (unread : Unread states) (delegate : ScriptedDelegate) :
    Agrees states (· = ·)
      (Provider.scripted delegate : Action Surroundings Failure Provider)
      (Provider.scripted delegate) :=
  unread.agrees ⟨fun _ _ _ => rfl, fun _ _ promised => promised⟩

theorem buildSource (unread : Unread states) (blueprint : SourceBlueprint) :
    Agrees states (· = ·) blueprint.build blueprint.build := by
  cases blueprint with
  | fixedVariables entries => exact pure_agrees rfl
  | process => exact pure_agrees rfl
  | properties entries =>
    exact unread.agrees ⟨fun _ _ _ => rfl, fun lasts _ promised => lasts.addStore _ promised⟩
  | store name =>
    apply bind_agrees (unread.named name fun _ => rfl)
    rintro position _ rfl
    exact pure_agrees rfl
  | scripted source =>
    exact unread.agrees ⟨fun _ _ _ => rfl, fun lasts _ promised => lasts.addSource _ promised⟩
  | named name => exact unread.named name fun _ => rfl

theorem findRegistry (unread : Unread states) (name : Option String) :
    Agrees states (· = ·) (ProviderBlueprint.findRegistry name)
      (ProviderBlueprint.findRegistry name) := by
  cases name with
  | none => exact pure_agrees rfl
  | some name => exact unread.named name fun _ => rfl

/-- One description builds the same providers in both runs. -/
theorem builds (unread : Unread states) : Builds states (· = ·) (· = ·) fun _ => True where
  record := unread.record
  fixed _ := rfl
  scripted delegate := (unread.scripted delegate).related
  source := unread.buildSource
  sharedProperties := rfl
  process := rfl
  registry := unread.findRegistry
  settings := by
    rintro source _ rfl registry
    exact (unread.overSettings source registry).related
  named name _ := (unread.named name fun _ => rfl).related

end Factories

section Choosing

variable {load load' : Setting → Action Surroundings Empty (Option String)}

/-- Ways of loading that agree lead to choices with agreeing means. -/
theorem means (unread : Unread states)
    (loads : ∀ setting, Agrees states (· = ·) (load setting) (load' setting)) (registry : Nat) :
    Means.Agree states (· = ·) (ChainTree.Related (· = ·)) (meansOf load registry)
      (meansOf load' registry) where
  log := unread.log
  load := loads
  readToken := unread.readToken
  lookUp := unread.lookUp registry webIdentity
  create := by
    rintro factory _ rfl
    exact unread.builds.create_agrees fun _ _ => trivial
  fixed _ := .single rfl

theorem numbered (unread : Unread states)
    {choice choice' : Action Surroundings ResolutionError Provider}
    (choices : Agrees states (ChainTree.Related (· = ·)) choice choice') :
    Agrees states (· = ·) (Numbered.choose choice) (Numbered.choose choice') := by
  apply bind_agrees choices
  intro delegate delegate' same
  rw [ChainTree.Related.eq id same]
  intro surroundings surroundings' related
  have sameCount := unread.sees related (fun surroundings => surroundings.chosenCount)
    fun _ => rfl
  have counted := unread.change
    (fun surroundings => { surroundings with chosenCount := surroundings.chosenCount + 1 })
    ⟨fun _ _ _ => rfl, fun _ _ promised => promised⟩ related
  have recorded := unread.record (.chosen surroundings'.chosenCount) counted
  simp only [sameCount] at recorded ⊢
  exact ⟨.refl _, recorded⟩

theorem memo (unread : Unread states) (position : Nat) :
    Memo.Agree states (· = ·) (Surroundings.memo position) (Surroundings.memo position) where
  held _ _ related := by
    rw [unread.sees related (Surroundings.memo position).held fun _ => rfl]
    cases (Surroundings.memo position).held _ <;> constructor
    rfl
  keep delegate delegate' same surroundings surroundings' related := by
    have sameDelegate : delegate = delegate' := by
      cases same with
      | none => rfl
      | some same => rw [same]
    rw [sameDelegate]
    exact unread.change ((Surroundings.memo position).keep delegate')
      ⟨fun _ _ _ => rfl, fun _ _ promised => promised⟩ related

theorem resolveScripted (unread : Unread states) (position : Nat) :
    Agrees states (· = ·) (Surroundings.resolveScripted position)
      (Surroundings.resolveScripted position) := by
  intro surroundings surroundings' related
  have same := unread.sees related
    (fun surroundings => surroundings.scriptedDelegates.get? position) fun _ => rfl
  simp only [Surroundings.resolveScripted, same]
  cases surroundings'.scriptedDelegates.get? position with
  | none => exact ⟨.refl _, related⟩
  | some delegate =>
    refine ⟨.refl _, unread.record _ ?_⟩
    exact unread.change (setScriptedDelegate position _)
      ⟨fun _ _ _ => rfl, fun _ _ promised => promised⟩ related

end Choosing

section Calls

variable {source source' : Source}

theorem consult (unread : Unread states) {nesting : Nat}
    (deeper : ∀ provider, Agrees states (· = ·) (SingleProvider.resolve nesting provider)
      (SingleProvider.resolve nesting provider)) (numbered : Numbered Provider) :
    Agrees states (· = ·) (Numbered.resolve (Provider.resolve nesting) numbered)
      (Numbered.resolve (Provider.resolve nesting) numbered) := by
  intro surroundings surroundings' related
  have same : ChainTree.Related (· = ·) numbered.delegate numbered.delegate :=
    ChainTree.related_self numbered.delegate fun _ _ => rfl
  refine ChainTree.resolve_agrees ?_ unread.log same (unread.record _ related)
  rintro provider _ rfl
  exact deeper provider

/-- What is done with a delegate in the memo does not depend on which source loaded it. -/
theorem resolve_settings (unread : Unread states)
    (loads : ∀ setting, Agrees states (· = ·) (source.load setting) (source'.load setting))
    (registry memo nesting : Nat)
    (deeper : ∀ provider, Agrees states (· = ·) (SingleProvider.resolve nesting provider)
      (SingleProvider.resolve nesting provider)) :
    Agrees states (· = ·)
      (SingleProvider.resolve (nesting + 1) (.settings source registry memo))
      (SingleProvider.resolve (nesting + 1) (.settings source' registry memo)) := by
  have choices := unread.numbered (Means.choose_agrees (unread.means loads registry))
  apply Memo.resolve_agrees (unread.memo memo) choices
  rintro numbered _ rfl
  exact unread.consult deeper numbered

/-- Resolving agrees, by induction on how deeply the calls are nested. -/
theorem resolveSingle (unread : Unread states) (nesting : Nat) (provider : SingleProvider) :
    Agrees states (· = ·) (SingleProvider.resolve nesting provider)
      (SingleProvider.resolve nesting provider) := by
  induction nesting generalizing provider with
  | zero =>
    cases provider with
    | fixed credentials => exact pure_agrees rfl
    | scripted position => exact unread.resolveScripted position
    | settings source registry memo => exact panicked_agrees _
  | succ nesting inductionHypothesis =>
    cases provider with
    | fixed credentials => exact pure_agrees rfl
    | scripted position => exact unread.resolveScripted position
    | settings source registry memo =>
      exact unread.resolve_settings (unread.load source) registry memo nesting inductionHypothesis

theorem closeScripted (unread : Unread states) (position : Nat)
    (related : states surroundings surroundings') :
    (surroundings.closeScripted position).1 = (surroundings'.closeScripted position).1 ∧
      states (surroundings.closeScripted position).2 (surroundings'.closeScripted position).2 := by
  have same := unread.sees related
    (fun surroundings => surroundings.scriptedDelegates.get? position) fun _ => rfl
  simp only [Surroundings.closeScripted, same]
  split
  · exact ⟨rfl, related⟩
  · refine ⟨rfl, unread.record _ ?_⟩
    exact unread.change (setScriptedDelegate position _)
      ⟨fun _ _ _ => rfl, fun _ _ promised => promised⟩ related

/-- Closing agrees, by induction on how many memos may still be released. -/
theorem closeSingle (unread : Unread states) (filled : Nat) :
    ChainTree.ClosesAlike states (· = ·) (SingleProvider.close filled)
      (SingleProvider.close filled) := by
  induction filled with
  | zero =>
    rintro provider _ rfl surroundings surroundings' related
    cases provider with
    | fixed credentials => exact ⟨rfl, related⟩
    | scripted position => exact unread.closeScripted position related
    | settings source registry memo => exact ⟨rfl, related⟩
  | succ filled inductionHypothesis =>
    rintro provider _ rfl surroundings surroundings' related
    cases provider with
    | fixed credentials => exact ⟨rfl, related⟩
    | scripted position => exact unread.closeScripted position related
    | settings source registry memo =>
      refine ⟨rfl, ?_⟩
      have self (provider : Provider) : ChainTree.Related (· = ·) provider provider :=
        ChainTree.related_self provider fun _ _ => rfl
      apply Memo.release_agrees (unread.memo memo) _ _ unread.log related
      · rintro numbered _ rfl surroundings surroundings' related
        exact ChainTree.close_agrees inductionHypothesis unread.log (self _)
          (unread.record _ related)
      · rintro numbered _ rfl surroundings surroundings' related
        refine ChainTree.discard_agrees ?_ (self _) related
        rintro provider _ rfl surroundings surroundings' related
        cases provider with
        | fixed credentials => exact related
        | scripted position => exact related
        | settings source registry memo => exact (inductionHypothesis rfl related).2

end Calls

end Unread

end Surroundings

open Surroundings CredentialResolution.Action

/-- A call is no change from outside. -/
def Turn.IsCall : Turn → Prop
  | .change _ => False
  | _ => True

namespace Provider

variable {states : Surroundings → Surroundings → Prop} {source source' : Source}
  {surroundings surroundings' : Surroundings}

/-- Two providers whose sources load alike, with one memo position, answer a call alike. -/
theorem answer_agrees (unread : Unread states)
    (loads : ∀ setting, Agrees states (· = ·) (source.load setting) (source'.load setting))
    (registry memo nesting : Nat) {turn : Turn} (isCall : turn.IsCall)
    (related : states surroundings surroundings') :
    let provider : Provider := .single (.settings source registry memo)
    let provider' : Provider := .single (.settings source' registry memo)
    (provider.answer nesting turn surroundings).1 =
        (provider'.answer nesting turn surroundings').1 ∧
      states (provider.answer nesting turn surroundings).2
        (provider'.answer nesting turn surroundings').2 := by
  intro provider provider'
  cases turn with
  | resolve =>
    have agrees : Agrees states (· = ·) (provider.resolve nesting) (provider'.resolve nesting) := by
      change Agrees _ _ (SingleProvider.resolve nesting (.settings source registry memo))
        (SingleProvider.resolve nesting (.settings source' registry memo))
      cases nesting with
      | zero => exact panicked_agrees _
      | succ nesting =>
        exact unread.resolve_settings loads registry memo nesting (unread.resolveSingle nesting)
    obtain ⟨alike, left⟩ := agrees related
    exact ⟨congrArg Turn.Answer.resolved alike.eq, left⟩
  | close =>
    -- Closing never uses the source.
    have sameCount := unread.sees related (fun surroundings => surroundings.memos.count)
      fun _ => rfl
    have sameSource (filled : Nat) :
        SingleProvider.close filled (.settings source' registry memo) =
          SingleProvider.close filled (.settings source registry memo) := by
      cases filled <;> rfl
    obtain ⟨results, left⟩ := unread.closeSingle surroundings'.memos.count
      (rfl : SingleProvider.settings source registry memo = _) related
    simp only [Provider.answer, Provider.close, provider, provider', ChainTree.close, sameCount,
      sameSource]
    exact ⟨congrArg Turn.Answer.closed results, left⟩
  | isResolved =>
    have sameMemo := unread.sees related (Surroundings.memo memo).held fun _ => rfl
    refine ⟨?_, related⟩
    simp only [Provider.answer, isResolved?, provider, provider', sameMemo]
  | change outside => exact isCall.elim

/-- Over all calls the providers give the same answers, by induction on the calls. -/
theorem run_agrees (unread : Unread states)
    (loads : ∀ setting, Agrees states (· = ·) (source.load setting) (source'.load setting))
    (registry memo nesting : Nat) (calls : List Turn) (areCalls : ∀ call ∈ calls, call.IsCall)
    (related : states surroundings surroundings') :
    let provider : Provider := .single (.settings source registry memo)
    let provider' : Provider := .single (.settings source' registry memo)
    let run := Turn.run (provider.answer nesting) calls surroundings
    let run' := Turn.run (provider'.answer nesting) calls surroundings'
    run.1 = run'.1 ∧ states run.2 run'.2 := by
  induction calls generalizing surroundings surroundings' with
  | nil => exact ⟨rfl, related⟩
  | cons call rest inductionHypothesis =>
    obtain ⟨isCall, rest⟩ := List.forall_mem_cons.mp areCalls
    obtain ⟨first, left⟩ := answer_agrees unread loads registry memo nesting isCall related
    obtain ⟨answers, ended⟩ := inductionHypothesis rest left
    simp only [Turn.run]
    exact ⟨by rw [first, answers], ended⟩

end Provider

end CredentialResolution
