/-
This file compares the environment of the process with fixed variables. If these are the variables
whose bytes are a text, no run tells the two apart but by the log, where the process marks the
others.
-/

import CredentialResolution.Proofs.OrderedChoice
import CredentialResolution.Proofs.Precedence
import CredentialResolution.Proofs.Unrecorded
import CredentialResolution.Proofs.WellFormed
import Mathlib.Data.List.Induction

namespace CredentialResolution

open CredentialResolution.Action Surroundings

/-- The entries are the variables whose bytes are the encoding of a text, each with this text. -/
def Decodes (environment : Bindings Bytes) (entries : List (String × String)) : Prop :=
  ∀ name text, (name, text) ∈ entries ↔ environment.get? name = some (Bytes.ofText text)

namespace Bindings

/-- A variable whose bytes are not a text has none. -/
def text? (environment : Bindings Bytes) (name : String) : Option String :=
  (environment.get? name).bind Bytes.text?

/-- Reading a variable is marked in the log if its bytes are ill-formed. -/
def marks (environment : Bindings Bytes) (name : String) : List Event :=
  match environment.get? name with
  | none => []
  | some bytes => if Text.WellFormed bytes then [] else [.logged (.notUnicode name)]

section Entries

variable {Value : Type} {entries : List (String × Value)} {name : String} {value : Value}

theorem ofList_concat (entries : List (String × Value)) (entry : String × Value) :
    ofList (entries ++ [entry]) = (ofList entries).insert entry.1 entry.2 := by
  rw [ofList, List.foldl_append]
  rfl

/-- What a list of entries binds stands in the list; by induction on the list, the last entry
first. -/
theorem mem_of_get?_ofList (found : (ofList entries).get? name = some value) :
    (name, value) ∈ entries := by
  induction entries using List.reverseRecOn with
  | nil => cases found
  | append_singleton earlier entry inductionHypothesis =>
    rw [ofList_concat, get?_insert] at found
    split at found
    · rename_i same
      cases found
      rw [same]
      exact List.mem_append_right _ (List.mem_singleton_self entry)
    · exact List.mem_append_left _ (inductionHypothesis found)

theorem exists_get?_ofList (among : (name, value) ∈ entries) :
    ∃ last, (ofList entries).get? name = some last := by
  induction entries using List.reverseRecOn with
  | nil => cases among
  | append_singleton earlier entry inductionHypothesis =>
    rw [ofList_concat, get?_insert]
    split
    · exact ⟨_, rfl⟩
    · rename_i different
      rcases List.mem_append.mp among with among | among
      · exact inductionHypothesis among
      · rw [List.mem_singleton] at among
        exact absurd (congrArg Prod.fst among) different

end Entries

end Bindings

namespace Decodes

variable {environment : Bindings Bytes} {entries : List (String × String)}

theorem text?_eq_some_iff {name text : String} :
    environment.text? name = some text ↔ environment.get? name = some (Bytes.ofText text) := by
  rw [Bindings.text?, Option.bind_eq_some_iff]
  constructor
  · rintro ⟨bytes, found, decoded⟩
    rw [found, Bytes.text?_eq_some_iff.mp decoded]
  · exact fun found => ⟨_, found, Bytes.text?_ofText text⟩

/-- The entries bind the texts of the variables, in whatever order they stand. -/
theorem get?_ofList (decodes : Decodes environment entries) (name : String) :
    (Bindings.ofList entries).get? name = environment.text? name := by
  apply Option.ext
  intro text
  rw [text?_eq_some_iff, ← decodes name text]
  constructor
  · exact Bindings.mem_of_get?_ofList
  · intro among
    obtain ⟨last, found⟩ := Bindings.exists_get?_ofList among
    have sameBytes := (decodes name text).mp among
    rw [(decodes name last).mp (Bindings.mem_of_get?_ofList found)] at sameBytes
    rw [found, Bytes.ofText_injective (Option.some.inj sameBytes)]

/-- Every environment has such a list of entries. -/
theorem exists_entries (environment : Bindings Bytes) :
    ∃ entries, Decodes environment entries := by
  refine ⟨environment.entries.filterMap fun entry =>
    (environment.text? entry.1).map fun text => (entry.1, text), ?_⟩
  intro name text
  rw [← text?_eq_some_iff, List.mem_filterMap]
  constructor
  · rintro ⟨entry, -, decoded⟩
    obtain ⟨_, decoded, ⟨⟩⟩ := Option.map_eq_some_iff.mp decoded
    exact decoded
  · intro decoded
    obtain ⟨bytes, found, -⟩ := Option.bind_eq_some_iff.mp decoded
    obtain ⟨earlier, later, split, -⟩ := List.lookup_eq_some_iff.mp found
    refine ⟨(name, bytes), ?_, by rw [decoded]; rfl⟩
    rw [split]
    exact List.mem_append_right _ List.mem_cons_self

/-- The entries are as well those of the environment in which nothing else is set. -/
theorem unset (decodes : Decodes environment entries) :
    Decodes ((Bindings.ofList entries).map Bytes.ofText) entries := by
  intro name text
  rw [Bindings.get?_map, decodes.get?_ofList, decodes name text, ← text?_eq_some_iff]
  constructor
  · intro decoded
    rw [decoded]
    rfl
  · intro mapped
    obtain ⟨other, decoded, sameBytes⟩ := Option.map_eq_some_iff.mp mapped
    rw [decoded, Bytes.ofText_injective sameBytes]

end Decodes

namespace Surroundings

/-- These surroundings have the events recorded in their order. -/
def recordAll (events : List Event) (surroundings : Surroundings) : Surroundings :=
  { surroundings with journal := events.reverse ++ surroundings.journal }

theorem events_recordAll (events : List Event) (surroundings : Surroundings) :
    (surroundings.recordAll events).events = surroundings.events ++ events := by
  simp [recordAll, Surroundings.events]

theorem recordAll_append (events later : List Event) (surroundings : Surroundings) :
    surroundings.recordAll (events ++ later) = (surroundings.recordAll events).recordAll later := by
  simp [recordAll]

/-- Reading a variable gives its text and changes nothing but the journal. -/
theorem readVariable_eq (name : String) (surroundings : Surroundings) :
    Surroundings.readVariable name surroundings =
      (.ok (surroundings.environment.text? name),
        surroundings.recordAll (surroundings.environment.marks name)) := by
  simp only [Surroundings.readVariable, Bindings.text?, Bindings.marks]
  cases surroundings.environment.get? name with
  | none => rfl
  | some bytes =>
    simp only [Option.bind_some]
    cases decoded : bytes.text? with
    | none =>
      rw [if_neg (Text.text?_eq_none_iff.mp decoded)]
      rfl
    | some text =>
      rw [if_pos (Text.wellFormed_iff.mpr ⟨text, Bytes.text?_eq_some_iff.mp decoded⟩)]
      rfl

/-- Two environments have the same texts, and those of their marks that are shown are the same. -/
structure ReadAlike (shown : Event → Bool) (environment environment' : Bindings Bytes) : Prop where
  text : ∀ name, environment.text? name = environment'.text? name
  marks : ∀ name, (environment.marks name).filter shown = (environment'.marks name).filter shown

/-- The two runs have come as far as each other: nothing has become different but for the journals,
and what both have added to these is shown the same. -/
structure Alongside (shown : Event → Bool)
    (start start' surroundings surroundings' : Surroundings) : Prop where
  core : surroundings.core = surroundings'.core
  environment : surroundings.environment = start.environment
  environment' : surroundings'.environment = start'.environment
  gained : ∃ events events', surroundings.journal = events ++ start.journal ∧
    surroundings'.journal = events' ++ start'.journal ∧ events.filter shown = events'.filter shown

namespace Alongside

variable {shown : Event → Bool} {start start' surroundings surroundings' : Surroundings}

theorem begins (same : start.core = start'.core) : Alongside shown start start' start start' :=
  ⟨same, rfl, rfl, [], [], rfl, rfl, rfl⟩

theorem recordAll (along : Alongside shown start start' surroundings surroundings')
    {events events' : List Event} (same : events.filter shown = events'.filter shown) :
    Alongside shown start start' (surroundings.recordAll events)
      (surroundings'.recordAll events') := by
  obtain ⟨gained, gained', grown, grown', alike⟩ := along.gained
  refine ⟨along.core, along.environment, along.environment', events.reverse ++ gained,
    events'.reverse ++ gained', ?_, ?_, ?_⟩
  · rw [Surroundings.recordAll, grown, List.append_assoc]
  · rw [Surroundings.recordAll, grown', List.append_assoc]
  · simp only [List.filter_append, List.filter_reverse, same, alike]

/-- If both environments are the same, nothing but the journals is different. -/
theorem unrecorded (along : Alongside shown start start' surroundings surroundings')
    (same : start.environment = start'.environment) :
    surroundings.unrecorded = surroundings'.unrecorded := by
  have sameEnvironment : surroundings.environment = surroundings'.environment := by
    rw [along.environment, along.environment', same]
  have completed := congrArg (fun core : Surroundings =>
    { core with environment := surroundings'.environment }) along.core
  rw [Surroundings.unrecorded, sameEnvironment]
  exact completed

/-- What is shown of the events is the same if it was the same at the start. -/
theorem shown_events (along : Alongside shown start start' surroundings surroundings')
    (same : start.journal = start'.journal) :
    surroundings.events.filter shown = surroundings'.events.filter shown := by
  obtain ⟨gained, gained', grown, grown', alike⟩ := along.gained
  simp only [events, grown, grown', same, List.reverse_append, List.filter_append,
    List.filter_reverse, alike]

end Alongside

/-- The two runs stay alongside each other if variables are read alike. -/
theorem unread_alongside {shown : Event → Bool} {start start' : Surroundings}
    (alike : ReadAlike shown start.environment start'.environment) :
    Unread (Alongside shown start start') where
  core _ _ along := along.core
  readVariable name surroundings surroundings' along := by
    rw [readVariable_eq, readVariable_eq, along.environment, along.environment', alike.text]
    exact ⟨.refl _, along.recordAll (alike.marks name)⟩
  record event _ _ along :=
    along.recordAll (rfl : [event].filter shown = [event].filter shown)
  detached detached surroundings surroundings' along := by
    refine ⟨(detached.core along.core).2, ?_, ?_, ?_⟩
    · rw [detached.environment, along.environment]
    · rw [detached.environment, along.environment']
    · rw [detached.journal, detached.journal]
      exact along.gained

end Surroundings

section Loading

/-- A load of the setting is recorded so by fixed variables. -/
def Setting.variableLoad (setting : Setting) : List Event :=
  [.logged (.loadingVariable setting.environmentVariable)]

/-- In the process the load is followed by the mark of its variable. -/
def Setting.processLoad (environment : Bindings Bytes) (setting : Setting) : List Event :=
  setting.variableLoad ++ environment.marks setting.environmentVariable

/-- This event is no mark. -/
def Event.isUnmarked : Event → Bool
  | .logged (.notUnicode _) => false
  | _ => true

/-- If every load gives its value and records its events, so does loading the settings. -/
theorem askEach_of_records {Failure : Type}
    {load : Setting → Action Surroundings Failure (Option String)}
    {values : Setting → Option String} {records : Setting → List Event} {start : Surroundings}
    (each : ∀ setting earlier, load setting (start.recordAll earlier) =
      (.ok (values setting), start.recordAll (earlier ++ records setting)))
    (settings : List Setting) (earlier : List Event) :
    askEach load settings (start.recordAll earlier) =
      (.ok (settings.map fun setting => (setting, values setting)),
        start.recordAll (earlier ++ settings.flatMap records)) := by
  induction settings generalizing earlier with
  | nil =>
    rw [List.flatMap_nil, List.append_nil]
    rfl
  | cons setting rest inductionHypothesis =>
    rw [askEach, bind_of_ok (each setting earlier), bind_of_ok (inductionHypothesis _),
      List.flatMap_cons, List.append_assoc]
    rfl

variable {environment : Bindings Bytes} {entries : List (String × String)}

theorem load_process_recordAll (start : Surroundings) (setting : Setting) (earlier : List Event) :
    Source.process.load setting (start.recordAll earlier) =
      (.ok (start.environment.text? setting.environmentVariable),
        start.recordAll (earlier ++ setting.processLoad start.environment)) := by
  have logged : (update (log (.loadingVariable setting.environmentVariable)) :
      Action Surroundings Empty Unit) (start.recordAll earlier) =
        (.ok (), start.recordAll (earlier ++ setting.variableLoad)) := by
    rw [recordAll_append]
    rfl
  rw [Setting.processLoad, ← List.append_assoc, recordAll_append]
  exact (bind_of_ok logged).trans (readVariable_eq _ _)

theorem load_variables_recordAll (decodes : Decodes environment entries) (start : Surroundings)
    (setting : Setting) (earlier : List Event) :
    (Source.fixedVariables (.ofList entries)).load setting (start.recordAll earlier) =
      (.ok (environment.text? setting.environmentVariable),
        start.recordAll (earlier ++ setting.variableLoad)) := by
  rw [← decodes.get?_ofList, recordAll_append]
  rfl

/-- The settings that are loaded from the texts of an environment. -/
def LoadedSettings.ofTexts (environment : Bindings Bytes) : LoadedSettings :=
  .present fun setting => environment.text? setting.environmentVariable

theorem loadSettings_of_records {source : Source} {records : Setting → List Event}
    {start : Surroundings}
    (each : ∀ setting earlier, source.load setting (start.recordAll earlier) =
      (.ok (environment.text? setting.environmentVariable),
        start.recordAll (earlier ++ records setting))) :
    LoadedSettings.load source.load start =
      (.ok (.ofTexts environment), start.recordAll (Setting.all.flatMap records)) := by
  rw [load_eq_askEach]
  exact bind_of_ok (askEach_of_records each Setting.all [])

theorem loadSettings_process (start : Surroundings) :
    LoadedSettings.load Source.process.load start =
      (.ok (.ofTexts start.environment),
        start.recordAll (Setting.all.flatMap (Setting.processLoad start.environment))) :=
  loadSettings_of_records (load_process_recordAll start)

theorem loadSettings_variables (decodes : Decodes environment entries) (start : Surroundings) :
    LoadedSettings.load (Source.fixedVariables (.ofList entries)).load start =
      (.ok (.ofTexts environment), start.recordAll (Setting.all.flatMap Setting.variableLoad)) :=
  loadSettings_of_records (load_variables_recordAll decodes start)

end Loading

section Calls

variable {source : Source} {registry position nesting : Nat}

/-- This is the rest of a call of a provider that has loaded its settings. -/
def Provider.proceed (registry position nesting : Nat) (settings : LoadedSettings) :
    Action Surroundings ResolutionError Credentials := do
  let numbered ← Numbered.choose ((means .process registry).chooseFrom settings)
  update ((memo position).keep (some numbered))
  Numbered.resolve (Provider.resolve nesting) numbered

/-- A provider whose memo is empty loads its settings first and does not use its source again. -/
theorem Provider.resolve_of_loaded {start loaded : Surroundings} {settings : LoadedSettings}
    (empty : (memo position).held start = none)
    (loads : LoadedSettings.load source.load start = (.ok settings, loaded)) :
    Provider.resolve (nesting + 1) (.single (.settings source registry position)) start =
      Provider.proceed registry position nesting settings loaded := by
  have widened : (LoadedSettings.load source.load).widen start =
      ((.ok settings, loaded) : Outcome ResolutionError LoadedSettings × Surroundings) := by
    rw [Action.widen, loads]
    rfl
  have chosen : Numbered.choose (means source registry).choose start =
      Numbered.choose ((means .process registry).chooseFrom settings) loaded :=
    bind_congr (bind_of_ok widened)
  have obtained := (Memo.obtain_of_empty empty).trans (bind_congr chosen)
  rw [Provider.resolve_settings, Provider.proceed]
  refine (bind_congr obtained).trans ?_
  rw [bind_assoc]
  rfl

/-- What follows the loading agrees in both runs. -/
theorem Provider.proceed_agrees {states : Surroundings → Surroundings → Prop}
    (unread : Unread states) (settings : LoadedSettings) :
    Agrees states (· = ·) (Provider.proceed registry position nesting settings)
      (Provider.proceed registry position nesting settings) := by
  have means := unread.means (unread.load .process) registry
  apply bind_agrees (unread.numbered (Means.chooseFrom_agrees means settings))
  rintro numbered _ rfl
  apply bind_agrees (update_agrees ((unread.memo position).keep (.some rfl)))
  intro _ _ _
  exact unread.consult (unread.resolveSingle nesting) numbered

/-- These settings are loaded by the provider itself during the call. -/
def Turn.loaded (position nesting : Nat) (surroundings : Surroundings) : Turn → List Setting
  | .resolve =>
    if 0 < nesting ∧ ((memo position).held surroundings).isNone then Setting.all else []
  | _ => []

/-- Only a call that resolves with an empty memo loads settings, and it loads all of them. -/
theorem Turn.loaded_cases (position nesting : Nat) (surroundings : Surroundings) (call : Turn) :
    call.loaded position nesting surroundings = [] ∨
      call = .resolve ∧ (memo position).held surroundings = none ∧
        (∃ deeper, nesting = deeper + 1) ∧
          call.loaded position nesting surroundings = Setting.all := by
  cases call with
  | resolve =>
    rw [Turn.loaded]
    split
    · rename_i loads
      obtain ⟨deeper, rfl⟩ := Nat.exists_eq_add_one.mpr loads.1
      exact .inr ⟨rfl, Option.isNone_iff_eq_none.mp loads.2, ⟨deeper, rfl⟩, rfl⟩
    · exact .inl rfl
  | close | isResolved | change => exact .inl rfl

/-- A call without loads of its own does not depend on the source of the provider. -/
theorem Provider.answer_of_none_loaded {call : Turn} {surroundings : Surroundings}
    (none : call.loaded position nesting surroundings = []) (source source' : Source) :
    Provider.answer (.single (.settings source registry position)) nesting call surroundings =
      Provider.answer (.single (.settings source' registry position)) nesting call
        surroundings := by
  cases call with
  | resolve =>
    cases nesting with
    | zero => rfl
    | succ nesting =>
      cases held : (memo position).held surroundings with
      | none =>
        rw [Turn.loaded, held, if_pos ⟨Nat.succ_pos nesting, rfl⟩] at none
        cases none
      | some numbered =>
        rw [Provider.answer, Provider.answer, Provider.resolve_settings, Provider.resolve_settings,
          Memo.resolve_of_held held, Memo.resolve_of_held held]
  | close =>
    cases held : (memo position).held surroundings with
    | none =>
      rw [Provider.answer, Provider.answer, Provider.close_of_empty held,
        Provider.close_of_empty held]
    | some numbered =>
      rw [Provider.answer, Provider.answer, Provider.close_of_held held,
        Provider.close_of_held held]
  | isResolved => rfl
  | change outside => rfl

/-- Both calls add the same events to their journals, but for those of their own loads. -/
def GainsAlike (environment : Bindings Bytes) (loaded : List Setting)
    (before after before' after' : Surroundings) : Prop :=
  ∃ shared,
    after.events = before.events ++ loaded.flatMap (Setting.processLoad environment) ++ shared ∧
      after'.events = before'.events ++ loaded.flatMap Setting.variableLoad ++ shared

/-- Runs in which everything is shown add the same to both journals. -/
theorem gainsAlike_of_alongside {environment : Bindings Bytes} {loaded : List Setting}
    {before after before' after' : Surroundings}
    (along : Alongside (fun _ => true)
      (before.recordAll (loaded.flatMap (Setting.processLoad environment)))
      (before'.recordAll (loaded.flatMap Setting.variableLoad)) after after') :
    GainsAlike environment loaded before after before' after' := by
  obtain ⟨gained, gained', grown, grown', alike⟩ := along.gained
  simp only [List.filter_true] at alike
  refine ⟨gained.reverse, ?_, ?_⟩
  · rw [← events_recordAll, events, events, grown, List.reverse_append]
  · rw [← events_recordAll, events, events, grown', List.reverse_append, alike]

variable {entries : List (String × String)} {before before' : Surroundings}

/-- One call adds the same to both journals, but for what it records of its own loads. -/
theorem Provider.answer_gainsAlike (decodes : Decodes before.environment entries)
    (same : before.unrecorded = before'.unrecorded) {call : Turn} (isCall : call.IsCall) :
    let provider : Provider := .single (.settings .process registry position)
    let provider' : Provider :=
      .single (.settings (.fixedVariables (.ofList entries)) registry position)
    GainsAlike before.environment (call.loaded position nesting before)
      before (provider.answer nesting call before).2
      before' (provider'.answer nesting call before').2 := by
  intro provider provider'
  have sameLoaded : call.loaded position nesting before' = call.loaded position nesting before := by
    rw [eq_of_unrecorded same]
    cases call <;> rfl
  have core {events events' : List Event} :
      (before.recordAll events).core = (before'.recordAll events').core := by
    have cores := congrArg Surroundings.core same
    exact cores
  have unread (events events' : List Event) : Unread (Alongside (fun _ => true)
      (before.recordAll events) (before'.recordAll events')) := by
    apply unread_alongside
    rw [eq_of_unrecorded same]
    exact ⟨fun _ => rfl, fun _ => rfl⟩
  apply gainsAlike_of_alongside
  rcases call.loaded_cases position nesting before with
    loaded | ⟨rfl, empty, ⟨deeper, rfl⟩, loaded⟩
  · rw [loaded] at sameLoaded ⊢
    rw [Provider.answer_of_none_loaded sameLoaded _ .process]
    have unread := unread [] []
    exact (Provider.answer_agrees unread (unread.load .process) registry position nesting isCall
      (.begins core)).2
  · rw [loaded]
    have empty' : (memo position).held before' = none := by
      rw [eq_of_unrecorded same]
      exact empty
    have loads := loadSettings_process before
    have loads' := loadSettings_variables decodes before'
    rw [Provider.answer, Provider.answer, Provider.resolve_of_loaded empty loads,
      Provider.resolve_of_loaded empty' loads']
    exact (Provider.proceed_agrees (unread _ _) _ (.begins core)).2

end Calls

section Runs

variable {environment environment' : Bindings Bytes} {entries : List (String × String)}

theorem filter_marks (environment : Bindings Bytes) (name : String) :
    (environment.marks name).filter Event.isUnmarked = [] := by
  rw [Bindings.marks]
  split
  · rfl
  · split <;> rfl

/-- Without the marks, only the texts of an environment are read. -/
theorem readAlike_unmarked (decodes : Decodes environment entries)
    (decodes' : Decodes environment' entries) :
    ReadAlike Event.isUnmarked environment environment' where
  text name := by rw [← decodes.get?_ofList, decodes'.get?_ofList]
  marks name := by rw [filter_marks, filter_marks]

/-- Without the marks, the process loads as the fixed variables do. -/
theorem loads_agree {start start' : Surroundings} (decodes : Decodes start.environment entries)
    (setting : Setting) :
    Agrees (Alongside Event.isUnmarked start start') (· = ·) (Source.process.load setting)
      ((Source.fixedVariables (.ofList entries)).load setting) := by
  intro surroundings surroundings' along
  have ran := load_process_recordAll surroundings setting []
  have ran' := load_variables_recordAll decodes surroundings' setting []
  change Source.process.load setting surroundings = _ at ran
  change Source.load _ setting surroundings' = _ at ran'
  rw [ran, ran', along.environment]
  refine ⟨.refl _, along.recordAll ?_⟩
  rw [List.nil_append, Setting.processLoad, List.filter_append, filter_marks, List.append_nil]
  rfl

/-- The process environment stands for the fixed variables of its texts. Reading and loading give
the same, and so do all calls of a provider, after which nothing but the journals is different.
Each call adds the same events, but for a mark after each own load of an ill-formed variable.
Whatever else such variables are set to, and if they are unset, nothing but their marks changes. -/
theorem process_reads_as_its_texts (start : Surroundings) :
    (∃ entries, Decodes start.environment entries) ∧
    ∀ entries, Decodes start.environment entries →
      let fixed := Source.fixedVariables (.ofList entries)
      (∀ name, ∃ answer,
        Source.process.readVariable name start =
            (.ok answer, start.recordAll (start.environment.marks name)) ∧
          fixed.readVariable name start = (.ok answer, start) ∧
          ∀ text, answer = some text ↔ start.environment.get? name = some (Bytes.ofText text)) ∧
      (∀ setting, ∃ answer,
        Source.process.load setting start =
            (.ok answer, start.recordAll (setting.processLoad start.environment)) ∧
          fixed.load setting start = (.ok answer, start.recordAll setting.variableLoad)) ∧
      (∃ settings, (LoadedSettings.load Source.process.load start).1 = .ok settings ∧
        (LoadedSettings.load fixed.load start).1 = .ok settings) ∧
      ∀ registry memo nesting calls, (∀ call ∈ calls, Turn.IsCall call) →
        let provider : Provider := .single (.settings .process registry memo)
        let provider' : Provider := .single (.settings fixed registry memo)
        let run := Turn.run (provider.answer nesting) calls start
        let run' := Turn.run (provider'.answer nesting) calls start
        (run.1 = run'.1 ∧ run.2.unrecorded = run'.2.unrecorded) ∧
        (∀ earlier call later, calls = earlier ++ call :: later →
          let before := provider.worldAfter nesting start earlier
          let before' := provider'.worldAfter nesting start earlier
          GainsAlike start.environment (call.loaded memo nesting before)
            before (provider.answer nesting call before).2
            before' (provider'.answer nesting call before').2) ∧
        ∀ environment, Decodes environment entries →
          let other :=
            Turn.run (provider.answer nesting) calls { start with environment := environment }
          other.1 = run.1 ∧ other.2.core = run.2.core ∧
            other.2.events.filter Event.isUnmarked = run.2.events.filter Event.isUnmarked := by
  refine ⟨Decodes.exists_entries start.environment, ?_⟩
  intro entries decodes fixed
  refine ⟨?_, ?_, ?_, ?_⟩
  · intro name
    refine ⟨start.environment.text? name, readVariable_eq name start, ?_, fun text =>
      Decodes.text?_eq_some_iff⟩
    rw [← decodes.get?_ofList]
    rfl
  · exact fun setting => ⟨_, load_process_recordAll start setting [],
      load_variables_recordAll decodes start setting []⟩
  · refine ⟨.ofTexts start.environment, ?_, ?_⟩
    · rw [loadSettings_process]
    · rw [loadSettings_variables decodes]
  intro registry memo nesting calls areCalls provider provider' run run'
  have alike := readAlike_unmarked decodes decodes
  have along (turns : List Turn) (areCalls : ∀ call ∈ turns, call.IsCall) :=
    Provider.run_agrees (unread_alongside alike) (loads_agree decodes) registry memo nesting turns
      areCalls (.begins rfl)
  refine ⟨?_, ?_, ?_⟩
  · obtain ⟨answers, ended⟩ := along calls areCalls
    exact ⟨answers, ended.unrecorded rfl⟩
  · rintro earlier call later rfl before before'
    rw [List.forall_mem_append, List.forall_mem_cons] at areCalls
    have ended : Alongside Event.isUnmarked start start before before' :=
      (along earlier areCalls.1).2
    have decodes' : Decodes before.environment entries := by
      rw [ended.environment]
      exact decodes
    rw [← ended.environment]
    exact Provider.answer_gainsAlike decodes' (ended.unrecorded rfl) areCalls.2.1
  · intro environment others other
    have unread :
        Unread (Alongside Event.isUnmarked { start with environment := environment } start) :=
      unread_alongside (readAlike_unmarked others decodes)
    obtain ⟨answers, ended⟩ := Provider.run_agrees unread (unread.load .process) registry memo
      nesting calls areCalls (.begins rfl)
    exact ⟨answers, ended.core, ended.shown_events rfl⟩

/-- A session token that starts as a text and does not go on as one is marked and not used. -/
theorem process_ignores_broken_token :
    let environment : Bindings Bytes := .ofList [("AWS_ACCESS_KEY_ID", Bytes.ofText " key "),
      ("AWS_SECRET_ACCESS_KEY", Bytes.ofText "secret"), ("AWS_SESSION_TOKEN", [0x74, 0xFF])]
    let entries := [("AWS_SECRET_ACCESS_KEY", "secret"), ("AWS_ACCESS_KEY_ID", " key ")]
    let start :=
      (addMemo { Surroundings.initial (.ofUnix 0 0) ⟨[]⟩ with environment := environment }).2
    let bare := { start with environment := (Bindings.ofList entries).map Bytes.ofText }
    let run (source : Source) (start : Surroundings) :=
      Turn.run (Provider.answer (.single (.settings source processWide 0)) 1) [.resolve, .close]
        start
    Decodes environment entries ∧
      Source.process.load .sessionToken start =
        (.ok none, start.recordAll [.logged (.loadingVariable "AWS_SESSION_TOKEN"),
          .logged (.notUnicode "AWS_SESSION_TOKEN")]) ∧
      (run .process start).1 = (run (.fixedVariables (.ofList entries)) start).1 ∧
      (run .process bare).1 = (run .process start).1 := by
  intro environment entries start bare run
  have decodes : Decodes environment entries := by
    intro name text
    constructor
    · intro among
      simp only [entries, List.mem_cons, Prod.mk.injEq, List.not_mem_nil, or_false] at among
      rcases among with ⟨rfl, rfl⟩ | ⟨rfl, rfl⟩ <;> rfl
    · intro found
      simp only [environment, Bindings.ofList, List.foldl_cons, List.foldl_nil,
        Bindings.get?_insert, Bindings.get?_empty] at found
      split_ifs at found with token secret key
      · have illFormed : Bytes.text? [0x74, 0xFF] = none := by decide
        rw [Option.some.inj found, Bytes.text?_ofText] at illFormed
        cases illFormed
      · rw [secret, ← Bytes.ofText_injective (Option.some.inj found)]
        exact List.mem_cons_self
      · rw [key, ← Bytes.ofText_injective (Option.some.inj found)]
        exact List.mem_cons_of_mem _ List.mem_cons_self
  obtain ⟨-, loads, -, runs⟩ := (process_reads_as_its_texts start).2 entries decodes
  have areCalls : ∀ call ∈ [Turn.resolve, .close], call.IsCall := by
    simp only [List.mem_cons, List.not_mem_nil, or_false]
    rintro call (rfl | rfl) <;> trivial
  obtain ⟨alike, -, others⟩ := runs processWide 0 1 [.resolve, .close] areCalls
  obtain ⟨answer, loaded, fixed⟩ := loads .sessionToken
  have unset : answer = none := by
    have outcomes := congrArg Prod.fst fixed
    exact (Outcome.ok.inj outcomes).symm
  refine ⟨decodes, ?_, alike.1, (others _ decodes.unset).1⟩
  rw [loaded, unset]
  rfl

end Runs

end CredentialResolution
