/-
This file describes two surroundings that differ only in secrets: in the values of static keys and
in the contents of token files. It shows that loading and choosing tell them apart nowhere else.
-/

import CredentialResolution.Proofs.Building
import CredentialResolution.Proofs.Members

namespace CredentialResolution

/-- A disguise says which secret may stand for which other one in a second run, and likewise for the
contents of token files. Every secret may stand for itself. -/
structure Disguise where
  secrets : Setting → String → String → Prop
  contents : String → String → Prop
  reflexive : ∀ setting secret, secrets setting secret secret

theorem Setting.environmentVariable_injective {setting other : Setting}
    (same : setting.environmentVariable = other.environmentVariable) : setting = other := by
  cases setting <;> cases other <;> first
    | rfl
    | exact absurd same (by decide)

namespace Script

variable {Entry : Type}

/-- This function gives the outcome of the call after the given number of earlier calls. -/
def entry : Nat → Script Entry → Entry
  | 0, script => script.take.1
  | earlier + 1, script => entry earlier script.take.2

end Script

namespace Cells

variable {Value : Type} {values : Value → Value → Prop} {cells cells' : Cells Value}

/-- At every position the values are related. -/
structure Alike (values : Value → Value → Prop) (cells cells' : Cells Value) : Prop where
  count : cells.count = cells'.count
  each : ∀ position, Option.Rel values (cells.get? position) (cells'.get? position)

theorem alike_refl (refl : ∀ value, values value value) (cells : Cells Value) :
    Alike values cells cells :=
  ⟨rfl, fun _ => rel_refl refl _⟩

theorem Alike.add (alike : Alike values cells cells') {value value' : Value}
    (same : values value value') : Alike values (cells.add value) (cells'.add value') := by
  refine ⟨?_, ?_⟩
  · rw [count_add, count_add, alike.count]
  · intro position
    rw [get?_add, get?_add, alike.count]
    split
    · exact .some same
    · exact alike.each position

theorem Alike.update (alike : Alike values cells cells') (position : Nat)
    {change change' : Value → Value}
    (changed : ∀ ⦃value value'⦄, values value value' → values (change value) (change' value')) :
    Alike values (cells.update position change) (cells'.update position change') := by
  refine ⟨?_, ?_⟩
  · rw [count_update, count_update, alike.count]
  · intro other
    rw [get?_update, get?_update]
    split
    · rcases cases_of_rel (alike.each other) with
        ⟨found, found'⟩ | ⟨value, value', found, found', same⟩ <;> rw [found, found']
      · exact .none
      · exact .some (changed same)
    · exact alike.each other

end Cells

namespace Disguise

open CredentialResolution.Action Surroundings

variable (disguise : Disguise)

/-- The three parts of static keys are secret; everything else is the same in both runs. -/
def Known : Setting → Option String → Option String → Prop
  | .accessKeyId => Option.Rel (disguise.secrets .accessKeyId)
  | .secretAccessKey => Option.Rel (disguise.secrets .secretAccessKey)
  | .sessionToken => Option.Rel (disguise.secrets .sessionToken)
  | _ => (· = ·)

/-- Loaded values are compared after trimming. -/
def Loaded (setting : Setting) (value value' : Option String) : Prop :=
  disguise.Known setting (LoadedSettings.normalize value) (LoadedSettings.normalize value')

def Settings (settings settings' : LoadedSettings) : Prop :=
  ∀ setting, disguise.Known setting (settings.value setting) (settings'.value setting)

/-- Every call of a scripted source ends alike in both runs. -/
def Scripts (source source' : ScriptedSource) : Prop :=
  ∀ setting call, Outcome.Alike (disguise.Loaded setting) ((source.script setting).entry call)
    ((source'.script setting).entry call)

inductive Sources : Source → Source → Prop
  | fixedVariables {entries entries' : Bindings String}
      (each : ∀ setting, disguise.Loaded setting (entries.get? setting.environmentVariable)
        (entries'.get? setting.environmentVariable)) :
      Sources (.fixedVariables entries) (.fixedVariables entries')
  | process : Sources .process .process
  | properties (store : Nat) : Sources (.properties store) (.properties store)
  | scripted (position : Nat) : Sources (.scripted position) (.scripted position)

/-- Credentials are the same or made of static keys. -/
inductive Given : Credentials → Credentials → Prop
  | same (credentials : Credentials) : Given credentials credentials
  | basic {accessKeyId accessKeyId' secretAccessKey secretAccessKey' : String}
      (accessKey : disguise.secrets .accessKeyId accessKeyId accessKeyId')
      (secretKey : disguise.secrets .secretAccessKey secretAccessKey secretAccessKey') :
      Given (.basic accessKeyId secretAccessKey) (.basic accessKeyId' secretAccessKey')
  | session {accessKeyId accessKeyId' secretAccessKey secretAccessKey' : String}
      {sessionToken sessionToken' : String}
      (accessKey : disguise.secrets .accessKeyId accessKeyId accessKeyId')
      (secretKey : disguise.secrets .secretAccessKey secretAccessKey secretAccessKey')
      (session : disguise.secrets .sessionToken sessionToken sessionToken') :
      Given (.session accessKeyId secretAccessKey sessionToken)
        (.session accessKeyId' secretAccessKey' sessionToken')

inductive Singles : SingleProvider → SingleProvider → Prop
  | fixed {credentials credentials' : Credentials}
      (given : disguise.Given credentials credentials') :
      Singles (.fixed credentials) (.fixed credentials')
  | scripted (position : Nat) : Singles (.scripted position) (.scripted position)
  | settings {source source' : Source} (sources : disguise.Sources source source')
      (registry memo : Nat) :
      Singles (.settings source registry memo) (.settings source' registry memo)

abbrev Providers : Provider → Provider → Prop :=
  ChainTree.Related disguise.Singles

structure Delegates (numbered numbered' : Numbered Provider) : Prop where
  serial : numbered.serial = numbered'.serial
  delegate : disguise.Providers numbered.delegate numbered'.delegate

/-- A path leads to the same failure or to contents that are texts alike. -/
inductive Contents : Except FileFailure Bytes → Except FileFailure Bytes → Prop
  | error (failure : FileFailure) : Contents (.error failure) (.error failure)
  | ok {content content' : Bytes}
      (texts : Option.Rel disguise.contents content.text? content'.text?) :
      Contents (.ok content) (.ok content')

/-- Nodes are the same, up to contents of files that are texts alike. -/
inductive Nodes : FileNode → FileNode → Prop
  | file {content content' : Bytes}
      (texts : Option.Rel disguise.contents content.text? content'.text?) :
      Nodes (.file content) (.file content')
  | unreadable (fault : SystemFault) : Nodes (.unreadable fault) (.unreadable fault)
  | directory : Nodes .directory .directory
  | barred (fault : SystemFault) : Nodes (.barred fault) (.barred fault)
  | link (target : Path) : Nodes (.link target) (.link target)

def Trees (tree tree' : FileTree) : Prop :=
  ∀ location, Option.Rel disguise.Nodes (tree.node? location) (tree'.node? location)

inductive Places : Except SystemFault Place → Except SystemFault Place → Prop
  | error (fault : SystemFault) : Places (.error fault) (.error fault)
  | nothing (location : Location) : Places (.ok ⟨location, .nothing⟩) (.ok ⟨location, .nothing⟩)
  | directory (location : Location) :
      Places (.ok ⟨location, .directory⟩) (.ok ⟨location, .directory⟩)
  | file (location : Location) {content content' : Bytes}
      (texts : Option.Rel disguise.contents content.text? content'.text?) :
      Places (.ok ⟨location, .file content⟩) (.ok ⟨location, .file content'⟩)
  | unreadable (location : Location) (fault : SystemFault) :
      Places (.ok ⟨location, .unreadable fault⟩) (.ok ⟨location, .unreadable fault⟩)

/-- A variable is unset, is no text or is loaded alike in both environments. -/
structure Variables (setting : Setting) (bytes bytes' : Option Bytes) : Prop where
  texts : Option.Rel (fun bytes bytes' => bytes.text?.isSome = bytes'.text?.isSome) bytes bytes'
  loaded : disguise.Loaded setting (bytes.bind Bytes.text?) (bytes'.bind Bytes.text?)

def Properties (entries entries' : Bindings String) : Prop :=
  ∀ setting, disguise.Loaded setting (entries.get? setting.property)
    (entries'.get? setting.property)

/-- Two surroundings differ in secrets only. -/
structure States (surroundings surroundings' : Surroundings) : Prop where
  environment : ∀ setting, disguise.Variables setting
    (surroundings.environment.get? setting.environmentVariable)
    (surroundings'.environment.get? setting.environmentVariable)
  files : ∀ path, disguise.Contents (surroundings.files.read path) (surroundings'.files.read path)
  stores : Cells.Alike disguise.Properties surroundings.stores surroundings'.stores
  registries : surroundings.registries = surroundings'.registries
  scripts : Cells.Alike disguise.Scripts surroundings.scriptedSources
    surroundings'.scriptedSources
  scriptedDelegates : surroundings.scriptedDelegates = surroundings'.scriptedDelegates
  memos : Cells.Alike (Option.Rel disguise.Delegates) surroundings.memos surroundings'.memos
  namedStores : surroundings.names.stores = surroundings'.names.stores
  namedRegistries : surroundings.names.registries = surroundings'.names.registries
  namedSources : ∀ name, Option.Rel disguise.Sources (surroundings.names.sources.get? name)
    (surroundings'.names.sources.get? name)
  namedProviders : ∀ name, Option.Rel disguise.Providers (surroundings.names.providers.get? name)
    (surroundings'.names.providers.get? name)
  chosenCount : surroundings.chosenCount = surroundings'.chosenCount
  journal : surroundings.journal = surroundings'.journal

variable {disguise}

theorem known_refl (setting : Setting) (value : Option String) :
    disguise.Known setting value value := by
  cases setting <;> first
    | rfl
    | exact rel_refl (disguise.reflexive _) value

theorem loaded_refl (setting : Setting) (value : Option String) :
    disguise.Loaded setting value value :=
  known_refl setting _

theorem scripts_refl (source : ScriptedSource) : disguise.Scripts source source := by
  intro setting call
  exact .self (loaded_refl setting) _

theorem sources_refl (source : Source) : disguise.Sources source source := by
  cases source with
  | fixedVariables entries => exact .fixedVariables fun setting => loaded_refl setting _
  | process => exact .process
  | properties store => exact .properties store
  | scripted position => exact .scripted position

/-- Variables stay alike if one of them gets values that are loaded alike. -/
theorem Sources.insert {entries entries' : Bindings String}
    (alike : disguise.Sources (.fixedVariables entries) (.fixedVariables entries'))
    {setting : Setting} {value value' : String}
    (loaded : disguise.Loaded setting (some value) (some value')) :
    disguise.Sources (.fixedVariables (entries.insert setting.environmentVariable value))
      (.fixedVariables (entries'.insert setting.environmentVariable value')) := by
  obtain ⟨each⟩ := alike
  apply Sources.fixedVariables
  intro other
  rw [Bindings.get?_insert, Bindings.get?_insert]
  split
  · rename_i same
    rw [Setting.environmentVariable_injective same]
    exact loaded
  · exact each other

theorem providers_refl (provider : Provider) : disguise.Providers provider provider := by
  apply ChainTree.related_self
  intro member _
  cases member with
  | fixed credentials => exact .fixed (.same credentials)
  | scripted position => exact .scripted position
  | settings source registry memo => exact .settings (sources_refl source) registry memo

theorem variables_refl (setting : Setting) (bytes : Option Bytes) :
    disguise.Variables setting bytes bytes where
  texts := by
    apply rel_refl
    exact fun _ => rfl
  loaded := loaded_refl setting _

section Recording

variable {surroundings surroundings' : Surroundings}

theorem States.record (related : disguise.States surroundings surroundings') (event : Event) :
    disguise.States (surroundings.record event) (surroundings'.record event) :=
  { related with journal := congrArg (List.cons event) related.journal }

theorem States.store (related : disguise.States surroundings surroundings') (position : Nat) :
    disguise.Properties (surroundings.store position) (surroundings'.store position) := by
  rw [Surroundings.store, Surroundings.store]
  rcases cases_of_rel (related.stores.each position) with
    ⟨found, found'⟩ | ⟨entries, entries', found, found', alike⟩ <;> rw [found, found']
  · exact fun setting => loaded_refl setting none
  · exact alike

theorem log_states (entry : LogEntry) ⦃surroundings surroundings' : Surroundings⦄
    (related : disguise.States surroundings surroundings') :
    disguise.States (surroundings.log entry) (surroundings'.log entry) :=
  related.record (.logged entry)

end Recording

section Files

variable {tree tree' : FileTree}

theorem trees_nil : disguise.Trees ⟨[]⟩ ⟨[]⟩ := by
  intro location
  rw [FileTree.node?]
  split
  · exact .some .directory
  · exact .none

theorem Trees.cons {nodes nodes' : List (Location × FileNode)}
    (trees : disguise.Trees ⟨nodes⟩ ⟨nodes'⟩) (location : Location) {node node' : FileNode}
    (alike : disguise.Nodes node node') :
    disguise.Trees ⟨(location, node) :: nodes⟩ ⟨(location, node') :: nodes'⟩ := by
  intro other
  have below := trees other
  rw [FileTree.node?, FileTree.node?] at below ⊢
  split
  · exact .some .directory
  · rename_i notRoot
    rw [if_neg notRoot, if_neg notRoot] at below
    rw [List.lookup_cons, List.lookup_cons]
    split
    · exact .some alike
    · exact below

theorem descend_alike (trees : disguise.Trees tree tree')
    {follow follow' : Location → List Bytes → Except SystemFault Place}
    (follows : ∀ here names, disguise.Places (follow here names) (follow' here names))
    (here : Location) (names : List Bytes) :
    disguise.Places (tree.descend follow here names) (tree'.descend follow' here names) := by
  induction names generalizing here with
  | nil => exact .directory here
  | cons name rest inductionHypothesis =>
    rw [FileTree.descend, FileTree.descend]
    split
    · exact inductionHypothesis here
    split
    · exact inductionHypothesis here.dropLast
    split
    · exact .error .nameTooLong
    rcases cases_of_rel (trees (here ++ [name])) with
      ⟨found, found'⟩ | ⟨node, node', found, found', alike⟩ <;> simp only [found, found']
    · split
      · exact .nothing _
      · exact .error .notFound
    · cases alike with
      | file texts =>
        simp only
        split
        · exact .file _ texts
        · exact .error .notADirectory
      | unreadable fault =>
        simp only
        split
        · exact .unreadable _ fault
        · exact .error .notADirectory
      | directory => exact inductionHypothesis _
      | barred fault => exact .error fault
      | link target => exact follows _ _

theorem walk_alike (trees : disguise.Trees tree tree') (links : Nat) (here : Location)
    (names : List Bytes) :
    disguise.Places (tree.walk links here names) (tree'.walk links here names) := by
  induction links generalizing here names with
  | zero => exact descend_alike trees (fun _ _ => .error .tooManyLinks) here names
  | succ links inductionHypothesis => exact descend_alike trees inductionHypothesis here names

theorem locate_alike (trees : disguise.Trees tree tree') (path : Path) :
    disguise.Places (tree.locate path) (tree'.locate path) := by
  rw [FileTree.locate, FileTree.locate]
  split
  · exact .error .nameTooLong
  · exact walk_alike trees FileTree.linkLimit [] path.components

/-- Trees that differ only in contents of files are read alike through every path. -/
theorem Trees.read (trees : disguise.Trees tree tree') (path : Path) :
    disguise.Contents (tree.read path) (tree'.read path) := by
  rw [FileTree.read, FileTree.read]
  split
  · exact .error .nulInPath
  have places := locate_alike trees path
  generalize tree.locate path = place at places ⊢
  generalize tree'.locate path = place' at places ⊢
  cases places with
  | error fault => exact .error _
  | nothing location => exact .error _
  | directory location => exact .error _
  | file location texts => exact .ok texts
  | unreadable location fault => exact .error _

/-- The same surroundings with such trees of files differ in secrets only. -/
theorem Trees.states (trees : disguise.Trees tree tree') (surroundings : Surroundings) :
    disguise.States { surroundings with files := tree } { surroundings with files := tree' } where
  environment setting := variables_refl setting _
  files := trees.read
  stores := Cells.alike_refl (fun _ setting => loaded_refl setting _) _
  registries := rfl
  scripts := Cells.alike_refl scripts_refl _
  scriptedDelegates := rfl
  memos := Cells.alike_refl (rel_refl fun numbered => ⟨rfl, providers_refl numbered.delegate⟩) _
  namedStores := rfl
  namedRegistries := rfl
  namedSources _ := rel_refl sources_refl _
  namedProviders _ := rel_refl providers_refl _
  chosenCount := rfl
  journal := rfl

end Files

section Loading

theorem readVariable_agrees (setting : Setting) :
    Agrees disguise.States (disguise.Loaded setting)
      (Surroundings.readVariable setting.environmentVariable)
      (Surroundings.readVariable setting.environmentVariable) := by
  intro surroundings surroundings' related
  obtain ⟨texts, loaded⟩ := related.environment setting
  simp only [Surroundings.readVariable]
  generalize surroundings.environment.get? setting.environmentVariable = bytes at texts loaded ⊢
  generalize surroundings'.environment.get? setting.environmentVariable = bytes' at texts loaded ⊢
  cases texts with
  | none => exact ⟨.ok loaded, related⟩
  | @some bytes bytes' same =>
    simp only [Option.bind_some] at loaded
    simp only
    cases text : bytes.text? <;> cases text' : bytes'.text? <;> rw [text, text'] at same loaded
    · exact ⟨.ok loaded, log_states _ related⟩
    · cases same
    · cases same
    · exact ⟨.ok loaded, related⟩

theorem Scripts.take {source source' : ScriptedSource} (alike : disguise.Scripts source source')
    (setting : Setting) :
    Outcome.Alike (disguise.Loaded setting) (source.take setting).1 (source'.take setting).1 ∧
      disguise.Scripts (source.take setting).2 (source'.take setting).2 := by
  refine ⟨alike setting 0, ?_⟩
  intro other call
  simp only [ScriptedSource.take]
  split
  · rename_i same
    rw [same]
    exact alike setting (call + 1)
  · exact alike other call

theorem takeScripted_agrees (position : Nat) (setting : Setting) :
    Agrees disguise.States (disguise.Loaded setting) (takeScripted position setting)
      (takeScripted position setting) := by
  intro surroundings surroundings' related
  simp only [takeScripted]
  rcases cases_of_rel (related.scripts.each position) with
    ⟨found, found'⟩ | ⟨source, source', found, found', alike⟩ <;> rw [found, found']
  · exact ⟨.ok (loaded_refl setting none), related⟩
  · obtain ⟨outcome, rest⟩ := alike.take setting
    exact ⟨outcome, { related with scripts := related.scripts.update position fun _ _ _ => rest }⟩

/-- Sources that are alike load alike. -/
theorem load_agrees {source source' : Source} (alike : disguise.Sources source source')
    (setting : Setting) :
    Agrees disguise.States (disguise.Loaded setting) (source.load setting)
      (source'.load setting) := by
  cases alike with
  | fixedVariables each =>
    exact bind_agrees (update_agrees (log_states _)) fun _ _ _ => pure_agrees (each setting)
  | process =>
    exact bind_agrees (update_agrees (log_states _)) fun _ _ _ => readVariable_agrees setting
  | properties store =>
    apply bind_agrees (update_agrees (log_states _))
    intro _ _ _
    exact look_agrees fun _ _ related => related.store store setting
  | scripted position =>
    have recorded : Agrees disguise.States (· = ·)
        (update (Surroundings.record (.loaded setting)) : Action Surroundings Empty Unit)
        (update (Surroundings.record (.loaded setting))) :=
      update_agrees fun _ _ related => related.record (.loaded setting)
    exact bind_agrees recorded fun _ _ _ => takeScripted_agrees position setting

theorem loadSettings_agrees {source source' : Source} (alike : disguise.Sources source source') :
    Agrees disguise.States disguise.Settings (LoadedSettings.load source.load)
      (LoadedSettings.load source'.load) := by
  unfold LoadedSettings.load
  apply bind_agrees (load_agrees alike .accessKeyId)
  intro accessKeyId accessKeyId' accessKey
  apply bind_agrees (load_agrees alike .secretAccessKey)
  intro secretAccessKey secretAccessKey' secretKey
  apply bind_agrees (load_agrees alike .sessionToken)
  intro sessionToken sessionToken' session
  apply bind_agrees (load_agrees alike .roleArn)
  intro roleArn roleArn' role
  apply bind_agrees (load_agrees alike .roleSessionName)
  intro roleSessionName roleSessionName' name
  apply bind_agrees (load_agrees alike .webIdentityTokenFile)
  intro tokenFile tokenFile' file
  apply pure_agrees
  intro setting
  cases setting <;> assumption

end Loading

section Choosing

/-- A token file is read alike up to the token itself. -/
theorem readToken_agrees (path : Path) :
    Agrees disguise.States disguise.contents (Surroundings.readToken path)
      (Surroundings.readToken path) := by
  intro surroundings surroundings' related
  have contents := related.files path
  have logged := log_states (.readingToken path) related
  have files : (surroundings.log (.readingToken path)).files = surroundings.files := rfl
  have files' : (surroundings'.log (.readingToken path)).files = surroundings'.files := rfl
  simp only [Surroundings.readToken, files, files']
  split
  · generalize surroundings.files.read path = content at contents ⊢
    generalize surroundings'.files.read path = content' at contents ⊢
    cases contents with
    | error failure => exact ⟨.error _, logged⟩
    | @ok content content' texts =>
      simp only
      rcases cases_of_rel texts with ⟨text, text'⟩ | ⟨token, token', text, text', same⟩ <;>
        rw [text, text']
      · exact ⟨.error _, logged⟩
      · exact ⟨.ok same, logged⟩
  · exact ⟨.error _, related⟩

/-- What a constructor does to its registration is the same in both runs. -/
theorem react_states (registry : Nat) (capability : String) (constructor : Constructor)
    {surroundings surroundings' : Surroundings}
    (related : disguise.States surroundings surroundings') :
    disguise.States (surroundings.react registry capability constructor)
      (surroundings'.react registry capability constructor) := by
  have updated (change : Bindings Constructor → Bindings Constructor)
      {earlier earlier' : Surroundings} (related : disguise.States earlier earlier') :
      disguise.States (earlier.updateRegistry registry change)
        (earlier'.updateRegistry registry change) :=
    { related with
      registries := congrArg (fun registries => Cells.update registry change registries)
        related.registries }
  cases constructor with
  | plain label result => exact related
  | unregistering label result =>
    have same : surroundings.isRegistered registry capability =
        surroundings'.isRegistered registry capability := by
      rw [isRegistered, isRegistered, Surroundings.registry, Surroundings.registry,
        related.registries]
    simp only [react, unregister, same]
    exact (updated _ related).record _
  | replacing label result next => exact updated _ (log_states _ related)

theorem lookUp_agrees (registry : Nat) (capability : String) :
    Agrees disguise.States (· = ·) (Surroundings.lookUp registry capability)
      (Surroundings.lookUp registry capability) := by
  intro surroundings surroundings' related
  have same : surroundings.registry registry = surroundings'.registry registry := by
    rw [Surroundings.registry, Surroundings.registry, related.registries]
  simp only [Surroundings.lookUp, ← same]
  cases (surroundings.registry registry).get? capability with
  | none => exact ⟨.error _, log_states _ related⟩
  | some constructor =>
    refine ⟨.refl constructor.outcome, ?_⟩
    exact react_states registry capability constructor
      (related.record (.constructed constructor.label))

end Choosing

section Building

variable {Failure : Type}

theorem overSettings_agrees {source source' : Source} (alike : disguise.Sources source source')
    (registry : Nat) :
    Agrees disguise.States disguise.Providers
      (Provider.overSettings source registry : Action Surroundings Failure Provider)
      (Provider.overSettings source' registry) := by
  have added : Agrees disguise.States (· = ·)
      (adding addMemo : Action Surroundings Failure Nat) (adding addMemo) :=
    fun _ _ related => ⟨.ok related.memos.count,
      { related with memos := related.memos.add .none }⟩
  apply bind_agrees added
  rintro position _ rfl
  exact pure_agrees (.single (.settings alike registry position))

theorem scripted_agrees (delegate : ScriptedDelegate) :
    Agrees disguise.States disguise.Providers
      (Provider.scripted delegate : Action Surroundings Failure Provider)
      (Provider.scripted delegate) := by
  have added : Agrees disguise.States (· = ·)
      (adding (addScriptedDelegate delegate) : Action Surroundings Failure Nat)
      (adding (addScriptedDelegate delegate)) :=
    fun _ _ related => ⟨.ok (congrArg Cells.count related.scriptedDelegates),
      { related with scriptedDelegates := congrArg (Cells.add delegate) related.scriptedDelegates }⟩
  apply bind_agrees added
  rintro position _ rfl
  exact pure_agrees (.single (.scripted position))

theorem buildSource_agrees (blueprint : SourceBlueprint) :
    Agrees disguise.States disguise.Sources blueprint.build blueprint.build := by
  cases blueprint with
  | fixedVariables entries => exact pure_agrees (sources_refl _)
  | process => exact pure_agrees .process
  | properties entries =>
    have added : Agrees disguise.States (· = ·)
        (adding (addStore (.ofList entries)) : Action Surroundings Empty Nat)
        (adding (addStore (.ofList entries))) :=
      fun _ _ related => ⟨.ok related.stores.count,
        { related with stores := related.stores.add fun setting => loaded_refl setting _ }⟩
    apply bind_agrees added
    rintro position _ rfl
    exact pure_agrees (.properties position)
  | store name =>
    have named : Agrees disguise.States (· = ·)
        (named name fun surroundings => surroundings.storeNamed? name :
          Action Surroundings Empty Nat)
        (named name fun surroundings => surroundings.storeNamed? name) := by
      apply named_agrees
      intro surroundings surroundings' related
      rw [storeNamed?, storeNamed?, related.namedStores]
      exact rel_refl (fun _ => rfl) _
    apply bind_agrees named
    rintro position _ rfl
    exact pure_agrees (.properties position)
  | scripted source =>
    have added : Agrees disguise.States (· = ·)
        (adding (addScriptedSource source) : Action Surroundings Empty Nat)
        (adding (addScriptedSource source)) :=
      fun _ _ related => ⟨.ok related.scripts.count,
        { related with scripts := related.scripts.add (scripts_refl source) }⟩
    apply bind_agrees added
    rintro position _ rfl
    exact pure_agrees (.scripted position)
  | named name => exact named_agrees name fun _ _ related => related.namedSources name

theorem findRegistry_agrees (name : Option String) :
    Agrees disguise.States (· = ·) (ProviderBlueprint.findRegistry name)
      (ProviderBlueprint.findRegistry name) := by
  cases name with
  | none => exact pure_agrees rfl
  | some name =>
    apply named_agrees
    intro surroundings surroundings' related
    rw [registryNamed?, registryNamed?, related.namedRegistries]
    exact rel_refl (fun _ => rfl) _

/-- One description builds providers that are alike. -/
theorem builds : Builds disguise.States disguise.Sources disguise.Singles fun _ => True where
  record event _ _ related := related.record event
  fixed credentials := .fixed (.same credentials)
  scripted := scripted_agrees
  source := buildSource_agrees
  sharedProperties := .properties processWide
  process := .process
  registry := findRegistry_agrees
  settings _ _ alike := overSettings_agrees alike
  named name _ := named_agrees name fun _ _ related => related.namedProviders name

end Building

section Deciding

variable {source source' : Source} {registry : Nat}

theorem useKeys_agrees {accessKeyId accessKeyId' secretAccessKey secretAccessKey' : String}
    {sessionToken sessionToken' : Option String}
    (accessKey : disguise.secrets .accessKeyId accessKeyId accessKeyId')
    (secretKey : disguise.secrets .secretAccessKey secretAccessKey secretAccessKey')
    (session : disguise.Known .sessionToken sessionToken sessionToken') :
    Agrees disguise.States disguise.Providers
      ((means source registry).useKeys accessKeyId secretAccessKey sessionToken)
      ((means source' registry).useKeys accessKeyId' secretAccessKey' sessionToken') := by
  cases session with
  | none =>
    exact bind_agrees (update_agrees (log_states _)) fun _ _ _ =>
      pure_agrees (.single (.fixed (.basic accessKey secretKey)))
  | some session =>
    exact bind_agrees (update_agrees (log_states _)) fun _ _ _ =>
      pure_agrees (.single (.fixed (.session accessKey secretKey session)))

end Deciding

end Disguise

end CredentialResolution
