/-
This file shows that property stores are changed by setting and removing properties and by nothing
else. Whatever is built, resolved, closed or dropped, every store keeps its entries, and the names
of stores and of sources keep their meaning.
-/

import CredentialResolution.Proofs.LastingFacts
import CredentialResolution.Proofs.Release
import CredentialResolution.Scenario.Run

namespace CredentialResolution

open CredentialResolution.Action Surroundings

namespace Surroundings

/-- The stores and the names of stores and of sources are as before; new stores may be there. -/
structure StoresLast (earlier later : Surroundings) : Prop where
  entries : ∀ position entries, earlier.stores.get? position = some entries →
    later.stores.get? position = some entries
  storeNames : later.names.stores = earlier.names.stores
  sourceNames : later.names.sources = earlier.names.sources

variable {earlier middle later surroundings : Surroundings}

theorem storesLast_of_same (stores : later.stores = earlier.stores)
    (storeNames : later.names.stores = earlier.names.stores)
    (sourceNames : later.names.sources = earlier.names.sources) : earlier.StoresLast later :=
  ⟨fun _ _ found => stores ▸ found, storeNames, sourceNames⟩

theorem StoresLast.refl (surroundings : Surroundings) : surroundings.StoresLast surroundings :=
  storesLast_of_same rfl rfl rfl

theorem StoresLast.trans (first : earlier.StoresLast middle) (second : middle.StoresLast later) :
    earlier.StoresLast later where
  entries position entries found := second.entries position entries
    (first.entries position entries found)
  storeNames := second.storeNames.trans first.storeNames
  sourceNames := second.sourceNames.trans first.sourceNames

theorem storesLast_addStore (entries : Bindings String) (surroundings : Surroundings) :
    surroundings.StoresLast (addStore entries surroundings).2 :=
  ⟨fun _ _ found => Cells.get?_add_of_some found entries, rfl, rfl⟩

/-- A store that is there stays there. -/
theorem StoresLast.present (lasts : earlier.StoresLast later) {position : Nat}
    (present : position < earlier.stores.count) : position < later.stores.count := by
  obtain ⟨entries, found⟩ := Cells.exists_of_lt_count present
  have lasting := lasts.entries position entries found
  rcases Nat.lt_or_ge position later.stores.count with there | absent
  · exact there
  · rw [Cells.get?_eq_none absent] at lasting
    cases lasting

theorem StoresLast.store (lasts : earlier.StoresLast later) {position : Nat}
    (present : position < earlier.stores.count) :
    later.store position = earlier.store position := by
  obtain ⟨entries, found⟩ := Cells.exists_of_lt_count present
  rw [Surroundings.store, Surroundings.store, found, lasts.entries position entries found]

theorem StoresLast.storeNamed? (lasts : earlier.StoresLast later) (name : String) :
    later.storeNamed? name = earlier.storeNamed? name := by
  rw [Surroundings.storeNamed?, Surroundings.storeNamed?, lasts.storeNames]

/-- No call of a provider changes a store. -/
theorem storesLast_calls (start : Surroundings) : LastsCalls start.StoresLast where
  record _ _ lasts := lasts.trans (storesLast_of_same rfl rfl rfl)
  addStore entries middle lasts := lasts.trans (storesLast_addStore entries middle)
  addSource _ _ lasts := lasts.trans (storesLast_of_same rfl rfl rfl)
  addDelegate _ _ lasts := lasts.trans (storesLast_of_same rfl rfl rfl)
  addMemo _ lasts := lasts.trans (storesLast_of_same rfl rfl rfl)
  sources _ _ lasts := lasts.trans (storesLast_of_same rfl rfl rfl)
  registries _ _ lasts := lasts.trans (storesLast_of_same rfl rfl rfl)
  count _ _ lasts := lasts.trans (storesLast_of_same rfl rfl rfl)
  script _ _ _ lasts := lasts.trans (storesLast_of_same rfl rfl rfl)
  keep _ _ _ lasts := lasts.trans (storesLast_of_same rfl rfl rfl)

theorem Releases.storesLast (releases : earlier.Releases later) : earlier.StoresLast later := by
  rw [releases.rest]
  exact storesLast_of_same rfl rfl rfl

theorem Quiet.storesLast (quiet : earlier.Quiet later) : earlier.StoresLast later := by
  rw [quiet.rest]
  exact storesLast_of_same rfl rfl rfl

end Surroundings

/-- The action lets all stores last, however it ends. -/
def Action.SparesStores {Failure Value : Type} (action : Action Surroundings Failure Value) :
    Prop :=
  ∀ surroundings : Surroundings, surroundings.StoresLast (action surroundings).2

section Actions

variable {Failure Value Result : Type}

theorem pure_spares (value : Value) :
    SparesStores (Pure.pure value : Action Surroundings Failure Value) :=
  StoresLast.refl

theorem bind_spares {first : Action Surroundings Failure Value}
    {next : Value → Action Surroundings Failure Result} (firsts : SparesStores first)
    (nexts : ∀ value, SparesStores (next value)) : SparesStores (first >>= next) :=
  fun surroundings => bind_keeps (firsts surroundings) fun value middle lasts =>
    lasts.trans (nexts value middle)

theorem widen_spares {action : Action Surroundings Empty Value} (spares : SparesStores action) :
    SparesStores (action.widen : Action Surroundings Failure Value) :=
  spares

theorem look_spares (view : Surroundings → Value) :
    SparesStores (look view : Action Surroundings Failure Value) :=
  StoresLast.refl

theorem update_spares {change : Surroundings → Surroundings}
    (lasts : ∀ surroundings : Surroundings, surroundings.StoresLast (change surroundings)) :
    SparesStores (update change : Action Surroundings Failure Unit) :=
  lasts

theorem named_spares (name : String) (find? : Surroundings → Option Value) :
    SparesStores (named name find? : Action Surroundings Failure Value) := by
  intro surroundings
  rw [named]
  split <;> exact .refl surroundings

end Actions

section Sources

theorem buildSource_spares (blueprint : SourceBlueprint) : SparesStores blueprint.build :=
  fun start => ((storesLast_calls start).builds.source blueprint ⟨rfl, .refl start⟩).2.2

theorem loadSetting_spares (source : Source) (setting : Setting) :
    SparesStores (source.load setting) :=
  fun _ => (quiet_load rfl).storesLast

theorem loadSettings_spares (source : Source) : SparesStores (LoadedSettings.load source.load) := by
  intro start
  have loads (setting : Setting) :
      Agrees (fun middle middle' => middle = middle' ∧ start.StoresLast middle) (· = ·)
        (source.load setting) (source.load setting) :=
    agrees_of_keeps fun middle lasts => lasts.trans (loadSetting_spares source setting middle)
  exact (LoadedSettings.load_agrees loads ⟨rfl, .refl start⟩).2.2

theorem readVariable_spares (source : Source) (name : String) :
    SparesStores (source.readVariable name) := by
  intro surroundings
  cases source with
  | process => exact (quiet_readVariable name surroundings).storesLast
  | fixedVariables entries | properties store | scripted position => exact .refl surroundings

end Sources

section Providers

theorem build_spares (blueprint : ProviderBlueprint) : SparesStores blueprint.build :=
  fun start => (storesLast_calls start).build blueprint (.refl start)

theorem create_spares (factory : Factory) (roleArn : String) (roleSessionName : Option String)
    (token : String) : SparesStores (factory.create roleArn roleSessionName token) :=
  fun start => (storesLast_calls start).create factory roleArn roleSessionName token (.refl start)

theorem resolve_spares (nesting : Nat) (provider : Provider) :
    SparesStores (provider.resolve nesting) :=
  fun start => (storesLast_calls start).resolve nesting provider (.refl start)

theorem storesLast_close (provider : Provider) (start : Surroundings) :
    start.StoresLast (provider.close start).2 := by
  apply ChainTree.close_keeps _ _ _ (StoresLast.refl start)
  · exact fun member middle lasts =>
      lasts.trans (SingleProvider.close_releases _ member middle).storesLast
  · exact fun entry middle lasts => lasts.trans (storesLast_of_same rfl rfl rfl)

theorem storesLast_discard (provider : Provider) (start : Surroundings) :
    start.StoresLast (provider.discard start) := by
  apply ChainTree.discard_keeps _ _ (StoresLast.refl start)
  exact fun member middle lasts => lasts.trans
    (SingleProvider.discardBy_releases (SingleProvider.close_releases _) member middle).storesLast

theorem storesLast_discard? (provider : Option Provider) (start : Surroundings) :
    start.StoresLast (discard? provider start) := by
  cases provider with
  | none => exact .refl start
  | some provider => exact storesLast_discard provider start

theorem resolveOnce_spares (provider : Provider) : SparesStores (resolveOnce provider) :=
  fun start => (resolve_spares _ provider start).trans (storesLast_discard provider _)

theorem storesLast_resolveTimes (provider : Provider) (threads : Nat) (start : Surroundings) :
    start.StoresLast (resolveTimes provider threads start).2 := by
  induction threads generalizing start with
  | zero => exact .refl start
  | succ threads inductionHypothesis =>
    exact (resolve_spares _ provider start).trans (inductionHypothesis _)

theorem closeNow_spares (provider : Provider) : SparesStores (closeNow provider) := by
  intro start
  have lasts := storesLast_close provider start
  rw [closeNow]
  rcases closed : provider.close start with ⟨_ | _, after⟩ <;> rw [closed] at lasts <;> exact lasts

end Providers

section Registries

theorem storesLast_nameRegistry (name : String) (position : Nat) (surroundings : Surroundings) :
    surroundings.StoresLast (nameRegistry name position surroundings) :=
  storesLast_of_same rfl rfl rfl

theorem storesLast_nameFactory (name : String) (factory : Factory) (surroundings : Surroundings) :
    surroundings.StoresLast (nameFactory name factory surroundings) :=
  storesLast_of_same rfl rfl rfl

theorem storesLast_register (registry : Nat) (capability : String) (constructor : Constructor)
    (surroundings : Surroundings) :
    surroundings.StoresLast (register registry capability constructor surroundings) :=
  storesLast_of_same rfl rfl rfl

theorem storesLast_react (registry : Nat) (capability : String) (constructor : Constructor)
    (surroundings : Surroundings) :
    surroundings.StoresLast (surroundings.react registry capability constructor) := by
  cases constructor with
  | plain label result => exact .refl surroundings
  | unregistering label result => exact storesLast_of_same rfl rfl rfl
  | replacing label result next => exact storesLast_register registry capability next surroundings

theorem lookUp_spares (registry : Nat) (capability : String) :
    SparesStores (Surroundings.lookUp registry capability) := by
  intro surroundings
  rw [Surroundings.lookUp]
  split
  · exact storesLast_of_same rfl rfl rfl
  · rename_i constructor _
    have recorded := (storesLast_calls surroundings).record (.constructed constructor.label) _
      (.refl surroundings)
    exact recorded.trans (storesLast_react registry capability constructor _)

end Registries

namespace Scenario.Operation

variable {Value : Type}

/-- These operations change a store or name a store or a source. -/
def isOfStores : Operation → Bool
  | newStore _ _ => true
  | cloneStore _ _ => true
  | setProperty _ _ _ => true
  | removeProperty _ _ => true
  | newSource _ _ => true
  | _ => false

/-- A source that is built and loaded from spares the stores if what follows does. -/
theorem loaded_spares (blueprint : SourceBlueprint)
    {next : LoadedSettings → Action Surroundings ResolutionError Value}
    (nexts : ∀ settings, SparesStores (next settings)) :
    SparesStores (do
      let source ← blueprint.build.widen
      let settings ← (LoadedSettings.load source.load).widen
      next settings) :=
  bind_spares (widen_spares (buildSource_spares blueprint)) fun source =>
    bind_spares (widen_spares (loadSettings_spares source)) nexts

theorem inspectSettings_spares (source : SourceBlueprint) (other : Option SourceBlueprint)
    (layout : Text.Layout) : SparesStores (inspectSettings source other layout) := by
  apply loaded_spares source
  intro settings
  cases other with
  | none => exact pure_spares _
  | some other =>
    exact loaded_spares other fun _ => bind_spares (pure_spares _) fun _ => pure_spares _

theorem storesLast_changeVariables (change : Bindings Bytes → Bindings Bytes)
    (surroundings : Surroundings) :
    surroundings.StoresLast { surroundings with environment := change surroundings.environment } :=
  storesLast_of_same rfl rfl rfl

theorem changeFiles_spares (change : FileChange) : SparesStores (changeFiles change) := by
  intro surroundings
  rw [changeFiles]
  split <;> exact storesLast_of_same rfl rfl rfl

/-- A reply made of what an action gives adds nothing to the action. -/
theorem replied_spares {action : Action Surroundings ResolutionError Value}
    (spares : SparesStores action) (reply : Value → Reply) :
    SparesStores (action >>= fun value => return reply value) :=
  bind_spares spares fun _ => pure_spares _

theorem updated_spares {change : Surroundings → Surroundings}
    (lasts : ∀ surroundings : Surroundings, surroundings.StoresLast (change surroundings))
    (reply : Reply) :
    SparesStores (do
      update change
      return reply : Action Surroundings ResolutionError Reply) :=
  bind_spares (update_spares lasts) fun _ => pure_spares _

theorem changing_spares {change : Surroundings → Value × Surroundings}
    (lasts : ∀ surroundings : Surroundings, surroundings.StoresLast (change surroundings).2) :
    SparesStores (changing change) :=
  lasts

/-- All other operations spare the stores. -/
theorem perform_spares {operation : Operation} (apart : operation.isOfStores = false) :
    SparesStores operation.perform := by
  cases operation with
  | newStore _ _ | cloneStore _ _ | setProperty _ _ _ | removeProperty _ _ | newSource _ _ =>
    cases apart
  | listSettings | describeSetting _ | inspectError _ _ => exact pure_spares _
  | inspectCredentials _ _ _ | expireIn _ => exact look_spares _
  | loadSettings source other layout => exact inspectSettings_spares source other layout
  | readToken path => exact replied_spares (fun _ => (quiet_readToken rfl).storesLast) _
  | changeFile change => exact replied_spares (changeFiles_spares change) _
  | setVariable name value =>
    exact updated_spares
      (storesLast_changeVariables fun environment => environment.insert name value) _
  | unsetVariable name =>
    exact updated_spares
      (storesLast_changeVariables fun environment => environment.erase name) _
  | getProperty store key =>
    exact bind_spares (named_spares _ _) fun _ => replied_spares (look_spares _) _
  | loadSetting blueprint setting =>
    exact bind_spares (widen_spares (buildSource_spares blueprint)) fun source =>
      replied_spares (widen_spares (loadSetting_spares source setting)) _
  | getVariable blueprint name =>
    exact bind_spares (widen_spares (buildSource_spares blueprint)) fun source =>
      replied_spares (widen_spares (readVariable_spares source name)) _
  | newRegistry name =>
    exact bind_spares (changing_spares fun _ => storesLast_of_same rfl rfl rfl) fun position =>
      updated_spares (storesLast_nameRegistry name position) _
  | cloneRegistry name existing =>
    exact bind_spares (named_spares _ _) fun position =>
      updated_spares (storesLast_nameRegistry name position) _
  | register registry capability constructor =>
    exact bind_spares (named_spares _ _) fun position =>
      updated_spares (storesLast_register position capability constructor) _
  | unregister registry capability =>
    exact bind_spares (named_spares _ _) fun _ =>
      replied_spares (changing_spares fun _ => storesLast_of_same rfl rfl rfl) _
  | isRegistered registry capability =>
    exact bind_spares (named_spares _ _) fun _ => replied_spares (look_spares _) _
  | lookUp registry capability save =>
    apply bind_spares (named_spares _ _)
    intro position
    apply bind_spares (lookUp_spares position capability)
    intro factory
    cases save with
    | none => exact pure_spares _
    | some name => exact updated_spares (storesLast_nameFactory name factory) _
  | create factory roleArn roleSessionName token =>
    exact bind_spares (named_spares _ _) fun factory =>
      bind_spares (create_spares factory roleArn roleSessionName token) fun provider =>
        replied_spares (resolveOnce_spares provider) _
  | newProvider name blueprint =>
    exact bind_spares (widen_spares (build_spares blueprint)) fun provider =>
      bind_spares (look_spares _) fun replaced =>
        bind_spares (update_spares fun _ => storesLast_of_same rfl rfl rfl) fun _ =>
          updated_spares (storesLast_discard? replaced) _
  | resolve name =>
    exact bind_spares (named_spares _ _) fun provider =>
      replied_spares (resolve_spares nesting provider) _
  | resolveTogether name threads =>
    exact bind_spares (named_spares _ _) fun provider =>
      replied_spares (changing_spares (storesLast_resolveTimes provider threads)) _
  | close name =>
    exact bind_spares (named_spares _ _) fun provider =>
      replied_spares (closeNow_spares provider) _
  | isResolved name =>
    exact bind_spares (named_spares _ _) fun _ => replied_spares (look_spares _) _
  | drop name =>
    exact bind_spares (look_spares _) fun provider =>
      bind_spares (update_spares fun _ => storesLast_of_same rfl rfl rfl) fun _ =>
        updated_spares (storesLast_discard? provider) _

end Scenario.Operation

end CredentialResolution
