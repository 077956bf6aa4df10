/-
This file says from the history of properties alone what the stores hold. In every run of a
scenario, whatever else happens in it, the handles of stores and the sources over them answer as
that history says, and a provider chooses from the properties that stand.
-/

import CredentialResolution.Proofs.DecodedVariables
import CredentialResolution.Proofs.RegistryHistory
import CredentialResolution.Proofs.SparedStores

namespace CredentialResolution

open CredentialResolution.Action Surroundings

/-- A change sets one property of one store or, without a value, removes it. -/
structure PropertyChange where
  store : Nat
  key : String
  value? : Option String

namespace PropertyChange

def Concerns (store : Nat) (key : String) (change : PropertyChange) : Prop :=
  change.store = store ∧ change.key = key

instance (store : Nat) (key : String) (change : PropertyChange) :
    Decidable (change.Concerns store key) :=
  inferInstanceAs (Decidable (_ ∧ _))

/-- The history has the newest change first. A value stands if the last change of its key in its
store set it. -/
def standing (history : List PropertyChange) (store : Nat) (key : String) : Option String :=
  (history.find? fun change => change.Concerns store key).bind value?

/-- The entries of a new store count as set in list order. -/
def settingAll (store : Nat) (entries : List (String × String)) : List PropertyChange :=
  (entries.map fun entry => ⟨store, entry.1, some entry.2⟩).reverse

variable {history : List PropertyChange} {store : Nat} {key : String}

theorem standing_cons (change : PropertyChange) (history : List PropertyChange) (store : Nat)
    (key : String) :
    standing (change :: history) store key =
      if change.Concerns store key then change.value? else standing history store key := by
  simp only [standing, List.find?_cons]
  by_cases concerned : change.Concerns store key <;> simp [concerned]

/-- A value stands if nothing changed its key in its store since it was set. -/
theorem standing_eq_some_iff {value : String} :
    standing history store key = some value ↔
      ∃ later earlier, history = later ++ ⟨store, key, some value⟩ :: earlier ∧
        ∀ change ∈ later, ¬ change.Concerns store key := by
  rw [standing, Option.bind_eq_some_iff]
  simp only [List.find?_eq_some_iff_append]
  constructor
  · rintro ⟨⟨changed, name, value?⟩, ⟨concerned, later, earlier, split, others⟩, rfl⟩
    obtain ⟨rfl, rfl⟩ := of_decide_eq_true concerned
    exact ⟨later, earlier, split, by simpa using others⟩
  · rintro ⟨later, earlier, split, others⟩
    exact ⟨_, ⟨by simp [Concerns], later, earlier, split, by simpa using others⟩, rfl⟩

theorem settingAll_concat (store : Nat) (entries : List (String × String))
    (entry : String × String) :
    settingAll store (entries ++ [entry]) =
      ⟨store, entry.1, some entry.2⟩ :: settingAll store entries := by
  simp [settingAll]

/-- Setting all entries one by one gives what a list of entries binds. -/
theorem standing_settingAll (fresh : standing history store key = none)
    (entries : List (String × String)) :
    standing (settingAll store entries ++ history) store key =
      (Bindings.ofList entries).get? key := by
  induction entries using List.reverseRecOn with
  | nil => exact fresh
  | append_singleton earlier entry inductionHypothesis =>
    rw [settingAll_concat, List.cons_append, standing_cons, Bindings.ofList_concat,
      Bindings.get?_insert, inductionHypothesis]
    simp only [Concerns, true_and, eq_comm]

theorem standing_settingAll_of_ne {other : Nat} (different : other ≠ store)
    (entries : List (String × String)) :
    standing (settingAll other entries ++ history) store key = standing history store key := by
  induction entries using List.reverseRecOn with
  | nil => rfl
  | append_singleton earlier entry inductionHypothesis =>
    rw [settingAll_concat, List.cons_append, standing_cons, if_neg, inductionHypothesis]
    exact fun concerned => different concerned.1

end PropertyChange

/-- The last of equal keys wins. -/
theorem Bindings.get?_ofList_eq_lookup {Value : Type} (entries : List (String × Value))
    (key : String) : (ofList entries).get? key = entries.reverse.lookup key := by
  induction entries using List.reverseRecOn with
  | nil => rfl
  | append_singleton earlier entry inductionHypothesis =>
    obtain ⟨name, value⟩ := entry
    rw [ofList_concat, get?_insert, inductionHypothesis, List.reverse_append,
      List.reverse_singleton, List.singleton_append, List.lookup_cons]
    by_cases same : key = name
    · simp [same]
    · simp [same, beq_eq_false_iff_ne.mpr same]

/-- A source reads a store or its own entries, or nothing is known about it. -/
inductive KnownSource where
  | ofStore (store : Nat)
  | ofEntries (entries : List (String × String))
  | unknown

/-- Annals know the handles, the named sources, the number of stores and the history of all of
them, but no store. -/
structure Annals where
  handles : String → Option Nat
  sources : String → Option KnownSource
  count : Nat
  history : List PropertyChange

namespace Annals

open Scenario
open Chronicle (replying plain_answer_of_perform)

/-- In the beginning there is only the store of the whole process. -/
def initial : Annals where
  handles handle := if handle = "global" then some 0 else none
  sources _ := none
  count := 1
  history := []

def standing (annals : Annals) (store : Nat) (key : String) : Option String :=
  PropertyChange.standing annals.history store key

def record (change : PropertyChange) (annals : Annals) : Annals :=
  { annals with history := change :: annals.history }

def addStore (entries : List (String × String)) (annals : Annals) : Annals :=
  { annals with
    count := annals.count + 1
    history := PropertyChange.settingAll annals.count entries ++ annals.history }

/-- A handle leads to a store from now on; the one of the whole process keeps its name. -/
def hold (handle : String) (store : Nat) (annals : Annals) : Annals :=
  { annals with
    handles := fun other =>
      if other = "global" then some 0
      else if other = handle then some store
      else annals.handles other }

def nameSource (name : String) (source : KnownSource) (annals : Annals) : Annals :=
  { annals with
    sources := fun other => if other = name then some source else annals.sources other }

/-- A call through an unknown name panics and changes nothing. -/
def lost (name : String) : Answer :=
  replying (.panic ("nothing is named " ++ name)) []

def done : Answer :=
  replying (.ok .nothing) []

def giving (value : Option String) (events : List Event) : Answer :=
  replying (.ok (.text value)) events

def through (handle : String) (annals : Annals) (call : Nat → Answer × Annals) :
    Option Answer × Annals :=
  match annals.handles handle with
  | some store => ((call store).1, (call store).2)
  | none => (lost handle, annals)

/-- A described source is found, or the name that leads nowhere is given. -/
def build (annals : Annals) : SourceBlueprint → Except String KnownSource × Annals
  | .fixedVariables entries => (.ok (.ofEntries entries), annals)
  | .process => (.ok .unknown, annals)
  | .properties entries => (.ok (.ofStore annals.count), annals.addStore entries)
  | .store name =>
    match annals.handles name with
    | some store => (.ok (.ofStore store), annals)
    | none => (.error name, annals)
  | .scripted _ => (.ok .unknown, annals)
  | .named name =>
    match annals.sources name with
    | some source => (.ok source, annals)
    | none => (.error name, annals)

def throughSource (blueprint : SourceBlueprint) (annals : Annals)
    (call : KnownSource → Annals → Option Answer × Annals) : Option Answer × Annals :=
  match annals.build blueprint with
  | (.ok source, annals) => call source annals
  | (.error name, annals) => (lost name, annals)

/-- A source over a store gives what stands there now, and a source with entries of its own gives
the same at all times. -/
def load (annals : Annals) (setting : Setting) : KnownSource → Option Answer
  | .ofStore store =>
    giving (annals.standing store setting.property) [.logged (.loadingProperty setting.property)]
  | .ofEntries entries =>
    giving (entries.reverse.lookup setting.environmentVariable)
      [.logged (.loadingVariable setting.environmentVariable)]
  | .unknown => none

def readVariable (name : String) : KnownSource → Option Answer
  | .ofStore _ => giving none []
  | .ofEntries entries => giving (entries.reverse.lookup name) []
  | .unknown => none

/-- The annals foretell what handles of stores and known sources answer, and nothing else. -/
def answer (annals : Annals) : Operation → Option Answer × Annals
  | .newStore handle entries => (done, (annals.addStore entries).hold handle annals.count)
  | .cloneStore handle existing => annals.through existing fun store =>
    (done, annals.hold handle store)
  | .setProperty handle key value => annals.through handle fun store =>
    (giving (annals.standing store key) [], annals.record ⟨store, key, some value⟩)
  | .getProperty handle key => annals.through handle fun store =>
    (giving (annals.standing store key) [], annals)
  | .removeProperty handle key => annals.through handle fun store =>
    (giving (annals.standing store key) [], annals.record ⟨store, key, none⟩)
  | .newSource name blueprint => annals.throughSource blueprint fun source annals =>
    (done, annals.nameSource name source)
  | .loadSetting blueprint setting => annals.throughSource blueprint fun source annals =>
    (annals.load setting source, annals)
  | .getVariable blueprint name => annals.throughSource blueprint fun source annals =>
    (readVariable name source, annals)
  | _ => (none, annals)

def run : List Operation → Annals → List (Option Answer) × Annals
  | [], annals => ([], annals)
  | operation :: rest, annals =>
    let (foretold, annals) := annals.answer operation
    let (answers, annals) := run rest annals
    (foretold :: answers, annals)

/-- What is known of a source holds of it if every known store stands at its place. -/
inductive Meets (place : Nat → Nat) (count : Nat) : KnownSource → Source → Prop
  | ofStore {store : Nat} (known : store < count) :
    Meets place count (.ofStore store) (.properties (place store))
  | ofEntries (entries : List (String × String)) :
    Meets place count (.ofEntries entries) (.fixedVariables (.ofList entries))
  | unknown (source : Source) : Meets place count .unknown source

/-- Annals describe surroundings if every known store has a place of its own and holds exactly the
values that stand. Other stores may stand elsewhere. -/
structure Describes (place : Nat → Nat) (annals : Annals) (surroundings : Surroundings) : Prop where
  shared : annals.handles "global" = some processWide
  handles : ∀ handle, surroundings.storeNamed? handle = (annals.handles handle).map place
  known : ∀ handle store, annals.handles handle = some store → store < annals.count
  present : ∀ store < annals.count, place store < surroundings.stores.count
  apart : ∀ store < annals.count, ∀ other < annals.count, place store = place other → store = other
  standing : ∀ store < annals.count, ∀ key,
    (surroundings.store (place store)).get? key = annals.standing store key
  unwritten : ∀ store, annals.count ≤ store → ∀ key, annals.standing store key = none
  sources : ∀ name, Option.Rel (Meets place annals.count) (annals.sources name)
    (surroundings.names.sources.get? name)

theorem storeNamed?_eq (surroundings : Surroundings) (handle : String) :
    surroundings.storeNamed? handle =
      if handle = "global" then some processWide else surroundings.names.stores.get? handle := rfl

namespace Describes

variable {place place' : Nat → Nat} {annals : Annals} {surroundings later : Surroundings}

theorem meets_of_agree {count count' : Nat} (agree : ∀ store < count, place' store = place store)
    (grown : count ≤ count') {known : KnownSource} {source : Source}
    (meets : Meets place count known source) : Meets place' count' known source := by
  cases meets with
  | ofStore known =>
    rw [← agree _ known]
    exact .ofStore (Nat.lt_of_lt_of_le known grown)
  | ofEntries entries => exact .ofEntries entries
  | unknown source => exact .unknown source

theorem sources_of_agree (describes : annals.Describes place surroundings) {count : Nat}
    (agree : ∀ store < annals.count, place' store = place store) (grown : annals.count ≤ count)
    (name : String) :
    Option.Rel (Meets place' count) (annals.sources name)
      (surroundings.names.sources.get? name) := by
  have named := describes.sources name
  generalize annals.sources name = known, surroundings.names.sources.get? name = source at named ⊢
  cases named with
  | some meets => exact .some (meets_of_agree agree grown meets)
  | none => exact .none

section Handles

variable {Failure : Type} {handle : String}

theorem named_of_held (describes : annals.Describes place surroundings) {store : Nat}
    (held : annals.handles handle = some store) :
    (named handle fun surroundings => surroundings.storeNamed? handle :
        Action Surroundings Failure Nat) surroundings = (.ok (place store), surroundings) := by
  have led := describes.handles handle
  rw [held, Option.map_some] at led
  simp only [named, led]

theorem named_of_lost (describes : annals.Describes place surroundings)
    (missing : annals.handles handle = none) :
    (named handle fun surroundings => surroundings.storeNamed? handle :
        Action Surroundings Failure Nat) surroundings =
      (.panic ("nothing is named " ++ handle), surroundings) := by
  have led := describes.handles handle
  rw [missing, Option.map_none] at led
  simp only [named, led]

end Handles

/-- Only the places of known stores matter. -/
theorem of_agree (describes : annals.Describes place surroundings)
    (agree : ∀ store < annals.count, place' store = place store) :
    annals.Describes place' surroundings where
  shared := describes.shared
  handles handle := by
    rw [describes.handles]
    cases held : annals.handles handle with
    | none => rfl
    | some store => exact congrArg some (agree store (describes.known handle store held)).symm
  known := describes.known
  present store known := agree store known ▸ describes.present store known
  apart store known other known' same := by
    rw [agree store known, agree other known'] at same
    exact describes.apart store known other known' same
  standing store known key := agree store known ▸ describes.standing store known key
  unwritten := describes.unwritten
  sources := describes.sources_of_agree agree (Nat.le_refl _)

/-- What spares the stores changes nothing that the annals know. -/
theorem of_storesLast (describes : annals.Describes place surroundings)
    (lasts : surroundings.StoresLast later) : annals.Describes place later where
  shared := describes.shared
  handles handle := (lasts.storeNamed? handle).trans (describes.handles handle)
  known := describes.known
  present store known := lasts.present (describes.present store known)
  apart := describes.apart
  standing store known key := by
    rw [lasts.store (describes.present store known), describes.standing store known]
  unwritten := describes.unwritten
  sources name := lasts.sourceNames ▸ describes.sources name

theorem of_journal (describes : annals.Describes place surroundings) (journal : List Event) :
    annals.Describes place (surroundings.withJournal journal) :=
  describes.of_storesLast (storesLast_of_same rfl rfl rfl)

/-- A new handle is as good as the one it was made from. -/
theorem hold (describes : annals.Describes place surroundings) (handle : String) {store : Nat}
    (known : store < annals.count) :
    (annals.hold handle store).Describes place
      (surroundings.nameStore handle (place store)) where
  shared := rfl
  handles other := by
    have earlier := describes.handles other
    rw [storeNamed?_eq] at earlier ⊢
    simp only [nameStore, Annals.hold, Bindings.get?_insert]
    split
    · rename_i shared
      rw [if_pos shared, shared, describes.shared] at earlier
      exact earlier
    · rename_i different
      rw [if_neg different] at earlier
      rw [earlier]
      split <;> rfl
  known other found held := by
    simp only [Annals.hold] at held
    split at held
    · cases held
      exact describes.known "global" 0 describes.shared
    · split at held
      · cases held
        exact known
      · exact describes.known other found held
  present := describes.present
  apart := describes.apart
  standing := describes.standing
  unwritten := describes.unwritten
  sources := describes.sources

/-- A new store stands behind all others and holds its entries. -/
theorem addStore (describes : annals.Describes place surroundings)
    (entries : List (String × String))
    (agree : ∀ store < annals.count, place' store = place store)
    (new : place' annals.count = surroundings.stores.count) :
    (annals.addStore entries).Describes place'
      (Surroundings.addStore (.ofList entries) surroundings).2 := by
  have moved := (describes.of_agree agree).of_storesLast
    (storesLast_addStore (.ofList entries) surroundings)
  have count : (Surroundings.addStore (.ofList entries) surroundings).2.stores.count =
      surroundings.stores.count + 1 := Cells.count_add _ _
  have old {store : Nat} (known : store < annals.count) :
      place' store < surroundings.stores.count :=
    agree store known ▸ describes.present store known
  refine
    { shared := moved.shared
      handles := moved.handles
      known := fun handle store held => Nat.lt_succ_of_lt (moved.known handle store held)
      present := ?_
      apart := ?_
      standing := ?_
      unwritten := ?_
      sources := moved.sources_of_agree (fun _ _ => rfl) (Nat.le_succ annals.count) }
  · intro store known
    rcases Nat.lt_succ_iff_lt_or_eq.mp known with known | rfl
    · exact moved.present store known
    · rw [new, count]
      exact Nat.lt_succ_self _
  · intro store known other known' same
    rcases Nat.lt_succ_iff_lt_or_eq.mp known with known | rfl <;>
      rcases Nat.lt_succ_iff_lt_or_eq.mp known' with known' | rfl
    · exact moved.apart store known other known' same
    · exact absurd (same.trans new) (Nat.ne_of_lt (old known))
    · exact absurd (same.symm.trans new) (Nat.ne_of_lt (old known'))
    · rfl
  · intro store known key
    rcases Nat.lt_succ_iff_lt_or_eq.mp known with known | rfl
    · rw [moved.standing store known key]
      exact (PropertyChange.standing_settingAll_of_ne (Nat.ne_of_gt known) entries).symm
    · have fresh := describes.unwritten annals.count (Nat.le_refl _) key
      refine Eq.trans ?_ (PropertyChange.standing_settingAll fresh entries).symm
      rw [new, Surroundings.store]
      simp only [Surroundings.addStore, Cells.get?_add, if_true, Option.getD_some]
  · intro store beyond key
    have before := describes.unwritten store (Nat.le_of_succ_le beyond) key
    exact (PropertyChange.standing_settingAll_of_ne (Nat.ne_of_lt beyond) entries).trans before

/-- There is a place for the new store, and the others keep theirs. -/
theorem exists_addStore (describes : annals.Describes place surroundings)
    (entries : List (String × String)) :
    ∃ place' : Nat → Nat, (∀ store < annals.count, place' store = place store) ∧
      place' annals.count = surroundings.stores.count ∧
      (annals.addStore entries).Describes place'
        (Surroundings.addStore (.ofList entries) surroundings).2 := by
  let place' := Function.update place annals.count surroundings.stores.count
  have agree (store : Nat) (known : store < annals.count) : place' store = place store :=
    Function.update_of_ne (Nat.ne_of_lt known) _ _
  have new : place' annals.count = surroundings.stores.count := Function.update_self _ _ _
  exact ⟨place', agree, new, describes.addStore entries agree new⟩

/-- A change of the history is the same change of its store and of no other one. -/
theorem record (describes : annals.Describes place surroundings) {store : Nat}
    (known : store < annals.count) (key : String) (value? : Option String)
    {update : Bindings String → Bindings String}
    (updates : ∀ entries other, (update entries).get? other =
      if other = key then value? else entries.get? other) :
    (annals.record ⟨store, key, value?⟩).Describes place
      (surroundings.updateStore (place store) update) where
  shared := describes.shared
  handles := describes.handles
  known := describes.known
  present other known' := by
    rw [updateStore, Cells.count_update]
    exact describes.present other known'
  apart := describes.apart
  standing other known' name := by
    rw [store_updateStore surroundings (describes.present store known)]
    change _ = PropertyChange.standing (_ :: annals.history) other name
    rw [PropertyChange.standing_cons]
    by_cases same : other = store
    · subst same
      simp only [if_true, updates, PropertyChange.Concerns, true_and,
        describes.standing other known, eq_comm (a := key)]
      rfl
    · have elsewhere : place other ≠ place store :=
        fun met => same (describes.apart other known' store known met)
      rw [if_neg elsewhere, if_neg fun concerned => same concerned.1.symm]
      exact describes.standing other known' name
  unwritten other beyond name := by
    change PropertyChange.standing (_ :: annals.history) other name = none
    rw [PropertyChange.standing_cons, if_neg]
    · exact describes.unwritten other beyond name
    · exact fun concerned => absurd (concerned.1 ▸ known) (Nat.not_lt.mpr beyond)
  sources := describes.sources

theorem nameSource (describes : annals.Describes place surroundings) (name : String)
    {known : KnownSource} {source : Source} (meets : Meets place annals.count known source) :
    (annals.nameSource name known).Describes place (surroundings.nameSource name source) where
  shared := describes.shared
  handles := describes.handles
  known := describes.known
  present := describes.present
  apart := describes.apart
  standing := describes.standing
  unwritten := describes.unwritten
  sources other := by
    simp only [Annals.nameSource, Surroundings.nameSource, Bindings.get?_insert]
    split
    · exact .some meets
    · exact describes.sources other

end Describes

/-- A source that is described by a blueprint meets what is known of it, or the same name leads
nowhere. Nothing is recorded. -/
inductive Built (place : Nat → Nat) :
    Outcome Empty Source × Surroundings → Except String KnownSource × Annals → Prop
  | found {source : Source} {known : KnownSource} {surroundings : Surroundings} {annals : Annals}
    (meets : Meets place annals.count known source) (silent : surroundings.events = [])
    (describes : annals.Describes place surroundings) :
    Built place (.ok source, surroundings) (.ok known, annals)
  | lost (name : String) {surroundings : Surroundings} {annals : Annals}
    (silent : surroundings.events = []) (describes : annals.Describes place surroundings) :
    Built place (.panic ("nothing is named " ++ name), surroundings) (.error name, annals)

/-- A call is answered as foretold, if anything is, and the annals still describe what it leaves.
The stores that were known before stay where they are. -/
structure Follows (place : Nat → Nat) (annals : Annals) (place' : Nat → Nat)
    (actual : Answer × Surroundings) (ideal : Option Answer × Annals) : Prop where
  foretold : ∀ expected ∈ ideal.1, actual.1 = expected
  describes : ideal.2.Describes place' actual.2
  agree : ∀ store < annals.count, place' store = place store
  grown : annals.count ≤ ideal.2.count

section Steps

variable {place : Nat → Nat} {annals : Annals} {surroundings : Surroundings}

theorem build_built (describes : annals.Describes place surroundings)
    (silent : surroundings.events = []) (blueprint : SourceBlueprint) :
    ∃ place', (∀ store < annals.count, place' store = place store) ∧
      annals.count ≤ (annals.build blueprint).2.count ∧
      Built place' (blueprint.build surroundings) (annals.build blueprint) := by
  cases blueprint with
  | fixedVariables entries =>
    exact ⟨place, fun _ _ => rfl, Nat.le_refl _, .found (.ofEntries entries) silent describes⟩
  | process =>
    exact ⟨place, fun _ _ => rfl, Nat.le_refl _, .found (.unknown _) silent describes⟩
  | scripted source =>
    have lasts : surroundings.StoresLast (addScriptedSource source surroundings).2 :=
      storesLast_of_same rfl rfl rfl
    exact ⟨place, fun _ _ => rfl, Nat.le_refl _,
      .found (.unknown _) silent (describes.of_storesLast lasts)⟩
  | properties entries =>
    obtain ⟨place', agree, new, added⟩ := describes.exists_addStore entries
    refine ⟨place', agree, Nat.le_succ _, ?_⟩
    have meets : Meets place' (annals.count + 1) (.ofStore annals.count)
        (.properties (place' annals.count)) :=
      .ofStore (Nat.lt_succ_self _)
    rw [new] at meets
    exact .found meets silent added
  | store name =>
    refine ⟨place, fun _ _ => rfl, ?_, ?_⟩
    · simp only [build]
      split <;> exact Nat.le_refl _
    · simp only [build, SourceBlueprint.build]
      cases held : annals.handles name with
      | none =>
        rw [bind_of_panic (describes.named_of_lost held)]
        exact .lost name silent describes
      | some store =>
        rw [bind_of_ok (describes.named_of_held held)]
        exact .found (.ofStore (describes.known name store held)) silent describes
  | named name =>
    refine ⟨place, fun _ _ => rfl, ?_, ?_⟩
    · simp only [build]
      split <;> exact Nat.le_refl _
    · have related := describes.sources name
      simp only [build, SourceBlueprint.build, Surroundings.named]
      generalize annals.sources name = known,
        surroundings.names.sources.get? name = found at related ⊢
      cases related with
      | some meets => exact .found meets silent describes
      | none => exact .lost name silent describes

variable {operation : Operation}

/-- A call through a handle performs what it does on the store that the handle leads to. -/
theorem through_follows (describes : annals.Describes place surroundings) {handle : String}
    {next : Nat → Action Surroundings ResolutionError Reply} {ideal : Nat → Answer × Annals}
    (plain : ∀ after, operation.resolvedAfter? after = none)
    (performs : operation.perform = findStore handle >>= next)
    (leads : ∀ store < annals.count,
      let ended := next (place store) (surroundings.withJournal [])
      replying ended.1 ended.2.events = (ideal store).1 ∧
        (ideal store).2.Describes place (ended.2.withJournal []) ∧
        annals.count ≤ (ideal store).2.count) :
    Follows place annals place (operation.answer surroundings) (annals.through handle ideal) := by
  have cleared := describes.of_journal []
  rw [through]
  cases held : annals.handles handle with
  | none =>
    rw [plain_answer_of_perform plain (performs ▸ bind_of_panic (cleared.named_of_lost held))]
    exact ⟨fun _ expected => Option.some.inj expected, cleared, fun _ _ => rfl, Nat.le_refl _⟩
  | some store =>
    obtain ⟨replied, left, grown⟩ := leads store (describes.known handle store held)
    rw [plain_answer_of_perform plain (performs ▸ bind_of_ok (cleared.named_of_held held))]
    exact ⟨fun _ expected => replied.trans (Option.some.inj expected), left, fun _ _ => rfl, grown⟩

/-- A call through a source performs what it does with the source that was built. -/
theorem throughSource_follows (describes : annals.Describes place surroundings)
    {blueprint : SourceBlueprint} {next : Source → Action Surroundings ResolutionError Reply}
    {ideal : KnownSource → Annals → Option Answer × Annals}
    (plain : ∀ after, operation.resolvedAfter? after = none)
    (performs : operation.perform = blueprint.build.widen >>= next)
    (leads : ∀ {place known source annals surroundings}, Meets place annals.count known source →
      surroundings.events = [] → annals.Describes place surroundings →
        let ended := next source surroundings
        (∀ expected ∈ (ideal known annals).1, replying ended.1 ended.2.events = expected) ∧
          (ideal known annals).2.Describes place (ended.2.withJournal []) ∧
          annals.count ≤ (ideal known annals).2.count) :
    ∃ place', Follows place annals place' (operation.answer surroundings)
      (annals.throughSource blueprint ideal) := by
  obtain ⟨place', agree, grown, built⟩ := build_built (describes.of_journal []) rfl blueprint
  refine ⟨place', ?_⟩
  rw [throughSource]
  generalize ran : blueprint.build (surroundings.withJournal []) = ended,
    annals.build blueprint = known at built grown
  have widened : (blueprint.build.widen : Action Surroundings ResolutionError Source)
      (surroundings.withJournal []) = (ended.1.widen, ended.2) := by
    rw [widen, ran]
  cases built with
  | found meets silent left =>
    obtain ⟨replied, left, more⟩ := leads meets silent left
    rw [plain_answer_of_perform plain (performs ▸ bind_of_ok widened)]
    exact ⟨replied, left, agree, Nat.le_trans grown more⟩
  | lost name silent left =>
    rw [plain_answer_of_perform plain (performs ▸ bind_of_panic widened)]
    refine ⟨fun _ expected => ?_, left.of_journal [], agree, grown⟩
    rw [← Option.some.inj expected, silent]
    rfl

/-- A known source loads what is foretold. -/
theorem load_foretold (describes : annals.Describes place surroundings)
    (silent : surroundings.events = []) {known : KnownSource} {source : Source}
    (meets : Meets place annals.count known source) (setting : Setting) :
    let ended := ((source.load setting).widen >>= fun value => return .text value :
      Action Surroundings ResolutionError Reply) surroundings
    ∀ expected ∈ annals.load setting known, replying ended.1 ended.2.events = expected := by
  intro ended expected foretold
  have logged (entry : LogEntry) : (surroundings.log entry).events = [.logged entry] := by
    rw [log, events_record, silent, List.nil_append]
  cases meets with
  | ofStore known =>
    rw [← Option.some.inj foretold, ← describes.standing _ known, ← logged]
    rfl
  | ofEntries entries =>
    rw [← Option.some.inj foretold, ← Bindings.get?_ofList_eq_lookup, ← logged]
    rfl
  | unknown source => cases foretold

/-- A known source reads the variable that is foretold. -/
theorem readVariable_foretold (silent : surroundings.events = []) {known : KnownSource}
    {source : Source} (meets : Meets place annals.count known source) (name : String) :
    let ended := ((source.readVariable name).widen >>= fun value => return .text value :
      Action Surroundings ResolutionError Reply) surroundings
    ∀ expected ∈ readVariable name known, replying ended.1 ended.2.events = expected := by
  intro ended expected foretold
  cases meets with
  | ofStore known =>
    rw [← Option.some.inj foretold, ← silent]
    rfl
  | ofEntries entries =>
    rw [← Option.some.inj foretold, ← Bindings.get?_ofList_eq_lookup, ← silent]
    rfl
  | unknown source => cases foretold

/-- Nothing is foretold of an operation that spares the stores. -/
theorem spared_follows (describes : annals.Describes place surroundings)
    (spared : operation.isOfStores = false) (nothing : annals.answer operation = (none, annals)) :
    Follows place annals place (operation.answer surroundings) (annals.answer operation) := by
  rw [nothing]
  have lasts := Operation.perform_spares spared (surroundings.withJournal [])
  exact ⟨fun _ foretold => absurd foretold (Option.not_mem_none _),
    ((describes.of_journal []).of_storesLast lasts).of_journal [], fun _ _ => rfl, Nat.le_refl _⟩

theorem newStore_follows (describes : annals.Describes place surroundings) (handle : String)
    (entries : List (String × String)) :
    ∃ place', Follows place annals place' ((Operation.newStore handle entries).answer surroundings)
      (annals.answer (.newStore handle entries)) := by
  obtain ⟨place', agree, new, added⟩ := (describes.of_journal []).exists_addStore entries
  have held := added.hold handle (Nat.lt_succ_self annals.count)
  rw [new] at held
  exact ⟨place', fun _ expected => Option.some.inj expected, held.of_journal [], agree,
    Nat.le_succ _⟩

/-- Every operation is answered as foretold. -/
theorem answer_follows (describes : annals.Describes place surroundings) (operation : Operation) :
    ∃ place', Follows place annals place' (operation.answer surroundings)
      (annals.answer operation) := by
  have cleared := describes.of_journal []
  cases operation with
  | newStore handle entries => exact newStore_follows describes handle entries
  | cloneStore handle existing =>
    refine ⟨place, through_follows describes (fun _ => rfl) rfl ?_⟩
    exact fun store known => ⟨rfl, (cleared.hold handle known).of_journal [], Nat.le_refl _⟩
  | setProperty handle key value =>
    refine ⟨place, through_follows describes (fun _ => rfl) rfl ?_⟩
    intro store known
    refine ⟨?_, (cleared.record known key (some value) fun entries other =>
      Bindings.get?_insert entries key other value).of_journal [], Nat.le_refl _⟩
    rw [← cleared.standing store known key]
    rfl
  | getProperty handle key =>
    refine ⟨place, through_follows describes (fun _ => rfl) rfl ?_⟩
    intro store known
    refine ⟨?_, cleared, Nat.le_refl _⟩
    rw [← cleared.standing store known key]
    rfl
  | removeProperty handle key =>
    refine ⟨place, through_follows describes (fun _ => rfl) rfl ?_⟩
    intro store known
    refine ⟨?_, (cleared.record known key none fun entries other =>
      Bindings.get?_erase entries key other).of_journal [], Nat.le_refl _⟩
    rw [← cleared.standing store known key]
    rfl
  | newSource name blueprint =>
    apply throughSource_follows describes (fun _ => rfl) rfl
    intro place known source annals surroundings meets silent left
    refine ⟨fun _ expected => ?_, (left.nameSource name meets).of_journal [], Nat.le_refl _⟩
    rw [← Option.some.inj expected, done, ← silent]
    rfl
  | loadSetting blueprint setting =>
    apply throughSource_follows describes (fun _ => rfl) rfl
    intro place known source annals surroundings meets silent left
    have spares : SparesStores _ :=
      Operation.replied_spares (widen_spares (loadSetting_spares source setting)) .text
    exact ⟨load_foretold left silent meets setting,
      (left.of_storesLast (spares surroundings)).of_journal [], Nat.le_refl _⟩
  | getVariable blueprint name =>
    apply throughSource_follows describes (fun _ => rfl) rfl
    intro place known source annals surroundings meets silent left
    have spares : SparesStores _ :=
      Operation.replied_spares (widen_spares (readVariable_spares source name)) .text
    exact ⟨readVariable_foretold silent meets name,
      (left.of_storesLast (spares surroundings)).of_journal [], Nat.le_refl _⟩
  | _ => exact ⟨place, spared_follows describes rfl rfl⟩

/-- A whole run is answered as foretold, and the annals describe the surroundings all along. Every
store has one place during the run. -/
theorem run_follows (describes : annals.Describes place surroundings)
    (operations : List Operation) :
    List.Forall₂ (fun answer foretold => ∀ expected ∈ foretold, answer = expected)
        (Scenario.run operations surroundings).1 (run operations annals).1 ∧
      ∃ place' : Nat → Nat, (∀ store < annals.count, place' store = place store) ∧
        ∀ earlier, earlier <+: operations →
          (run earlier annals).2.Describes place' (Scenario.run earlier surroundings).2 := by
  induction operations generalizing place annals surroundings with
  | nil =>
    refine ⟨.nil, place, fun _ _ => rfl, ?_⟩
    intro earlier within
    rw [List.prefix_nil.mp within]
    exact describes
  | cons operation rest inductionHypothesis =>
    obtain ⟨middle, follows⟩ := answer_follows describes operation
    obtain ⟨answers, place', agree, all⟩ := inductionHypothesis follows.describes
    have agreeBefore (store : Nat) (known : store < annals.count) : place' store = place store :=
      (agree store (Nat.lt_of_lt_of_le known follows.grown)).trans (follows.agree store known)
    refine ⟨.cons follows.foretold answers, place', agreeBefore, ?_⟩
    intro earlier within
    cases earlier with
    | nil => exact describes.of_agree agreeBefore
    | cons first others =>
      obtain ⟨rfl, further⟩ := List.cons_prefix_cons.mp within
      exact all others further

theorem run_concat (earlier : List Operation) (operation : Operation) (annals : Annals) :
    (run (earlier ++ [operation]) annals).2 = ((run earlier annals).2.answer operation).2 := by
  induction earlier generalizing annals with
  | nil => rfl
  | cons first rest inductionHypothesis => exact inductionHypothesis _

end Steps

/-- The operation sets or removes this key through a handle of this store. -/
def Touches (annals : Annals) (store : Nat) (key : String) : Operation → Prop
  | .setProperty handle name _ => annals.handles handle = some store ∧ name = key
  | .removeProperty handle name => annals.handles handle = some store ∧ name = key
  | _ => False

section Standing

variable {annals : Annals} {store : Nat} {key : String}

theorem standing_record {changed : Nat} {name : String} {value? : Option String}
    (apart : ¬ (changed = store ∧ name = key)) :
    (annals.record ⟨changed, name, value?⟩).standing store key = annals.standing store key :=
  (PropertyChange.standing_cons _ _ _ _).trans (if_neg apart)

theorem standing_addStore (known : store < annals.count) (entries : List (String × String)) :
    (annals.addStore entries).standing store key = annals.standing store key :=
  PropertyChange.standing_settingAll_of_ne (Nat.ne_of_gt known) entries

theorem standing_through {handle : String} {call : Nat → Answer × Annals}
    (calls : ∀ held, annals.handles handle = some held →
      (call held).2.standing store key = annals.standing store key) :
    (annals.through handle call).2.standing store key = annals.standing store key := by
  rw [through]
  cases led : annals.handles handle with
  | none => rfl
  | some held => exact calls held led

theorem standing_build (known : store < annals.count) (blueprint : SourceBlueprint) :
    (annals.build blueprint).2.standing store key = annals.standing store key := by
  cases blueprint with
  | properties entries => exact standing_addStore known entries
  | fixedVariables entries | process | scripted source => rfl
  | store name | named name =>
    simp only [build]
    split <;> rfl

theorem standing_throughSource (known : store < annals.count) {blueprint : SourceBlueprint}
    {call : KnownSource → Annals → Option Answer × Annals}
    (calls : ∀ source annals, (call source annals).2.history = annals.history) :
    (annals.throughSource blueprint call).2.standing store key = annals.standing store key := by
  have built : (annals.build blueprint).2.standing store key = annals.standing store key :=
    standing_build known blueprint
  rw [throughSource]
  rcases ended : annals.build blueprint with ⟨name | source, after⟩ <;> rw [ended] at built
  · exact built
  · exact (congrArg (PropertyChange.standing · store key) (calls source after)).trans built

/-- No other operation changes what stands under the key in the store. -/
theorem standing_answer (known : store < annals.count) {operation : Operation}
    (untouched : ¬ annals.Touches store key operation) :
    (annals.answer operation).2.standing store key = annals.standing store key := by
  cases operation with
  | newStore handle entries => exact standing_addStore known entries
  | setProperty handle name value | removeProperty handle name =>
    apply standing_through
    intro held led
    exact standing_record fun concerned => untouched ⟨concerned.1 ▸ led, concerned.2⟩
  | cloneStore handle existing | getProperty handle name => exact standing_through fun _ _ => rfl
  | newSource name blueprint | loadSetting blueprint setting | getVariable blueprint name =>
    exact standing_throughSource known fun _ _ => rfl
  | _ => rfl

end Standing

theorem initial_describes (clock : Instant) (files : FileTree) :
    initial.Describes id (Surroundings.initial clock files) where
  shared := rfl
  handles handle := by
    rw [storeNamed?_eq]
    simp only [initial]
    split <;> rfl
  known handle store held := by
    simp only [initial] at held ⊢
    split at held <;> cases held
    exact Nat.one_pos
  present store known := known
  apart store _ other _ same := same
  standing store _ key := by cases store <;> rfl
  unwritten store _ key := rfl
  sources name := .none

end Annals

/-- Sources over stores record a load of the setting so. -/
def Setting.propertyLoad (setting : Setting) : List Event :=
  [.logged (.loadingProperty setting.property)]

theorem loadSettings_properties (store : Nat) (start : Surroundings) :
    LoadedSettings.load (Source.properties store).load start =
      (.ok (.present fun setting => (start.store store).get? setting.property),
        start.recordAll (Setting.all.flatMap Setting.propertyLoad)) := by
  have each (setting : Setting) (earlier : List Event) :
      (Source.properties store).load setting (start.recordAll earlier) =
        (.ok ((start.store store).get? setting.property),
          start.recordAll (earlier ++ setting.propertyLoad)) := by
    rw [recordAll_append]
    rfl
  rw [load_eq_askEach]
  exact bind_of_ok (askEach_of_records each Setting.all [])

/-- In every run of a scenario, all calls of handles of stores and of known sources are answered
from the history of properties alone. At any time in the run, every store stands at a place of its
own and holds a value exactly if the last change of its key in that store set it, a provider over
the store that has chosen nothing yet chooses from these values, and a next operation leaves
everything alone that it does not set or remove. -/
theorem Scenario.stores_answer_from_history (clock : Instant) (files : FileTree)
    (operations : List Scenario.Operation) :
    let start := Surroundings.initial clock files
    List.Forall₂ (fun answer foretold => ∀ expected ∈ foretold, answer = expected)
        (Scenario.run operations start).1 (Annals.run operations .initial).1 ∧
      ∃ place : Nat → Nat, ∀ earlier, earlier <+: operations →
        let now := (Scenario.run earlier start).2
        let annals := (Annals.run earlier .initial).2
        annals.Describes place now ∧
        ∀ store < annals.count,
          (∀ key value, (now.store (place store)).get? key = some value ↔
            ∃ later sooner, annals.history = later ++ ⟨store, key, some value⟩ :: sooner ∧
              ∀ change ∈ later, ¬ change.Concerns store key) ∧
          (∀ registry position nesting, (memo position).held now = none →
            Provider.resolve (nesting + 1)
                (.single (.settings (.properties (place store)) registry position)) now =
              Provider.proceed registry position nesting
                (.present fun setting => annals.standing store setting.property)
                (now.recordAll (Setting.all.flatMap Setting.propertyLoad))) ∧
          ∀ operation key, earlier ++ [operation] <+: operations →
            ¬ annals.Touches store key operation →
              ((Scenario.run (earlier ++ [operation]) start).2.store (place store)).get? key =
                (now.store (place store)).get? key := by
  intro start
  obtain ⟨answers, place, -, describes⟩ :=
    Annals.run_follows (Annals.initial_describes clock files) operations
  refine ⟨answers, place, ?_⟩
  intro earlier within now annals
  have described : annals.Describes place now := describes earlier within
  refine ⟨described, fun store known => ⟨?_, ?_, ?_⟩⟩
  · intro key value
    rw [described.standing store known, Annals.standing, PropertyChange.standing_eq_some_iff]
  · intro registry position nesting empty
    have loads := loadSettings_properties (place store) now
    simp only [described.standing store known] at loads
    exact Provider.resolve_of_loaded empty loads
  · intro operation key next untouched
    have afterwards := describes _ next
    rw [Annals.run_concat] at afterwards
    obtain ⟨_, follows⟩ := Annals.answer_follows described operation
    have stillKnown := Nat.lt_of_lt_of_le known follows.grown
    rw [described.standing store known, afterwards.standing store stillKnown]
    exact Annals.standing_answer known untouched

/-- A key that is set through a clone decides what a provider chooses that was made before, and the
same key of the store of the whole process does not. -/
theorem Scenario.late_key_is_seen_through_clone :
    let earlier : List Scenario.Operation :=
      [.newStore "app" [("aws.accessKeyId", "old"), ("aws.secretAccessKey", "secret")],
        .cloneStore "alias" "app", .newProvider "provider" (.settings (.store "app") none),
        .setProperty "alias" "aws.accessKeyId" "key"]
    let last := Scenario.Operation.setProperty "global" "aws.accessKeyId" "other"
    (earlier <+: earlier ++ [last] ∧ 1 < (Annals.run earlier .initial).2.count ∧
        (memo 0).held (Scenario.run earlier (.initial (.ofUnix 0 0) ⟨[]⟩)).2 = none ∧
        ¬ (Annals.run earlier .initial).2.Touches 1 "aws.accessKeyId" last) ∧
      ∃ place : Nat → Nat,
        ((Scenario.run earlier (.initial (.ofUnix 0 0) ⟨[]⟩)).2.store (place 1)).get?
          "aws.accessKeyId" = some "key" ∧
        (Provider.resolve 1 (.single (.settings (.properties (place 1)) processWide 0))
          (Scenario.run earlier (.initial (.ofUnix 0 0) ⟨[]⟩)).2).1 = .ok (.basic "key" "secret") ∧
        ((Scenario.run (earlier ++ [last]) (.initial (.ofUnix 0 0) ⟨[]⟩)).2.store (place 1)).get?
          "aws.accessKeyId" = some "key" := by
  intro earlier last
  have within : earlier <+: earlier ++ [last] := List.prefix_append _ _
  have known : 1 < (Annals.run earlier .initial).2.count := by decide
  have empty : (memo 0).held (Scenario.run earlier (.initial (.ofUnix 0 0) ⟨[]⟩)).2 = none := by
    decide +kernel
  have untouched : ¬ (Annals.run earlier .initial).2.Touches 1 "aws.accessKeyId" last :=
    fun touches => absurd touches.1 (by decide)
  obtain ⟨-, place, describes⟩ :=
    Scenario.stores_answer_from_history (.ofUnix 0 0) ⟨[]⟩ (earlier ++ [last])
  obtain ⟨-, stores⟩ := describes earlier within
  obtain ⟨stands, chooses, isolated⟩ := stores 1 known
  have set := (stands "aws.accessKeyId" "key").mpr ⟨[], _, rfl, List.forall_mem_nil _⟩
  have loaded : LoadedSettings.present (fun setting =>
        (Annals.run earlier .initial).2.standing 1 setting.property) =
      { LoadedSettings.absent with
        accessKeyId := some "key"
        secretAccessKey := some "secret" } := by
    decide +zetaReduce
  refine ⟨⟨within, known, empty, untouched⟩, place, set, ?_, ?_⟩
  · have chosen := chooses processWide 0 0 empty
    rw [loaded] at chosen
    rw [chosen]
    rfl
  · exact (isolated last "aws.accessKeyId" (List.prefix_refl _) untouched).trans set

end CredentialResolution
