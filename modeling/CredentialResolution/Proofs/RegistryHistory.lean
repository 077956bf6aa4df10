/-
This file says from the history of registrations alone what the registries hold. Every run of calls
of registries answers as that history says, also when constructors change their own registrations.
-/

import CredentialResolution.Scenario.Run

namespace CredentialResolution

/-- A change sets or removes the constructor of one capability in one registry. -/
inductive Change where
  | registered (registry : Nat) (capability : String) (constructor : Constructor)
  | unregistered (registry : Nat) (capability : String)

namespace Change

def concerns (registry : Nat) (capability : String) : Change → Bool
  | registered changed key _ => changed == registry && key == capability
  | unregistered changed key => changed == registry && key == capability

/-- This is the constructor that the change leaves registered. -/
def constructor? : Change → Option Constructor
  | registered _ _ constructor => some constructor
  | unregistered _ _ => none

/-- The history has the newest change first. A constructor stands if it was registered by the last
change of its capability in its registry. -/
def standing (history : List Change) (registry : Nat) (capability : String) :
    Option Constructor :=
  (history.find? (concerns registry capability)).bind constructor?

theorem standing_cons (change : Change) (history : List Change) (registry : Nat)
    (capability : String) :
    standing (change :: history) registry capability =
      if change.concerns registry capability then change.constructor?
      else standing history registry capability := by
  simp only [standing, List.find?_cons]
  cases change.concerns registry capability <;> rfl

/-- A constructor stands if nothing changed its registration since it was registered. -/
theorem standing_eq_some_iff {history : List Change} {registry : Nat} {capability : String}
    {constructor : Constructor} :
    standing history registry capability = some constructor ↔
      ∃ later earlier, history = later ++ .registered registry capability constructor :: earlier ∧
        ∀ change ∈ later, change.concerns registry capability = false := by
  rw [standing, Option.bind_eq_some_iff]
  simp only [List.find?_eq_some_iff_append]
  constructor
  · rintro ⟨change, ⟨concerned, later, earlier, split, others⟩, leaves⟩
    cases change with
    | unregistered changed key => cases leaves
    | registered changed key registered =>
      cases leaves
      simp only [concerns, Bool.and_eq_true, beq_iff_eq] at concerned
      obtain ⟨rfl, rfl⟩ := concerned
      exact ⟨later, earlier, split, by simpa using others⟩
  · rintro ⟨later, earlier, split, others⟩
    refine ⟨_, ⟨by simp [concerns], later, earlier, split, by simpa using others⟩, rfl⟩

end Change

namespace Constructor

/-- These are the changes that a constructor itself makes, newest first. -/
def changes (registry : Nat) (capability : String) : Constructor → List Change
  | plain _ _ => []
  | unregistering _ _ => [.unregistered registry capability]
  | replacing _ _ next => [.registered registry capability next]

/-- One run of a constructor leaves these events, oldest first. A constructor that unregisters
itself finds itself registered. -/
def traces (capability : String) : Constructor → List Event
  | plain label _ => [.constructed label]
  | unregistering label _ => [.constructed label, .unregistered true]
  | replacing label _ _ => [.constructed label, .logged (.registering capability)]

end Constructor

def Surroundings.withJournal (journal : List Event) (surroundings : Surroundings) : Surroundings :=
  { surroundings with journal := journal }

/-- A registry goes by the names of its handles. -/
inductive RegistryCall where
  | new (handle : String)
  | clone (handle existing : String)
  | register (handle capability : String) (constructor : Constructor)
  | unregister (handle capability : String)
  | isRegistered (handle capability : String)
  | lookUp (handle capability : String) (save : Option String)

def RegistryCall.operation : RegistryCall → Scenario.Operation
  | new handle => .newRegistry handle
  | clone handle existing => .cloneRegistry handle existing
  | register handle capability constructor => .register handle capability constructor
  | unregister handle capability => .unregister handle capability
  | isRegistered handle capability => .isRegistered handle capability
  | lookUp handle capability save => .lookUp handle capability save

/-- A chronicle knows the handles, the number of registries, the history of all of them and the
factories that were saved, but no registry. -/
structure Chronicle where
  handles : String → Option Nat
  count : Nat
  history : List Change
  factories : String → Option Factory

namespace Chronicle

open Scenario

/-- In the beginning there is only the registry of the whole process. -/
def initial : Chronicle where
  handles handle := if handle = "global" then some 0 else none
  count := 1
  history := []
  factories _ := none

/-- A handle leads to a registry from now on; the one of the whole process keeps its name. -/
def hold (handle : String) (registry : Nat) (chronicle : Chronicle) : Chronicle :=
  { chronicle with
    handles := fun other =>
      if other = "global" then some 0
      else if other = handle then some registry
      else chronicle.handles other }

def save (name : Option String) (factory : Factory) (chronicle : Chronicle) : Chronicle :=
  { chronicle with
    factories := fun other =>
      if some other = name then some factory else chronicle.factories other }

def standing (chronicle : Chronicle) (registry : Nat) (capability : String) : Option Constructor :=
  Change.standing chronicle.history registry capability

def record (changes : List Change) (chronicle : Chronicle) : Chronicle :=
  { chronicle with history := changes ++ chronicle.history }

/-- No answer of a registry says anything about a provider. -/
def replying (outcome : Outcome ResolutionError Reply) (events : List Event) : Answer :=
  ⟨outcome, none, events⟩

/-- A call through an unknown handle panics and changes nothing. -/
def through (handle : String) (chronicle : Chronicle) (call : Nat → Answer × Chronicle) :
    Answer × Chronicle :=
  match chronicle.handles handle with
  | some registry => call registry
  | none => (replying (.panic ("nothing is named " ++ handle)) [], chronicle)

/-- The constructor that stood when the lookup began runs once and decides how the lookup ends. Its
own changes remain in any case, and only its factory is saved. -/
def construct (registry : Nat) (capability : String) (name : Option String)
    (constructor : Constructor) (chronicle : Chronicle) : Answer × Chronicle :=
  let changed := chronicle.record (constructor.changes registry capability)
  let traces := constructor.traces capability
  match constructor.result with
  | .ok creation =>
    (replying (.ok .nothing) traces, changed.save name ⟨constructor.label, creation⟩)
  | .error (.text text) => (replying (.error (.constructionText text)) traces, changed)
  | .error (.error cause) => (replying (.error (.construction cause)) traces, changed)
  | .panic text => (replying (.panic text) traces, changed)

/-- Every call is answered from the history. -/
def answer (chronicle : Chronicle) : RegistryCall → Answer × Chronicle
  | .new handle =>
    (replying (.ok .nothing) [],
      { chronicle.hold handle chronicle.count with count := chronicle.count + 1 })
  | .clone handle existing => chronicle.through existing fun registry =>
    (replying (.ok .nothing) [], chronicle.hold handle registry)
  | .register handle capability constructor => chronicle.through handle fun registry =>
    (replying (.ok .nothing) [.logged (.registering capability)],
      chronicle.record [.registered registry capability constructor])
  | .unregister handle capability => chronicle.through handle fun registry =>
    (replying (.ok (.flag (some (chronicle.standing registry capability).isSome))) [],
      chronicle.record [.unregistered registry capability])
  | .isRegistered handle capability => chronicle.through handle fun registry =>
    (replying (.ok (.flag (some (chronicle.standing registry capability).isSome))) [],
      chronicle)
  | .lookUp handle capability name => chronicle.through handle fun registry =>
    match chronicle.standing registry capability with
    | none =>
      (replying (.error (.missingDependency capability)) [.logged (.notRegistered capability)],
        chronicle)
    | some constructor => construct registry capability name constructor chronicle

def run : List RegistryCall → Chronicle → List Answer × Chronicle
  | [], chronicle => ([], chronicle)
  | call :: rest, chronicle =>
    let (answer, chronicle) := chronicle.answer call
    let (answers, chronicle) := run rest chronicle
    (answer :: answers, chronicle)

/-- A chronicle describes surroundings if every registry holds exactly the standing constructors. -/
structure Describes (chronicle : Chronicle) (surroundings : Surroundings) : Prop where
  handles : ∀ handle, surroundings.registryNamed? handle = chronicle.handles handle
  count : surroundings.registries.count = chronicle.count
  present : ∀ handle registry, chronicle.handles handle = some registry → registry < chronicle.count
  standing : ∀ registry capability,
    (surroundings.registry registry).get? capability = chronicle.standing registry capability
  factories : ∀ name, surroundings.names.factories.get? name = chronicle.factories name

theorem registryNamed?_eq (surroundings : Surroundings) (handle : String) :
    surroundings.registryNamed? handle =
      if handle = "global" then some 0 else surroundings.names.registries.get? handle := rfl

namespace Describes

variable {chronicle : Chronicle} {surroundings : Surroundings}

theorem of_journal (describes : chronicle.Describes surroundings) (journal : List Event) :
    chronicle.Describes (surroundings.withJournal journal) :=
  ⟨describes.handles, describes.count, describes.present, describes.standing, describes.factories⟩

/-- A new handle is as good as the one it was made from. -/
theorem hold (describes : chronicle.Describes surroundings) (handle : String) {registry : Nat}
    (present : registry < chronicle.count) :
    (chronicle.hold handle registry).Describes (surroundings.nameRegistry handle registry) := by
  refine ⟨?_, describes.count, ?_, describes.standing, describes.factories⟩
  · intro other
    have earlier := describes.handles other
    rw [registryNamed?_eq] at earlier ⊢
    simp only [Surroundings.nameRegistry, Chronicle.hold, Bindings.get?_insert]
    split
    · rfl
    · rename_i different
      rw [if_neg different] at earlier
      rw [earlier]
  · intro other found held
    simp only [Chronicle.hold] at held
    split at held
    · cases held
      exact Nat.lt_of_le_of_lt (Nat.zero_le registry) present
    · split at held
      · cases held
        exact present
      · exact describes.present other found held

theorem new (describes : chronicle.Describes surroundings) (handle : String) :
    Describes { chronicle.hold handle chronicle.count with count := chronicle.count + 1 }
      (surroundings.addRegistry.2.nameRegistry handle surroundings.addRegistry.1) := by
  have grown : Describes { chronicle with count := chronicle.count + 1 }
      surroundings.addRegistry.2 := by
    refine ⟨describes.handles, ?_, ?_, ?_, describes.factories⟩
    · change (surroundings.registries.add .empty).count = chronicle.count + 1
      rw [Cells.count_add, describes.count]
    · intro other registry held
      exact Nat.lt_succ_of_lt (describes.present other registry held)
    · intro registry capability
      refine Eq.trans ?_ (describes.standing registry capability)
      change (((surroundings.registries.add .empty).get? registry).getD .empty).get? capability =
        ((surroundings.registries.get? registry).getD .empty).get? capability
      rw [Cells.get?_add]
      split
      · rename_i new
        rw [Cells.get?_eq_none (Nat.le_of_eq new.symm)]
        rfl
      · rfl
  have count : surroundings.addRegistry.1 = chronicle.count := describes.count
  rw [count]
  exact grown.hold handle (Nat.lt_succ_self chronicle.count)

/-- A change of the history is the same change of the registry. -/
theorem record (describes : chronicle.Describes surroundings) {registry : Nat}
    (present : registry < chronicle.count) (capability : String) (change : Change)
    (concerns : ∀ other key,
      change.concerns other key = (registry == other && capability == key))
    {update : Bindings Constructor → Bindings Constructor}
    (updates : ∀ constructors key, (update constructors).get? key =
      if key = capability then change.constructor? else constructors.get? key) :
    (chronicle.record [change]).Describes (surroundings.updateRegistry registry update) := by
  have present' : registry < surroundings.registries.count := by
    rw [describes.count]
    exact present
  refine ⟨describes.handles, ?_, describes.present, ?_, describes.factories⟩
  · exact (Cells.count_update _ _ _).trans describes.count
  · intro other key
    change _ = Change.standing (change :: chronicle.history) other key
    rw [Change.standing_cons, Surroundings.registry_updateRegistry _ present', concerns]
    by_cases here : other = registry
    · rw [if_pos here, updates, describes.standing, here]
      by_cases same : key = capability
      · simp [same]
      · simp [Chronicle.standing, same, Ne.symm same]
    · rw [if_neg here, describes.standing]
      simp [Chronicle.standing, Ne.symm here]

theorem register (describes : chronicle.Describes surroundings) {registry : Nat}
    (present : registry < chronicle.count) (capability : String) (constructor : Constructor) :
    (chronicle.record [.registered registry capability constructor]).Describes
      (surroundings.register registry capability constructor) :=
  (describes.of_journal _).record present capability _ (fun _ _ => rfl)
    fun constructors key => Bindings.get?_insert constructors capability key constructor

theorem unregister (describes : chronicle.Describes surroundings) {registry : Nat}
    (present : registry < chronicle.count) (capability : String) :
    (chronicle.record [.unregistered registry capability]).Describes
      (surroundings.unregister registry capability).2 :=
  describes.record present capability _ (fun _ _ => rfl)
    fun constructors key => Bindings.get?_erase constructors capability key

theorem save_none (describes : chronicle.Describes surroundings) (factory : Factory) :
    (chronicle.save none factory).Describes surroundings :=
  ⟨describes.handles, describes.count, describes.present, describes.standing, describes.factories⟩

theorem save (describes : chronicle.Describes surroundings) (name : String) (factory : Factory) :
    (chronicle.save (some name) factory).Describes (surroundings.nameFactory name factory) := by
  refine ⟨describes.handles, describes.count, describes.present, describes.standing, ?_⟩
  intro other
  simp only [Surroundings.nameFactory, Chronicle.save, Bindings.get?_insert, Option.some.injEq]
  rw [describes.factories]

theorem isRegistered (describes : chronicle.Describes surroundings) (registry : Nat)
    (capability : String) :
    surroundings.isRegistered registry capability =
      (chronicle.standing registry capability).isSome := by
  rw [Surroundings.isRegistered, Bindings.contains, describes.standing]

end Describes

/-- A call is answered as the chronicle says, and the chronicle still describes what it leaves. -/
structure Matches (actual : Answer × Surroundings) (ideal : Answer × Chronicle) : Prop where
  answer : actual.1 = ideal.1
  describes : ideal.2.Describes actual.2

section Steps

variable {chronicle : Chronicle} {surroundings : Surroundings}

theorem answer_eq (operation : Operation) (surroundings : Surroundings) :
    operation.answer surroundings =
      let ended := operation.perform (surroundings.withJournal [])
      (⟨ended.1, operation.resolvedAfter? ended.2, ended.2.events⟩, ended.2.withJournal []) := rfl

/-- Only resolving answers with more than an outcome and events. -/
theorem plain_answer_of_perform {operation : Operation}
    {ended : Outcome ResolutionError Reply × Surroundings}
    (plain : ∀ after, operation.resolvedAfter? after = none)
    (performed : operation.perform (surroundings.withJournal []) = ended) :
    operation.answer surroundings =
      (replying ended.1 ended.2.events, ended.2.withJournal []) := by
  rw [answer_eq, performed]
  simp only [plain]
  rfl

theorem answer_of_perform {call : RegistryCall} {outcome : Outcome ResolutionError Reply}
    {after : Surroundings}
    (performed : call.operation.perform (surroundings.withJournal []) = (outcome, after)) :
    call.operation.answer surroundings =
      (replying outcome after.events, after.withJournal []) := by
  apply plain_answer_of_perform _ performed
  cases call <;> exact fun _ => rfl

/-- What a constructor does to its registration is what the chronicle adds to the history. -/
theorem react_describes (describes : chronicle.Describes surroundings) {registry : Nat}
    (present : registry < chronicle.count) {capability : String} {constructor : Constructor}
    (standing : chronicle.standing registry capability = some constructor) :
    let after := (surroundings.record (.constructed constructor.label)).react registry capability
      constructor
    (chronicle.record (constructor.changes registry capability)).Describes after ∧
      after.events = surroundings.events ++ constructor.traces capability := by
  intro after
  have constructed := describes.of_journal (.constructed constructor.label :: surroundings.journal)
  cases constructor with
  | plain label result =>
    exact ⟨constructed, Surroundings.events_record _ _⟩
  | unregistering label result =>
    have registered := constructed.isRegistered registry capability
    rw [standing] at registered
    refine ⟨(constructed.unregister present capability).of_journal _, ?_⟩
    change ((surroundings.record (.constructed label)).record (.unregistered
      ((surroundings.record (.constructed label)).isRegistered registry capability))).events = _
    rw [show (surroundings.record (.constructed label)).isRegistered registry capability = true from
      registered, Surroundings.events_record, Surroundings.events_record, List.append_assoc]
    rfl
  | replacing label result next =>
    refine ⟨constructed.register present capability next, ?_⟩
    change ((surroundings.record (.constructed label)).log (.registering capability)).events = _
    rw [Surroundings.log, Surroundings.events_record, Surroundings.events_record, List.append_assoc]
    rfl

/-- A call through a handle performs what it does on the registry that the handle leads to. -/
theorem through_matches (describes : chronicle.Describes surroundings) {call : RegistryCall}
    {handle : String} {next : Nat → Action Surroundings ResolutionError Reply}
    {ideal : Nat → Answer × Chronicle}
    (performs : call.operation.perform = do next (← Surroundings.findRegistry handle))
    (leads : ∀ registry, registry < chronicle.count →
      Matches
        (replying (next registry (surroundings.withJournal [])).1
            (next registry (surroundings.withJournal [])).2.events,
          (next registry (surroundings.withJournal [])).2.withJournal [])
        (ideal registry)) :
    Matches (call.operation.answer surroundings) (chronicle.through handle ideal) := by
  have found := describes.handles handle
  rw [through]
  cases held : chronicle.handles handle with
  | none =>
    rw [held] at found
    have lost : Surroundings.findRegistry handle (surroundings.withJournal []) =
        (.panic ("nothing is named " ++ handle), surroundings.withJournal []) := by
      simp only [Surroundings.findRegistry, Surroundings.named]
      rw [show (surroundings.withJournal []).registryNamed? handle = none
        from found]
    rw [answer_of_perform (performs ▸ Action.bind_of_panic lost)]
    exact ⟨rfl, describes.of_journal []⟩
  | some registry =>
    rw [held] at found
    have led : Surroundings.findRegistry handle (surroundings.withJournal []) =
        (.ok registry, surroundings.withJournal []) := by
      simp only [Surroundings.findRegistry, Surroundings.named]
      rw [show (surroundings.withJournal []).registryNamed? handle =
        some registry from found]
    rw [answer_of_perform (performs ▸ Action.bind_of_ok led)]
    exact leads registry (describes.present handle registry held)

/-- A lookup is answered by the constructor that stands, or by nothing if none does. -/
theorem lookUp_matches (describes : chronicle.Describes surroundings) (handle capability : String)
    (name : Option String) :
    Matches ((RegistryCall.lookUp handle capability name).operation.answer surroundings)
      (chronicle.answer (.lookUp handle capability name)) := by
  apply through_matches describes rfl
  intro registry present
  let cleared := surroundings.withJournal []
  have held : (cleared.registry registry).get? capability =
      chronicle.standing registry capability :=
    describes.standing registry capability
  cases standing : chronicle.standing registry capability with
  | none =>
    rw [standing] at held
    have missing : Surroundings.lookUp registry capability cleared =
        (.error (.missingDependency capability), cleared.log (.notRegistered capability)) := by
      simp only [Surroundings.lookUp, held]
    rw [Action.bind_of_error missing]
    exact ⟨rfl, describes.of_journal []⟩
  | some constructor =>
    rw [standing] at held
    have ran : Surroundings.lookUp registry capability cleared =
        (constructor.outcome,
          (cleared.record (.constructed constructor.label)).react registry capability
            constructor) := by
      simp only [Surroundings.lookUp, held]
      rfl
    obtain ⟨reacted, traces⟩ := react_describes (describes.of_journal []) present standing
    have remains := reacted.of_journal []
    have traces : ((cleared.record (.constructed constructor.label)).react registry capability
        constructor).events = constructor.traces capability := traces
    simp only [construct]
    cases result : constructor.result with
    | ok creation =>
      rw [Constructor.outcome, result] at ran
      rw [Action.bind_of_ok ran]
      cases name with
      | none =>
        refine ⟨?_, remains.save_none _⟩
        exact congrArg (replying _) traces
      | some name =>
        refine ⟨?_, remains.save name _⟩
        exact congrArg (replying _) traces
    | error cause =>
      rw [Constructor.outcome, result] at ran
      rw [Action.bind_of_error ran, traces]
      cases cause <;> exact ⟨rfl, remains⟩
    | panic text =>
      rw [Constructor.outcome, result] at ran
      rw [Action.bind_of_panic ran, traces]
      exact ⟨rfl, remains⟩

/-- Each call of a registry is answered as the chronicle says. -/
theorem answer_matches (describes : chronicle.Describes surroundings) (call : RegistryCall) :
    Matches (call.operation.answer surroundings) (chronicle.answer call) := by
  have cleared := describes.of_journal []
  cases call with
  | new handle =>
    rw [answer_of_perform rfl]
    exact ⟨rfl, (describes.new handle).of_journal []⟩
  | clone handle existing =>
    apply through_matches describes rfl
    intro registry present
    exact ⟨rfl, (describes.hold handle present).of_journal []⟩
  | register handle capability constructor =>
    apply through_matches describes rfl
    intro registry present
    exact ⟨rfl, (describes.register present capability constructor).of_journal []⟩
  | unregister handle capability =>
    apply through_matches describes rfl
    intro registry present
    refine ⟨?_, (describes.unregister present capability).of_journal []⟩
    rw [← describes.isRegistered]
    rfl
  | isRegistered handle capability =>
    apply through_matches describes rfl
    intro registry present
    refine ⟨?_, describes.of_journal []⟩
    rw [← describes.isRegistered]
    rfl
  | lookUp handle capability name => exact lookUp_matches describes handle capability name

/-- A run of calls is answered as the chronicle says. -/
theorem run_matches (describes : chronicle.Describes surroundings) (calls : List RegistryCall) :
    (Scenario.run (calls.map RegistryCall.operation) surroundings).1 = (run calls chronicle).1 ∧
      (run calls chronicle).2.Describes
        (Scenario.run (calls.map RegistryCall.operation) surroundings).2 := by
  induction calls generalizing chronicle surroundings with
  | nil => exact ⟨rfl, describes⟩
  | cons call rest inductionHypothesis =>
    obtain ⟨answer, described⟩ := answer_matches describes call
    obtain ⟨answers, last⟩ := inductionHypothesis described
    refine ⟨?_, last⟩
    simp only [List.map_cons, Scenario.run, run]
    rw [answer, answers]

end Steps

theorem initial_describes (clock : Instant) (files : FileTree) :
    initial.Describes (Surroundings.initial clock files) := by
  refine ⟨fun _ => rfl, rfl, ?_, ?_, fun _ => rfl⟩
  · intro handle registry held
    simp only [initial] at held ⊢
    split at held <;> cases held
    exact Nat.one_pos
  · intro registry capability
    cases registry <;> rfl

end Chronicle

/-- Every run of calls of registries is answered from the history of registrations alone. In the
end a registry holds a constructor for a capability exactly if the last change of that capability
in that registry registered it, and every saved factory is the one that its constructor made. -/
theorem Scenario.registries_answer_from_history (clock : Instant) (files : FileTree)
    (calls : List RegistryCall) :
    let ended := Scenario.run (calls.map RegistryCall.operation) (Surroundings.initial clock files)
    let expected := Chronicle.run calls .initial
    ended.1 = expected.1 ∧
      (∀ registry capability constructor,
        (ended.2.registry registry).get? capability = some constructor ↔
          ∃ later earlier, expected.2.history =
              later ++ .registered registry capability constructor :: earlier ∧
            ∀ change ∈ later, change.concerns registry capability = false) ∧
      ∀ name, ended.2.names.factories.get? name = expected.2.factories name := by
  intro ended expected
  obtain ⟨answers, describes⟩ :=
    Chronicle.run_matches (Chronicle.initial_describes clock files) calls
  refine ⟨answers, ?_, describes.factories⟩
  intro registry capability constructor
  rw [describes.standing, Chronicle.standing, Change.standing_eq_some_iff]

end CredentialResolution
