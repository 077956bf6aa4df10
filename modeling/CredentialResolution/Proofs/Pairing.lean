/-
This file shows that the positions of memos are only names. If two surroundings differ in nothing
but where their memos lie, then resolving ends alike in both and leaves behind surroundings that
again differ in nothing else.
-/

import CredentialResolution.Proofs.Agreement
import CredentialResolution.Provider.Calls

namespace CredentialResolution

namespace ProviderBlueprint

mutual

/-- A blueprint mentions the providers that it shares. -/
def mentioned : ProviderBlueprint → List String
  | .fixed _ => []
  | .scripted _ => []
  | .settings _ _ => []
  | .chain members => mentionedMembers members
  | .defaultChain => []
  | .named name => [name]

def mentionedMembers : List ProviderBlueprint → List String
  | [] => []
  | first :: rest => mentioned first ++ mentionedMembers rest

end

end ProviderBlueprint

def Creation.mentioned : Creation → List String
  | .blueprint described => described.mentioned
  | _ => []

namespace Constructor

def mentionedIn : Outcome ConstructionCause Creation → List String
  | .ok creation => creation.mentioned
  | _ => []

/-- A constructor mentions what its factory mentions, and a replacing one also what its replacement
mentions. -/
def mentioned : Constructor → List String
  | plain _ result => mentionedIn result
  | unregistering _ result => mentionedIn result
  | replacing _ result next => mentionedIn result ++ next.mentioned

/-- A factory mentions nothing that its constructor does not. -/
theorem mentioned_of_outcome {constructor : Constructor} {factory : Factory}
    (constructed : constructor.outcome = .ok factory) {name : String}
    (mentions : name ∈ factory.creation.mentioned) : name ∈ constructor.mentioned := by
  cases constructor with
  | plain label result | unregistering label result =>
    cases result with
    | ok creation =>
      cases constructed
      exact mentions
    | error cause | panic text => cases constructed
  | replacing label result next =>
    cases result with
    | ok creation =>
      cases constructed
      exact List.mem_append_left _ mentions
    | error cause | panic text => cases constructed

end Constructor

namespace Surroundings

/-- This function exchanges the memos and the names of providers. -/
def furnished (memos : Cells (Option (Numbered Provider))) (providers : Bindings Provider)
    (surroundings : Surroundings) : Surroundings :=
  { surroundings with
    memos := memos
    names := { surroundings.names with providers := providers } }

/-- Bare surroundings have neither memos nor names of providers. -/
def bare (surroundings : Surroundings) : Surroundings :=
  surroundings.furnished .empty .empty

theorem eq_furnished_of_bare {surroundings surroundings' : Surroundings}
    (same : surroundings.bare = surroundings'.bare) :
    surroundings' = surroundings.furnished surroundings'.memos surroundings'.names.providers := by
  have furnishedAlike :=
    congrArg (furnished surroundings'.memos surroundings'.names.providers) same.symm
  exact furnishedAlike

/-- All registered constructors mention allowed names only. -/
def Registers (allowed : String → Prop) (surroundings : Surroundings) : Prop :=
  ∀ ⦃position : Nat⦄ ⦃capability : String⦄ ⦃constructor : Constructor⦄,
    (surroundings.registry position).get? capability = some constructor →
      ∀ name ∈ constructor.mentioned, allowed name

/-- One constructor alone is registered, in the first registry. -/
theorem registers_of_single {allowed : String → Prop} {surroundings : Surroundings}
    {capability : String} {constructor : Constructor}
    (single : surroundings.registries = .ofFirst (Bindings.empty.insert capability constructor))
    (mentions : ∀ name ∈ constructor.mentioned, allowed name) : surroundings.Registers allowed := by
  intro position other found registered
  rw [registry, single] at registered
  cases position with
  | succ position => cases registered
  | zero =>
    change (Bindings.empty.insert capability constructor).get? other = some found at registered
    rw [Bindings.get?_insert] at registered
    split at registered
    · cases registered
      exact mentions
    · cases registered

theorem present_of_registered {surroundings : Surroundings} {position : Nat} {capability : String}
    {constructor : Constructor}
    (registered : (surroundings.registry position).get? capability = some constructor) :
    position < surroundings.registries.count := by
  rcases Nat.lt_or_ge position surroundings.registries.count with present | absent
  · exact present
  · rw [registry, Cells.get?_eq_none absent] at registered
    cases registered

/-- What a constructor does to its own registration leaves only allowed names behind. -/
theorem registers_react {allowed : String → Prop} {surroundings : Surroundings}
    (registers : surroundings.Registers allowed) {position : Nat} {capability : String}
    {constructor : Constructor}
    (registered : (surroundings.registry position).get? capability = some constructor) :
    (surroundings.react position capability constructor).Registers allowed := by
  have present := present_of_registered registered
  cases constructor with
  | plain label result => exact registers
  | unregistering label result =>
    intro other otherCapability found left
    change ((surroundings.updateRegistry position _).registry other).get? otherCapability =
      _ at left
    rw [registry_updateRegistry surroundings present] at left
    split at left
    · rw [Bindings.get?_erase] at left
      split at left
      · cases left
      · exact registers left
    · exact registers left
  | replacing label result next =>
    intro other otherCapability found left
    change (((surroundings.log _).updateRegistry position _).registry other).get? otherCapability =
      _ at left
    rw [registry_updateRegistry (surroundings.log _) present] at left
    split at left
    · rw [Bindings.get?_insert] at left
      split at left
      · cases left
        intro name mentions
        exact registers registered name (List.mem_append_right _ mentions)
      · exact registers left
    · exact registers left

end Surroundings

/-- Providers are paired if they have the same form and their memos lie at paired positions. -/
inductive SingleProvider.Paired (pairs : Nat → Nat → Prop) : SingleProvider → SingleProvider → Prop
  | fixed (credentials : Credentials) : Paired pairs (.fixed credentials) (.fixed credentials)
  | scripted (position : Nat) : Paired pairs (.scripted position) (.scripted position)
  | settings (source : Source) (registry : Nat) {memo memo' : Nat} (same : pairs memo memo') :
      Paired pairs (.settings source registry memo) (.settings source registry memo')

abbrev Provider.Paired (pairs : Nat → Nat → Prop) : Provider → Provider → Prop :=
  ChainTree.Related (SingleProvider.Paired pairs)

structure Numbered.Paired (pairs : Nat → Nat → Prop) (numbered numbered' : Numbered Provider) :
    Prop where
  serial : numbered.serial = numbered'.serial
  delegate : Provider.Paired pairs numbered.delegate numbered'.delegate

/-- Two runs begin in two surroundings. Each position of one is paired with at most one position of
the other, and what both add later is paired in the order in which it is added. -/
structure Pairing where
  first : Surroundings
  second : Surroundings
  pairs : Nat → Nat → Prop
  oneToOne : ∀ {i i' k k' : Nat}, pairs i i' → pairs k k' → (i = k ↔ i' = k')
  later : ∀ added, pairs (first.memos.count + added) (second.memos.count + added)

namespace Pairing

variable (pairing : Pairing)

/-- A known name leads to paired providers, or to nothing in both surroundings. -/
def Known (name : String) : Prop :=
  Option.Rel (Provider.Paired pairing.pairs) (pairing.first.names.providers.get? name)
    (pairing.second.names.providers.get? name)

/-- Paired memos hold paired delegates, and the other memos hold what they held in the beginning. -/
structure Linked (memos memos' : Cells (Option (Numbered Provider))) : Prop where
  grown : ∃ added, memos.count = pairing.first.memos.count + added ∧
    memos'.count = pairing.second.memos.count + added
  held : ∀ ⦃position position'⦄, pairing.pairs position position' →
    Option.Rel (Numbered.Paired pairing.pairs) (memos.get? position).join
      (memos'.get? position').join
  kept : ∀ ⦃position⦄, (∀ position', ¬ pairing.pairs position position') →
    memos.get? position = pairing.first.memos.get? position
  kept' : ∀ ⦃position'⦄, (∀ position, ¬ pairing.pairs position position') →
    memos'.get? position' = pairing.second.memos.get? position'

/-- During both runs the surroundings differ in nothing but their memos and in where the names of
providers lead. -/
structure States (surroundings surroundings' : Surroundings) : Prop where
  bare : surroundings.bare = surroundings'.bare
  memos : pairing.Linked surroundings.memos surroundings'.memos
  providers : surroundings.names.providers = pairing.first.names.providers
  providers' : surroundings'.names.providers = pairing.second.names.providers
  registers : surroundings.Registers pairing.Known

/-- Both runs may begin if the surroundings differ in nothing else, paired memos hold paired
delegates and all mentioned names are known. -/
theorem begins (bare : pairing.first.bare = pairing.second.bare)
    (held : ∀ ⦃position position'⦄, pairing.pairs position position' →
      Option.Rel (Numbered.Paired pairing.pairs)
        ((Surroundings.memo position).held pairing.first)
        ((Surroundings.memo position').held pairing.second))
    (registers : pairing.first.Registers pairing.Known) :
    pairing.States pairing.first pairing.second :=
  ⟨bare, ⟨⟨0, rfl, rfl⟩, held, fun _ _ => rfl, fun _ _ => rfl⟩, rfl, rfl, registers⟩

variable {pairing}

/-- Paired positions are both present or both absent. -/
theorem Linked.present_iff {memos memos' : Cells (Option (Numbered Provider))}
    (linked : pairing.Linked memos memos') {position position' : Nat}
    (same : pairing.pairs position position') :
    position < memos.count ↔ position' < memos'.count := by
  obtain ⟨added, grown, grown'⟩ := linked.grown
  have aligned (more : Nat) := pairing.oneToOne same (pairing.later more)
  rcases Nat.lt_or_ge position pairing.first.memos.count with early | late
  · rcases Nat.lt_or_ge position' pairing.second.memos.count with early' | late'
    · omega
    · obtain ⟨more, beyond⟩ := Nat.exists_eq_add_of_le late'
      have same := (aligned more).mpr beyond
      omega
  · obtain ⟨more, beyond⟩ := Nat.exists_eq_add_of_le late
    have same := (aligned more).mp beyond
    omega

/-- New empty memos are linked. -/
theorem Linked.add {memos memos' : Cells (Option (Numbered Provider))}
    (linked : pairing.Linked memos memos') :
    pairing.pairs memos.count memos'.count ∧ pairing.Linked (memos.add none) (memos'.add none) := by
  obtain ⟨added, grown, grown'⟩ := linked.grown
  have same : pairing.pairs memos.count memos'.count := by
    rw [grown, grown']
    exact pairing.later added
  refine ⟨same, ⟨added + 1, ?_, ?_⟩, ?_, ?_, ?_⟩
  · rw [Cells.count_add, grown, Nat.add_assoc]
  · rw [Cells.count_add, grown', Nat.add_assoc]
  · intro position position' paired
    rw [Cells.get?_add, Cells.get?_add]
    have together := pairing.oneToOne paired same
    by_cases new : position = memos.count
    · rw [if_pos new, if_pos (together.mp new)]
      exact .none
    · rw [if_neg new, if_neg (fun new' => new (together.mpr new'))]
      exact linked.held paired
  · intro position unpaired
    rw [Cells.get?_add, if_neg]
    · exact linked.kept unpaired
    · rintro rfl
      exact unpaired _ same
  · intro position' unpaired
    rw [Cells.get?_add, if_neg]
    · exact linked.kept' unpaired
    · rintro rfl
      exact unpaired _ same

/-- Putting paired delegates into paired memos keeps the memos linked. -/
theorem Linked.update {memos memos' : Cells (Option (Numbered Provider))}
    (linked : pairing.Linked memos memos') {position position' : Nat}
    (same : pairing.pairs position position') {delegate delegate' : Option (Numbered Provider)}
    (delegates : Option.Rel (Numbered.Paired pairing.pairs) delegate delegate') :
    pairing.Linked (memos.update position fun _ => delegate)
      (memos'.update position' fun _ => delegate') := by
  refine ⟨?_, ?_, ?_, ?_⟩
  · simpa only [Cells.count_update] using linked.grown
  · intro other other' paired
    rw [Cells.get?_update, Cells.get?_update]
    have together := pairing.oneToOne paired same
    by_cases here : other = position
    · have here' := together.mp here
      rw [if_pos here, if_pos here']
      have presentAlike := linked.present_iff same
      rcases Nat.lt_or_ge position memos.count with present | absent
      · obtain ⟨value, found⟩ := Cells.exists_of_lt_count present
        obtain ⟨value', found'⟩ := Cells.exists_of_lt_count (presentAlike.mp present)
        rw [here, here', found, found']
        exact delegates
      · rw [here, here', Cells.get?_eq_none absent, Cells.get?_eq_none (by omega)]
        exact .none
    · rw [if_neg here, if_neg (fun here' => here (together.mpr here'))]
      exact linked.held paired
  · intro other unpaired
    rw [Cells.get?_update, if_neg]
    · exact linked.kept unpaired
    · rintro rfl
      exact unpaired _ same
  · intro other' unpaired
    rw [Cells.get?_update, if_neg]
    · exact linked.kept' unpaired
    · rintro rfl
      exact unpaired _ same

end Pairing

end CredentialResolution
