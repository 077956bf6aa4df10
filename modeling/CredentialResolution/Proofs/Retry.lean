/-
This file shows that a choice that fails leaves a provider over settings as good as new: it closes
nothing, and it resolves as a new provider over the same source and registry would.
-/

import CredentialResolution.Proofs.Apart
import CredentialResolution.Proofs.Attempt
import CredentialResolution.Proofs.Release
import Mathlib.Logic.Equiv.Basic

namespace CredentialResolution

open Surroundings

namespace ChainTree

variable {Member : Type}

mutual

/-- This function changes the members and keeps the form of the tree. -/
def map (change : Member → Member) : ChainTree Member → ChainTree Member
  | .single member => .single (change member)
  | .chain members => .chain (mapMembers change members)
  | .shared tree => .shared (map change tree)

def mapMembers (change : Member → Member) : List (ChainTree Member) → List (ChainTree Member)
  | [] => []
  | first :: rest => map change first :: mapMembers change rest

end

variable {change : Member → Member} {members : Member → Member → Prop}

mutual

theorem related_map (changed : ∀ member, members member (change member)) :
    ∀ tree : ChainTree Member, Related members tree (tree.map change)
  | .single member => by
    simp only [map]
    exact .single (changed member)
  | .chain trees => by
    simp only [map]
    exact .chain (relatedMembers_map changed trees)
  | .shared tree => by
    simp only [map]
    exact .shared (related_map changed tree)

theorem relatedMembers_map (changed : ∀ member, members member (change member)) :
    ∀ trees : List (ChainTree Member), RelatedMembers members trees (mapMembers change trees)
  | [] => by
    simp only [mapMembers]
    exact .nil
  | first :: rest => by
    simp only [mapMembers]
    exact .cons (related_map changed first) (relatedMembers_map changed rest)

end

end ChainTree

/-- Whoever led to a memo now leads to the memo that the function gives instead. -/
def SingleProvider.redirected (place : Nat → Nat) : SingleProvider → SingleProvider
  | .settings source registry memo => .settings source registry (place memo)
  | provider => provider

def Provider.redirected (place : Nat → Nat) (provider : Provider) : Provider :=
  provider.map (SingleProvider.redirected place)

theorem Provider.paired_redirected {pairs : Nat → Nat → Prop} {place : Nat → Nat}
    (placed : ∀ position, pairs position (place position)) (provider : Provider) :
    Provider.Paired pairs provider (provider.redirected place) := by
  apply ChainTree.related_map
  intro member
  cases member with
  | fixed credentials => exact .fixed credentials
  | scripted position => exact .scripted position
  | settings source registry memo => exact .settings source registry (placed memo)

namespace Surroundings

/-- All held delegates and all named providers are redirected; the memos stay where they are. -/
def redirected (place : Nat → Nat) (surroundings : Surroundings) : Surroundings :=
  surroundings.furnished
    (surroundings.memos.map (Option.map fun numbered =>
      ⟨numbered.serial, numbered.delegate.redirected place⟩))
    (surroundings.names.providers.map (Provider.redirected place))

theorem held_redirected (place : Nat → Nat) (position : Nat) (surroundings : Surroundings) :
    (memo position).held (surroundings.redirected place) =
      ((memo position).held surroundings).map fun numbered =>
        ⟨numbered.serial, numbered.delegate.redirected place⟩ := by
  change ((surroundings.memos.map _).get? position).join = _
  rw [Cells.get?_map]
  change _ = (surroundings.memos.get? position).join.map _
  cases surroundings.memos.get? position <;> rfl

/-- Both runs give the same answer and leave the same behind, apart from memos and from where the
names of providers lead. -/
structure SameRun (run run' : Outcome ResolutionError Credentials × Surroundings) : Prop where
  outcome : run.1 = run'.1
  events : run.2.events = run'.2.events
  rest : run.2.bare = run'.2.bare

end Surroundings

namespace Pairing

variable {position fresh : Nat}

/-- Two runs begin in surroundings that differ by the exchange of two empty memos. Only positions
that are allowed are ever reached. -/
def exchanging (first second : Surroundings)
    (sameCount : second.memos.count = first.memos.count) (present : position < first.memos.count)
    (freshPresent : fresh < first.memos.count) (allowed : Nat → Prop)
    (later : ∀ position, first.memos.count ≤ position → allowed position) : Pairing where
  first := first
  second := second
  pairs one other := allowed one ∧ other = Equiv.swap position fresh one
  oneToOne := by
    rintro one _ other _ ⟨-, rfl⟩ ⟨-, rfl⟩
    exact (Equiv.swap position fresh).injective.eq_iff.symm
  later added := by
    refine ⟨later _ (Nat.le_add_right _ _), ?_⟩
    rw [Equiv.swap_apply_of_ne_of_ne (by omega) (by omega), sameCount]

theorem sameRun {pairing : Pairing} (begins : pairing.States pairing.first pairing.second)
    (nesting : Nat) (source : Source) (registry : Nat) (same : pairing.pairs position fresh) :
    SameRun (Provider.resolve nesting (.single (.settings source registry position)) pairing.first)
      (Provider.resolve nesting (.single (.settings source registry fresh)) pairing.second) := by
  have paired : Provider.Paired pairing.pairs (.single (.settings source registry position))
      (.single (.settings source registry fresh)) :=
    .single (.settings source registry same)
  obtain ⟨alike, left⟩ := resolve_agrees nesting paired begins
  refine ⟨alike.eq, ?_, left.bare⟩
  have journals := congrArg Surroundings.journal left.bare
  exact congrArg List.reverse journals

section Exchange

variable {world : Surroundings} (present : position < world.memos.count)
  (freshPresent : fresh < world.memos.count) (empty : (memo position).held world = none)
  (freshEmpty : (memo fresh).held world = none)

include empty freshEmpty

/-- In the redirected world, the fresh memo stands in the place of the other one. -/
theorem exchanging_redirected_begins :
    let pairing := exchanging world (world.redirected (Equiv.swap position fresh))
      (Cells.count_map _ _) present freshPresent (fun _ => True) fun _ _ => trivial
    pairing.States pairing.first pairing.second := by
  intro pairing
  have placed (one : Nat) : pairing.pairs one (Equiv.swap position fresh one) := ⟨trivial, rfl⟩
  apply pairing.begins rfl
  · rintro one _ ⟨-, rfl⟩
    change Option.Rel _ ((memo one).held world) ((memo _).held (world.redirected _))
    rw [held_redirected]
    by_cases atPosition : one = position
    · rw [atPosition, Equiv.swap_apply_left, empty, freshEmpty]
      exact .none
    · by_cases atFresh : one = fresh
      · rw [atFresh, Equiv.swap_apply_right, empty, freshEmpty]
        exact .none
      · rw [Equiv.swap_apply_of_ne_of_ne atPosition atFresh]
        cases (memo one).held world with
        | none => exact .none
        | some numbered => exact .some ⟨rfl, Provider.paired_redirected placed numbered.delegate⟩
  · intro registry capability constructor registered name mentions
    change Option.Rel _ (world.names.providers.get? name)
      ((world.names.providers.map _).get? name)
    rw [Bindings.get?_map]
    cases world.names.providers.get? name with
    | none => exact .none
    | some provider => exact .some (Provider.paired_redirected placed provider)

/-- Where nothing leads to either memo, nothing has to be redirected. -/
theorem exchanging_apart_begins {zone : Nat → Prop}
    (encloses : world.Encloses zone [position, fresh]) :
    let pairing := exchanging world world rfl present freshPresent
      (fun one => zone one ∨ one ∈ [position, fresh])
      fun one large => .inl (encloses.later one large)
    pairing.States pairing.first pairing.second := by
  intro pairing
  have stays {one : Nat} (inside : zone one) : Equiv.swap position fresh one = one := by
    apply Equiv.swap_apply_of_ne_of_ne
    · rintro rfl
      exact encloses.outside one (by simp) inside
    · rintro rfl
      exact encloses.outside one (by simp) inside
  have within {provider : Provider} (within : provider.Within zone) :
      Provider.Paired pairing.pairs provider provider := by
    refine ChainTree.Related.mono ?_ within
    intro member member' paired
    refine paired.mono ?_
    rintro one _ ⟨rfl, inside⟩
    exact ⟨.inl inside, (stays inside).symm⟩
  apply pairing.begins rfl
  · rintro one _ ⟨inside | own, rfl⟩
    · rw [stays inside]
      change Option.Rel _ ((memo one).held world) ((memo one).held world)
      cases held : (memo one).held world with
      | none => exact .none
      | some numbered =>
        exact .some ⟨rfl, within (encloses.held one numbered (.inl inside) held)⟩
    · change Option.Rel _ ((memo one).held world) ((memo _).held world)
      simp only [List.mem_cons, List.not_mem_nil, or_false] at own
      rcases own with rfl | rfl
      · rw [Equiv.swap_apply_left, empty, freshEmpty]
        exact .none
      · rw [Equiv.swap_apply_right, empty, freshEmpty]
        exact .none
  · intro registry capability constructor registered name mentions
    have leads := encloses.registers registered name mentions
    change Option.Rel _ (world.names.providers.get? name) (world.names.providers.get? name)
    cases found : world.names.providers.get? name with
    | none => exact .none
    | some provider => exact .some (within (leads provider found))

end Exchange

end Pairing

/-- The provider resolves as a newly made one over the same source and registry does: in a world
where each of the two stands in the place of the other, and in the very same world if nothing there
leads to one of them. -/
def Provider.ResolvesAsNew (nesting : Nat) (source : Source) (registry position : Nat)
    (surroundings : Surroundings) : Prop :=
  ∀ (new : Provider) (world : Surroundings),
    (Provider.overSettings source registry : Action Surroundings Empty Provider) surroundings =
        (.ok new, world) →
      let run := Provider.resolve nesting (.single (.settings source registry position)) world
      SameRun run (new.resolve nesting
          (world.redirected (Equiv.swap position surroundings.memos.count))) ∧
        (world.Apart [position, surroundings.memos.count] → SameRun run (new.resolve nesting world))

theorem Provider.resolvesAsNew_of_empty (nesting : Nat) (source : Source) (registry : Nat)
    {position : Nat} {surroundings : Surroundings}
    (empty : (memo position).held surroundings = none)
    (present : position < surroundings.memos.count) :
    Provider.ResolvesAsNew nesting source registry position surroundings := by
  rintro new world ⟨⟩
  intro run
  let world := (addMemo surroundings).2
  have stillPresent : position < world.memos.count := by
    change position < (surroundings.memos.add none).count
    rw [Cells.count_add]
    omega
  have newPresent : surroundings.memos.count < world.memos.count := by
    change surroundings.memos.count < (surroundings.memos.add none).count
    rw [Cells.count_add]
    omega
  have held (one : Nat) : (memo one).held world =
      if one = surroundings.memos.count then none else (memo one).held surroundings := by
    change ((surroundings.memos.add none).get? one).join = _
    rw [Cells.get?_add]
    split <;> rfl
  have stillEmpty : (memo position).held world = none := by
    rw [held, if_neg (by omega)]
    exact empty
  have newEmpty : (memo surroundings.memos.count).held world = none := by
    rw [held, if_pos rfl]
  constructor
  · exact Pairing.sameRun (Pairing.exchanging_redirected_begins stillPresent newPresent stillEmpty
      newEmpty) nesting source registry ⟨trivial, (Equiv.swap_apply_left _ _).symm⟩
  · rintro ⟨zone, encloses⟩
    exact Pairing.sameRun (Pairing.exchanging_apart_begins stillPresent newPresent stillEmpty
      newEmpty encloses) nesting source registry ⟨.inr (by simp), (Equiv.swap_apply_left _ _).symm⟩

/-- A failed choice ends the call with its failure and leaves the memo empty. -/
theorem Provider.resolve_of_failed_choice {source : Source} {registry position : Nat}
    {start : Surroundings} (nesting : Nat) (unresolved : (memo position).held start = none)
    (failed : ∀ delegate, ((means source registry).choose start).1 ≠ .ok delegate) :
    Outcome.Alike (fun _ _ => False) ((means source registry).choose start).1
        (Provider.resolve (nesting + 1) (.single (.settings source registry position)) start).1 ∧
      (Provider.resolve (nesting + 1) (.single (.settings source registry position)) start).2 =
        ((means source registry).choose start).2 := by
  rw [Provider.resolve_settings]
  rcases chosen : (means source registry).choose start with ⟨delegate | error | text, after⟩
  · rw [chosen] at failed
    exact absurd rfl (failed delegate)
  · have unchosen : Numbered.choose (means source registry).choose start = (.error error, after) :=
      Action.bind_of_error chosen
    rw [Memo.resolve_of_failed unresolved unchosen]
    exact ⟨.error error, rfl⟩
  · have unchosen : Numbered.choose (means source registry).choose start = (.panic text, after) :=
      Action.bind_of_panic chosen
    rw [Memo.resolve_of_panicked unresolved unchosen]
    exact ⟨.panic text, rfl⟩

/-- A choice that fails at any point changes nothing but what its source and its constructor did to
themselves. The call ends with that failure and leaves the provider unresolved, closing or
discarding it then does nothing, and whenever it is resolved again, it resolves as a new one would.
-/
theorem Provider.retry_after_failed_choice (source : Source) (registry position nesting : Nat)
    (start : Surroundings) (unresolved : (memo position).held start = none)
    (failed : ∀ delegate, ((means source registry).choose start).1 ≠ .ok delegate) :
    let provider : Provider := .single (.settings source registry position)
    let ended := provider.resolve (nesting + 1) start
    Outcome.Alike (fun _ _ => False) ((means source registry).choose start).1 ended.1 ∧
      isResolved? provider ended.2 = some false ∧
      Attempted registry start ended.2 ∧
      provider.close ended.2 = (.ok (), ended.2) ∧
      provider.discard ended.2 = ended.2 ∧
      ∀ later nesting, (memo position).held later = none → position < later.memos.count →
        Provider.ResolvesAsNew nesting source registry position later := by
  intro provider ended
  obtain ⟨alike, after⟩ := Provider.resolve_of_failed_choice nesting unresolved failed
  have attempted : Attempted registry start ended.2 := by
    rw [after]
    exact attempted_choose rfl failed
  have empty : (memo position).held ended.2 = none := by
    obtain ⟨registries, -, quiet⟩ := attempted
    rw [quiet.rest]
    exact unresolved
  have closed := Provider.close_of_empty empty source registry
  refine ⟨alike, ?_, attempted, closed, ?_, ?_⟩
  · change some ((memo position).held ended.2).isSome = some false
    rw [empty]
    rfl
  · rw [Provider.discard_settings, closed]
  · intro later nesting laterEmpty present
    exact Provider.resolvesAsNew_of_empty nesting source registry laterEmpty present

/-- A constructor removes its registration and panics after the token has been read. Afterwards the
provider resolves as a new one does in the same world. -/
theorem Provider.retry_after_panicking_constructor :
    let source : Source := .fixedVariables (.ofList [("AWS_ACCESS_KEY_ID", "id"),
      ("AWS_SECRET_ACCESS_KEY", "secret"), ("AWS_ROLE_ARN", "role"),
      ("AWS_WEB_IDENTITY_TOKEN_FILE", "/token")])
    let files : FileTree := ⟨[([Bytes.ofText "token"], .file (Bytes.ofText "content"))]⟩
    let constructor : Constructor := .unregistering "label" (.panic "not constructed")
    let start := (addMemo ((Surroundings.initial (.ofUnix 0 0) files).register processWide
      webIdentity constructor)).2
    let provider : Provider := .single (.settings source processWide 0)
    let ended := provider.resolve 1 start
    let new : Provider := .single (.settings source processWide 1)
    let world := (addMemo ended.2).2
    ((memo 0).held start = none ∧
        (∀ delegate, ((means source processWide).choose start).1 ≠ .ok delegate)) ∧
      (ended.1 = .panic "not constructed" ∧ Attempted processWide start ended.2 ∧
        provider.close ended.2 = (.ok (), ended.2)) ∧
      world.Apart [0, 1] ∧ SameRun (provider.resolve 1 world) (new.resolve 1 world) := by
  intro source files constructor start provider ended new world
  have panics : ((means source processWide).choose start).1 = .panic "not constructed" := by rfl
  have failed : ∀ delegate, ((means source processWide).choose start).1 ≠ .ok delegate := by
    intro delegate chosen
    rw [panics] at chosen
    cases chosen
  obtain ⟨alike, -, attempted, closed, -, again⟩ :=
    Provider.retry_after_failed_choice source processWide 0 0 start rfl failed
  have outcome : ended.1 = .panic "not constructed" := by
    rw [panics] at alike
    cases alike with
    | panic text => rfl
  have memos : world.memos = ⟨#[none, none]⟩ := rfl
  have registries : world.registries = ⟨#[.empty]⟩ := rfl
  have apart : world.Apart [0, 1] := by
    apply apart_of_idle
    · rw [memos]
      decide
    · intro position
      change (world.memos.get? position).join = none
      rw [memos]
      match position with
      | 0 | 1 | _ + 2 => rfl
    · intro position capability constructor registered
      change ((world.registries.get? position).getD .empty).get? capability = _ at registered
      rw [registries] at registered
      cases position <;> cases registered
  exact ⟨⟨rfl, failed⟩, ⟨outcome, attempted, closed⟩, apart,
    (again ended.2 1 rfl (by decide) new world rfl).2 apart⟩

end CredentialResolution
