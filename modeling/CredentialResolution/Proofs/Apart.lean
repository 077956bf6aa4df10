/-
This file describes surroundings in which nothing leads back to a provider over settings. There,
what the provider calls neither sees nor changes its memo.
-/

import CredentialResolution.Proofs.PairedRuns

namespace CredentialResolution

namespace ChainTree

variable {Member Member' : Type} {members members' : Member → Member' → Prop}

mutual

/-- Members that are related in a closer way are related. -/
theorem Related.mono
    (wider : ∀ {member member'}, members member member' → members' member member') :
    ∀ {tree : ChainTree Member} {tree' : ChainTree Member'}, Related members tree tree' →
      Related members' tree tree'
  | _, _, .single same => .single (wider same)
  | _, _, .chain each => .chain (RelatedMembers.mono wider each)
  | _, _, .shared same => .shared (Related.mono wider same)

theorem RelatedMembers.mono
    (wider : ∀ {member member'}, members member member' → members' member member') :
    ∀ {trees : List (ChainTree Member)} {trees' : List (ChainTree Member')},
      RelatedMembers members trees trees' → RelatedMembers members' trees trees'
  | _, _, .nil => .nil
  | _, _, .cons first others => .cons (Related.mono wider first) (RelatedMembers.mono wider others)

end

variable {same : Member → Member → Prop}

mutual

/-- Trees with equal members are equal. -/
theorem Related.eq (equal : ∀ {member member'}, same member member' → member = member') :
    ∀ {tree tree' : ChainTree Member}, Related same tree tree' → tree = tree'
  | _, _, .single related => by rw [equal related]
  | _, _, .chain each => by rw [RelatedMembers.eq equal each]
  | _, _, .shared related => by rw [Related.eq equal related]

theorem RelatedMembers.eq (equal : ∀ {member member'}, same member member' → member = member') :
    ∀ {trees trees' : List (ChainTree Member)}, RelatedMembers same trees trees' → trees = trees'
  | _, _, .nil => rfl
  | _, _, .cons first others => by
    rw [Related.eq equal first, RelatedMembers.eq equal others]

end

end ChainTree

theorem SingleProvider.Paired.mono {pairs pairs' : Nat → Nat → Prop}
    (wider : ∀ {position position'}, pairs position position' → pairs' position position')
    {provider provider' : SingleProvider}
    (paired : SingleProvider.Paired pairs provider provider') :
    SingleProvider.Paired pairs' provider provider' := by
  cases paired with
  | fixed credentials => exact .fixed credentials
  | scripted position => exact .scripted position
  | settings source registry same => exact .settings source registry (wider same)

/-- Each position of a zone is paired with itself. -/
def inZone (zone : Nat → Prop) (position position' : Nat) : Prop :=
  position = position' ∧ zone position

/-- A provider lies within a zone if the positions of all its memos do. -/
def Provider.Within (zone : Nat → Prop) (provider : Provider) : Prop :=
  Provider.Paired (inZone zone) provider provider

theorem Provider.Paired.eq_of_inZone {zone : Nat → Prop} {provider provider' : Provider}
    (paired : Provider.Paired (inZone zone) provider provider') : provider = provider' := by
  refine ChainTree.Related.eq ?_ paired
  intro member member' same
  cases same with
  | fixed credentials => rfl
  | scripted position => rfl
  | settings source registry within => rw [within.1]

theorem Provider.Paired.within {zone : Nat → Prop} {provider provider' : Provider}
    (paired : Provider.Paired (inZone zone) provider provider') : provider.Within zone := by
  have same := paired.eq_of_inZone
  rw [← same] at paired
  exact paired

theorem Numbered.Paired.eq_of_inZone {zone : Nat → Prop} {numbered numbered' : Numbered Provider}
    (paired : Numbered.Paired (inZone zone) numbered numbered') : numbered = numbered' := by
  obtain ⟨serial, delegate⟩ := numbered
  obtain ⟨serial', delegate'⟩ := numbered'
  rw [Numbered.mk.injEq]
  exact ⟨paired.serial, paired.delegate.eq_of_inZone⟩

namespace Surroundings

/-- The own memos lie outside the zone, and all new ones inside. What the own memos and those of the
zone hold, and what registered constructors mention, stays within the zone. -/
structure Encloses (zone : Nat → Prop) (own : List Nat) (surroundings : Surroundings) : Prop where
  outside : ∀ position ∈ own, ¬ zone position
  later : ∀ position, surroundings.memos.count ≤ position → zone position
  held : ∀ position numbered, zone position ∨ position ∈ own →
    (memo position).held surroundings = some numbered → numbered.delegate.Within zone
  registers : surroundings.Registers fun name =>
    ∀ provider, surroundings.names.providers.get? name = some provider → provider.Within zone

/-- Neither what the own memos hold nor what a factory may create leads back to the own memos. -/
def Apart (own : List Nat) (surroundings : Surroundings) : Prop :=
  ∃ zone, surroundings.Encloses zone own

/-- Nothing leads back while no chosen delegate uses an own memo and no constructor mentions a
provider. -/
theorem apart_of_unused {own : List Nat} {surroundings : Surroundings}
    (present : ∀ position ∈ own, position < surroundings.memos.count)
    (unused : ∀ position numbered, (memo position).held surroundings = some numbered →
      numbered.delegate.Within (· ∉ own))
    (unmentioned : surroundings.Registers fun _ => False) : surroundings.Apart own := by
  refine ⟨(· ∉ own), fun _ listed notListed => notListed listed, ?_, ?_, ?_⟩
  · intro position large listed
    have small := present position listed
    omega
  · exact fun position numbered _ held => unused position numbered held
  · intro registry capability constructor registered name mentions
    exact (unmentioned registered name mentions).elim

theorem apart_of_idle {own : List Nat} {surroundings : Surroundings}
    (present : ∀ position ∈ own, position < surroundings.memos.count)
    (idle : ∀ position, (memo position).held surroundings = none)
    (unmentioned : surroundings.Registers fun _ => False) : surroundings.Apart own := by
  apply apart_of_unused present _ unmentioned
  intro position numbered held
  rw [idle position] at held
  cases held

/-- The own memo is empty, but what a provider holds in its place lies within the zone, and so does
everything that this can reach. -/
structure Beside (position : Nat) (delegate : Option (Numbered Provider)) (zone : Nat → Prop)
    (world : Surroundings) : Prop where
  empty : (memo position).held world = none
  present : position < world.memos.count
  encloses : ((memo position).keep delegate world).Encloses zone [position]

namespace Beside

variable {position : Nat} {delegate : Option (Numbered Provider)} {zone : Nat → Prop}
  {world : Surroundings}

theorem delegate_within (beside : Beside position delegate zone world)
    {numbered : Numbered Provider}
    (chosen : delegate = some numbered) : numbered.delegate.Within zone := by
  apply beside.encloses.held position numbered (.inr (List.mem_singleton_self position))
  rw [held_keep world beside.present, if_pos rfl, chosen]

/-- One run has the delegate in the own memo and the other one has not. -/
def pairing (beside : Beside position delegate zone world) : Pairing where
  first := (memo position).keep delegate world
  second := world
  pairs := inZone zone
  oneToOne := by
    rintro one _ other _ ⟨rfl, -⟩ ⟨rfl, -⟩
    exact Iff.rfl
  later added := by
    have sameCount : ((memo position).keep delegate world).memos.count = world.memos.count :=
      Cells.count_update _ _ _
    exact ⟨by rw [sameCount], beside.encloses.later _ (Nat.le_add_right _ _)⟩

theorem states (beside : Beside position delegate zone world) :
    beside.pairing.States ((memo position).keep delegate world) world := by
  have outside := beside.encloses.outside position (List.mem_singleton_self position)
  apply beside.pairing.begins rfl
  · rintro other _ ⟨rfl, inside⟩
    have different : other ≠ position := by
      rintro rfl
      exact outside inside
    have same := held_keep world beside.present delegate other
    rw [if_neg different] at same
    change Option.Rel _ ((memo other).held ((memo position).keep delegate world))
      ((memo other).held world)
    rw [same]
    cases held : (memo other).held world with
    | none => exact .none
    | some numbered =>
      rw [held] at same
      exact .some ⟨rfl, beside.encloses.held other numbered (.inl inside) same⟩
  · intro registry capability constructor registered name mentions
    have within := beside.encloses.registers registered name mentions
    change Option.Rel _ (world.names.providers.get? name) (world.names.providers.get? name)
    cases found : world.names.providers.get? name with
    | none => exact .none
    | some provider => exact .some (within provider found)

theorem count_of_states (beside : Beside position delegate zone world)
    {surroundings after : Surroundings} (related : beside.pairing.States surroundings after) :
    world.memos.count ≤ after.memos.count ∧ surroundings.memos.count = after.memos.count := by
  obtain ⟨added, grown, grown'⟩ := related.memos.grown
  have sameCount : ((memo position).keep delegate world).memos.count = world.memos.count :=
    Cells.count_update _ _ _
  change _ = ((memo position).keep delegate world).memos.count + added at grown
  change _ = world.memos.count + added at grown'
  omega

/-- During both runs all memos but the own one hold the same. -/
theorem memos_of_states (beside : Beside position delegate zone world)
    {surroundings after : Surroundings} (related : beside.pairing.States surroundings after) :
    surroundings.memos = ((memo position).keep delegate after).memos := by
  have outside := beside.encloses.outside position (List.mem_singleton_self position)
  have count := (beside.count_of_states related).2
  apply Cells.ext_get?
  intro other
  by_cases inside : zone other
  · have different : other ≠ position := by
      rintro rfl
      exact outside inside
    have joined := related.memos.held ⟨rfl, inside⟩
    simp only [memo, Cells.get?_update, if_neg different]
    rcases Nat.lt_or_ge other after.memos.count with present | absent
    · obtain ⟨value, found⟩ := Cells.exists_of_lt_count (count ▸ present)
      obtain ⟨value', found'⟩ := Cells.exists_of_lt_count present
      rw [found, found'] at joined ⊢
      cases joined with
      | none => rfl
      | some same => rw [same.eq_of_inZone]
    · rw [Cells.get?_eq_none absent, Cells.get?_eq_none (count ▸ absent)]
  · have kept := related.memos.kept fun _ paired => inside paired.2
    have kept' : after.memos.get? other = world.memos.get? other := by
      apply related.memos.kept'
      rintro _ ⟨rfl, inside'⟩
      exact inside inside'
    rw [kept]
    change (world.memos.update position fun _ => delegate).get? other =
      (after.memos.update position fun _ => delegate).get? other
    rw [Cells.get?_update, Cells.get?_update, kept']

/-- During both runs nothing but the own memo differs. -/
theorem eq_keep_of_states (beside : Beside position delegate zone world)
    {surroundings after : Surroundings} (related : beside.pairing.States surroundings after) :
    surroundings = (memo position).keep delegate after := by
  have furnished := eq_furnished_of_bare related.bare.symm
  have providers : surroundings.names.providers = after.names.providers :=
    related.providers.trans related.providers'.symm
  rw [furnished, beside.memos_of_states related, providers]
  rfl

theorem of_states (beside : Beside position delegate zone world)
    {surroundings after : Surroundings} (related : beside.pairing.States surroundings after) :
    Beside position delegate zone after := by
  have outside := beside.encloses.outside position (List.mem_singleton_self position)
  obtain ⟨grown, count⟩ := beside.count_of_states related
  have present := Nat.lt_of_lt_of_le beside.present grown
  have same := beside.eq_keep_of_states related
  have empty : (memo position).held after = none := by
    have kept' : after.memos.get? position = world.memos.get? position := by
      apply related.memos.kept'
      rintro _ ⟨rfl, inside⟩
      exact outside inside
    change (after.memos.get? position).join = none
    rw [kept']
    exact beside.empty
  refine ⟨empty, present, beside.encloses.outside, ?_, ?_, ?_⟩
  · intro other large
    apply beside.encloses.later
    change ((world.memos.update position fun _ => delegate).count) ≤ other
    change ((after.memos.update position fun _ => delegate).count) ≤ other at large
    rw [Cells.count_update] at large ⊢
    omega
  · rintro other numbered (inside | own) held
    · have joined := related.memos.held ⟨rfl, inside⟩
      rw [← same] at held
      change (surroundings.memos.get? other).join = some numbered at held
      rw [held] at joined
      generalize (after.memos.get? other).join = held' at joined
      cases joined with
      | some paired => exact paired.delegate.within
    · rw [List.mem_singleton] at own
      rw [own, held_keep after present, if_pos rfl] at held
      exact beside.delegate_within held
  · rw [← same]
    intro registry capability constructor registered name mentions provider found
    have known := related.registers registered name mentions
    rw [related.providers] at found
    rw [Pairing.Known, found] at known
    generalize beside.pairing.second.names.providers.get? name = found' at known
    cases known with
    | some paired => exact Provider.Paired.within paired

/-- What stays within the zone runs alike, whether the delegate is in the own memo or not. -/
theorem run_keep {Failure Value : Type} {action : Action Surroundings Failure Value}
    (beside : Beside position delegate zone world)
    (agrees : Action.Agrees beside.pairing.States (· = ·) action action) :
    action ((memo position).keep delegate world) =
        ((action world).1, (memo position).keep delegate (action world).2) ∧
      Beside position delegate zone (action world).2 := by
  obtain ⟨alike, left⟩ := agrees beside.states
  exact ⟨Prod.ext alike.eq (beside.eq_keep_of_states left), beside.of_states left⟩

end Beside

end Surroundings

end CredentialResolution
