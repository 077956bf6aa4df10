/-
This file compares the kinds of sources. Fixed variables, properties and a script that carry the
same values can stand for one another: no run tells them apart.
-/

import CredentialResolution.Proofs.Precedence
import CredentialResolution.Proofs.Unrecorded

namespace CredentialResolution

open CredentialResolution.Action Surroundings

/-- The last entry under the name of a setting carries the value of the setting, and there is no
entry under the name of a setting without a value. Entries under other names may stand anywhere. -/
structure Assigns (names : Setting → String) (assignment : Setting → Option String)
    (entries : List (String × String)) : Prop where
  assigned : ∀ {setting : Setting} {value : String}, assignment setting = some value →
    ∃ earlier later, entries = earlier ++ (names setting, value) :: later ∧
      ∀ entry ∈ later, entry.1 ≠ names setting
  unassigned : ∀ {setting : Setting}, assignment setting = none →
    ∀ entry ∈ entries, entry.1 ≠ names setting

/-- This function drops all entries under the names of settings. -/
def withoutNames (names : Setting → String) (entries : List (String × String)) :
    List (String × String) :=
  entries.filter fun entry => Setting.all.all fun setting => entry.1 != names setting

/-- Every call of this script gives the assigned value. -/
def ScriptedSource.returning (assignment : Setting → Option String) : ScriptedSource :=
  ⟨fun setting => .always (.ok (assignment setting))⟩

theorem Setting.environmentVariable_ne_property (setting other : Setting) :
    setting.environmentVariable ≠ other.property := by
  cases setting <;> cases other <;> decide

section Entries

variable {names : Setting → String} {assignment : Setting → Option String}
  {entries : List (String × String)}

/-- Entries under other names leave a binding alone. -/
theorem Bindings.get?_foldl_insert_of_ne (entries : List (String × String)) {key : String}
    (others : ∀ entry ∈ entries, entry.1 ≠ key) (bindings : Bindings String) :
    (entries.foldl (fun bindings entry => bindings.insert entry.1 entry.2) bindings).get? key =
      bindings.get? key := by
  induction entries generalizing bindings with
  | nil => rfl
  | cons entry rest inductionHypothesis =>
    obtain ⟨different, rest⟩ := List.forall_mem_cons.mp others
    rw [List.foldl_cons, inductionHypothesis rest, get?_insert, if_neg different.symm]

/-- A list of entries binds the names of the settings to the assigned values. -/
theorem Assigns.get? (assigns : Assigns names assignment entries) (setting : Setting) :
    (Bindings.ofList entries).get? (names setting) = assignment setting := by
  cases value : assignment setting with
  | none => exact Bindings.get?_foldl_insert_of_ne entries (assigns.unassigned value) .empty
  | some text =>
    obtain ⟨earlier, later, split, others⟩ := assigns.assigned value
    rw [Bindings.ofList, split, List.foldl_append, List.foldl_cons,
      Bindings.get?_foldl_insert_of_ne later others, Bindings.get?_insert, if_pos rfl]

/-- Other names do not matter. -/
theorem Assigns.withoutNames (assigns : Assigns names assignment entries) {others : Setting → String}
    (apart : ∀ setting other, names setting ≠ others other) :
    Assigns names assignment (withoutNames others entries) := by
  constructor
  · intro setting value assigned
    obtain ⟨earlier, later, split, last⟩ := assigns.assigned assigned
    refine ⟨CredentialResolution.withoutNames others earlier,
      CredentialResolution.withoutNames others later, ?_, ?_⟩
    · have kept : (Setting.all.all fun other => names setting != others other) = true := by
        simp only [List.all_eq_true, bne_iff_ne, ne_eq]
        exact fun other _ => apart setting other
      simp only [split, CredentialResolution.withoutNames, List.filter_append, List.filter_cons,
        kept, if_true]
    · exact fun entry among => last entry (List.mem_filter.mp among).1
  · intro setting unassigned entry among
    exact assigns.unassigned unassigned entry (List.mem_filter.mp among).1

/-- Nothing of a script that always gives the same values is used up. -/
theorem ScriptedSource.take_returning (assignment : Setting → Option String) (setting : Setting) :
    (returning assignment).take setting = (.ok (assignment setting), returning assignment) := by
  refine Prod.ext rfl ?_
  simp only [take, returning, Script.take, mk.injEq]
  funext other
  split
  · rename_i same
    rw [same]
  · rfl

end Entries

/-- The source carries the assigned values, in the surroundings in which it is used. -/
inductive Carries (assignment : Setting → Option String) (stores : Cells (Bindings String))
    (scripts : Cells ScriptedSource) : Source → Prop
  | fixedVariables {entries : List (String × String)}
      (assigns : Assigns Setting.environmentVariable assignment entries) :
      Carries assignment stores scripts (.fixedVariables (.ofList entries))
  | properties {entries : List (String × String)} {store : Nat}
      (assigns : Assigns Setting.property assignment entries)
      (stored : stores.get? store = some (.ofList entries)) :
      Carries assignment stores scripts (.properties store)
  | scripted {position : Nat} (found : scripts.get? position = some (.returning assignment)) :
      Carries assignment stores scripts (.scripted position)

namespace Carries

variable {assignment : Setting → Option String} {source source' : Source}

/-- A load gives the assigned value and changes nothing but the journal. -/
theorem load {surroundings : Surroundings}
    (carries : Carries assignment surroundings.stores surroundings.scriptedSources source)
    (setting : Setting) :
    (source.load setting surroundings).1 = .ok (assignment setting) ∧
      (source.load setting surroundings).2.unrecorded = surroundings.unrecorded := by
  cases carries with
  | fixedVariables assigns =>
    rw [← assigns.get? setting]
    exact ⟨rfl, rfl⟩
  | @properties entries store assigns stored =>
    refine ⟨?_, rfl⟩
    rw [← assigns.get? setting]
    have found : surroundings.store store = .ofList entries := by
      rw [Surroundings.store, stored, Option.getD_some]
    exact congrArg (fun entries => Outcome.ok (entries.get? setting.property)) found
  | @scripted position found =>
    have ran : (Source.scripted position).load setting surroundings =
        takeScripted position setting (surroundings.record (.loaded setting)) := rfl
    rw [ran]
    simp only [takeScripted, record, found, ScriptedSource.take_returning,
      Cells.update_of_some found, true_and]
    rfl

/-- What is done during a run leaves the source as it is. -/
theorem lasts (assignment : Setting → Option String) (source : Source) :
    Promise.Lasts fun stores scripts => Carries assignment stores scripts source where
  addStore := by
    intro stores scripts added carries
    cases carries with
    | fixedVariables assigns => exact .fixedVariables assigns
    | properties assigns stored =>
      exact .properties assigns (Cells.get?_add_of_some stored added)
    | scripted found => exact .scripted found
  addSource := by
    intro stores scripts added carries
    cases carries with
    | fixedVariables assigns => exact .fixedVariables assigns
    | properties assigns stored => exact .properties assigns stored
    | scripted found => exact .scripted (Cells.get?_add_of_some found added)
  take := by
    intro stores scripts position taken setting there carries
    cases carries with
    | fixedVariables assigns => exact .fixedVariables assigns
    | properties assigns stored => exact .properties assigns stored
    | @scripted own found =>
      refine .scripted ?_
      rw [Cells.get?_update]
      split
      · rename_i same
        rw [← same, found] at there
        cases there
        rw [found, Option.map_some, ScriptedSource.take_returning]
      · exact found

/-- Two sources carry the values. -/
abbrev both (assignment : Setting → Option String) (source source' : Source) : Promise :=
  fun stores scripts =>
    Carries assignment stores scripts source ∧ Carries assignment stores scripts source'

theorem both_last (assignment : Setting → Option String) (source source' : Source) :
    (both assignment source source').Lasts where
  addStore added := And.imp ((lasts assignment source).addStore added)
    ((lasts assignment source').addStore added)
  addSource added := And.imp ((lasts assignment source).addSource added)
    ((lasts assignment source').addSource added)
  take setting there := And.imp ((lasts assignment source).take setting there)
    ((lasts assignment source').take setting there)

/-- The journal has nothing to do with what sources carry. -/
theorem of_unrecorded {surroundings surroundings' : Surroundings}
    (carries : Carries assignment surroundings.stores surroundings.scriptedSources source)
    (same : surroundings.unrecorded = surroundings'.unrecorded) :
    Carries assignment surroundings'.stores surroundings'.scriptedSources source := by
  rw [eq_of_unrecorded same]
  exact carries

/-- Sources that carry the same values load alike. -/
theorem loads_agree (setting : Setting) :
    Agrees (Kept (both assignment source source')) (· = ·) (source.load setting)
      (source'.load setting) := by
  intro surroundings surroundings' kept
  obtain ⟨carries, carries'⟩ := kept.promised
  obtain ⟨loaded, same⟩ := carries.load setting
  obtain ⟨loaded', same'⟩ := (carries'.of_unrecorded kept.unrecorded).load setting
  refine ⟨?_, same.trans (kept.unrecorded.trans same'.symm), ?_⟩
  · rw [loaded, loaded']
    exact .refl _
  · exact ⟨carries.of_unrecorded same.symm, carries'.of_unrecorded same.symm⟩

/-- Settings are loaded from the assigned values, and nothing but the journal changes. -/
theorem loadSettings {surroundings : Surroundings}
    (carries : Carries assignment surroundings.stores surroundings.scriptedSources source) :
    (LoadedSettings.load source.load surroundings).1 = .ok (.present assignment) := by
  let Same (later : Surroundings) : Prop := later.unrecorded = surroundings.unrecorded
  have each (setting : Setting) (later : Surroundings) (same : Same later) :
      ∃ after, Same after ∧ source.load setting later = (.ok (assignment setting), after) := by
    obtain ⟨loaded, unchanged⟩ := (carries.of_unrecorded same.symm).load setting
    exact ⟨_, unchanged.trans same, Prod.ext loaded rfl⟩
  obtain ⟨after, -, loaded⟩ := LoadedSettings.load_of_answers each (rfl : Same surroundings)
  rw [loaded]

end Carries

/-- Fixed variables, properties and a script with the same values load the same and, over all calls,
give the same answers and change nothing differently but the journal. Nothing changes if entries
under the names that the other kind reads are left out. -/
theorem source_kinds_agree (assignment : Setting → Option String)
    {environmentEntries propertyEntries : List (String × String)}
    (assignsVariables : Assigns Setting.environmentVariable assignment environmentEntries)
    (assignsProperties : Assigns Setting.property assignment propertyEntries)
    {start : Surroundings} {store bareStore script : Nat}
    (stored : start.stores.get? store = some (.ofList propertyEntries))
    (storedBare : start.stores.get? bareStore =
      some (.ofList (withoutNames Setting.environmentVariable propertyEntries)))
    (scripted : start.scriptedSources.get? script = some (.returning assignment)) :
    let kinds : List Source := [.fixedVariables (.ofList environmentEntries),
      .fixedVariables (.ofList (withoutNames Setting.property environmentEntries)), .properties store,
      .properties bareStore, .scripted script]
    ∀ source ∈ kinds,
      (∀ setting, (source.load setting start).1 = .ok (assignment setting) ∧
        (source.load setting start).2.unrecorded = start.unrecorded) ∧
      (LoadedSettings.load source.load start).1 = .ok (.present assignment) ∧
      ∀ source' ∈ kinds, ∀ registry memo nesting calls, (∀ call ∈ calls, Turn.IsCall call) →
        let provider : Provider := .single (.settings source registry memo)
        let provider' : Provider := .single (.settings source' registry memo)
        let run := Turn.run (provider.answer nesting) calls start
        let run' := Turn.run (provider'.answer nesting) calls start
        run.1 = run'.1 ∧ run.2.unrecorded = run'.2.unrecorded := by
  intro kinds
  have bareVariables := assignsVariables.withoutNames Setting.environmentVariable_ne_property
  have bareProperties := assignsProperties.withoutNames fun setting other =>
    (Setting.environmentVariable_ne_property other setting).symm
  have carries (source : Source) (among : source ∈ kinds) :
      Carries assignment start.stores start.scriptedSources source := by
    simp only [kinds, List.mem_cons, List.not_mem_nil, or_false] at among
    rcases among with rfl | rfl | rfl | rfl | rfl
    · exact .fixedVariables assignsVariables
    · exact .fixedVariables bareVariables
    · exact .properties assignsProperties stored
    · exact .properties bareProperties storedBare
    · exact .scripted scripted
  intro source among
  refine ⟨(carries source among).load, (carries source among).loadSettings, ?_⟩
  intro source' among' registry memo nesting calls areCalls
  have unread := unread_kept (Carries.both_last assignment source source')
  obtain ⟨answers, ended⟩ := Provider.run_agrees unread Carries.loads_agree registry memo nesting
    calls areCalls ⟨rfl, carries source among, carries source' among'⟩
  exact ⟨answers, ended.unrecorded⟩

/-- A padded key is entered twice, and each list has an entry that only the other kind would read.
-/
theorem source_kinds_agree_on_padded_key :
    let assignment : Setting → Option String
      | .accessKeyId => some " key "
      | .secretAccessKey => some "secret"
      | _ => none
    let environmentEntries := [("AWS_ACCESS_KEY_ID", "old"), ("aws.sessionToken", "other"),
      ("AWS_SECRET_ACCESS_KEY", "secret"), ("AWS_ACCESS_KEY_ID", " key ")]
    let propertyEntries := [("aws.accessKeyId", " key "), ("AWS_SESSION_TOKEN", "other"),
      ("aws.secretAccessKey", "secret")]
    let start := (addMemo (addScriptedSource (.returning assignment)
      (addStore (.ofList (withoutNames Setting.environmentVariable propertyEntries))
        (addStore (.ofList propertyEntries) (.initial (.ofUnix 0 0) ⟨[]⟩)).2).2).2).2
    let answers (source : Source) : List Turn.Answer :=
      (Turn.run (Provider.answer (.single (.settings source processWide 0)) 1)
        [.resolve, .close, .resolve] start).1
    (Assigns Setting.environmentVariable assignment environmentEntries ∧
        Assigns Setting.property assignment propertyEntries) ∧
      ((Source.properties 1).load .accessKeyId start).1 = .ok (some " key ") ∧
      answers (.fixedVariables (.ofList environmentEntries)) = answers (.properties 1) ∧
      answers (.properties 1) = answers (.scripted 0) := by
  intro assignment environmentEntries propertyEntries start answers
  have assignsVariables : Assigns Setting.environmentVariable assignment environmentEntries := by
    constructor
    · intro setting value assigned
      cases setting <;> cases assigned
      · exact ⟨environmentEntries.take 3, [], rfl, List.forall_mem_nil _⟩
      · exact ⟨environmentEntries.take 2, environmentEntries.drop 3, rfl, by decide +zetaReduce⟩
    · intro setting unassigned
      cases setting with
      | accessKeyId | secretAccessKey => cases unassigned
      | sessionToken | roleArn | roleSessionName | webIdentityTokenFile => decide +zetaReduce
  have assignsProperties : Assigns Setting.property assignment propertyEntries := by
    constructor
    · intro setting value assigned
      cases setting <;> cases assigned
      · exact ⟨[], propertyEntries.drop 1, rfl, by decide +zetaReduce⟩
      · exact ⟨propertyEntries.take 2, [], rfl, List.forall_mem_nil _⟩
    · intro setting unassigned
      cases setting with
      | accessKeyId | secretAccessKey => cases unassigned
      | sessionToken | roleArn | roleSessionName | webIdentityTokenFile => decide +zetaReduce
  have agree := source_kinds_agree assignment assignsVariables assignsProperties
    (rfl : start.stores.get? 1 = _) (rfl : start.stores.get? 2 = _)
    (rfl : start.scriptedSources.get? 0 = _)
  have areCalls : ∀ call ∈ [Turn.resolve, .close, .resolve], call.IsCall := by
    simp only [List.mem_cons, List.not_mem_nil, or_false]
    rintro call (rfl | rfl | rfl) <;> trivial
  obtain ⟨loads, -, fromProperties⟩ := agree (.properties 1) (by simp)
  have sameVariables := fromProperties (.fixedVariables (.ofList environmentEntries))
    List.mem_cons_self processWide 0 1 _ areCalls
  have sameScript := fromProperties (.scripted 0) (by simp) processWide 0 1 _ areCalls
  exact ⟨⟨assignsVariables, assignsProperties⟩, (loads .accessKeyId).1, sameVariables.1.symm,
    sameScript.1⟩

end CredentialResolution
