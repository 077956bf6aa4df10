/-
This file says what trimming leaves of a value: nothing, or a text without white space at its ends.
Loaded settings are such texts, and loading them again changes nothing.
-/

import CredentialResolution.Proofs.OrderedChoice
import Mathlib.Data.List.Basic
import Mathlib.Data.List.TakeWhile

namespace CredentialResolution

namespace Text

/-- Unicode gives the property White_Space to these characters. -/
def whiteSpace : List Char :=
  ['\t', '\n', '\x0B', '\x0C', '\r', ' ', '\x85', '\xA0', '\u1680', '\u2000', '\u2001', '\u2002',
    '\u2003', '\u2004', '\u2005', '\u2006', '\u2007', '\u2008', '\u2009', '\u200A', '\u2028',
    '\u2029', '\u202F', '\u205F', '\u3000']

theorem isBlank_iff {character : Char} : isBlank character = true ↔ character ∈ whiteSpace := by
  have same (other : Char) : character = other ↔ character.toNat = other.toNat :=
    Char.toNat_inj.symm
  simp only [isBlank, whiteSpace, List.mem_cons, List.not_mem_nil, or_false, same,
    Bool.or_eq_true, Bool.and_eq_true, decide_eq_true_eq, beq_iff_eq, Char.reduceToNat]
  omega

/-- This text is made of white space alone. -/
def IsWhite (text : String) : Prop :=
  ∀ character ∈ text.toList, character ∈ whiteSpace

/-- Something is left of this text, and neither its first nor its last character is white space. -/
structure Trimmed (text : String) : Prop where
  nonempty : text ≠ ""
  first : ∀ character, text.toList.head? = some character → character ∉ whiteSpace
  last : ∀ character, text.toList.getLast? = some character → character ∉ whiteSpace

/-- A value is trimmed to nothing or to a text with white space around it. -/
inductive Trims : Option String → Option String → Prop
  | unset : Trims none none
  | blank {raw : String} (white : IsWhite raw) : Trims (some raw) none
  | text {front text back : String} (frontWhite : IsWhite front) (trimmed : Trimmed text)
      (backWhite : IsWhite back) : Trims (some (front ++ text ++ back)) (some text)

section Lists

variable {front core back : List Char}

theorem dropBlank_append (blank : ∀ character ∈ front, isBlank character = true)
    (rest : List Char) : dropBlank (front ++ rest) = dropBlank rest :=
  List.dropWhile_append_of_pos blank

/-- Nothing is dropped from characters that do not start with a blank one. -/
theorem dropBlank_of_head (head : ∀ character, core.head? = some character →
    isBlank character = false) : dropBlank core = core := by
  cases core with
  | nil => rfl
  | cons character rest => exact List.dropWhile_cons_of_neg (by simp [head character rfl])

/-- What is left does not start with a blank character. -/
theorem isBlank_head_dropBlank {characters : List Char} {character : Char}
    (head : (dropBlank characters).head? = some character) : isBlank character = false := by
  have failed := List.head?_dropWhile_not isBlank characters
  rw [← dropBlank, head] at failed
  simpa using failed

/-- Blank characters around others are removed. -/
theorem trimList_append (frontBlank : ∀ character ∈ front, isBlank character = true)
    (backBlank : ∀ character ∈ back, isBlank character = true) (nonempty : core ≠ [])
    (first : ∀ character, core.head? = some character → isBlank character = false)
    (last : ∀ character, core.getLast? = some character → isBlank character = false) :
    trimList (front ++ core ++ back) = core := by
  have kept : dropBlank (front ++ core ++ back) = core ++ back := by
    rw [List.append_assoc, dropBlank_append frontBlank]
    apply dropBlank_of_head
    rwa [List.head?_append_of_ne_nil core nonempty]
  have turned : dropBlank (core ++ back).reverse = core.reverse := by
    rw [List.reverse_append, dropBlank_append (by simpa using backBlank)]
    apply dropBlank_of_head
    rwa [List.head?_reverse]
  rw [trimList, kept, turned, List.reverse_reverse]

theorem trimList_of_blank {characters : List Char}
    (blank : ∀ character ∈ characters, isBlank character = true) : trimList characters = [] := by
  have dropped : dropBlank characters = [] := List.dropWhile_eq_nil_iff.mpr blank
  rw [trimList, dropped]
  rfl

/-- Only blank characters are removed. -/
theorem exists_around_trimList (characters : List Char) :
    ∃ front back, characters = front ++ trimList characters ++ back ∧
      (∀ character ∈ front, isBlank character = true) ∧
      ∀ character ∈ back, isBlank character = true := by
  let kept := dropBlank characters
  refine ⟨characters.takeWhile isBlank, (kept.reverse.takeWhile isBlank).reverse, ?_, ?_, ?_⟩
  · have turned : trimList characters ++ (kept.reverse.takeWhile isBlank).reverse = kept := by
      rw [trimList, ← List.reverse_append, dropBlank, List.takeWhile_append_dropWhile,
        List.reverse_reverse]
    rw [List.append_assoc, turned]
    exact List.takeWhile_append_dropWhile.symm
  · exact fun character among => List.mem_takeWhile_imp among
  · exact fun character among => List.mem_takeWhile_imp (List.mem_reverse.mp among)

/-- No blank character is left at either end. -/
theorem ends_trimList (characters : List Char) :
    (∀ character, (trimList characters).head? = some character → isBlank character = false) ∧
      ∀ character, (trimList characters).getLast? = some character → isBlank character = false := by
  constructor
  · intro character head
    obtain ⟨rest, split⟩ : trimList characters <+: dropBlank characters := by
      rw [trimList, ← List.reverse_suffix, List.reverse_reverse]
      exact List.dropWhile_suffix isBlank
    apply isBlank_head_dropBlank
    rw [← split, List.head?_append, head, Option.some_or]
  · intro character last
    rw [trimList, List.getLast?_reverse] at last
    exact isBlank_head_dropBlank last

end Lists

section Values

variable {raw : Option String} {front text back : String}

theorem IsWhite.blank (white : IsWhite text) :
    ∀ character ∈ text.toList, isBlank character = true :=
  fun character among => isBlank_iff.mpr (white character among)

theorem isWhite_ofList {characters : List Char}
    (blank : ∀ character ∈ characters, isBlank character = true) :
    IsWhite (String.ofList characters) := by
  intro character among
  rw [String.toList_ofList] at among
  exact isBlank_iff.mp (blank character among)

theorem not_mem_whiteSpace {character : Char} :
    character ∉ whiteSpace ↔ isBlank character = false := by
  rw [← isBlank_iff, Bool.not_eq_true]

theorem trim_of_isWhite (white : IsWhite text) : trim text = "" := by
  rw [trim, trimList_of_blank white.blank]

/-- White space around a text is removed and nothing else. -/
theorem trim_append (frontWhite : IsWhite front) (trimmed : Trimmed text)
    (backWhite : IsWhite back) : trim (front ++ text ++ back) = text := by
  have nonempty : text.toList ≠ [] :=
    fun empty => trimmed.nonempty (String.toList_eq_nil_iff.mp empty)
  rw [trim, String.toList_append, String.toList_append,
    trimList_append frontWhite.blank backWhite.blank nonempty
      (fun character head => not_mem_whiteSpace.mp (trimmed.first character head))
      (fun character last => not_mem_whiteSpace.mp (trimmed.last character last)),
    String.ofList_toList]

/-- A text whose trimmed form is not empty is its trimmed form with white space around it. -/
theorem exists_around_trim (text : String) :
    ∃ front back, text = front ++ trim text ++ back ∧ IsWhite front ∧ IsWhite back := by
  obtain ⟨front, back, split, frontBlank, backBlank⟩ := exists_around_trimList text.toList
  refine ⟨String.ofList front, String.ofList back, ?_, isWhite_ofList frontBlank,
    isWhite_ofList backBlank⟩
  rw [trim, ← String.ofList_append, ← String.ofList_append, ← split, String.ofList_toList]

theorem trimmed_trim (nonempty : trim text ≠ "") : Trimmed (trim text) := by
  obtain ⟨first, last⟩ := ends_trimList text.toList
  refine ⟨nonempty, ?_, ?_⟩
  · intro character head
    rw [trim, String.toList_ofList] at head
    exact not_mem_whiteSpace.mpr (first character head)
  · intro character ending
    rw [trim, String.toList_ofList] at ending
    exact not_mem_whiteSpace.mpr (last character ending)

end Values

end Text

namespace LoadedSettings

open Text

/-- Values are normalized by trimming them. -/
theorem trims_normalize (raw : Option String) : Trims raw (normalize raw) := by
  cases raw with
  | none => exact .unset
  | some raw =>
    obtain ⟨front, back, split, frontWhite, backWhite⟩ := exists_around_trim raw
    by_cases empty : trim raw = ""
    · have blank : IsWhite raw := by
        rw [split, empty]
        simp only [IsWhite, String.toList_append, List.mem_append]
        rintro character ((among | among) | among)
        · exact frontWhite character among
        · cases among
        · exact backWhite character among
      have nothing : normalize (some raw) = none := by simp [normalize, empty]
      rw [nothing]
      exact .blank blank
    · have something : normalize (some raw) = some (trim raw) := by simp [normalize, empty]
      rw [something]
      have trims := Trims.text frontWhite (trimmed_trim empty) backWhite
      rwa [← split] at trims

/-- There is one way to trim a value. -/
theorem normalize_of_trims {raw loaded : Option String} (trims : Trims raw loaded) :
    normalize raw = loaded := by
  cases trims with
  | unset => rfl
  | blank white => simp [normalize, trim_of_isWhite white]
  | text frontWhite trimmed backWhite =>
    simp [normalize, trim_append frontWhite trimmed backWhite, trimmed.nonempty]

theorem trims_iff {raw loaded : Option String} : Trims raw loaded ↔ normalize raw = loaded := by
  constructor
  · exact normalize_of_trims
  · rintro rfl
    exact trims_normalize raw

/-- White space stands around a value, or alone where there is none. -/
inductive Pads : Option String → Option String → Prop
  | unset : Pads none none
  | blank {padded : String} (white : IsWhite padded) : Pads none (some padded)
  | text {front text back : String} (frontWhite : IsWhite front) (backWhite : IsWhite back) :
      Pads (some text) (some (front ++ text ++ back))

/-- Trimming takes the padding off what was trimmed before. -/
theorem Pads.trims {raw loaded padded : Option String} (pads : Pads loaded padded)
    (before : Trims raw loaded) : Trims padded loaded := by
  cases pads with
  | unset => exact .unset
  | blank white => exact .blank white
  | text frontWhite backWhite =>
    cases before with
    | text _ trimmed _ => exact .text frontWhite trimmed backWhite

section Loading

variable {State State' Failure Failure' : Type}
  {load : Setting → Action State Failure (Option String)} {state after : State}
  {settings : LoadedSettings}

theorem ext_value {settings settings' : LoadedSettings}
    (same : ∀ setting, settings.value setting = settings'.value setting) :
    settings = settings' := by
  rw [mk.injEq]
  exact ⟨same .accessKeyId, same .secretAccessKey, same .sessionToken, same .roleArn,
    same .roleSessionName, same .webIdentityTokenFile⟩

theorem value_settings (answers : Answers) (setting : Setting) :
    answers.settings.value setting = answers.present setting := by
  cases setting <;> rfl

/-- Every setting of the list has an answer. -/
theorem answered_of_askEach {settings : List Setting} {entries : List (Setting × Option String)}
    (asked : askEach load settings state = (.ok entries, after)) {setting : Setting}
    (among : setting ∈ settings) : ∃ answer, entries.lookup setting = some answer := by
  induction settings generalizing state entries with
  | nil => cases among
  | cons first rest inductionHypothesis =>
    obtain ⟨answer, next, answers, -, rested, rfl⟩ := askEach_cons_eq_ok.mp asked
    by_cases same : setting = first
    · exact ⟨answer, by rw [List.lookup_cons, same, BEq.rfl]⟩
    · obtain ⟨later, found⟩ :=
        inductionHypothesis rested ((List.mem_cons.mp among).resolve_left same)
      exact ⟨later, by rw [List.lookup_cons, beq_false_of_ne same, found]⟩

/-- A source loads exactly the settings that its answers are trimmed to. -/
theorem load_iff_trims :
    LoadedSettings.load load state = (.ok settings, after) ↔
      ∃ entries, askEach load Setting.all state = (.ok entries, after) ∧
        ∀ setting, ∃ raw, entries.lookup setting = some raw ∧
          Trims raw (settings.value setting) := by
  rw [load_eq_askEach, Action.bind_eq_ok]
  constructor
  · rintro ⟨entries, middle, asked, ended⟩
    cases ended
    refine ⟨entries, asked, fun setting => ?_⟩
    have among : setting ∈ Setting.all := by cases setting <;> decide
    obtain ⟨raw, found⟩ := answered_of_askEach asked among
    refine ⟨raw, found, ?_⟩
    rw [value_settings, Answers.present, found, Option.join_some]
    exact trims_normalize raw
  · rintro ⟨entries, asked, trims⟩
    have same : Answers.settings ⟨entries⟩ = settings := by
      apply ext_value
      intro setting
      obtain ⟨raw, found, trimsRaw⟩ := trims setting
      rw [value_settings, Answers.present, found, Option.join_some]
      exact normalize_of_trims trimsRaw
    exact ⟨entries, after, asked, by rw [same]; rfl⟩

/-- A source that answers every question loads some settings. -/
theorem exists_load {entries : List (Setting × Option String)}
    (asked : askEach load Setting.all state = (.ok entries, after)) :
    ∃ settings, LoadedSettings.load load state = (.ok settings, after) := by
  refine ⟨Answers.settings ⟨entries⟩, ?_⟩
  rw [load_eq_askEach, Action.bind_of_ok asked]
  rfl

/-- Padded settings are loaded as they were loaded before, by any source. -/
theorem load_padded (loaded : LoadedSettings.load load state = (.ok settings, after))
    {load' : Setting → Action State' Failure' (Option String)} {state' after' : State'}
    {entries : List (Setting × Option String)}
    (asked : askEach load' Setting.all state' = (.ok entries, after'))
    (padded : ∀ setting, ∃ raw, entries.lookup setting = some raw ∧
      Pads (settings.value setting) raw) :
    LoadedSettings.load load' state' = (.ok settings, after') := by
  obtain ⟨first, -, trims⟩ := load_iff_trims.mp loaded
  refine load_iff_trims.mpr ⟨entries, asked, fun setting => ?_⟩
  obtain ⟨raw, found, pads⟩ := padded setting
  obtain ⟨before, -, trimmed⟩ := trims setting
  exact ⟨raw, found, pads.trims trimmed⟩

end Loading

end LoadedSettings

end CredentialResolution
