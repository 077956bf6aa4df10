/-
This file states the rules of reading a token: which paths and which contents are accepted, and what
is reported otherwise. An accepted content is the token byte for byte, and it goes to the factory so.
-/

import CredentialResolution.Proofs.Attempt
import CredentialResolution.Proofs.Trimming
import CredentialResolution.Proofs.WellFormed

namespace CredentialResolution

open Surroundings

theorem Path.isAbsolute_iff {path : Path} :
    path.isAbsolute = true ↔ [Path.separator] <+: path.bytes := by
  obtain ⟨bytes⟩ := path
  rw [isAbsolute, beq_iff_eq]
  cases bytes with
  | nil => simp
  | cons first rest =>
    rw [List.head?_cons, Option.some_inj, List.cons_prefix_cons, and_iff_left List.nil_prefix,
      eq_comm]

/-- This is the first value with the name. -/
def Text.OutlineFields.find? (name : String) : Text.OutlineFields → Option Text.Outline
  | .done => none
  | .field first value rest => if first = name then some value else rest.find? name

/-- Every failure names its kind when it is shown. -/
def FileFailure.shownKind? (failure : FileFailure) : Option Text.Outline :=
  match failure.outline with
  | .applied "Kind" kind => some kind
  | .record _ fields => fields.find? "kind"
  | _ => none

/-- The first fault in this order is reported: the path is not absolute, the file cannot be read, or
its content is no text. Only an absolute path is logged and used. -/
inductive ReadsToken (path : Path) (surroundings : Surroundings) :
    Outcome ResolutionError String → Surroundings → Prop
  | relative (relative : ¬ [Path.separator] <+: path.bytes) :
      ReadsToken path surroundings (.error (.invalidPath path)) surroundings
  | unreadable {failure : FileFailure} (absolute : [Path.separator] <+: path.bytes)
      (unreadable : surroundings.files.read path = .error failure) :
      ReadsToken path surroundings (.error (.file path failure))
        (surroundings.log (.readingToken path))
  | illFormed {content : Bytes} (absolute : [Path.separator] <+: path.bytes)
      (readable : surroundings.files.read path = .ok content)
      (illFormed : ¬ Text.WellFormed content) :
      ReadsToken path surroundings (.error (.file path .notUtf8))
        (surroundings.log (.readingToken path))
  | verbatim {token : String} (absolute : [Path.separator] <+: path.bytes)
      (readable : surroundings.files.read path = .ok (Bytes.ofText token)) :
      ReadsToken path surroundings (.ok token) (surroundings.log (.readingToken path))

section Reading

variable {path : Path} {surroundings after : Surroundings}
  {outcome : Outcome ResolutionError String}

theorem readToken_of_relative (relative : ¬ [Path.separator] <+: path.bytes) :
    Surroundings.readToken path surroundings = (.error (.invalidPath path), surroundings) := by
  rw [Surroundings.readToken, if_neg (mt Path.isAbsolute_iff.mp relative)]

theorem readToken_of_absolute (absolute : [Path.separator] <+: path.bytes) :
    Surroundings.readToken path surroundings =
      match surroundings.files.read path with
      | .error failure =>
        (.error (.file path failure), surroundings.log (.readingToken path))
      | .ok content =>
        match content.text? with
        | none => (.error (.file path .notUtf8), surroundings.log (.readingToken path))
        | some token => (.ok token, surroundings.log (.readingToken path)) := by
  rw [Surroundings.readToken, if_pos (Path.isAbsolute_iff.mpr absolute)]
  rfl

/-- Reading does what its rules say. -/
theorem readToken_of_readsToken (reads : ReadsToken path surroundings outcome after) :
    Surroundings.readToken path surroundings = (outcome, after) := by
  cases reads with
  | relative relative => exact readToken_of_relative relative
  | unreadable absolute unreadable => rw [readToken_of_absolute absolute, unreadable]
  | illFormed absolute readable illFormed =>
    simp only [readToken_of_absolute absolute, readable, Text.text?_eq_none_iff.mpr illFormed]
  | verbatim absolute readable =>
    simp only [readToken_of_absolute absolute, readable, Bytes.text?_ofText]

/-- Some rule applies. -/
theorem exists_readsToken (path : Path) (surroundings : Surroundings) :
    ∃ outcome after, ReadsToken path surroundings outcome after := by
  by_cases absolute : [Path.separator] <+: path.bytes
  · cases read : surroundings.files.read path with
    | error failure => exact ⟨_, _, .unreadable absolute read⟩
    | ok content =>
      by_cases wellFormed : Text.WellFormed content
      · obtain ⟨token, rfl⟩ := Text.wellFormed_iff.mp wellFormed
        exact ⟨_, _, .verbatim absolute read⟩
      · exact ⟨_, _, .illFormed absolute read wellFormed⟩
  · exact ⟨_, _, .relative absolute⟩

theorem readToken_iff :
    Surroundings.readToken path surroundings = (outcome, after) ↔
      ReadsToken path surroundings outcome after := by
  constructor
  · intro read
    obtain ⟨outcome', after', reads⟩ := exists_readsToken path surroundings
    cases read.symm.trans (readToken_of_readsToken reads)
    exact reads
  · exact readToken_of_readsToken

/-- A file below a barred directory cannot be opened. -/
example :
    let path : Path := .ofText "/run/token"
    (Surroundings.readToken path (.initial (.ofUnix 0 0)
        ⟨[([Bytes.ofText "run"], .barred .permissionDenied)]⟩)).1 =
      .error (.file path (.system .permissionDenied)) := by
  decide

/-- Reading changes no file. -/
theorem ReadsToken.files (reads : ReadsToken path surroundings outcome after) :
    after.files = surroundings.files := by
  cases reads <;> rfl

/-- A token is the content of the file byte for byte. -/
theorem ReadsToken.content {token : String}
    (reads : ReadsToken path surroundings (.ok token) after) :
    surroundings.files.read path = .ok (Bytes.ofText token) := by
  cases reads with
  | verbatim absolute readable => exact readable

end Reading

section Exchanging

variable {source : Source} {registry : Nat} {surroundings after : Surroundings}
  {exchanges : List (Exchange Factory Provider)} {outcome : Outcome ResolutionError Provider}

/-- An answer that is present was given to the question for its setting. -/
theorem Answers.asked_of_present {answers : Answers} {setting : Setting} {text : String}
    (present : answers.present setting = some text) :
    ∃ raw, (.asked setting (.ok (some raw)) : Exchange Factory Provider) ∈ answers.exchanges ∧
      Text.Trims (some raw) (some text) := by
  have trims := LoadedSettings.trims_iff.mpr present
  rcases found : answers.entries.lookup setting with _ | raw <;> rw [found] at trims
  · cases trims
  · rw [Option.join_some] at trims
    obtain ⟨raw, rfl⟩ : ∃ text, raw = some text := by
      cases trims with
      | text _ _ _ => exact ⟨_, rfl⟩
    obtain ⟨earlier, later, split, -⟩ := List.lookup_eq_some_iff.mp found
    refine ⟨raw, List.mem_map.mpr ⟨(setting, some raw), ?_, rfl⟩, trims⟩
    rw [split]
    exact List.mem_append_right _ List.mem_cons_self

/-- A factory is given the content of the file, found under the trimmed path. -/
theorem Chooses.token_of_created {factory : Factory} {roleArn token : String}
    {roleSessionName : Option String} {answer : Outcome ResolutionError Provider}
    (chooses : Chooses source.load registry surroundings exchanges outcome after)
    (created : .created factory roleArn roleSessionName token answer ∈ exchanges) :
    ∃ raw tokenFile, .asked .webIdentityTokenFile (.ok (some raw)) ∈ exchanges ∧
      Text.Trims (some raw) (some tokenFile) ∧
      .readToken (Path.ofText tokenFile) (.ok token) ∈ exchanges ∧
      surroundings.files.read (Path.ofText tokenFile) = .ok (Bytes.ofText token) := by
  cases chooses with
  | sourcePanics order answered panics =>
    rw [Answers.mem_exchanges_append (by simp)] at created
    simp at created
  | @decided answers asked _ _ _ answered decides =>
    rw [Answers.mem_exchanges_append (by simp)] at created
    cases decides with
    | accessKeyMissing | secretKeyMissing | sessionKeys | basicKeys => simp at created
    | webIdentity accessKey secretKey hasTokenFile hasRole exchanged =>
      cases exchanged with
      | tokenUnread | factoryUnavailable | constructorPanics => simp at created
      | created readToken lookedUp creates =>
        obtain ⟨raw, inAnswers, trims⟩ := Answers.asked_of_present hasTokenFile
        have content := (readToken_iff.mp readToken).content
        have files : asked.files = surroundings.files := by
          rw [(quiet_askEach source answered).rest]
        simp only [List.mem_cons, List.not_mem_nil, or_false, reduceCtorEq, false_or,
          Exchange.created.injEq] at created
        obtain ⟨-, -, -, rfl, -⟩ := created
        refine ⟨raw, _, List.mem_append_left _ inAnswers, trims, List.mem_append_right _ ?_, ?_⟩
        · simp
        · rw [← files]
          exact content

/-- A token that was read is given to the factory that was found. -/
theorem Chooses.created_of_token {path : Path} {token : String} {factory : Factory}
    (chooses : Chooses source.load registry surroundings exchanges outcome after)
    (read : .readToken path (.ok token) ∈ exchanges)
    (found : .lookedUp (.ok factory) ∈ exchanges) :
    ∃ roleArn roleSessionName answer,
      .created factory roleArn roleSessionName token answer ∈ exchanges := by
  cases chooses with
  | sourcePanics order answered panics =>
    rw [Answers.mem_exchanges_append (by simp)] at read
    simp at read
  | decided answered decides =>
    rw [Answers.mem_exchanges_append (by simp)] at read found
    cases decides with
    | accessKeyMissing | secretKeyMissing | sessionKeys | basicKeys => simp at read
    | webIdentity accessKey secretKey hasTokenFile hasRole exchanged =>
      cases exchanged with
      | tokenUnread | factoryUnavailable | constructorPanics => simp at found
      | created readToken lookedUp creates =>
        simp only [List.mem_cons, List.not_mem_nil, or_false, reduceCtorEq, false_or,
          Exchange.readToken.injEq, Outcome.ok.injEq, Exchange.lookedUp.injEq] at read found
        obtain ⟨-, rfl⟩ := read
        obtain rfl := found
        exact ⟨_, _, _, List.mem_append_right _ (List.mem_of_getElem? (i := 3) rfl)⟩

end Exchanging

/-- Tokens are read as the rules say, which changes no file, and a content that is no text counts as
invalid data. The factory is given a token as it was read, from the trimmed path. -/
theorem tokens_are_verbatim :
    (∀ path surroundings outcome after,
      Surroundings.readToken path surroundings = (outcome, after) ↔
        ReadsToken path surroundings outcome after) ∧
    FileFailure.notUtf8.shownKind? = some (.word "InvalidData") ∧
    (∀ path surroundings,
      (Surroundings.readToken path surroundings).2.files = surroundings.files) ∧
    ∀ source registry surroundings,
      let exchanges := (means source registry).exchanges surroundings
      (∀ factory roleArn roleSessionName token answer,
        .created factory roleArn roleSessionName token answer ∈ exchanges →
          ∃ raw tokenFile, .asked .webIdentityTokenFile (.ok (some raw)) ∈ exchanges ∧
            Text.Trims (some raw) (some tokenFile) ∧
            .readToken (Path.ofText tokenFile) (.ok token) ∈ exchanges ∧
            surroundings.files.read (Path.ofText tokenFile) = .ok (Bytes.ofText token)) ∧
      ∀ path token factory, .readToken path (.ok token) ∈ exchanges →
        .lookedUp (.ok factory) ∈ exchanges →
          ∃ roleArn roleSessionName answer,
            .created factory roleArn roleSessionName token answer ∈ exchanges := by
  refine ⟨fun path surroundings outcome after => readToken_iff, rfl, ?_, ?_⟩
  · intro path surroundings
    exact (readToken_iff.mp (rfl : Surroundings.readToken path surroundings = _)).files
  · intro source registry surroundings exchanges
    obtain ⟨outcome, after, chooses⟩ :=
      exists_chooses_exchanges source.load registry surroundings
    exact ⟨fun _ _ _ _ _ => chooses.token_of_created, fun _ _ _ => chooses.created_of_token⟩

/-- A token with white space around it is handed on as it is, although the path is trimmed. -/
theorem padded_token_of_padded_path :
    let entries := [("AWS_ACCESS_KEY_ID", "key"), ("AWS_SECRET_ACCESS_KEY", "secret"),
      ("AWS_ROLE_ARN", "role"), ("AWS_WEB_IDENTITY_TOKEN_FILE", "\t/token ")]
    let files : FileTree := ⟨[([Bytes.ofText "token"], .file (Bytes.ofText " token\n"))]⟩
    let start := register processWide webIdentity (.plain "factory" (.ok .echo))
      (.initial (.ofUnix 0 0) files)
    let exchanges :=
      (means (.fixedVariables (.ofList entries)) processWide).exchanges start
    (∃ factory roleArn roleSessionName answer,
      .created factory roleArn roleSessionName " token\n" answer ∈ exchanges) ∧
    ∃ raw tokenFile, .asked .webIdentityTokenFile (.ok (some raw)) ∈ exchanges ∧
      Text.Trims (some raw) (some tokenFile) ∧
      .readToken (Path.ofText tokenFile) (.ok " token\n") ∈ exchanges ∧
      start.files.read (Path.ofText tokenFile) = .ok (Bytes.ofText " token\n") := by
  intro entries files start exchanges
  have created : .created ⟨"factory", .echo⟩ "role" none " token\n"
      (.ok (Provider.fixed (Factory.echoed "role" none " token\n"))) ∈ exchanges :=
    List.mem_of_getElem? (i := 9) rfl
  exact ⟨⟨_, _, _, _, created⟩, (tokens_are_verbatim.2.2.2 _ _ start).1 _ _ _ _ _ created⟩

end CredentialResolution
