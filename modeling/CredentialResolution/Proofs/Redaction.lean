/-
This file shows what the texts of settings and credentials give away. Quoted words and the layouts
around them can be told apart wherever they end, so that a text hides the secrets and nothing else.
-/

import CredentialResolution.LoadedSettings
import Mathlib.Data.List.Basic

namespace CredentialResolution

namespace Text

section Escapes

theorem digitChar_inj {digit other : Nat} (small : digit < 16) (small' : other < 16)
    (same : digit.digitChar = other.digitChar) : digit = other := by
  have distinct : ∀ first < 16, ∀ second < 16,
      Nat.digitChar first = Nat.digitChar second → first = second := by
    decide
  exact distinct digit small other small' same

theorem toDigits_injective : Function.Injective (Nat.toDigits 16) := by
  intro number
  induction number using Nat.strongRecOn with
  | ind number inductionHypothesis =>
      intro other same
      rw [Nat.toDigits_eq_if (by decide), Nat.toDigits_eq_if (by decide) (n := other)] at same
      split at same <;> split at same
      case isTrue.isTrue small small' =>
        exact digitChar_inj small small' (List.singleton_inj.1 same)
      case isTrue.isFalse =>
        -- One digit is not two: whatever stands before the last one is not empty.
        simpa using congrArg List.length same
      case isFalse.isTrue =>
        simpa using congrArg List.length same
      case isFalse.isFalse =>
        obtain ⟨leading, last⟩ := List.append_inj' same rfl
        have quotients := inductionHypothesis _ (by omega) leading
        have remainders := digitChar_inj (Nat.mod_lt _ (by decide)) (Nat.mod_lt _ (by decide))
          (List.singleton_inj.1 last)
        omega

/-- The brace that closes a numbered escape is none of its digits. -/
theorem digit_ne_brace (number : Nat) :
    ∀ digit ∈ Nat.toDigits 16 number, decide (digit ≠ '\x7D') = true := by
  induction number using Nat.strongRecOn with
  | ind number inductionHypothesis =>
      rw [Nat.toDigits_eq_if (by decide)]
      split
      case isTrue => simp
      case isFalse =>
        intro digit member
        rcases List.mem_append.1 member with leading | last
        · exact inductionHypothesis _ (by omega) digit leading
        · simp [List.mem_singleton.1 last]

/-- These characters have escapes of two characters; the second one stands on the right. -/
def abbreviations : List (Char × Char) :=
  [('\x00', '0'), ('\t', 't'), ('\r', 'r'), ('\n', 'n'), ('"', '"'), ('\\', '\\')]

/-- A character is written in one of three forms, which its first two characters tell apart. -/
inductive Escapes (character : Char) : List Char → Prop
  | itself (other : character ≠ '\\') (other' : character ≠ '"') : Escapes character [character]
  | abbreviated {short : Char} (listed : (character, short) ∈ abbreviations) :
    Escapes character ['\\', short]
  | coded : Escapes character (codeEscape character)

theorem escapes_escaped (character : Char) : Escapes character (escaped character) := by
  by_cases listed : ∃ short, (character, short) ∈ abbreviations
  · obtain ⟨short, listed⟩ := listed
    have written : ∀ pair ∈ abbreviations, escaped pair.1 = ['\\', pair.2] := by decide
    rw [written _ listed]
    exact .abbreviated listed
  · have unlisted : ∀ pair ∈ abbreviations, character ≠ pair.1 := by
      rintro ⟨_, short⟩ member rfl
      exact listed ⟨short, member⟩
    simp only [abbreviations, List.forall_mem_cons] at unlisted
    obtain ⟨zero, tab, carriage, newline, quote, backslash, -⟩ := unlisted
    simp only [escaped, zero, tab, carriage, newline, quote, backslash, if_false]
    split
    case isTrue => exact .coded
    case isFalse => exact .itself backslash quote

variable {character other : Char} {written written' rest rest' : List Char}

theorem abbreviated_inj {short : Char} (listed : (character, short) ∈ abbreviations)
    (listed' : (other, short) ∈ abbreviations) : character = other := by
  have distinct : ∀ first ∈ abbreviations, ∀ second ∈ abbreviations,
      first.2 = second.2 → first.1 = second.1 := by
    decide
  exact distinct _ listed _ listed' rfl

theorem not_abbreviated_u : (character, 'u') ∉ abbreviations := by
  simp [abbreviations]

theorem codeEscape_append_inj
    (same : codeEscape character ++ rest = codeEscape other ++ rest') :
    character = other ∧ rest = rest' := by
  have shorter : Nat.toDigits 16 character.toNat ++ '\x7D' :: rest =
      Nat.toDigits 16 other.toNat ++ '\x7D' :: rest' := by
    simpa [codeEscape] using same
  have digits : Nat.toDigits 16 character.toNat = Nat.toDigits 16 other.toNat := by
    have before := congrArg (List.takeWhile (· ≠ '\x7D')) shorter
    rwa [List.takeWhile_append_of_pos (digit_ne_brace _),
      List.takeWhile_append_of_pos (digit_ne_brace _), List.takeWhile_cons_of_neg (by simp),
      List.takeWhile_cons_of_neg (by simp), List.append_nil, List.append_nil] at before
  rw [digits] at shorter
  exact ⟨Char.toNat_inj.1 (toDigits_injective digits),
    (List.cons.inj (List.append_cancel_left shorter)).2⟩

theorem Escapes.append_inj (first : Escapes character written) (second : Escapes other written')
    (same : written ++ rest = written' ++ rest') : character = other ∧ rest = rest' := by
  cases first with
  | itself other =>
      cases second with
      | itself => simpa using same
      | abbreviated => exact absurd (List.cons.inj same).1 other
      | coded => exact absurd (List.cons.inj same).1 other
  | abbreviated listed =>
      cases second with
      | itself other => exact absurd (List.cons.inj same).1.symm other
      | abbreviated listed' =>
          obtain ⟨rfl, rests⟩ := List.cons.inj (List.cons.inj same).2
          exact ⟨abbreviated_inj listed listed', rests⟩
      | coded =>
          obtain rfl := (List.cons.inj (List.cons.inj same).2).1
          exact absurd listed not_abbreviated_u
  | coded =>
      cases second with
      | itself other => exact absurd (List.cons.inj same).1.symm other
      | abbreviated listed =>
          obtain rfl := (List.cons.inj (List.cons.inj same).2).1
          exact absurd listed not_abbreviated_u
      | coded => exact codeEscape_append_inj same

theorem Escapes.ne_quote (escapes : Escapes character written) :
    written ++ rest ≠ '"' :: rest' := by
  cases escapes with
  | itself _ other => simp [other]
  | abbreviated => simp
  | coded => simp [codeEscape]

end Escapes

section Quoted

/-- The closing quotation mark of a quoted text is found wherever the text ends. -/
theorem escaped_quote_inj {letters letters' : List Char} {rest rest' : List Char}
    (same : letters.flatMap escaped ++ '"' :: rest = letters'.flatMap escaped ++ '"' :: rest') :
    letters = letters' ∧ rest = rest' := by
  induction letters generalizing letters' with
  | nil =>
      cases letters' with
      | nil => simpa using same
      | cons letter letters' =>
          rw [List.flatMap_cons, List.append_assoc] at same
          exact absurd same.symm (escapes_escaped letter).ne_quote
  | cons letter letters inductionHypothesis =>
      rw [List.flatMap_cons, List.append_assoc] at same
      cases letters' with
      | nil => exact absurd same (escapes_escaped letter).ne_quote
      | cons letter' letters' =>
          rw [List.flatMap_cons, List.append_assoc] at same
          obtain ⟨rfl, shorter⟩ :=
            (escapes_escaped letter).append_inj (escapes_escaped letter') same
          obtain ⟨rfl, rests⟩ := inductionHypothesis shorter
          exact ⟨rfl, rests⟩

theorem quoted_append_inj {text other rest rest' : String}
    (same : quoted text ++ rest = quoted other ++ rest') : text = other ∧ rest = rest' := by
  have letters := congrArg String.toList same
  simp only [quoted, String.toList_append, String.toList_ofList, List.cons_append,
    List.append_assoc, List.nil_append, List.cons.injEq, true_and] at letters
  obtain ⟨texts, rests⟩ := escaped_quote_inj letters
  exact ⟨String.toList_inj.1 texts, String.toList_inj.1 rests⟩

@[simp]
theorem quoted_inj {text other : String} : quoted text = quoted other ↔ text = other := by
  constructor
  · intro same
    exact (quoted_append_inj (congrArg (· ++ "") same)).1
  · exact congrArg quoted

end Quoted

section Layouts

mutual

/-- Two values of one form differ at most in quoted words and in which optional values are there. -/
inductive Outline.Resembles : Outline → Outline → Prop
  | same (outline : Outline) : outline.Resembles outline
  | quoted (text other : String) : Outline.Resembles (.word (quoted text)) (.word (quoted other))
  | missing (value : Outline) : Outline.Resembles (.optional none) (.optional (some value))
  | present (value : Outline) : Outline.Resembles (.optional (some value)) (.optional none)
  | applied (name : String) {argument other : Outline} (arguments : argument.Resembles other) :
    Outline.Resembles (.applied name argument) (.applied name other)
  | record (name : String) {fields others : OutlineFields} (all : fields.Resembles others) :
    Outline.Resembles (.record name fields) (.record name others)

/-- The fields have the same names in the same order. -/
inductive OutlineFields.Resembles : OutlineFields → OutlineFields → Prop
  | done : OutlineFields.Resembles .done .done
  | field (name : String) {value other : Outline} {rest others : OutlineFields}
    (values : value.Resembles other) (all : rest.Resembles others) :
    OutlineFields.Resembles (.field name value rest) (.field name other others)

end

/-- The first letters tell a missing value from one that is there. -/
theorem none_append_ne_some (text other : String) : "None" ++ text ≠ "Some" ++ other := by
  intro same
  have letters := congrArg String.toList same
  simp [String.toList_append] at letters

mutual

theorem Outline.Resembles.line_append_inj {first second : Outline} {rest rest' : String} :
    first.Resembles second → first.line ++ rest = second.line ++ rest' →
      first = second ∧ rest = rest'
  | .same _, written => ⟨rfl, (String.append_right_inj _).1 written⟩
  | .quoted text other, written => by
      obtain ⟨rfl, rests⟩ := quoted_append_inj written
      exact ⟨rfl, rests⟩
  | .missing value, written => by
      simp only [Outline.optional, Outline.line, String.append_assoc] at written
      exact absurd written (none_append_ne_some _ _)
  | .present value, written => by
      simp only [Outline.optional, Outline.line, String.append_assoc] at written
      exact absurd written.symm (none_append_ne_some _ _)
  | .applied name arguments, written => by
      simp only [Outline.line, String.append_assoc, String.append_right_inj] at written
      obtain ⟨rfl, rests⟩ := arguments.line_append_inj written
      exact ⟨rfl, (String.append_right_inj _).1 rests⟩
  | .record name .done, written => ⟨rfl, (String.append_right_inj _).1 written⟩
  | .record name (.field first values all), written => by
      simp only [Outline.line, String.append_assoc, String.append_right_inj] at written
      obtain ⟨rfl, shorter⟩ := values.line_append_inj written
      obtain ⟨rfl, rests⟩ := all.line_append_inj shorter
      exact ⟨rfl, (String.append_right_inj _).1 rests⟩

theorem OutlineFields.Resembles.line_append_inj {fields others : OutlineFields}
    {rest rest' : String} :
    fields.Resembles others → fields.line ++ rest = others.line ++ rest' →
      fields = others ∧ rest = rest'
  | .done, written => ⟨rfl, (String.append_right_inj _).1 written⟩
  | .field name values all, written => by
      simp only [OutlineFields.line, String.append_assoc, String.append_right_inj] at written
      obtain ⟨rfl, shorter⟩ := values.line_append_inj written
      obtain ⟨rfl, rests⟩ := all.line_append_inj shorter
      exact ⟨rfl, rests⟩

end

mutual

theorem Outline.Resembles.block_append_inj {first second : Outline} {rest rest' : String}
    (depth : Nat) :
    first.Resembles second → first.block depth ++ rest = second.block depth ++ rest' →
      first = second ∧ rest = rest'
  | .same _, written => ⟨rfl, (String.append_right_inj _).1 written⟩
  | .quoted text other, written => by
      obtain ⟨rfl, rests⟩ := quoted_append_inj written
      exact ⟨rfl, rests⟩
  | .missing value, written => by
      simp only [Outline.optional, Outline.block, String.append_assoc] at written
      exact absurd written (none_append_ne_some _ _)
  | .present value, written => by
      simp only [Outline.optional, Outline.block, String.append_assoc] at written
      exact absurd written.symm (none_append_ne_some _ _)
  | .applied name arguments, written => by
      simp only [Outline.block, String.append_assoc, String.append_right_inj] at written
      obtain ⟨rfl, rests⟩ := arguments.block_append_inj (depth + 1) written
      simp only [String.append_right_inj] at rests
      exact ⟨rfl, rests⟩
  | .record name .done, written => ⟨rfl, (String.append_right_inj _).1 written⟩
  | .record name (.field first values all), written => by
      simp only [Outline.block, String.append_assoc, String.append_right_inj] at written
      obtain ⟨rfl, shorter⟩ := values.block_append_inj (depth + 1) written
      obtain ⟨rfl, rests⟩ :=
        all.block_append_inj (depth + 1) ((String.append_right_inj _).1 shorter)
      simp only [String.append_right_inj] at rests
      exact ⟨rfl, rests⟩

theorem OutlineFields.Resembles.block_append_inj {fields others : OutlineFields}
    {rest rest' : String} (depth : Nat) :
    fields.Resembles others → fields.block depth ++ rest = others.block depth ++ rest' →
      fields = others ∧ rest = rest'
  | .done, written => ⟨rfl, (String.append_right_inj _).1 written⟩
  | .field name values all, written => by
      simp only [OutlineFields.block, String.append_assoc, String.append_right_inj] at written
      obtain ⟨rfl, shorter⟩ := values.block_append_inj depth written
      obtain ⟨rfl, rests⟩ := all.block_append_inj depth ((String.append_right_inj _).1 shorter)
      exact ⟨rfl, rests⟩

end

/-- Neither layout hides anything of a value whose form is known. -/
theorem Outline.Resembles.shown_eq_iff {first second : Outline} (alike : first.Resembles second)
    (layout : Layout) : first.shown layout = second.shown layout ↔ first = second := by
  constructor
  · intro same
    have followed := congrArg (· ++ "") same
    cases layout with
    | line => exact (alike.line_append_inj followed).1
    | block => exact (alike.block_append_inj 0 followed).1
  · exact congrArg (Outline.shown layout)

end Layouts

section Optional

variable {value other : Option String}

theorem resembles_shownOptional : (shownOptional value).Resembles (shownOptional other) := by
  cases value with
  | none =>
      cases other with
      | none => exact .same _
      | some other => exact .missing _
  | some text =>
      cases other with
      | none => exact .present _
      | some other => exact .applied "Some" (.quoted text other)

theorem resembles_redactedOptional :
    (redactedOptional value).Resembles (redactedOptional other) := by
  cases value <;> cases other
  case none.none => exact .same _
  case none.some => exact .missing _
  case some.none => exact .present _
  case some.some => exact .same _

@[simp]
theorem shownOptional_inj : shownOptional value = shownOptional other ↔ value = other := by
  cases value <;> cases other <;> simp [shownOptional, Outline.optional]

@[simp]
theorem redactedOptional_inj :
    redactedOptional value = redactedOptional other ↔ value.isSome = other.isSome := by
  cases value <;> cases other <;> simp [redactedOptional, Outline.optional]

end Optional

end Text

theorem LoadedSettings.resembles_outline (settings other : LoadedSettings) :
    settings.outline.Resembles other.outline :=
  .record _ (.field _ Text.resembles_shownOptional (.field _ Text.resembles_redactedOptional
    (.field _ Text.resembles_redactedOptional (.field _ Text.resembles_shownOptional
      (.field _ Text.resembles_shownOptional (.field _ Text.resembles_shownOptional .done))))))

theorem Credentials.resembles_outline {credentials other : Credentials}
    (together : credentials.expiration = other.expiration) :
    credentials.outline.Resembles other.outline := by
  unfold outline
  rw [together]
  exact .record _ (.field _ (.quoted _ _) (.field _ (.same _)
    (.field _ Text.resembles_redactedOptional (.field _ (.same _) .done))))

/-- The texts of settings and of credentials, on one line or over several, are equal exactly if
everything that is no secret is equal and the same secrets are there. -/
theorem texts_hide_secrets_alone (layout : Text.Layout) :
    (∀ settings other : LoadedSettings,
      settings.outline.shown layout = other.outline.shown layout ↔
        settings.accessKeyId = other.accessKeyId ∧ settings.roleArn = other.roleArn ∧
        settings.roleSessionName = other.roleSessionName ∧
        settings.webIdentityTokenFile = other.webIdentityTokenFile ∧
        settings.secretAccessKey.isSome = other.secretAccessKey.isSome ∧
        settings.sessionToken.isSome = other.sessionToken.isSome) ∧
    ∀ credentials other : Credentials, credentials.expiration = other.expiration →
      (credentials.outline.shown layout = other.outline.shown layout ↔
        credentials.accessKeyId = other.accessKeyId ∧ credentials.isSession = other.isSession) := by
  constructor
  · intro settings other
    rw [(settings.resembles_outline other).shown_eq_iff]
    simp only [LoadedSettings.outline, Text.Outline.record.injEq, Text.OutlineFields.field.injEq,
      Text.shownOptional_inj, Text.redactedOptional_inj, true_and, and_true]
    tauto
  · intro credentials other together
    rw [(Credentials.resembles_outline together).shown_eq_iff]
    simp [Credentials.outline, Credentials.isSession, together]

/-- A key made to look like the fields after it is told from a key followed by these fields. -/
theorem crafted_key_is_told_apart :
    (Credentials.basic "key\", session_token: \"****" "").expiration =
        (Credentials.basic "key" "secret").expiration ∧
      (Credentials.basic "key\", session_token: \"****" "").outline.shown .line ≠
        (Credentials.basic "key" "secret").outline.shown .line := by
  refine ⟨rfl, fun same => ?_⟩
  have parts := ((texts_hide_secrets_alone .line).2 _ _ (by rfl)).1 same
  exact absurd parts.1 (by decide)

end CredentialResolution
