/-
This file says which bytes are a text. They are the encodings of texts, and these are exactly the
bytes that can be cut into sequences of the table of leading bytes.
-/

import CredentialResolution.Text.Utf8
import Mathlib.Data.List.Forall2

namespace CredentialResolution

namespace Bytes

theorem ofText_ofList (letters : List Char) :
    ofText (String.ofList letters) = letters.flatMap String.utf8EncodeChar := by
  simp [ofText, List.utf8Encode]

/-- Bytes are read as the text whose encoding they are. -/
theorem text?_eq_some_iff {bytes : Bytes} {text : String} :
    bytes.text? = some text ↔ ofText text = bytes := by
  rw [text?, String.fromUTF8?]
  constructor
  · intro decoded
    split at decoded
    · cases decoded
      rfl
    · cases decoded
  · rintro rfl
    have same : (⟨(ofText text).toArray⟩ : ByteArray) = text.toByteArray := rfl
    rw [dif_pos (same ▸ text.isValidUTF8)]
    rfl

theorem text?_ofText (text : String) : (ofText text).text? = some text :=
  text?_eq_some_iff.mpr rfl

theorem ofText_injective {text other : String} (same : ofText text = ofText other) :
    text = other := by
  have decoded := text?_ofText text
  rw [same, text?_ofText] at decoded
  exact (Option.some.inj decoded).symm

end Bytes

namespace Text

/-- A sequence of the table is a leading byte with as many bytes after it as its row has, each
within its bounds. -/
def IsSequence (lead : UInt8) (followers : Bytes) : Prop :=
  ∃ ranges, followers? lead = some ranges ∧
    List.Forall₂ (fun range byte => range.admits byte = true) ranges followers

/-- Well-formed bytes are sequences of the table, one after the other. -/
inductive WellFormed : Bytes → Prop
  | empty : WellFormed []
  | next {lead : UInt8} {followers rest : Bytes} (sequence : IsSequence lead followers)
      (continued : WellFormed rest) : WellFormed (lead :: followers ++ rest)

section Table

/-- After four of the leading bytes the bounds of the next byte are narrower. -/
def firstFollower (lead : UInt8) : ByteRange where
  low := if lead = 0xE0 then 0xA0 else if lead = 0xF0 then 0x90 else 0x80
  high := if lead = 0xED then 0x9F else if lead = 0xF4 then 0x8F else 0xBF

/-- The rows of the table are taken together by their length. -/
theorem followers?_eq (lead : UInt8) :
    followers? lead =
      if lead.toNat ≤ 0x7F then some []
      else if lead.toNat < 0xC2 then none
      else if lead.toNat ≤ 0xDF then some [trailing]
      else if lead.toNat ≤ 0xEF then some [firstFollower lead, trailing]
      else if lead.toNat ≤ 0xF4 then some [firstFollower lead, trailing, trailing]
      else none := by
  simp only [followers?, firstFollower, trailing, UInt8.le_iff_toNat_le, UInt8.lt_iff_toNat_lt,
    ← UInt8.toNat_inj, UInt8.reduceToNat]
  grind

theorem admits_iff (range : ByteRange) (byte : UInt8) :
    range.admits byte = true ↔ range.low.toNat ≤ byte.toNat ∧ byte.toNat ≤ range.high.toNat := by
  simp only [ByteRange.admits, Bool.and_eq_true, decide_eq_true_eq, UInt8.le_iff_toNat_le]

theorem trailing_admits_iff (byte : UInt8) :
    trailing.admits byte = true ↔ 0x80 ≤ byte.toNat ∧ byte.toNat ≤ 0xBF :=
  admits_iff trailing byte

theorem firstFollower_admits_iff (lead byte : UInt8) :
    (firstFollower lead).admits byte = true ↔
      (0x80 ≤ byte.toNat ∧ byte.toNat ≤ 0xBF) ∧
      (lead.toNat = 0xE0 → 0xA0 ≤ byte.toNat) ∧ (lead.toNat = 0xED → byte.toNat ≤ 0x9F) ∧
      (lead.toNat = 0xF0 → 0x90 ≤ byte.toNat) ∧ (lead.toNat = 0xF4 → byte.toNat ≤ 0x8F) := by
  simp only [admits_iff, firstFollower, ← UInt8.toNat_inj, UInt8.reduceToNat]
  split_ifs <;> simp only [UInt8.reduceToNat] <;> omega

end Table

section Sequences

variable {lead : UInt8} {followers : Bytes}

/-- The sequences of the table have at most four bytes; a leading byte fixes how many. -/
inductive Sized (lead : UInt8) : Bytes → Prop
  | one (high : lead.toNat ≤ 0x7F) : Sized lead []
  | two {first : UInt8} (low : 0xC2 ≤ lead.toNat) (high : lead.toNat ≤ 0xDF)
      (firstFits : trailing.admits first = true) : Sized lead [first]
  | three {first second : UInt8} (low : 0xE0 ≤ lead.toNat) (high : lead.toNat ≤ 0xEF)
      (firstFits : (firstFollower lead).admits first = true)
      (secondFits : trailing.admits second = true) : Sized lead [first, second]
  | four {first second third : UInt8} (low : 0xF0 ≤ lead.toNat) (high : lead.toNat ≤ 0xF4)
      (firstFits : (firstFollower lead).admits first = true)
      (secondFits : trailing.admits second = true)
      (thirdFits : trailing.admits third = true) : Sized lead [first, second, third]

theorem Sized.isSequence (sized : Sized lead followers) : IsSequence lead followers := by
  cases sized with
  | one high =>
    refine ⟨[], ?_, .nil⟩
    rw [followers?_eq, if_pos high]
  | two low high firstFits =>
    refine ⟨[trailing], ?_, .cons firstFits .nil⟩
    rw [followers?_eq, if_neg (by omega), if_neg (by omega), if_pos high]
  | three low high firstFits secondFits =>
    refine ⟨[firstFollower lead, trailing], ?_, .cons firstFits (.cons secondFits .nil)⟩
    rw [followers?_eq, if_neg (by omega), if_neg (by omega), if_neg (by omega), if_pos high]
  | four low high firstFits secondFits thirdFits =>
    refine ⟨[firstFollower lead, trailing, trailing], ?_,
      .cons firstFits (.cons secondFits (.cons thirdFits .nil))⟩
    rw [followers?_eq, if_neg (by omega), if_neg (by omega), if_neg (by omega), if_neg (by omega),
      if_pos high]

theorem IsSequence.sized (sequence : IsSequence lead followers) : Sized lead followers := by
  obtain ⟨ranges, row, admitted⟩ := sequence
  rw [followers?_eq] at row
  split at row
  · cases row
    cases admitted
    exact .one ‹_›
  split at row
  · cases row
  split at row
  · cases row
    obtain _ | ⟨firstFits, ⟨⟩⟩ := admitted
    exact .two (by omega) ‹_› firstFits
  split at row
  · cases row
    obtain _ | ⟨firstFits, _ | ⟨secondFits, ⟨⟩⟩⟩ := admitted
    exact .three (by omega) ‹_› firstFits secondFits
  split at row
  · cases row
    obtain _ | ⟨firstFits, _ | ⟨secondFits, _ | ⟨thirdFits, ⟨⟩⟩⟩⟩ := admitted
    exact .four (by omega) ‹_› firstFits secondFits thirdFits
  · cases row

end Sequences

section Characters

/-- A number below 256 is the value of its byte. -/
theorem toNat_byte {number : Nat} (small : number < 256) : (UInt8.ofNat number).toNat = number :=
  UInt8.toNat_ofNat_of_lt' small

/-- Every character is encoded as a sequence of the table. -/
theorem exists_sequence (letter : Char) :
    ∃ lead followers, String.utf8EncodeChar letter = lead :: followers ∧
      IsSequence lead followers := by
  have valid := letter.valid
  simp only [UInt32.isValidChar, Nat.isValidChar] at valid
  simp only [String.utf8EncodeChar]
  generalize letter.val.toNat = code at valid
  split
  · refine ⟨_, _, rfl, (Sized.one ?_).isSequence⟩
    rw [toNat_byte (by omega)]
    assumption
  split
  · refine ⟨_, _, rfl, (Sized.two ?_ ?_ ?_).isSequence⟩ <;>
      simp (disch := omega) only [trailing_admits_iff, toNat_byte] <;> omega
  split
  · refine ⟨_, _, rfl, (Sized.three ?_ ?_ ?_ ?_).isSequence⟩ <;>
      simp (disch := omega) only [firstFollower_admits_iff, trailing_admits_iff, toNat_byte] <;>
      omega
  · refine ⟨_, _, rfl, (Sized.four ?_ ?_ ?_ ?_ ?_).isSequence⟩ <;>
      simp (disch := omega) only [firstFollower_admits_iff, trailing_admits_iff, toNat_byte] <;>
      omega

theorem val_ofNat {code : Nat} (valid : code.isValidChar) :
    (Char.ofNat code).val.toNat = code := by
  rw [Char.ofNat, dif_pos valid]
  rfl

/-- A sequence of the table is the encoding of the character with its code. -/
theorem encode_codeOf {lead : UInt8} {followers : Bytes} (sequence : IsSequence lead followers) :
    String.utf8EncodeChar (Char.ofNat (codeOf lead followers)) = lead :: followers := by
  have coded (code : Nat) (same : codeOf lead followers = code) (valid : code.isValidChar) :
      (Char.ofNat (codeOf lead followers)).val.toNat = code := by
    rw [same]
    exact val_ofNat valid
  cases sequence.sized with
  | one high =>
    have value := coded lead.toNat rfl (.inl (by omega))
    simp only [String.utf8EncodeChar, value]
    rw [if_pos high, UInt8.ofNat_toNat]
  | @two first low high firstFits =>
    rw [trailing_admits_iff] at firstFits
    have value := coded ((lead.toNat - 0xC0) * 64 + (first.toNat - 0x80)) rfl
      (.inl (by omega))
    simp only [String.utf8EncodeChar, value]
    rw [if_neg (by omega), if_pos (by omega)]
    simp only [List.cons.injEq, ← UInt8.toNat_inj, UInt8.toNat_ofNat', and_true]
    omega
  | @three first second low high firstFits secondFits =>
    rw [firstFollower_admits_iff] at firstFits
    rw [trailing_admits_iff] at secondFits
    have value := coded
      (((lead.toNat - 0xE0) * 64 + (first.toNat - 0x80)) * 64 + (second.toNat - 0x80)) rfl
      (by rw [Nat.isValidChar]; omega)
    simp only [String.utf8EncodeChar, value]
    rw [if_neg (by omega), if_neg (by omega), if_pos (by omega)]
    simp only [List.cons.injEq, ← UInt8.toNat_inj, UInt8.toNat_ofNat', and_true]
    omega
  | @four first second third low high firstFits secondFits thirdFits =>
    rw [firstFollower_admits_iff] at firstFits
    rw [trailing_admits_iff] at secondFits thirdFits
    have value := coded
      ((((lead.toNat - 0xF0) * 64 + (first.toNat - 0x80)) * 64 + (second.toNat - 0x80)) * 64 +
        (third.toNat - 0x80)) rfl
      (by rw [Nat.isValidChar]; omega)
    simp only [String.utf8EncodeChar, value]
    rw [if_neg (by omega), if_neg (by omega), if_neg (by omega)]
    simp only [List.cons.injEq, ← UInt8.toNat_inj, UInt8.toNat_ofNat', and_true]
    omega

end Characters

/-- Encoded characters are well-formed. -/
theorem wellFormed_encoded (letters : List Char) :
    WellFormed (letters.flatMap String.utf8EncodeChar) := by
  induction letters with
  | nil => exact .empty
  | cons letter rest inductionHypothesis =>
    obtain ⟨lead, followers, encoded, sequence⟩ := exists_sequence letter
    rw [List.flatMap_cons, encoded]
    exact .next sequence inductionHypothesis

/-- Well-formed bytes are encoded characters. -/
theorem WellFormed.encodes {bytes : Bytes} (wellFormed : WellFormed bytes) :
    ∃ letters : List Char, letters.flatMap String.utf8EncodeChar = bytes := by
  induction wellFormed with
  | empty => exact ⟨[], rfl⟩
  | @next lead followers rest sequence continued inductionHypothesis =>
    obtain ⟨letters, rfl⟩ := inductionHypothesis
    refine ⟨Char.ofNat (codeOf lead followers) :: letters, ?_⟩
    rw [List.flatMap_cons, encode_codeOf sequence]

/-- Bytes are well-formed exactly when they are the encoding of a text. -/
theorem wellFormed_iff {bytes : Bytes} : WellFormed bytes ↔ ∃ text, Bytes.ofText text = bytes := by
  constructor
  · intro wellFormed
    obtain ⟨letters, encoded⟩ := wellFormed.encodes
    exact ⟨String.ofList letters, (Bytes.ofText_ofList letters).trans encoded⟩
  · rintro ⟨text, rfl⟩
    rw [← String.ofList_toList (s := text), Bytes.ofText_ofList]
    exact wellFormed_encoded text.toList

/-- Bytes are read as no text exactly when they are ill-formed. -/
theorem text?_eq_none_iff {bytes : Bytes} : bytes.text? = none ↔ ¬ WellFormed bytes := by
  rw [wellFormed_iff, Option.eq_none_iff_forall_ne_some]
  simp only [ne_eq, Bytes.text?_eq_some_iff, not_exists]

instance (bytes : Bytes) : Decidable (WellFormed bytes) :=
  decidable_of_iff (bytes.text? ≠ none) (by rw [ne_eq, text?_eq_none_iff, not_not])

end Text

end CredentialResolution
