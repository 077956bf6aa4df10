/-
This file says how bytes that need not be a text are shown. Whole characters are shown as they are,
and every part that starts a character without completing it is shown as one mark. Paths are shown
so wherever they are reported.
-/

import CredentialResolution.Proofs.TokenReading

namespace CredentialResolution

namespace Text

/-- The bytes start the encoding of some character and do not complete it. -/
def Truncated (bytes : Bytes) : Prop :=
  ∃ letter, bytes <+: String.utf8EncodeChar letter ∧ bytes ≠ String.utf8EncodeChar letter

/-- The bytes begin with the whole encoding of a character. -/
def StartsWithCharacter (bytes : Bytes) : Prop :=
  ∃ letter, String.utf8EncodeChar letter <+: bytes

/-- The bytes are dropped and the remaining ones are left. Dropped is the longest truncated part at
the beginning, or the first byte if no part there is truncated. -/
inductive Dropped : Bytes → Bytes → Prop
  | truncated {dropped remaining : Bytes} (nonempty : dropped ≠ []) (truncated : Truncated dropped)
      (longest : ∀ part, part <+: dropped ++ remaining → Truncated part →
        part.length ≤ dropped.length) : Dropped dropped remaining
  | first {first : UInt8} {remaining : Bytes}
      (nothing : ∀ part, part <+: first :: remaining → part ≠ [] → ¬ Truncated part) :
      Dropped [first] remaining

section Beginnings

variable {ranges : List ByteRange} {lead : UInt8} {followers rest : Bytes}

/-- The ranges admit the bytes one after the other, and there may be more ranges than bytes. -/
def AdmitsStart (ranges : List ByteRange) (bytes : Bytes) : Prop :=
  List.Forall₂ (fun range byte => range.admits byte = true) (ranges.take bytes.length) bytes

/-- What all ranges admit is split off. -/
theorem splitAdmitted_of_admitted
    (admitted : List.Forall₂ (fun range byte => range.admits byte = true) ranges followers)
    (rest : Bytes) : splitAdmitted ranges (followers ++ rest) = (followers, rest) := by
  induction admitted with
  | nil => cases rest <;> rfl
  | cons fits _ inductionHypothesis =>
    rw [List.cons_append, splitAdmitted, if_pos fits, inductionHypothesis]

theorem admitsStart_splitAdmitted (ranges : List ByteRange) (bytes : Bytes) :
    AdmitsStart ranges (splitAdmitted ranges bytes).1 := by
  fun_induction splitAdmitted ranges bytes with
  | case1 range ranges byte rest fits admitted remaining split inductionHypothesis =>
    rw [split] at inductionHypothesis
    exact .cons fits inductionHypothesis
  | case2 range ranges byte rest unfit => exact .nil
  | case3 ranges bytes other => exact .nil

/-- No longer part is admitted than the one that is split off. -/
theorem length_le_splitAdmitted {part bytes : Bytes} (admitted : AdmitsStart ranges part)
    (start : part <+: bytes) : part.length ≤ (splitAdmitted ranges bytes).1.length := by
  induction ranges generalizing part bytes with
  | nil =>
    rw [AdmitsStart, List.take_nil] at admitted
    cases admitted
    exact Nat.zero_le _
  | cons range ranges inductionHypothesis =>
    cases part with
    | nil => exact Nat.zero_le _
    | cons byte part =>
      obtain ⟨rest, rfl⟩ := start
      rw [AdmitsStart, List.length_cons, List.take_succ_cons, List.forall₂_cons] at admitted
      obtain ⟨fits, admitted⟩ := admitted
      rw [List.cons_append, splitAdmitted, if_pos fits]
      exact Nat.succ_le_succ (inductionHypothesis admitted (List.prefix_append part rest))

end Beginnings

section Truncation

variable {lead : UInt8} {followers rest : Bytes}

/-- Every range of the table admits its lowest byte. -/
theorem admits_low {ranges : List ByteRange} (row : followers? lead = some ranges) :
    ∀ range ∈ ranges, range.admits range.low = true := by
  have trailingFits : trailing.admits trailing.low = true := by decide
  have firstFits : (firstFollower lead).admits (firstFollower lead).low = true := by
    simp only [admits_iff, firstFollower, ← UInt8.toNat_inj, UInt8.reduceToNat]
    split_ifs <;> simp only [UInt8.reduceToNat] <;> omega
  rw [followers?_eq] at row
  split_ifs at row <;> cases row <;> simp [trailingFits, firstFits]

/-- Bytes are truncated if the leading byte allows them and more. -/
theorem truncated_cons_iff :
    Truncated (lead :: followers) ↔ ∃ ranges, followers? lead = some ranges ∧
      AdmitsStart ranges followers ∧ followers.length < ranges.length := by
  constructor
  · rintro ⟨letter, start, incomplete⟩
    obtain ⟨first, all, encoded, ranges, row, admitted⟩ := exists_sequence letter
    rw [encoded] at start incomplete
    obtain ⟨rfl, begins⟩ := List.cons_prefix_cons.mp start
    have shorter : followers.length < all.length := by
      refine Nat.lt_of_le_of_ne begins.length_le ?_
      intro same
      exact incomplete (congrArg _ (begins.eq_of_length same))
    refine ⟨ranges, row, ?_, admitted.length_eq ▸ shorter⟩
    have taken := List.forall₂_take followers.length admitted
    rwa [← List.prefix_iff_eq_take.mp begins] at taken
  · rintro ⟨ranges, row, admitted, short⟩
    let missing := (ranges.drop followers.length).map ByteRange.low
    have completed : List.Forall₂ (fun range byte => range.admits byte = true) ranges
        (followers ++ missing) := by
      rw [← List.take_append_drop followers.length ranges]
      refine List.rel_append admitted ?_
      rw [List.forall₂_map_right_iff, List.forall₂_same]
      exact fun range among => admits_low row range (List.mem_of_mem_drop among)
    have sequence : IsSequence lead (followers ++ missing) := ⟨ranges, row, completed⟩
    have encoded := encode_codeOf sequence
    refine ⟨Char.ofNat (codeOf lead (followers ++ missing)), ?_, ?_⟩
    · rw [encoded]
      exact List.prefix_append (lead :: followers) missing
    · intro same
      have lengths := congrArg List.length (same.trans encoded)
      simp only [List.length_cons, List.length_append, List.length_map, List.length_drop,
        missing] at lengths
      omega

end Truncation

section Pieces

theorem encode_injective {letter other : Char}
    (same : String.utf8EncodeChar letter = String.utf8EncodeChar other) : letter = other := by
  have texts : Bytes.ofText (String.ofList [letter]) = Bytes.ofText (String.ofList [other]) := by
    rw [Bytes.ofText_ofList, Bytes.ofText_ofList, List.flatMap_singleton, List.flatMap_singleton,
      same]
  exact List.singleton_inj.mp (String.ofList_injective (Bytes.ofText_injective texts))

/-- A character at the beginning is the first piece. -/
theorem pieces_encode_append (letter : Char) (rest : Bytes) :
    pieces (String.utf8EncodeChar letter ++ rest) = .character letter :: pieces rest := by
  obtain ⟨lead, followers, encoded, sequence⟩ := exists_sequence letter
  have decoded : Char.ofNat (codeOf lead followers) = letter :=
    encode_injective ((encode_codeOf sequence).trans encoded.symm)
  obtain ⟨ranges, row, admitted⟩ := sequence
  have first : firstPiece lead (followers ++ rest) = (.character letter, rest) := by
    simp only [firstPiece, row, splitAdmitted_of_admitted admitted, admitted.length_eq, decoded,
      if_true]
  rw [encoded, List.cons_append, pieces, first]

/-- If there is no character at the beginning, the first piece is what is dropped there. -/
theorem firstPiece_of_dropped {lead : UInt8} {rest : Bytes}
    (noCharacter : ¬ StartsWithCharacter (lead :: rest)) :
    ∃ bytes remaining, firstPiece lead rest = (.illFormed bytes, remaining) ∧
      bytes ++ remaining = lead :: rest ∧ Dropped bytes remaining := by
  cases row : followers? lead with
  | none =>
    refine ⟨[lead], rest, by simp only [firstPiece, row], rfl, .first ?_⟩
    rintro (_ | ⟨first, part⟩) start nonempty truncated
    · exact nonempty rfl
    · obtain ⟨rfl, -⟩ := List.cons_prefix_cons.mp start
      obtain ⟨ranges, found, -⟩ := truncated_cons_iff.mp truncated
      cases row.symm.trans found
  | some ranges =>
    obtain ⟨followers, remaining, split⟩ :
        ∃ followers remaining, splitAdmitted ranges rest = (followers, remaining) := ⟨_, _, rfl⟩
    have whole : followers ++ remaining = rest := by
      have appended := splitAdmitted_append ranges rest
      rwa [split] at appended
    have admitted : AdmitsStart ranges followers := by
      have started := admitsStart_splitAdmitted ranges rest
      rwa [split] at started
    have longest {part : Bytes} (partAdmitted : AdmitsStart ranges part) (start : part <+: rest) :
        part.length ≤ followers.length := by
      have shorter := length_le_splitAdmitted partAdmitted start
      rwa [split] at shorter
    have incomplete : followers.length < ranges.length := by
      have fits : followers.length ≤ ranges.length := by
        have lengths := admitted.length_eq
        rw [List.length_take] at lengths
        omega
      refine Nat.lt_of_le_of_ne fits ?_
      intro complete
      rw [AdmitsStart, complete, List.take_length] at admitted
      refine noCharacter ⟨Char.ofNat (codeOf lead followers), ?_⟩
      rw [encode_codeOf ⟨ranges, row, admitted⟩, ← whole]
      exact List.prefix_append (lead :: followers) remaining
    refine ⟨lead :: followers, remaining, ?_, congrArg (List.cons lead) whole, ?_⟩
    · simp only [firstPiece, row, split, if_neg (Nat.ne_of_lt incomplete)]
    · refine .truncated (List.cons_ne_nil _ _)
        (truncated_cons_iff.mpr ⟨ranges, row, admitted, incomplete⟩) ?_
      rintro (_ | ⟨first, part⟩) start truncated
      · exact Nat.zero_le _
      · obtain ⟨rfl, among⟩ := List.cons_prefix_cons.mp start
        obtain ⟨others, found, partAdmitted, -⟩ := truncated_cons_iff.mp truncated
        obtain rfl := Option.some.inj (row.symm.trans found)
        exact Nat.succ_le_succ (longest partAdmitted (whole ▸ among))

theorem not_startsWithCharacter {lead : UInt8} {rest bytes remaining : Bytes}
    (first : firstPiece lead rest = (.illFormed bytes, remaining)) :
    ¬ StartsWithCharacter (lead :: rest) := by
  rintro ⟨letter, later, whole⟩
  have cut := pieces_encode_append letter later
  rw [whole, pieces, first] at cut
  cases cut

/-- There is only one way to drop the beginning of given bytes. -/
theorem Dropped.unique {dropped remaining dropped' remaining' : Bytes}
    (drops : Dropped dropped remaining) (drops' : Dropped dropped' remaining')
    (same : dropped ++ remaining = dropped' ++ remaining') :
    dropped = dropped' ∧ remaining = remaining' := by
  apply List.append_inj same
  cases drops with
  | truncated nonempty truncated longest =>
    have start : dropped <+: dropped' ++ remaining' := ⟨remaining, same⟩
    cases drops' with
    | truncated nonempty' truncated' longest' =>
      exact Nat.le_antisymm (longest' _ start truncated)
        (longest _ ⟨remaining', same.symm⟩ truncated')
    | first nothing => exact absurd truncated (nothing _ start nonempty)
  | first nothing =>
    cases drops' with
    | truncated nonempty' truncated' longest' =>
      exact absurd truncated' (nothing _ ⟨remaining', same.symm⟩ nonempty')
    | first nothing' => rfl

end Pieces

section Display

/-- What is a text is shown as it is, whatever follows it. -/
theorem display_ofText_append (text : String) (rest : Bytes) :
    display (Bytes.ofText text ++ rest) = text ++ display rest := by
  have shown (letters : List Char) :
      (pieces (letters.flatMap String.utf8EncodeChar ++ rest)).map Piece.shown =
        letters ++ (pieces rest).map Piece.shown := by
    induction letters with
    | nil => rfl
    | cons letter letters inductionHypothesis =>
      rw [List.flatMap_cons, List.append_assoc, pieces_encode_append, List.map_cons,
        inductionHypothesis]
      rfl
  have letters := Bytes.ofText_ofList text.toList
  rw [String.ofList_toList] at letters
  rw [letters, display, shown, String.ofList_append, String.ofList_toList]
  rfl

theorem display_ofText (text : String) : display (Bytes.ofText text) = text := by
  have nothing : display [] = "" := by rw [display, pieces, List.map_nil, String.ofList_nil]
  have shown := display_ofText_append text []
  rwa [List.append_nil, nothing, String.append_empty] at shown

/-- What is dropped is shown as one mark. -/
theorem display_of_dropped {dropped remaining : Bytes} (drops : Dropped dropped remaining)
    (noCharacter : ¬ StartsWithCharacter (dropped ++ remaining)) :
    display (dropped ++ remaining) = "\uFFFD" ++ display remaining := by
  cases bytes : dropped ++ remaining with
  | nil =>
    obtain ⟨rfl, -⟩ := List.append_eq_nil_iff.mp bytes
    cases drops with
    | truncated nonempty => exact absurd rfl nonempty
  | cons lead rest =>
    rw [bytes] at noCharacter
    obtain ⟨dropped', remaining', first, whole, drops'⟩ := firstPiece_of_dropped noCharacter
    obtain ⟨rfl, rfl⟩ := drops.unique drops' (bytes.trans whole.symm)
    rw [display, pieces, first, List.map_cons, ← List.singleton_append, String.ofList_append]
    rfl

/-- Bytes are shown losslessly exactly if they are well-formed. -/
theorem ofText_display_iff {bytes : Bytes} :
    Bytes.ofText (display bytes) = bytes ↔ WellFormed bytes := by
  constructor
  · intro same
    exact wellFormed_iff.mpr ⟨_, same⟩
  · intro wellFormed
    obtain ⟨text, rfl⟩ := wellFormed_iff.mp wellFormed
    rw [display_ofText]

end Display

end Text

open Surroundings

/-- Everything that is reported about reading a token names the path that was to be read. -/
theorem readToken_reports {path : Path} {surroundings after : Surroundings}
    {outcome : Outcome ResolutionError String}
    (read : Surroundings.readToken path surroundings = (outcome, after)) :
    (∀ error, outcome = .error error →
      error = .invalidPath path ∨ ∃ failure, error = .file path failure) ∧
    (after = surroundings ∨ after = surroundings.log (.readingToken path)) := by
  cases readToken_iff.mp read with
  | relative relative => exact ⟨fun error failed => .inl (Outcome.error.inj failed).symm, .inl rfl⟩
  | unreadable absolute unreadable =>
    exact ⟨fun error failed => .inr ⟨_, (Outcome.error.inj failed).symm⟩, .inr rfl⟩
  | illFormed absolute readable illFormed =>
    exact ⟨fun error failed => .inr ⟨_, (Outcome.error.inj failed).symm⟩, .inr rfl⟩
  | verbatim absolute readable =>
    refine ⟨?_, .inr rfl⟩
    intro error failed
    cases failed

/-- Errors and log entries show the bytes of a path in one way. It loses nothing exactly if the
bytes are a text. Otherwise a text at the beginning is shown as it is, and where no character begins
the longest truncated part, or a single byte, is shown as one mark. -/
theorem paths_are_shown_alike :
    (∀ path : Path,
      (ResolutionError.invalidPath path).message =
        "web identity token file path must be an absolute file path: " ++
          Text.display path.bytes ∧
      (∀ failure, (ResolutionError.file path failure).message =
        "cannot read web identity token file " ++ Text.display path.bytes ++ ": " ++
          failure.message) ∧
      (LogEntry.readingToken path).message = "reading web identity token file" ∧
      (LogEntry.readingToken path).fields = [("path", Text.display path.bytes)]) ∧
    (∀ path surroundings,
      let read := Surroundings.readToken path surroundings
      (∀ error, read.1 = .error error →
        error = .invalidPath path ∨ ∃ failure, error = .file path failure) ∧
      (read.2 = surroundings ∨ read.2 = surroundings.log (.readingToken path))) ∧
    (∀ bytes, Bytes.ofText (Text.display bytes) = bytes ↔ Text.WellFormed bytes) ∧
    (∀ path other : Path, Text.WellFormed path.bytes → Text.WellFormed other.bytes →
      (ResolutionError.invalidPath path).message = (ResolutionError.invalidPath other).message →
        path = other) ∧
    (∀ text rest, Text.display (Bytes.ofText text ++ rest) = text ++ Text.display rest) ∧
    ∀ bytes, bytes ≠ [] → ¬ Text.StartsWithCharacter bytes →
      (∃ dropped remaining, bytes = dropped ++ remaining ∧ Text.Dropped dropped remaining) ∧
      ∀ dropped remaining, bytes = dropped ++ remaining → Text.Dropped dropped remaining →
        Text.display bytes = "\uFFFD" ++ Text.display remaining := by
  refine ⟨fun path => ⟨rfl, fun failure => rfl, rfl, rfl⟩, fun path surroundings =>
    readToken_reports rfl, fun bytes => Text.ofText_display_iff, ?_, Text.display_ofText_append, ?_⟩
  · intro path other wellFormed wellFormed' same
    have shown : Text.display path.bytes = Text.display other.bytes :=
      (String.append_right_inj _).mp same
    have encoded := congrArg Bytes.ofText shown
    rw [Text.ofText_display_iff.mpr wellFormed, Text.ofText_display_iff.mpr wellFormed'] at encoded
    exact congrArg Path.mk encoded
  · rintro (_ | ⟨lead, rest⟩) nonempty noCharacter
    · exact absurd rfl nonempty
    · constructor
      · obtain ⟨dropped, remaining, -, whole, drops⟩ := Text.firstPiece_of_dropped noCharacter
        exact ⟨dropped, remaining, whole.symm, drops⟩
      · intro dropped remaining whole drops
        rw [whole] at noCharacter ⊢
        exact Text.display_of_dropped drops noCharacter

/-- The second byte of an unfinished sequence is no beginning of its own, and the text after the
sequence is shown again. -/
theorem unfinished_sequence_is_marked :
    let path : Path := ⟨[0xF0, 0x9F, 0x98] ++ Bytes.ofText "/a"⟩
    let start : Surroundings := .initial (.ofUnix 0 0) ⟨[]⟩
    (∃ error, (Surroundings.readToken path start).1 = .error error ∧
      (error = .invalidPath path ∨ ∃ failure, error = .file path failure)) ∧
    Text.display path.bytes = "\uFFFD" ++ "/a" ∧
    (ResolutionError.invalidPath (.ofText "a")).message ≠
      (ResolutionError.invalidPath (.ofText "b")).message := by
  intro path start
  have noCharacter : ¬ Text.StartsWithCharacter path.bytes :=
    Text.not_startsWithCharacter (rfl : Text.firstPiece 0xF0 [0x9F, 0x98, 0x2F, 0x61] = _)
  have drops : Text.Dropped [0xF0, 0x9F, 0x98] (Bytes.ofText "/a") := by
    obtain ⟨dropped, remaining, first, -, drops⟩ := Text.firstPiece_of_dropped noCharacter
    cases first
    exact drops
  obtain ⟨-, reports, -, injective, -, marked⟩ := paths_are_shown_alike
  refine ⟨⟨_, rfl, (reports path start).1 _ rfl⟩, ?_, ?_⟩
  · rw [(marked path.bytes (List.cons_ne_nil _ _) noCharacter).2 _ _ rfl drops, Text.display_ofText]
  · intro same
    have texts (text : String) : Text.WellFormed (Path.ofText text).bytes :=
      Text.wellFormed_iff.mpr ⟨text, rfl⟩
    have paths := injective _ _ (texts "a") (texts "b") same
    exact absurd paths (by decide)

end CredentialResolution
