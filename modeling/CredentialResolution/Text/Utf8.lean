/-
This file reads bytes as text: strictly, or with a mark in place of every ill-formed part.
-/

namespace CredentialResolution

abbrev Bytes := List UInt8

namespace Bytes

def ofText (text : String) : Bytes :=
  text.toUTF8.data.toList

/-- The bytes are a text exactly when they are its UTF-8 encoding. -/
def text? (bytes : Bytes) : Option String :=
  String.fromUTF8? ⟨bytes.toArray⟩

end Bytes

namespace Text

/-- A byte is admitted from the first bound to the second one, both included. -/
structure ByteRange where
  low : UInt8
  high : UInt8

def ByteRange.admits (range : ByteRange) (byte : UInt8) : Bool :=
  range.low ≤ byte && byte ≤ range.high

def trailing : ByteRange := ⟨0x80, 0xBF⟩

/-- A leading byte fixes which bytes may follow it in a well-formed sequence. -/
def followers? (lead : UInt8) : Option (List ByteRange) :=
  if lead ≤ 0x7F then some []
  else if lead < 0xC2 then none
  else if lead ≤ 0xDF then some [trailing]
  else if lead = 0xE0 then some [⟨0xA0, 0xBF⟩, trailing]
  else if lead = 0xED then some [⟨0x80, 0x9F⟩, trailing]
  else if lead ≤ 0xEF then some [trailing, trailing]
  else if lead = 0xF0 then some [⟨0x90, 0xBF⟩, trailing, trailing]
  else if lead ≤ 0xF3 then some [trailing, trailing, trailing]
  else if lead = 0xF4 then some [⟨0x80, 0x8F⟩, trailing, trailing]
  else none

/-- This function splits off the longest part that the ranges admit. -/
def splitAdmitted : List ByteRange → Bytes → Bytes × Bytes
  | range :: ranges, byte :: rest =>
    if range.admits byte then
      let (admitted, remaining) := splitAdmitted ranges rest
      (byte :: admitted, remaining)
    else ([], byte :: rest)
  | _, rest => ([], rest)

theorem splitAdmitted_append (ranges : List ByteRange) (bytes : Bytes) :
    (splitAdmitted ranges bytes).1 ++ (splitAdmitted ranges bytes).2 = bytes := by
  fun_induction splitAdmitted ranges bytes <;> simp_all

theorem length_splitAdmitted_le (ranges : List ByteRange) (bytes : Bytes) :
    (splitAdmitted ranges bytes).2.length ≤ bytes.length := by
  have := congrArg List.length (splitAdmitted_append ranges bytes)
  simp only [List.length_append] at this
  omega

/-- A leading byte carries the highest bits of the code; every other byte carries six bits. -/
def codeOf (lead : UInt8) (followers : Bytes) : Nat :=
  let highest :=
    match followers.length with
    | 0 => lead.toNat
    | 1 => lead.toNat - 0xC0
    | 2 => lead.toNat - 0xE0
    | _ => lead.toNat - 0xF0
  followers.foldl (fun code byte => code * 64 + (byte.toNat - 0x80)) highest

/-- A piece of bytes is one character or the longest ill-formed part at its place. -/
inductive Piece where
  | character (letter : Char)
  | illFormed (bytes : Bytes)

/-- The first piece starts with the leading byte and takes what may follow that byte. -/
def firstPiece (lead : UInt8) (rest : Bytes) : Piece × Bytes :=
  match followers? lead with
  | none => (.illFormed [lead], rest)
  | some ranges =>
    let (followers, remaining) := splitAdmitted ranges rest
    if followers.length = ranges.length then
      (.character (Char.ofNat (codeOf lead followers)), remaining)
    else (.illFormed (lead :: followers), remaining)

theorem length_firstPiece_le (lead : UInt8) (rest : Bytes) :
    (firstPiece lead rest).2.length ≤ rest.length := by
  unfold firstPiece
  split
  · exact Nat.le_refl _
  · next ranges _ =>
    have := length_splitAdmitted_le ranges rest
    dsimp only
    split <;> exact this

/-- This function cuts bytes into characters and ill-formed parts. -/
def pieces : Bytes → List Piece
  | [] => []
  | lead :: rest => (firstPiece lead rest).1 :: pieces (firstPiece lead rest).2
termination_by bytes => bytes.length
decreasing_by
  have := length_firstPiece_le lead rest
  simp only [List.length_cons]
  omega

def Piece.shown : Piece → Char
  | .character letter => letter
  | .illFormed _ => '\uFFFD'

/-- Every ill-formed part is shown as one U+FFFD. -/
def display (bytes : Bytes) : String :=
  String.ofList ((pieces bytes).map Piece.shown)

end Text

end CredentialResolution
