/-
This file writes texts and byte strings between quotation marks, on one line and with every
unprintable character escaped.
-/

import CredentialResolution.Text.Unprintable
import CredentialResolution.Text.Utf8

namespace CredentialResolution.Text

/-- The digits are lower-case and have no leading zero. -/
def codeEscape (character : Char) : List Char :=
  ['\\', 'u', '\x7B'] ++ Nat.toDigits 16 character.toNat ++ ['\x7D']

/-- A character is written as itself or as an escape that starts with a backslash. -/
def escaped (character : Char) : List Char :=
  if character = '\x00' then ['\\', '0']
  else if character = '\t' then ['\\', 't']
  else if character = '\r' then ['\\', 'r']
  else if character = '\n' then ['\\', 'n']
  else if character = '"' then ['\\', '"']
  else if character = '\\' then ['\\', '\\']
  else if isUnprintable character then codeEscape character
  else [character]

def quoted (text : String) : String :=
  String.ofList ('"' :: text.toList.flatMap escaped ++ ['"'])

/-- The byte has two upper-case digits. -/
def byteEscape (byte : UInt8) : List Char :=
  let digit (value : Nat) := (Nat.digitChar value).toUpper
  ['\\', 'x', digit (byte.toNat / 16), digit (byte.toNat % 16)]

def Piece.escaped : Piece → List Char
  | .character letter => Text.escaped letter
  | .illFormed bytes => bytes.flatMap byteEscape

/-- Characters are escaped as in a text and ill-formed bytes one by one. -/
def quotedBytes (bytes : Bytes) : String :=
  String.ofList ('"' :: (pieces bytes).flatMap Piece.escaped ++ ['"'])

end CredentialResolution.Text
