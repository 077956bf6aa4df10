/-
This file says which characters are blank and removes them from both ends of a text.
-/

namespace CredentialResolution.Text

/-- These are the characters with the Unicode property White_Space. -/
def isBlank (character : Char) : Bool :=
  let code := character.toNat
  (0x09 ≤ code && code ≤ 0x0D) || code == 0x20 || code == 0x85 || code == 0xA0 ||
    code == 0x1680 || (0x2000 ≤ code && code ≤ 0x200A) || code == 0x2028 || code == 0x2029 ||
    code == 0x202F || code == 0x205F || code == 0x3000

def dropBlank (characters : List Char) : List Char :=
  characters.dropWhile isBlank

/-- This function removes the blank characters before the first and after the last other one. -/
def trimList (characters : List Char) : List Char :=
  (dropBlank (dropBlank characters).reverse).reverse

def trim (text : String) : String :=
  String.ofList (trimList text.toList)

end CredentialResolution.Text
