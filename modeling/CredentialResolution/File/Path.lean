/-
This file holds file paths, which are arbitrary bytes.
-/

import CredentialResolution.Text.Quoted

namespace CredentialResolution

structure Path where
  bytes : Bytes
  deriving DecidableEq

namespace Path

def ofText (text : String) : Path := ⟨Bytes.ofText text⟩

def separator : UInt8 := 0x2F

def isAbsolute (path : Path) : Bool :=
  path.bytes.head? == some separator

/-- Ill-formed parts of the path are marked in its text. -/
def display (path : Path) : String := Text.display path.bytes

def quoted (path : Path) : String := Text.quotedBytes path.bytes

/-- The parts stand between separators and may be empty. -/
def components (path : Path) : List Bytes :=
  path.bytes.splitOn separator

end Path

end CredentialResolution
