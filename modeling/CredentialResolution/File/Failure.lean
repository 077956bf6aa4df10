/-
This file holds the ways in which reading a file can fail and their texts.
-/

import CredentialResolution.Text.Outline
import CredentialResolution.Text.Quoted

namespace CredentialResolution

/-- These failures are reported by the operating system under a number. Reading files here gives
the named ones; the system tells the kind and the text of every other number. -/
inductive SystemFault where
  | notFound
  | permissionDenied
  | notADirectory
  | isADirectory
  | nameTooLong
  | tooManyLinks
  | other (number : Int) (kind message : String)
  deriving DecidableEq

namespace SystemFault

def named : List SystemFault :=
  [notFound, permissionDenied, notADirectory, isADirectory, nameTooLong, tooManyLinks]

def number : SystemFault → Int
  | notFound => 2
  | permissionDenied => 13
  | notADirectory => 20
  | isADirectory => 21
  | nameTooLong => 36
  | tooManyLinks => 40
  | other number _ _ => number

def ofNumber? (number : Int) : Option SystemFault :=
  named.find? fun fault => fault.number == number

def kind : SystemFault → String
  | notFound => "NotFound"
  | permissionDenied => "PermissionDenied"
  | notADirectory => "NotADirectory"
  | isADirectory => "IsADirectory"
  | nameTooLong => "InvalidFilename"
  | tooManyLinks => "FilesystemLoop"
  | other _ kind _ => kind

def message : SystemFault → String
  | notFound => "No such file or directory"
  | permissionDenied => "Permission denied"
  | notADirectory => "Not a directory"
  | isADirectory => "Is a directory"
  | nameTooLong => "File name too long"
  | tooManyLinks => "Too many levels of symbolic links"
  | other _ _ message => message

end SystemFault

/-- These kinds of failure come without a number and with the one text of their kind. -/
inductive BareFault where
  | notFound
  | permissionDenied
  | invalidData
  | unexpectedEnd
  | other (kind message : String)
  deriving DecidableEq

namespace BareFault

def named : List BareFault := [notFound, permissionDenied, invalidData, unexpectedEnd]

def kind : BareFault → String
  | notFound => "NotFound"
  | permissionDenied => "PermissionDenied"
  | invalidData => "InvalidData"
  | unexpectedEnd => "UnexpectedEof"
  | other kind _ => kind

def ofKind? (kind : String) : Option BareFault :=
  named.find? fun fault => fault.kind == kind

def message : BareFault → String
  | notFound => "entity not found"
  | permissionDenied => "permission denied"
  | invalidData => "invalid data"
  | unexpectedEnd => "unexpected end of file"
  | other _ message => message

end BareFault

/-- A failure with a text of its own may be of any kind. -/
inductive FileFailure where
  | system (fault : SystemFault)
  | bare (fault : BareFault)
  | custom (text : String) (kind : String := "Other")
  | notUtf8
  | nulInPath
  deriving DecidableEq

namespace FileFailure

def message : FileFailure → String
  | system fault => fault.message ++ " (os error " ++ toString fault.number ++ ")"
  | bare fault => fault.message
  | custom text _ => text
  | notUtf8 => "stream did not contain valid UTF-8"
  | nulInPath => "file name contained an unexpected NUL byte"

def outline (failure : FileFailure) : Text.Outline :=
  match failure with
  | system fault =>
    .record "Os" (.field "code" (.word (toString fault.number))
      (.field "kind" (.word fault.kind)
        (.field "message" (.word (Text.quoted fault.message)) .done)))
  | bare fault => .applied "Kind" (.word fault.kind)
  | custom text kind =>
    .record "Custom" (.field "kind" (.word kind)
      (.field "error" (.word (Text.quoted text)) .done))
  | notUtf8 =>
    .record "Error" (.field "kind" (.word "InvalidData")
      (.field "message" (.word (Text.quoted failure.message)) .done))
  | nulInPath =>
    .record "Error" (.field "kind" (.word "InvalidInput")
      (.field "message" (.word (Text.quoted failure.message)) .done))

end FileFailure

end CredentialResolution
