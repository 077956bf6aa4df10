/-
This file holds the shape of a shown value and writes it on one line or over several lines.
-/

namespace CredentialResolution.Text

mutual

/-- A shown value is a single word, a name applied to a value, or a name with named fields. -/
inductive Outline where
  | word (text : String)
  | applied (name : String) (argument : Outline)
  | record (name : String) (fields : OutlineFields)

/-- The fields stand in the order in which they are shown. -/
inductive OutlineFields where
  | done
  | field (name : String) (value : Outline) (rest : OutlineFields)

end

/-- An absent value is the word None and a present one is Some applied to it. -/
def Outline.optional : Option Outline → Outline
  | none => .word "None"
  | some value => .applied "Some" value

mutual

/-- This function writes the value on one line. -/
def Outline.line : Outline → String
  | .word text => text
  | .applied name argument => name ++ "(" ++ argument.line ++ ")"
  | .record name .done => name
  | .record name (.field first value rest) =>
    name ++ " \x7B " ++ first ++ ": " ++ value.line ++ rest.line ++ " \x7D"

/-- A comma stands before each of these fields. -/
def OutlineFields.line : OutlineFields → String
  | .done => ""
  | .field name value rest => ", " ++ name ++ ": " ++ value.line ++ rest.line

end

def indentation (depth : Nat) : String :=
  String.ofList (List.replicate (4 * depth) ' ')

mutual

/-- This function writes every argument and every field on a line of its own, one level deeper than
what holds it. -/
def Outline.block (depth : Nat) : Outline → String
  | .word text => text
  | .applied name argument =>
    name ++ "(\n" ++ indentation (depth + 1) ++ argument.block (depth + 1) ++ ",\n" ++
      indentation depth ++ ")"
  | .record name .done => name
  | .record name (.field first value rest) =>
    name ++ " \x7B\n" ++ indentation (depth + 1) ++ first ++ ": " ++ value.block (depth + 1) ++
      ",\n" ++ rest.block (depth + 1) ++ indentation depth ++ "\x7D"

def OutlineFields.block (depth : Nat) : OutlineFields → String
  | .done => ""
  | .field name value rest =>
    indentation depth ++ name ++ ": " ++ value.block depth ++ ",\n" ++ rest.block depth

end

/-- A value is shown on one line or over several lines. -/
inductive Layout where
  | line
  | block
  deriving DecidableEq

def Outline.shown (layout : Layout) (outline : Outline) : String :=
  match layout with
  | .line => outline.line
  | .block => outline.block 0

end CredentialResolution.Text
